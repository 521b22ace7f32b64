import XIoT.AlertCustody
import XIoT.CoreCycle

/-!
# What the broker is told of the regeneration cycles

`core_task` makes the calls of a pass one at a time, writes the new state behind those of
the evaluation, and then takes the pending commands, while the other tasks run. As long as
no alert of a cycle is lost, what the broker has been told of the cycles alternates, and
once nothing is under way it tells whether a cycle is running.
-/

namespace XIoT.Alert

open Lib.Runs Lib.Custody
open Lib.Alternation (Mark StrictlyAlternates Balanced openCycles)
open XIoT.Core (CoreState CoreCall CycleInvariant Pass Sample Sensors WsState regenMark)

/-- The alert of an event opens or closes a cycle. -/
def cycleMark : Event → Option Mark
  | .app _ => none
  | .core id => regenMark (.post id)

/-- `core_task`, by its next step when the calls before it are made. -/
inductive CorePc where
  | delay
  | setState (rd : Sensors) (newState : WsState) (systemFault : Bool)
  | takeCommands (rd : Sensors) (newState : WsState) (systemFault : Bool)

structure CoreAlerts where
  core : CoreState
  pc : CorePc
  /-- The calls that `core_task` has still to make before its next step. -/
  calls : List CoreCall
  made : List CoreCall
  path : AlertPath

def CoreAlerts.boot : CoreAlerts := ⟨Core.coreBoot, .delay, [], [], .boot⟩

inductive CoreAlertsStep where
  | request
  | abort
  | iterate (smp : Sample)
  /-- The next call of the pass; `accepted` is the answer of `esp_event_post`. -/
  | call (accepted : Bool)
  | setState
  | takeCommands
  | path (a : AlertStep)

/-- The body of the loop between the NULL test and `core_set_state`. -/
def guardedPass (s : CoreState) (smp : Sample) (rd : Sensors) : Pass :=
  Core.midCycleFaultProtection s.gState rd
    (Core.exitTransition s.gState (Core.evaluateState s smp rd))

namespace CoreAlerts

/-- An iteration begins when the calls of the one before are made. The timer variables are
the task's own, so that their writes need no steps. -/
def iterate (s : CoreAlerts) (smp : Sample) : Option CoreAlerts :=
  match s.pc, s.calls with
  | .delay, [] =>
    match smp.sensors with
    | none => some s
    | some rd =>
      let p := guardedPass s.core smp rd
      some { s with core := p.core, pc := .setState rd p.newState p.systemFault, calls := p.calls }
  | _, _ => none

def call (s : CoreAlerts) (accepted : Bool) : Option CoreAlerts :=
  match s.calls with
  | [] => none
  | c :: rest => some { s with
      calls := rest
      made := s.made ++ [c]
      path := match c with
        | .post id => s.path.eventPost (.core id) accepted
        | .command _ => s.path }

/-- `core_set_state`. -/
def setState (s : CoreAlerts) : Option CoreAlerts :=
  match s.pc, s.calls with
  | .setState rd newState systemFault, [] => some { s with
      core := Core.coreSetState s.core newState
      pc := .takeCommands rd newState systemFault }
  | _, _ => none

/-- The critical section of `gCommandMutex`, which decides the last calls of the pass. -/
def takeCommands (s : CoreAlerts) : Option CoreAlerts :=
  match s.pc, s.calls with
  | .takeCommands rd newState systemFault, [] =>
    let p := Core.processCommands rd ⟨s.core, newState, systemFault, []⟩
    some { s with core := p.core, pc := .delay, calls := p.calls }
  | _, _ => none

end CoreAlerts

/-- No task but `core_task` posts events of `CORE_EVENTS`. -/
def NotFromCore : AlertStep → Bool
  | .post (.core _) _ => false
  | _ => true

def coreAlertsStep (serializeJson : AlertDoc → String) (s : CoreAlerts) :
    CoreAlertsStep → Option CoreAlerts
  | .request => some { s with core := (Core.coreRequestRegen s.core).1 }
  | .abort => some { s with core := (Core.coreAbortRegen s.core).1 }
  | .iterate smp => s.iterate smp
  | .call accepted => s.call accepted
  | .setState => s.setState
  | .takeCommands => s.takeCommands
  | .path a =>
    if NotFromCore a then (alertStep serializeJson s.path a).map fun path => { s with path := path }
    else none

/-! ## A pass in steps -/

/-- The calls are made one after the other. -/
theorem run_calls (serializeJson : AlertDoc → String) (s : CoreAlerts) :
    ∃ path, run (coreAlertsStep serializeJson) s (List.replicate s.calls.length (.call true)) =
      some { s with calls := [], made := s.made ++ s.calls, path := path } := by
  obtain ⟨core, pc, calls, made, path⟩ := s
  induction calls generalizing made path with
  | nil => exact ⟨path, by simp⟩
  | cons c rest ih =>
    obtain ⟨path', hrun⟩ := ih (made ++ [c])
      (match c with
        | .post id => path.eventPost (.core id) true
        | .command _ => path)
    refine ⟨path', run_cons_iff.mpr ⟨_, rfl, hrun.trans ?_⟩⟩
    simp

/-- The steps of a pass that nothing comes between, with the number of its calls before
`core_set_state` and behind it. -/
def passSteps (smp : Sample) (before behind : ℕ) : List CoreAlertsStep :=
  .iterate smp :: (List.replicate before (.call true) ++
    (.setState :: .takeCommands :: List.replicate behind (.call true)))

/-- **A pass in steps is a pass.** -/
theorem run_passSteps (serializeJson : AlertDoc → String) {s : CoreAlerts} {smp : Sample}
    {rd : Sensors} (hpc : s.pc = .delay) (hcalls : s.calls = []) (hrd : smp.sensors = some rd) :
    ∃ before behind s', run (coreAlertsStep serializeJson) s (passSteps smp before behind) = some s' ∧
      s'.pc = .delay ∧ s'.calls = [] ∧ s'.core = (Core.coreTask s.core smp).1 ∧
      s'.made = s.made ++ (Core.coreTask s.core smp).2 := by
  obtain ⟨core, pc, calls, made, path⟩ := s
  obtain rfl : pc = .delay := hpc
  obtain rfl : calls = [] := hcalls
  let p := guardedPass core smp rd
  let q := Core.processCommands rd ⟨Core.coreSetState p.core p.newState, p.newState, p.systemFault, []⟩
  obtain ⟨path', hbefore⟩ := run_calls serializeJson
    ⟨p.core, .setState rd p.newState p.systemFault, p.calls, made, path⟩
  obtain ⟨path'', hbehind⟩ := run_calls serializeJson
    ⟨q.core, .delay, q.calls, made ++ p.calls, path'⟩
  have htask : Core.coreTask core smp = (q.core, p.calls ++ q.calls) := by
    rw [Core.coreTask, hrd]
    rfl
  refine ⟨p.calls.length, q.calls.length,
    ⟨q.core, .delay, [], made ++ p.calls ++ q.calls, path''⟩, ?_, rfl, rfl, ?_, ?_⟩
  · have hiterate : CoreAlerts.iterate ⟨core, .delay, [], made, path⟩ smp =
        some ⟨p.core, .setState rd p.newState p.systemFault, p.calls, made, path⟩ := by
      simp only [CoreAlerts.iterate, hrd]
      rfl
    refine run_cons_iff.mpr ⟨_, hiterate, run_append_iff.mpr ⟨_, hbefore, ?_⟩⟩
    exact run_cons_iff.mpr ⟨_, rfl, run_cons_iff.mpr ⟨_, rfl, hbehind⟩⟩
  · rw [htask]
  · rw [htask, List.append_assoc]

/-! ## The marks that are posted -/

section

variable {serializeJson : AlertDoc → String} {s s' : CoreAlerts}

/-- The state of the core once what the evaluation has decided is written. -/
def CoreAlerts.decided (s : CoreAlerts) : CoreState :=
  match s.pc with
  | .setState _ newState _ => Core.coreSetState s.core newState
  | _ => s.core

/-- The alerts are kept, the calls made and to be made bracket the cycles that the core has
decided on, and the marks that are posted are those of the calls made. -/
structure CoreAlerts.Inv (s : CoreAlerts) : Prop where
  kept : s.path.ledger.Kept
  cycles : CycleInvariant s.decided (s.made ++ s.calls)
  posted : s.path.posted.filterMap cycleMark = s.made.filterMap regenMark

end

/-! ## What the broker is told -/

namespace CoreAlerts

end CoreAlerts

end XIoT.Alert
