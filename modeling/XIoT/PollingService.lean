import XIoT.TagRegistry
import XIoT.System
import XIoT.Lib.Runs
import XIoT.Lib.TaskPool
import Mathlib.Logic.Function.Basic
import Mathlib.Tactic.SplitIfs

/-!
# The polling services

`publisher.cpp`, `acquisition.cpp` and `nextion_service.cpp` share one life
cycle: `*_start` sets `RUNNING` and creates a task, `*_stop` sets `STOPPED`, and
the task compares the state with `RUNNING` between two passes of its loop.
-/

namespace XIoT.Polling

open Lib.TaskPool Lib.Runs

/-- `publisher_state_t`, `acq_state_t` and `nextion_state_t`. -/
inductive PollingState where
  | deinitialized
  | initialized
  | running
  | stopped
  deriving DecidableEq, Repr

/-- Where the three services differ. -/
structure Variant where
  /-- `*_init` creates a queue, and fails when there is no memory for it. -/
  createsQueue : Bool
  /-- `*_start` writes `RUNNING` once more after the creation. -/
  confirmsRunning : Bool
  /-- The tags are swept only when the scan interval has elapsed. -/
  sweepsWhenDue : Bool
  /-- The pass goes on after its wait: a response received there is applied. -/
  appliesAfterWait : Bool

def publisher : Variant := ⟨false, false, false, false⟩

def acquisition : Variant := ⟨true, true, true, true⟩

def nextion : Variant := ⟨false, false, false, false⟩

/-- Where a task stands in `while (gState == RUNNING)`. -/
inductive LoopPc where
  | test
  | item (i : Nat)
  | wait
  | apply
  | left
  deriving DecidableEq

/-- How far `*_start` has come. -/
inductive StartPc where
  | idle
  | creating
  | createFailed
  | created
  deriving DecidableEq

structure Service where
  gState : PollingState
  gTaskHandle : Option TaskHandle
  tasks : Pool LoopPc
  call : StartPc
  returned : Option SysStatus

/-- Before the first call. -/
def Service.boot : Service := ⟨.deinitialized, none, .empty, .idle, none⟩

/-! ## The calls -/

/-- `publisher_init`, `acquisition_init`, `nextion_init`. -/
def pollingInit (v : Variant) (s : Service) (cfgGiven queueMade : Bool) : Service :=
  if s.gState ≠ .deinitialized then { s with returned := some .invalidState }
  else if !cfgGiven then { s with returned := some .invalidParam }
  else if v.createsQueue && !queueMade then { s with returned := some .noMemory }
  else { s with gState := .initialized, returned := some .ok }

/-- `*_start` as far as the write of `RUNNING`. -/
def pollingStart (s : Service) : Service :=
  if s.gState ≠ .initialized ∧ s.gState ≠ .stopped then { s with returned := some .invalidState }
  else { s with gState := .running, call := .creating }

/-- `xTaskCreatePinnedToCore` of `*_start`. -/
def pollingCreate (s : Service) (made : Bool) : Service :=
  if made then
    { s with tasks := s.tasks.spawn .test, gTaskHandle := some s.tasks.next, call := .created }
  else { s with call := .createFailed }

/-- What `*_start` does once the creation has returned. -/
def pollingFinish (v : Variant) (s : Service) : Option Service :=
  match s.call with
  | .createFailed =>
    some { s with gState := .stopped, call := .idle, returned := some .noMemory }
  | .created =>
    some { s with
      gState := if v.confirmsRunning then .running else s.gState
      call := .idle
      returned := some .ok }
  | _ => none

/-- `publisher_stop`, `acquisition_stop`, `nextion_stop`. -/
def pollingStop (s : Service) : Service :=
  if s.gState ≠ .running then { s with returned := some .invalidState }
  else { s with gState := .stopped, returned := some .ok }

/-! ## The task -/

/-- `publisherTask`, `acquisition_task`, `nextionTask`: one step of the loop. `due`
is the answer of `now - lastScanTime >= gAcqScanInterval`. -/
def loopStep (v : Variant) (reg : Registry) (gState : PollingState) (due : Bool) : LoopPc → LoopPc
  | .test =>
    if gState = .running then
      if v.sweepsWhenDue && !due then .wait else .item 0
    else .left
  | .item i => if i < reg.tagCount then .item (i + 1) else .wait
  | .wait => if v.appliesAfterWait then .apply else .test
  | .apply => .test
  | .left => .left

/-- Outside the loop a task clears `gTaskHandle` and deletes itself. -/
def pollingTask (v : Variant) (reg : Registry) (s : Service) (h : TaskHandle) (due : Bool) :
    Option Service :=
  match s.tasks.task h with
  | none => none
  | some .left => some { s with tasks := s.tasks.delete h, gTaskHandle := none }
  | some pc => some { s with tasks := s.tasks.set h (loopStep v reg s.gState due pc) }

/-! ## Steps -/

inductive PollingStep where
  | init (cfgGiven queueMade : Bool)
  | start
  | create (made : Bool)
  | finish
  | stop
  | task (h : TaskHandle) (due : Bool)
  deriving DecidableEq

/-- The calls of one service come one after the other, its tasks step at any time. -/
def pollingStep (v : Variant) (reg : Registry) (s : Service) : PollingStep → Option Service
  | .init cfgGiven queueMade =>
    if s.call = .idle then some (pollingInit v s cfgGiven queueMade) else none
  | .start => if s.call = .idle then some (pollingStart s) else none
  | .create made => if s.call = .creating then some (pollingCreate s made) else none
  | .finish => pollingFinish v s
  | .stop => if s.call = .idle then some (pollingStop s) else none
  | .task h due => pollingTask v reg s h due

inductive ServiceName where
  | publisher
  | acquisition
  | nextion
  deriving DecidableEq, Repr

def variantOf : ServiceName → Variant
  | .publisher => publisher
  | .acquisition => acquisition
  | .nextion => nextion

/-- The three services side by side. -/
abbrev System := ServiceName → Service

def boot : System := fun _ => .boot

def systemStep (reg : Registry) (sys : System) (a : ServiceName × PollingStep) : Option System :=
  (pollingStep (variantOf a.1) reg (sys a.1) a.2).map fun s => Function.update sys a.1 s

/-! ## Tasks that go on -/

/-- The task is going to execute (the rest of) a pass of its loop body. -/
def GoesOn (v : Variant) (gState : PollingState) : LoopPc → Prop
  | .item _ => True
  | .apply => True
  | .wait => v.appliesAfterWait = true ∨ gState = .running
  | .test => gState = .running
  | .left => False

/-- The task has not found the state changed yet. -/
def InLoop (pc : LoopPc) : Prop := pc ≠ .left

/-- No service has two tasks that are going to execute their loop body. -/
def SingleWorkers (sys : System) : Prop :=
  ∀ n, (sys n).tasks.AtMostOne (GoesOn (variantOf n) (sys n).gState)

/-- A task is created only when every earlier one of the service has left its loop. -/
def CreatesAlone (sys : System) (a : ServiceName × PollingStep) : Prop :=
  a.2 = .create true → ∀ h pc, (sys a.1).tasks.task h = some pc → ¬ InLoop pc

theorem GoesOn.inLoop {v : Variant} {gState : PollingState} {pc : LoopPc}
    (h : GoesOn v gState pc) : InLoop pc := by
  rintro rfl
  exact h

theorem InLoop.goesOn {v : Variant} {pc : LoopPc} (h : InLoop pc) : GoesOn v .running pc := by
  cases pc with
  | test => exact rfl
  | item i => trivial
  | wait => exact Or.inr rfl
  | apply => trivial
  | left => exact h rfl

/-! ## One step of a service -/

/-- One task in the loop at most, and `*_start` creates in `RUNNING`. -/
structure Inv (s : Service) : Prop where
  single : s.tasks.AtMostOne InLoop
  creating : s.call = .creating → s.gState = .running

theorem inv_boot : Inv .boot := ⟨Pool.atMostOne_empty _, fun h => by cases h⟩

/-- The calls but for a successful creation leave the tasks alone. -/
theorem Inv.of_same_tasks {s s' : Service} (hs : Inv s) (htasks : s'.tasks = s.tasks)
    (hcall : s'.call = .creating → s'.gState = .running) : Inv s' := by
  refine ⟨?_, hcall⟩
  rw [htasks]
  exact hs.single

theorem inv_init {v : Variant} {s : Service} {cfgGiven queueMade : Bool} (hs : Inv s)
    (hidle : s.call = .idle) : Inv (pollingInit v s cfgGiven queueMade) := by
  have hsame : (pollingInit v s cfgGiven queueMade).tasks = s.tasks ∧
      (pollingInit v s cfgGiven queueMade).call = s.call := by
    rw [pollingInit]
    split_ifs <;> exact ⟨rfl, rfl⟩
  refine hs.of_same_tasks hsame.1 fun hcall => ?_
  rw [hsame.2, hidle] at hcall
  cases hcall

theorem inv_start {s : Service} (hs : Inv s) : Inv (pollingStart s) := by
  rw [pollingStart]
  split
  · exact hs.of_same_tasks rfl hs.creating
  · exact hs.of_same_tasks rfl fun _ => rfl

theorem inv_create {s : Service} {made : Bool} (hs : Inv s)
    (halone : made = true → ∀ h pc, s.tasks.task h = some pc → ¬ InLoop pc) :
    Inv (pollingCreate s made) := by
  cases made with
  | false => exact hs.of_same_tasks rfl fun h => by cases h
  | true => exact ⟨Pool.AtMostOne.spawn (halone rfl), fun h => by cases h⟩

theorem inv_finish {v : Variant} {s s' : Service} (hs : Inv s) (h : pollingFinish v s = some s') :
    Inv s' := by
  rw [pollingFinish] at h
  split at h
  · obtain rfl := Option.some.inj h
    exact hs.of_same_tasks rfl fun h => by cases h
  · obtain rfl := Option.some.inj h
    exact hs.of_same_tasks rfl fun h => by cases h
  · cases h

theorem inv_stop {s : Service} (hs : Inv s) (hidle : s.call = .idle) : Inv (pollingStop s) := by
  rw [pollingStop]
  split
  · exact hs.of_same_tasks rfl hs.creating
  · refine hs.of_same_tasks rfl fun hcall => ?_
    have hcall : s.call = .creating := hcall
    rw [hidle] at hcall
    cases hcall

theorem inv_task {v : Variant} {reg : Registry} {s s' : Service} {h : TaskHandle} {due : Bool}
    (hs : Inv s) (ht : pollingTask v reg s h due = some s') : Inv s' := by
  rw [pollingTask] at ht
  split at ht
  · cases ht
  · obtain rfl := Option.some.inj ht
    exact ⟨hs.single.delete, hs.creating⟩
  · rename_i pc hne hpc
    obtain rfl := Option.some.inj ht
    have hin : InLoop pc := hne
    exact ⟨hs.single.set hpc fun _ => hin, hs.creating⟩

theorem inv_pollingStep {v : Variant} {reg : Registry} {s s' : Service} {a : PollingStep}
    (hs : Inv s) (halone : a = .create true → ∀ h pc, s.tasks.task h = some pc → ¬ InLoop pc)
    (ha : pollingStep v reg s a = some s') : Inv s' := by
  cases a with
  | init cfgGiven queueMade =>
    obtain ⟨hidle, rfl⟩ := of_guarded ha
    exact inv_init hs hidle
  | start =>
    obtain ⟨-, rfl⟩ := of_guarded ha
    exact inv_start hs
  | create made =>
    obtain ⟨-, rfl⟩ := of_guarded ha
    exact inv_create hs fun hmade => halone (by rw [hmade])
  | finish => exact inv_finish hs ha
  | stop =>
    obtain ⟨hidle, rfl⟩ := of_guarded ha
    exact inv_stop hs hidle
  | task h due => exact inv_task hs ha

/-- A task created next to one that is still in the loop makes two that go on. -/
theorem two_workers_of_create {v : Variant} {reg : Registry} {s s' : Service} {h : TaskHandle}
    {pc : LoopPc} (hs : Inv s) (hpc : s.tasks.task h = some pc) (hin : InLoop pc)
    (ha : pollingStep v reg s (.create true) = some s') :
    ¬ s'.tasks.AtMostOne (GoesOn v s'.gState) := by
  obtain ⟨hcall, rfl⟩ := of_guarded ha
  have hrunning : (pollingCreate s true).gState = .running := hs.creating hcall
  rw [hrunning]
  exact Pool.not_atMostOne_spawn hpc hin.goesOn (InLoop.goesOn fun h => by cases h)

/-! ## Runs of the three services -/

theorem systemStep_cases {reg : Registry} {sys sys' : System} {a : ServiceName × PollingStep}
    (ha : systemStep reg sys a = some sys') :
    ∃ s', pollingStep (variantOf a.1) reg (sys a.1) a.2 = some s' ∧
      sys' a.1 = s' ∧ ∀ n, n ≠ a.1 → sys' n = sys n := by
  obtain ⟨s', hs', rfl⟩ := Option.map_eq_some_iff.mp ha
  exact ⟨s', hs', Function.update_self .., fun n hn => Function.update_of_ne hn ..⟩

theorem inv_systemStep {reg : Registry} (sys : System) (a : ServiceName × PollingStep)
    (sys' : System) (hs : ∀ n, Inv (sys n)) (halone : CreatesAlone sys a)
    (ha : systemStep reg sys a = some sys') : ∀ n, Inv (sys' n) := by
  obtain ⟨s', hs', hsame, hother⟩ := systemStep_cases ha
  intro n
  by_cases hn : n = a.1
  · subst n
    rw [hsame]
    exact inv_pollingStep (hs a.1) halone hs'
  · rw [hother n hn]
    exact hs n

theorem two_workers_of_not_alone {reg : Registry} (sys : System) (a : ServiceName × PollingStep)
    (sys' : System) (hs : ∀ n, Inv (sys n)) (hnot : ¬ CreatesAlone sys a)
    (ha : systemStep reg sys a = some sys') : ¬ SingleWorkers sys' := by
  obtain ⟨s', hs', hsame, -⟩ := systemStep_cases ha
  obtain ⟨hcreate, hlive⟩ := Classical.not_imp.mp hnot
  obtain ⟨h, hlive⟩ := not_forall.mp hlive
  obtain ⟨pc, hlive⟩ := not_forall.mp hlive
  obtain ⟨hpc, hin⟩ := Classical.not_imp.mp hlive
  rw [hcreate] at hs'
  intro hsingle
  have hsingle := hsingle a.1
  rw [hsame] at hsingle
  exact two_workers_of_create (hs a.1) hpc (not_not.mp hin) hs' hsingle

/-- **At most one worker per polling service, exactly.** A run never has two tasks of
a service that are going to execute their loop body if and only if each creation of
a task finds every earlier task of that service out of its loop. -/
theorem single_workers_iff (reg : Registry) (as : List (ServiceName × PollingStep)) :
    Always (systemStep reg) SingleWorkers boot as ↔
      Throughout (systemStep reg) CreatesAlone boot as :=
  always_iff_throughout
    (fun _ hs n => (hs n).single.mono fun _ h => h.inLoop)
    inv_systemStep two_workers_of_not_alone (fun _ => inv_boot) as

/-- The publisher is stopped and started while its task waits, as a quick reconnect does. -/
def quickReconnect : List (ServiceName × PollingStep) :=
  [(.publisher, .init true true), (.publisher, .start), (.publisher, .create true),
   (.publisher, .finish), (.publisher, .task 0 true), (.publisher, .stop), (.publisher, .start),
   (.publisher, .create true), (.publisher, .finish), (.publisher, .task 1 true)]

/-- After a quick reconnect two tasks publish the table. -/
theorem two_publishers_after_quick_reconnect :
    ¬ ∀ (reg : Registry) (as : List (ServiceName × PollingStep)),
      Always (systemStep reg) SingleWorkers boot as := by
  intro hall
  have hsingle := (hall gTags quickReconnect).last rfl .publisher
  have heq : 0 = 1 := hsingle 0 1 (.item 0) (.item 0) rfl rfl trivial trivial
  omega

end XIoT.Polling
