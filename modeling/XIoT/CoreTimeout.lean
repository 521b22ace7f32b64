import XIoT.CoreInterlock
import XIoT.Lib.Runs

/-!
# The STOP of an expired cycle

`send_modbus_command` looks the tag `cmd_regen` up and posts to the dispatcher; when either
fails it logs an error and returns. The cycle timer sets `gRegenStopping` in any case and
is not tried again. A run is extended by what becomes of every command.
-/

namespace XIoT.Core

open Lib.Runs

/-- What a call of `protocol_dispatcher_post` finds: the state of the dispatcher, and room in
its queue within the 500 ticks. -/
structure PostAnswer where
  gState : DispatcherState
  room : Bool
  deriving DecidableEq, Repr

def postStatus (ans : PostAnswer) (request : ProtocolRequest) : SysStatus :=
  (ProtocolDispatcher.protocolDispatcherPost ⟨ans.gState, []⟩ (some request) ans.room).2

/-- What a call of the core comes to. -/
inductive LogEntry where
  | event (id : CoreEvent)
  | noTag
  | posted (request : ProtocolRequest) (status : SysStatus)
  deriving DecidableEq

/-- `event_post` or `send_modbus_command`. -/
def performCall (reg : Registry) (ans : PostAnswer) : CoreCall → LogEntry
  | .post id => .event id
  | .command state =>
    match modbusCommandRequest reg state with
    | none => .noTag
    | some request => .posted request (postStatus ans request)

/-- The core with everything its calls came to, oldest first. -/
structure TimedCore where
  core : CoreState
  log : List LogEntry

def TimedCore.boot : TimedCore := ⟨coreBoot, []⟩

/-- The `i`-th call of an iteration finds the `i`-th of the answers. -/
structure TimedStep where
  step : CoreStep
  answers : Nat → PostAnswer

def timedStep (reg : Registry) (s : TimedCore) (a : TimedStep) : Option TimedCore :=
  some {
    core := (coreStep s.core a.step).1
    log := s.log ++ (coreStep s.core a.step).2.mapIdx fun i call => performCall reg (a.answers i) call }

/-- A STOP for the tag `cmd_regen`. -/
def IsStop (request : ProtocolRequest) : Prop :=
  request.operation = .write ∧ request.value.bv = false ∧
    request.tag.bind TagConfig.name = some "cmd_regen"

instance (request : ProtocolRequest) : Decidable (IsStop request) :=
  inferInstanceAs (Decidable (_ ∧ _))

/-- Whether a STOP has been accepted in the cycle, after one more entry. -/
def trackStop (accepted : Bool) : LogEntry → Bool
  | .event .regenStarted => false
  | .event _ => accepted
  | .noTag => accepted
  | .posted request status => accepted || decide (IsStop request ∧ status = .ok)

/-- A STOP has been accepted since the current cycle started. -/
def stopAccepted (log : List LogEntry) : Bool := log.foldl trackStop false

/-- The latched timeout has reached the dispatcher. -/
def StopNotGivenUp (s : TimedCore) : Prop :=
  s.core.gRegenStopping = true → stopAccepted s.log = true

/-- The dispatcher takes a request. -/
def PostAnswer.Accepts (ans : PostAnswer) : Prop := ans.gState = .running ∧ ans.room = true

/-- The cycle timer sets `gRegenStopping` in a pass that samples the machine running. -/
def TimerLatches (s : CoreState) (smp : Sample) : Prop :=
  maxRegenTimeMs ≤ smp.timerMillis - (cycleStart s smp.startMillis).1.gRegenStartTime ∧
    (cycleStart s smp.startMillis).1.gRegenStopping = false

instance (s : CoreState) (smp : Sample) : Decidable (TimerLatches s smp) :=
  inferInstanceAs (Decidable (_ ∧ _))

/-- The position of the timer's STOP among the calls: behind that of `regenStarted`. -/
def timerCall (s : CoreState) : Nat := if s.gState = .regenRunning then 0 else 1

/-- When the timer latches, a STOP has been accepted earlier in the cycle, or `cmd_regen` is
in the registry and the dispatcher takes the timer's own STOP or that of an abort taken by
the same iteration. -/
def LatchesAccepted (reg : Registry) (s : TimedCore) (a : TimedStep) : Prop :=
  ∀ smp rd, a.step = .iterate smp → smp.sensors = some rd → rd.verdict = .running →
    TimerLatches s.core smp →
    (s.core.gState = .regenRunning ∧ stopAccepted s.log = true) ∨
      ((reg.tagFindByName (some "cmd_regen")).isSome ∧
        ((a.answers (timerCall s.core)).Accepts ∨
          (s.core.gAbortPending = true ∧ (a.answers (timerCall s.core + 1)).Accepts)))

/-! ## What the calls come to -/

theorem postStatus_eq_ok (ans : PostAnswer) (request : ProtocolRequest) :
    postStatus ans request = .ok ↔ ans.Accepts := by
  unfold postStatus ProtocolDispatcher.protocolDispatcherPost PostAnswer.Accepts
  by_cases hrunning : ans.gState = .running
  · cases hroom : ans.room <;> simp [hrunning]
  · simp [hrunning]

/-- A STOP gets through exactly when the tag is there and the dispatcher takes it. -/
theorem trackStop_stop (reg : Registry) (ans : PostAnswer) (accepted : Bool) :
    trackStop accepted (performCall reg ans (.command false)) = true ↔
      accepted = true ∨ ((reg.tagFindByName (some "cmd_regen")).isSome ∧ ans.Accepts) := by
  unfold performCall modbusCommandRequest
  cases hfind : reg.tagFindByName (some "cmd_regen") with
  | none => simp [trackStop]
  | some tag =>
    have hname : tag.name = some "cmd_regen" := Registry.name_of_tagFindByName hfind
    have hstop : IsStop ⟨some tag, .write, TagValue.zero.setBv false⟩ :=
      ⟨rfl, TagValue.bv_setBv _ _, hname⟩
    simp [trackStop, hstop, postStatus_eq_ok]

/-- A START changes nothing. -/
theorem trackStop_start (reg : Registry) (ans : PostAnswer) (accepted : Bool) :
    trackStop accepted (performCall reg ans (.command true)) = accepted := by
  unfold performCall modbusCommandRequest
  cases reg.tagFindByName (some "cmd_regen") with
  | none => rfl
  | some tag =>
    have hstart : ¬ IsStop ⟨some tag, .write, TagValue.zero.setBv true⟩ := by
      rintro ⟨-, hvalue, -⟩
      rw [TagValue.bv_setBv] at hvalue
      cases hvalue
    simp [trackStop, hstart]

/-- What a list of calls does to the flag; the `i`-th call finds the answer `answers i`. -/
def trackCalls (reg : Registry) (answers : Nat → PostAnswer) (calls : List CoreCall)
    (accepted : Bool) : Bool :=
  (calls.mapIdx fun i call => performCall reg (answers i) call).foldl trackStop accepted

theorem trackCalls_cons (reg : Registry) (answers : Nat → PostAnswer) (call : CoreCall)
    (calls : List CoreCall) (accepted : Bool) :
    trackCalls reg answers (call :: calls) accepted =
      trackCalls reg (fun i => answers (i + 1)) calls
        (trackStop accepted (performCall reg (answers 0) call)) := by
  rw [trackCalls, List.mapIdx_cons]
  rfl

theorem stopAccepted_timedStep {reg : Registry} {s s' : TimedCore} {a : TimedStep}
    (ha : timedStep reg s a = some s') :
    s'.core = (coreStep s.core a.step).1 ∧
      stopAccepted s'.log =
        trackCalls reg a.answers (coreStep s.core a.step).2 (stopAccepted s.log) := by
  obtain rfl := Option.some.inj ha
  exact ⟨rfl, List.foldl_append⟩

/-! ## One iteration -/

theorem cycleTimer_cycleStart (s : CoreState) (smp : Sample) :
    cycleTimer (cycleStart s smp.startMillis).1 smp.timerMillis =
      if TimerLatches s smp then
        ({ (cycleStart s smp.startMillis).1 with gRegenStopping := true }, [.command false])
      else ((cycleStart s smp.startMillis).1, []) := rfl

/-- The calls of a pass that samples the machine running. -/
theorem running_calls (s : CoreState) (smp : Sample) {rd : Sensors} (hv : rd.verdict = .running) :
    (corePass s smp rd).calls =
      (if s.gState = .regenRunning then [] else [.post .regenStarted]) ++
        (if TimerLatches s smp then [.command false] else []) ++
        (if s.gAbortPending = true then [.command false] else []) := by
  have hx : exitCalls s rd.verdict = [] := by rw [exitCalls, if_neg fun h => h.2 hv]
  have hm : midCycleCalls s rd = [] := by
    rw [midCycleCalls, if_neg fun h => by rw [hv] at h; cases h.1]
  have hc : commandCalls s rd.verdict = if s.gAbortPending = true then [.command false] else [] := by
    rw [commandCalls, if_pos hv, hv]
    by_cases hpending : s.gAbortPending = true
    · rw [if_pos hpending, if_pos hpending]
    · rw [if_neg hpending, if_neg hpending, if_neg fun h => by cases h.2]
  have hstart : (cycleStart s smp.startMillis).2 =
      if s.gState = .regenRunning then [] else [.post .regenStarted] := by
    unfold cycleStart
    by_cases hs : s.gState = .regenRunning
    · rw [if_neg (not_not.mpr hs), if_pos hs]
    · rw [if_pos hs, if_neg hs]
  have htimer : (cycleTimer (cycleStart s smp.startMillis).1 smp.timerMillis).2 =
      if TimerLatches s smp then [.command false] else [] := by
    rw [cycleTimer_cycleStart]
    by_cases hlatches : TimerLatches s smp
    · rw [if_pos hlatches, if_pos hlatches]
    · rw [if_neg hlatches, if_neg hlatches]
  have he : evaluatedCalls s smp rd.verdict =
      (if s.gState = .regenRunning then [] else [.post .regenStarted]) ++
        (if TimerLatches s smp then [.command false] else []) := by
    rw [hv, evaluatedCalls, hstart, htimer]
  rw [corePass_eq]
  simp only [hx, hm, hc, he, List.append_nil]

/-- The flag after such a pass. -/
theorem running_stopping (s : CoreState) (smp : Sample) {rd : Sensors} (hv : rd.verdict = .running) :
    (corePass s smp rd).core.gRegenStopping = true ↔
      TimerLatches s smp ∨ (s.gState = .regenRunning ∧ s.gRegenStopping = true) := by
  have hcore : (corePass s smp rd).core.gRegenStopping =
      (cycleTimer (cycleStart s smp.startMillis).1 smp.timerMillis).1.gRegenStopping := by
    rw [corePass_eq]
    change (leftCore s smp rd.verdict).gRegenStopping = _
    rw [leftCore, if_neg fun h => h.2 hv, evaluatedCore, if_pos hv]
  have hstarted : (cycleStart s smp.startMillis).1.gRegenStopping = true ↔
      s.gState = .regenRunning ∧ s.gRegenStopping = true := by
    unfold cycleStart
    by_cases hs : s.gState = .regenRunning <;> simp [hs]
  rw [hcore, ← hstarted, cycleTimer_cycleStart]
  by_cases hlatches : TimerLatches s smp
  · rw [if_pos hlatches]
    exact iff_of_true rfl (Or.inl hlatches)
  · rw [if_neg hlatches]
    exact ⟨Or.inr, fun h => h.resolve_left hlatches⟩

/-- Only the start of a cycle takes an accepted STOP back. -/
theorem trackCalls_of_accepted {reg : Registry} {calls : List CoreCall}
    (hnew : .post .regenStarted ∉ calls) (answers : Nat → PostAnswer) :
    trackCalls reg answers calls true = true := by
  induction calls generalizing answers with
  | nil => rfl
  | cons call calls ih =>
    have hkept : trackStop true (performCall reg (answers 0) call) = true := by
      cases call with
      | command state =>
        cases state with
        | false => exact (trackStop_stop reg (answers 0) true).mpr (Or.inl rfl)
        | true => exact trackStop_start reg (answers 0) true
      | post id =>
        cases id
        case regenStarted => exact absurd List.mem_cons_self hnew
        all_goals rfl
    rw [trackCalls_cons, hkept]
    exact ih (fun h => hnew (List.mem_cons_of_mem _ h)) _

/-- When the timer latches: which STOP gets through. -/
theorem trackCalls_latching {reg : Registry} {s : CoreState} {smp : Sample} {rd : Sensors}
    (hv : rd.verdict = .running) (hlatches : TimerLatches s smp) (answers : Nat → PostAnswer)
    (accepted : Bool) :
    trackCalls reg answers (corePass s smp rd).calls accepted = true ↔
      (s.gState = .regenRunning ∧ accepted = true) ∨
        ((reg.tagFindByName (some "cmd_regen")).isSome ∧
          ((answers (timerCall s)).Accepts ∨
            (s.gAbortPending = true ∧ (answers (timerCall s + 1)).Accepts))) := by
  -- the STOPs of the timer and of a pending abort, from the `i`-th answer on
  have hstops (answers : Nat → PostAnswer) (accepted : Bool) :
      trackCalls reg answers
          ([.command false] ++ if s.gAbortPending = true then [.command false] else []) accepted = true ↔
        accepted = true ∨ ((reg.tagFindByName (some "cmd_regen")).isSome ∧
          ((answers 0).Accepts ∨ (s.gAbortPending = true ∧ (answers 1).Accepts))) := by
    rw [List.singleton_append, trackCalls_cons]
    by_cases hpending : s.gAbortPending = true
    · rw [if_pos hpending, trackCalls_cons]
      change trackStop _ _ = true ↔ _
      rw [trackStop_stop, trackStop_stop]
      simp only [hpending, true_and, and_or_left, or_assoc]
    · rw [if_neg hpending]
      change trackStop _ _ = true ↔ _
      rw [trackStop_stop]
      simp [hpending]
  rw [running_calls s smp hv, if_pos hlatches]
  by_cases hs : s.gState = .regenRunning
  · rw [if_pos hs, List.nil_append, hstops, timerCall, if_pos hs]
    simp only [hs, true_and, Nat.zero_add]
  · rw [if_neg hs, List.append_assoc, List.singleton_append, trackCalls_cons, hstops, timerCall,
      if_neg hs]
    have hreset : trackStop accepted (performCall reg (answers 0) (.post .regenStarted)) = false := rfl
    simp only [hs, hreset, false_and, Bool.false_eq_true, false_or, Nat.zero_add]

/-! ## Runs -/

structure TimeoutInv (s : TimedCore) : Prop where
  notGivenUp : StopNotGivenUp s
  reset : s.core.gState ≠ .regenRunning → s.core.gRegenStopping = false

theorem timeoutInv_boot : TimeoutInv .boot where
  notGivenUp h := by cases h
  reset _ := rfl

/-- What an iteration samples, when it matters for the timer. -/
theorem timedStep_cases {reg : Registry} {s s' : TimedCore} {a : TimedStep}
    (ha : timedStep reg s a = some s') :
    (s'.core.gState = s.core.gState ∧ s'.core.gRegenStopping = s.core.gRegenStopping ∧
        stopAccepted s'.log = stopAccepted s.log) ∨
      ∃ smp rd, a.step = .iterate smp ∧ smp.sensors = some rd ∧ s'.core = (corePass s.core smp rd).core ∧
        stopAccepted s'.log =
          trackCalls reg a.answers (corePass s.core smp rd).calls (stopAccepted s.log) := by
  obtain ⟨hcore, hlog⟩ := stopAccepted_timedStep ha
  rw [hcore, hlog]
  rcases coreStep_cases s.core a.step with
    ⟨smp, rd, hsmp, hrd, hstep⟩ | ⟨⟨hg, hstop, -⟩, -, hsilent⟩
  · rw [hstep]
    exact Or.inr ⟨smp, rd, hsmp, hrd, rfl, rfl⟩
  · rw [hsilent]
    exact Or.inl ⟨hg, hstop, rfl⟩

theorem timeoutInv_timedStep {reg : Registry} (s : TimedCore) (a : TimedStep) (s' : TimedCore)
    (hs : TimeoutInv s) (hc : LatchesAccepted reg s a) (ha : timedStep reg s a = some s') :
    TimeoutInv s' := by
  rcases timedStep_cases ha with ⟨hg, hstop, hlog⟩ | ⟨smp, rd, hstep, hrd, hcore, hlog⟩
  · refine ⟨fun h => ?_, fun h => ?_⟩
    · rw [hlog]
      exact hs.notGivenUp (hstop ▸ h)
    · rw [hstop]
      exact hs.reset (hg ▸ h)
  · by_cases hv : rd.verdict = .running
    · refine ⟨fun h => ?_, fun h => ?_⟩
      · rw [hlog]
        rw [hcore, running_stopping s.core smp hv] at h
        by_cases hlatches : TimerLatches s.core smp
        · exact (trackCalls_latching hv hlatches a.answers _).mpr (hc smp rd hstep hrd hv hlatches)
        · obtain ⟨hg, hstop⟩ := h.resolve_left hlatches
          rw [hs.notGivenUp hstop]
          refine trackCalls_of_accepted ?_ a.answers
          rw [running_calls s.core smp hv, if_pos hg, if_neg hlatches]
          split_ifs <;> simp
      · rw [hcore] at h
        exact absurd ((corePass_gState_eq_regenRunning s.core smp rd).mpr hv) h
    · have hrest : s'.core.gRegenStopping = false := by
        rw [hcore, corePass_eq]
        change (leftCore s.core smp rd.verdict).gRegenStopping = false
        by_cases hg : s.core.gState = .regenRunning
        · rw [leftCore, if_pos ⟨hg, hv⟩]
        · rw [leftCore, if_neg fun h => hg h.1, evaluatedCore, if_neg hv]
          exact hs.reset hg
      exact ⟨fun h => absurd (hrest.symm.trans h) Bool.false_ne_true, fun _ => hrest⟩

/-- The timer has latched and nothing got through: the flag is up without a STOP. -/
theorem not_stopNotGivenUp_of_latched {reg : Registry} (s : TimedCore) (a : TimedStep)
    (s' : TimedCore) (_ : TimeoutInv s) (hlost : ¬ LatchesAccepted reg s a)
    (ha : timedStep reg s a = some s') : ¬ StopNotGivenUp s' := by
  simp only [LatchesAccepted, not_forall] at hlost
  obtain ⟨smp, rd, hstep, hrd, hv, hlatches, hnone⟩ := hlost
  obtain ⟨hcore, hlog⟩ := stopAccepted_timedStep ha
  rw [hstep, coreStep_pass s.core hrd] at hcore hlog
  intro hgiven
  have hstop : s'.core.gRegenStopping = true := by
    rw [hcore]
    exact (running_stopping s.core smp hv).mpr (Or.inl hlatches)
  have haccepted := hgiven hstop
  rw [hlog] at haccepted
  exact hnone ((trackCalls_latching hv hlatches a.answers _).mp haccepted)

/-- **The timeout STOP is not given up, exactly.** In a run `gRegenStopping` is never up
without an accepted STOP of the cycle if and only if a STOP gets through whenever the
timer latches, by the end of that iteration. -/
theorem stop_not_given_up_iff (reg : Registry) (as : List TimedStep) :
    Always (timedStep reg) StopNotGivenUp .boot as ↔
      Throughout (timedStep reg) (LatchesAccepted reg) .boot as :=
  always_iff_throughout (fun _ hs => hs.notGivenUp) timeoutInv_timedStep
    not_stopNotGivenUp_of_latched timeoutInv_boot as

/-- The dispatcher runs and its queue has room. -/
def accepting : Nat → PostAnswer := fun _ => ⟨.running, true⟩

/-- A cycle that is still running two minutes after it was first seen. -/
def expiringCycle : List TimedStep :=
  [⟨.iterate (validSample goodPressure goodSalt true 2000), accepting⟩,
    ⟨.iterate (validSample goodPressure goodSalt true 122000), accepting⟩]

/-- The shipped registry has no `cmd_regen`: the flag goes up and no STOP is posted. -/
theorem stop_given_up_without_tag :
    ¬ ∀ (reg : Registry) (as : List TimedStep),
      Always (timedStep reg) StopNotGivenUp .boot as := by
  intro hall
  have hgiven := (hall gTags expiringCycle).last rfl
  exact absurd (hgiven (by decide)) (by decide)

end XIoT.Core
