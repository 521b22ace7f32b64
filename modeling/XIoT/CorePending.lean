import XIoT.CoreAbort

/-!
# What the pending flags forget and what they outlive

The two commands are two flags: their order is lost, and an abort that finds no cycle
takes a request with it. `core_stop` resets the state machine and leaves the flags up.
-/

namespace XIoT.Core

open Lib.Trace

/-! ## Requests behind an abort -/

/-- The iteration samples valid data with no fault and the machine stopped. -/
def SampledNormal (r : CoreRecord) : Prop :=
  ∃ smp rd, r.label = .iterate smp ∧ smp.sensors = some rd ∧ rd.processDataValid = true ∧
    rd.lowPressure = false ∧ rd.lowSalt = false ∧ rd.isRegenerating = false

/-- `core_request_regen` returned `SYS_OK` after the last call of `core_abort_regen`. -/
def RequestedAfterAbort (h : List CoreRecord) : Prop :=
  ∃ m q n, h = m ++ q :: n ∧ AcceptedRequest q ∧ ∀ x ∈ n, x.label ≠ .abort

/-- Such a request is among the calls that no iteration has taken yet. -/
def RequestWaits (h : List CoreRecord) : Prop := RequestedAfterAbort (unconsumed h)

/-- An abort is among the calls that no iteration has taken yet. -/
def AbortWaits (h : List CoreRecord) : Prop := ∃ q ∈ unconsumed h, AcceptedAbort q

/-- A request is left over from the iterations so far, and no abort is. -/
structure RequestAlone (h : List CoreRecord) : Prop where
  requested : ∃ q ∈ unconsumed h, AcceptedRequest q
  notAborted : ¬ AbortWaits h

/-- Every iteration that finds nothing wrong behind a history with a request starts the
machine. -/
def RequestsStarted (Requested : List CoreRecord → Prop) (as : List CoreStep) : Prop :=
  ∀ h r t, coreTrace as = h ++ r :: t → SampledNormal r → Requested h → .command true ∈ r.out

theorem start_iff_requestAlone (before : List CoreStep) {a : CoreStep}
    (hr : SampledNormal (record coreStep (coreFinal before) a)) :
    .command true ∈ (record coreStep (coreFinal before) a).out ↔ RequestAlone (coreTrace before) := by
  obtain ⟨smp, rd, hlabel, hrd, hvalid, hpressure, hsalt, hstopped⟩ := hr
  have ha : a = .iterate smp := hlabel
  subst ha
  have hv : rd.verdict = .normal := (verdict_normal_iff rd).mpr ⟨hvalid, hpressure, hsalt, hstopped⟩
  change .command true ∈ (coreStep (coreFinal before) (.iterate smp)).2 ↔ _
  rw [coreStep_pass _ hrd, command_true_mem_iff, ← Bool.not_eq_true, regenPending_iff,
    abortPending_iff]
  exact ⟨fun h => ⟨h.2.1, h.1⟩, fun h => ⟨h.notAborted, h.requested, hv⟩⟩

theorem requested_of_waits {h : List CoreRecord} (hwaits : RequestWaits h) :
    ∃ q ∈ unconsumed h, AcceptedRequest q := by
  obtain ⟨m, q, n, hsplit, haccepted, -⟩ := hwaits
  refine ⟨q, ?_, haccepted⟩
  rw [hsplit]
  exact List.mem_append_right m List.mem_cons_self

/-- A property of the histories decides on the START of the normal iterations behind them. -/
theorem requestsStarted_iff_requestAlone (Requested : List CoreRecord → Prop) (as : List CoreStep) :
    RequestsStarted Requested as ↔
      ∀ h r t, coreTrace as = h ++ r :: t → SampledNormal r → Requested h → RequestAlone h := by
  have hiff : ∀ h r t, coreTrace as = h ++ r :: t → SampledNormal r →
      (.command true ∈ r.out ↔ RequestAlone h) := by
    intro h r t he hr
    obtain ⟨before, a, rfl, rfl⟩ := coreTrace_split he
    exact start_iff_requestAlone before hr
  constructor
  · intro hstarted h r t he hr hrequested
    exact (hiff h r t he hr).mp (hstarted h r t he hr hrequested)
  · intro halone h r t he hr hrequested
    exact (hiff h r t he hr).mpr (halone h r t he hr hrequested)

/-- **When a request behind an abort is heard, exactly.** In a run every normal iteration
that finds such a request waiting starts the machine if and only if none of them finds an
abort waiting too. Counting the requests that an iteration has taken before, every normal
iteration behind such a request starts the machine if and only if each of them finds a
request waiting, and no abort. -/
theorem requests_started_iff (as : List CoreStep) :
    (RequestsStarted RequestWaits as ↔
      ∀ h r t, coreTrace as = h ++ r :: t → SampledNormal r → RequestWaits h → ¬ AbortWaits h) ∧
    (RequestsStarted RequestedAfterAbort as ↔
      ∀ h r t, coreTrace as = h ++ r :: t → SampledNormal r → RequestedAfterAbort h →
        RequestAlone h) := by
  refine ⟨?_, requestsStarted_iff_requestAlone RequestedAfterAbort as⟩
  rw [requestsStarted_iff_requestAlone]
  constructor
  · intro halone h r t he hr hwaits
    exact (halone h r t he hr hwaits).notAborted
  · intro hnone h r t he hr hwaits
    exact ⟨requested_of_waits hwaits, hnone h r t he hr hwaits⟩

/-- An abort, a request and a normal iteration: the request waits, and is gone. -/
theorem request_swallowed_by_abort :
    (¬ ∀ as, RequestsStarted RequestWaits as) ∧ ¬ ∀ as, RequestsStarted RequestedAfterAbort as := by
  have hgone : ∀ Requested : List CoreRecord → Prop, Requested (coreTrace [.abort, .request]) →
      ¬ ∀ as, RequestsStarted Requested as := by
    intro Requested hrequested hall
    have hstart := hall [.abort, .request, goodSample false 2000] (coreTrace [.abort, .request])
      (record coreStep (coreFinal [.abort, .request]) (goodSample false 2000)) [] rfl
      ⟨_, _, rfl, rfl, by decide, by decide, by decide, by decide⟩ hrequested
    revert hstart
    decide
  have hbehind : RequestedAfterAbort (coreTrace [.abort, .request]) :=
    ⟨coreTrace [.abort], record coreStep (coreFinal [.abort]) .request, [], rfl, ⟨rfl, by decide⟩,
      fun x hx => by cases hx⟩
  exact ⟨hgone RequestWaits hbehind, hgone RequestedAfterAbort hbehind⟩

/-! ## Restarting -/

/-- `core_stop` followed by `core_start`, the new task having the handle `task`. -/
def coreRestart (s : CoreState) (task : TaskHandle) : CoreState :=
  (coreStart (coreStop s).1 (some task)).1

/-- `core_init` followed by `core_start`. -/
def coreFresh (task : TaskHandle) : CoreState := (coreStart coreBoot (some task)).1

/-- What a run shows: after every step the state, and what the step posted and commanded. -/
def behaviour (s : CoreState) (as : List CoreStep) : List (WsState × List CoreCall) :=
  (trace coreStep s as).map fun r => (r.post.gState, r.out)

def BehavesAlike (s t : CoreState) : Prop :=
  s.gState = t.gState ∧ ∀ as, behaviour s as = behaviour t as

/-- Equal but for the task handle. -/
def SameCore (s t : CoreState) : Prop := ∃ handle, t = { s with gTaskHandle := handle }

theorem corePass_handle (s : CoreState) (handle : Option TaskHandle) (smp : Sample) (rd : Sensors) :
    (corePass { s with gTaskHandle := handle } smp rd).core =
        { (corePass s smp rd).core with gTaskHandle := handle } ∧
      (corePass { s with gTaskHandle := handle } smp rd).calls = (corePass s smp rd).calls := by
  have hstart : cycleStart { s with gTaskHandle := handle } smp.startMillis =
      ({ (cycleStart s smp.startMillis).1 with gTaskHandle := handle },
        (cycleStart s smp.startMillis).2) := by
    unfold cycleStart
    split <;> rfl
  have htimer (t : CoreState) : cycleTimer { t with gTaskHandle := handle } smp.timerMillis =
      ({ (cycleTimer t smp.timerMillis).1 with gTaskHandle := handle },
        (cycleTimer t smp.timerMillis).2) := by
    unfold cycleTimer
    split <;> rfl
  have hcore (v : Verdict) : leftCore { s with gTaskHandle := handle } smp v =
      { leftCore s smp v with gTaskHandle := handle } := by
    unfold leftCore evaluatedCore
    rw [hstart, htimer]
    split_ifs <;> rfl
  have hcalls (v : Verdict) : evaluatedCalls { s with gTaskHandle := handle } smp v =
      evaluatedCalls s smp v := by
    cases v with
    | running => simp only [evaluatedCalls, hstart, htimer]
    | _ => rfl
  rw [corePass_eq, corePass_eq, hcore, hcalls]
  exact ⟨rfl, rfl⟩

theorem sameCore_coreStep (s t : CoreState) (a : CoreStep) (h : SameCore s t) :
    SameCore (coreStep s a).1 (coreStep t a).1 ∧ (coreStep s a).2 = (coreStep t a).2 := by
  obtain ⟨handle, rfl⟩ := h
  cases a with
  | request =>
    simp only [coreStep, coreRequestRegen]
    split <;> exact ⟨⟨handle, rfl⟩, trivial⟩
  | abort =>
    simp only [coreStep, coreAbortRegen]
    split <;> exact ⟨⟨handle, rfl⟩, trivial⟩
  | iterate smp =>
    cases hrd : smp.sensors with
    | none =>
      rw [coreStep_skip _ hrd, coreStep_skip _ hrd]
      exact ⟨⟨handle, rfl⟩, rfl⟩
    | some rd =>
      rw [coreStep_pass _ hrd, coreStep_pass _ hrd]
      obtain ⟨hcore, hcalls⟩ := corePass_handle s handle smp rd
      exact ⟨⟨handle, hcore⟩, hcalls.symm⟩

/-- The handle of the task is never read. -/
theorem behavesAlike_of_sameCore {s t : CoreState} (h : SameCore s t) : BehavesAlike s t := by
  have hstate {s t : CoreState} (h : SameCore s t) : s.gState = t.gState := by
    obtain ⟨handle, rfl⟩ := h
    rfl
  refine ⟨hstate h, fun as => map_trace_of_simulation coreStep (R := SameCore) ?_ h as⟩
  intro s t a h
  obtain ⟨hnext, hout⟩ := sameCore_coreStep s t a h
  exact ⟨hnext, Prod.ext (hstate hnext) hout⟩

theorem coreStep_gInitialized (s : CoreState) (a : CoreStep) :
    (coreStep s a).1.gInitialized = s.gInitialized := by
  rcases coreStep_cases s a with ⟨smp, rd, -, -, hstep⟩ | ⟨-, hinit, -⟩
  · rw [hstep]
    exact (corePass_frame s smp rd).1
  · exact hinit

theorem coreFinal_gInitialized (as : List CoreStep) : (coreFinal as).gInitialized = true :=
  output_invariant coreStep (I := fun s _ => s.gInitialized = true)
    (fun s _ a h => (coreStep_gInitialized s a).trans h) rfl as

/-- A restart is a fresh start with the flags of before. -/
theorem coreRestart_eq (as : List CoreStep) (task : TaskHandle) :
    SameCore ((coreFresh 0).setFlags (coreFinal as).gRegenPending (coreFinal as).gAbortPending)
      (coreRestart (coreFinal as) task) := by
  have hinit := coreFinal_gInitialized as
  refine ⟨some task, ?_⟩
  unfold coreRestart coreStart coreStop
  simp only [hinit, Bool.not_true, Bool.false_eq_true, if_false]
  rfl

/-- A leftover request starts the machine in the first normal iteration, and a leftover
abort takes a new request with it. -/
theorem leftover_shows {regen abort : Bool}
    (h : BehavesAlike ((coreFresh 0).setFlags regen abort) (coreFresh 0)) :
    regen = false ∧ abort = false := by
  have hrequest := h.2 [.request, goodSample false 2000]
  have hidle := h.2 [goodSample false 2000]
  revert hrequest hidle
  cases regen <;> cases abort <;> decide

theorem BehavesAlike.symm {s t : CoreState} (h : BehavesAlike s t) : BehavesAlike t s :=
  ⟨h.1.symm, fun as => (h.2 as).symm⟩

theorem BehavesAlike.trans {s t u : CoreState} (h : BehavesAlike s t) (h' : BehavesAlike t u) :
    BehavesAlike s u :=
  ⟨h.1.trans h'.1, fun as => (h.2 as).trans (h'.2 as)⟩

/-- **A restart is a fresh start, exactly** when no command is pending. -/
theorem restart_fresh_iff (as : List CoreStep) (task task' : TaskHandle) :
    BehavesAlike (coreRestart (coreFinal as) task) (coreFresh task') ↔
      (coreFinal as).gRegenPending = false ∧ (coreFinal as).gAbortPending = false := by
  have hrestart := behavesAlike_of_sameCore (coreRestart_eq as task)
  have hfresh : BehavesAlike (coreFresh 0) (coreFresh task') :=
    behavesAlike_of_sameCore ⟨some task', rfl⟩
  constructor
  · intro h
    exact leftover_shows ((hrestart.trans h).trans hfresh.symm)
  · rintro ⟨hregen, habort⟩
    rw [hregen, habort] at hrestart
    exact hrestart.symm.trans hfresh

/-- A request that no iteration took before the stop. -/
theorem request_outlives_stop :
    ¬ ∀ (as : List CoreStep) (task task' : TaskHandle),
      BehavesAlike (coreRestart (coreFinal as) task) (coreFresh task') := by
  intro hall
  have hshown := (hall [.request] 0 0).2 [goodSample false 2000]
  revert hshown
  decide

end XIoT.Core
