import XIoT.CorePass
import XIoT.Lib.Alternation

/-!
# Regeneration cycles

The events of a run bracket its regeneration cycles: a cycle is open exactly while
the state is `REGEN_RUNNING`, and how it is closed depends on what the iteration
that leaves the state sampled.
-/

namespace XIoT.Core

open Lib.Trace
open Lib.Alternation (Mark StrictlyAlternates Balanced openCycles balanced_nil)

/-- The calls that open and close a cycle. -/
def regenMark : CoreCall → Option Mark
  | .post .regenStarted => some .opening
  | .post .regenCompleted => some .closing
  | .post .regenFailed => some .closing
  | _ => none

/-- Invalid data, low pressure or low salt. -/
def Sample.SawFault (smp : Sample) : Prop :=
  ∃ rd, smp.sensors = some rd ∧
    (rd.processDataValid = false ∨ rd.lowPressure = true ∨ rd.lowSalt = true)

def LeavesRegen (r : CoreRecord) : Prop :=
  r.pre.gState = .regenRunning ∧ r.post.gState ≠ .regenRunning

def SawFault (r : CoreRecord) : Prop := ∃ smp, r.label = .iterate smp ∧ smp.SawFault

theorem isFault_verdict (rd : Sensors) : rd.verdict.isFault = true ↔
    rd.processDataValid = false ∨ rd.lowPressure = true ∨ rd.lowSalt = true := by
  unfold Sensors.verdict
  split_ifs with hv hp hs hr <;> simp_all [Verdict.isFault]

theorem marks_evaluatedCalls (s : CoreState) (smp : Sample) (v : Verdict) :
    (evaluatedCalls s smp v).filterMap regenMark =
      if v = .running ∧ s.gState ≠ .regenRunning then [.opening] else [] := by
  cases v with
  | running =>
    have ht : ∀ t, (cycleTimer t smp.timerMillis).2.filterMap regenMark = [] := by
      intro t
      unfold cycleTimer
      split <;> rfl
    simp only [evaluatedCalls, List.filterMap_append, ht, List.append_nil, true_and]
    unfold cycleStart
    split <;> rfl
  | dataLoss | lowPressure | lowSalt =>
    simp only [evaluatedCalls, reduceCtorEq, false_and, if_false]
    split <;> rfl
  | normal => rfl

theorem marks_exitCalls (s : CoreState) (v : Verdict) :
    (exitCalls s v).filterMap regenMark =
      if s.gState = .regenRunning ∧ v ≠ .running then [.closing] else [] := by
  unfold exitCalls
  split
  · split <;> rfl
  · rfl

theorem marks_midCycleCalls (s : CoreState) (rd : Sensors) :
    (midCycleCalls s rd).filterMap regenMark = [] := by
  unfold midCycleCalls
  split <;> rfl

theorem marks_commandCalls (s : CoreState) (v : Verdict) :
    (commandCalls s v).filterMap regenMark = [] := by
  unfold commandCalls
  split_ifs <;> rfl

/-- A pass opens a cycle when it enters `REGEN_RUNNING` and closes one when it leaves. -/
theorem marks_corePass (s : CoreState) (smp : Sample) (rd : Sensors) :
    (corePass s smp rd).calls.filterMap regenMark =
      (if rd.verdict = .running ∧ s.gState ≠ .regenRunning then [.opening] else []) ++
        (if s.gState = .regenRunning ∧ rd.verdict ≠ .running then [.closing] else []) := by
  simp only [corePass_eq, List.filterMap_append, marks_evaluatedCalls, marks_exitCalls,
    marks_midCycleCalls, marks_commandCalls, List.append_nil]

theorem corePass_gState (s : CoreState) (smp : Sample) (rd : Sensors) :
    (corePass s smp rd).core.gState = rd.verdict.nextState := by
  rw [corePass_eq]
  rfl

theorem corePass_gState_eq_regenRunning (s : CoreState) (smp : Sample) (rd : Sensors) :
    (corePass s smp rd).core.gState = .regenRunning ↔ rd.verdict = .running := by
  rw [corePass_gState, Verdict.nextState_eq_regenRunning]

/-- The timer variables are at rest. -/
def TimerReset (s : CoreState) : Prop := s.gRegenStopping = false ∧ s.gRegenStartTime = 0

theorem corePass_timerReset {s : CoreState} (smp : Sample) {rd : Sensors}
    (hs : s.gState ≠ .regenRunning → TimerReset s) (hv : rd.verdict ≠ .running) :
    TimerReset (corePass s smp rd).core := by
  rw [corePass_eq]
  show TimerReset ((coreSetState (leftCore s smp rd.verdict) _).setFlags false false)
  by_cases hg : s.gState = .regenRunning
  · rw [leftCore, if_pos ⟨hg, hv⟩]
    exact ⟨rfl, rfl⟩
  · rw [leftCore, if_neg fun h => hg h.1, evaluatedCore, if_neg hv]
    exact hs hg

/-- The invariant of all runs: what was posted, `gState` and the timer agree. -/
structure CycleInvariant (s : CoreState) (log : List CoreCall) : Prop where
  balanced : Balanced (log.filterMap regenMark) (s.gState = .regenRunning)
  reset : s.gState ≠ .regenRunning → TimerReset s

theorem cycleInvariant_boot : CycleInvariant coreBoot [] :=
  ⟨balanced_nil (by decide), fun _ => ⟨rfl, rfl⟩⟩

/-- Calls from other tasks leave everything but the pending flags. -/
theorem coreRequestRegen_frame (s : CoreState) :
    (coreRequestRegen s).1.gState = s.gState ∧
    (coreRequestRegen s).1.gRegenStopping = s.gRegenStopping ∧
    (coreRequestRegen s).1.gRegenStartTime = s.gRegenStartTime := by
  unfold coreRequestRegen
  split <;> exact ⟨rfl, rfl, rfl⟩

theorem coreAbortRegen_frame (s : CoreState) :
    (coreAbortRegen s).1.gState = s.gState ∧
    (coreAbortRegen s).1.gRegenStopping = s.gRegenStopping ∧
    (coreAbortRegen s).1.gRegenStartTime = s.gRegenStartTime := by
  unfold coreAbortRegen
  split <;> exact ⟨rfl, rfl, rfl⟩

/-- All that a step can do: evaluate a sample, or say nothing and leave the state machine
as it is. -/
theorem coreStep_cases (s : CoreState) (a : CoreStep) :
    (∃ smp rd, a = .iterate smp ∧ smp.sensors = some rd ∧
      coreStep s a = ((corePass s smp rd).core, (corePass s smp rd).calls)) ∨
    (((coreStep s a).1.gState = s.gState ∧ (coreStep s a).1.gRegenStopping = s.gRegenStopping ∧
        (coreStep s a).1.gRegenStartTime = s.gRegenStartTime) ∧
      (coreStep s a).1.gInitialized = s.gInitialized ∧ (coreStep s a).2 = []) := by
  cases a with
  | request =>
    refine Or.inr ⟨coreRequestRegen_frame s, ?_, rfl⟩
    simp only [coreStep, coreRequestRegen]
    split <;> rfl
  | abort =>
    refine Or.inr ⟨coreAbortRegen_frame s, ?_, rfl⟩
    simp only [coreStep, coreAbortRegen]
    split <;> rfl
  | iterate smp =>
    cases hrd : smp.sensors with
    | none =>
      rw [coreStep_skip s hrd]
      exact Or.inr ⟨⟨rfl, rfl, rfl⟩, rfl, rfl⟩
    | some rd => exact Or.inl ⟨smp, rd, rfl, hrd, coreStep_pass s hrd⟩

theorem CycleInvariant.frame {s t : CoreState} {log : List CoreCall} (h : CycleInvariant s log)
    (ht : t.gState = s.gState ∧ t.gRegenStopping = s.gRegenStopping ∧
      t.gRegenStartTime = s.gRegenStartTime) : CycleInvariant t log := by
  obtain ⟨hg, hp, ht⟩ := ht
  refine ⟨h.balanced.congr (by rw [hg]), fun hn => ?_⟩
  rw [TimerReset, hp, ht]
  exact h.reset (hg ▸ hn)

theorem CycleInvariant.corePass {s : CoreState} {log : List CoreCall} (h : CycleInvariant s log)
    (smp : Sample) (rd : Sensors) :
    CycleInvariant (corePass s smp rd).core (log ++ (corePass s smp rd).calls) := by
  have hg := corePass_gState_eq_regenRunning s smp rd
  have hb := h.balanced
  refine ⟨?_, fun hn => corePass_timerReset smp h.reset fun hv => hn (hg.mpr hv)⟩
  rw [List.filterMap_append, marks_corePass]
  by_cases hv : rd.verdict = .running <;> by_cases hs : s.gState = .regenRunning
  · simp only [hv, hs, ne_eq, not_true, and_false, if_false, List.append_nil]
    exact hb.congr ⟨fun _ => hg.mpr hv, fun _ => hs⟩
  · simp only [hv, hs, ne_eq, not_false_iff, and_self, if_true, false_and, if_false, List.append_nil]
    exact hb.opened hs (hg.mpr hv)
  · simp only [hv, hs, ne_eq, not_false_iff, and_self, if_true, false_and, if_false, List.nil_append]
    exact hb.closed hs (mt hg.mp hv)
  · simp only [hv, hs, false_and, if_false, List.append_nil]
    exact hb.congr ⟨fun h => absurd h hs, fun h => absurd (hg.mp h) hv⟩

theorem CycleInvariant.coreStep {s : CoreState} {log : List CoreCall} (a : CoreStep)
    (h : CycleInvariant s log) :
    CycleInvariant (coreStep s a).1 (log ++ (coreStep s a).2) := by
  rcases coreStep_cases s a with ⟨smp, rd, -, -, hstep⟩ | ⟨hframe, -, hsilent⟩
  · rw [hstep]
    exact h.corePass smp rd
  · rw [hsilent, List.append_nil]
    exact h.frame hframe

theorem cycleInvariant_run (as : List CoreStep) : CycleInvariant (coreFinal as) (coreOutput as) :=
  output_invariant coreStep (I := CycleInvariant) (fun _ _ a h => h.coreStep a) cycleInvariant_boot as

/-! ## How a cycle is closed -/

theorem mem_evaluatedCalls_failed (s : CoreState) (smp : Sample) (v : Verdict) :
    .post .regenFailed ∉ evaluatedCalls s smp v ∧ .post .regenCompleted ∉ evaluatedCalls s smp v := by
  cases v with
  | normal => simp [evaluatedCalls]
  | dataLoss | lowPressure | lowSalt =>
    simp only [evaluatedCalls]
    split <;> simp
  | running =>
    simp only [evaluatedCalls, cycleTimer, cycleStart]
    split_ifs <;> simp

theorem corePass_failed_iff (s : CoreState) (smp : Sample) (rd : Sensors) :
    .post .regenFailed ∈ (corePass s smp rd).calls ↔
      s.gState = .regenRunning ∧ rd.verdict ≠ .running ∧ rd.verdict.isFault = true := by
  have he := (mem_evaluatedCalls_failed s smp rd.verdict).1
  simp only [corePass_eq, List.mem_append, he, false_or, exitCalls, midCycleCalls, commandCalls]
  split_ifs <;> simp_all

theorem corePass_completed_iff (s : CoreState) (smp : Sample) (rd : Sensors) :
    .post .regenCompleted ∈ (corePass s smp rd).calls ↔
      s.gState = .regenRunning ∧ rd.verdict ≠ .running ∧ rd.verdict.isFault = false := by
  have he := (mem_evaluatedCalls_failed s smp rd.verdict).2
  simp only [corePass_eq, List.mem_append, he, false_or, exitCalls, midCycleCalls, commandCalls]
  split_ifs <;> simp_all

/-- What closes a cycle depends on the fault the leaving iteration saw, and on nothing else. -/
theorem record_closing (s : CoreState) (a : CoreStep) :
    let r : CoreRecord := record coreStep s a
    (.post .regenFailed ∈ r.out ↔ LeavesRegen r ∧ SawFault r) ∧
      (.post .regenCompleted ∈ r.out ↔ LeavesRegen r ∧ ¬ SawFault r) := by
  intro r
  rcases coreStep_cases s a with ⟨smp, rd, rfl, hr, hstep⟩ | ⟨⟨hg, -, -⟩, -, hsilent⟩
  · have hleaves : LeavesRegen r ↔ s.gState = .regenRunning ∧ rd.verdict ≠ .running := by
      simp only [r, LeavesRegen, record, hstep, ne_eq, corePass_gState_eq_regenRunning]
    have hsaw : SawFault r ↔ rd.verdict.isFault = true := by
      simp only [r, SawFault, record, CoreStep.iterate.injEq, Sample.SawFault, isFault_verdict]
      simp [hr]
    have hout : r.out = (corePass s smp rd).calls := congrArg Prod.snd hstep
    rw [hleaves, hsaw, hout, corePass_failed_iff, corePass_completed_iff, Bool.not_eq_true,
      and_assoc, and_assoc]
    exact ⟨Iff.rfl, Iff.rfl⟩
  · constructor <;> simp [r, record, LeavesRegen, hg, hsilent]

/-- **Regeneration cycles are bracketed exactly.** -/
theorem regen_cycles_bracketed (as : List CoreStep) :
    StrictlyAlternates ((coreOutput as).filterMap regenMark) ∧
    openCycles ((coreOutput as).filterMap regenMark) =
      (if (coreFinal as).gState = .regenRunning then 1 else 0) ∧
    (∀ r ∈ coreTrace as,
      (.post .regenFailed ∈ r.out ↔ LeavesRegen r ∧ SawFault r) ∧
      (.post .regenCompleted ∈ r.out ↔ LeavesRegen r ∧ ¬ SawFault r)) ∧
    ((coreFinal as).gState ≠ .regenRunning →
      (coreFinal as).gRegenStopping = false ∧ (coreFinal as).gRegenStartTime = 0) := by
  have hinv := cycleInvariant_run as
  refine ⟨hinv.balanced.alternates, hinv.balanced.openCycles_eq, ?_, hinv.reset⟩
  intro r hr
  obtain ⟨before, a, rfl⟩ := reached_of_mem coreStep hr
  exact record_closing _ a

end XIoT.Core
