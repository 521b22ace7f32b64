import XIoT.CoreCycle

/-!
# Fault and start interlocks

Which iterations command a STOP while the machine is seen running under a fault,
and what an iteration that commands a START has sampled. Both are statements about
the iteration and the history before it, read off the trace of a run.
-/

namespace XIoT.Core

open Lib.Trace
open Lib.BinaryFormat (not_isNaN_of_le le_of_lt_eq_false)

/-! ## Commands of one pass -/

theorem command_false_mem {s : CoreState} {smp : Sample} {rd : Sensors}
    (h : .command false ∈ (corePass s smp rd).calls) :
    s.gState = .regenRunning ∨ rd.verdict = .running := by
  rw [corePass_eq] at h
  simp only [List.mem_append] at h
  rcases h with ((he | hx) | hm) | hc
  · refine Or.inr ?_
    cases hv : rd.verdict with
    | running => rfl
    | normal => simp [hv, evaluatedCalls] at he
    | dataLoss | lowPressure | lowSalt =>
      simp only [hv, evaluatedCalls] at he
      split at he <;> simp at he
  · refine Or.inl ?_
    unfold exitCalls at hx
    split at hx
    · next hg => exact hg.1
    · simp at hx
  · refine Or.inl ?_
    unfold midCycleCalls at hm
    split at hm
    · next hg => exact hg.2.2
    · simp at hm
  · refine Or.inr ?_
    unfold commandCalls at hc
    split_ifs at hc with _ hv
    · exact hv
    all_goals simp at hc

/-- Leaving a running cycle with a fault sends a STOP. -/
theorem command_false_of_fault {s : CoreState} (smp : Sample) {rd : Sensors}
    (hs : s.gState = .regenRunning) (hf : rd.verdict.isFault = true) :
    .command false ∈ (corePass s smp rd).calls := by
  have hv : rd.verdict ≠ .running := fun h => by rw [h] at hf; cases hf
  have hx : .command false ∈ exitCalls s rd.verdict := by
    rw [exitCalls, if_pos ⟨hs, hv⟩, if_pos hf]
    exact List.mem_cons_self
  rw [corePass_eq]
  exact List.mem_append_left _ (List.mem_append_left _ (List.mem_append_right _ hx))

theorem count_command_true (s : CoreState) (smp : Sample) (rd : Sensors) :
    (corePass s smp rd).calls.count (.command true) =
      if s.gAbortPending = false ∧ s.gRegenPending = true ∧ rd.verdict = .normal then 1 else 0 := by
  have he : (evaluatedCalls s smp rd.verdict).count (.command true) = 0 := by
    cases rd.verdict with
    | normal => rfl
    | dataLoss | lowPressure | lowSalt =>
      simp only [evaluatedCalls]
      split <;> rfl
    | running =>
      simp only [evaluatedCalls, cycleStart, cycleTimer]
      split_ifs <;> rfl
  have hx : (exitCalls s rd.verdict).count (.command true) = 0 := by
    unfold exitCalls
    split_ifs <;> rfl
  have hm : (midCycleCalls s rd).count (.command true) = 0 := by
    unfold midCycleCalls
    split <;> rfl
  rw [corePass_eq]
  simp only [List.count_append, he, hx, hm, Nat.zero_add]
  unfold commandCalls
  cases s.gAbortPending <;> cases s.gRegenPending <;> cases rd.verdict <;> rfl

theorem command_true_mem_iff (s : CoreState) (smp : Sample) (rd : Sensors) :
    .command true ∈ (corePass s smp rd).calls ↔
      s.gAbortPending = false ∧ s.gRegenPending = true ∧ rd.verdict = .normal := by
  rw [← List.count_pos_iff, count_command_true]
  split
  · next h => exact ⟨fun _ => h, fun _ => Nat.one_pos⟩
  · next h => exact ⟨fun hn => absurd hn (Nat.lt_irrefl 0), fun hg => absurd hg h⟩

theorem verdict_normal_iff (rd : Sensors) : rd.verdict = .normal ↔
    rd.processDataValid = true ∧ rd.lowPressure = false ∧ rd.lowSalt = false ∧
      rd.isRegenerating = false := by
  unfold Sensors.verdict
  split_ifs <;> simp_all

/-! ## The fault interlock -/

/-- A call between iterations breaks no stretch of running iterations. -/
def sampledRunning (r : CoreRecord) : Bool :=
  match r.label with
  | .iterate smp => (smp.sensors.map Sensors.isRegenerating).getD false
  | .request => true
  | .abort => true

/-- Valid data with the machine running and a value below its threshold. -/
def SampledRunningFault (r : CoreRecord) : Prop :=
  ∃ smp rd, r.label = .iterate smp ∧ smp.sensors = some rd ∧ rd.processDataValid = true ∧
    rd.isRegenerating = true ∧ (rd.lowPressure = true ∨ rd.lowSalt = true)

/-- The unbroken stretch of running iterations that `r` ends, `h` being the history before it. -/
def runningStretch (h : List CoreRecord) (r : CoreRecord) : List CoreRecord :=
  h.rtakeWhile sampledRunning ++ [r]

def StopCommanded (l : List CoreRecord) : Prop := ∃ q ∈ l, .command false ∈ q.out

def StartsInRegen (l : List CoreRecord) : Prop := ∃ q ∈ l, q.pre.gState = .regenRunning

instance (l : List CoreRecord) : Decidable (StopCommanded l) :=
  inferInstanceAs (Decidable (∃ q ∈ l, .command false ∈ q.out))

instance (l : List CoreRecord) : Decidable (StartsInRegen l) :=
  inferInstanceAs (Decidable (∃ q ∈ l, q.pre.gState = .regenRunning))

theorem readSensors_valid {lock : SysStatus} {p s g : TagRuntime}
    (h : (readSensors lock p s g).isRegenerating = true) :
    (readSensors lock p s g).processDataValid = true := by
  unfold readSensors at h ⊢
  split at h
  · next hv => rw [if_pos hv]
  · cases h

theorem sensors_valid {smp : Sample} {rd : Sensors} (hr : smp.sensors = some rd)
    (h : rd.isRegenerating = true) : rd.processDataValid = true := by
  unfold Sample.sensors at hr
  split at hr
  · obtain rfl := Option.some.inj hr
    exact readSensors_valid h
  · cases hr

/-- A STOP goes out from `REGEN_RUNNING` only, or on the way into it. -/
theorem record_stop {s : CoreState} {a : CoreStep}
    (h : .command false ∈ (record coreStep s a).out) :
    s.gState = .regenRunning ∨ (coreStep s a).1.gState = .regenRunning := by
  rcases coreStep_cases s a with ⟨smp, rd, -, -, hstep⟩ | ⟨-, -, hsilent⟩
  · rw [record, hstep] at h
    rw [hstep]
    exact (command_false_mem h).imp id (corePass_gState_eq_regenRunning s smp rd).mpr
  · rw [record, hsilent] at h
    cases h

/-- While the machine is sampled running, `REGEN_RUNNING` is left with a STOP only. -/
theorem record_running {s : CoreState} {a : CoreStep}
    (hrun : sampledRunning (record coreStep s a) = true) (hs : s.gState = .regenRunning) :
    .command false ∈ (record coreStep s a).out ∨ (coreStep s a).1.gState = .regenRunning := by
  rcases coreStep_cases s a with ⟨smp, rd, rfl, hr, hstep⟩ | ⟨⟨hg, -, -⟩, -, -⟩
  · have hreg : rd.isRegenerating = true := by simpa [sampledRunning, record, hr] using hrun
    have hvalid := sensors_valid hr hreg
    simp only [record, hstep, corePass_gState_eq_regenRunning]
    by_cases hf : rd.verdict.isFault = true
    · exact Or.inl (command_false_of_fault smp hs hf)
    · refine Or.inr ?_
      have hn : rd.verdict ≠ .normal := by
        rw [ne_eq, verdict_normal_iff, hreg]
        simp
      cases hv : rd.verdict <;> simp_all [Verdict.isFault]
  · exact Or.inr (hg.trans hs)

theorem stretch_stop {before : List CoreStep}
    (h : StopCommanded ((coreTrace before).rtakeWhile sampledRunning)) :
    StartsInRegen ((coreTrace before).rtakeWhile sampledRunning) ∨
      (coreFinal before).gState = .regenRunning :=
  stretch_exists coreStep (G := fun s => s.gState = .regenRunning) (fun _ _ _ hs => Or.inl hs)
    (fun _ _ _ hout => record_stop hout) h

theorem stretch_regen {before : List CoreStep}
    (h : StartsInRegen ((coreTrace before).rtakeWhile sampledRunning)) :
    StopCommanded ((coreTrace before).rtakeWhile sampledRunning) ∨
      (coreFinal before).gState = .regenRunning :=
  stretch_exists coreStep (G := fun s => s.gState = .regenRunning)
    (fun _ _ hrun hs => record_running hrun hs) (fun _ _ hrun hs => record_running hrun hs) h

theorem exists_runningStretch {h : List CoreRecord} {r : CoreRecord} {P : CoreRecord → Prop} :
    (∃ q ∈ runningStretch h r, P q) ↔ (∃ q ∈ h.rtakeWhile sampledRunning, P q) ∨ P r := by
  simp only [runningStretch, List.mem_append, List.mem_singleton, or_and_right, exists_or,
    exists_eq_left]

/-- **The fault interlock, exactly.** A running machine under a fault has been told
to stop if and only if the core was in `REGEN_RUNNING` before one of the iterations
of the running stretch. -/
theorem fault_interlock_iff (as : List CoreStep) (h t : List CoreRecord) (r : CoreRecord)
    (he : coreTrace as = h ++ r :: t) (hr : SampledRunningFault r) :
    StopCommanded (runningStretch h r) ↔ StartsInRegen (runningStretch h r) := by
  obtain ⟨before, a, rfl, rfl⟩ := coreTrace_split he
  obtain ⟨smp, rd, rfl, hrd, hvalid, hreg, hlow⟩ := hr
  have hf : rd.verdict.isFault = true := (isFault_verdict rd).mpr (Or.inr hlow)
  have hself : .command false ∈ (record coreStep (coreFinal before) (.iterate smp)).out ↔
      (coreFinal before).gState = .regenRunning := by
    simp only [record, coreStep, coreTask, hrd]
    refine ⟨fun hout => (command_false_mem hout).resolve_right fun hv => ?_,
      fun hs => command_false_of_fault smp hs hf⟩
    rw [hv] at hf
    cases hf
  unfold StopCommanded StartsInRegen
  rw [exists_runningStretch, exists_runningStretch]
  constructor
  · rintro (hold | hnew)
    · exact stretch_stop hold
    · exact Or.inr (hself.mp hnew)
  · rintro (hold | hnew)
    · exact (stretch_regen hold).imp id hself.mpr
    · exact Or.inr (hself.mpr hnew)

/-- A sample of three valid tags, taken under the lock. -/
def validSample (pressure salt : Float32Bits) (running : Bool) (millis : BitVec 32) : Sample where
  pressureTag := some ⟨relayControl 2 "MODE-YC" "HDR0030/MODE-YC-100" 1,
    TagValue.zero.setF32v pressure, 0, true, true⟩
  saltTag := some ⟨relayControl 3 "RSP-YC" "HDR0030/RSP-YC-101" 2,
    TagValue.zero.setF32v salt, 0, true, true⟩
  regenStatTag := some ⟨relayControl 6 "PSS-YC" "HDR0030/PSS-YC-104" 5,
    TagValue.zero.setBv running, 0, true, true⟩
  lock := .ok
  startMillis := millis
  timerMillis := millis

/-- 30.0 psi. -/
def goodPressure : Float32Bits := 0x41F00000

/-- 50.0 percent. -/
def goodSalt : Float32Bits := 0x42480000

/-- A cycle seen running first and under a fault ten seconds later. -/
theorem running_fault_after_start :
    StopCommanded (runningStretch
        (coreTrace [.iterate (validSample goodPressure goodSalt true 0)])
        (record coreStep (coreFinal [.iterate (validSample goodPressure goodSalt true 0)])
          (.iterate (validSample 0 goodSalt true 10000)))) :=
  (fault_interlock_iff
    [.iterate (validSample goodPressure goodSalt true 0), .iterate (validSample 0 goodSalt true 10000)]
    (coreTrace [.iterate (validSample goodPressure goodSalt true 0)]) [] _ rfl
    ⟨_, _, rfl, rfl, by decide, by decide, Or.inl (by decide)⟩).mpr (by decide)

/-- The first sample of a run shows the machine running at zero pressure: no STOP. -/
theorem running_fault_without_stop :
    ¬ ∀ (as : List CoreStep) (h t : List CoreRecord) (r : CoreRecord),
      coreTrace as = h ++ r :: t → SampledRunningFault r → StopCommanded (runningStretch h r) := by
  intro hall
  have hstop := hall [.iterate (validSample 0 goodSalt true 0)] [] [] _ rfl
    ⟨_, _, rfl, rfl, by decide, by decide, Or.inl (by decide)⟩
  revert hstop
  decide

/-! ## The start interlock -/

/-- The iteration got past the NULL test and took the pending flags. -/
def consumes (r : CoreRecord) : Bool :=
  match r.label with
  | .iterate smp => smp.sensors.isSome
  | .request => false
  | .abort => false

/-- What happened since the last iteration that took the pending flags. -/
def unconsumed (h : List CoreRecord) : List CoreRecord := h.rtakeWhile fun r => !consumes r

def AcceptedRequest (r : CoreRecord) : Prop :=
  r.label = .request ∧ (coreRequestRegen r.pre).2 = .ok

def AcceptedAbort (r : CoreRecord) : Prop :=
  r.label = .abort ∧ (coreAbortRegen r.pre).2 = .ok

/-- What a START of iteration `r` after the history `h` takes for granted. -/
structure SafeStart (h : List CoreRecord) (r : CoreRecord) : Prop where
  requested : ∃ q ∈ unconsumed h, AcceptedRequest q
  notAborted : ¬ ∃ q ∈ unconsumed h, AcceptedAbort q
  sampled : ∃ smp pressure salt regenStat, r.label = .iterate smp ∧
    smp.pressureTag = some pressure ∧ smp.saltTag = some salt ∧ smp.regenStatTag = some regenStat ∧
    pressure.valid = true ∧ salt.valid = true ∧ regenStat.valid = true ∧
    regenStat.value.bv = false ∧
    minWaterPressure.le pressure.value.f32v = true ∧ minSaltLevel.le salt.value.f32v = true

/-- No request causes two STARTs: an iteration sends one at most, and what a later
START consumes was all requested after the earlier one. -/
def OneStartPerRequest (tr : List CoreRecord) : Prop :=
  (∀ r ∈ tr, r.out.count (.command true) ≤ 1) ∧
  ∀ (h m t : List CoreRecord) (q r : CoreRecord), tr = h ++ q :: (m ++ r :: t) →
    .command true ∈ q.out → .command true ∈ r.out → unconsumed (h ++ q :: m) <:+ m

/-- A request is up and nothing in the sample compares as a fault, but a NaN was sampled. -/
def StartsOnNan (r : CoreRecord) : Prop :=
  ∃ smp rd, r.label = .iterate smp ∧ smp.sensors = some rd ∧ r.pre.gRegenPending = true ∧
    r.pre.gAbortPending = false ∧ rd.processDataValid = true ∧ rd.isRegenerating = false ∧
    rd.lowPressure = false ∧ rd.lowSalt = false ∧
    (rd.currentPressure.isNaN = true ∨ rd.currentSalt.isNaN = true)

theorem coreStep_regenPending (s : CoreState) (a : CoreStep) :
    (coreStep s a).1.gRegenPending = true ↔
      (!consumes (record coreStep s a)) = true ∧
        (s.gRegenPending = true ∨ AcceptedRequest (record coreStep s a)) := by
  cases a with
  | request =>
    by_cases hi : s.gInitialized = true <;>
      simp [consumes, record, coreStep, AcceptedRequest, coreRequestRegen, hi]
  | abort =>
    by_cases hi : s.gInitialized = true <;>
      simp [consumes, record, coreStep, AcceptedRequest, coreAbortRegen, hi]
  | iterate smp =>
    cases hr : smp.sensors with
    | none => simp [consumes, record, coreStep_skip s hr, AcceptedRequest, hr]
    | some rd => simp [consumes, record, coreStep_pass s hr, (corePass_frame s smp rd).2.2.1, hr]

theorem coreStep_abortPending (s : CoreState) (a : CoreStep) :
    (coreStep s a).1.gAbortPending = true ↔
      (!consumes (record coreStep s a)) = true ∧
        (s.gAbortPending = true ∨ AcceptedAbort (record coreStep s a)) := by
  cases a with
  | request =>
    by_cases hi : s.gInitialized = true <;>
      simp [consumes, record, coreStep, AcceptedAbort, coreRequestRegen, hi]
  | abort =>
    by_cases hi : s.gInitialized = true <;>
      simp [consumes, record, coreStep, AcceptedAbort, coreAbortRegen, hi]
  | iterate smp =>
    cases hr : smp.sensors with
    | none => simp [consumes, record, coreStep_skip s hr, AcceptedAbort, hr]
    | some rd => simp [consumes, record, coreStep_pass s hr, (corePass_frame s smp rd).2.2.2, hr]

/-- The pending flags are what the calls since the last consuming iteration left. -/
theorem regenPending_iff (as : List CoreStep) :
    (coreFinal as).gRegenPending = true ↔ ∃ q ∈ unconsumed (coreTrace as), AcceptedRequest q :=
  flag_iff_stretch coreStep (G := fun s => s.gRegenPending = true) coreStep_regenPending
    (by decide) as

theorem abortPending_iff (as : List CoreStep) :
    (coreFinal as).gAbortPending = true ↔ ∃ q ∈ unconsumed (coreTrace as), AcceptedAbort q :=
  flag_iff_stretch coreStep (G := fun s => s.gAbortPending = true) coreStep_abortPending
    (by decide) as

/-- An iteration that sends a START got past the NULL test. -/
theorem start_pass {s : CoreState} {a : CoreStep}
    (h : .command true ∈ (record coreStep s a).out) :
    ∃ smp rd, a = .iterate smp ∧ smp.sensors = some rd ∧ s.gAbortPending = false ∧
      s.gRegenPending = true ∧ rd.verdict = .normal := by
  rcases coreStep_cases s a with ⟨smp, rd, rfl, hr, hstep⟩ | ⟨-, -, hsilent⟩
  · rw [record, hstep] at h
    obtain ⟨ha, hp, hv⟩ := (command_true_mem_iff s smp rd).mp h
    exact ⟨smp, rd, rfl, hr, ha, hp, hv⟩
  · rw [record, hsilent] at h
    cases h

theorem oneStartPerRequest (as : List CoreStep) : OneStartPerRequest (coreTrace as) := by
  refine ⟨fun r hr => ?_, fun h m t q r he hq _ => ?_⟩
  · obtain ⟨before, a, rfl⟩ := reached_of_mem coreStep hr
    rcases coreStep_cases (final coreStep coreBoot before) a with
      ⟨smp, rd, -, -, hstep⟩ | ⟨-, -, hsilent⟩
    · simp only [record, hstep, count_command_true]
      split <;> decide
    · rw [record, hsilent]
      exact Nat.zero_le 1
  · obtain ⟨before, a, -, rfl⟩ := coreTrace_split he
    obtain ⟨smp, rd, rfl, hrd, -⟩ := start_pass hq
    exact rtakeWhile_suffix_of_neg _ h m (by simp [consumes, record, hrd])

/-- What the sampling block read when it found the data valid. -/
theorem sensors_eq {smp : Sample} {rd : Sensors} (hr : smp.sensors = some rd)
    (hv : rd.processDataValid = true) :
    ∃ pressure salt regenStat, smp.pressureTag = some pressure ∧ smp.saltTag = some salt ∧
      smp.regenStatTag = some regenStat ∧ pressure.valid = true ∧ salt.valid = true ∧
      regenStat.valid = true ∧
      rd = ⟨pressure.value.f32v, salt.value.f32v, regenStat.value.bv, true⟩ := by
  unfold Sample.sensors at hr
  split at hr
  · next pressure salt regenStat hp hs hg =>
    obtain rfl := Option.some.inj hr
    unfold readSensors at hv ⊢
    split at hv
    · next hok =>
      rw [if_pos hok]
      exact ⟨pressure, salt, regenStat, hp, hs, hg, hok.2.1, hok.2.2.1, hok.2.2.2, rfl⟩
    · cases hv
  · cases hr

theorem minWaterPressure_le_iff {x : Float32Bits} (h : x.lt minWaterPressure = false) :
    minWaterPressure.le x = true ↔ x.isNaN = false :=
  ⟨fun hle => not_isNaN_of_le hle, fun hn => le_of_lt_eq_false hn (by decide) h⟩

theorem minSaltLevel_le_iff {x : Float32Bits} (h : x.lt minSaltLevel = false) :
    minSaltLevel.le x = true ↔ x.isNaN = false :=
  ⟨fun hle => not_isNaN_of_le hle, fun hn => le_of_lt_eq_false hn (by decide) h⟩

/-- A START is safe unless it was let through by a NaN. -/
theorem safeStart_iff (before : List CoreStep) (a : CoreStep)
    (h : .command true ∈ (record coreStep (coreFinal before) a).out) :
    SafeStart (coreTrace before) (record coreStep (coreFinal before) a) ↔
      ¬ StartsOnNan (record coreStep (coreFinal before) a) := by
  obtain ⟨smp, rd, rfl, hrd, habort, hregen, hnormal⟩ := start_pass h
  obtain ⟨hvalid, hlowp, hlows, hrun⟩ := (verdict_normal_iff rd).mp hnormal
  obtain ⟨pressure, salt, regenStat, hp, hs, hg, hpv, hsv, hgv, rfl⟩ := sensors_eq hrd hvalid
  have hpn := minWaterPressure_le_iff hlowp
  have hsn := minSaltLevel_le_iff hlows
  constructor
  · rintro hsafe ⟨smp', rd', hl, hrd', -, -, -, -, -, -, hnan⟩
    obtain ⟨smp'', pressure', salt', regenStat', hl', hp', hs', -, -, -, -, -, hple, hsle⟩ :=
      hsafe.sampled
    obtain rfl : smp = smp' := CoreStep.iterate.inj hl
    obtain rfl : smp = smp'' := CoreStep.iterate.inj hl'
    obtain rfl := Option.some.inj (hrd.symm.trans hrd')
    obtain rfl := Option.some.inj (hp.symm.trans hp')
    obtain rfl := Option.some.inj (hs.symm.trans hs')
    rcases hnan with hnan | hnan
    · exact Bool.false_ne_true ((hpn.mp hple).symm.trans hnan)
    · exact Bool.false_ne_true ((hsn.mp hsle).symm.trans hnan)
  · intro hnan
    have hnums : pressure.value.f32v.isNaN = false ∧ salt.value.f32v.isNaN = false := by
      constructor
      · rw [← Bool.not_eq_true]
        exact fun hn => hnan ⟨smp, _, rfl, hrd, hregen, habort, hvalid, hrun, hlowp, hlows, Or.inl hn⟩
      · rw [← Bool.not_eq_true]
        exact fun hn => hnan ⟨smp, _, rfl, hrd, hregen, habort, hvalid, hrun, hlowp, hlows, Or.inr hn⟩
    refine ⟨(regenPending_iff before).mp hregen, fun ha => ?_, smp, pressure, salt, regenStat, rfl,
      hp, hs, hg, hpv, hsv, hgv, hrun, hpn.mpr hnums.1, hsn.mpr hnums.2⟩
    exact Bool.false_ne_true (habort.symm.trans ((abortPending_iff before).mpr ha))

theorem start_of_startsOnNan {s : CoreState} {a : CoreStep} (h : StartsOnNan (record coreStep s a)) :
    .command true ∈ (record coreStep s a).out := by
  obtain ⟨smp, rd, rfl, hrd, hregen, habort, hvalid, hrun, hlowp, hlows, -⟩ := h
  have hv : rd.verdict = .normal := (verdict_normal_iff rd).mpr ⟨hvalid, hlowp, hlows, hrun⟩
  show .command true ∈ (coreStep s (.iterate smp)).2
  rw [coreStep_pass s hrd]
  exact (command_true_mem_iff s smp rd).mpr ⟨habort, hregen, hv⟩

/-- **The start interlock, exactly.** Every START of a run is safe, and no request
causes two, if and only if no iteration that would start the machine sampled a NaN. -/
theorem start_interlock_iff (as : List CoreStep) :
    ((∀ h r t, coreTrace as = h ++ r :: t → .command true ∈ r.out → SafeStart h r) ∧
      OneStartPerRequest (coreTrace as)) ↔ ∀ r ∈ coreTrace as, ¬ StartsOnNan r := by
  constructor
  · rintro ⟨hsafe, -⟩ r hr hnan
    obtain ⟨h, t, he⟩ := List.append_of_mem hr
    obtain ⟨before, a, rfl, rfl⟩ := coreTrace_split he
    have hstart := start_of_startsOnNan hnan
    exact (safeStart_iff before a hstart).mp (hsafe _ _ _ he hstart) hnan
  · intro hnan
    refine ⟨fun h r t he hstart => ?_, oneStartPerRequest as⟩
    have hr : r ∈ coreTrace as := by rw [he]; exact List.mem_append_right _ List.mem_cons_self
    obtain ⟨before, a, rfl, rfl⟩ := coreTrace_split he
    exact (safeStart_iff before a hstart).mpr (hnan _ hr)

/-- A quiet NaN. -/
def nan : Float32Bits := 0x7FC00000

/-- A pressure of NaN is not below the threshold, and the machine is started. -/
theorem start_on_nan_pressure :
    ¬ ∀ as : List CoreStep,
      (∀ h r t, coreTrace as = h ++ r :: t → .command true ∈ r.out → SafeStart h r) ∧
        OneStartPerRequest (coreTrace as) := by
  intro hall
  have hsafe := (hall [.request, .iterate (validSample nan goodSalt false 0)]).1
    (coreTrace [.request]) _ [] rfl (by decide)
  exact (safeStart_iff [.request] (.iterate (validSample nan goodSalt false 0)) (by decide)).mp hsafe
    ⟨_, _, rfl, rfl, by decide, by decide, by decide, by decide, by decide, by decide,
      Or.inl (by decide)⟩

end XIoT.Core
