import XIoT.CoreAbort

/-!
# Faults: the STOP they send and the event that announces them

Two blocks of an iteration send a STOP when `REGEN_RUNNING` is left with a fault, and
the second repeats the guard of the first. A fault is announced when `FAULT` is entered,
and `FAULT` has two causes.
-/

namespace XIoT.Core

open Lib.Trace

/-! ## Leaving a cycle -/

/-- Leaving `REGEN_RUNNING` stops the machine once under a fault and not at all without
one, and no iteration commands both ways. -/
structure StopsOnce (r : CoreRecord) : Prop where
  faulted : LeavesRegen r → SawFault r → r.out.count (.command false) = 1 ∧ .command true ∉ r.out
  unfaulted : LeavesRegen r → ¬ SawFault r → .command false ∉ r.out
  oneWay : ¬ (.command true ∈ r.out ∧ .command false ∈ r.out)

/-- The STOPs of a pass that leaves `REGEN_RUNNING`: that of the exit transition and
that of the mid-cycle protection. -/
theorem count_command_false_leaving {s : CoreState} (smp : Sample) {rd : Sensors}
    (hs : s.gState = .regenRunning) (hv : rd.verdict ≠ .running) :
    (corePass s smp rd).calls.count (.command false) =
      (if rd.verdict.isFault = true then 1 else 0) +
        (if rd.verdict.isFault = true ∧ rd.isRegenerating = true then 1 else 0) := by
  have he : (evaluatedCalls s smp rd.verdict).count (.command false) = 0 := by
    cases hverdict : rd.verdict with
    | running => exact absurd hverdict hv
    | normal => rfl
    | dataLoss | lowPressure | lowSalt =>
      simp only [evaluatedCalls]
      split <;> rfl
  have hx : (exitCalls s rd.verdict).count (.command false) =
      if rd.verdict.isFault = true then 1 else 0 := by
    rw [exitCalls, if_pos ⟨hs, hv⟩]
    split <;> rfl
  have hm : (midCycleCalls s rd).count (.command false) =
      if rd.verdict.isFault = true ∧ rd.isRegenerating = true then 1 else 0 := by
    simp only [midCycleCalls, hs, and_true]
    split <;> rfl
  have hc : (commandCalls s rd.verdict).count (.command false) = 0 := by
    rw [commandCalls, if_neg hv]
    split_ifs <;> rfl
  rw [corePass_eq]
  simp only [List.count_append, he, hx, hm, hc, Nat.zero_add, Nat.add_zero]

/-- A START comes from a pass that finds nothing wrong, and such a pass sends no STOP. -/
theorem commands_oneWay (s : CoreState) (a : CoreStep) :
    ¬ (.command true ∈ (record coreStep s a).out ∧ .command false ∈ (record coreStep s a).out) := by
  rintro ⟨hstart, hstop⟩
  obtain ⟨smp, rd, rfl, hrd, -, -, hnormal⟩ := start_pass hstart
  have hout : (record coreStep s (.iterate smp)).out = (corePass s smp rd).calls :=
    congrArg Prod.snd (coreStep_pass s hrd)
  have hv : rd.verdict ≠ .running := by rw [hnormal]; decide
  rw [hout] at hstop
  have hs : s.gState = .regenRunning := (command_false_mem hstop).resolve_right hv
  have hfault : ¬ rd.verdict.isFault = true := by rw [hnormal]; decide
  have hnone : (corePass s smp rd).calls.count (.command false) = 0 := by
    rw [count_command_false_leaving smp hs hv, if_neg hfault, if_neg fun h => hfault h.1]
  exact List.count_eq_zero.mp hnone hstop

/-- Data sampled with the machine running is valid: a fault is then one of the two values. -/
theorem sampledRunningFault_iff {r : CoreRecord} {smp : Sample} {rd : Sensors}
    (hlabel : r.label = .iterate smp) (hrd : smp.sensors = some rd) :
    SampledRunningFault r ↔ rd.verdict.isFault = true ∧ rd.isRegenerating = true := by
  rw [isFault_verdict]
  constructor
  · rintro ⟨smp', rd', hlabel', hrd', -, hrun, hlow⟩
    obtain rfl := CoreStep.iterate.inj (hlabel.symm.trans hlabel')
    obtain rfl := Option.some.inj (hrd.symm.trans hrd')
    exact ⟨Or.inr hlow, hrun⟩
  · rintro ⟨hfault, hrun⟩
    have hvalid := sensors_valid hrd hrun
    refine ⟨smp, rd, hlabel, hrd, hvalid, hrun, hfault.resolve_left fun h => ?_⟩
    exact Bool.false_ne_true (h.symm.trans hvalid)

theorem leavesRegen_pass {s : CoreState} {a : CoreStep} (h : LeavesRegen (record coreStep s a)) :
    ∃ smp rd, a = .iterate smp ∧ smp.sensors = some rd ∧ s.gState = .regenRunning ∧
      rd.verdict ≠ .running ∧ (record coreStep s a).out = (corePass s smp rd).calls := by
  obtain ⟨hpre, hpost⟩ := h
  have hs : s.gState = .regenRunning := hpre
  change (coreStep s a).1.gState ≠ .regenRunning at hpost
  rcases coreStep_cases s a with ⟨smp, rd, rfl, hrd, hstep⟩ | ⟨⟨hg, -, -⟩, -, -⟩
  · rw [hstep] at hpost
    exact ⟨smp, rd, rfl, hrd, hs, mt (corePass_gState_eq_regenRunning s smp rd).mpr hpost,
      congrArg Prod.snd hstep⟩
  · exact absurd (hg.trans hs) hpost

/-- The second STOP is that of a machine still seen running. -/
theorem record_stopsOnce (s : CoreState) (a : CoreStep) :
    StopsOnce (record coreStep s a) ↔
      ¬ (s.gState = .regenRunning ∧ SampledRunningFault (record coreStep s a)) := by
  constructor
  · rintro honce ⟨hs, hsampled⟩
    obtain ⟨smp, rd, rfl, hrd, hvalid, hrun, hlow⟩ := id hsampled
    have hfault := ((sampledRunningFault_iff rfl hrd).mp hsampled).1
    have hv : rd.verdict ≠ .running := by
      intro h
      rw [h] at hfault
      cases hfault
    have hleaves : LeavesRegen (record coreStep s (.iterate smp)) := by
      refine ⟨hs, ?_⟩
      change (coreStep s (.iterate smp)).1.gState ≠ .regenRunning
      rw [coreStep_pass s hrd]
      exact mt (corePass_gState_eq_regenRunning s smp rd).mp hv
    have hcount := (honce.faulted hleaves ⟨smp, rfl, rd, hrd, Or.inr hlow⟩).1
    have htwo := count_command_false_leaving smp hs hv
    rw [if_pos hfault, if_pos ⟨hfault, hrun⟩] at htwo
    change (coreStep s (.iterate smp)).2.count (.command false) = 1 at hcount
    rw [coreStep_pass s hrd, htwo] at hcount
    cases hcount
  · intro hnot
    refine ⟨fun hleaves hsaw => ?_, fun hleaves hsaw => ?_, commands_oneWay s a⟩
    · obtain ⟨smp, rd, rfl, hrd, hs, hv, hout⟩ := leavesRegen_pass hleaves
      obtain ⟨smp', hlabel, rd', hrd', hfault⟩ := hsaw
      obtain rfl := CoreStep.iterate.inj hlabel
      obtain rfl := Option.some.inj (hrd.symm.trans hrd')
      have hf : rd.verdict.isFault = true := (isFault_verdict rd).mpr hfault
      have hrun : ¬ (rd.verdict.isFault = true ∧ rd.isRegenerating = true) := fun h =>
        hnot ⟨hs, (sampledRunningFault_iff rfl hrd).mpr h⟩
      have hone : (record coreStep s (.iterate smp)).out.count (.command false) = 1 := by
        rw [hout, count_command_false_leaving smp hs hv, if_pos hf, if_neg hrun]
      refine ⟨hone, fun hstart => commands_oneWay s (.iterate smp) ⟨hstart, ?_⟩⟩
      exact List.count_pos_iff.mp (by rw [hone]; decide)
    · obtain ⟨smp, rd, rfl, hrd, hs, hv, hout⟩ := leavesRegen_pass hleaves
      have hf : ¬ rd.verdict.isFault = true := fun h =>
        hsaw ⟨smp, rfl, rd, hrd, (isFault_verdict rd).mp h⟩
      rw [hout, ← List.count_eq_zero, count_command_false_leaving smp hs hv, if_neg hf,
        if_neg fun h => hf h.1]

/-- **Leaving a cycle stops the machine once, exactly.** It does in every iteration of a
run if and only if no iteration finds the core in `REGEN_RUNNING` and samples a value
below its threshold while the machine is still reported running. -/
theorem stops_once_iff (as : List CoreStep) :
    (∀ r ∈ coreTrace as, StopsOnce r) ↔
      ∀ r ∈ coreTrace as, ¬ (r.pre.gState = .regenRunning ∧ SampledRunningFault r) := by
  have hrecord : ∀ r ∈ coreTrace as,
      (StopsOnce r ↔ ¬ (r.pre.gState = .regenRunning ∧ SampledRunningFault r)) := by
    intro r hr
    rw [record_of_mem coreStep hr]
    exact record_stopsOnce r.pre r.label
  exact ⟨fun h r hr => (hrecord r hr).mp (h r hr), fun h r hr => (hrecord r hr).mpr (h r hr)⟩

/-- The pressure breaks down in a cycle and the status tag still says running: two STOPs. -/
theorem two_stops_under_fault :
    ¬ ∀ as : List CoreStep, ∀ r ∈ coreTrace as, StopsOnce r := by
  intro hall
  have honce := hall [goodSample true 0, .iterate (validSample 0 goodSalt true 2000)] _
    (List.mem_cons_of_mem _ List.mem_cons_self)
  have hcount := (honce.faulted ⟨by decide, by decide⟩ ⟨_, rfl, _, rfl, Or.inr (Or.inl (by decide))⟩).1
  revert hcount
  decide

/-! ## The announced fault -/

/-- The event is one of the three that announce a fault. -/
def faultEvent : CoreCall → Option CoreEvent
  | .post .faultLowPressure => some .faultLowPressure
  | .post .faultLowSalt => some .faultLowSalt
  | .post .faultDataLoss => some .faultDataLoss
  | _ => none

def faultEvents (calls : List CoreCall) : List CoreEvent := calls.filterMap faultEvent

/-- The most recent fault event of a history. -/
def announcedFault (h : List CoreRecord) : Option CoreEvent :=
  (faultEvents (h.flatMap Record.out)).getLast?

/-- The iteration sampled valid data with low pressure, or with low salt and a pressure
that is not low. -/
inductive SampledFault (r : CoreRecord) : CoreEvent → Prop where
  | lowPressure (smp : Sample) (rd : Sensors) (hlabel : r.label = .iterate smp)
      (hrd : smp.sensors = some rd) (hvalid : rd.processDataValid = true)
      (hlow : rd.lowPressure = true) : SampledFault r .faultLowPressure
  | lowSalt (smp : Sample) (rd : Sensors) (hlabel : r.label = .iterate smp)
      (hrd : smp.sensors = some rd) (hvalid : rd.processDataValid = true)
      (hpressure : rd.lowPressure = false) (hlow : rd.lowSalt = true) :
      SampledFault r .faultLowSalt

theorem faultEvents_append (l m : List CoreCall) :
    faultEvents (l ++ m) = faultEvents l ++ faultEvents m := List.filterMap_append

/-- Only the evaluation announces faults, and only on entry. -/
theorem faultEvents_corePass (s : CoreState) (smp : Sample) (rd : Sensors) :
    faultEvents (corePass s smp rd).calls =
      match rd.verdict with
      | .dataLoss => if s.gState ≠ .idle then [.faultDataLoss] else []
      | .lowPressure => if s.gState ≠ .fault then [.faultLowPressure] else []
      | .lowSalt => if s.gState ≠ .fault then [.faultLowSalt] else []
      | .running => []
      | .normal => [] := by
  have hx : faultEvents (exitCalls s rd.verdict) = [] := by
    unfold exitCalls
    split_ifs <;> rfl
  have hm : faultEvents (midCycleCalls s rd) = [] := by
    unfold midCycleCalls
    split <;> rfl
  have hc : faultEvents (commandCalls s rd.verdict) = [] := by
    unfold commandCalls
    split_ifs <;> rfl
  rw [corePass_eq]
  simp only [faultEvents_append, hx, hm, hc, List.append_nil]
  cases rd.verdict with
  | normal => rfl
  | dataLoss | lowPressure | lowSalt =>
    simp only [evaluatedCalls]
    split <;> rfl
  | running =>
    simp only [evaluatedCalls, cycleStart, cycleTimer]
    split_ifs <;> rfl

theorem corePass_gState_eq_fault (s : CoreState) (smp : Sample) (rd : Sensors) :
    (corePass s smp rd).core.gState = .fault ↔ rd.verdict = .lowPressure ∨ rd.verdict = .lowSalt := by
  rw [corePass_gState]
  cases rd.verdict <;> simp [Verdict.nextState]

theorem verdict_eq_lowPressure {rd : Sensors} : rd.verdict = .lowPressure ↔
    rd.processDataValid = true ∧ rd.lowPressure = true := by
  unfold Sensors.verdict
  split_ifs <;> simp_all

theorem verdict_eq_lowSalt {rd : Sensors} : rd.verdict = .lowSalt ↔
    rd.processDataValid = true ∧ rd.lowPressure = false ∧ rd.lowSalt = true := by
  unfold Sensors.verdict
  split_ifs <;> simp_all

/-- A step that enters `FAULT` announces what it sampled. -/
theorem enters_fault {s : CoreState} {a : CoreStep} (hpre : s.gState ≠ .fault)
    (hpost : (coreStep s a).1.gState = .fault) :
    ∃ ev, SampledFault (record coreStep s a) ev ∧ faultEvents (record coreStep s a).out = [ev] := by
  rcases coreStep_cases s a with ⟨smp, rd, rfl, hrd, hstep⟩ | ⟨⟨hg, -, -⟩, -, -⟩
  · rw [record, hstep]
    rw [hstep] at hpost
    have hevents := faultEvents_corePass s smp rd
    rcases (corePass_gState_eq_fault s smp rd).mp hpost with hv | hv
    · obtain ⟨hvalid, hlow⟩ := verdict_eq_lowPressure.mp hv
      rw [hv] at hevents
      exact ⟨_, .lowPressure smp rd rfl hrd hvalid hlow, hevents.trans (if_pos hpre)⟩
    · obtain ⟨hvalid, hpressure, hlow⟩ := verdict_eq_lowSalt.mp hv
      rw [hv] at hevents
      exact ⟨_, .lowSalt smp rd rfl hrd hvalid hpressure hlow, hevents.trans (if_pos hpre)⟩
  · exact absurd (hg.symm.trans hpost) hpre

/-- A step within `FAULT` announces nothing. -/
theorem stays_in_fault {s : CoreState} {a : CoreStep} (hpre : s.gState = .fault)
    (hpost : (coreStep s a).1.gState = .fault) : faultEvents (record coreStep s a).out = [] := by
  rcases coreStep_cases s a with ⟨smp, rd, rfl, hrd, hstep⟩ | ⟨-, -, hsilent⟩
  · rw [record, hstep]
    rw [hstep] at hpost
    have hevents := faultEvents_corePass s smp rd
    have hnot : ¬ s.gState ≠ .fault := not_not.mpr hpre
    rcases (corePass_gState_eq_fault s smp rd).mp hpost with hv | hv
    · rw [hv] at hevents
      exact hevents.trans (if_neg hnot)
    · rw [hv] at hevents
      exact hevents.trans (if_neg hnot)
  · rw [record, hsilent]
    rfl

theorem announcedFault_of_stay {h t : List CoreRecord} {e : CoreRecord} {ev : CoreEvent}
    (he : faultEvents e.out = [ev]) (ht : ∀ r ∈ t, faultEvents r.out = []) :
    announcedFault (h ++ e :: t) = some ev := by
  have hrest : faultEvents (t.flatMap Record.out) = [] := by
    induction t with
    | nil => rfl
    | cons r t ih =>
      rw [List.flatMap_cons, faultEvents_append, ht r List.mem_cons_self,
        ih fun q hq => ht q (List.mem_cons_of_mem r hq)]
      rfl
  rw [announcedFault, List.flatMap_append, List.flatMap_cons, faultEvents_append,
    faultEvents_append, he, hrest, List.append_nil, List.getLast?_concat]

/-- One iteration samples one fault. -/
theorem SampledFault.unique {r : CoreRecord} {ev ev' : CoreEvent} (h : SampledFault r ev)
    (h' : SampledFault r ev') : ev = ev' := by
  cases h with
  | lowPressure smp rd hlabel hrd hvalid hlow =>
    cases h' with
    | lowPressure => rfl
    | lowSalt smp' rd' hlabel' hrd' hvalid' hpressure' hlow' =>
      obtain rfl := CoreStep.iterate.inj (hlabel.symm.trans hlabel')
      obtain rfl := Option.some.inj (hrd.symm.trans hrd')
      exact absurd (hlow.symm.trans hpressure') (by decide)
  | lowSalt smp rd hlabel hrd hvalid hpressure hlow =>
    cases h' with
    | lowSalt => rfl
    | lowPressure smp' rd' hlabel' hrd' hvalid' hlow' =>
      obtain rfl := CoreStep.iterate.inj (hlabel.symm.trans hlabel')
      obtain rfl := Option.some.inj (hrd.symm.trans hrd')
      exact absurd (hlow'.symm.trans hpressure) (by decide)

/-- **The announced fault is the one `FAULT` was entered with.** After every step that ends
in `FAULT`, `e` being the iteration that entered it last, the most recent fault event is
that of the values `e` sampled; it is that of the values the step itself sampled exactly
when `e` sampled the same fault. -/
theorem announced_fault_of_entry (as : List CoreStep) (h t : List CoreRecord) (r : CoreRecord)
    (he : coreTrace as = h ++ r :: t) (hr : r.post.gState = .fault) :
    ∃ m e n ev, h ++ [r] = m ++ e :: n ∧ e.pre.gState ≠ .fault ∧
      (∀ q ∈ e :: n, q.post.gState = .fault) ∧ SampledFault e ev ∧
      announcedFault (h ++ [r]) = some ev ∧
      ∀ ev', SampledFault r ev' → (announcedFault (h ++ [r]) = some ev' ↔ SampledFault e ev') := by
  obtain ⟨before, a, rfl, rfl⟩ := coreTrace_split he
  have hrun : coreTrace before ++ [record coreStep (coreFinal before) a] =
      coreTrace (before ++ [a]) := (trace_concat coreStep coreBoot before a).symm
  have hfinal : (coreFinal (before ++ [a])).gState = .fault := by
    rw [coreFinal, final_concat]
    exact hr
  obtain ⟨m, e, n, hsplit, hpre, hpost, hstay⟩ := entry_split coreStep
    (G := fun s => s.gState = .fault) (s := coreBoot) (by decide) hfinal
  have hof : ∀ q ∈ e :: n, q = record coreStep q.pre q.label := by
    intro q hq
    have hmem : q ∈ coreTrace (before ++ [a]) := by
      rw [coreTrace, hsplit]
      exact List.mem_append_right _ hq
    exact record_of_mem coreStep hmem
  have he' := hof e List.mem_cons_self
  have hpost' := hpost
  rw [he'] at hpost'
  obtain ⟨ev, hsampled, hevents⟩ := enters_fault hpre hpost'
  rw [← he'] at hsampled hevents
  have hannounced : announcedFault (m ++ e :: n) = some ev := by
    refine announcedFault_of_stay hevents fun q hq => ?_
    obtain ⟨hin, hin'⟩ := hstay q hq
    rw [hof q (List.mem_cons_of_mem e hq)] at hin' ⊢
    exact stays_in_fault hin hin'
  rw [hrun, coreTrace, hsplit, hannounced]
  refine ⟨m, e, n, ev, rfl, hpre, fun q hq => ?_, hsampled, rfl, fun ev' _ => ?_⟩
  · rcases List.mem_cons.mp hq with rfl | hq
    · exact hpost
    · exact (hstay q hq).2
  · constructor
    · intro heq
      obtain rfl := Option.some.inj heq
      exact hsampled
    · intro hsame
      rw [hsampled.unique hsame]

/-- Low salt first, zero pressure two seconds later. -/
def changingCause : List CoreStep :=
  [.iterate (validSample goodPressure 0 false 0), .iterate (validSample 0 0 false 2000)]

/-- The salt is still what is announced. -/
theorem announced_after_change :
    ∃ m e n ev, coreTrace changingCause = m ++ e :: n ∧ e.pre.gState ≠ .fault ∧
      (∀ q ∈ e :: n, q.post.gState = .fault) ∧ SampledFault e ev ∧
      announcedFault (coreTrace changingCause) = some ev ∧
      ∀ ev', SampledFault
        (record coreStep (coreFinal [.iterate (validSample goodPressure 0 false 0)])
          (.iterate (validSample 0 0 false 2000))) ev' →
        (announcedFault (coreTrace changingCause) = some ev' ↔ SampledFault e ev') :=
  announced_fault_of_entry changingCause
    (coreTrace [.iterate (validSample goodPressure 0 false 0)]) [] _ rfl (by decide)

/-- The pressure breaks down in a `FAULT` that low salt opened: it is not announced. -/
theorem low_pressure_unannounced :
    ¬ ∀ (as : List CoreStep) (h t : List CoreRecord) (r : CoreRecord),
      coreTrace as = h ++ r :: t → r.post.gState = .fault →
      ∀ ev, SampledFault r ev → announcedFault (h ++ [r]) = some ev := by
  intro hall
  have hlast := hall changingCause (coreTrace [.iterate (validSample goodPressure 0 false 0)]) [] _
    rfl (by decide) .faultLowPressure (.lowPressure _ _ rfl rfl (by decide) (by decide))
  revert hlast
  decide

end XIoT.Core
