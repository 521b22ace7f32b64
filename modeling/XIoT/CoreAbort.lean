import XIoT.CoreInterlock

/-!
# Aborts behind a START

A START shows in the samples only after a delay. An abort that is accepted meanwhile is
taken by the next iteration; if that iteration does not end in `REGEN_RUNNING`, the abort
is ignored and nothing of it is left when the machine is seen running.
-/

namespace XIoT.Core

open Lib.Trace

/-- The iteration saw valid data and the machine running. -/
def ReportsRunning (r : CoreRecord) : Prop :=
  ∃ smp rd, r.label = .iterate smp ∧ smp.sensors = some rd ∧ rd.isRegenerating = true

/-- The iteration saw valid data and the machine stopped. -/
def ReportsStopped (r : CoreRecord) : Prop :=
  ∃ smp rd, r.label = .iterate smp ∧ smp.sensors = some rd ∧ rd.processDataValid = true ∧
    rd.isRegenerating = false

/-- No sample reported the machine running and a later one stopped. -/
def OneCycle (l : List CoreRecord) : Prop :=
  l.Pairwise fun earlier later => ¬ (ReportsRunning earlier ∧ ReportsStopped later)

/-- An iteration that got past the NULL test and ends in `REGEN_RUNNING`. -/
def EndsRunning (r : CoreRecord) : Prop := consumes r = true ∧ r.post.gState = .regenRunning

/-- More than the longest cycle passes between the two clock readings of the iteration. -/
def TimerExpires (r : CoreRecord) : Prop :=
  ∃ smp, r.label = .iterate smp ∧ maxRegenTimeMs ≤ smp.timerMillis - smp.startMillis

/-! ## One iteration -/

theorem endsRunning_pass {s : CoreState} {a : CoreStep} (h : EndsRunning (record coreStep s a)) :
    ∃ smp rd, a = .iterate smp ∧ smp.sensors = some rd ∧ rd.verdict = .running := by
  obtain ⟨hconsumes, hpost⟩ := h
  cases a with
  | request => cases hconsumes
  | abort => cases hconsumes
  | iterate smp =>
    obtain ⟨rd, hrd⟩ := Option.isSome_iff_exists.mp hconsumes
    have hpost' : (coreStep s (.iterate smp)).1.gState = .regenRunning := hpost
    rw [coreStep_pass s hrd] at hpost'
    exact ⟨smp, rd, rfl, hrd, (corePass_gState_eq_regenRunning s smp rd).mp hpost'⟩

/-- `REGEN_RUNNING` is entered by an evaluation only. -/
theorem enters_pass {s : CoreState} {a : CoreStep} (hs : s.gState ≠ .regenRunning)
    (h : (coreStep s a).1.gState = .regenRunning) : EndsRunning (record coreStep s a) := by
  rcases coreStep_cases s a with ⟨smp, rd, rfl, hrd, -⟩ | ⟨⟨hg, -, -⟩, -, -⟩
  · exact ⟨by simp [consumes, record, hrd], h⟩
  · exact absurd (hg.symm.trans h) hs

theorem running_verdict_iff (rd : Sensors) : rd.verdict = .running ↔
    rd.processDataValid = true ∧ rd.lowPressure = false ∧ rd.lowSalt = false ∧
      rd.isRegenerating = true := by
  unfold Sensors.verdict
  split_ifs <;> simp_all

/-- A pending abort is heard by an iteration that ends in `REGEN_RUNNING`. -/
theorem command_false_of_pending {s : CoreState} (smp : Sample) {rd : Sensors}
    (hpending : s.gAbortPending = true) (hrunning : rd.verdict = .running) :
    .command false ∈ (corePass s smp rd).calls := by
  have hc : .command false ∈ commandCalls s rd.verdict := by
    rw [commandCalls, if_pos hpending, if_pos hrunning]
    exact List.mem_singleton_self _
  rw [corePass_eq]
  exact List.mem_append_right _ hc

/-- What makes an iteration that enters `REGEN_RUNNING` send a STOP. -/
theorem command_false_entering_iff {s : CoreState} (smp : Sample) {rd : Sensors}
    (hs : s.gState ≠ .regenRunning) (hrunning : rd.verdict = .running) :
    .command false ∈ (corePass s smp rd).calls ↔
      s.gAbortPending = true ∨ maxRegenTimeMs ≤ smp.timerMillis - smp.startMillis := by
  have he : .command false ∈ evaluatedCalls s smp rd.verdict ↔
      maxRegenTimeMs ≤ smp.timerMillis - smp.startMillis := by
    rw [hrunning, evaluatedCalls, cycleStart, if_pos hs, cycleTimer]
    split_ifs with hexpired
    · simp [hexpired.1]
    · simpa using hexpired
  have hx : exitCalls s rd.verdict = [] := by rw [exitCalls, if_neg fun h => hs h.1]
  have hm : midCycleCalls s rd = [] := by rw [midCycleCalls, if_neg fun h => hs h.2.2]
  have hc : .command false ∈ commandCalls s rd.verdict ↔ s.gAbortPending = true := by
    rw [hrunning, commandCalls]
    split_ifs with hpending <;> simp_all
  rw [corePass_eq]
  simp only [List.mem_append, he, hx, hm, hc, List.not_mem_nil, or_false]
  exact or_comm

/-! ## The window after the abort -/

/-- Outside `REGEN_RUNNING`, and as long as it is not entered, nothing sends a STOP. -/
theorem window_quiet {s : CoreState} (hs : s.gState ≠ .regenRunning) {as : List CoreStep}
    (hfirst : ∀ r ∈ trace coreStep s as, ¬ EndsRunning r) :
    (∀ r ∈ trace coreStep s as, .command false ∉ r.out) ∧
      (final coreStep s as).gState ≠ .regenRunning := by
  obtain ⟨hpre, hfinal⟩ := trace_invariant coreStep (I := fun s => s.gState ≠ .regenRunning)
    (fun s a hs hnot h => hnot (enters_pass hs h)) hs hfirst
  refine ⟨fun r hr hout => ?_, hfinal⟩
  have hrecord := record_of_mem coreStep hr
  rw [hrecord] at hout
  have hpost := (record_stop hout).resolve_left (hpre r hr)
  have hends := enters_pass (hpre r hr) hpost
  rw [← hrecord] at hends
  exact hfirst r hr hends

/-- Within `REGEN_RUNNING` a pending abort lasts until a STOP or a sample that reports the
machine stopped. -/
theorem pending_step (s : CoreState) (a : CoreStep)
    (hs : s.gState = .regenRunning ∧ s.gAbortPending = true)
    (h : .command false ∉ (record coreStep s a).out ∧ ¬ ReportsStopped (record coreStep s a)) :
    (coreStep s a).1.gState = .regenRunning ∧ (coreStep s a).1.gAbortPending = true := by
  obtain ⟨hrunning, hpending⟩ := hs
  obtain ⟨hquiet, hstopped⟩ := h
  cases a with
  | request =>
    refine ⟨(coreRequestRegen_frame s).1.trans hrunning, ?_⟩
    exact (coreStep_abortPending s .request).mpr ⟨rfl, Or.inl hpending⟩
  | abort =>
    refine ⟨(coreAbortRegen_frame s).1.trans hrunning, ?_⟩
    exact (coreStep_abortPending s .abort).mpr ⟨rfl, Or.inl hpending⟩
  | iterate smp =>
    cases hrd : smp.sensors with
    | none =>
      rw [coreStep_skip s hrd]
      exact ⟨hrunning, hpending⟩
    | some rd =>
      exfalso
      have hout : (record coreStep s (.iterate smp)).out = (corePass s smp rd).calls :=
        congrArg Prod.snd (coreStep_pass s hrd)
      rw [hout] at hquiet
      by_cases hfault : rd.verdict.isFault = true
      · exact hquiet (command_false_of_fault smp hrunning hfault)
      · cases hv : rd.verdict with
        | running => exact hquiet (command_false_of_pending smp hpending hv)
        | normal =>
          obtain ⟨hvalid, -, -, hstop⟩ := (verdict_normal_iff rd).mp hv
          exact hstopped ⟨smp, rd, rfl, hrd, hvalid, hstop⟩
        | dataLoss => rw [hv] at hfault; exact hfault rfl
        | lowPressure => rw [hv] at hfault; exact hfault rfl
        | lowSalt => rw [hv] at hfault; exact hfault rfl

/-- An abort accepted in `REGEN_RUNNING` is heard before the window closes. -/
theorem window_heard {s : CoreState} (hs : s.gState = .regenRunning ∧ s.gAbortPending = true)
    {as : List CoreStep} {a : CoreStep}
    (hcycle : ∀ r ∈ trace coreStep s as, ¬ ReportsStopped r)
    (hk : EndsRunning (record coreStep (final coreStep s as) a)) :
    ∃ r ∈ trace coreStep s as ++ [record coreStep (final coreStep s as) a],
      .command false ∈ r.out := by
  by_contra hnone
  have hquiet (r : CoreRecord)
      (hr : r ∈ trace coreStep s as ++ [record coreStep (final coreStep s as) a]) :
      .command false ∉ r.out := fun hout => hnone ⟨r, hr, hout⟩
  obtain ⟨-, -, hpending⟩ := trace_invariant coreStep
    (I := fun s => s.gState = .regenRunning ∧ s.gAbortPending = true)
    (p := fun r => .command false ∉ r.out ∧ ¬ ReportsStopped r) pending_step hs
    (fun r hr => ⟨hquiet r (List.mem_append_left _ hr), hcycle r hr⟩)
  obtain ⟨smp, rd, rfl, hrd, hrunning⟩ := endsRunning_pass hk
  refine hquiet _ (List.mem_append_right _ (List.mem_singleton_self _)) ?_
  change .command false ∈ (coreStep (final coreStep s as) (.iterate smp)).2
  rw [coreStep_pass _ hrd]
  exact command_false_of_pending smp hpending hrunning

/-- Between a START and an abort accepted in `REGEN_RUNNING` the machine was seen running. -/
theorem reportsRunning_of_entered {s : CoreState} (hs : s.gState ≠ .regenRunning)
    {as : List CoreStep} (hfinal : (final coreStep s as).gState = .regenRunning) :
    ∃ r ∈ trace coreStep s as, ReportsRunning r := by
  by_contra hnone
  refine (window_quiet hs fun r hr hends => hnone ⟨r, hr, ?_⟩).2 hfinal
  have hrecord := record_of_mem coreStep hr
  rw [hrecord] at hends ⊢
  obtain ⟨smp, rd, hlabel, hrd, hrunning⟩ := endsRunning_pass hends
  exact ⟨smp, rd, hlabel, hrd, ((running_verdict_iff rd).mp hrunning).2.2.2⟩

theorem start_leaves {s : CoreState} {a : CoreStep} (h : .command true ∈ (record coreStep s a).out) :
    (coreStep s a).1.gState ≠ .regenRunning := by
  obtain ⟨smp, rd, rfl, hrd, -, -, hnormal⟩ := start_pass h
  rw [coreStep_pass s hrd, ne_eq, corePass_gState_eq_regenRunning, hnormal]
  nofun

theorem accepted_abort {s : CoreState} {a : CoreStep} (h : AcceptedAbort (record coreStep s a)) :
    (coreStep s a).1.gState = s.gState ∧ (coreStep s a).1.gAbortPending = true := by
  have hlabel : a = .abort := h.1
  subst hlabel
  exact ⟨(coreAbortRegen_frame s).1, (coreStep_abortPending s .abort).mpr ⟨rfl, Or.inr h⟩⟩

/-- **When an abort behind a START is heard, exactly.** `q` commanded a START, the abort `a`
was accepted later, and `k` is the first iteration after it that ends in `REGEN_RUNNING`. A
STOP is commanded after the abort and no later than in `k` if and only if the core was in
`REGEN_RUNNING` when it accepted the abort, or `k` finds an abort pending, or the cycle
timer expires within `k`. -/
theorem abort_heard_iff (as : List CoreStep) (h m n t : List CoreRecord) (q a k : CoreRecord)
    (he : coreTrace as = h ++ q :: (m ++ a :: (n ++ k :: t))) (hstart : .command true ∈ q.out)
    (habort : AcceptedAbort a) (hfirst : ∀ r ∈ n, ¬ EndsRunning r) (hk : EndsRunning k)
    (hcycle : OneCycle (m ++ a :: n)) :
    (∃ r ∈ n ++ [k], .command false ∈ r.out) ↔
      a.pre.gState = .regenRunning ∨ k.pre.gAbortPending = true ∨ TimerExpires k := by
  -- the labels behind the records
  obtain ⟨before, bq, rest, -, -, rfl, hrest⟩ := trace_split coreStep he
  obtain ⟨ms, ba, rest', -, rfl, rfl, hrest'⟩ := trace_split coreStep hrest.symm
  obtain ⟨ns, bk, -, -, rfl, rfl, -⟩ := trace_split coreStep hrest'.symm
  have hstarted := start_leaves hstart
  obtain ⟨hkept, hpending⟩ := accepted_abort habort
  by_cases hrunning : (final coreStep (coreStep (coreFinal before) bq).1 ms).gState = .regenRunning
  · obtain ⟨x, hx, hreports⟩ := reportsRunning_of_entered hstarted hrunning
    have hlater := (List.pairwise_append.mp hcycle).2.2 x hx
    refine iff_of_true (window_heard ⟨hkept.trans hrunning, hpending⟩ (fun r hr hstop => ?_) hk)
      (Or.inl hrunning)
    exact hlater r (List.mem_cons_of_mem _ hr) ⟨hreports, hstop⟩
  · obtain ⟨hquiet, hfinal⟩ := window_quiet (fun h => hrunning (hkept.symm.trans h)) hfirst
    obtain ⟨smp, rd, rfl, hrd, hverdict⟩ := endsRunning_pass hk
    generalize final coreStep _ ns = s at hfinal hquiet ⊢
    have hout : .command false ∈ (record coreStep s (.iterate smp)).out ↔
        s.gAbortPending = true ∨ maxRegenTimeMs ≤ smp.timerMillis - smp.startMillis := by
      change .command false ∈ (coreStep s (.iterate smp)).2 ↔ _
      rw [coreStep_pass s hrd]
      exact command_false_entering_iff smp hfinal hverdict
    constructor
    · rintro ⟨r, hr, hstop⟩
      rcases List.mem_append.mp hr with hr | hr
      · exact absurd hstop (hquiet r hr)
      · obtain rfl := List.mem_singleton.mp hr
        exact Or.inr ((hout.mp hstop).imp_right fun h => ⟨smp, rfl, h⟩)
    · rintro (h | h | ⟨smp', hlabel, h⟩)
      · exact absurd h hrunning
      · exact ⟨_, List.mem_append_right _ (List.mem_singleton_self _), hout.mpr (Or.inl h)⟩
      · obtain rfl := CoreStep.iterate.inj hlabel
        exact ⟨_, List.mem_append_right _ (List.mem_singleton_self _), hout.mpr (Or.inr h)⟩

/-- A sample with nothing wrong, at a time in milliseconds. -/
def goodSample (running : Bool) (millis : BitVec 32) : CoreStep :=
  .iterate (validSample goodPressure goodSalt running millis)

/-- The abort falls between the START and the first sample that shows the machine running,
which takes it: the machine is stopped. -/
theorem abort_heard_on_entry :
    ∃ r ∈ [record coreStep (coreFinal [.request, goodSample false 0, .abort]) (goodSample true 2000)],
      .command false ∈ r.out :=
  (abort_heard_iff [.request, goodSample false 0, .abort, goodSample true 2000]
    (coreTrace [.request]) [] [] []
    (record coreStep (coreFinal [.request]) (goodSample false 0))
    (record coreStep (coreFinal [.request, goodSample false 0]) .abort)
    _ rfl (by decide) ⟨rfl, by decide⟩ (fun r hr => by cases hr) ⟨by decide, by decide⟩
    (List.pairwise_singleton _ _)).mpr (Or.inr (Or.inl (by decide)))

/-- The abort falls between the START and the first sample that shows the machine running,
with one more iteration in between: no STOP is commanded. -/
theorem abort_lost_behind_start :
    ¬ ∀ (as : List CoreStep) (h m n t : List CoreRecord) (q a k : CoreRecord),
      coreTrace as = h ++ q :: (m ++ a :: (n ++ k :: t)) → .command true ∈ q.out →
      AcceptedAbort a → (∀ r ∈ n, ¬ EndsRunning r) → EndsRunning k → OneCycle (m ++ a :: n) →
      ∃ r ∈ n ++ [k], .command false ∈ r.out := by
  intro hall
  obtain ⟨r, hr, hstop⟩ := hall
    [.request, goodSample false 0, .abort, goodSample false 2000, goodSample true 4000]
    (coreTrace [.request]) []
    [record coreStep (coreFinal [.request, goodSample false 0, .abort]) (goodSample false 2000)] []
    (record coreStep (coreFinal [.request]) (goodSample false 0))
    (record coreStep (coreFinal [.request, goodSample false 0]) .abort)
    (record coreStep (coreFinal [.request, goodSample false 0, .abort, goodSample false 2000])
      (goodSample true 4000))
    rfl (by decide) ⟨rfl, by decide⟩ (fun r hr => by
      obtain rfl := List.mem_singleton.mp hr
      exact fun hends => absurd hends.2 (by decide)) ⟨by decide, by decide⟩ (by
      refine List.pairwise_cons.mpr ⟨fun r hr => ?_, List.pairwise_singleton _ _⟩
      rintro ⟨⟨smp, rd, hlabel, -⟩, -⟩
      cases hlabel)
  rcases List.mem_cons.mp hr with rfl | hr
  · exact absurd hstop (by decide)
  · obtain rfl := List.mem_singleton.mp hr
    exact absurd hstop (by decide)

end XIoT.Core
