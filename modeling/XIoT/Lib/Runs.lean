import Mathlib.Data.Option.Basic

/-!
# Runs of a partial step function

A system is a function `step : σ → α → Option σ`: the label `α` resolves every
choice of the scheduler and of the environment, and `none` means that the step
is disabled. A safety property is stated of all states that a list of labels
leads through; the rules below reduce it to what one step preserves.
-/

namespace XIoT.Lib.Runs

variable {σ α : Type*} {step : σ → α → Option σ}

/-- Take the labelled steps in order, `none` as soon as one of them is disabled. -/
def run (step : σ → α → Option σ) : σ → List α → Option σ
  | s, [] => some s
  | s, a :: as => (step s a).bind fun s' => run step s' as

/-- `P` holds of every state the labels lead through, the first one included. -/
def Always (step : σ → α → Option σ) (P : σ → Prop) : σ → List α → Prop
  | s, [] => P s
  | s, a :: as => P s ∧ ∀ s', step s a = some s' → Always step P s' as

/-- Every step taken meets `C`, a condition on the state before it and its label. -/
def Throughout (step : σ → α → Option σ) (C : σ → α → Prop) : σ → List α → Prop
  | _, [] => True
  | s, a :: as => ∀ s', step s a = some s' → C s a ∧ Throughout step C s' as

/-- A guarded step that was taken had its guard. -/
theorem of_guarded {p : Prop} [Decidable p] {s s' : σ} (h : (if p then some s else none) = some s') :
    p ∧ s = s' := by
  obtain ⟨hp, hs⟩ := Option.ite_none_right_eq_some.mp h
  exact ⟨hp, Option.some.inj hs⟩

@[simp] theorem run_nil (s : σ) : run step s [] = some s := rfl

theorem run_cons_iff {s t : σ} {a : α} {as : List α} :
    run step s (a :: as) = some t ↔ ∃ s', step s a = some s' ∧ run step s' as = some t := by
  simp only [run, Option.bind_eq_some_iff]

theorem run_append_iff {s t : σ} {as bs : List α} :
    run step s (as ++ bs) = some t ↔ ∃ m, run step s as = some m ∧ run step m bs = some t := by
  induction as generalizing s with
  | nil => simp
  | cons a as ih =>
    rw [List.cons_append, run_cons_iff]
    constructor
    · rintro ⟨s', ha, hrun⟩
      obtain ⟨m, hm, hrest⟩ := ih.mp hrun
      exact ⟨m, run_cons_iff.mpr ⟨s', ha, hm⟩, hrest⟩
    · rintro ⟨m, hm, hrest⟩
      obtain ⟨s', ha, hrun⟩ := run_cons_iff.mp hm
      exact ⟨s', ha, ih.mpr ⟨m, hrun, hrest⟩⟩

theorem Always.head {P : σ → Prop} {s : σ} {as : List α} (h : Always step P s as) : P s := by
  cases as with
  | nil => exact h
  | cons a as => exact h.1

/-- The state a run ends in is one of those it leads through. -/
theorem Always.last {P : σ → Prop} {s t : σ} {as : List α} (h : Always step P s as)
    (hr : run step s as = some t) : P t := by
  induction as generalizing s with
  | nil =>
    obtain rfl := Option.some.inj hr
    exact h
  | cons a as ih =>
    obtain ⟨s', ha, hr'⟩ := run_cons_iff.mp hr
    exact ih (h.2 s' ha) hr'

theorem Always.mono {P Q : σ → Prop} (hPQ : ∀ s, P s → Q s) {s : σ} {as : List α}
    (h : Always step P s as) : Always step Q s as := by
  induction as generalizing s with
  | nil => exact hPQ s h
  | cons a as ih => exact ⟨hPQ s h.1, fun s' ha => ih (h.2 s' ha)⟩

theorem Throughout.cons {C : σ → α → Prop} {s s' : σ} {a : α} {as : List α}
    (ha : step s a = some s') (hc : C s a) (h : Throughout step C s' as) :
    Throughout step C s (a :: as) := by
  intro t ht
  obtain rfl := Option.some.inj (ha.symm.trans ht)
  exact ⟨hc, h⟩

/-- **Invariant rule under a condition on the steps.** -/
theorem always_of_throughout {I : σ → Prop} {C : σ → α → Prop}
    (hstep : ∀ s a s', I s → C s a → step s a = some s' → I s')
    {s : σ} {as : List α} (hs : I s) (hc : Throughout step C s as) : Always step I s as := by
  induction as generalizing s with
  | nil => exact hs
  | cons a as ih =>
    refine ⟨hs, fun s' ha => ?_⟩
    obtain ⟨hca, hrest⟩ := hc s' ha
    exact ih (hstep s a s' hs hca ha) hrest

/-- **Invariant rule.** What every step preserves holds throughout every run. -/
theorem always_of_invariant {I : σ → Prop}
    (hstep : ∀ s a s', I s → step s a = some s' → I s')
    {s : σ} (hs : I s) (as : List α) : Always step I s as := by
  induction as generalizing s with
  | nil => exact hs
  | cons a as ih => exact ⟨hs, fun s' ha => ih (hstep s a s' hs ha)⟩

theorem run_invariant {I : σ → Prop} (hstep : ∀ s a s', I s → step s a = some s' → I s')
    {s t : σ} {as : List α} (hs : I s) (hr : run step s as = some t) : I t :=
  (always_of_invariant hstep hs as).last hr

/-- **Simulation rule.** When every step of a system is a step of another one or leaves it
where it is, as far as `R` shows, a run of the one is a run of the other. -/
theorem run_of_simulation {τ β : Type*} {step' : τ → β → Option τ} {R : σ → τ → Prop}
    (hstep : ∀ s a s' t, R s t → step s a = some s' →
      R s' t ∨ ∃ b t', step' t b = some t' ∧ R s' t')
    {s s' : σ} {t : τ} {as : List α} (hR : R s t) (hr : run step s as = some s') :
    ∃ bs t', run step' t bs = some t' ∧ R s' t' := by
  induction as generalizing s t with
  | nil =>
    obtain rfl := Option.some.inj hr
    exact ⟨[], t, rfl, hR⟩
  | cons a as ih =>
    obtain ⟨m, ha, hrest⟩ := run_cons_iff.mp hr
    rcases hstep s a m t hR ha with hsame | ⟨b, u, hb, hR'⟩
    · exact ih hsame hrest
    · obtain ⟨bs, t', hbs, ht'⟩ := ih hR' hrest
      exact ⟨b :: bs, t', run_cons_iff.mpr ⟨u, hb, hbs⟩, ht'⟩

/-- **Necessity rule.** What every step needs to reach a state with `P` is met throughout a
run that keeps `P`. -/
theorem throughout_of_always {I P : σ → Prop} {C : σ → α → Prop}
    (hstep : ∀ s a s', I s → step s a = some s' → P s' → C s a ∧ I s')
    {s : σ} {as : List α} (hs : I s) (h : Always step P s as) : Throughout step C s as := by
  induction as generalizing s with
  | nil => trivial
  | cons a as ih =>
    intro s' ha
    have hrest := h.2 s' ha
    obtain ⟨hc, hs'⟩ := hstep s a s' hs ha hrest.head
    exact ⟨hc, ih hs' hrest⟩

/-- **Exactness rule.** When `C` is what one step needs to keep the invariant `I`,
and every step that violates `C` ends in a state without `P`, the runs that keep
`P` throughout are exactly those whose steps all meet `C`. -/
theorem always_iff_throughout {I P : σ → Prop} {C : σ → α → Prop}
    (hIP : ∀ s, I s → P s)
    (hkeep : ∀ s a s', I s → C s a → step s a = some s' → I s')
    (hbreak : ∀ s a s', I s → ¬ C s a → step s a = some s' → ¬ P s')
    {s : σ} (hs : I s) (as : List α) : Always step P s as ↔ Throughout step C s as := by
  constructor
  · intro h
    induction as generalizing s with
    | nil => trivial
    | cons a as ih =>
      intro s' ha
      have hrest := h.2 s' ha
      by_cases hc : C s a
      · exact ⟨hc, ih (hkeep s a s' hs hc ha) hrest⟩
      · exact absurd hrest.head (hbreak s a s' hs hc ha)
  · intro h
    exact (always_of_throughout hkeep hs h).mono hIP

/-- When a state without `P` is never followed by one with `P`, the last state of a
run tells about all of them. -/
theorem always_iff_last {I P : σ → Prop} (hI : ∀ s a s', I s → step s a = some s' → I s')
    (hstable : ∀ s a s', I s → ¬ P s → step s a = some s' → ¬ P s')
    {s t : σ} {as : List α} (hs : I s) (hr : run step s as = some t) :
    Always step P s as ↔ P t := by
  refine ⟨fun h => h.last hr, fun ht => ?_⟩
  induction as generalizing s with
  | nil =>
    obtain rfl := Option.some.inj hr
    exact ht
  | cons a as ih =>
    obtain ⟨s', ha, hr'⟩ := run_cons_iff.mp hr
    have hrest : Always step P s' as := ih (hI s a s' hs ha) hr'
    have hP : P s := by
      by_contra hnot
      exact hstable s a s' hs hnot ha hrest.head
    refine ⟨hP, fun s'' ha' => ?_⟩
    obtain rfl := Option.some.inj (ha.symm.trans ha')
    exact hrest

end XIoT.Lib.Runs
