import Mathlib.Data.List.DropRight

/-!
# Traces of a step function with output

`step : σ → α → σ × ω` is total and returns what it puts out. The trace of a list
of labels has one record a step, oldest first, so that a property of one step can
refer to the whole history before it.
-/

namespace XIoT.Lib.Trace

variable {σ α ω : Type*}

/-- One step: the state before it, its label, the state after it and its output. -/
structure Record (σ α ω : Type*) where
  pre : σ
  label : α
  post : σ
  out : List ω

variable (step : σ → α → σ × List ω)

def record (s : σ) (a : α) : Record σ α ω := ⟨s, a, (step s a).1, (step s a).2⟩

/-- The records of a run from `s`, oldest first. -/
def trace : σ → List α → List (Record σ α ω)
  | _, [] => []
  | s, a :: as => record step s a :: trace (step s a).1 as

/-- The state a run from `s` ends in. -/
def final (s : σ) (as : List α) : σ := as.foldl (fun t a => (step t a).1) s

/-- Everything a run puts out, in order. -/
def output (s : σ) (as : List α) : List ω := (trace step s as).flatMap Record.out

theorem final_append (s : σ) (as bs : List α) :
    final step s (as ++ bs) = final step (final step s as) bs := List.foldl_append

theorem trace_append (s : σ) (as bs : List α) :
    trace step s (as ++ bs) = trace step s as ++ trace step (final step s as) bs := by
  induction as generalizing s with
  | nil => rfl
  | cons a as ih => simp only [List.cons_append, trace, final, List.foldl_cons, ih]

theorem trace_concat (s : σ) (as : List α) (a : α) :
    trace step s (as ++ [a]) = trace step s as ++ [record step (final step s as) a] := by
  rw [trace_append]
  rfl

theorem output_concat (s : σ) (as : List α) (a : α) :
    output step s (as ++ [a]) = output step s as ++ (step (final step s as) a).2 := by
  simp only [output, trace_concat, List.flatMap_append, List.flatMap_cons, List.flatMap_nil,
    List.append_nil, record]

theorem final_concat (s : σ) (as : List α) (a : α) :
    final step s (as ++ [a]) = (step (final step s as) a).1 := by
  rw [final_append]
  rfl

/-- A record with the history before it comes from a shorter run and one label. -/
theorem trace_split {s : σ} {as : List α} {h t : List (Record σ α ω)} {r : Record σ α ω}
    (he : trace step s as = h ++ r :: t) :
    ∃ before a after, as = before ++ a :: after ∧ h = trace step s before ∧
      r = record step (final step s before) a ∧
      t = trace step (step (final step s before) a).1 after := by
  induction as generalizing s h with
  | nil => simp [trace] at he
  | cons a as ih =>
    cases h with
    | nil =>
      obtain ⟨hr, ht⟩ := List.cons.inj he
      exact ⟨[], a, as, rfl, rfl, hr.symm, ht.symm⟩
    | cons q h =>
      obtain ⟨hq, hrest⟩ := List.cons.inj he
      obtain ⟨before, b, after, rfl, hh, hr, ht⟩ := ih hrest
      refine ⟨a :: before, b, after, rfl, ?_, hr, ht⟩
      rw [trace, hq, hh]

/-- The first records of a run are those of a shorter run. -/
theorem trace_append_split {s : σ} {as : List α} {m t : List (Record σ α ω)}
    (he : trace step s as = m ++ t) :
    ∃ bs cs, as = bs ++ cs ∧ m = trace step s bs ∧ t = trace step (final step s bs) cs := by
  cases t with
  | nil => exact ⟨as, [], (List.append_nil as).symm, (he.trans (List.append_nil m)).symm, rfl⟩
  | cons r t =>
    obtain ⟨before, a, after, rfl, hm, rfl, rfl⟩ := trace_split step he
    exact ⟨before, a :: after, rfl, hm, rfl⟩

/-- An invariant that relates the state to everything put out so far. -/
theorem output_invariant {I : σ → List ω → Prop}
    (hstep : ∀ s l a, I s l → I (step s a).1 (l ++ (step s a).2)) {s : σ} (hs : I s [])
    (as : List α) : I (final step s as) (output step s as) := by
  induction as using List.reverseRecOn with
  | nil => exact hs
  | append_singleton as a ih =>
    rw [final_concat, output_concat]
    exact hstep _ _ a ih

/-- A record of a trace is that of a step behind a shorter run. -/
theorem reached_of_mem {s : σ} {as : List α} {r : Record σ α ω} (hr : r ∈ trace step s as) :
    ∃ before a, r = record step (final step s before) a := by
  obtain ⟨h, t, he⟩ := List.append_of_mem hr
  obtain ⟨before, a, -, -, -, hrecord, -⟩ := trace_split step he
  exact ⟨before, a, hrecord⟩

/-- A record of a trace is that of a step from its own state. -/
theorem record_of_mem {s : σ} {as : List α} {r : Record σ α ω} (hr : r ∈ trace step s as) :
    r = record step r.pre r.label := by
  obtain ⟨before, a, rfl⟩ := reached_of_mem step hr
  rfl

/-- What every step with `p` preserves holds throughout a trace of such steps. -/
theorem trace_invariant {I : σ → Prop} {p : Record σ α ω → Prop}
    (hstep : ∀ s a, I s → p (record step s a) → I (step s a).1) {s : σ} (hs : I s) {as : List α}
    (hp : ∀ r ∈ trace step s as, p r) :
    (∀ r ∈ trace step s as, I r.pre) ∧ I (final step s as) := by
  induction as generalizing s with
  | nil => exact ⟨(fun r hr => by cases hr), hs⟩
  | cons a as ih =>
    have hnext : I (step s a).1 := hstep s a hs (hp _ List.mem_cons_self)
    obtain ⟨hpre, hfinal⟩ := ih hnext fun r hr => hp r (List.mem_cons_of_mem _ hr)
    refine ⟨fun r hr => ?_, hfinal⟩
    rcases List.mem_cons.mp hr with rfl | hr
    · exact hs
    · exact hpre r hr

/-- **Simulation rule.** From states that a relation kept by every step relates, the same
labels lead to records that no observation tells apart which the relation equates. -/
theorem map_trace_of_simulation {β : Type*} {R : σ → σ → Prop} {obs : Record σ α ω → β}
    (hstep : ∀ s t a, R s t →
      R (step s a).1 (step t a).1 ∧ obs (record step s a) = obs (record step t a))
    {s t : σ} (hR : R s t) (as : List α) : (trace step s as).map obs = (trace step t as).map obs := by
  induction as generalizing s t with
  | nil => rfl
  | cons a as ih =>
    obtain ⟨hnext, hobs⟩ := hstep s t a hR
    rw [trace, trace, List.map_cons, List.map_cons, hobs, ih hnext]

/-- A run that ends in `G` and did not start there has entered it by one step for the
last time, and has stayed since. -/
theorem entry_split {G : σ → Prop} {s : σ} (hs : ¬ G s) {as : List α} (h : G (final step s as)) :
    ∃ m e t, trace step s as = m ++ e :: t ∧ ¬ G e.pre ∧ G e.post ∧
      ∀ r ∈ t, G r.pre ∧ G r.post := by
  induction as using List.reverseRecOn with
  | nil => exact absurd h hs
  | append_singleton as a ih =>
    rw [final_concat] at h
    rw [trace_concat]
    by_cases hlast : G (final step s as)
    · obtain ⟨m, e, t, he, hpre, hpost, hstay⟩ := ih hlast
      refine ⟨m, e, t ++ [record step (final step s as) a], ?_, hpre, hpost, fun r hr => ?_⟩
      · rw [he, List.append_assoc, List.cons_append]
      · rcases List.mem_append.mp hr with hr | hr
        · exact hstay r hr
        · obtain rfl := List.mem_singleton.mp hr
          exact ⟨hlast, h⟩
    · exact ⟨trace step s as, record step (final step s as) a, [], rfl, hlast, h,
        (fun r hr => by cases hr)⟩

/-- **Exactness rule.** When `C` is what one step needs to keep the invariant `I`, where it
also has `P`, and every step without `C` is one without `P`, the traces all of whose
records have `P` are those all of whose records have `C`. -/
theorem forall_iff_forall {I : σ → Prop} {P C : Record σ α ω → Prop}
    (hkeep : ∀ s a, I s → C (record step s a) → I (step s a).1 ∧ P (record step s a))
    (hbreak : ∀ s a, I s → ¬ C (record step s a) → ¬ P (record step s a))
    {s : σ} (hs : I s) (as : List α) :
    (∀ r ∈ trace step s as, P r) ↔ ∀ r ∈ trace step s as, C r := by
  induction as generalizing s with
  | nil => exact iff_of_true (fun r hr => by cases hr) (fun r hr => by cases hr)
  | cons a as ih =>
    simp only [trace, List.forall_mem_cons]
    by_cases hc : C (record step s a)
    · obtain ⟨hnext, hp⟩ := hkeep s a hs hc
      exact and_congr (iff_of_true hp hc) (ih hnext)
    · exact iff_of_false (fun h => hbreak s a hs hc h.1) fun h => hc h.1

/-! ## Unbroken stretches -/

theorem rtakeWhile_trace_concat (p : Record σ α ω → Bool) (s : σ) (as : List α) (a : α) :
    (trace step s (as ++ [a])).rtakeWhile p =
      if p (record step (final step s as) a) = true then
        (trace step s as).rtakeWhile p ++ [record step (final step s as) a] else [] := by
  rw [trace_concat]
  split
  · next h => exact List.rtakeWhile_concat_pos _ _ _ h
  · next h => exact List.rtakeWhile_concat_neg _ _ _ h

/-- Within a stretch of steps with `p`, an `A` leads to a `B` or leaves `G` behind,
and `G` lasts until a `B`. Then a stretch with an `A` has a `B` or ends in `G`. -/
theorem stretch_exists {p : Record σ α ω → Bool} {A B : Record σ α ω → Prop} {G : σ → Prop}
    (hlast : ∀ s a, p (record step s a) = true → G s →
      B (record step s a) ∨ G (step s a).1)
    (hlead : ∀ s a, p (record step s a) = true → A (record step s a) →
      B (record step s a) ∨ G (step s a).1)
    {s : σ} {as : List α} (h : ∃ q ∈ (trace step s as).rtakeWhile p, A q) :
    (∃ q ∈ (trace step s as).rtakeWhile p, B q) ∨ G (final step s as) := by
  induction as using List.reverseRecOn with
  | nil => obtain ⟨q, hq, -⟩ := h; cases hq
  | append_singleton as a ih =>
    rw [rtakeWhile_trace_concat] at h ⊢
    rw [final_concat]
    by_cases hp : p (record step (final step s as) a) = true
    · rw [if_pos hp] at h ⊢
      have hnext : B (record step (final step s as) a) ∨ G (step (final step s as) a).1 →
          (∃ q ∈ (trace step s as).rtakeWhile p ++ [record step (final step s as) a], B q) ∨
            G (step (final step s as) a).1 :=
        Or.imp_left fun hb => ⟨_, List.mem_append_right _ List.mem_cons_self, hb⟩
      obtain ⟨q, hq, hA⟩ := h
      rcases List.mem_append.mp hq with hold | hnew
      · rcases ih ⟨q, hold, hA⟩ with ⟨b, hb, hB⟩ | hG
        · exact Or.inl ⟨b, List.mem_append_left _ hb, hB⟩
        · exact hnext (hlast _ _ hp hG)
      · rw [List.mem_singleton.mp hnew] at hA
        exact hnext (hlead _ _ hp hA)
    · rw [if_neg hp] at h
      obtain ⟨q, hq, -⟩ := h
      cases hq

/-- A flag that an `A` raises and that lasts as long as the stretch tells whether
the stretch has an `A`. -/
theorem flag_iff_stretch {p : Record σ α ω → Bool} {A : Record σ α ω → Prop} {G : σ → Prop}
    (hstep : ∀ s a, G (step s a).1 ↔
      p (record step s a) = true ∧ (G s ∨ A (record step s a)))
    {s : σ} (hs : ¬ G s) (as : List α) :
    G (final step s as) ↔ ∃ q ∈ (trace step s as).rtakeWhile p, A q := by
  induction as using List.reverseRecOn with
  | nil => exact ⟨fun h => absurd h hs, fun ⟨q, hq, _⟩ => by cases hq⟩
  | append_singleton as a ih =>
    rw [rtakeWhile_trace_concat, final_concat, hstep, ih]
    by_cases hp : p (record step (final step s as) a) = true
    · rw [if_pos hp]
      simp only [hp, true_and, List.mem_append, List.mem_singleton, or_and_right, exists_or,
        exists_eq_left]
    · rw [if_neg hp]
      exact ⟨fun h => absurd h.1 hp, fun ⟨q, hq, _⟩ => by cases hq⟩

/-- What a stretch holds lies behind every step that breaks it. -/
theorem rtakeWhile_suffix_of_neg {β : Type*} (p : β → Bool) (l m : List β) {b : β}
    (hb : p b = false) : (l ++ b :: m).rtakeWhile p <:+ m := by
  induction m using List.reverseRecOn with
  | nil =>
    have hnb : ¬ p b = true := by rw [hb]; exact Bool.false_ne_true
    simp only [List.rtakeWhile_concat_neg _ _ _ hnb, List.nil_suffix]
  | append_singleton m x ih =>
    rw [← List.cons_append, ← List.append_assoc]
    by_cases hx : p x = true
    · rw [List.rtakeWhile_concat_pos _ _ _ hx]
      obtain ⟨k, hk⟩ := ih
      exact ⟨k, by rw [← List.append_assoc, hk]⟩
    · rw [List.rtakeWhile_concat_neg _ _ _ hx]
      exact List.nil_suffix

end XIoT.Lib.Trace
