import Mathlib.Data.List.Nodup

/-!
# Searching a table by key

A table whose keys are distinct is searched for the first row with a given key. A search
that is handed a key that was changed on the way, as by a conversion to a narrower type and
back, finds what was asked for unless the change shows.
-/

namespace XIoT.Lib.KeyedTable

variable {α κ : Type*} [DecidableEq κ] {key : α → κ} {l : List α}

/-- The first row with the key. -/
def search (key : α → κ) (l : List α) (k : κ) : Option α := l.find? fun a => key a = k

theorem search_eq_none {k : κ} : search key l k = none ↔ ∀ a ∈ l, key a ≠ k := by
  simp only [search, List.find?_eq_none, decide_eq_true_eq, ne_eq]

theorem key_of_search {k : κ} {a : α} (h : search key l k = some a) : a ∈ l ∧ key a = k := by
  have hkey := List.find?_some (p := fun a => decide (key a = k)) h
  exact ⟨List.mem_of_find?_eq_some h, of_decide_eq_true hkey⟩

/-- With distinct keys the first row with the key is the only one. -/
theorem search_eq_some (hdistinct : (l.map key).Nodup) {k : κ} {a : α} :
    search key l k = some a ↔ a ∈ l ∧ key a = k := by
  refine ⟨key_of_search, fun ⟨hmem, hkey⟩ => ?_⟩
  cases hsearch : search key l k with
  | none => exact absurd hkey (search_eq_none.mp hsearch a hmem)
  | some b =>
    obtain ⟨hmem', hkey'⟩ := key_of_search hsearch
    rw [List.inj_on_of_nodup_map hdistinct hmem' hmem (hkey'.trans hkey.symm)]

/-- **The changed key.** A search for `k'` gives what a search for `k` does if and only if
they are the same key or the table has neither. -/
theorem search_changed_iff {k k' : κ} :
    search key l k' = search key l k ↔ k' = k ∨ ∀ a ∈ l, key a ≠ k ∧ key a ≠ k' := by
  constructor
  · intro h
    by_cases hsame : k' = k
    · exact Or.inl hsame
    · refine Or.inr fun a ha => ?_
      have hnone : search key l k = none := by
        rw [Option.eq_none_iff_forall_ne_some]
        intro b hb
        exact hsame ((key_of_search (h.trans hb)).2.symm.trans (key_of_search hb).2)
      exact ⟨search_eq_none.mp hnone a ha, search_eq_none.mp (h.trans hnone) a ha⟩
  · rintro (rfl | hneither)
    · rfl
    · rw [search_eq_none.mpr fun a ha => (hneither a ha).1,
        search_eq_none.mpr fun a ha => (hneither a ha).2]

end XIoT.Lib.KeyedTable
