import Mathlib.Data.List.Count
import Mathlib.Data.List.Induction

/-!
# Alternating marks

A list of opening and closing marks alternates strictly, starting with an opening
one, when the marks at even positions are the opening ones. Whether a cycle is
open is then the parity of the length, and the last mark tells it. What the latest mark in
a history of any elements says is `latest`.
-/

namespace XIoT.Lib.Alternation

inductive Mark where
  | opening
  | closing
  deriving DecidableEq, Repr

/-- The mark an alternating list has at position `i`. -/
def markAt (i : Nat) : Mark := if i % 2 = 0 then .opening else .closing

def StrictlyAlternates (l : List Mark) : Prop :=
  ∀ (i : Nat) (m : Mark), l[i]? = some m → m = markAt i

/-- How many more cycles were opened than closed. -/
def openCycles (l : List Mark) : Int := (l.count .opening : Int) - (l.count .closing : Int)

theorem strictlyAlternates_nil : StrictlyAlternates [] := by
  intro i m h
  cases h

theorem strictlyAlternates_concat {l : List Mark} (h : StrictlyAlternates l) :
    StrictlyAlternates (l ++ [markAt l.length]) := by
  intro i m hi
  rcases Nat.lt_trichotomy i l.length with hlt | rfl | hgt
  · rw [List.getElem?_append_left hlt] at hi
    exact h i m hi
  · rw [List.getElem?_concat_length] at hi
    exact (Option.some.inj hi).symm
  · rw [List.getElem?_eq_none (by simp; omega)] at hi
    cases hi

/-- What an alternating list begins with alternates. -/
theorem StrictlyAlternates.left {l m : List Mark} (h : StrictlyAlternates (l ++ m)) :
    StrictlyAlternates l := by
  intro i n hi
  have hlt : i < l.length := (List.getElem?_eq_some_iff.mp hi).1
  exact h i n (by rw [List.getElem?_append_left hlt]; exact hi)

/-- An alternating list has at most one open cycle, and one exactly at odd length. -/
theorem openCycles_eq {l : List Mark} (h : StrictlyAlternates l) :
    openCycles l = (l.length % 2 : Nat) := by
  induction l using List.reverseRecOn with
  | nil => rfl
  | append_singleton l m ih =>
    have hm : m = markAt l.length := h l.length m List.getElem?_concat_length
    have hl : StrictlyAlternates l := by
      intro i n hi
      have hlt : i < l.length := (List.getElem?_eq_some_iff.mp hi).1
      exact h i n (by rw [List.getElem?_append_left hlt]; exact hi)
    have hih := ih hl
    unfold openCycles at hih ⊢
    rw [List.count_append, List.count_append, List.length_append, List.length_singleton, hm]
    unfold markAt
    split
    · simp only [List.count_singleton_self, List.count_singleton]
      simp
      omega
    · simp only [List.count_singleton_self, List.count_singleton]
      simp
      omega

/-- The list alternates and the flag tells whether a cycle is open. -/
structure Balanced (l : List Mark) (isOpen : Prop) : Prop where
  alternates : StrictlyAlternates l
  parity : l.length % 2 = 1 ↔ isOpen

variable {l : List Mark} {p q : Prop}

theorem balanced_nil (h : ¬ p) : Balanced [] p :=
  ⟨strictlyAlternates_nil, by simpa using h⟩

theorem Balanced.congr (h : Balanced l p) (hpq : p ↔ q) : Balanced l q :=
  ⟨h.alternates, h.parity.trans hpq⟩

theorem Balanced.opened (h : Balanced l p) (hp : ¬ p) (hq : q) :
    Balanced (l ++ [.opening]) q := by
  have heven : l.length % 2 = 0 := by
    have := mt h.parity.mp hp
    omega
  have hmark : markAt l.length = .opening := by rw [markAt, if_pos heven]
  refine ⟨hmark ▸ strictlyAlternates_concat h.alternates, ?_⟩
  rw [List.length_append, List.length_singleton]
  exact ⟨fun _ => hq, fun _ => by omega⟩

theorem Balanced.closed (h : Balanced l p) (hp : p) (hq : ¬ q) :
    Balanced (l ++ [.closing]) q := by
  have hodd : l.length % 2 = 1 := h.parity.mpr hp
  have hmark : markAt l.length = .closing := by rw [markAt, if_neg (by omega)]
  refine ⟨hmark ▸ strictlyAlternates_concat h.alternates, ?_⟩
  rw [List.length_append, List.length_singleton]
  exact ⟨fun h => by omega, fun h => absurd h hq⟩

theorem Balanced.openCycles_eq [Decidable p] (h : Balanced l p) :
    openCycles l = if p then 1 else 0 := by
  rw [Alternation.openCycles_eq h.alternates]
  split
  · next hp => rw [h.parity.mpr hp]; rfl
  · next hp =>
    have := mt h.parity.mp hp
    rw [show l.length % 2 = 0 by omega]
    rfl

section

variable {α β : Type*}

/-- What the latest element of a history that says something says. -/
def latest (f : α → Option β) (l : List α) : Option β := (l.filterMap f).getLast?

@[simp] theorem latest_nil (f : α → Option β) : latest f [] = none := rfl

/-- A new element has the last word, if it says something. -/
theorem latest_concat (f : α → Option β) (l : List α) (a : α) :
    latest f (l ++ [a]) = (f a).or (latest f l) := by
  rw [latest, List.filterMap_append, List.filterMap_cons, List.filterMap_nil]
  cases f a with
  | none => rw [List.append_nil]; rfl
  | some b => rw [List.getLast?_concat]; rfl

end

end XIoT.Lib.Alternation
