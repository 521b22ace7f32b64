import XIoT.Lib.Runs
import Mathlib.Data.List.Basic

/-!
# Custody of items in transit

Items enter a system one by one, move through its queues and the hands of its tasks, and
leave it or are lost on the way. What is in transit is listed from the exit to the
entrance, so that an item that moves on to the next place without overtaking another does
not move in the list.
-/

namespace XIoT.Lib.Custody

open Lib.Runs

variable {α β : Type*}

/-- The items that have entered, those in transit (the foremost first) and those lost. -/
structure Ledger (α : Type*) where
  entered : List α
  transit : List α
  lost : List α

namespace Ledger

def empty : Ledger α := ⟨[], [], []⟩

/-- All that can happen to the items of a system in one step. The lost items are listed in
any order. -/
inductive Step (c : Ledger α) : Ledger α → Prop where
  | stay (lost : List α) (hlost : lost.Perm c.lost) : Step c ⟨c.entered, c.transit, lost⟩
  | enter (a : α) : Step c ⟨c.entered ++ [a], c.transit ++ [a], c.lost⟩
  | refuse (a : α) (lost : List α) (hlost : lost.Perm (c.lost ++ [a])) :
    Step c ⟨c.entered ++ [a], c.transit, lost⟩
  | lose (l : List α) (a : α) (r : List α) (lost : List α) (h : c.transit = l ++ a :: r)
    (hlost : lost.Perm (c.lost ++ [a])) : Step c ⟨c.entered, l ++ r, lost⟩

theorem Step.refl (c : Ledger α) : c.Step c := .stay c.lost (.refl _)

/-- Nothing overtakes, is doubled or disappears unnoticed. -/
structure Kept (c : Ledger α) : Prop where
  inOrder : c.transit.Sublist c.entered
  accounted : (c.lost ++ c.transit).Perm c.entered

theorem Kept.empty : (empty : Ledger α).Kept := ⟨.slnil, .nil⟩

variable {c c' : Ledger α}

theorem Kept.step (hc : c.Kept) (h : c.Step c') : c'.Kept := by
  cases h with
  | stay lost hlost => exact ⟨hc.inOrder, (hlost.append_right _).trans hc.accounted⟩
  | enter a =>
    refine ⟨hc.inOrder.append (.refl [a]), ?_⟩
    rw [← List.append_assoc]
    exact hc.accounted.append_right [a]
  | refuse a lost hlost =>
    refine ⟨hc.inOrder.trans (List.sublist_append_left _ _), (hlost.append_right _).trans ?_⟩
    have hmoved : (c.lost ++ [a] ++ c.transit).Perm (c.lost ++ c.transit ++ [a]) := by
      rw [List.append_assoc, List.append_assoc]
      exact List.perm_append_comm.append_left c.lost
    exact hmoved.trans (hc.accounted.append_right [a])
  | lose l a r lost htransit hlost =>
    have hsub : (l ++ r).Sublist (l ++ a :: r) := (List.sublist_cons_self a r).append_left l
    refine ⟨hsub.trans (htransit ▸ hc.inOrder), (hlost.append_right _).trans ?_⟩
    have hmoved : (c.lost ++ [a] ++ (l ++ r)).Perm (c.lost ++ (l ++ a :: r)) := by
      have hfront : (a :: (l ++ r)).Perm (l ++ a :: r) := List.perm_middle.symm
      rw [List.append_assoc]
      exact hfront.append_left c.lost
    exact hmoved.trans (htransit ▸ hc.accounted)

/-- While nothing was lost, all that has entered is in transit, in order. -/
theorem Kept.transit_eq (hc : c.Kept) (h : c.lost = []) : c.transit = c.entered := by
  have hperm := hc.accounted
  rw [h, List.nil_append] at hperm
  exact hc.inOrder.eq_of_length hperm.length_eq

/-! ## Items of a kind -/

/-- The items of a kind alone, as what they show. -/
def filterMap (f : α → Option β) (c : Ledger α) : Ledger β :=
  ⟨c.entered.filterMap f, c.transit.filterMap f, c.lost.filterMap f⟩

theorem filterMap_middle (f : α → Option β) (l : List α) (a : α) (r : List α) :
    (l ++ a :: r).filterMap f = l.filterMap f ++ ((f a).toList ++ r.filterMap f) := by
  rw [List.filterMap_append, List.filterMap_cons]
  cases f a <;> rfl

/-- The step of an item of another kind does not show. -/
theorem Step.filterMap (h : c.Step c') (f : α → Option β) :
    (c.filterMap f).Step (c'.filterMap f) := by
  cases h with
  | stay lost hlost => exact .stay _ (hlost.filterMap f)
  | enter a =>
    simp only [Ledger.filterMap, filterMap_middle, List.filterMap_nil, List.append_nil]
    cases f a with
    | none => simpa using Step.refl _
    | some b => exact .enter b
  | refuse a lost hlost =>
    have hlost := hlost.filterMap f
    simp only [filterMap_middle, List.filterMap_nil, List.append_nil] at hlost
    simp only [Ledger.filterMap, filterMap_middle, List.filterMap_nil, List.append_nil]
    cases hb : f a with
    | none =>
      rw [hb, Option.toList_none, List.append_nil] at hlost
      simpa using Step.stay _ hlost
    | some b =>
      rw [hb] at hlost
      exact .refuse b _ hlost
  | lose l a r lost htransit hlost =>
    have hlost := hlost.filterMap f
    have htransit := congrArg (List.filterMap f) htransit
    simp only [filterMap_middle, List.filterMap_nil, List.append_nil] at hlost htransit
    simp only [Ledger.filterMap, List.filterMap_append]
    cases hb : f a with
    | none =>
      rw [hb, Option.toList_none, List.append_nil] at hlost
      rw [hb, Option.toList_none, List.nil_append] at htransit
      rw [← htransit]
      exact .stay _ hlost
    | some b =>
      rw [hb] at hlost htransit
      exact .lose _ b _ _ htransit hlost

theorem Kept.filterMap (hc : c.Kept) (f : α → Option β) : (c.filterMap f).Kept := by
  refine ⟨hc.inOrder.filterMap f, ?_⟩
  change (c.lost.filterMap f ++ c.transit.filterMap f).Perm (c.entered.filterMap f)
  rw [← List.filterMap_append]
  exact hc.accounted.filterMap f

/-! ## A system behind another -/

/-- What happens in front, with nothing let in, happens to a system that goes on behind. -/
theorem Step.behind (h : c.Step c') (hsame : c'.entered = c.entered) (entered rest lost : List α) :
    Step ⟨entered, c.transit ++ rest, lost ++ c.lost⟩
      ⟨entered, c'.transit ++ rest, lost ++ c'.lost⟩ := by
  cases h with
  | stay lost' hlost => exact .stay _ (hlost.append_left lost)
  | enter a => simp at hsame
  | refuse a lost' hlost => simp at hsame
  | lose l a r lost' htransit hlost =>
    rw [List.append_assoc]
    refine .lose l a (r ++ rest) _ (by rw [htransit]; simp) ?_
    rw [List.append_assoc]
    exact hlost.append_left lost

end Ledger

/-! ## Runs -/

variable {σ ι : Type*} {step : σ → ι → Option σ}

/-- **Custody rule.** A system whose steps are steps of its ledger keeps its items. -/
theorem always_kept (ledger : σ → Ledger α) {I : σ → Prop} (hinv : ∀ s a s', I s → step s a = some s' → I s')
    (hstep : ∀ s a s', I s → step s a = some s' → (ledger s).Step (ledger s'))
    {s : σ} (hs : I s) (hc : (ledger s).Kept) (as : List ι) :
    Always step (fun s => I s ∧ (ledger s).Kept) s as :=
  always_of_invariant (fun s a s' h ha => ⟨hinv s a s' h.1 ha, h.2.step (hstep s a s' h.1 ha)⟩)
    ⟨hs, hc⟩ as

end XIoT.Lib.Custody
