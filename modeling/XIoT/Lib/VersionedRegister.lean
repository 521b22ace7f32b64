import Mathlib.Logic.Function.Basic
import Mathlib.Data.List.Basic

/-!
# Versions of a register

A writer is given the values of some registers one after the other, and writes each of
them before it is given the next, or not at all. A reader copies a register and reports the
copy later. The versions are numbered in the order the writer is given them.
-/

namespace XIoT.Lib.VersionedRegister

/-- The registers are named by `κ`. -/
structure Versions (κ : Type*) where
  /-- The number of the next version. -/
  next : ℕ
  /-- The version that the writer has been given. -/
  pending : Option (κ × ℕ)
  held : κ → Option ℕ
  /-- The version that the reader has copied. -/
  copy : Option (κ × ℕ)
  reported : List (κ × ℕ)

variable {κ : Type*}

namespace Versions

def empty : Versions κ := ⟨0, none, fun _ => none, none, []⟩

/-- All that can happen to the versions in one step. -/
inductive Step [DecidableEq κ] (v : Versions κ) : Versions κ → Prop where
  | stay : Step v v
  /-- A version that belongs to no register. -/
  | skip : Step v { v with next := v.next + 1, pending := none }
  | give (key : κ) : Step v { v with next := v.next + 1, pending := some (key, v.next) }
  | abandon : Step v { v with pending := none }
  | write (key : κ) (n : ℕ) (hpending : v.pending = some (key, n)) :
    Step v { v with pending := none, held := Function.update v.held key (some n) }
  | read (key : κ) (n : ℕ) (hheld : v.held key = some n) :
    Step v { v with copy := some (key, n) }
  | forget : Step v { v with copy := none }
  | report (key : κ) (n : ℕ) (hcopy : v.copy = some (key, n)) :
    Step v { v with copy := none, reported := v.reported ++ [(key, n)] }

/-- The register holds the version or a later one. -/
def Reached (v : Versions κ) (r : κ × ℕ) : Prop := ∃ m, v.held r.1 = some m ∧ r.2 ≤ m

/-- Of two versions of one register the second is not the older one. -/
def NotBefore (r r' : κ × ℕ) : Prop := r.1 = r'.1 → r.2 ≤ r'.2

structure Inv (v : Versions κ) : Prop where
  numbered : ∀ key n, v.held key = some n → n < v.next
  pending : ∀ r, v.pending = some r → r.2 + 1 = v.next
  copied : ∀ r, v.copy = some r → v.Reached r ∧ ∀ q ∈ v.reported, NotBefore q r
  reported : ∀ r ∈ v.reported, v.Reached r
  ordered : v.reported.Pairwise NotBefore

theorem inv_empty : (empty : Versions κ).Inv where
  numbered _ _ h := by cases h
  pending _ h := by cases h
  copied _ h := by cases h
  reported _ h := by cases h
  ordered := .nil

variable [DecidableEq κ] {v v' : Versions κ}

/-- What is written is at least as new as what was held. -/
theorem Inv.reached_write (hv : v.Inv) {key : κ} {n : ℕ} (hpending : v.pending = some (key, n))
    {r : κ × ℕ} (hr : v.Reached r) :
    Reached { v with pending := none, held := Function.update v.held key (some n) } r := by
  obtain ⟨m, hm, hle⟩ := hr
  by_cases hkey : r.1 = key
  · have hlast : n + 1 = v.next := hv.pending _ hpending
    have hold : m < v.next := hv.numbered _ _ hm
    refine ⟨n, ?_, by omega⟩
    show Function.update v.held key (some n) r.1 = some n
    rw [hkey, Function.update_self]
  · refine ⟨m, ?_, hle⟩
    show Function.update v.held key (some n) r.1 = some m
    rw [Function.update_of_ne hkey, hm]

theorem Inv.step (hv : v.Inv) (h : v.Step v') : v'.Inv := by
  cases h with
  | stay => exact hv
  | skip =>
    refine ⟨fun key n hheld => ?_, (fun r hr => by cases hr), hv.copied, hv.reported, hv.ordered⟩
    exact Nat.lt_succ_of_lt (hv.numbered key n hheld)
  | give key =>
    refine ⟨fun key' n hheld => ?_, fun r hr => ?_, hv.copied, hv.reported, hv.ordered⟩
    · exact Nat.lt_succ_of_lt (hv.numbered key' n hheld)
    · obtain rfl := Option.some.inj hr
      rfl
  | abandon => exact ⟨hv.numbered, (fun r hr => by cases hr), hv.copied, hv.reported, hv.ordered⟩
  | write key n hpending =>
    have hlast : n + 1 = v.next := hv.pending _ hpending
    refine ⟨fun key' n' hheld => ?_, (fun r hr => by cases hr), fun r hr => ?_, fun r hr => ?_,
      hv.ordered⟩
    · change Function.update v.held key (some n) key' = some n' at hheld
      show n' < v.next
      by_cases hkey : key' = key
      · rw [hkey, Function.update_self] at hheld
        obtain rfl := Option.some.inj hheld
        omega
      · rw [Function.update_of_ne hkey] at hheld
        exact hv.numbered key' n' hheld
    · exact ⟨hv.reached_write hpending (hv.copied r hr).1, (hv.copied r hr).2⟩
    · exact hv.reached_write hpending (hv.reported r hr)
  | read key n hheld =>
    refine ⟨hv.numbered, hv.pending, fun r hr => ?_, hv.reported, hv.ordered⟩
    obtain rfl := Option.some.inj hr
    refine ⟨⟨n, hheld, Nat.le_refl n⟩, fun q hq hkey => ?_⟩
    obtain ⟨m, hm, hle⟩ := hv.reported q hq
    have hsame : some m = some n := hm.symm.trans (hkey ▸ hheld)
    obtain rfl := Option.some.inj hsame
    exact hle
  | forget => exact ⟨hv.numbered, hv.pending, (fun r hr => by cases hr), hv.reported, hv.ordered⟩
  | report key n hcopy =>
    obtain ⟨hreached, hnot⟩ := hv.copied _ hcopy
    refine ⟨hv.numbered, hv.pending, (fun r hr => by cases hr), fun r hr => ?_, ?_⟩
    · rcases List.mem_append.mp hr with hold | hnew
      · exact hv.reported r hold
      · obtain rfl := List.mem_singleton.mp hnew
        exact hreached
    · refine List.pairwise_append.mpr ⟨hv.ordered, List.pairwise_singleton _ _, ?_⟩
      intro q hq r hr
      obtain rfl := List.mem_singleton.mp hr
      exact hnot q hq

end Versions

end XIoT.Lib.VersionedRegister
