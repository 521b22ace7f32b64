import Mathlib.Order.Basic
import Mathlib.Algebra.Group.Nat.Defs

/-!
# The order of IEEE 754 binary interchange formats on bit patterns

A pattern of `w` bits has its sign on top and `m` fraction bits at the bottom;
the exponent field lies between them. Every finite value is an integer multiple
of the smallest subnormal, so that `value` is that integer: the comparisons below
are comparisons of real numbers and need no rounding. An infinity has the value
its fields spell, which lies beyond all finite ones.
-/

namespace XIoT.Lib.BinaryFormat

variable {w : Nat} (m : Nat)

/-- The exponent and fraction fields read as one number. -/
def fields (x : BitVec w) : Nat := x.toNat % 2 ^ (w - 1)

/-- The fields of an infinity: exponent all ones, fraction zero. -/
def infinityFields (w m : Nat) : Nat := (2 ^ (w - 1 - m) - 1) * 2 ^ m

def isNaN (x : BitVec w) : Bool := decide (infinityFields w m < fields x)

/-- The magnitude of the fields in units of the smallest subnormal. -/
def magnitude (f : Nat) : Nat :=
  if f < 2 ^ m then f else (2 ^ m + f % 2 ^ m) * 2 ^ (f / 2 ^ m - 1)

def value (x : BitVec w) : Int :=
  if x.msb then -(magnitude m (fields x) : Int) else (magnitude m (fields x) : Int)

/-- `<` of two floating point numbers: false as soon as one of them is a NaN. -/
def lt (x y : BitVec w) : Bool :=
  !isNaN m x && !isNaN m y && decide (value m x < value m y)

/-- `y` is a number at least `x`. -/
def le (x y : BitVec w) : Bool :=
  !isNaN m x && !isNaN m y && decide (value m x ≤ value m y)

variable {m} {x y : BitVec w}

/-- A negated comparison says nothing about a NaN. -/
theorem lt_eq_false_iff : lt m x y = false ↔ isNaN m x = true ∨ isNaN m y = true ∨ le m y x = true := by
  cases hx : isNaN m x <;> cases hy : isNaN m y <;> simp [lt, le, hx, hy]

theorem not_isNaN_of_le (h : le m x y = true) : isNaN m y = false := by
  simp only [le, Bool.and_eq_true, Bool.not_eq_true', decide_eq_true_eq] at h
  exact h.1.2

/-- Two numbers are comparable: with NaNs out of the way the negated comparison
is the converse order. -/
theorem le_of_lt_eq_false (hx : isNaN m x = false) (hy : isNaN m y = false)
    (h : lt m x y = false) : le m y x = true := by
  rcases lt_eq_false_iff.mp h with h | h | h
  · rw [hx] at h; cases h
  · rw [hy] at h; cases h
  · exact h

end XIoT.Lib.BinaryFormat
