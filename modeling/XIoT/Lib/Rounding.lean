import XIoT.Lib.BinaryFormat
import Mathlib.Algebra.Order.Ring.Nat
import Mathlib.Tactic.Ring

/-!
# Rounding a rational number to a binary interchange format

Round to nearest, ties to even. Everything is a natural number: magnitudes are counted
in units of the smallest subnormal, and a rational is a quotient `n / d` of those.
-/

namespace XIoT.Lib.BinaryFormat

variable {m : Nat}

/-! ## Magnitudes -/

/-- The fields `e * 2 ^ m + r` stand for `r` in units of `2 ^ e`, also when `r` carries. -/
theorem magnitude_scaled {e r : Nat} (hr : r ≤ 2 ^ (m + 1)) (he : e = 0 ∨ 2 ^ m ≤ r) :
    magnitude m (e * 2 ^ m + r) = r * 2 ^ e := by
  have hpos : 0 < 2 ^ m := Nat.two_pow_pos m
  have hsucc : 2 ^ (m + 1) = 2 * 2 ^ m := by ring
  unfold magnitude
  rcases Nat.lt_or_ge r (2 ^ m) with hlow | hhigh
  · obtain rfl : e = 0 := by omega
    rw [if_pos (by omega)]
    ring
  · obtain ⟨s, rfl⟩ := Nat.exists_eq_add_of_le hhigh
    have hsplit : e * 2 ^ m + (2 ^ m + s) = s + (e + 1) * 2 ^ m := by ring
    rw [if_neg (by omega), hsplit, Nat.add_mul_div_right _ _ hpos, Nat.add_mul_mod_self_right]
    rcases Nat.lt_or_ge s (2 ^ m) with hs | hs
    · rw [Nat.mod_eq_of_lt hs, Nat.div_eq_of_lt hs, Nat.zero_add, Nat.add_sub_cancel]
    · obtain rfl : s = 2 ^ m := by omega
      rw [Nat.mod_self, Nat.div_self hpos, Nat.add_comm 1, Nat.add_sub_cancel]
      ring

/-- Every field value arises so. -/
theorem exists_scaled (m f : Nat) :
    ∃ e r, f = e * 2 ^ m + r ∧ r < 2 ^ (m + 1) ∧ (e = 0 ∨ 2 ^ m ≤ r) := by
  have hpos : 0 < 2 ^ m := Nat.two_pow_pos m
  have hsucc : 2 ^ (m + 1) = 2 * 2 ^ m := by ring
  have hdiv := Nat.div_add_mod' f (2 ^ m)
  have hmod := Nat.mod_lt f hpos
  cases hq : f / 2 ^ m with
  | zero => exact ⟨0, f, by omega, by rw [hq] at hdiv; omega, Or.inl rfl⟩
  | succ e =>
    rw [hq] at hdiv
    refine ⟨e, 2 ^ m + f % 2 ^ m, ?_, by omega, Or.inr (by omega)⟩
    calc f = (e + 1) * 2 ^ m + f % 2 ^ m := hdiv.symm
      _ = e * 2 ^ m + (2 ^ m + f % 2 ^ m) := by ring

theorem magnitude_lt_succ (m f : Nat) : magnitude m f < magnitude m (f + 1) := by
  obtain ⟨e, r, rfl, hr, he⟩ := exists_scaled m f
  rw [magnitude_scaled hr.le he, Nat.add_assoc, magnitude_scaled hr (by omega)]
  exact Nat.mul_lt_mul_of_pos_right (Nat.lt_succ_self r) (Nat.two_pow_pos e)

theorem magnitude_strictMono (m : Nat) : StrictMono (magnitude m) :=
  strictMono_nat_of_lt_succ (magnitude_lt_succ m)

/-- A magnitude off the grid of `2 ^ e` lies below the numbers that need this grid. -/
theorem magnitude_dvd_or_lt (m f e : Nat) : 2 ^ e ∣ magnitude m f ∨ magnitude m f < 2 ^ (m + e) := by
  obtain ⟨e', r, rfl, hr, he⟩ := exists_scaled m f
  rw [magnitude_scaled hr.le he]
  rcases Nat.lt_or_ge e' e with hlt | hge
  · right
    calc r * 2 ^ e' < 2 ^ (m + 1) * 2 ^ e' := Nat.mul_lt_mul_of_pos_right hr (Nat.two_pow_pos e')
      _ = 2 ^ (m + (e' + 1)) := by ring
      _ ≤ 2 ^ (m + e) := Nat.pow_le_pow_right (by decide) (by omega)
  · exact Or.inl ((Nat.pow_dvd_pow 2 hge).mul_left r)

/-! ## The nearest integer -/

/-- The integer nearest to `n / d`; of two the even one. -/
def roundDiv (n d : Nat) : Nat :=
  if 2 * (n % d) < d ∨ (2 * (n % d) = d ∧ n / d % 2 = 0) then n / d else n / d + 1

/-- How far `x` is from `n / d`, times `d`. -/
def distance (n d x : Nat) : Nat := ((x * d : Nat) - (n : Nat) : Int).natAbs

theorem roundDiv_nearest {n d : Nat} (hd : 0 < d) (j : Nat) :
    distance n d (roundDiv n d) ≤ distance n d j := by
  have hdiv := Nat.div_add_mod' n d
  have hmod := Nat.mod_lt n hd
  have hnext : (n / d + 1) * d = n / d * d + d := by ring
  have hj : j * d ≤ n / d * d ∨ n / d * d + d ≤ j * d := by
    rcases Nat.lt_or_ge (n / d) j with hlt | hge
    · exact Or.inr (hnext ▸ Nat.mul_le_mul_right d hlt)
    · exact Or.inl (Nat.mul_le_mul_right d hge)
  unfold distance roundDiv
  split_ifs with hdown
  · omega
  · omega

/-- The nearest integer is at most half a unit away. -/
theorem two_mul_distance_roundDiv_le {n d : Nat} (hd : 0 < d) :
    2 * distance n d (roundDiv n d) ≤ d := by
  have hdiv := Nat.div_add_mod' n d
  have hmod := Nat.mod_lt n hd
  have hnext : (n / d + 1) * d = n / d * d + d := by ring
  unfold distance roundDiv
  split_ifs with hdown
  · omega
  · omega

theorem le_roundDiv {n d k : Nat} (hd : 0 < d) (h : k * d ≤ n) : k ≤ roundDiv n d := by
  have hk : k ≤ n / d := (Nat.le_div_iff_mul_le hd).mpr h
  unfold roundDiv
  split_ifs
  · exact hk
  · omega

theorem roundDiv_le {n d k : Nat} (hd : 0 < d) (h : n < k * d) : roundDiv n d ≤ k := by
  have hk : n / d < k := (Nat.div_lt_iff_lt_mul hd).mpr h
  unfold roundDiv
  split_ifs
  · exact hk.le
  · exact hk

/-! ## The nearest magnitude -/

/-- The grid of `n / d` is that of `2 ^ scale`. -/
def scale (m n d : Nat) : Nat := (n / d).log2 - m

/-- The fields of `n / d`, rounded as if there were no largest exponent. -/
def ofQuotient (m n d : Nat) : Nat :=
  scale m n d * 2 ^ m + roundDiv n (d * 2 ^ scale m n d)

theorem lt_scale {n d : Nat} (hd : 0 < d) :
    n < 2 ^ (m + 1) * (d * 2 ^ scale m n d) := by
  have hlt : n / d < 2 ^ (m + 1 + scale m n d) :=
    calc n / d < 2 ^ ((n / d).log2 + 1) := Nat.lt_log2_self
      _ ≤ 2 ^ (m + 1 + scale m n d) := Nat.pow_le_pow_right (by decide) (by unfold scale; omega)
  calc n < 2 ^ (m + 1 + scale m n d) * d := (Nat.div_lt_iff_lt_mul hd).mp hlt
    _ = 2 ^ (m + 1) * (d * 2 ^ scale m n d) := by ring

theorem scale_le {n d : Nat} (hd : 0 < d) (h : scale m n d ≠ 0) :
    2 ^ m * (d * 2 ^ scale m n d) ≤ n := by
  have hne : n / d ≠ 0 := by
    intro hzero
    rw [scale, hzero, Nat.log2_zero, Nat.zero_sub] at h
    exact h rfl
  have hle : 2 ^ (m + scale m n d) ≤ n / d :=
    calc 2 ^ (m + scale m n d) = 2 ^ (n / d).log2 := by unfold scale at *; congr 1; omega
      _ ≤ n / d := Nat.log2_self_le hne
  calc 2 ^ m * (d * 2 ^ scale m n d) = 2 ^ (m + scale m n d) * d := by ring
    _ ≤ n := (Nat.le_div_iff_mul_le hd).mp hle

/-- The grid point chosen, as a magnitude. -/
theorem magnitude_ofQuotient {n d : Nat} (hd : 0 < d) :
    magnitude m (ofQuotient m n d) = roundDiv n (d * 2 ^ scale m n d) * 2 ^ scale m n d := by
  have hgrid : 0 < d * 2 ^ scale m n d := Nat.mul_pos hd (Nat.two_pow_pos _)
  refine magnitude_scaled (roundDiv_le hgrid (lt_scale hd)) ?_
  rcases Nat.eq_zero_or_pos (scale m n d) with hzero | hpos
  · exact Or.inl hzero
  · exact Or.inr (le_roundDiv hgrid (scale_le hd (by omega)))

/-- No magnitude is nearer to `n / d`. -/
theorem ofQuotient_nearest {n d : Nat} (hd : 0 < d) (f : Nat) :
    distance n d (magnitude m (ofQuotient m n d)) ≤ distance n d (magnitude m f) := by
  have hgrid : 0 < d * 2 ^ scale m n d := Nat.mul_pos hd (Nat.two_pow_pos _)
  have hpoint (j : Nat) : distance n d (j * 2 ^ scale m n d) = distance n (d * 2 ^ scale m n d) j := by
    unfold distance
    rw [show j * 2 ^ scale m n d * d = j * (d * 2 ^ scale m n d) by ring]
  rw [magnitude_ofQuotient hd, hpoint]
  rcases magnitude_dvd_or_lt m f (scale m n d) with hdvd | hlt
  · obtain ⟨j, hj⟩ := hdvd
    rw [hj, Nat.mul_comm (2 ^ scale m n d) j, hpoint]
    exact roundDiv_nearest hgrid j
  · rcases Nat.eq_zero_or_pos (scale m n d) with hzero | hpos
    · have hj := hpoint (magnitude m f)
      rw [hzero, Nat.pow_zero, Nat.mul_one, Nat.mul_one] at hj
      rw [hzero, Nat.pow_zero, Nat.mul_one]
      exact roundDiv_nearest hd _
    · -- `2 ^ (m + scale)` is on the grid, and between the magnitude and `n / d`
      have hbelow : magnitude m f * d ≤ 2 ^ m * (d * 2 ^ scale m n d) :=
        calc magnitude m f * d ≤ 2 ^ (m + scale m n d) * d := Nat.mul_le_mul_right d hlt.le
          _ = 2 ^ m * (d * 2 ^ scale m n d) := by ring
      have hle := scale_le (m := m) hd (by omega : scale m n d ≠ 0)
      have hnear := roundDiv_nearest (n := n) hgrid (2 ^ m)
      refine hnear.trans ?_
      unfold distance
      omega

/-! ## Patterns -/

/-- How many units of the smallest subnormal make 1. -/
def unitsOfOne (w m : Nat) : Nat := 2 ^ (2 ^ (w - 2 - m) - 2 + m)

/-- The fields of the number nearest to `|x|`; beyond the largest finite one the infinity. -/
def fieldsOfRat (w m : Nat) (x : Rat) : Nat :=
  min (ofQuotient m (x.num.natAbs * unitsOfOne w m) x.den) (infinityFields w m)

/-- The number nearest to `x`. -/
def ofRat (w m : Nat) (x : Rat) : BitVec w :=
  BitVec.ofNat w (if x.num < 0 then 2 ^ (w - 1) + fieldsOfRat w m x else fieldsOfRat w m x)

/-- How far a number is from `x`, in units of the smallest subnormal times `x.den`. -/
def error (m : Nat) {w : Nat} (x : Rat) (y : BitVec w) : Nat :=
  (value m y * x.den - x.num * unitsOfOne w m).natAbs

/-- `y` is a number, and none is nearer to `x`. -/
def Nearest (m : Nat) {w : Nat} (x : Rat) (y : BitVec w) : Prop :=
  isNaN m y = false ∧ ∀ z : BitVec w, isNaN m z = false → error m x y ≤ error m x z

theorem infinityFields_lt {w m : Nat} (h : m < w) : infinityFields w m < 2 ^ (w - 1) := by
  have hpow : 2 ^ (w - 1 - m) * 2 ^ m = 2 ^ (w - 1) := by rw [← Nat.pow_add]; congr 1; omega
  rw [← hpow, infinityFields]
  exact Nat.mul_lt_mul_of_pos_right (Nat.sub_lt (Nat.two_pow_pos _) (by decide)) (Nat.two_pow_pos m)

/-- Clamping to the infinity leaves the nearest of what is left. -/
theorem fieldsOfRat_nearest {w : Nat} (x : Rat) {f : Nat} (hf : f ≤ infinityFields w m) :
    distance (x.num.natAbs * unitsOfOne w m) x.den (magnitude m (fieldsOfRat w m x)) ≤
      distance (x.num.natAbs * unitsOfOne w m) x.den (magnitude m f) := by
  have hnear := ofQuotient_nearest (m := m) (n := x.num.natAbs * unitsOfOne w m) x.den_pos
  unfold fieldsOfRat
  rcases Nat.le_total (ofQuotient m (x.num.natAbs * unitsOfOne w m) x.den) (infinityFields w m)
    with hle | hge
  · rw [Nat.min_eq_left hle]
    exact hnear f
  · rw [Nat.min_eq_right hge]
    have hinf := hnear (infinityFields w m)
    have hup := Nat.mul_le_mul_right x.den ((magnitude_strictMono m).monotone hge)
    have hdown := Nat.mul_le_mul_right x.den ((magnitude_strictMono m).monotone hf)
    have hf' := hnear f
    unfold distance at *
    omega

theorem toNat_ofRat {w : Nat} (h : m < w) (x : Rat) :
    (ofRat w m x).toNat =
      if x.num < 0 then 2 ^ (w - 1) + fieldsOfRat w m x else fieldsOfRat w m x := by
  have hfields : fieldsOfRat w m x < 2 ^ (w - 1) :=
    (Nat.min_le_right _ _).trans_lt (infinityFields_lt h)
  have hpow : 2 ^ w = 2 * 2 ^ (w - 1) := by rw [← Nat.pow_succ']; congr 1; omega
  rw [ofRat, BitVec.toNat_ofNat]
  exact Nat.mod_eq_of_lt (by split_ifs <;> omega)

theorem fields_ofRat {w : Nat} (h : m < w) (x : Rat) :
    fields (ofRat w m x) = fieldsOfRat w m x := by
  have hfields : fieldsOfRat w m x < 2 ^ (w - 1) :=
    (Nat.min_le_right _ _).trans_lt (infinityFields_lt h)
  rw [fields, toNat_ofRat h]
  split_ifs
  · rw [Nat.add_mod_left, Nat.mod_eq_of_lt hfields]
  · rw [Nat.mod_eq_of_lt hfields]

theorem value_ofRat {w : Nat} (h : m < w) (x : Rat) :
    value m (ofRat w m x) =
      if x.num < 0 then -(magnitude m (fieldsOfRat w m x) : Int)
      else (magnitude m (fieldsOfRat w m x) : Int) := by
  have hfields : fieldsOfRat w m x < 2 ^ (w - 1) :=
    (Nat.min_le_right _ _).trans_lt (infinityFields_lt h)
  rw [value, fields_ofRat h, BitVec.msb_eq_decide, toNat_ofRat h]
  by_cases hneg : x.num < 0
  · simp [hneg]
  · simp [hneg, hfields]

/-- **`ofRat` rounds to the nearest number.** -/
theorem ofRat_nearest {w : Nat} (h : m < w) (x : Rat) : Nearest m x (ofRat w m x) := by
  refine ⟨?_, fun z hz => ?_⟩
  · rw [isNaN, fields_ofRat h]
    exact decide_eq_false (Nat.not_lt.mpr (Nat.min_le_right _ _))
  · have hnear := fieldsOfRat_nearest (m := m) x (Nat.not_lt.mp (of_decide_eq_false hz))
    have hnum : x.num * (unitsOfOne w m : Int) =
        if x.num < 0 then -((x.num.natAbs * unitsOfOne w m : Nat) : Int)
        else ((x.num.natAbs * unitsOfOne w m : Nat) : Int) := by
      split_ifs with hneg
      · rw [Int.natCast_mul, ← Int.neg_mul, Int.ofNat_natAbs_of_nonpos hneg.le, Int.neg_neg]
      · rw [Int.natCast_mul, Int.natAbs_of_nonneg (Int.not_lt.mp hneg)]
    unfold distance at hnear
    rw [error, error, value_ofRat h, value, hnum]
    -- the sign of `x` is the better one, since magnitudes are not negative
    split_ifs <;> simp only [Int.neg_mul, ← Int.natCast_mul] <;> omega

end XIoT.Lib.BinaryFormat
