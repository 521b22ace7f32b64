import Mathlib.Data.Nat.Digits.Lemmas

/-!
# Decimal numbers in ASCII

What `%u`, `%d` and `%.2f` make of a number, and the numbers read back.
-/

namespace XIoT.Lib.Decimal

/-- The character of a digit. -/
def digit (d : ℕ) : BitVec 8 := BitVec.ofNat 8 (48 + d)

def minus : BitVec 8 := 45

def point : BitVec 8 := 46

/-- A natural number, without leading zeros. -/
def decimal (n : ℕ) : List (BitVec 8) :=
  if n = 0 then [digit 0] else (Nat.digits 10 n).reverse.map digit

/-- Read one more character. -/
def readDigit (n : ℕ) (c : BitVec 8) : Option ℕ :=
  if 48 ≤ c.toNat ∧ c.toNat ≤ 57 then some (10 * n + (c.toNat - 48)) else none

/-- The number that a list of digits spells, none when another character occurs. -/
def readDigits (l : List (BitVec 8)) : Option ℕ := l.foldlM readDigit 0

theorem toNat_digit {d : ℕ} (hd : d < 10) : (digit d).toNat = 48 + d := by
  rw [digit, BitVec.toNat_ofNat]
  omega

theorem readDigit_digit (n : ℕ) {d : ℕ} (hd : d < 10) : readDigit n (digit d) = some (10 * n + d) := by
  have hvalue := toNat_digit hd
  rw [readDigit, if_pos (by omega), hvalue, Nat.add_sub_cancel_left]

theorem readDigits_append (l m : List (BitVec 8)) :
    readDigits (l ++ m) = (readDigits l).bind fun n => m.foldlM readDigit n := List.foldlM_append

theorem readDigits_map_digit {ds : List ℕ} (hds : ∀ d ∈ ds, d < 10) :
    readDigits (ds.reverse.map digit) = some (Nat.ofDigits 10 ds) := by
  induction ds with
  | nil => rfl
  | cons d ds ih =>
    have hd := hds d List.mem_cons_self
    rw [List.reverse_cons, List.map_append, readDigits_append,
      ih fun e he => hds e (List.mem_cons_of_mem d he), Option.bind_some, Nat.ofDigits_cons]
    show (readDigit _ (digit d)).bind some = _
    rw [readDigit_digit _ hd, Option.bind_some]
    exact congrArg some (Nat.add_comm _ _)

/-- **Round trip.** -/
theorem readDigits_decimal (n : ℕ) : readDigits (decimal n) = some n := by
  unfold decimal
  split
  · next h => rw [h]; rfl
  · rw [readDigits_map_digit fun d hd => Nat.digits_lt_base (by decide) hd, Nat.ofDigits_digits]

theorem length_decimal_le {n k : ℕ} (hk : 0 < k) (hn : n < 10 ^ k) : (decimal n).length ≤ k := by
  unfold decimal
  split
  · exact hk
  · rw [List.length_map, List.length_reverse]
    exact (Nat.digits_length_le_iff (by decide) n).mpr hn

/-- Every character is a digit. -/
theorem mem_decimal {n : ℕ} {c : BitVec 8} (hc : c ∈ decimal n) : 48 ≤ c.toNat ∧ c.toNat ≤ 57 := by
  have hdigit : ∃ d < 10, digit d = c := by
    unfold decimal at hc
    split at hc
    · exact ⟨0, by decide, (List.mem_singleton.mp hc).symm⟩
    · obtain ⟨d, hd, rfl⟩ := List.mem_map.mp hc
      exact ⟨d, Nat.digits_lt_base (by decide) (List.mem_reverse.mp hd), rfl⟩
  obtain ⟨d, hd, rfl⟩ := hdigit
  rw [toNat_digit hd]
  omega

/-! ## Integers -/

def signOf (negative : Bool) : List (BitVec 8) := if negative then [minus] else []

/-- An integer, with a sign when it is negative. -/
def signed (i : ℤ) : List (BitVec 8) := signOf (decide (i < 0)) ++ decimal i.natAbs

/-- The sign in front of a number, and the rest. -/
def readSign : List (BitVec 8) → Bool × List (BitVec 8)
  | c :: l => if c = minus then (true, l) else (false, c :: l)
  | [] => (false, [])

def readSigned (l : List (BitVec 8)) : Option ℤ :=
  (readDigits (readSign l).2).map fun n : ℕ => if (readSign l).1 then -(n : ℤ) else (n : ℤ)

/-- What begins with a digit has no sign. -/
theorem readSign_signOf (negative : Bool) {l : List (BitVec 8)} (hl : ∀ c ∈ l.head?, c ≠ minus) :
    readSign (signOf negative ++ l) = (negative, l) := by
  cases negative with
  | true => rfl
  | false =>
    cases l with
    | nil => rfl
    | cons c l => exact if_neg (hl c rfl)

theorem decimal_head {n : ℕ} {l : List (BitVec 8)} :
    ∀ c ∈ (decimal n ++ l).head?, c ≠ minus := by
  intro c hc
  have hne : decimal n ≠ [] := by
    unfold decimal
    split
    · exact List.cons_ne_nil _ _
    · next hn =>
      intro hnil
      exact Nat.digits_ne_nil_iff_ne_zero.mpr hn (by simpa using hnil)
  rw [List.head?_append_of_ne_nil _ hne] at hc
  have hdigit := mem_decimal (List.mem_of_head? hc)
  rintro rfl
  exact absurd hdigit.1 (by decide)

theorem readSigned_signed (i : ℤ) : readSigned (signed i) = some i := by
  have hsign := readSign_signOf (decide (i < 0)) (l := decimal i.natAbs) (by
    simpa using decimal_head (n := i.natAbs) (l := []))
  rw [readSigned, signed, hsign, readDigits_decimal, Option.map_some]
  split
  · next hneg =>
    have hneg : i < 0 := of_decide_eq_true hneg
    exact congrArg some (by omega)
  · next hpos =>
    have hpos : ¬ i < 0 := fun h => hpos (decide_eq_true h)
    exact congrArg some (by omega)

/-! ## Hundredths -/

/-- A number of hundredths with two places behind the point. -/
def hundredths (negative : Bool) (h : ℕ) : List (BitVec 8) :=
  signOf negative ++ (decimal (h / 100) ++ [point, digit (h / 10 % 10), digit (h % 10)])

/-- The sign and the hundredths. -/
def readHundredths (l : List (BitVec 8)) : Option (Bool × ℕ) :=
  match (readSign l).2.reverse with
  | last :: first :: c :: whole =>
    if c = point then
      (readDigits (whole.reverse ++ [first, last])).map fun h => ((readSign l).1, h)
    else none
  | _ => none

theorem readHundredths_hundredths (negative : Bool) (h : ℕ) :
    readHundredths (hundredths negative h) = some (negative, h) := by
  have hsign := readSign_signOf negative
    (decimal_head (n := h / 100) (l := [point, digit (h / 10 % 10), digit (h % 10)]))
  have hrev : (decimal (h / 100) ++ [point, digit (h / 10 % 10), digit (h % 10)]).reverse =
      digit (h % 10) :: digit (h / 10 % 10) :: point :: (decimal (h / 100)).reverse := by
    simp
  have hread : readDigits (decimal (h / 100) ++ [digit (h / 10 % 10), digit (h % 10)]) = some h := by
    rw [readDigits_append, readDigits_decimal, Option.bind_some]
    show (readDigit _ _).bind (fun n => (readDigit n _).bind some) = _
    rw [readDigit_digit _ (Nat.mod_lt _ (by decide)), Option.bind_some,
      readDigit_digit _ (Nat.mod_lt _ (by decide)), Option.bind_some]
    exact congrArg some (by omega)
  rw [readHundredths, hundredths, hsign, hrev]
  simp only [if_true, List.reverse_reverse, hread, Option.map_some]

theorem length_hundredths_le (negative : Bool) {h k : ℕ} (hk : 0 < k) (hh : h / 100 < 10 ^ k) :
    (hundredths negative h).length ≤ k + 4 := by
  have hwhole := length_decimal_le hk hh
  have hsign : (signOf negative).length ≤ 1 := by cases negative <;> decide
  simp only [hundredths, List.length_append, List.length_cons, List.length_nil]
  omega

end XIoT.Lib.Decimal
