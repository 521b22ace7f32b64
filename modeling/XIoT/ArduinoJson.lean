import XIoT.Subscriber
import XIoT.Lib.Rounding

/-!
# What ArduinoJson documents

The conversions behind `request.value.bv = doc["value"]` and its siblings. A value of
the kind asked for is converted faithfully; everything else is converted all the
same, to 0 or to a truth value of its own.
-/

namespace XIoT

/-- A `double` or an integer converted to `float`: to the nearest, ties to even. -/
def Float32Bits.ofRat (n : Rat) : Float32Bits := Lib.BinaryFormat.ofRat 32 23 n

/-- `x` is a number as close to `n` as any `float`. -/
def Float32Bits.Nearest (n : Rat) (x : Float32Bits) : Prop := Lib.BinaryFormat.Nearest 23 n x

theorem Float32Bits.ofRat_nearest (n : Rat) : Float32Bits.Nearest n (Float32Bits.ofRat n) :=
  Lib.BinaryFormat.ofRat_nearest (by decide) n

namespace Subscriber

/-- An integer that an unsigned type of `w` bits holds. -/
def InUnsigned (w : Nat) (n : Rat) : Prop := n.den = 1 ∧ 0 ≤ n.num ∧ n.num < 2 ^ w

/-- An integer that a signed type of `w` bits holds. -/
def InSigned (w : Nat) (n : Rat) : Prop :=
  n.den = 1 ∧ -2 ^ (w - 1) ≤ n.num ∧ n.num < 2 ^ (w - 1)

instance (w : Nat) (n : Rat) : Decidable (InUnsigned w n) := inferInstanceAs (Decidable (_ ∧ _))

instance (w : Nat) (n : Rat) : Decidable (InSigned w n) := inferInstanceAs (Decidable (_ ∧ _))

namespace ArduinoJson

/-- The conversions of values of the kind asked for. -/
structure Documented (json : ArduinoJson) : Prop where
  bool_bool (b : Bool) : json.toBool (.bool b) = b
  bool_number (n : Rat) : json.toBool (.number n) = decide (n ≠ 0)
  unsigned_number (w : Nat) (n : Rat) :
    InUnsigned w n → json.toUnsigned w (.number n) = BitVec.ofInt w n.num
  signed_number (w : Nat) (n : Rat) :
    InSigned w n → json.toSigned w (.number n) = BitVec.ofInt w n.num
  float_number (n : Rat) : json.toFloat (.number n) = Float32Bits.ofRat n

/-- ArduinoJson 7 with a given parser: 0 for what is not a number or out of range, and
every string, array and object is true. -/
def documented (parser : String → Option JsonValue) : ArduinoJson where
  deserializeJson := parser
  toBool
    | .null => false
    | .bool b => b
    | .number n => decide (n ≠ 0)
    | .string _ => true
    | .array _ => true
    | .object _ => true
  toUnsigned w
    | .number n =>
      let truncated := n.num.tdiv n.den
      if 0 ≤ truncated ∧ truncated < 2 ^ w then BitVec.ofInt w truncated else 0
    | _ => 0
  toSigned w
    | .number n =>
      let truncated := n.num.tdiv n.den
      if -2 ^ (w - 1) ≤ truncated ∧ truncated < 2 ^ (w - 1) then BitVec.ofInt w truncated else 0
    | _ => 0
  toFloat
    | .number n => Float32Bits.ofRat n
    | _ => 0

theorem documented_documented (parser : String → Option JsonValue) :
    Documented (documented parser) where
  bool_bool _ := rfl
  bool_number _ := rfl
  unsigned_number w n := by
    rintro ⟨hden, hlow, hhigh⟩
    have htruncated : n.num.tdiv n.den = n.num := by rw [hden]; exact Int.tdiv_one _
    simp only [documented, htruncated]
    rw [if_pos ⟨hlow, hhigh⟩]
  signed_number w n := by
    rintro ⟨hden, hlow, hhigh⟩
    have htruncated : n.num.tdiv n.den = n.num := by rw [hden]; exact Int.tdiv_one _
    simp only [documented, htruncated]
    rw [if_pos ⟨hlow, hhigh⟩]
  float_number _ := rfl

/-- With a parser that knows one text, an object whose only key is "value". -/
def ofCommand (text : String) (value : JsonValue) : ArduinoJson :=
  documented fun payload => if payload = text then some (.object [("value", value)]) else none

end ArduinoJson

end Subscriber

end XIoT
