import XIoT.RegisterRoundTrip
import XIoT.WriteFrames

/-!
# What the word orders say

An enumerator of `word_order_t` names the four bytes of a word, A the highest, as they
follow each other on the wire. The five functions of the codec are compared with the
names, each against the other four enumerators as well.
-/

namespace XIoT.Modbus

open ModbusCodec

/-! ## Bytes on the wire -/

/-- Two registers, each high byte first. -/
def wireBytes (regs : BitVec 16 × BitVec 16) : List Byte := bigEndian regs.1 ++ bigEndian regs.2

/-- The bytes of a word in the order of the enumerator's name. -/
def namedBytes (x : BitVec 32) (order : WordOrder) : List Byte :=
  let a := x.extractLsb' 24 8
  let b := x.extractLsb' 16 8
  let c := x.extractLsb' 8 8
  let d := x.setWidth 8
  match order with
  | .abcd => [a, b, c, d]
  | .cdab => [c, d, a, b]
  | .badc => [b, a, d, c]
  | .dcba => [d, c, b, a]

abbrev Encoder := TagValue → WordOrder → BitVec 16 × BitVec 16

abbrev Decoder := BitVec 16 × BitVec 16 → WordOrder → TagValue → TagValue

/-- The word in the `member` of a value goes out as the order names it. -/
def EncodesNamed (encode : Encoder) (member : TagValue → BitVec 32) (order : WordOrder)
    (x : BitVec 32) : Prop :=
  ∀ value, member value = x → wireBytes (encode value order) = namedBytes x order

/-- Registers with the bytes as the order names them come in as the word. -/
def DecodesNamed (decode : Decoder) (member : TagValue → BitVec 32) (order : WordOrder)
    (x : BitVec 32) : Prop :=
  ∀ regs value, wireBytes regs = namedBytes x order → member (decode regs order value) = x

/-- Encoding the word and decoding it gives the word back, and decoding any registers and
encoding them gives the registers back. -/
def MutuallyInverse (encode : Encoder) (decode : Decoder) (member : TagValue → BitVec 32)
    (order : WordOrder) (x : BitVec 32) : Prop :=
  (∀ value old, member value = x → member (decode (encode value order) order old) = x) ∧
    ∀ regs old, encode (decode regs order old) order = regs

/-- Two orders that give the word one layout are orders whose names give it one. -/
def LayoutsDiffer (encode : Encoder) (member : TagValue → BitVec 32) (order other : WordOrder)
    (x : BitVec 32) : Prop :=
  ∀ v w, member v = x → member w = x → order ≠ other →
    wireBytes (encode v order) = wireBytes (encode w other) →
      namedBytes x order = namedBytes x other

/-- The codec does with the word what the order says. -/
structure MeansWhatItSays (order : WordOrder) (x : BitVec 32) : Prop where
  encodesUint32 : EncodesNamed encodeUint32 TagValue.u32v order x
  encodesInt32 : EncodesNamed encodeInt32 TagValue.i32v order x
  encodesFloat32 : EncodesNamed encodeFloat32 TagValue.f32v order x
  decodesUint32 : DecodesNamed decodeUint32 TagValue.u32v order x
  decodesInt32 : DecodesNamed decodeInt32 TagValue.i32v order x
  inverseUint32 : MutuallyInverse encodeUint32 decodeUint32 TagValue.u32v order x
  inverseInt32 : MutuallyInverse encodeInt32 decodeInt32 TagValue.i32v order x

/-- Two orders are told apart by all three encoders. -/
structure ToldApart (order other : WordOrder) (x : BitVec 32) : Prop where
  uint32 : LayoutsDiffer encodeUint32 TagValue.u32v order other x
  int32 : LayoutsDiffer encodeInt32 TagValue.i32v order other x
  float32 : LayoutsDiffer encodeFloat32 TagValue.f32v order other x

/-! ## Layouts -/

theorem bigEndian_injective {r s : BitVec 16} (h : bigEndian r = bigEndian s) : r = s := by
  obtain ⟨hhigh, hrest⟩ := List.cons.inj h
  rw [← highByte_append_lowByte r, ← highByte_append_lowByte s, hhigh, (List.cons.inj hrest).1]

theorem wireBytes_injective {regs regs' : BitVec 16 × BitVec 16}
    (h : wireBytes regs = wireBytes regs') : regs = regs' := by
  obtain ⟨hfirst, hsecond⟩ := List.append_inj h rfl
  exact Prod.ext (bigEndian_injective hfirst) (bigEndian_injective hsecond)

/-- The bytes of a word are those of its halves. -/
theorem bigEndian_halves (x : BitVec 32) :
    bigEndian (x.extractLsb' 16 16) = [x.extractLsb' 24 8, x.extractLsb' 16 8] ∧
      bigEndian (x.setWidth 16) = [x.extractLsb' 8 8, x.setWidth 8] := by
  have htop : (x.extractLsb' 16 16).extractLsb' 8 8 = x.extractLsb' 24 8 := by
    ext i hi
    simp only [BitVec.getElem_extractLsb', BitVec.getLsbD_extractLsb', ← Nat.add_assoc]
    rw [decide_eq_true (show 8 + i < 16 by omega)]
    rfl
  unfold bigEndian highByte lowByte
  rw [htop, BitVec.setWidth_extractLsb'_of_le (by decide),
    BitVec.extractLsb'_setWidth_of_le (by decide), BitVec.setWidth_setWidth_of_le x (by decide)]
  exact ⟨rfl, rfl⟩

theorem bigEndian_swapBytes (r : BitVec 16) : bigEndian (swapBytes r) = (bigEndian r).reverse := by
  have hhigh : highByte (swapBytes r) = lowByte r := BitVec.extractLsb'_append_eq_left
  have hlow : lowByte (swapBytes r) = highByte r := BitVec.setWidth_append_eq_right
  rw [bigEndian, hhigh, hlow]
  rfl

/-- The registers in an order carry the bytes in the order of its name. -/
theorem namedBytes_eq (x : BitVec 32) (order : WordOrder) :
    namedBytes x order = (inWordOrder x order).flatMap bigEndian := by
  obtain ⟨hupper, hlower⟩ := bigEndian_halves x
  cases order <;>
    simp only [namedBytes, inWordOrder, List.flatMap_cons, List.flatMap_nil, bigEndian_swapBytes,
      hupper, hlower] <;> rfl

/-- The registers of a word carry its bytes in the named order exactly when the word does not
tell its order from the one it is encoded in. -/
theorem wireBytes_splitWord_iff (x : BitVec 32) (order : WordOrder) :
    wireBytes (splitWord x order) = namedBytes x order ↔ EncodedInOrder x order := by
  have hpair (r s r' s' : BitVec 16) :
      wireBytes (r, s) = [r', s'].flatMap bigEndian ↔ r' = r ∧ s' = s := by
    constructor
    · intro h
      have hregs : (r, s) = (r', s') := wireBytes_injective h
      exact ⟨(Prod.mk.inj hregs).1.symm, (Prod.mk.inj hregs).2.symm⟩
    · rintro ⟨rfl, rfl⟩
      rfl
  rw [namedBytes_eq]
  cases order with
  | abcd => exact iff_of_true rfl trivial
  | cdab => exact iff_of_true rfl trivial
  | badc => exact hpair _ _ _ _
  | dcba => exact hpair _ _ _ _

/-! ## The codec -/

section

variable {encode : Encoder} {decode : Decoder} {member : TagValue → BitVec 32} {x : BitVec 32}
  {order other : WordOrder}

theorem encodesNamed_of (hencode : ∀ value order, encode value order = splitWord (member value) order)
    (hx : EncodedInOrder x order) : EncodesNamed encode member order x := by
  rintro value rfl
  rw [hencode]
  exact (wireBytes_splitWord_iff _ order).mpr hx

theorem encodedInOrder_of (h : EncodesNamed encode member order x)
    (hencode : ∀ value order, encode value order = splitWord (member value) order)
    {value : TagValue} (hvalue : member value = x) : EncodedInOrder x order := by
  refine (wireBytes_splitWord_iff x order).mp ?_
  rw [← h value hvalue, hencode, hvalue]

/-- Registers with these bytes are those that the word is encoded into. -/
theorem decodesNamed_of
    (hdecode : ∀ regs order value, member (decode regs order value) = joinWords regs order)
    (hx : EncodedInOrder x order) : DecodesNamed decode member order x := by
  intro regs value hregs
  have hsplit : regs = splitWord x order :=
    wireBytes_injective (hregs.trans ((wireBytes_splitWord_iff x order).mpr hx).symm)
  rw [hdecode, hsplit, joinWords_splitWord]

/-- The codec undoes itself in every order, the two that it does not know among them. -/
theorem mutuallyInverse_of
    (hencode : ∀ value order, encode value order = splitWord (member value) order)
    (hdecode : ∀ regs order value, member (decode regs order value) = joinWords regs order) :
    MutuallyInverse encode decode member order x := by
  constructor
  · rintro value old rfl
    rw [hdecode, hencode, joinWords_splitWord]
  · intro regs old
    rw [hencode, hdecode, splitWord_joinWords]

theorem layoutsDiffer_of (h : EncodesNamed encode member order x)
    (h' : EncodesNamed encode member other x) : LayoutsDiffer encode member order other x := by
  intro v w hv hw _ heq
  rw [← h v hv, ← h' w hw, heq]

end

theorem meansWhatItSays_iff (order : WordOrder) (x : BitVec 32) :
    MeansWhatItSays order x ↔ EncodedInOrder x order := by
  constructor
  · intro h
    have hvalue : (TagValue.zero.setU32v x).u32v = x := rfl
    exact encodedInOrder_of h.encodesUint32 (fun _ _ => rfl) hvalue
  · intro hx
    exact {
      encodesUint32 := encodesNamed_of (fun _ _ => rfl) hx
      encodesInt32 := encodesNamed_of (fun _ _ => rfl) hx
      encodesFloat32 := encodesNamed_of (fun _ _ => rfl) hx
      decodesUint32 := decodesNamed_of (fun _ _ _ => rfl) hx
      decodesInt32 := decodesNamed_of (fun _ _ _ => rfl) hx
      inverseUint32 := mutuallyInverse_of (fun _ _ => rfl) (fun _ _ _ => rfl)
      inverseInt32 := mutuallyInverse_of (fun _ _ => rfl) (fun _ _ _ => rfl) }

/-- **Word orders mean what they say, exactly** as far as they are ABCD or CDAB, or the
bytes of the word coincide. -/
theorem word_orders_iff (x : BitVec 32) (order other : WordOrder) :
    MeansWhatItSays order x ∧ MeansWhatItSays other x ∧ ToldApart order other x ↔
      EncodedInOrder x order ∧ EncodedInOrder x other := by
  rw [meansWhatItSays_iff, meansWhatItSays_iff]
  constructor
  · rintro ⟨hx, hx', -⟩
    exact ⟨hx, hx'⟩
  · rintro ⟨hx, hx'⟩
    have h := (meansWhatItSays_iff order x).mpr hx
    have h' := (meansWhatItSays_iff other x).mpr hx'
    exact ⟨hx, hx', layoutsDiffer_of h.encodesUint32 h'.encodesUint32,
      layoutsDiffer_of h.encodesInt32 h'.encodesInt32,
      layoutsDiffer_of h.encodesFloat32 h'.encodesFloat32⟩

/-- `WORD_BADC` goes out as `WORD_ABCD`. -/
theorem badc_goes_out_abcd :
    ¬ ∀ (x : BitVec 32) (order other : WordOrder),
      MeansWhatItSays order x ∧ MeansWhatItSays other x ∧ ToldApart order other x := by
  intro hall
  have hwire := (hall 0x01020304 .badc .badc).1.encodesUint32 (TagValue.zero.setU32v 0x01020304) rfl
  revert hwire
  decide

end XIoT.Modbus
