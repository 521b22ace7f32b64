import XIoT.RegisterRoundTrip

/-!
# Values decoded from bytes that were not received

`on_modbus_data` takes one, two or four bytes by the type of the tag and does not ask
whether the message has them. A `get` past the end leaves its variable alone, and what the
stack held is published as a valid value.
-/

namespace XIoT.Modbus

/-! ## The data part of a message -/

/-- The byte count that follows the function code; the echo of a write carries none. -/
def byteCount : List Byte → Nat
  | _ :: functionCode :: count :: _ =>
    if functionCode = 0x05 ∨ functionCode = 0x06 ∨ functionCode = 0x10 then 0 else count.toNat
  | _ => 0

/-- The index is that of a byte in the data part. -/
def InDataPart (msg : List Byte) (i : Nat) : Prop :=
  3 ≤ i ∧ i < 3 + byteCount msg ∧ i < msg.length

/-- How many bytes of a message the decoding of a type takes. -/
def dataWidth : TagType → Nat
  | .bool => 1
  | .uint16 | .int16 => 2
  | .uint32 | .int32 | .float32 => 4
  | .string => 0

/-- The bytes that the decoding of a type takes (`decodeValue_determined`). -/
def readBytes (dataType : TagType) : List Nat := List.range' 3 (dataWidth dataType)

/-- The value is posted with `SYS_OK`. -/
def Posts (reg : Registry) (healthy : Bool) (msg : List Byte) (token : BitVec 32) (u : Uninit)
    (value : TagValue) : Prop :=
  ∃ response, (onModbusData reg healthy msg token u).response = some response ∧
    response.status = .ok ∧ response.value = value

/-- Values are posted only if all bytes they are decoded from are in the data part; they are
the same for every message with this data part and whatever the stack holds, and a message
that is too short gives none. -/
structure DecodesReceived (reg : Registry) (healthy : Bool) (msg : List Byte) (token : BitVec 32) :
    Prop where
  inside : ∀ u value tag, Posts reg healthy msg token u value →
    reg.tagFindById (token.setWidth 16) = some tag → ∀ i ∈ readBytes tag.dataType, InDataPart msg i
  determined : ∀ msg' u u' value value' tag, (∀ i, InDataPart msg i → msg'[i]? = msg[i]?) →
    Posts reg healthy msg token u value → Posts reg healthy msg' token u' value' →
    reg.tagFindById (token.setWidth 16) = some tag → SameValue tag.dataType value value'
  tooShort : ∀ u value tag, reg.tagFindById (token.setWidth 16) = some tag →
    msg.length < 3 + dataWidth tag.dataType → ¬ Posts reg healthy msg token u value

/-- The message carries the bytes of the type of its tag, if the tag has a type that is decoded. -/
def CarriesValue (reg : Registry) (msg : List Byte) (token : BitVec 32) : Prop :=
  ∀ tag, reg.tagFindById (token.setWidth 16) = some tag → tag.dataType ≠ .string →
    dataWidth tag.dataType ≤ byteCount msg ∧ 3 + dataWidth tag.dataType ≤ msg.length

/-! ## What the decoding reads -/

theorem posts_iff {reg : Registry} {healthy : Bool} {msg : List Byte} {token : BitVec 32}
    {u : Uninit} {value : TagValue} : Posts reg healthy msg token u value ↔
      ∃ tag, reg.tagFindById (token.setWidth 16) = some tag ∧ decodeValue tag msg u = some value := by
  constructor
  · rintro ⟨response, hresponse, -, rfl⟩
    obtain ⟨tag, value, htag, hvalue, rfl⟩ := onModbusData_eq_some.mp hresponse
    exact ⟨tag, htag, hvalue⟩
  · rintro ⟨tag, htag, hvalue⟩
    exact ⟨_, onModbusData_eq_some.mpr ⟨tag, value, htag, hvalue, rfl⟩, rfl, rfl⟩

theorem getByte_of_le {msg : List Byte} {i : Nat} (h : msg.length ≤ i) (x : Byte) :
    getByte msg i x = x := by
  rw [getByte, List.getD_eq_getElem?_getD, List.getElem?_eq_none h]
  rfl

theorem getWord_of_le {msg : List Byte} {i : Nat} (h : msg.length ≤ i + 1) (x : BitVec 16) :
    getWord msg i x = x := by
  rw [getWord, List.getElem?_eq_none h]
  split
  · next hlast => cases hlast
  · rfl

theorem getFloat_of_le {msg : List Byte} {i : Nat} (h : msg.length ≤ i + 3) (x : BitVec 32) :
    getFloat msg i x = x := by
  rw [getFloat, List.getElem?_eq_none h]
  split
  · next hlast => cases hlast
  · rfl

/-- The bytes read determine the value if the message has them: no other byte and nothing of
the stack has a say. -/
theorem decodeValue_determined {tag : TagConfig} {msg msg' : List Byte}
    (h : ∀ i ∈ readBytes tag.dataType, ∃ b, msg[i]? = some b ∧ msg'[i]? = some b) {u u' : Uninit}
    {value value' : TagValue} (hvalue : decodeValue tag msg u = some value)
    (hvalue' : decodeValue tag msg' u' = some value') : SameValue tag.dataType value value' := by
  unfold decodeValue at hvalue hvalue'
  cases htype : tag.dataType with
  | string =>
    rw [htype] at hvalue
    cases hvalue
  | bool =>
    rw [htype] at hvalue hvalue' h
    obtain ⟨a, ha, ha'⟩ := h 3 (by decide)
    obtain rfl := Option.some.inj hvalue
    obtain rfl := Option.some.inj hvalue'
    rw [SameValue, TagValue.bv_setBv, TagValue.bv_setBv]
    simp only [getByte, List.getD_eq_getElem?_getD, ha, ha', Option.getD_some]
  | uint16 | int16 =>
    rw [htype] at hvalue hvalue' h
    obtain ⟨a, ha, ha'⟩ := h 3 (by decide)
    obtain ⟨b, hb, hb'⟩ := h 4 (by decide)
    obtain rfl := Option.some.inj hvalue
    obtain rfl := Option.some.inj hvalue'
    refine (TagValue.u16v_setU16v _ _).trans (Eq.trans ?_ (TagValue.u16v_setU16v _ _).symm)
    simp only [getWord, ha, ha', hb, hb']
  | uint32 | int32 =>
    rw [htype] at hvalue hvalue' h
    obtain ⟨a, ha, ha'⟩ := h 3 (by decide)
    obtain ⟨b, hb, hb'⟩ := h 4 (by decide)
    obtain ⟨c, hc, hc'⟩ := h 5 (by decide)
    obtain ⟨d, hd, hd'⟩ := h 6 (by decide)
    obtain rfl := Option.some.inj hvalue
    obtain rfl := Option.some.inj hvalue'
    simp only [getWord, ha, ha', hb, hb', hc, hc', hd, hd']
    rfl
  | float32 =>
    rw [htype] at hvalue hvalue' h
    obtain ⟨a, ha, ha'⟩ := h 3 (by decide)
    obtain ⟨b, hb, hb'⟩ := h 4 (by decide)
    obtain ⟨c, hc, hc'⟩ := h 5 (by decide)
    obtain ⟨d, hd, hd'⟩ := h 6 (by decide)
    obtain rfl := Option.some.inj hvalue
    obtain rfl := Option.some.inj hvalue'
    simp only [getFloat, ha, ha', hb, hb', hc, hc', hd, hd']
    rfl

/-! ## What the stack held -/

/-- A stack with one byte throughout. -/
def Uninit.filled (b : Byte) : Uninit :=
  ⟨.zero, b, (b.setWidth 16, b.setWidth 16), b.setWidth 32⟩

theorem joinWords_injective {regs regs' : BitVec 16 × BitVec 16} {order : WordOrder}
    (h : ModbusCodec.joinWords regs order = ModbusCodec.joinWords regs' order) : regs = regs' := by
  rw [← splitWord_joinWords regs order, h, splitWord_joinWords]

/-- From a message that is too short two stacks decode two values. -/
theorem decodeValue_leftover {tag : TagConfig} (htype : tag.dataType ≠ .string) {msg : List Byte}
    (hshort : msg.length < 3 + dataWidth tag.dataType) :
    ∃ value value', decodeValue tag msg (.filled 0) = some value ∧
      decodeValue tag msg (.filled 1) = some value' ∧ ¬ SameValue tag.dataType value value' := by
  unfold decodeValue
  cases hdata : tag.dataType with
  | string => exact absurd hdata htype
  | bool =>
    rw [hdata] at hshort
    refine ⟨_, _, rfl, rfl, ?_⟩
    rw [SameValue, TagValue.bv_setBv, TagValue.bv_setBv, getByte_of_le (Nat.le_of_lt_succ hshort),
      getByte_of_le (Nat.le_of_lt_succ hshort)]
    decide
  | uint16 | int16 =>
    rw [hdata] at hshort
    refine ⟨_, _, rfl, rfl, fun hsame => ?_⟩
    have hreg := (TagValue.u16v_setU16v _ _).symm.trans (Eq.trans hsame (TagValue.u16v_setU16v _ _))
    rw [getWord_of_le (Nat.le_of_lt_succ hshort), getWord_of_le (Nat.le_of_lt_succ hshort)] at hreg
    revert hreg
    decide
  | uint32 | int32 =>
    rw [hdata] at hshort
    refine ⟨_, _, rfl, rfl, fun hsame => ?_⟩
    have hregs := (Prod.mk.inj (joinWords_injective hsame)).2
    rw [getWord_of_le (Nat.le_of_lt_succ hshort), getWord_of_le (Nat.le_of_lt_succ hshort)] at hregs
    revert hregs
    decide
  | float32 =>
    rw [hdata] at hshort
    refine ⟨_, _, rfl, rfl, fun hsame => ?_⟩
    have hreg : getFloat msg 3 (Uninit.filled 0).reg = getFloat msg 3 (Uninit.filled 1).reg := hsame
    rw [getFloat_of_le (Nat.le_of_lt_succ hshort), getFloat_of_le (Nat.le_of_lt_succ hshort)] at hreg
    revert hreg
    decide

/-! ## What is posted -/

theorem mem_readBytes {dataType : TagType} {i : Nat} :
    i ∈ readBytes dataType ↔ 3 ≤ i ∧ i < 3 + dataWidth dataType := by
  rw [readBytes, List.mem_range'_1]

theorem dataWidth_pos {dataType : TagType} (h : dataType ≠ .string) : 0 < dataWidth dataType := by
  cases dataType with
  | string => exact absurd rfl h
  | _ => decide

theorem decodesReceived_of_carriesValue {reg : Registry} {healthy : Bool} {msg : List Byte}
    {token : BitVec 32} (h : CarriesValue reg msg token) :
    DecodesReceived reg healthy msg token := by
  have hcarries {u value tag} (hposts : Posts reg healthy msg token u value)
      (htag : reg.tagFindById (token.setWidth 16) = some tag) :
      dataWidth tag.dataType ≤ byteCount msg ∧ 3 + dataWidth tag.dataType ≤ msg.length := by
    obtain ⟨tag', htag', hvalue⟩ := posts_iff.mp hposts
    obtain rfl := Option.some.inj (htag.symm.trans htag')
    refine h tag htag fun hstring => ?_
    rw [decodeValue_eq_none.mpr hstring] at hvalue
    cases hvalue
  have hinside {u value tag} (hposts : Posts reg healthy msg token u value)
      (htag : reg.tagFindById (token.setWidth 16) = some tag) :
      ∀ i ∈ readBytes tag.dataType, InDataPart msg i := by
    intro i hi
    obtain ⟨hfrom, hto⟩ := mem_readBytes.mp hi
    obtain ⟨hcount, hlength⟩ := hcarries hposts htag
    exact ⟨hfrom, by omega, by omega⟩
  refine ⟨fun u value tag => hinside, ?_, ?_⟩
  · intro msg' u u' value value' tag hsame hposts hposts' htag
    obtain ⟨tag₁, htag₁, hvalue⟩ := posts_iff.mp hposts
    obtain rfl := Option.some.inj (htag.symm.trans htag₁)
    obtain ⟨tag₂, htag₂, hvalue'⟩ := posts_iff.mp hposts'
    obtain rfl := Option.some.inj (htag.symm.trans htag₂)
    refine decodeValue_determined (fun i hi => ?_) hvalue hvalue'
    have hin := hinside hposts htag i hi
    have hbyte := List.getElem?_eq_getElem hin.2.2
    exact ⟨_, hbyte, (hsame i hin).trans hbyte⟩
  · intro u value tag htag hshort hposts
    obtain ⟨-, hlength⟩ := hcarries hposts htag
    omega

/-- **Decoded values come only from received bytes, exactly** when the message carries as many
as the type of its tag takes. -/
theorem decodes_received_iff (reg : Registry) (healthy : Bool) (msg : List Byte)
    (token : BitVec 32) : DecodesReceived reg healthy msg token ↔ CarriesValue reg msg token := by
  refine ⟨fun h tag htag htype => ?_, decodesReceived_of_carriesValue⟩
  have hlength : 3 + dataWidth tag.dataType ≤ msg.length := by
    by_contra hshort
    obtain ⟨value, value', hvalue, hvalue', hdiffer⟩ :=
      decodeValue_leftover htype (Nat.lt_of_not_le hshort)
    exact hdiffer (h.determined msg (.filled 0) (.filled 1) value value' tag (fun _ _ => rfl)
      (posts_iff.mpr ⟨tag, htag, hvalue⟩) (posts_iff.mpr ⟨tag, htag, hvalue'⟩) htag)
  obtain ⟨value, hvalue⟩ := Option.ne_none_iff_exists'.mp
    (mt (decodeValue_eq_none (u := Uninit.filled 0)).mp htype)
  have hpos := dataWidth_pos htype
  obtain ⟨-, hlast, -⟩ := h.inside (.filled 0) value tag (posts_iff.mpr ⟨tag, htag, hvalue⟩) htag
    (2 + dataWidth tag.dataType) (mem_readBytes.mpr ⟨by omega, by omega⟩)
  exact ⟨by omega, hlength⟩

/-- A 32-bit tag of one register. -/
def halfRead : TagConfig where
  tagId := 20
  name := some "METER"
  topic := some "HDR0030/METER"
  topicType := .publish
  source := .modbus
  access := .readOnly
  dataType := .uint32
  modbus := ⟨1, 0, 1, 0x03, .abcd⟩

/-- The slave answers with the one register it was asked for; the other half of the value
is what the stack held. -/
theorem half_read_posts_stack :
    ¬ ∀ (reg : Registry) (healthy : Bool) (msg : List Byte) (token : BitVec 32),
      DecodesReceived reg healthy msg token := by
  intro hall
  have hsame := (hall ⟨[halfRead], by decide⟩ true [1, 3, 2, 0x12, 0x34] 20).determined
    [1, 3, 2, 0x12, 0x34] (.filled 0) (.filled 1) (TagValue.zero.setU32v 0x12340000)
    (TagValue.zero.setU32v 0x12340001) halfRead (fun _ _ => rfl) ⟨_, rfl, rfl, rfl⟩
    ⟨_, rfl, rfl, rfl⟩ rfl
  have hbits : (0x12340000 : BitVec 32) = 0x12340001 := hsame
  exact absurd hbits (by decide)

end XIoT.Modbus
