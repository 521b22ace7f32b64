import XIoT.ModbusService
import Mathlib.Data.List.GetD

/-!
# Registers written and read back

The encoders run before a 0x10 frame goes out, the decoders when a register read comes
in. If the registers of the frame come back, the value decoded should be the one that
was encoded.
-/

namespace XIoT.Modbus

/-! ## Registers on the wire -/

/-- A register, high byte first. -/
def bigEndian (x : BitVec 16) : List Byte := [highByte x, lowByte x]

/-- A word is its upper bits before its lower ones. -/
theorem upper_append_lower {h l : Nat} (x : BitVec (h + l)) :
    x.extractLsb' l h ++ x.setWidth l = x := by
  have hlow : x.setWidth l = x.extractLsb' 0 l := by
    ext i hi
    simp
  rw [hlow]
  exact BitVec.extractLsb'_append_extractLsb'

theorem highByte_append_lowByte (x : BitVec 16) : highByte x ++ lowByte x = x :=
  upper_append_lower (h := 8) (l := 8) x

/-- The words the other way round are the value only when they are equal. -/
theorem swapped_append_iff (x : BitVec 32) :
    x.setWidth 16 ++ x.extractLsb' 16 16 = x ↔ x.extractLsb' 16 16 = x.setWidth 16 := by
  constructor
  · intro h
    have hhigh : (x.setWidth 16 ++ x.extractLsb' 16 16).setWidth 16 = x.extractLsb' 16 16 :=
      BitVec.setWidth_append_eq_right
    rw [← hhigh, h]
  · intro h
    calc x.setWidth 16 ++ x.extractLsb' 16 16 = x.extractLsb' 16 16 ++ x.setWidth 16 := by rw [h]
      _ = x := upper_append_lower (h := 16) (l := 16) x

/-- Registers returned unchanged, from byte 3 of a response on. -/
def registerResponse (a b c : Byte) (registers : List (BitVec 16)) (rest : List Byte) : List Byte :=
  [a, b, c] ++ registers.flatMap bigEndian ++ rest

variable {a b c : Byte} {r s : BitVec 16} {rest : List Byte}

theorem getWord_first {registers : List (BitVec 16)} (x : BitVec 16) :
    getWord (registerResponse a b c (r :: registers) rest) 3 x = r :=
  highByte_append_lowByte r

theorem getWord_second {registers : List (BitVec 16)} (x : BitVec 16) :
    getWord (registerResponse a b c (r :: s :: registers) rest) 5 x = s :=
  highByte_append_lowByte s

/-- A `float` is read as the first register before the second, whatever the word order. -/
theorem getFloat_first {registers : List (BitVec 16)} (x : BitVec 32) :
    getFloat (registerResponse a b c (r :: s :: registers) rest) 3 x = r ++ s := by
  have hr := highByte_append_lowByte r
  have hs := highByte_append_lowByte s
  calc highByte r ++ lowByte r ++ highByte s ++ lowByte s
      = (highByte r ++ lowByte r) ++ (highByte s ++ lowByte s) := BitVec.append_assoc
    _ = r ++ s := by rw [hr, hs]

/-- The decoders undo the encoders in every word order. -/
theorem joinWords_splitWord (x : BitVec 32) (order : WordOrder) :
    ModbusCodec.joinWords (ModbusCodec.splitWord x order) order = x := by
  cases order <;> exact upper_append_lower (h := 16) (l := 16) x

theorem splitWord_joinWords (regs : BitVec 16 × BitVec 16) (order : WordOrder) :
    ModbusCodec.splitWord (ModbusCodec.joinWords regs order) order = regs := by
  have hsplit (h l : BitVec 16) : (h ++ l).extractLsb' 16 16 = h ∧ (h ++ l).setWidth 16 = l :=
    ⟨BitVec.extractLsb'_append_eq_left, BitVec.setWidth_append_eq_right⟩
  obtain ⟨first, second⟩ := regs
  cases order with
  | cdab => exact Prod.ext (hsplit second first).2 (hsplit second first).1
  | _ => exact Prod.ext (hsplit first second).1 (hsplit first second).2

/-! ## The frame -/

/-- The tag is read and written as one or two registers. -/
def OfRegisters (tag : TagConfig) : Prop :=
  match tag.dataType with
  | .uint16 | .int16 => tag.modbus.quantity = 1
  | .uint32 | .int32 | .float32 => tag.modbus.quantity = 2
  | .bool | .string => False

/-- The members of two unions for the type are bit-identical. -/
def SameValue : TagType → TagValue → TagValue → Prop
  | .uint16, v, w => v.u16v = w.u16v
  | .int16, v, w => v.i16v = w.i16v
  | .uint32, v, w => v.u32v = w.u32v
  | .int32, v, w => v.i32v = w.i32v
  | .float32, v, w => v.f32v = w.f32v
  | .bool, v, w => v.bv = w.bv
  | .string, v, w => v = w

/-- The order of the words is honoured on the way back as well. -/
def ReadsBack (tag : TagConfig) (value : TagValue) : Prop :=
  tag.dataType = .float32 → tag.modbus.wordOrder = .cdab →
    value.f32v.extractLsb' 16 16 = value.f32v.setWidth 16

theorem addRequest_frame {frame sent : Frame} {ans : BusAnswers}
    (h : (addRequest frame ans).2 = some sent) : sent = frame := by
  unfold addRequest at h
  split_ifs at h <;> exact (Option.some.inj h).symm

/-- A 0x10 frame carries as many of the encoded registers as the quantity says. -/
theorem modbusWriteRequest_registers {tag : TagConfig} {value : TagValue} {ans : BusAnswers}
    {frame : Frame}
    (h : (modbusWriteRequest true (some ⟨some tag, .write, value⟩) ans).2 = some frame)
    (hcode : frame.functionCode = 0x10) :
    frame.token = tag.tagId ∧ ∃ regs, encodeValue tag value = some regs ∧
      frame.registers = [regs.1, regs.2].take tag.modbus.quantity.toNat := by
  unfold modbusWriteRequest at h
  simp only [Bool.not_true, Bool.false_eq_true, if_false] at h
  cases hregs : encodeValue tag value with
  | none =>
    rw [hregs] at h
    split_ifs at h
  | some regs =>
    rw [hregs] at h
    simp only at h
    split_ifs at h with hsource hquantity h6 h10 h5
    · rw [addRequest_frame h] at hcode
      cases hcode
    · rw [addRequest_frame h]
      exact ⟨rfl, regs, rfl, rfl⟩
    all_goals
      rw [addRequest_frame h] at hcode
      cases hcode

/-- The order `on_modbus_data` reads a `float` in is that of the encoder, or it makes no
difference. -/
theorem float_readsBack_iff {tag : TagConfig} (htype : tag.dataType = .float32) (value : TagValue) :
    (ModbusCodec.splitWord value.f32v tag.modbus.wordOrder).1 ++
        (ModbusCodec.splitWord value.f32v tag.modbus.wordOrder).2 = value.f32v ↔
      ReadsBack tag value := by
  have hforward : value.f32v.extractLsb' 16 16 ++ value.f32v.setWidth 16 = value.f32v :=
    upper_append_lower (h := 16) (l := 16) value.f32v
  unfold ReadsBack
  cases horder : tag.modbus.wordOrder with
  | cdab => exact (swapped_append_iff value.f32v).trans ⟨fun h _ _ => h, fun h => h htype rfl⟩
  | abcd => exact iff_of_true hforward nofun
  | badc => exact iff_of_true hforward nofun
  | dcba => exact iff_of_true hforward nofun

/-- What is decoded from the registers of a value. -/
theorem decodeValue_registerResponse (a b c : Byte) (rest : List Byte) {tag : TagConfig}
    (hkind : OfRegisters tag) {value : TagValue} {regs : BitVec 16 × BitVec 16}
    (hregs : encodeValue tag value = some regs) (u : Uninit) :
    ∃ v, decodeValue tag
        (registerResponse a b c ([regs.1, regs.2].take tag.modbus.quantity.toNat) rest) u = some v ∧
      (SameValue tag.dataType v value ↔ ReadsBack tag value) := by
  have hone (r s : BitVec 16) : [r, s].take (1 : BitVec 16).toNat = [r] := rfl
  have htwo (r s : BitVec 16) : [r, s].take (2 : BitVec 16).toNat = [r, s] := rfl
  unfold OfRegisters at hkind
  unfold encodeValue at hregs
  unfold decodeValue
  cases htype : tag.dataType with
  | bool => rw [htype] at hkind; exact hkind.elim
  | string => rw [htype] at hkind; exact hkind.elim
  | uint16 =>
    rw [htype] at hkind hregs
    obtain rfl := Option.some.inj hregs
    rw [show tag.modbus.quantity = 1 from hkind, hone, getWord_first]
    refine ⟨_, rfl, iff_of_true ?_ (fun h => by rw [htype] at h; cases h)⟩
    exact TagValue.u16v_setU16v _ _
  | int16 =>
    rw [htype] at hkind hregs
    obtain rfl := Option.some.inj hregs
    rw [show tag.modbus.quantity = 1 from hkind, hone, getWord_first]
    refine ⟨_, rfl, iff_of_true ?_ (fun h => by rw [htype] at h; cases h)⟩
    exact TagValue.u16v_setU16v _ _
  | uint32 =>
    rw [htype] at hkind hregs
    obtain rfl := Option.some.inj hregs
    rw [show tag.modbus.quantity = 2 from hkind, htwo, getWord_first, getWord_second]
    refine ⟨_, rfl, iff_of_true ?_ (fun h => by rw [htype] at h; cases h)⟩
    exact joinWords_splitWord value.u32v tag.modbus.wordOrder
  | int32 =>
    rw [htype] at hkind hregs
    obtain rfl := Option.some.inj hregs
    rw [show tag.modbus.quantity = 2 from hkind, htwo, getWord_first, getWord_second]
    refine ⟨_, rfl, iff_of_true ?_ (fun h => by rw [htype] at h; cases h)⟩
    exact joinWords_splitWord value.i32v tag.modbus.wordOrder
  | float32 =>
    rw [htype] at hkind hregs
    obtain rfl := Option.some.inj hregs
    rw [show tag.modbus.quantity = 2 from hkind, htwo, getFloat_first]
    exact ⟨_, rfl, float_readsBack_iff htype value⟩

/-- **What is written is what is read back, exactly when `ReadsBack`.** -/
theorem read_back_iff (reg : Registry) (tag : TagConfig) (value : TagValue) (ans : BusAnswers)
    (frame : Frame) (hkind : OfRegisters tag)
    (hwrite : (modbusWriteRequest true (some ⟨some tag, .write, value⟩) ans).2 = some frame)
    (hcode : frame.functionCode = 0x10)
    (hfind : reg.tagFindById (frame.token.setWidth 16) = some tag)
    (a b c : Byte) (rest : List Byte) (healthy : Bool) (u : Uninit) :
    (∃ response, (onModbusData reg healthy (registerResponse a b c frame.registers rest)
        frame.token u).response = some response ∧ response.status = .ok ∧
        SameValue tag.dataType response.value value) ↔
      ReadsBack tag value := by
  obtain ⟨-, regs, hregs, hframe⟩ := modbusWriteRequest_registers hwrite hcode
  obtain ⟨v, hv, hsame⟩ := decodeValue_registerResponse a b c rest hkind hregs u
  rw [hframe, onModbusData, hfind]
  simp only [hv]
  rw [← hsame]
  constructor
  · rintro ⟨response, hresponse, -, hvalue⟩
    obtain rfl := Option.some.inj hresponse
    exact hvalue
  · intro hvalue
    exact ⟨_, rfl, rfl, hvalue⟩

/-- A setpoint in two holding registers. -/
def setpoint (order : WordOrder) : TagConfig where
  tagId := 20
  name := some "SETPOINT"
  topic := some "HDR0030/SETPOINT"
  topicType := .subscribe
  source := .modbus
  access := .readWrite
  dataType := .float32
  modbus := ⟨1, 0, 2, 0x10, order⟩

/-- The frame that writes 1.0 to it. -/
def setpointFrame (first second : BitVec 16) : Frame := ⟨20, 1, 0x10, 0, 2, [first, second]⟩

/-- 1.0 comes back from registers in the order ABCD. -/
theorem one_reads_back :
    ∃ response, (onModbusData ⟨[setpoint .abcd], by decide⟩ true
        (registerResponse 1 3 4 [0x3F80, 0x0000] []) 20 ⟨.zero, 0, (0, 0), 0⟩).response =
          some response ∧ response.status = .ok ∧
        SameValue (setpoint .abcd).dataType response.value (TagValue.zero.setF32v 0x3F800000) :=
  (read_back_iff ⟨[setpoint .abcd], by decide⟩ (setpoint .abcd) (TagValue.zero.setF32v 0x3F800000)
    ⟨true, true, true⟩ (setpointFrame 0x3F80 0x0000) rfl rfl rfl rfl 1 3 4 [] true
    ⟨.zero, 0, (0, 0), 0⟩).mpr nofun

/-- In the order CDAB it comes back with its halves exchanged. -/
theorem one_comes_back_exchanged :
    (modbusWriteRequest true (some ⟨some (setpoint .cdab), .write, TagValue.zero.setF32v 0x3F800000⟩)
        ⟨true, true, true⟩).2 = some (setpointFrame 0x0000 0x3F80) ∧
      ¬ ∃ response, (onModbusData ⟨[setpoint .cdab], by decide⟩ true
          (registerResponse 1 3 4 [0x0000, 0x3F80] []) 20 ⟨.zero, 0, (0, 0), 0⟩).response =
            some response ∧ response.status = .ok ∧
          SameValue (setpoint .cdab).dataType response.value (TagValue.zero.setF32v 0x3F800000) := by
  refine ⟨rfl, ?_⟩
  rintro ⟨response, hresponse, -, hvalue⟩
  obtain rfl := Option.some.inj hresponse
  have hbits : (0x00003F80 : BitVec 32) = 0x3F800000 := hvalue
  exact absurd hbits (by decide)

end XIoT.Modbus
