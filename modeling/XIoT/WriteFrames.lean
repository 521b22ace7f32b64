import XIoT.ModbusService

/-!
# What a write request writes

The data type selects the encoding, the function code the form of the frame and the
quantity its length. A write carries the whole value when the three fit together; only
the quantity is checked, and not against the other two.
-/

namespace XIoT.Modbus

/-! ## Frames on the bus -/

/-- What a slave does with a write frame. -/
inductive Written where
  | coil (slaveId : BitVec 8) (address value : BitVec 16)
  | registers (slaveId : BitVec 8) (address : BitVec 16) (values : List (BitVec 16))
  deriving DecidableEq

def Frame.written (frame : Frame) : Option Written :=
  if frame.functionCode = 0x05 then some (.coil frame.slaveId frame.address frame.param)
  else if frame.functionCode = 0x06 then
    some (.registers frame.slaveId frame.address [frame.param])
  else if frame.functionCode = 0x10 then
    some (.registers frame.slaveId frame.address frame.registers)
  else none

def swapBytes (x : BitVec 16) : BitVec 16 := lowByte x ++ highByte x

/-- The registers of a word: the letters of an order name its bytes, A the highest, as they
follow each other on the bus. -/
def inWordOrder (x : BitVec 32) : WordOrder → List (BitVec 16)
  | .abcd => [x.extractLsb' 16 16, x.setWidth 16]
  | .cdab => [x.setWidth 16, x.extractLsb' 16 16]
  | .badc => [swapBytes (x.extractLsb' 16 16), swapBytes (x.setWidth 16)]
  | .dcba => [swapBytes (x.setWidth 16), swapBytes (x.extractLsb' 16 16)]

/-! ## Whole values -/

/-- The write that `send` queues for `value` sets the storage of the tag's type, and nothing
else, to the value. A register may stand for a `bool` if it tells the two apart. -/
def CarriesWhole (tag : TagConfig) (send : TagValue → Option Frame) (value : TagValue) : Prop :=
  let cfg := tag.modbus
  let registers (values : List (BitVec 16)) := Written.registers cfg.slaveId cfg.address values
  let written (v : TagValue) := (send v).bind Frame.written
  match tag.dataType with
  | .bool =>
    written value = some (.coil cfg.slaveId cfg.address (if value.bv then 0xFF00 else 0x0000)) ∨
      ∃ reg : Bool → BitVec 16, reg true ≠ reg false ∧ ∀ v, written v = some (registers [reg v.bv])
  | .uint16 => written value = some (registers [value.u16v])
  | .int16 => written value = some (registers [value.i16v])
  | .uint32 => written value = some (registers (inWordOrder value.u32v cfg.wordOrder))
  | .int32 => written value = some (registers (inWordOrder value.i32v cfg.wordOrder))
  | .float32 => written value = some (registers (inWordOrder value.f32v cfg.wordOrder))
  | .string => False

/-- `modbus_write_request` where the mutex calls succeed. -/
def sendWrite (gInitialized : Bool) (tag : TagConfig) (accepted : Bool) (value : TagValue) :
    SysStatus × Option Frame :=
  modbusWriteRequest gInitialized (some ⟨some tag, .write, value⟩) ⟨true, accepted, true⟩

/-- A write that succeeds carries the whole value, any other queues nothing. -/
structure WritesWhole (gInitialized : Bool) (tag : TagConfig) (accepted : Bool) (value : TagValue) :
    Prop where
  whole : (sendWrite gInitialized tag accepted value).1 = .ok →
    CarriesWhole tag (fun v => (sendWrite gInitialized tag accepted v).2) value
  nothing : (sendWrite gInitialized tag accepted value).1 ≠ .ok →
    (sendWrite gInitialized tag accepted value).2 = none

/-- The request is turned down before or by `addRequest`. -/
def Refused (gInitialized : Bool) (tag : TagConfig) (accepted : Bool) : Prop :=
  gInitialized = false ∨ accepted = false ∨ tag.modbus.quantity = 0 ∨ 2 < tag.modbus.quantity ∨
    tag.dataType = .string ∨
    (tag.modbus.functionCode ≠ 0x05 ∧ tag.modbus.functionCode ≠ 0x06 ∧
      tag.modbus.functionCode ≠ 0x10)

/-- `WORD_BADC` and `WORD_DCBA` are encoded as `WORD_ABCD`: that is right for words which
the exchange of bytes does not change. -/
def EncodedInOrder (x : BitVec 32) : WordOrder → Prop
  | .abcd => True
  | .cdab => True
  | .badc =>
    swapBytes (x.extractLsb' 16 16) = x.extractLsb' 16 16 ∧ swapBytes (x.setWidth 16) = x.setWidth 16
  | .dcba =>
    swapBytes (x.setWidth 16) = x.extractLsb' 16 16 ∧ swapBytes (x.extractLsb' 16 16) = x.setWidth 16

/-- The function code and the quantity fit the data type. -/
def FrameFits (tag : TagConfig) (value : TagValue) : Prop :=
  let cfg := tag.modbus
  match tag.dataType with
  | .bool => cfg.functionCode = 0x05
  | .uint16 | .int16 => cfg.functionCode = 0x06 ∨ (cfg.functionCode = 0x10 ∧ cfg.quantity = 1)
  | .uint32 | .int32 | .float32 =>
    cfg.functionCode = 0x10 ∧ cfg.quantity = 2 ∧ EncodedInOrder value.word cfg.wordOrder
  | .string => False

/-! ## The frame of a request -/

/-- What `modbus_write_request` writes once it has the registers. -/
def writtenOf (cfg : TagModbusConfig) (regs : BitVec 16 × BitVec 16) (bv : Bool) : Option Written :=
  if cfg.functionCode = 0x06 then some (.registers cfg.slaveId cfg.address [regs.1])
  else if cfg.functionCode = 0x10 then
    some (.registers cfg.slaveId cfg.address ([regs.1, regs.2].take cfg.quantity.toNat))
  else if cfg.functionCode = 0x05 then
    some (.coil cfg.slaveId cfg.address (if bv then 0xFF00 else 0x0000))
  else none

theorem addRequest_locked (frame : Frame) (accepted : Bool) :
    addRequest frame ⟨true, accepted, true⟩ = if accepted then (.ok, some frame) else (.fail, none) := by
  cases accepted <;> rfl

/-- A request that is turned down queues nothing and says so. -/
theorem sendWrite_refused {gInitialized : Bool} {tag : TagConfig} {accepted : Bool}
    (h : Refused gInitialized tag accepted) (value : TagValue) :
    (sendWrite gInitialized tag accepted value).1 ≠ .ok ∧
      (sendWrite gInitialized tag accepted value).2 = none := by
  have hstring : tag.dataType = .string → encodeValue tag value = none := fun h => by
    rw [encodeValue, h]
  unfold sendWrite modbusWriteRequest
  simp only [addRequest_locked]
  rcases h with h | h | h | h | h | ⟨h5, h6, h10⟩
  · simp [h]
  · cases encodeValue tag value <;> simp only [h, Bool.false_eq_true, if_false] <;>
      split_ifs <;> simp
  · simp only [h, true_or, if_true]
    split_ifs <;> simp
  · simp only [h, or_true, if_true]
    split_ifs <;> simp
  · rw [hstring h]
    split_ifs <;> simp
  · cases encodeValue tag value <;> simp only [h5, h6, h10, if_false] <;> split_ifs <;> simp

/-- A request that is not turned down is queued, and its frame follows the registers. -/
theorem sendWrite_sent {gInitialized : Bool} {tag : TagConfig} {accepted : Bool}
    (hsource : tag.source = .modbus) (h : ¬ Refused gInitialized tag accepted) (value : TagValue) :
    (sendWrite gInitialized tag accepted value).1 = .ok ∧
      ∃ regs, encodeValue tag value = some regs ∧
        ((sendWrite gInitialized tag accepted value).2).bind Frame.written =
          writtenOf tag.modbus regs value.bv := by
  simp only [Refused, not_or, Bool.not_eq_false] at h
  obtain ⟨rfl, rfl, hzero, htwo, hstring, hcode⟩ := h
  obtain ⟨regs, hregs⟩ : ∃ regs, encodeValue tag value = some regs := by
    unfold encodeValue
    cases htype : tag.dataType with
    | string => exact absurd htype hstring
    | _ => exact ⟨_, rfl⟩
  have hquantity : ¬ (tag.modbus.quantity = 0 ∨ 2 < tag.modbus.quantity) :=
    not_or.mpr ⟨hzero, htwo⟩
  unfold sendWrite modbusWriteRequest writtenOf
  simp only [Bool.not_true, Bool.false_eq_true, if_false, hsource, ne_eq, not_true, hquantity, hregs,
    addRequest_locked, if_true]
  refine ⟨?_, regs, rfl, ?_⟩
  · split_ifs with h6 h10 h5
    · rfl
    · rfl
    · rfl
    · rfl
    · exact absurd ⟨h5, h6, h10⟩ hcode
  · split_ifs <;> rfl

/-! ## When the frame fits -/

theorem quantity_cases {q : BitVec 16} (hzero : q ≠ 0) (htwo : ¬ 2 < q) : q = 1 ∨ q = 2 := by
  bv_omega

section

variable {cfg : TagModbusConfig} {regs : BitVec 16 × BitVec 16} {bv : Bool}

theorem writtenOf_register (hquantity : cfg.quantity = 1 ∨ cfg.quantity = 2) :
    writtenOf cfg regs bv = some (.registers cfg.slaveId cfg.address [regs.1]) ↔
      cfg.functionCode = 0x06 ∨ (cfg.functionCode = 0x10 ∧ cfg.quantity = 1) := by
  rw [writtenOf]
  by_cases h6 : cfg.functionCode = 0x06
  · rw [if_pos h6]
    exact iff_of_true rfl (Or.inl h6)
  by_cases h10 : cfg.functionCode = 0x10
  · rw [if_neg h6, if_pos h10]
    rcases hquantity with hone | htwo
    · rw [hone]
      exact iff_of_true rfl (Or.inr ⟨h10, rfl⟩)
    · rw [htwo]
      refine iff_of_false (fun h => ?_) fun h => h.elim h6 fun h => absurd h.2 (by decide)
      cases (Written.registers.inj (Option.some.inj h)).2.2
  · have hnot : ¬ (cfg.functionCode = 0x06 ∨ (cfg.functionCode = 0x10 ∧ cfg.quantity = 1)) :=
      fun h => h.elim h6 fun h => h10 h.1
    rw [if_neg h6, if_neg h10]
    split
    · exact iff_of_false (fun h => nomatch Option.some.inj h) hnot
    · exact iff_of_false (fun h => nomatch h) hnot

theorem writtenOf_registers (hquantity : cfg.quantity = 1 ∨ cfg.quantity = 2) {x y : BitVec 16} :
    writtenOf cfg regs bv = some (.registers cfg.slaveId cfg.address [x, y]) ↔
      cfg.functionCode = 0x10 ∧ cfg.quantity = 2 ∧ regs.1 = x ∧ regs.2 = y := by
  rw [writtenOf]
  by_cases h6 : cfg.functionCode = 0x06
  · rw [if_pos h6]
    refine iff_of_false (fun h => ?_) fun h => absurd (h6.symm.trans h.1) (by decide)
    cases (Written.registers.inj (Option.some.inj h)).2.2
  by_cases h10 : cfg.functionCode = 0x10
  · rw [if_neg h6, if_pos h10]
    rcases hquantity with hone | htwo
    · rw [hone]
      refine iff_of_false (fun h => ?_) fun h => absurd h.2.1 (by decide)
      cases (Written.registers.inj (Option.some.inj h)).2.2
    · rw [htwo]
      constructor
      · intro h
        obtain ⟨hx, hrest⟩ := List.cons.inj (Written.registers.inj (Option.some.inj h)).2.2
        exact ⟨h10, rfl, hx, (List.cons.inj hrest).1⟩
      · rintro ⟨-, -, rfl, rfl⟩
        rfl
  · rw [if_neg h6, if_neg h10]
    split
    · exact iff_of_false (fun h => nomatch Option.some.inj h) fun h => h10 h.1
    · exact iff_of_false (fun h => nomatch h) fun h => h10 h.1

theorem writtenOf_coil (hcode : cfg.functionCode = 0x05 ∨ cfg.functionCode = 0x06 ∨
    cfg.functionCode = 0x10) :
    writtenOf cfg regs bv =
        some (.coil cfg.slaveId cfg.address (if bv then 0xFF00 else 0x0000)) ↔
      cfg.functionCode = 0x05 := by
  rcases hcode with h | h | h <;> simp [writtenOf, h]

/-- Nothing but a coil looks at the truth value. -/
theorem writtenOf_bv (hcode : cfg.functionCode ≠ 0x05) (b c : Bool) :
    writtenOf cfg regs b = writtenOf cfg regs c := by
  rw [writtenOf, writtenOf, if_neg hcode, if_neg hcode]

/-- Both halves go out in the word order. -/
theorem writtenOf_word (hquantity : cfg.quantity = 1 ∨ cfg.quantity = 2) (x : BitVec 32) :
    writtenOf cfg (ModbusCodec.splitWord x cfg.wordOrder) bv =
        some (.registers cfg.slaveId cfg.address (inWordOrder x cfg.wordOrder)) ↔
      cfg.functionCode = 0x10 ∧ cfg.quantity = 2 ∧ EncodedInOrder x cfg.wordOrder := by
  cases horder : cfg.wordOrder with
  | abcd | cdab =>
    rw [inWordOrder, writtenOf_registers hquantity]
    simp [ModbusCodec.splitWord, EncodedInOrder]
  | badc | dcba =>
    rw [inWordOrder, writtenOf_registers hquantity]
    simp only [ModbusCodec.splitWord, EncodedInOrder, eq_comm]

end

theorem carriesWhole_iff {gInitialized : Bool} {tag : TagConfig} {accepted : Bool}
    (hsource : tag.source = .modbus) (h : ¬ Refused gInitialized tag accepted) (value : TagValue) :
    CarriesWhole tag (fun v => (sendWrite gInitialized tag accepted v).2) value ↔
      FrameFits tag value := by
  have hwritten := fun v => (sendWrite_sent hsource h v).2
  simp only [Refused, not_or] at h
  obtain ⟨-, -, hzero, htwo, hstring, hcode⟩ := h
  have hquantity := quantity_cases hzero htwo
  have hcodes : tag.modbus.functionCode = 0x05 ∨ tag.modbus.functionCode = 0x06 ∨
      tag.modbus.functionCode = 0x10 := by
    by_contra hnone
    simp only [not_or] at hnone
    exact hcode hnone
  unfold CarriesWhole FrameFits
  unfold encodeValue at hwritten
  cases htype : tag.dataType with
  | string => exact absurd htype hstring
  | uint16 | int16 =>
    rw [htype] at hwritten
    obtain ⟨regs, hregs, hvalue⟩ := hwritten value
    obtain rfl := Option.some.inj hregs
    simp only [hvalue]
    exact writtenOf_register hquantity
  | uint32 | int32 | float32 =>
    rw [htype] at hwritten
    obtain ⟨regs, hregs, hvalue⟩ := hwritten value
    obtain rfl := Option.some.inj hregs
    simp only [hvalue]
    exact writtenOf_word hquantity value.word
  | bool =>
    rw [htype] at hwritten
    have hall (v : TagValue) : ((sendWrite gInitialized tag accepted v).2).bind Frame.written =
        writtenOf tag.modbus (0, 0) v.bv := by
      obtain ⟨regs, hregs, hvalue⟩ := hwritten v
      obtain rfl := Option.some.inj hregs
      exact hvalue
    simp only [hall, writtenOf_coil hcodes]
    refine ⟨fun hcarries => hcarries.resolve_right ?_, Or.inl⟩
    rintro ⟨reg, hreg, hregister⟩
    have hone (b : Bool) := hregister (TagValue.zero.setBv b)
    simp only [TagValue.bv_setBv] at hone
    by_cases h5 : tag.modbus.functionCode = 0x05
    · have hcoil : writtenOf tag.modbus (0, 0) true = some (.coil _ _ _) :=
        (writtenOf_coil hcodes).mpr h5
      rw [hone true] at hcoil
      cases hcoil
    · have hsame := (hone true).symm.trans ((writtenOf_bv h5 true false).trans (hone false))
      simp only [Option.some.injEq, Written.registers.injEq, List.cons.injEq, and_true, true_and]
        at hsame
      exact hreg hsame

/-- **A write that succeeds carries the whole value, exactly** when it is turned down or
the function code, the quantity and the word order fit the type. -/
theorem writes_whole_iff (gInitialized : Bool) (tag : TagConfig) (accepted : Bool)
    (value : TagValue) (hsource : tag.source = .modbus) :
    WritesWhole gInitialized tag accepted value ↔
      Refused gInitialized tag accepted ∨ FrameFits tag value := by
  by_cases hrefused : Refused gInitialized tag accepted
  · obtain ⟨hstatus, hnone⟩ := sendWrite_refused hrefused value
    exact iff_of_true ⟨fun hok => absurd hok hstatus, fun _ => hnone⟩ (Or.inl hrefused)
  · have hok := (sendWrite_sent hsource hrefused value).1
    have hcarries := carriesWhole_iff hsource hrefused value
    constructor
    · intro hwrites
      exact Or.inr (hcarries.mp (hwrites.whole hok))
    · intro hfits
      exact ⟨fun _ => hcarries.mpr (hfits.resolve_left hrefused), fun hfail => absurd hok hfail⟩

/-- A tag of the given type on one slave, written with the given function code and quantity. -/
def registerTag (dataType : TagType) (functionCode : BitVec 8) (quantity : BitVec 16) : TagConfig where
  tagId := 1
  name := some "SETPOINT"
  topic := some "SETPOINT"
  topicType := .subscribe
  source := .modbus
  access := .writeOnly
  dataType := dataType
  modbus := ⟨1, 0, quantity, functionCode, .abcd⟩

theorem float_written_whole :
    WritesWhole true (registerTag .float32 0x10 2) true (TagValue.zero.setF32v 0x3F800000) :=
  (writes_whole_iff true (registerTag .float32 0x10 2) true (TagValue.zero.setF32v 0x3F800000)
    rfl).mpr (Or.inr ⟨rfl, rfl, trivial⟩)

/-- A `float` in a single register: 1.0 goes out as its upper half. -/
theorem float_written_halved :
    ¬ ∀ (gInitialized : Bool) (tag : TagConfig) (accepted : Bool) (value : TagValue),
      tag.source = .modbus → WritesWhole gInitialized tag accepted value := by
  intro hall
  have hwhole := (hall true (registerTag .float32 0x06 1) true (TagValue.zero.setF32v 0x3F800000)
    rfl).whole (by decide)
  have hwritten : some (Written.registers 1 0 [0x3F80]) = some (.registers 1 0 [0x3F80, 0]) := hwhole
  exact absurd hwritten (by decide)

end XIoT.Modbus
