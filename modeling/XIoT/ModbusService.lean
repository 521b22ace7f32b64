import XIoT.ModbusCodec
import XIoT.ProtocolDispatcher

/-!
# The Modbus service

`modbus_service.cpp`: the requests that go out on the bus and the two callbacks that
take what comes back. A message is the list of its bytes.
-/

namespace XIoT.Modbus

abbrev Byte := BitVec 8

/-- A request as `addRequest` takes it. `param` is the quantity or, for a single
write, the value. -/
structure Frame where
  token : BitVec 32
  slaveId : BitVec 8
  functionCode : BitVec 8
  address : BitVec 16
  param : BitVec 16
  registers : List (BitVec 16)
  deriving DecidableEq

/-- What a request finds: the mutex, `SUCCESS` of `addRequest`, the mutex again. -/
structure BusAnswers where
  locked : Bool
  accepted : Bool
  unlocked : Bool
  deriving DecidableEq, Repr

/-! ## Requests -/

/-- `addRequest` between `modbus_lock` and `modbus_unlock`: the status, and the frame
when it was accepted. -/
def addRequest (frame : Frame) (ans : BusAnswers) : SysStatus × Option Frame :=
  if !ans.locked then (.fail, none)
  else if !ans.unlocked then (.fail, if ans.accepted then some frame else none)
  else if !ans.accepted then (.fail, none)
  else (.ok, some frame)

/-- `modbus_read_request`. -/
def modbusReadRequest (gInitialized : Bool) (request : Option ProtocolRequest) (ans : BusAnswers) :
    SysStatus × Option Frame :=
  if !gInitialized then (.invalidState, none)
  else match request with
    | none => (.invalidParam, none)
    | some request =>
      match request.tag with
      | none => (.invalidParam, none)
      | some tag =>
        if tag.source ≠ .modbus then (.invalidParam, none)
        else
          let cfg := tag.modbus
          addRequest ⟨tag.tagId, cfg.slaveId, cfg.functionCode, cfg.address, cfg.quantity, []⟩ ans

/-- The registers a value is encoded into, none for a type that cannot be written. -/
def encodeValue (tag : TagConfig) (value : TagValue) : Option (BitVec 16 × BitVec 16) :=
  match tag.dataType with
  | .uint16 => some (ModbusCodec.encodeUint16 value (0, 0))
  | .int16 => some (ModbusCodec.encodeInt16 value (0, 0))
  | .uint32 => some (ModbusCodec.encodeUint32 value tag.modbus.wordOrder)
  | .int32 => some (ModbusCodec.encodeInt32 value tag.modbus.wordOrder)
  | .float32 => some (ModbusCodec.encodeFloat32 value tag.modbus.wordOrder)
  | .bool => some (0, 0)
  | .string => none

/-- `modbus_write_request`. -/
def modbusWriteRequest (gInitialized : Bool) (request : Option ProtocolRequest) (ans : BusAnswers) :
    SysStatus × Option Frame :=
  if !gInitialized then (.invalidState, none)
  else match request with
    | none => (.invalidParam, none)
    | some request =>
      match request.tag with
      | none => (.invalidParam, none)
      | some tag =>
        if tag.source ≠ .modbus then (.invalidParam, none)
        else
          let cfg := tag.modbus
          if cfg.quantity = 0 ∨ 2 < cfg.quantity then (.invalidParam, none)
          else match encodeValue tag request.value with
            | none => (.fail, none)
            | some regs =>
              if cfg.functionCode = 0x06 then
                addRequest ⟨tag.tagId, cfg.slaveId, 0x06, cfg.address, regs.1, []⟩ ans
              else if cfg.functionCode = 0x10 then
                addRequest ⟨tag.tagId, cfg.slaveId, 0x10, cfg.address, cfg.quantity,
                  [regs.1, regs.2].take cfg.quantity.toNat⟩ ans
              else if cfg.functionCode = 0x05 then
                let coilValue := if request.value.bv then 0xFF00 else 0x0000
                addRequest ⟨tag.tagId, cfg.slaveId, 0x05, cfg.address, coilValue, []⟩ ans
              else (.fail, none)

/-! ## The callbacks -/

/-- The stack memory `on_modbus_data` and `on_modbus_error` do not write before they
read it. -/
structure Uninit where
  tempValue : TagValue
  byteData : Byte
  regs : BitVec 16 × BitVec 16
  reg : BitVec 32
  deriving DecidableEq

/-- `get(index, x)` of a message for one byte; past the end `x` keeps what it was. -/
def getByte (msg : List Byte) (index : Nat) (x : Byte) : Byte := msg.getD index x

/-- `get(index, x)` for a register, high byte first. -/
def getWord (msg : List Byte) (index : Nat) (x : BitVec 16) : BitVec 16 :=
  match msg[index]?, msg[index + 1]? with
  | some hi, some lo => hi ++ lo
  | _, _ => x

/-- `get(index, x)` for a `float`. -/
def getFloat (msg : List Byte) (index : Nat) (x : BitVec 32) : BitVec 32 :=
  match msg[index]?, msg[index + 1]?, msg[index + 2]?, msg[index + 3]? with
  | some a, some b, some c, some d => a ++ b ++ c ++ d
  | _, _, _, _ => x

/-- The decoding of a response by the data type of its tag. -/
def decodeValue (tag : TagConfig) (response : List Byte) (u : Uninit) : Option TagValue :=
  match tag.dataType with
  | .bool => some (u.tempValue.setBv (getByte response 3 u.byteData &&& 0x01 != 0))
  | .uint16 => some (u.tempValue.setU16v (getWord response 3 u.regs.1))
  | .int16 => some (u.tempValue.setI16v (getWord response 3 u.regs.1))
  | .uint32 =>
    some (ModbusCodec.decodeUint32 (getWord response 3 u.regs.1, getWord response 5 u.regs.2)
      tag.modbus.wordOrder u.tempValue)
  | .int32 =>
    some (ModbusCodec.decodeInt32 (getWord response 3 u.regs.1, getWord response 5 u.regs.2)
      tag.modbus.wordOrder u.tempValue)
  | .float32 => some (u.tempValue.setF32v (getFloat response 3 u.reg))
  | .string => none

/-- What a callback leaves: `gModbusCommHealthy`, the events posted, and the response
it hands to `acquisition_post_response`. -/
structure CallbackResult where
  gModbusCommHealthy : Bool
  posts : List AppEvent
  response : Option ProtocolResponse
  deriving DecidableEq

/-- `on_modbus_data`. The token is cut to the 16 bits of `tag_find_by_id`. -/
def onModbusData (reg : Registry) (healthy : Bool) (response : List Byte) (token : BitVec 32)
    (u : Uninit) : CallbackResult :=
  match reg.tagFindById (token.setWidth 16) with
  | none => ⟨healthy, [], none⟩
  | some tag =>
    let posts := if healthy then [] else [AppEvent.modbusNetworkUp]
    match decodeValue tag response u with
    | none => ⟨true, posts, none⟩
    | some value => ⟨true, posts, some ⟨token, .ok, value⟩⟩

/-- Strings are the values that are not decoded. -/
theorem decodeValue_eq_none {tag : TagConfig} {response : List Byte} {u : Uninit} :
    decodeValue tag response u = none ↔ tag.dataType = .string := by
  unfold decodeValue
  cases tag.dataType <;> simp

/-- What is posted is the value decoded for the tag that is found. -/
theorem onModbusData_eq_some {reg : Registry} {healthy : Bool} {msg : List Byte} {token : BitVec 32}
    {u : Uninit} {response : ProtocolResponse} :
    (onModbusData reg healthy msg token u).response = some response ↔
      ∃ tag value, reg.tagFindById (token.setWidth 16) = some tag ∧
        decodeValue tag msg u = some value ∧ response = ⟨token, .ok, value⟩ := by
  unfold onModbusData
  cases reg.tagFindById (token.setWidth 16) with
  | none => simp
  | some tag =>
    cases hvalue : decodeValue tag msg u with
    | none => simp [hvalue]
    | some value => simp [hvalue, eq_comm]

/-- `on_modbus_error`. -/
def onModbusError (healthy : Bool) (token : BitVec 32) (u : Uninit) : CallbackResult :=
  ⟨false, if healthy then [.modbusNetworkDown] else [], some ⟨token, .fail, u.tempValue⟩⟩

/-! ## Responses -/

def highByte (x : BitVec 16) : Byte := x.extractLsb' 8 8

def lowByte (x : BitVec 16) : Byte := x.setWidth 8

/-- Slave, function code, address and value (for 0x10 the quantity) of a write. -/
def echo (frame : Frame) : List Byte :=
  [frame.slaveId, frame.functionCode, highByte frame.address, lowByte frame.address,
    highByte frame.param, lowByte frame.param]

/-- A message may answer a frame: a write is echoed, a read returns any bytes. -/
def Answers (frame : Frame) (msg : List Byte) : Prop :=
  frame.functionCode = 0x05 ∨ frame.functionCode = 0x06 ∨ frame.functionCode = 0x10 →
    msg = echo frame

instance (frame : Frame) (msg : List Byte) : Decidable (Answers frame msg) :=
  inferInstanceAs (Decidable (_ → _))

/-- The value decoded from the echo of a coil is the lowest bit of the coil's address,
whatever was written to it. -/
theorem decodeValue_coil_echo {tag : TagConfig} (htype : tag.dataType = .bool) (frame : Frame)
    (u : Uninit) :
    decodeValue tag (echo frame) u =
      some (u.tempValue.setBv (lowByte frame.address &&& 0x01 != 0)) := by
  rw [decodeValue, htype]
  rfl

end XIoT.Modbus
