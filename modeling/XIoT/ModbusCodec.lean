import XIoT.TagRuntime

/-!
# Register codecs

`modbus_codec.cpp`: 32-bit values as two registers in the word order of the tag.
Only `WORD_CDAB` is told apart; the `default` arm takes the other three orders.
-/

namespace XIoT.ModbusCodec

/-- The word both decoders assemble. -/
def joinWords (regs : BitVec 16 × BitVec 16) : WordOrder → BitVec 32
  | .abcd => regs.1 ++ regs.2
  | .cdab => regs.2 ++ regs.1
  | _ => regs.1 ++ regs.2

/-- The registers all three encoders fill. -/
def splitWord (data : BitVec 32) : WordOrder → BitVec 16 × BitVec 16
  | .abcd => (data.extractLsb' 16 16, data.setWidth 16)
  | .cdab => (data.setWidth 16, data.extractLsb' 16 16)
  | _ => (data.extractLsb' 16 16, data.setWidth 16)

def decodeUint32 (regs : BitVec 16 × BitVec 16) (order : WordOrder) (value : TagValue) : TagValue :=
  value.setU32v (joinWords regs order)

def decodeInt32 (regs : BitVec 16 × BitVec 16) (order : WordOrder) (value : TagValue) : TagValue :=
  value.setI32v (joinWords regs order)

def encodeUint16 (value : TagValue) (regs : BitVec 16 × BitVec 16) : BitVec 16 × BitVec 16 :=
  (value.u16v, regs.2)

def encodeInt16 (value : TagValue) (regs : BitVec 16 × BitVec 16) : BitVec 16 × BitVec 16 :=
  (value.i16v, regs.2)

def encodeUint32 (value : TagValue) (order : WordOrder) : BitVec 16 × BitVec 16 :=
  splitWord value.u32v order

def encodeInt32 (value : TagValue) (order : WordOrder) : BitVec 16 × BitVec 16 :=
  splitWord value.i32v order

def encodeFloat32 (value : TagValue) (order : WordOrder) : BitVec 16 × BitVec 16 :=
  splitWord value.f32v order

end XIoT.ModbusCodec
