import XIoT.Subscriber

/-!
# The publisher

`publisher.cpp`: the message that is built from the copy of an entry, and the tests an
entry passes before it is copied. The serialization of the document is a parameter.
-/

namespace XIoT.Publisher

open Subscriber (MqttMsg copyString maxTopicLength maxPayloadLength)

/-- `doc["value"]`; a text is what stands before the first zero byte. -/
inductive TelemetryValue where
  | bool (b : Bool)
  | unsigned (n : Nat)
  | signed (n : Int)
  | float (x : Float32Bits)
  | text (bytes : List (BitVec 8))
  deriving DecidableEq

/-- The document of a message. -/
structure Telemetry where
  id : BitVec 32
  ts : BitVec 32
  type : String
  value : TelemetryValue
  deriving DecidableEq

/-- The switch of `build_message`. -/
def telemetryValue (dataType : TagType) (value : TagValue) : TelemetryValue :=
  match dataType with
  | .bool => .bool value.bv
  | .uint16 => .unsigned value.u16v.toNat
  | .int16 => .signed value.i16v.toInt
  | .uint32 => .unsigned value.u32v.toNat
  | .int32 => .signed value.i32v.toInt
  | .float32 => .float value.f32v
  | .string => .text (value.strv.takeWhile (· ≠ 0))

def telemetry (tag : TagRuntime) : Telemetry :=
  ⟨tag.config.tagId, tag.timestamp, "telemetry", telemetryValue tag.config.dataType tag.value⟩

/-- `build_message`. A tag of the table that is published has a topic. -/
def buildMessage (serializeJson : Telemetry → String) (tag : Option TagRuntime) :
    Except SysStatus MqttMsg :=
  match tag with
  | none => .error .invalidParam
  | some tag =>
    let payload := copyString maxPayloadLength (serializeJson (telemetry tag))
    if payload.toList.length = 0 then .error .fail
    else
      .ok {
        topic := copyString maxTopicLength (tag.config.topic.getD "")
        payload := payload
        qos := 1
        retain := false
        len := payload.toList.length }

/-- The tests of `publisherTask` on the entry itself, before it takes the mutex. -/
def isPublished (entry : TagRuntime) : Bool :=
  entry.valid && decide (entry.config.topicType = .publish)

end XIoT.Publisher
