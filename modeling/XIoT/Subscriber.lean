import XIoT.ProtocolDispatcher
import XIoT.SubscribeOnConnect

/-!
# The subscriber

`subscriber.cpp`: what becomes of one incoming MQTT message, from the client's
`onMessage` callback to the request that `subscriberTask` posts. The JSON library is
a parameter: its parser and its three implicit conversions.
-/

namespace XIoT.Subscriber

open Mqtt (SubscriberState)

/-! ## Messages -/

/-- `MQTT_MAX_TOPIC_LENGTH` and `MQTT_MAX_PAYLOAD_LENGTH`. -/
def maxTopicLength : Nat := 128

def maxPayloadLength : Nat := 512

/-- `mqtt_msg_t`; the two character arrays are given by the strings in them. -/
structure MqttMsg where
  topic : String
  payload : String
  qos : BitVec 8
  retain : Bool
  len : Nat
  deriving DecidableEq, Repr

/-- `strncpy` into an array of `size` characters whose last one is then cleared. -/
def copyString (size : Nat) (s : String) : String := String.ofList (s.toList.take (size - 1))

/-- The message that the `onMessage` callback hands to `subscriber_post`. -/
def onMessage (topic payload : String) (qos : BitVec 8) (retain : Bool) : MqttMsg where
  topic := copyString maxTopicLength topic
  payload := copyString maxPayloadLength payload
  qos := qos
  retain := retain
  len := min payload.toList.length (maxPayloadLength - 1)

/-- The length `xQueueCreate` gives the queue of the subscriber. -/
def queueLength : Nat := 30

/-- `subscriber_post` as far as its test of the state. -/
def subscriberPostTest (gState : SubscriberState) (msg : Option MqttMsg) : SysStatus :=
  match msg with
  | none => .invalidParam
  | some _ => if gState ≠ .running then .invalidState else .ok

/-- `xQueueSend` of `subscriber_post`, when it does not wait any longer. -/
def subscriberPostSend (queued : Nat) : SysStatus := if queued < queueLength then .ok else .fail

/-- `subscriber_post` of one task with nobody in between. -/
def subscriberPost (gState : SubscriberState) (queued : Nat) (msg : Option MqttMsg) : SysStatus :=
  match subscriberPostTest gState msg with
  | .ok => subscriberPostSend queued
  | status => status

/-! ## JSON -/

/-- A parsed document. A number is given by its value. -/
inductive JsonValue where
  | null
  | bool (b : Bool)
  | number (n : Rat)
  | string (s : String)
  | array (elements : List JsonValue)
  | object (members : List (String × JsonValue))

/-- `doc[key]` and, when there is one, `doc.containsKey(key)`: only an object has members. -/
def JsonValue.member (doc : JsonValue) (key : String) : Option JsonValue :=
  match doc with
  | .object members => (members.find? fun m => m.1 = key).map Prod.snd
  | _ => none

/-- What `subscriber.cpp` uses of ArduinoJson: the parser (none for an error) and the
implicit conversions to `bool`, to the integer types of `w` bits and to `float`. -/
structure ArduinoJson where
  deserializeJson : String → Option JsonValue
  toBool : JsonValue → Bool
  toUnsigned (w : Nat) : JsonValue → BitVec w
  toSigned (w : Nat) : JsonValue → BitVec w
  toFloat : JsonValue → Float32Bits

/-! ## From a message to a request -/

/-- `log_level_t`. -/
inductive LogLevel where
  | info
  | warn
  | error
  | debug
  deriving DecidableEq, Repr

/-- Why `subscriberTask` drops a message. -/
inductive Rejection where
  | unknownTopic
  | notSubscribable
  | readOnly
  | invalidJson
  | missingValue
  | unsupportedDatatype
  | dispatchFailed
  deriving DecidableEq, Repr

/-- The line it logs then. -/
def Rejection.logLine : Rejection → LogLevel × String
  | .unknownTopic => (.warn, "Unknown topic")
  | .notSubscribable => (.warn, "Topic is not subscribable")
  | .readOnly => (.warn, "Tag is read only")
  | .invalidJson => (.error, "Invalid JSON")
  | .missingValue => (.error, "Missing key, value")
  | .unsupportedDatatype => (.error, "Unsupported datatype")
  | .dispatchFailed => (.error, "Dispatch failed")

/-- The three tests on the tag of the topic. Only WRITE_ONLY passes the last of them. -/
def lookUp (reg : Registry) (msg : MqttMsg) : Except Rejection TagConfig :=
  match reg.tagFindByTopic (some msg.topic) with
  | none => .error .unknownTopic
  | some tag =>
    if tag.topicType ≠ .subscribe then .error .notSubscribable
    else if tag.access ≠ .writeOnly then .error .readOnly
    else .ok tag

/-- The switch over the data type, on a request that was all zero. -/
def requestValue (json : ArduinoJson) (dataType : TagType) (value : JsonValue) : Option TagValue :=
  match dataType with
  | .bool => some (TagValue.zero.setBv (json.toBool value))
  | .uint16 => some (TagValue.zero.setU16v (json.toUnsigned 16 value))
  | .int16 => some (TagValue.zero.setI16v (json.toSigned 16 value))
  | .uint32 => some (TagValue.zero.setU32v (json.toUnsigned 32 value))
  | .int32 => some (TagValue.zero.setI32v (json.toSigned 32 value))
  | .float32 => some (TagValue.zero.setF32v (json.toFloat value))
  | .string => none

/-- From the parser to the request for the tag. -/
def parse (json : ArduinoJson) (tag : TagConfig) (msg : MqttMsg) :
    Except Rejection ProtocolRequest :=
  match json.deserializeJson msg.payload with
  | none => .error .invalidJson
  | some doc =>
    match doc.member "value" with
    | none => .error .missingValue
    | some value =>
      match requestValue json tag.dataType value with
      | none => .error .unsupportedDatatype
      | some v => .ok ⟨some tag, .write, v⟩

/-- The request a message is turned into. -/
def decode (reg : Registry) (json : ArduinoJson) (msg : MqttMsg) :
    Except Rejection ProtocolRequest :=
  match lookUp reg msg with
  | .error r => .error r
  | .ok tag => parse json tag msg

/-- The loop body of `subscriberTask` on one message; `room` is what `xQueueSend` of the
dispatcher finds. -/
def handleMessage (reg : Registry) (json : ArduinoJson) (d : ProtocolDispatcher.State)
    (msg : MqttMsg) (room : Bool) : ProtocolDispatcher.State × Option Rejection :=
  match decode reg json msg with
  | .error r => (d, some r)
  | .ok request =>
    match ProtocolDispatcher.protocolDispatcherPost d (some request) room with
    | (d', .ok) => (d', none)
    | (d', _) => (d', some .dispatchFailed)

/-! ## What the steps of the loop body say -/

theorem lookUp_eq_ok {reg : Registry} {msg : MqttMsg} {tag : TagConfig} :
    lookUp reg msg = .ok tag ↔
      reg.tagFindByTopic (some msg.topic) = some tag ∧ tag.topicType = .subscribe ∧
        tag.access = .writeOnly := by
  unfold lookUp
  split
  · next hfind => simp [hfind]
  · next found hfind =>
    rw [hfind]
    constructor
    · intro h
      split_ifs at h with htype haccess
      obtain rfl := Except.ok.inj h
      exact ⟨rfl, not_not.mp htype, not_not.mp haccess⟩
    · rintro ⟨hfound, htype, haccess⟩
      obtain rfl := Option.some.inj hfound
      rw [if_neg (not_not.mpr htype), if_neg (not_not.mpr haccess)]

theorem parse_eq_ok {json : ArduinoJson} {tag : TagConfig} {msg : MqttMsg}
    {request : ProtocolRequest} :
    parse json tag msg = .ok request ↔
      ∃ doc value v, json.deserializeJson msg.payload = some doc ∧ doc.member "value" = some value ∧
        requestValue json tag.dataType value = some v ∧ request = ⟨some tag, .write, v⟩ := by
  unfold parse
  constructor
  · intro h
    split at h
    · cases h
    · next doc hdoc =>
      split at h
      · cases h
      · next value hvalue =>
        split at h
        · cases h
        · next v hv => exact ⟨doc, value, v, hdoc, hvalue, hv, (Except.ok.inj h).symm⟩
  · rintro ⟨doc, value, v, hdoc, hvalue, hv, rfl⟩
    simp only [hdoc, hvalue, hv]

theorem decode_eq_ok {reg : Registry} {json : ArduinoJson} {msg : MqttMsg}
    {request : ProtocolRequest} :
    decode reg json msg = .ok request ↔
      ∃ tag, lookUp reg msg = .ok tag ∧ parse json tag msg = .ok request := by
  unfold decode
  split
  · next r hlook => simp [hlook]
  · next tag hlook => simp [hlook]

/-- The loop body adds one request to the queue of the dispatcher: the decoded one, when
the dispatcher takes it. -/
theorem handleMessage_posts {reg : Registry} {json : ArduinoJson} {d : ProtocolDispatcher.State}
    {msg : MqttMsg} {room : Bool} {request : ProtocolRequest} :
    (handleMessage reg json d msg room).1.gQueue = d.gQueue ++ [request] ↔
      decode reg json msg = .ok request ∧ d.gState = .running ∧ room = true := by
  have hkept : d.gQueue ≠ d.gQueue ++ [request] := fun h => by simpa using congrArg List.length h
  unfold handleMessage
  cases decode reg json msg with
  | error r => exact iff_of_false hkept (fun h => by cases h.1)
  | ok decoded =>
    unfold ProtocolDispatcher.protocolDispatcherPost
    by_cases hrunning : d.gState = .running
    · cases room with
      | false => simp [hrunning]
      | true => simp [hrunning]
    · simp [hrunning]

/-- A tag of type string is never written. -/
theorem requestValue_eq_none {json : ArduinoJson} {dataType : TagType} {value : JsonValue} :
    requestValue json dataType value = none ↔ dataType = .string := by
  cases dataType <;> simp [requestValue]

end XIoT.Subscriber
