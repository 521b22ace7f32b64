import XIoT.ArduinoJson
import Mathlib.Tactic.Positivity

/-!
# The values of commands

`subscriberTask` tests the topic, the tag, the document and the key, and then takes
whatever `doc["value"]` converts to. The value posted is the one sent when the payload's
value is of the tag's kind, which nobody tests.
-/

namespace XIoT.Subscriber

/-- The value is of the kind that the type holds. -/
def OfKind : TagType → JsonValue → Prop
  | .bool, .bool _ => True
  | .bool, .number _ => True
  | .uint16, .number n => InUnsigned 16 n
  | .int16, .number n => InSigned 16 n
  | .uint32, .number n => InUnsigned 32 n
  | .int32, .number n => InSigned 32 n
  | .float32, .number _ => True
  | _, _ => False

/-- The member of the union for the type equals the value. -/
def ValueIs : TagType → JsonValue → TagValue → Prop
  | .bool, .bool b, v => v.bv = b
  | .bool, .number n, v => v.bv = decide (n ≠ 0)
  | .uint16, .number n, v => (v.u16v.toNat : Int) = n.num
  | .int16, .number n, v => v.i16v.toInt = n.num
  | .uint32, .number n, v => (v.u32v.toNat : Int) = n.num
  | .int32, .number n, v => v.i32v.toInt = n.num
  | .float32, .number n, v => Float32Bits.Nearest n v.f32v
  | _, _, _ => False

/-- `doc["value"]` of the payload, when it parses and has the key. -/
def payloadValue (json : ArduinoJson) (msg : MqttMsg) : Option JsonValue :=
  (json.deserializeJson msg.payload).bind fun doc => doc.member "value"

/-- The request carries the value of the payload. -/
def Unaltered (json : ArduinoJson) (msg : MqttMsg) (request : ProtocolRequest) : Prop :=
  ∃ tag value, request.tag = some tag ∧ payloadValue json msg = some value ∧
    OfKind tag.dataType value ∧ ValueIs tag.dataType value request.value

/-- The request that the loop body of `subscriberTask` posts for the message. -/
def Posts (reg : Registry) (json : ArduinoJson) (msg : MqttMsg) (request : ProtocolRequest) : Prop :=
  ∃ d room, (handleMessage reg json d msg room).1.gQueue = d.gQueue ++ [request]

/-- The value is of the kind of the tag, if the tag and its type pass the tests. -/
def SendsKind (reg : Registry) (json : ArduinoJson) (msg : MqttMsg) : Prop :=
  ∀ tag value, lookUp reg msg = .ok tag → payloadValue json msg = some value →
    tag.dataType ≠ .string → OfKind tag.dataType value

theorem toNat_ofInt_of_inUnsigned {w : Nat} {n : Rat} (h : InUnsigned w n) :
    ((BitVec.ofInt w n.num).toNat : Int) = n.num := by
  obtain ⟨-, hlow, hhigh⟩ := h
  rw [BitVec.toNat_ofInt, Int.toNat_of_nonneg (Int.emod_nonneg _ (by positivity)),
    Int.emod_eq_of_lt hlow (by push_cast; exact hhigh)]

theorem toInt_ofInt_of_inSigned {w : Nat} (hw : 0 < w) {n : Rat} (h : InSigned w n) :
    (BitVec.ofInt w n.num).toInt = n.num :=
  BitVec.toInt_ofInt_eq_self hw h.2.1 h.2.2

/-- A value of the kind of the type is converted faithfully. -/
theorem requestValue_valueIs {json : ArduinoJson} (hjson : json.Documented) {dataType : TagType}
    {value : JsonValue} (hkind : OfKind dataType value) {v : TagValue}
    (h : requestValue json dataType value = some v) : ValueIs dataType value v := by
  cases dataType <;> cases value <;> first | exact hkind.elim | obtain rfl := Option.some.inj h
  · exact (TagValue.bv_setBv _ _).trans (hjson.bool_bool _)
  · exact (TagValue.bv_setBv _ _).trans (hjson.bool_number _)
  · rename_i n
    rw [ValueIs, TagValue.u16v_setU16v, hjson.unsigned_number 16 n hkind]
    exact toNat_ofInt_of_inUnsigned hkind
  · rename_i n
    rw [ValueIs, TagValue.setI16v]
    exact (congrArg BitVec.toInt ((TagValue.u16v_setU16v _ _).trans (hjson.signed_number 16 n hkind))).trans
      (toInt_ofInt_of_inSigned (by decide) hkind)
  · rename_i n
    exact (congrArg (fun x => (BitVec.toNat x : Int)) (hjson.unsigned_number 32 n hkind)).trans
      (toNat_ofInt_of_inUnsigned hkind)
  · rename_i n
    exact (congrArg BitVec.toInt (hjson.signed_number 32 n hkind)).trans
      (toInt_ofInt_of_inSigned (by decide) hkind)
  · rename_i n
    have hfloat : (TagValue.zero.setF32v (json.toFloat (.number n))).f32v = Float32Bits.ofRat n :=
      hjson.float_number n
    rw [ValueIs, hfloat]
    exact Float32Bits.ofRat_nearest n

theorem posts_iff {reg : Registry} {json : ArduinoJson} {msg : MqttMsg} {request : ProtocolRequest} :
    Posts reg json msg request ↔ decode reg json msg = .ok request := by
  unfold Posts
  simp only [handleMessage_posts]
  exact ⟨fun ⟨_, _, hdecode, _⟩ => hdecode,
    fun hdecode => ⟨⟨.running, []⟩, true, hdecode, rfl, rfl⟩⟩

theorem payloadValue_eq_some {json : ArduinoJson} {msg : MqttMsg} {value : JsonValue} :
    payloadValue json msg = some value ↔
      ∃ doc, json.deserializeJson msg.payload = some doc ∧ doc.member "value" = some value :=
  Option.bind_eq_some_iff

/-- **Every request posted for a message carries its value, exactly when the value sent is
of the tag's kind.** -/
theorem values_unaltered_iff (reg : Registry) (json : ArduinoJson) (hjson : json.Documented)
    (msg : MqttMsg) :
    (∀ request, Posts reg json msg request → Unaltered json msg request) ↔
      SendsKind reg json msg := by
  simp only [posts_iff]
  constructor
  · intro hall tag value hlook hvalue htype
    obtain ⟨doc, hdoc, hmember⟩ := payloadValue_eq_some.mp hvalue
    obtain ⟨v, hv⟩ : ∃ v, requestValue json tag.dataType value = some v :=
      Option.ne_none_iff_exists'.mp (mt requestValue_eq_none.mp htype)
    have hparse := parse_eq_ok.mpr ⟨doc, value, v, hdoc, hmember, hv, rfl⟩
    obtain ⟨tag', value', htag, hvalue', hkind, -⟩ :=
      hall _ (decode_eq_ok.mpr ⟨tag, hlook, hparse⟩)
    obtain rfl := Option.some.inj htag
    obtain rfl := Option.some.inj (hvalue.symm.trans hvalue')
    exact hkind
  · intro hsends request hdecode
    obtain ⟨tag, hlook, hparse⟩ := decode_eq_ok.mp hdecode
    obtain ⟨doc, value, v, hdoc, hmember, hv, rfl⟩ := parse_eq_ok.mp hparse
    have hvalue := payloadValue_eq_some.mpr ⟨doc, hdoc, hmember⟩
    have htype : tag.dataType ≠ .string := fun hstring => by
      rw [requestValue_eq_none.mpr hstring] at hv
      cases hv
    have hkind := hsends tag value hlook hvalue htype
    exact ⟨tag, value, rfl, hvalue, hkind, requestValue_valueIs hjson hkind hv⟩

/-- A message for the relay of the machine. -/
def relayMessage (payload : String) : MqttMsg := onMessage "HDR0030/MACH-YC-100" payload 1 false

def sendTrue : String := "\x7b\"value\":true\x7d"

def sendOff : String := "\x7b\"value\":\"off\"\x7d"

/-- The request that a message for the relay of the machine leads to. -/
def relayRequest (b : Bool) : ProtocolRequest :=
  ⟨some (relayControl 1 "MACH-YC" "HDR0030/MACH-YC-100" 0), .write, TagValue.zero.setBv b⟩

/-- `true` reaches the relay as it was sent. -/
theorem true_unaltered :
    Posts gTags (.ofCommand sendTrue (.bool true)) (relayMessage sendTrue) (relayRequest true) ∧
      Unaltered (.ofCommand sendTrue (.bool true)) (relayMessage sendTrue) (relayRequest true) := by
  have hposts : Posts gTags (.ofCommand sendTrue (.bool true)) (relayMessage sendTrue)
      (relayRequest true) := posts_iff.mpr rfl
  refine ⟨hposts, (values_unaltered_iff gTags _ (ArduinoJson.documented_documented _) _).mpr ?_ _
    hposts⟩
  intro tag value hlook hvalue _
  have hrelay : lookUp gTags (relayMessage sendTrue) =
      .ok (relayControl 1 "MACH-YC" "HDR0030/MACH-YC-100" 0) := rfl
  have htrue : payloadValue (.ofCommand sendTrue (.bool true)) (relayMessage sendTrue) =
      some (.bool true) := rfl
  obtain rfl := Except.ok.inj (hlook.symm.trans hrelay)
  obtain rfl := Option.some.inj (hvalue.symm.trans htrue)
  trivial

/-- The string "off" switches the machine on. -/
theorem off_switches_on :
    ¬ ∀ request, Posts gTags (.ofCommand sendOff (.string "off")) (relayMessage sendOff) request →
      Unaltered (.ofCommand sendOff (.string "off")) (relayMessage sendOff) request := by
  intro hall
  have hon : Posts gTags (.ofCommand sendOff (.string "off")) (relayMessage sendOff)
      (relayRequest true) := posts_iff.mpr rfl
  have hoff : payloadValue (.ofCommand sendOff (.string "off")) (relayMessage sendOff) =
      some (.string "off") := rfl
  obtain ⟨tag, value, htag, hvalue, hkind, -⟩ := hall _ hon
  obtain rfl := Option.some.inj htag
  obtain rfl := Option.some.inj (hvalue.symm.trans hoff)
  exact hkind

end XIoT.Subscriber
