import XIoT.ArduinoJson

/-!
# Which messages are accepted as commands

An incoming message goes through the fixed buffers of `onMessage` into the queue and
from there through the tests of `subscriberTask`. It should write to a tag exactly when
its topic is that tag's topic and the tag is subscribed and writable.
-/

namespace XIoT.Subscriber

open Mqtt (SubscriberState)

/-- `onMessage`, and the loop body of `subscriberTask` on the message it has queued. -/
def onMessageThenTask (reg : Registry) (json : ArduinoJson) (gState : SubscriberState)
    (queued : Nat) (d : ProtocolDispatcher.State) (room : Bool) (topic payload : String)
    (qos : BitVec 8) (retain : Bool) : ProtocolDispatcher.State :=
  let msg := onMessage topic payload qos retain
  if subscriberPost gState queued (some msg) = .ok then (handleMessage reg json d msg room).1 else d

/-- The access permits writing. -/
def PermitsWriting (tag : TagConfig) : Prop := tag.access = .writeOnly ∨ tag.access = .readWrite

instance (tag : TagConfig) : Decidable (PermitsWriting tag) :=
  inferInstanceAs (Decidable (_ ∨ _))

/-- A message with this topic is meant for the tag. -/
def IsFor (reg : Registry) (topic : String) (tag : TagConfig) : Prop :=
  tag ∈ reg.gTags ∧ tag.topic = some topic ∧ tag.topicType = .subscribe ∧ PermitsWriting tag

/-- No two tags share a topic. -/
def DistinctTopics (reg : Registry) : Prop :=
  ∀ a ∈ reg.gTags, ∀ b ∈ reg.gTags, ∀ topic, a.topic = some topic → b.topic = some topic → a = b

/-- Exactly one write was added to the queue of the dispatcher, and it is for the tag. -/
def PostsWrite (d d' : ProtocolDispatcher.State) (tag : TagConfig) : Prop :=
  ∃ value, d'.gQueue = d.gQueue ++ [⟨some tag, .write, value⟩]

/-- A topic the buffer holds is not that of a subscribed READ_WRITE tag. A longer one is
not that of a subscribed writable tag, and what the buffer holds of it is not the
topic of one that the subscriber accepts. -/
def AcceptedRightly (reg : Registry) (topic : String) : Prop :=
  if topic.toList.length < maxTopicLength then
    ∀ tag ∈ reg.gTags, tag.topic = some topic → tag.topicType = .subscribe → tag.access ≠ .readWrite
  else
    (∀ tag, ¬ IsFor reg topic tag) ∧
    ∀ tag ∈ reg.gTags, tag.topic = some (copyString maxTopicLength topic) →
      tag.topicType = .subscribe → tag.access = .writeOnly → tag.dataType = .string

theorem copyString_of_lt {size : Nat} {s : String} (h : s.toList.length < size) :
    copyString size s = s := by
  rw [copyString, List.take_of_length_le (by omega), String.ofList_toList]

theorem length_copyString_lt {size : Nat} (s : String) (h : 0 < size) :
    (copyString size s).toList.length < size := by
  rw [copyString, String.toList_ofList, List.length_take]
  omega

/-- With distinct topics the search finds the tag of a topic, wherever it stands. -/
theorem tagFindByTopic_eq_some {reg : Registry} (hdistinct : DistinctTopics reg) {topic : String}
    {tag : TagConfig} :
    reg.tagFindByTopic (some topic) = some tag ↔ tag ∈ reg.gTags ∧ tag.topic = some topic := by
  change reg.gTags.find? (fun tag => tag.topic = some topic) = some tag ↔ _
  constructor
  · intro h
    exact ⟨List.mem_of_find?_eq_some h, by simpa using List.find?_some h⟩
  · rintro ⟨hmem, htopic⟩
    cases hfind : reg.gTags.find? fun tag => tag.topic = some topic with
    | none => exact absurd htopic (by simpa using List.find?_eq_none.mp hfind tag hmem)
    | some found =>
      have hfound : found.topic = some topic := by simpa using List.find?_some hfind
      have hmem' := List.mem_of_find?_eq_some hfind
      rw [hdistinct found hmem' tag hmem topic hfound htopic]

/-- A message that is parsed writes to the tag that passes the tests of `lookUp`. -/
theorem handleMessage_postsWrite {reg : Registry} {json : ArduinoJson} {msg : MqttMsg}
    {doc value : JsonValue} (hdoc : json.deserializeJson msg.payload = some doc)
    (hvalue : doc.member "value" = some value) {d : ProtocolDispatcher.State}
    (hrunning : d.gState = .running) (tag : TagConfig) :
    PostsWrite d (handleMessage reg json d msg true).1 tag ↔
      lookUp reg msg = .ok tag ∧ tag.dataType ≠ .string := by
  constructor
  · rintro ⟨v, hqueue⟩
    obtain ⟨found, hlook, hparse⟩ := decode_eq_ok.mp (handleMessage_posts.mp hqueue).1
    obtain ⟨_, value', v', -, -, hv, hrequest⟩ := parse_eq_ok.mp hparse
    obtain ⟨rfl, -⟩ : tag = found ∧ v = v' := by simpa using hrequest
    exact ⟨hlook, fun hstring => by rw [requestValue_eq_none.mpr hstring] at hv; cases hv⟩
  · rintro ⟨hlook, htype⟩
    obtain ⟨v, hv⟩ : ∃ v, requestValue json tag.dataType value = some v :=
      Option.ne_none_iff_exists'.mp (mt requestValue_eq_none.mp htype)
    have hparse := parse_eq_ok.mpr ⟨doc, value, v, hdoc, hvalue, hv, rfl⟩
    exact ⟨v, handleMessage_posts.mpr ⟨decode_eq_ok.mpr ⟨tag, hlook, hparse⟩, hrunning, rfl⟩⟩

theorem onMessageThenTask_postsWrite {reg : Registry} {json : ArduinoJson}
    (hdistinct : DistinctTopics reg) (topic : String) {payload : String} {doc value : JsonValue}
    (hfits : payload.toList.length < maxPayloadLength)
    (hdoc : json.deserializeJson payload = some doc) (hvalue : doc.member "value" = some value)
    {queued : Nat} (hqueued : queued < queueLength) {d : ProtocolDispatcher.State}
    (hrunning : d.gState = .running) (qos : BitVec 8) (retain : Bool) (tag : TagConfig) :
    PostsWrite d (onMessageThenTask reg json .running queued d true topic payload qos retain) tag ↔
      tag ∈ reg.gTags ∧ tag.topic = some (copyString maxTopicLength topic) ∧
        tag.topicType = .subscribe ∧ tag.access = .writeOnly ∧ tag.dataType ≠ .string := by
  have hposted : subscriberPost .running queued (some (onMessage topic payload qos retain)) = .ok := by
    simp [subscriberPost, subscriberPostTest, subscriberPostSend, hqueued]
  have hpayload : (onMessage topic payload qos retain).payload = payload := copyString_of_lt hfits
  unfold onMessageThenTask
  rw [if_pos hposted, handleMessage_postsWrite (by rw [hpayload]; exact hdoc) hvalue hrunning,
    lookUp_eq_ok, tagFindByTopic_eq_some hdistinct]
  simp only [and_assoc]
  rfl

/-- **Commands are accepted for subscribed writable tags, exactly when `AcceptedRightly`.** -/
theorem accepted_exactly_iff (reg : Registry) (json : ArduinoJson) (hdistinct : DistinctTopics reg)
    (topic payload : String) (doc value : JsonValue)
    (hfits : payload.toList.length < maxPayloadLength)
    (hdoc : json.deserializeJson payload = some doc) (hvalue : doc.member "value" = some value)
    (htype : ∀ tag, IsFor reg topic tag → tag.dataType ≠ .string)
    (queued : Nat) (hqueued : queued < queueLength) (d : ProtocolDispatcher.State)
    (hrunning : d.gState = .running) (qos : BitVec 8) (retain : Bool) :
    (∀ tag, PostsWrite d
        (onMessageThenTask reg json .running queued d true topic payload qos retain) tag ↔
          IsFor reg topic tag) ↔
      AcceptedRightly reg topic := by
  have hposts := onMessageThenTask_postsWrite hdistinct topic hfits hdoc hvalue hqueued
    hrunning qos retain
  simp only [hposts]
  unfold AcceptedRightly
  by_cases hshort : topic.toList.length < maxTopicLength
  · rw [if_pos hshort, copyString_of_lt hshort]
    constructor
    · intro hiff tag hmem htopic hsub hrw
      obtain ⟨-, -, -, hwo, -⟩ := (hiff tag).mpr ⟨hmem, htopic, hsub, Or.inr hrw⟩
      rw [hrw] at hwo
      cases hwo
    · intro hnot tag
      constructor
      · rintro ⟨hmem, htopic, hsub, hwo, -⟩
        exact ⟨hmem, htopic, hsub, Or.inl hwo⟩
      · intro hfor
        obtain ⟨hmem, htopic, hsub, hwo | hrw⟩ := hfor
        · exact ⟨hmem, htopic, hsub, hwo, htype tag ⟨hmem, htopic, hsub, Or.inl hwo⟩⟩
        · exact absurd hrw (hnot tag hmem htopic hsub)
  · rw [if_neg hshort]
    have hcut : copyString maxTopicLength topic ≠ topic := by
      intro heq
      exact hshort (heq ▸ length_copyString_lt topic (by decide))
    constructor
    · intro hiff
      refine ⟨fun tag hfor => ?_, fun tag hmem htopic hsub hwo => ?_⟩
      · obtain ⟨-, htopic, -⟩ := (hiff tag).mpr hfor
        exact hcut (Option.some.inj (htopic.symm.trans hfor.2.1))
      · by_contra hstring
        obtain ⟨-, htopic', -⟩ := (hiff tag).mp ⟨hmem, htopic, hsub, hwo, hstring⟩
        exact hcut (Option.some.inj (htopic.symm.trans htopic'))
    · rintro ⟨hnone, hstring⟩ tag
      refine ⟨fun ⟨hmem, htopic, hsub, hwo, htype'⟩ => ?_, fun hfor => absurd hfor (hnone tag)⟩
      exact absurd (hstring tag hmem htopic hsub hwo) htype'

/-- The payload that switches a relay on. -/
def switchOn : String := "\x7b\"value\":true\x7d"

def switchOnJson : ArduinoJson := .ofCommand switchOn (.bool true)

/-- What the command leads to. -/
def switchedOn : ProtocolDispatcher.State :=
  onMessageThenTask Mqtt.oneRelay switchOnJson .running 0 ⟨.running, []⟩ true
    "HDR0030/MACH-YC-100" switchOn 1 false

/-- The command is accepted for the relay of its topic and for no other tag. -/
theorem relay_accepted :
    PostsWrite ⟨.running, []⟩ switchedOn (relayControl 1 "MACH-YC" "HDR0030/MACH-YC-100" 0) ∧
      ¬ PostsWrite ⟨.running, []⟩ switchedOn (relayControl 2 "MODE-YC" "HDR0030/MODE-YC-100" 1) := by
  have honly (tag : TagConfig) (hmem : tag ∈ Mqtt.oneRelay.gTags) :
      tag = relayControl 1 "MACH-YC" "HDR0030/MACH-YC-100" 0 := List.mem_singleton.mp hmem
  have hexactly := (accepted_exactly_iff Mqtt.oneRelay switchOnJson ?_ "HDR0030/MACH-YC-100"
    switchOn (.object [("value", .bool true)]) (.bool true) (by decide) rfl rfl ?_ 0 (by decide)
    ⟨.running, []⟩ rfl 1 false).mpr ?_
  · refine ⟨(hexactly _).mpr ⟨List.mem_singleton_self _, rfl, rfl, Or.inl rfl⟩, fun hposts => ?_⟩
    exact absurd (honly _ ((hexactly _).mp hposts).1) (by decide)
  · intro a ha b hb _ _ _
    exact (honly a ha).trans (honly b hb).symm
  · intro tag hfor
    rw [honly tag hfor.1]
    decide
  · rw [AcceptedRightly, if_pos (by decide)]
    intro tag hmem _ _
    rw [honly tag hmem]
    decide

/-- A registry with one subscribed tag, that may be read and written. -/
def readWriteRelay : Registry where
  gTags := [{ relayControl 1 "MACH-YC" "HDR0030/MACH-YC-100" 0 with access := .readWrite }]
  fits := by decide

/-- Its access permits writing, but the command is dropped with "Tag is read only". -/
theorem read_write_relay_refused :
    DistinctTopics readWriteRelay ∧
      ¬ ∀ tag, PostsWrite ⟨.running, []⟩
          (onMessageThenTask readWriteRelay switchOnJson .running 0 ⟨.running, []⟩ true
            "HDR0030/MACH-YC-100" switchOn 1 false) tag ↔
        IsFor readWriteRelay "HDR0030/MACH-YC-100" tag := by
  constructor
  · intro a ha b hb _ _ _
    exact (List.mem_singleton.mp ha).trans (List.mem_singleton.mp hb).symm
  · intro hall
    obtain ⟨value, hqueue⟩ := (hall _).mpr ⟨List.mem_singleton_self _, rfl, rfl, Or.inr rfl⟩
    cases hqueue

end XIoT.Subscriber
