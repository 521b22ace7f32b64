import XIoT.TelemetryOrder
import XIoT.MqttTransmit

/-!
# The path of telemetry

`publisherTask` calls `mqtt_publish` with each message it has built, and `mqttTask` hands
the messages of the queue to the client, among those of the other tasks. From the response
of a device to the broker the samples of a tag keep their order.
-/

namespace XIoT.Publisher

open Lib.Runs Lib.Custody Lib.VersionedRegister
open Subscriber (MqttMsg)
open Mqtt (TxPath TxItem TxStep)

/-- The message, when it is one of `publisherTask`. -/
def telemetryOf (item : TxItem) : Option MqttMsg :=
  match item.origin with
  | .publisher => some item.msg
  | _ => none

/-- The step is none of a call of `publisherTask`. -/
def FromOthers : TxStep → Bool
  | .send item => (telemetryOf item).isNone
  | _ => true

structure TelemetryPath where
  sharing : Sharing
  tx : TxPath
  /-- The call of `mqtt_publish` in progress has passed its tests. -/
  sending : Bool

namespace TelemetryPath

def boot (reg : Registry) : TelemetryPath := ⟨.boot reg, .boot, false⟩

/-- `mqtt_publish` returns, and `publisherTask` goes on with the next entry. -/
def returns (s : TelemetryPath) (idx : Nat) : TelemetryPath :=
  { s with sharing := { s.sharing with publisher := .test (idx + 1) }, sending := false }

/-- The tests of `mqtt_publish`. -/
def publishTest (s : TelemetryPath) : Option TelemetryPath :=
  match s.sharing.publisher with
  | .publish idx msg =>
    if s.sending then none
    else if Mqtt.mqttPublishTest s.tx.mqtt.gState (some msg) = .ok then some { s with sending := true }
    else some (s.returns idx)
  | _ => none

/-- `xQueueSend` of `mqtt_publish`. -/
def publishSend (s : TelemetryPath) : Option TelemetryPath :=
  match s.sharing.publisher with
  | .publish idx msg =>
    if s.sending then some ({ s with tx := (s.tx.send ⟨msg, .publisher⟩).1 }.returns idx) else none
  | _ => none

/-- A step of the two tasks that share the store, outside of `mqtt_publish`. -/
def share (serializeJson : Telemetry → String) (s : TelemetryPath) (a : SharingStep) :
    Option TelemetryPath :=
  match a, s.sharing.publisher with
  | .publisher _, .publish _ _ => none
  | _, _ => (sharingStep serializeJson s.sharing a).map fun sharing => { s with sharing := sharing }

end TelemetryPath

inductive TelemetryStep where
  | share (a : SharingStep)
  | publishTest
  | publishSend
  /-- The MQTT service, its client, and the other tasks that publish. -/
  | tx (a : TxStep)

def telemetryStep (serializeJson : Telemetry → String) (s : TelemetryPath) :
    TelemetryStep → Option TelemetryPath
  | .share a => s.share serializeJson a
  | .publishTest => s.publishTest
  | .publishSend => s.publishSend
  | .tx a => if FromOthers a then (Mqtt.txStep s.tx a).map fun tx => { s with tx := tx } else none

/-- Of two copies of one tag the second is not of an earlier response. -/
def NotEarlier (c c' : LocalTag) : Prop :=
  c.tag.config.tagId = c'.tag.config.tagId →
    ∀ n n', c.valueBy = some n → c'.valueBy = some n' → n ≤ n'

/-- The telemetry that the client took was built from good responses to the tags, those of
each tag in the order they arrived. -/
def TelemetryInOrder (serializeJson : Telemetry → String) (s : TelemetryPath) : Prop :=
  ∃ copies : List (LocalTag × MqttMsg), copies.Sublist s.sharing.built ∧
    s.tx.published.filterMap telemetryOf = copies.map Prod.snd ∧
    copies.Pairwise (fun b b' => NotEarlier b.1 b'.1) ∧
    ∀ b ∈ copies, FromResponse s.sharing.responses b.1 ∧
      buildMessage serializeJson (some b.1.tag) = .ok b.2

/-! ## The messages of the publisher -/

section

variable {serializeJson : Telemetry → String}

/-- A step of `publisherTask` outside of `mqtt_publish` calls it with the message it has
just built, or not at all. -/
theorem publisherStep_cases {s s' : Sharing} {taken : Bool}
    (ha : s.publisherStep serializeJson taken = some s') :
    (s'.built = s.built ∧ ∀ idx msg, s'.publisher ≠ .publish idx msg) ∨
      ∃ idx c msg, s'.publisher = .publish idx msg ∧
        buildMessage serializeJson (some c.tag) = .ok msg ∧ s'.built = s.built ++ [(c, msg)] := by
  unfold Sharing.publisherStep at ha
  cases hpc : s.publisher <;> simp only [hpc] at ha
  case test =>
    split at ha <;> (try split_ifs at ha) <;> obtain rfl := Option.some.inj ha <;>
      exact Or.inl ⟨rfl, fun _ _ h => by cases h⟩
  case lock =>
    split_ifs at ha <;> obtain rfl := Option.some.inj ha <;>
      exact Or.inl ⟨rfl, fun _ _ h => by cases h⟩
  case unlock =>
    obtain rfl := Option.some.inj ha
    exact Or.inl ⟨rfl, fun _ _ h => by cases h⟩
  case publish =>
    obtain rfl := Option.some.inj ha
    exact Or.inl ⟨rfl, fun _ _ h => by cases h⟩
  case build idx c =>
    split at ha
    · obtain rfl := Option.some.inj ha
      exact Or.inl ⟨rfl, fun _ _ h => by cases h⟩
    · next msg hmsg =>
      obtain rfl := Option.some.inj ha
      exact Or.inr ⟨idx, c, msg, rfl, hmsg, rfl⟩
  all_goals
    obtain ⟨entry, -, rfl⟩ := Option.map_eq_some_iff.mp ha
    exact Or.inl ⟨rfl, fun _ _ h => by cases h⟩

theorem publisher_receive {s s' : Sharing} {response : ProtocolResponse}
    (ha : s.receive response = some s') : s'.publisher = s.publisher := by
  unfold Sharing.receive at ha
  split at ha
  · obtain rfl := Option.some.inj ha
    rfl
  · cases ha

theorem publisher_acquisitionStep {s s' : Sharing} {now : BitVec 32} {taken : Bool}
    (ha : s.acquisitionStep now taken = some s') : s'.publisher = s.publisher := by
  unfold Sharing.acquisitionStep at ha
  cases hpc : s.acquisition <;> simp only [hpc] at ha
  case receive => cases ha
  case lock => split_ifs at ha <;> exact Option.some.inj ha ▸ rfl
  all_goals exact Option.some.inj ha ▸ rfl

/-- Every message was built by `build_message`. -/
def Messages (serializeJson : Telemetry → String) (s : Sharing) : Prop :=
  ∀ b ∈ s.built, buildMessage serializeJson (some b.1.tag) = .ok b.2

theorem messages_sharingStep {s s' : Sharing} {a : SharingStep} (hs : Messages serializeJson s)
    (ha : sharingStep serializeJson s a = some s') : Messages serializeJson s' := by
  rcases Sharing.built_sharingStep ha with hkept | ⟨_, idx, c, msg, -, -, hmsg, hbuilt⟩
  · intro b hb
    exact hs b (hkept ▸ hb)
  · intro b hb
    rw [hbuilt] at hb
    rcases List.mem_append.mp hb with hold | hnew
    · exact hs b hold
    · obtain rfl := List.mem_singleton.mp hnew
      exact hmsg

/-! ## The invariant -/

/-- What the queue has accepted of the publisher, `sent`, was built in this order; the
message of a call in progress comes next. -/
def SentInOrder (sent : List MqttMsg) (s : Sharing) : Prop :=
  ∃ done rest, s.built = done ++ rest ∧ sent.Sublist (done.map Prod.snd) ∧
    ∀ idx msg, s.publisher = .publish idx msg → ∃ c, rest = [(c, msg)]

theorem SentInOrder.sublist {sent : List MqttMsg} {s : Sharing} (h : SentInOrder sent s) :
    sent.Sublist (s.built.map Prod.snd) := by
  obtain ⟨done, rest, hbuilt, hsub, -⟩ := h
  rw [hbuilt, List.map_append]
  exact hsub.trans (List.sublist_append_left _ _)

/-- While no call is in progress. -/
theorem sentInOrder_of_sublist {sent : List MqttMsg} {s : Sharing}
    (h : sent.Sublist (s.built.map Prod.snd)) (hidle : ∀ idx msg, s.publisher ≠ .publish idx msg) :
    SentInOrder sent s :=
  ⟨s.built, [], (List.append_nil _).symm, h, fun idx msg hpc => absurd hpc (hidle idx msg)⟩

theorem SentInOrder.congr {sent : List MqttMsg} {s s' : Sharing} (h : SentInOrder sent s)
    (hpublisher : s'.publisher = s.publisher) (hbuilt : s'.built = s.built) : SentInOrder sent s' := by
  obtain ⟨done, rest, hsplit, hsub, hlast⟩ := h
  exact ⟨done, rest, hbuilt.trans hsplit, hsub, fun idx msg hpc => hlast idx msg (hpublisher ▸ hpc)⟩

structure TelemetryPath.Inv (serializeJson : Telemetry → String) (s : TelemetryPath) : Prop where
  sharing : s.sharing.Inv
  placed : s.sharing.Placed
  versions : s.sharing.versions.Inv
  messages : Messages serializeJson s.sharing
  kept : s.tx.ledger.Kept
  sent : SentInOrder (s.tx.sent.filterMap telemetryOf) s.sharing

theorem inv_telemetryBoot (serializeJson : Telemetry → String) (reg : Registry) :
    (TelemetryPath.boot reg).Inv serializeJson where
  sharing := Sharing.inv_boot reg
  placed := Sharing.placed_boot reg
  versions := by
    have hempty : (Sharing.boot reg).versions = .empty := by
      have hheld : (Sharing.boot reg).versions.held = fun _ => none := by
        funext tagId
        exact Option.bind_eq_none_iff.mpr fun _ _ => rfl
      show (⟨0, none, (Sharing.boot reg).versions.held, none, []⟩ : Versions (BitVec 32)) = _
      rw [hheld]
      rfl
    rw [TelemetryPath.boot, hempty]
    exact Versions.inv_empty
  messages b hb := by cases hb
  kept := .empty
  sent := ⟨[], [], rfl, .slnil, fun idx msg h => by cases h⟩

variable {s s' : TelemetryPath}

theorem share_cases {a : SharingStep} (ha : s.share serializeJson a = some s') :
    ∃ sharing, sharingStep serializeJson s.sharing a = some sharing ∧
      s' = { s with sharing := sharing } := by
  unfold TelemetryPath.share at ha
  split at ha
  · cases ha
  · obtain ⟨sharing, hshare, rfl⟩ := Option.map_eq_some_iff.mp ha
    exact ⟨sharing, hshare, rfl⟩

theorem inv_share {a : SharingStep} (hs : s.Inv serializeJson)
    (ha : s.share serializeJson a = some s') : s'.Inv serializeJson := by
  obtain ⟨sharing, hshare, rfl⟩ := share_cases ha
  obtain ⟨hversions, hplaced⟩ := Sharing.step_sharingStep hs.sharing hs.placed hshare
  refine ⟨Sharing.inv_sharingStep _ _ _ hs.sharing hshare, hplaced, hs.versions.step hversions,
    messages_sharingStep hs.messages hshare, hs.kept, ?_⟩
  show SentInOrder (s.tx.sent.filterMap telemetryOf) sharing
  cases a with
  | receive response =>
    exact hs.sent.congr (publisher_receive hshare) (Sharing.built_receive hshare)
  | acquisition now taken =>
    exact hs.sent.congr (publisher_acquisitionStep hshare) (Sharing.built_acquisitionStep hshare)
  | publisher taken =>
    have hshare : s.sharing.publisherStep serializeJson taken = some sharing := hshare
    rcases publisherStep_cases hshare with ⟨hbuilt, hidle⟩ | ⟨idx, c, msg, hpc, -, hbuilt⟩
    · exact sentInOrder_of_sublist (hbuilt ▸ hs.sent.sublist) hidle
    · refine ⟨s.sharing.built, [(c, msg)], hbuilt, hs.sent.sublist, fun idx' msg' hpc' => ?_⟩
      rw [hpc] at hpc'
      cases hpc'
      exact ⟨c, rfl⟩

/-- `mqtt_publish` returns with the message sent or not. -/
theorem inv_returns {idx : Nat} {msg : MqttMsg} (tx : TxPath) (hs : s.Inv serializeJson)
    (hpc : s.sharing.publisher = .publish idx msg) (hkept : tx.ledger.Kept)
    (hsent : tx.sent.filterMap telemetryOf = s.tx.sent.filterMap telemetryOf ∨
      tx.sent.filterMap telemetryOf = s.tx.sent.filterMap telemetryOf ++ [msg]) :
    ({ s with tx := tx }.returns idx).Inv serializeJson := by
  have hreturn : sharingStep serializeJson s.sharing (.publisher true) =
      some { s.sharing with publisher := .test (idx + 1) } := by
    show s.sharing.publisherStep serializeJson true = _
    rw [Sharing.publisherStep, hpc]
  obtain ⟨hversions, hplaced⟩ := Sharing.step_sharingStep hs.sharing hs.placed hreturn
  refine ⟨Sharing.inv_sharingStep _ _ _ hs.sharing hreturn, hplaced, hs.versions.step hversions,
    hs.messages, hkept, sentInOrder_of_sublist ?_ fun _ _ h => by cases h⟩
  show (tx.sent.filterMap telemetryOf).Sublist (s.sharing.built.map Prod.snd)
  rcases hsent with hsame | hmore
  · rw [hsame]
    exact hs.sent.sublist
  · obtain ⟨done, rest, hbuilt, hsub, hlast⟩ := hs.sent
    obtain ⟨c, rfl⟩ := hlast idx msg hpc
    rw [hmore, hbuilt, List.map_append]
    exact hsub.append (.refl [msg])

theorem inv_tx {a : TxStep} {tx : TxPath} (hs : s.Inv serializeJson) (hothers : FromOthers a = true)
    (ha : Mqtt.txStep s.tx a = some tx) :
    TelemetryPath.Inv serializeJson { s with tx := tx } := by
  have heffect := Mqtt.txEffect_txStep ha
  refine ⟨hs.sharing, hs.placed, hs.versions, hs.messages, hs.kept.step heffect.ledger, ?_⟩
  have hsent : tx.sent.filterMap telemetryOf = s.tx.sent.filterMap telemetryOf := by
    rcases heffect.sent_eq with hsame | ⟨item, rfl, hmore⟩
    · rw [hsame]
    · have hnone : telemetryOf item = none := Option.isNone_iff_eq_none.mp hothers
      rw [hmore, List.filterMap_append, List.filterMap_cons, hnone, List.filterMap_nil,
        List.append_nil]
  show SentInOrder (tx.sent.filterMap telemetryOf) s.sharing
  rw [hsent]
  exact hs.sent

theorem inv_telemetryStep (a : TelemetryStep) (hs : s.Inv serializeJson)
    (ha : telemetryStep serializeJson s a = some s') : s'.Inv serializeJson := by
  cases a with
  | share a => exact inv_share hs ha
  | publishTest =>
    simp only [telemetryStep, TelemetryPath.publishTest] at ha
    split at ha
    · next idx msg hpc =>
      split_ifs at ha
      · obtain rfl := Option.some.inj ha
        exact ⟨hs.sharing, hs.placed, hs.versions, hs.messages, hs.kept, hs.sent⟩
      · obtain rfl := Option.some.inj ha
        exact inv_returns s.tx hs hpc hs.kept (Or.inl rfl)
    · cases ha
  | publishSend =>
    simp only [telemetryStep, TelemetryPath.publishSend] at ha
    split at ha
    · next idx msg hpc =>
      split_ifs at ha
      obtain rfl := Option.some.inj ha
      have hsend : Mqtt.txStep s.tx (.send ⟨msg, .publisher⟩) =
          some (s.tx.send ⟨msg, .publisher⟩).1 := rfl
      refine inv_returns _ hs hpc (hs.kept.step (Mqtt.txEffect_txStep hsend).ledger) ?_
      rcases Mqtt.send_cases s.tx ⟨msg, .publisher⟩ with ⟨-, heq⟩ | heq
      · rw [heq]
        exact Or.inr (by rw [List.filterMap_append]; rfl)
      · rw [heq]
        exact Or.inl rfl
    · cases ha
  | tx a =>
    simp only [telemetryStep] at ha
    split at ha
    · next hothers =>
      obtain ⟨tx, htx, rfl⟩ := Option.map_eq_some_iff.mp ha
      exact inv_tx hs hothers htx
    · cases ha

theorem TelemetryPath.Inv.telemetryInOrder (hs : s.Inv serializeJson) :
    TelemetryInOrder serializeJson s := by
  have hpublished : s.tx.published.Sublist s.tx.sent :=
    ((List.sublist_append_left s.tx.published s.tx.hand.toList).trans
      (List.sublist_append_left _ s.tx.gTxQueue)).trans hs.kept.inOrder
  have hmessages : (s.tx.published.filterMap telemetryOf).Sublist (s.sharing.built.map Prod.snd) :=
    (hpublished.filterMap telemetryOf).trans hs.sent.sublist
  obtain ⟨copies, hcopies, heq⟩ := List.sublist_map_iff.mp hmessages
  have hordered : s.sharing.built.Pairwise fun b b' => NotEarlier b.1 b'.1 := by
    refine (List.pairwise_filterMap.mp hs.versions.ordered).imp fun hnot htag n n' hn hn' => ?_
    exact hnot _ (by rw [LocalTag.version, hn]; rfl) _ (by rw [LocalTag.version, hn']; rfl) htag
  refine ⟨copies, hcopies, heq, hordered.sublist hcopies, fun b hb => ?_⟩
  have hbuilt : b ∈ s.sharing.built := hcopies.subset hb
  exact ⟨(hs.sharing.built b hbuilt).1, hs.messages b hbuilt⟩

end

/-- **Telemetry never goes back.** Whatever the tasks of acquisition, publisher and MQTT
service do, the broker gets the samples of each tag in the order its responses arrived, each
message the one built from a good response to the tag. -/
theorem telemetry_in_order (serializeJson : Telemetry → String) (reg : Registry)
    (as : List TelemetryStep) :
    Always (telemetryStep serializeJson) (TelemetryInOrder serializeJson) (.boot reg) as :=
  (always_of_invariant (fun _ a _ hs ha => inv_telemetryStep a hs ha)
    (inv_telemetryBoot serializeJson reg) as).mono fun _ hs => hs.telemetryInOrder

end XIoT.Publisher
