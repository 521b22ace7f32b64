import XIoT.AlertService
import XIoT.MqttAgreement
import XIoT.Lib.Custody

/-!
# The transmit path of the MQTT service

`mqtt_publish`, which any task may call, and `mqttTask`, which hands the messages of the
queue to the client. `mqtt_stop` deletes the task wherever it stands, and the messages
that are still queued are transmitted after the next start.
-/

namespace XIoT.Mqtt

open Lib.TaskPool Lib.Runs Lib.Custody
open Subscriber (MqttMsg LogLevel)
open Alert (AlertMsg)

/-- The length `xQueueCreate` gives `gTxQueue`. -/
def txQueueLength : Nat := 30

/-- `mqtt_publish` as far as its tests. -/
def mqttPublishTest (state : MqttState) (msg : Option MqttMsg) : SysStatus :=
  if state ≠ .running then .invalidState
  else match msg with
    | none => .invalidParam
    | some _ => .ok

/-- `xQueueSend` of `mqtt_publish`, when it does not wait any longer. -/
def mqttPublishSend (queued : Nat) : SysStatus := if queued < txQueueLength then .ok else .fail

/-- The task a message of the queue is from. -/
inductive Origin where
  | publisher
  | onConnect
  | alertTask (alert : AlertMsg)
  deriving DecidableEq

structure TxItem where
  msg : MqttMsg
  origin : Origin
  deriving DecidableEq

/-- What becomes of a message that `mqttTask` does not hand to the client. -/
inductive TxLoss where
  | notConnected
  | clientRefused
  | taskDeleted
  deriving DecidableEq, Repr

/-- The line that is logged then. -/
def TxLoss.logLine : TxLoss → Option (LogLevel × String)
  | .notConnected => some (.warn, "Not connected to the broker, dropping message")
  | .clientRefused => some (.warn, "Publish failed, topic: %s")
  | .taskDeleted => none

/-- The step is the `vTaskDelete` of `mqtt_stop`. -/
def MqttVars.deletesTask (s : MqttVars) : MqttStep → Bool
  | .loop _ => s.loop = .stopDelete && s.gTaskHandle.isSome
  | _ => false

structure TxPath where
  mqtt : MqttVars
  gTxQueue : List TxItem
  /-- The message that `mqttTask` has received. -/
  hand : Option TxItem
  /-- The messages sent to the queue, those the client took and those that were lost. -/
  sent : List TxItem
  published : List TxItem
  lost : List (TxItem × TxLoss)

namespace TxPath

def boot : TxPath := ⟨.boot, [], none, [], [], []⟩

/-- `xQueueSend` of a call of `mqtt_publish` whose tests have passed. -/
def send (s : TxPath) (item : TxItem) : TxPath × SysStatus :=
  match mqttPublishSend s.gTxQueue.length with
  | .ok => ({ s with gTxQueue := s.gTxQueue ++ [item], sent := s.sent ++ [item] }, .ok)
  | status => (s, status)

/-- The message in the hand is not going to be published. -/
def drop (s : TxPath) (loss : TxLoss) : TxPath :=
  { s with hand := none, lost := s.lost ++ s.hand.toList.map fun item => (item, loss) }

/-- A step of `mqtt_init`, `mqtt_start`, `mqtt_stop` or a callback. -/
def mqttStep (s : TxPath) (a : MqttStep) : Option TxPath :=
  (Mqtt.mqttStep s.mqtt a).map fun mqtt =>
    if s.mqtt.deletesTask a then { s.drop .taskDeleted with mqtt := mqtt } else { s with mqtt := mqtt }

/-- `mqttTask` receives a message. -/
def receive (s : TxPath) (h : TaskHandle) : Option TxPath :=
  if s.mqtt.tasks.Alive h then
    match s.hand, s.gTxQueue with
    | none, item :: rest => some { s with gTxQueue := rest, hand := some item }
    | _, _ => none
  else none

/-- `mqttTask` reads the state and calls the client; `refused` is its answer -1. -/
def transmit (s : TxPath) (h : TaskHandle) (refused : Bool) : Option TxPath :=
  if s.mqtt.tasks.Alive h then
    match s.hand with
    | none => none
    | some item =>
      if s.mqtt.gState ≠ .running then some (s.drop .notConnected)
      else if refused then some (s.drop .clientRefused)
      else some { s with hand := none, published := s.published ++ [item] }
  else none

end TxPath

inductive TxStep where
  | mqtt (a : MqttStep)
  | send (item : TxItem)
  | receive (h : TaskHandle)
  | transmit (h : TaskHandle) (refused : Bool)

def txStep (s : TxPath) : TxStep → Option TxPath
  | .mqtt a => s.mqttStep a
  | .send item => some (s.send item).1
  | .receive h => s.receive h
  | .transmit h refused => s.transmit h refused

/-! ## The task of the service -/

/-- No task but that of `gTaskHandle` is alive, and `mqtt_start` finds none when it creates one. -/
structure MqttVars.Alone (s : MqttVars) : Prop where
  handle : ∀ h, s.tasks.Alive h → s.gTaskHandle = some h
  created : s.gTaskHandle ≠ none →
    (s.gState = .running ∨ s.gState = .connecting) ∨ s.loop.isStarting = true
  creating : s.loop = .startCreate → s.gTaskHandle = none
  stopped : s.loop = .stopSet → s.gTaskHandle = none

theorem alone_boot : MqttVars.boot.Alone where
  handle h hlive := by cases hlive
  created h := absurd rfl h
  creating := nofun
  stopped := nofun

/-- A step that leaves the task alone. -/
theorem MqttVars.Alone.goto {s s' : MqttVars} (hs : s.Alone) (htasks : s'.tasks = s.tasks)
    (hhandle : s'.gTaskHandle = s.gTaskHandle)
    (hcreated : s.gTaskHandle ≠ none →
      (s'.gState = .running ∨ s'.gState = .connecting) ∨ s'.loop.isStarting = true)
    (hcreating : s'.loop = .startCreate → s.gTaskHandle = none)
    (hstopped : s'.loop = .stopSet → s.gTaskHandle = none) : s'.Alone where
  handle h hlive := hhandle.trans (hs.handle h (htasks ▸ hlive))
  created hne := hcreated (hhandle ▸ hne)
  creating hloop := hhandle.trans (hcreating hloop)
  stopped hloop := hhandle.trans (hstopped hloop)

/-- Outside `mqtt_start` a task means RUNNING or CONNECTING. -/
theorem MqttVars.Alone.connected {s : MqttVars} (hs : s.Alone) (hloop : s.loop.isStarting = false)
    (h : s.gTaskHandle ≠ none) : s.gState = .running ∨ s.gState = .connecting := by
  refine (hs.created h).resolve_right fun hstart => ?_
  rw [hloop] at hstart
  cases hstart

theorem alone_loopStep {s s' : MqttVars} {created : Bool} (hs : s.Alone)
    (ha : s.loopStep created = some s') : s'.Alone := by
  unfold MqttVars.loopStep at ha
  split at ha
  · cases ha
  · next hloop =>
    have hidle := hs.connected (by rw [hloop]; rfl)
    split at ha
    · obtain rfl := Option.some.inj ha
      exact hs.goto rfl rfl (fun h => Or.inl (hidle h)) nofun nofun
    · next hstate =>
      have hnone : s.gTaskHandle = none := by
        by_contra hsome
        rcases hidle hsome with hrunning | hconnecting <;> simp_all
      obtain rfl := Option.some.inj ha
      exact hs.goto rfl rfl (fun h => Or.inl (hidle h)) (fun _ => hnone) nofun
  · next hloop =>
    have hnone : s.gTaskHandle = none := hs.creating hloop
    split at ha
    · obtain rfl := Option.some.inj ha
      exact hs.goto rfl rfl (fun h => absurd hnone h) nofun nofun
    · obtain rfl := Option.some.inj ha
      refine ⟨fun k hlive => ?_, fun _ => Or.inr rfl, nofun, nofun⟩
      rcases Pool.alive_spawn.mp hlive with rfl | hold
      · rfl
      · rw [hs.handle k hold] at hnone
        cases hnone
  · obtain rfl := Option.some.inj ha
    exact hs.goto rfl rfl (fun _ => Or.inr rfl) nofun nofun
  · obtain rfl := Option.some.inj ha
    exact hs.goto rfl rfl (fun _ => Or.inl (Or.inr rfl)) nofun nofun
  · next hloop =>
    have hidle := hs.connected (by rw [hloop]; rfl)
    split at ha
    · obtain rfl := Option.some.inj ha
      exact hs.goto rfl rfl (fun h => Or.inl (hidle h)) nofun nofun
    · obtain rfl := Option.some.inj ha
      exact hs.goto rfl rfl (fun h => Or.inl (hidle h)) nofun nofun
  · split at ha
    · next hnone =>
      obtain rfl := Option.some.inj ha
      exact hs.goto rfl rfl (fun h => absurd hnone h) nofun fun _ => hnone
    · next h hhandle =>
      obtain rfl := Option.some.inj ha
      refine ⟨fun k hlive => ?_, fun hne => absurd rfl hne, nofun, fun _ => rfl⟩
      obtain ⟨hne, hold⟩ := Pool.alive_delete.mp hlive
      have hk : some h = some k := hhandle.symm.trans (hs.handle k hold)
      exact absurd (Option.some.inj hk).symm hne
  · next hloop =>
    have hnone : s.gTaskHandle = none := hs.stopped hloop
    obtain rfl := Option.some.inj ha
    exact hs.goto rfl rfl (fun h => absurd hnone h) nofun nofun
  · next hloop =>
    obtain rfl := Option.some.inj ha
    exact hs.goto rfl rfl (fun h => Or.inl (hs.connected (by rw [hloop]; rfl) h)) nofun nofun

theorem alone_clientStep {s s' : MqttVars} (hs : s.Alone) (ha : s.clientStep = some s') :
    s'.Alone := by
  have hkeep : ∀ state : MqttState, state = .running ∨ state = .connecting → ∀ client : ClientPc,
      MqttVars.Alone { s with gState := state, client := client } :=
    fun _ hstate _ => hs.goto rfl rfl (fun _ => Or.inl hstate) hs.creating hs.stopped
  have hmove : ∀ client : ClientPc, MqttVars.Alone { s with client := client } :=
    fun _ => hs.goto rfl rfl hs.created hs.creating hs.stopped
  unfold MqttVars.clientStep at ha
  split at ha
  · cases ha
  · obtain rfl := Option.some.inj ha
    exact hkeep .running (Or.inl rfl) _
  · obtain rfl := Option.some.inj ha
    exact hmove .idle
  · split at ha
    · obtain rfl := Option.some.inj ha
      exact hmove .disconnectSet
    · obtain rfl := Option.some.inj ha
      exact hmove .idle
  · obtain rfl := Option.some.inj ha
    exact hkeep .connecting (Or.inr rfl) _

theorem alone_mqttStep {s s' : MqttVars} {a : MqttStep} (hs : s.Alone)
    (ha : mqttStep s a = some s') : s'.Alone := by
  cases a with
  | init cfgGiven queueMade =>
    obtain ⟨hloop, rfl⟩ := of_guarded ha
    have hidle := hs.connected (by rw [hloop]; rfl)
    unfold MqttVars.mqttInit
    split_ifs with hstate
    · exact hs.goto rfl rfl (fun h => Or.inl (hidle h)) nofun nofun
    · exact hs.goto rfl rfl (fun h => Or.inl (hidle h)) nofun nofun
    · exact hs.goto rfl rfl (fun h => Or.inl (hidle h)) nofun nofun
    · refine hs.goto rfl rfl (fun h => ?_) nofun nofun
      rcases hidle h with hrunning | hconnecting <;> simp_all
  | networkUp =>
    obtain ⟨hloop, rfl⟩ := of_guarded ha
    exact hs.goto rfl rfl (fun h => Or.inl (hs.connected (by rw [hloop]; rfl) h)) nofun nofun
  | networkDown =>
    obtain ⟨hloop, rfl⟩ := of_guarded ha
    unfold MqttVars.networkDown
    split
    · exact hs.goto rfl rfl (fun h => Or.inl (hs.connected (by rw [hloop]; rfl) h)) nofun nofun
    · exact hs
  | loop created => exact alone_loopStep hs ha
  | onConnect =>
    obtain ⟨-, rfl⟩ := of_guarded ha
    exact hs.goto rfl rfl hs.created hs.creating hs.stopped
  | onDisconnect =>
    obtain ⟨-, rfl⟩ := of_guarded ha
    exact hs.goto rfl rfl hs.created hs.creating hs.stopped
  | client => exact alone_clientStep hs ha

/-- A task goes on living unless the step deletes it. -/
theorem hasTask_mqttStep {s s' : MqttVars} {a : MqttStep} (ha : mqttStep s a = some s')
    (hkept : s.deletesTask a = false) (h : s.HasTask) : s'.HasTask := by
  have same : ∀ {t : MqttVars}, t.tasks = s.tasks → t.HasTask := by
    intro t ht
    rw [MqttVars.HasTask, ht]
    exact h
  cases a with
  | init cfgGiven queueMade =>
    obtain ⟨-, rfl⟩ := of_guarded ha
    refine same ?_
    unfold MqttVars.mqttInit
    split_ifs <;> rfl
  | networkUp =>
    obtain ⟨-, rfl⟩ := of_guarded ha
    exact same rfl
  | networkDown =>
    obtain ⟨-, rfl⟩ := of_guarded ha
    refine same ?_
    unfold MqttVars.networkDown
    split <;> rfl
  | onConnect =>
    obtain ⟨-, rfl⟩ := of_guarded ha
    exact same rfl
  | onDisconnect =>
    obtain ⟨-, rfl⟩ := of_guarded ha
    exact same rfl
  | client =>
    refine same ?_
    simp only [mqttStep, MqttVars.clientStep] at ha
    split at ha
    · cases ha
    · obtain rfl := Option.some.inj ha
      rfl
    · obtain rfl := Option.some.inj ha
      rfl
    · split at ha <;> (obtain rfl := Option.some.inj ha; rfl)
    · obtain rfl := Option.some.inj ha
      rfl
  | loop created =>
    simp only [mqttStep, MqttVars.loopStep] at ha
    split at ha
    · cases ha
    · split at ha <;> (obtain rfl := Option.some.inj ha; exact same rfl)
    · split at ha
      · obtain rfl := Option.some.inj ha
        exact same rfl
      · obtain rfl := Option.some.inj ha
        exact hasTask_spawn s
    · obtain rfl := Option.some.inj ha
      exact same rfl
    · obtain rfl := Option.some.inj ha
      exact same rfl
    · split at ha <;> (obtain rfl := Option.some.inj ha; exact same rfl)
    · next hloop =>
      split at ha
      · obtain rfl := Option.some.inj ha
        exact same rfl
      · next h' hhandle => simp [MqttVars.deletesTask, hloop, hhandle] at hkept
    · obtain rfl := Option.some.inj ha
      exact same rfl
    · obtain rfl := Option.some.inj ha
      exact same rfl

/-! ## What a step does to the messages -/

/-- All that can happen to the messages in a step. -/
inductive TxEffect (s : TxPath) : TxStep → TxPath → Prop where
  | quiet (a : TxStep) (mqtt : MqttVars) : TxEffect s a { s with mqtt := mqtt }
  | send (item : TxItem) (hroom : s.gTxQueue.length < txQueueLength) :
    TxEffect s (.send item)
      { s with gTxQueue := s.gTxQueue ++ [item], sent := s.sent ++ [item] }
  | receive (h : TaskHandle) (item : TxItem) (rest : List TxItem) (hhand : s.hand = none)
    (hqueue : s.gTxQueue = item :: rest) :
    TxEffect s (.receive h) { s with gTxQueue := rest, hand := some item }
  | publish (h : TaskHandle) (item : TxItem) (hhand : s.hand = some item) :
    TxEffect s (.transmit h false) { s with hand := none, published := s.published ++ [item] }
  | lose (a : TxStep) (mqtt : MqttVars) (item : TxItem) (loss : TxLoss) (hhand : s.hand = some item) :
    TxEffect s a { s with mqtt := mqtt, hand := none, lost := s.lost ++ [(item, loss)] }

theorem send_cases (s : TxPath) (item : TxItem) :
    (s.gTxQueue.length < txQueueLength ∧ s.send item =
      ({ s with gTxQueue := s.gTxQueue ++ [item], sent := s.sent ++ [item] }, .ok)) ∨
    s.send item = (s, .fail) := by
  unfold TxPath.send mqttPublishSend
  by_cases hroom : s.gTxQueue.length < txQueueLength
  · rw [if_pos hroom]
    exact Or.inl ⟨hroom, rfl⟩
  · rw [if_neg hroom]
    exact Or.inr rfl

theorem drop_eq {s : TxPath} {item : TxItem} (hhand : s.hand = some item) (loss : TxLoss) :
    s.drop loss = { s with hand := none, lost := s.lost ++ [(item, loss)] } := by
  rw [TxPath.drop, hhand]
  rfl

theorem txEffect_txStep {s s' : TxPath} {a : TxStep} (ha : txStep s a = some s') :
    TxEffect s a s' := by
  cases a with
  | mqtt a =>
    obtain ⟨mqtt, -, rfl⟩ := Option.map_eq_some_iff.mp ha
    cases hdelete : s.mqtt.deletesTask a with
    | false => exact .quiet _ mqtt
    | true =>
      cases hhand : s.hand with
      | none =>
        have hsame : { s.drop .taskDeleted with mqtt := mqtt } = { s with mqtt := mqtt } := by
          simp [TxPath.drop, hhand]
        rw [if_pos rfl, hsame]
        exact .quiet _ mqtt
      | some item =>
        rw [if_pos rfl, drop_eq hhand]
        exact .lose _ mqtt item .taskDeleted hhand
  | send item =>
    obtain rfl := Option.some.inj ha
    rcases send_cases s item with ⟨hroom, heq⟩ | heq
    · rw [heq]
      exact .send item hroom
    · rw [heq]
      exact .quiet _ s.mqtt
  | receive h =>
    simp only [txStep, TxPath.receive] at ha
    split at ha
    · split at ha
      · next item rest hhand hqueue =>
        obtain rfl := Option.some.inj ha
        exact .receive h item rest hhand hqueue
      · cases ha
    · cases ha
  | transmit h refused =>
    simp only [txStep, TxPath.transmit] at ha
    split at ha
    · split at ha
      · cases ha
      · next item hhand =>
        split_ifs at ha
        · obtain rfl := Option.some.inj ha
          rw [drop_eq hhand]
          exact .lose _ s.mqtt item .notConnected hhand
        · obtain rfl := Option.some.inj ha
          rw [drop_eq hhand]
          exact .lose _ s.mqtt item .clientRefused hhand
        · next hrefused =>
          obtain rfl := Option.some.inj ha
          rw [Bool.not_eq_true] at hrefused
          rw [hrefused]
          exact .publish h item hhand
    · cases ha

/-! ## Custody -/

/-- What has been sent to the queue: published, in the hand of the task, queued, or lost. -/
def TxPath.ledger (s : TxPath) : Ledger TxItem where
  entered := s.sent
  transit := s.published ++ s.hand.toList ++ s.gTxQueue
  lost := s.lost.map Prod.fst

theorem TxEffect.ledger {s s' : TxPath} {a : TxStep} (h : TxEffect s a s') :
    s.ledger.Step s'.ledger := by
  cases h with
  | quiet a mqtt => exact .refl _
  | send item hroom =>
    simp only [TxPath.ledger, ← List.append_assoc]
    exact .enter item
  | receive h item rest hhand hqueue =>
    have hsame : s.published ++ (some item).toList ++ rest =
        s.published ++ s.hand.toList ++ s.gTxQueue := by simp [hhand, hqueue]
    simp only [TxPath.ledger, hsame]
    exact .refl _
  | publish h item hhand =>
    have hsame : s.published ++ [item] ++ (none : Option TxItem).toList ++ s.gTxQueue =
        s.published ++ s.hand.toList ++ s.gTxQueue := by simp [hhand]
    simp only [TxPath.ledger, hsame]
    exact .refl _
  | lose a mqtt item loss hhand =>
    have hitem : s.published ++ s.hand.toList ++ s.gTxQueue =
        s.published ++ item :: s.gTxQueue := by simp [hhand]
    simp only [TxPath.ledger, Option.toList_none, List.append_nil]
    exact .lose s.published item s.gTxQueue _ hitem (by simp)

/-- Only a call of `mqtt_publish` lets a message in. -/
theorem TxEffect.sent_eq {s s' : TxPath} {a : TxStep} (h : TxEffect s a s') :
    s'.sent = s.sent ∨ ∃ item, a = .send item ∧ s'.sent = s.sent ++ [item] := by
  cases h with
  | send item => exact Or.inr ⟨item, rfl, rfl⟩
  | _ => exact Or.inl rfl

/-- The queue never overflows, and what is in a hand is in that of a live task. -/
structure TxPath.Inv (s : TxPath) : Prop where
  alone : s.mqtt.Alone
  held : s.hand ≠ none → s.mqtt.HasTask
  bounded : s.gTxQueue.length ≤ txQueueLength

theorem inv_txBoot : TxPath.boot.Inv := ⟨alone_boot, fun h => absurd rfl h, Nat.zero_le _⟩

theorem TxEffect.bounded {s s' : TxPath} {a : TxStep} (h : TxEffect s a s')
    (hs : s.gTxQueue.length ≤ txQueueLength) : s'.gTxQueue.length ≤ txQueueLength := by
  cases h with
  | quiet => exact hs
  | send item hroom =>
    rw [List.length_append]
    exact hroom
  | receive h item rest hhand hqueue =>
    rw [hqueue] at hs
    exact Nat.le_of_succ_le hs
  | publish => exact hs
  | lose => exact hs

theorem inv_txStep {s s' : TxPath} {a : TxStep} (hs : s.Inv) (ha : txStep s a = some s') :
    s'.Inv := by
  have hbounded := (txEffect_txStep ha).bounded hs.bounded
  cases a with
  | mqtt a =>
    obtain ⟨mqtt, hmqtt, rfl⟩ := Option.map_eq_some_iff.mp ha
    have halone := alone_mqttStep hs.alone hmqtt
    cases hdelete : s.mqtt.deletesTask a with
    | true =>
      rw [hdelete] at hbounded
      exact ⟨halone, fun h => absurd rfl h, hbounded⟩
    | false =>
      rw [hdelete] at hbounded
      exact ⟨halone, fun h => hasTask_mqttStep hmqtt hdelete (hs.held h), hbounded⟩
  | send item =>
    obtain rfl := Option.some.inj ha
    rcases send_cases s item with ⟨-, heq⟩ | heq
    · rw [heq] at hbounded ⊢
      exact ⟨hs.alone, hs.held, hbounded⟩
    · rw [heq]
      exact hs
  | receive h =>
    simp only [txStep, TxPath.receive] at ha
    split at ha
    · next hlive =>
      split at ha
      · obtain rfl := Option.some.inj ha
        exact ⟨hs.alone, fun _ => ⟨h, hlive⟩, hbounded⟩
      · cases ha
    · cases ha
  | transmit h refused =>
    simp only [txStep, TxPath.transmit] at ha
    split at ha
    · split at ha
      · cases ha
      · split_ifs at ha <;>
          (obtain rfl := Option.some.inj ha; exact ⟨hs.alone, fun h => absurd rfl h, hbounded⟩)
    · cases ha

/-- What the service does with the messages it accepts. -/
structure TransmitsInOrder (s : TxPath) : Prop where
  inOrder : s.published.Sublist s.sent
  accounted : (s.lost.map Prod.fst ++ (s.published ++ s.hand.toList ++ s.gTxQueue)).Perm s.sent
  complete : s.lost = [] → s.published ++ s.hand.toList ++ s.gTxQueue = s.sent
  held : s.hand ≠ none → s.mqtt.HasTask
  bounded : s.gTxQueue.length ≤ txQueueLength

/-- **Messages are published in order and at most once**, and each is accounted for, through
every start, stop and reconnection. -/
theorem transmits_in_order (as : List TxStep) : Always txStep TransmitsInOrder .boot as := by
  refine (always_kept TxPath.ledger (fun s a s' => inv_txStep)
    (fun s a s' _ ha => (txEffect_txStep ha).ledger) inv_txBoot .empty as).mono ?_
  rintro s ⟨hs, hkept⟩
  have hpublished : s.published.Sublist s.ledger.transit :=
    (List.sublist_append_left s.published s.hand.toList).trans (List.sublist_append_left _ _)
  refine ⟨hpublished.trans hkept.inOrder, hkept.accounted, fun hlost => ?_, hs.held, hs.bounded⟩
  exact hkept.transit_eq (List.map_eq_nil_iff.mpr hlost)

end XIoT.Mqtt
