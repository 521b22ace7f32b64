import XIoT.MqttTransmit
import XIoT.ServiceLifecycle

/-!
# The path of an alert

An event is posted to the event loop, handled by `alert_event_handler`, queued for
`alertTask`, published by it through `mqtt_publish`, and transmitted by `mqttTask` among the
messages of the other tasks. Every queue on the way is bounded and both tasks can be
deleted wherever they stand.
-/

namespace XIoT.Alert

open Lib.TaskPool Lib.Runs Lib.Custody
open Subscriber (MqttMsg LogLevel)
open Mqtt (TxPath TxItem TxStep TxLoss TxEffect Origin)
open Services (Hosted AlertVars)

/-- `alertTask`, by its next step. -/
inductive AlertPc where
  | receive
  | publish (alert : AlertMsg)
  | send (alert : AlertMsg)
  deriving DecidableEq

/-- The alert that the task has received. -/
def AlertPc.held : AlertPc → Option AlertMsg
  | .receive => none
  | .publish alert => some alert
  | .send alert => some alert

/-- What becomes of an alert that does not reach the queue of the MQTT service. -/
inductive AlertLoss where
  | notPosted
  | notRunning
  | queueFull
  | notSerialized
  | publishFailed
  | taskDeleted
  deriving DecidableEq, Repr

/-- The line that says so. -/
def AlertLoss.logLine : AlertLoss → Option (LogLevel × String)
  | .notPosted => some (.error, "Failed to post event (%s)")
  | .notRunning => none
  | .queueFull => some (.warn, "Alert queue full, dropping alert!")
  | .notSerialized => none
  | .publishFailed => some (.error, "Failed to publish alert to MQTT broker")
  | .taskDeleted => none

structure AlertPath where
  /-- The queue of the default event loop. -/
  events : List Event
  alert : Hosted AlertVars
  gAlertQueue : List AlertMsg
  task : AlertPc
  tx : TxPath
  /-- The events `event_post` was called with, and the alerts lost before the MQTT service. -/
  posted : List Event
  lost : List (Event × AlertLoss)

/-- After `alert_init`. -/
def AlertPath.boot : AlertPath :=
  ⟨[], .boot ⟨true, false⟩, [], .receive, .boot, [], []⟩

namespace AlertPath

/-- An event that is an alert is lost. -/
def lose (s : AlertPath) (event : Event) (loss : AlertLoss) : AlertPath :=
  if IsAlert event then { s with lost := s.lost ++ [(event, loss)] } else s

/-- `event_post`; `accepted` is the answer of `esp_event_post`. -/
def eventPost (s : AlertPath) (event : Event) (accepted : Bool) : AlertPath :=
  let s := { s with posted := s.posted ++ [event] }
  if accepted then { s with events := s.events ++ [event] } else s.lose event .notPosted

/-- `alert_event_handler`. -/
def alertEventHandler (s : AlertPath) (event : Event) (now : BitVec 32) : AlertPath :=
  if !s.alert.vars.gRunning then s.lose event .notRunning
  else match alertOf event now with
    | none => s
    | some alert =>
      if s.gAlertQueue.length < alertQueueLength then
        { s with gAlertQueue := s.gAlertQueue ++ [alert] }
      else s.lose event .queueFull

/-- The event loop hands its oldest event to the handler. -/
def deliver (s : AlertPath) (now : BitVec 32) : Option AlertPath :=
  match s.events with
  | [] => none
  | event :: rest => some ({ s with events := rest }.alertEventHandler event now)

/-- `alert_start`. -/
def alertStart (s : AlertPath) (taskMade : Bool) : AlertPath :=
  { s with alert := (Services.alertStart s.alert taskMade).1 }

/-- `alertTask` is done with the alert it has received, which is lost. -/
def drop (s : AlertPath) (loss : AlertLoss) : AlertPath :=
  { s with
    task := .receive
    lost := s.lost ++ s.task.held.toList.map fun alert => (alert.eventId, loss) }

/-- `alert_stop` deletes the task with what it holds. -/
def alertStop (s : AlertPath) : AlertPath :=
  let r := Services.alertStop s.alert
  if r.2 = .ok then { s.drop .taskDeleted with alert := r.1 } else { s with alert := r.1 }

/-- The next step of `alertTask`. -/
def alertTask (serializeJson : AlertDoc → String) (s : AlertPath) (h : TaskHandle) :
    Option AlertPath :=
  if s.alert.tasks.Alive h then
    match s.task with
    | .receive =>
      match s.gAlertQueue with
      | [] => none
      | alert :: rest => some { s with gAlertQueue := rest, task := .publish alert }
    | .publish alert =>
      let msg := alertMessage serializeJson alert
      if msg.len = 0 then some (s.drop .notSerialized)
      else if Mqtt.mqttPublishTest s.tx.mqtt.gState (some msg) ≠ .ok then
        some (s.drop .publishFailed)
      else some { s with task := .send alert }
    | .send alert =>
      let r := s.tx.send ⟨alertMessage serializeJson alert, .alertTask alert⟩
      if r.2 = .ok then some { s with tx := r.1, task := .receive }
      else some (s.drop .publishFailed)
  else none

end AlertPath

inductive AlertStep where
  | post (event : Event) (accepted : Bool)
  | deliver (now : BitVec 32)
  | start (taskMade : Bool)
  | stop
  | task (h : TaskHandle)
  /-- The MQTT service, its client, and the other tasks that publish. -/
  | tx (a : TxStep)

/-- The alert a message was made from. -/
def alertOfItem (item : TxItem) : Option AlertMsg :=
  match item.origin with
  | .alertTask alert => some alert
  | _ => none

/-- The message is from another task. -/
def FromOthers : TxStep → Bool
  | .send item => (alertOfItem item).isNone
  | _ => true

def alertStep (serializeJson : AlertDoc → String) (s : AlertPath) : AlertStep → Option AlertPath
  | .post event accepted => some (s.eventPost event accepted)
  | .deliver now => s.deliver now
  | .start taskMade => some (s.alertStart taskMade)
  | .stop => some s.alertStop
  | .task h => s.alertTask serializeJson h
  | .tx a =>
    if FromOthers a then (Mqtt.txStep s.tx a).map fun tx => { s with tx := tx } else none

/-! ## What a step does to the alerts -/

/-- All that can happen to the alerts in a step. -/
inductive AlertEffect (serializeJson : AlertDoc → String) (s : AlertPath) : AlertPath → Prop where
  | post (event : Event) :
    AlertEffect serializeJson s
      { s with posted := s.posted ++ [event], events := s.events ++ [event] }
  | refuse (event : Event) (h : IsAlert event = true) :
    AlertEffect serializeJson s
      { s with posted := s.posted ++ [event], lost := s.lost ++ [(event, .notPosted)] }
  | refuseOther (event : Event) (h : IsAlert event = false) :
    AlertEffect serializeJson s { s with posted := s.posted ++ [event] }
  | pass (event : Event) (rest : List Event) (hevents : s.events = event :: rest)
    (h : IsAlert event = false) : AlertEffect serializeJson s { s with events := rest }
  | miss (event : Event) (rest : List Event) (loss : AlertLoss)
    (hevents : s.events = event :: rest) (h : IsAlert event = true) :
    AlertEffect serializeJson s { s with events := rest, lost := s.lost ++ [(event, loss)] }
  | enqueue (event : Event) (rest : List Event) (now : BitVec 32) (alert : AlertMsg)
    (hevents : s.events = event :: rest) (halert : alertOf event now = some alert)
    (hroom : s.gAlertQueue.length < alertQueueLength) :
    AlertEffect serializeJson s
      { s with events := rest, gAlertQueue := s.gAlertQueue ++ [alert] }
  | service (alert : Hosted AlertVars) : AlertEffect serializeJson s { s with alert := alert }
  | receive (alert : AlertMsg) (rest : List AlertMsg) (htask : s.task = .receive)
    (hqueue : s.gAlertQueue = alert :: rest) :
    AlertEffect serializeJson s { s with gAlertQueue := rest, task := .publish alert }
  | test (alert : AlertMsg) (htask : s.task = .publish alert) :
    AlertEffect serializeJson s { s with task := .send alert }
  | drop (vars : Hosted AlertVars) (alert : AlertMsg) (loss : AlertLoss)
    (hheld : s.task.held = some alert) :
    AlertEffect serializeJson s
      { s with alert := vars, task := .receive, lost := s.lost ++ [(alert.eventId, loss)] }
  | send (alert : AlertMsg) (htask : s.task = .send alert) :
    AlertEffect serializeJson s { s with
      task := .receive
      tx := { s.tx with
        gTxQueue := s.tx.gTxQueue ++ [⟨alertMessage serializeJson alert, .alertTask alert⟩]
        sent := s.tx.sent ++ [⟨alertMessage serializeJson alert, .alertTask alert⟩] } }
  | tx (a : TxStep) (tx : TxPath) (hothers : FromOthers a = true)
    (ha : Mqtt.txStep s.tx a = some tx) : AlertEffect serializeJson s { s with tx := tx }

section

variable {serializeJson : AlertDoc → String} {s s' : AlertPath}

theorem drop_eq {alert : AlertMsg} (hheld : s.task.held = some alert) (loss : AlertLoss) :
    s.drop loss =
      { s with task := .receive, lost := s.lost ++ [(alert.eventId, loss)] } := by
  rw [AlertPath.drop, hheld]
  rfl

theorem alertEffect_eventPost (event : Event) (accepted : Bool) :
    AlertEffect serializeJson s (s.eventPost event accepted) := by
  cases accepted with
  | true => exact .post event
  | false =>
    cases halert : IsAlert event with
    | true =>
      simp only [AlertPath.eventPost, AlertPath.lose, halert, if_true, Bool.false_eq_true, if_false]
      exact .refuse event halert
    | false =>
      simp only [AlertPath.eventPost, AlertPath.lose, halert, Bool.false_eq_true, if_false]
      exact .refuseOther event halert

/-- An event that is not queued is passed over or missed. -/
theorem alertEffect_lose {event : Event} {rest : List Event} (hevents : s.events = event :: rest)
    (loss : AlertLoss) :
    AlertEffect serializeJson s (AlertPath.lose { s with events := rest } event loss) := by
  cases halert : IsAlert event with
  | true =>
    simp only [AlertPath.lose, halert, if_true]
    exact .miss event rest loss hevents halert
  | false =>
    simp only [AlertPath.lose, halert, Bool.false_eq_true, if_false]
    exact .pass event rest hevents halert

theorem alertEffect_deliver {now : BitVec 32} (ha : s.deliver now = some s') :
    AlertEffect serializeJson s s' := by
  unfold AlertPath.deliver at ha
  split at ha
  · cases ha
  · next event rest hevents =>
    obtain rfl := Option.some.inj ha
    unfold AlertPath.alertEventHandler
    split
    · exact alertEffect_lose hevents .notRunning
    · split
      · next hnone => exact .pass event rest hevents (alertOf_eq_none.mp hnone)
      · next alert halert =>
        split
        · next hroom => exact .enqueue event rest now alert hevents halert hroom
        · exact alertEffect_lose hevents .queueFull

theorem alertEffect_alertStop : AlertEffect serializeJson s s.alertStop := by
  unfold AlertPath.alertStop
  simp only
  split
  · cases htask : s.task.held with
    | none =>
      have hpc : s.task = .receive := by
        cases hpc : s.task <;> rw [hpc] at htask <;> first | rfl | cases htask
      have hsame : s.drop .taskDeleted = s := by
        rw [AlertPath.drop, htask, ← hpc]
        simp
      rw [hsame]
      exact .service _
    | some alert =>
      rw [drop_eq htask]
      exact .drop _ alert .taskDeleted htask
  · exact .service _

theorem alertEffect_alertTask {h : TaskHandle} (ha : s.alertTask serializeJson h = some s') :
    AlertEffect serializeJson s s' := by
  unfold AlertPath.alertTask at ha
  split at ha
  · split at ha
    · next htask =>
      split at ha
      · cases ha
      · next alert rest hqueue =>
        obtain rfl := Option.some.inj ha
        exact .receive alert rest htask hqueue
    · next alert htask =>
      have hheld : s.task.held = some alert := by rw [htask]; rfl
      simp only at ha
      split_ifs at ha
      · obtain rfl := Option.some.inj ha
        rw [drop_eq hheld]
        exact .drop s.alert alert .notSerialized hheld
      · obtain rfl := Option.some.inj ha
        rw [drop_eq hheld]
        exact .drop s.alert alert .publishFailed hheld
      · obtain rfl := Option.some.inj ha
        exact .test alert htask
    · next alert htask =>
      have hheld : s.task.held = some alert := by rw [htask]; rfl
      simp only at ha
      rcases Mqtt.send_cases s.tx ⟨alertMessage serializeJson alert, .alertTask alert⟩ with
        ⟨-, heq⟩ | heq
      · rw [heq, if_pos rfl] at ha
        obtain rfl := Option.some.inj ha
        exact .send alert htask
      · rw [heq, if_neg (show ¬ SysStatus.fail = .ok by decide)] at ha
        obtain rfl := Option.some.inj ha
        rw [drop_eq hheld]
        exact .drop s.alert alert .publishFailed hheld
  · cases ha

theorem alertEffect_alertStep {a : AlertStep} (ha : alertStep serializeJson s a = some s') :
    AlertEffect serializeJson s s' := by
  cases a with
  | post event accepted =>
    obtain rfl := Option.some.inj ha
    exact alertEffect_eventPost event accepted
  | deliver now => exact alertEffect_deliver ha
  | start taskMade =>
    obtain rfl := Option.some.inj ha
    exact .service _
  | stop =>
    obtain rfl := Option.some.inj ha
    exact alertEffect_alertStop
  | task h => exact alertEffect_alertTask ha
  | tx a =>
    simp only [alertStep] at ha
    split at ha
    · next hothers =>
      obtain ⟨tx, htx, rfl⟩ := Option.map_eq_some_iff.mp ha
      exact .tx a tx hothers htx
    · cases ha

end

end XIoT.Alert
