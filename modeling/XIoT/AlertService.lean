import XIoT.Subscriber

/-!
# The alert service

`alert_service.cpp` without its life cycle: which events are alerts, what the event
handler puts into the queue, and the message `alertTask` makes of it. The serialization of
the document is a parameter.
-/

namespace XIoT.Alert

open Subscriber (MqttMsg copyString maxTopicLength maxPayloadLength)

/-- `alert_severity_t`. -/
inductive AlertSeverity where
  | info
  | warning
  | critical
  deriving DecidableEq, Repr

/-- `severity_to_str`. -/
def severityToStr : AlertSeverity → String
  | .info => "INFO"
  | .warning => "WARNING"
  | .critical => "CRITICAL"

/-- An event of one of the two bases, `APP_EVENTS` and `CORE_EVENTS`. -/
inductive Event where
  | app (id : AppEvent)
  | core (id : CoreEvent)
  deriving DecidableEq, Repr

/-- The severity and the text of an alert, none for an event that is no alert. -/
def alertText : Event → Option (AlertSeverity × String)
  | .app .systemFault =>
    some (.critical, "System: Critical internal software or configuration fault!")
  | .app _ => none
  | .core .faultLowPressure => some (.critical, "Emergency: Water pressure below threshold!")
  | .core .faultLowSalt => some (.critical, "Emergency: Salt level critically low!")
  | .core .faultDataLoss => some (.warning, "Warning: Sensor communication lost!")
  | .core .regenStarted => some (.info, "Status: Regeneration cycle started.")
  | .core .regenCompleted => some (.info, "Status: Regeneration cycle completed.")
  | .core .regenFailed => some (.critical, "Emergency: Regeneration failed or timed out!")

/-- `event_to_alert` on a buffer of `maxLen` zeros. -/
def eventToAlert (event : Event) (maxLen : Nat) : Option (AlertSeverity × String) :=
  (alertText event).map fun alert => (alert.1, copyString maxLen alert.2)

/-- `alert_msg_t`; the id is given with its base. -/
structure AlertMsg where
  eventId : Event
  severity : AlertSeverity
  message : String
  timestamp : BitVec 32
  deriving DecidableEq, Repr

/-- The length of the array `message`. -/
def messageLength : Nat := 64

/-- The length `xQueueCreate` gives `gAlertQueue`. -/
def alertQueueLength : Nat := 15

/-- What `alert_event_handler` puts into the queue when there is room. -/
def alertOf (event : Event) (now : BitVec 32) : Option AlertMsg :=
  (eventToAlert event messageLength).map fun alert => ⟨event, alert.1, alert.2, now⟩

/-- The document of a message. -/
structure AlertDoc where
  type : String
  severity : String
  message : String
  ts : BitVec 32
  deriving DecidableEq, Repr

/-- The message that `alertTask` publishes. -/
def alertMessage (serializeJson : AlertDoc → String) (alert : AlertMsg) : MqttMsg :=
  let payload := copyString maxPayloadLength
    (serializeJson ⟨"alert", severityToStr alert.severity, alert.message, alert.timestamp⟩)
  { topic := copyString maxTopicLength "XP/TW-1/ALERTS"
    payload := payload
    qos := 1
    retain := true
    len := payload.toList.length }

/-- The array of a message holds every text to its end. -/
theorem eventToAlert_eq (event : Event) : eventToAlert event messageLength = alertText event := by
  cases event with
  | app id => cases id <;> rfl
  | core id => cases id <;> rfl

/-- The event is one that is announced. -/
def IsAlert (event : Event) : Bool := (alertText event).isSome

theorem alertOf_eq (event : Event) (now : BitVec 32) :
    alertOf event now = (alertText event).map fun alert => ⟨event, alert.1, alert.2, now⟩ := by
  rw [alertOf, eventToAlert_eq]

theorem alertOf_eq_none {event : Event} {now : BitVec 32} :
    alertOf event now = none ↔ IsAlert event = false := by
  rw [alertOf_eq, Option.map_eq_none_iff, IsAlert, Option.isSome_eq_false_iff,
    Option.isNone_iff_eq_none]

/-- An alert has the severity and the text of its event. -/
def Announces (alert : AlertMsg) : Prop :=
  alertText alert.eventId = some (alert.severity, alert.message)

theorem announces_of_alertOf {event : Event} {now : BitVec 32} {alert : AlertMsg}
    (h : alertOf event now = some alert) :
    IsAlert event = true ∧ alert.eventId = event ∧ Announces alert := by
  rw [alertOf_eq] at h
  obtain ⟨⟨severity, text⟩, htext, rfl⟩ := Option.map_eq_some_iff.mp h
  exact ⟨by rw [IsAlert, htext]; rfl, rfl, htext⟩

end XIoT.Alert
