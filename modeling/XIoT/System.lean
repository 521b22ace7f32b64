/-!
# Status codes and application events

The enumerations of `system_err.h` and `system_events.h`. Every service reports
with the first and talks to the event loop with the other two.
-/

namespace XIoT

/-- `sys_status_t`. -/
inductive SysStatus where
  | ok
  | fail
  | invalidParam
  | invalidState
  | notFound
  | noMemory
  | timeout
  | busy
  deriving DecidableEq, Repr

/-- `app_event_id_t`. -/
inductive AppEvent where
  | networkUp
  | networkDown
  | mqttConnected
  | mqttDisconnected
  | modbusNetworkUp
  | modbusNetworkDown
  | systemFault
  deriving DecidableEq, Repr

/-- `core_event_id_t`. -/
inductive CoreEvent where
  | faultLowPressure
  | faultLowSalt
  | regenStarted
  | regenCompleted
  | faultDataLoss
  | regenFailed
  deriving DecidableEq, Repr

/-- A FreeRTOS task handle. Every successful creation returns a fresh one. -/
abbrev TaskHandle := Nat

end XIoT
