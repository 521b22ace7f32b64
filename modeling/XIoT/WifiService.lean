import XIoT.System
import XIoT.Lib.TaskPool

/-!
# The Wi-Fi service

`wifi_service.cpp`: the connection state machine, which takes one message of its
queue at a time, and the calls that bring it up and down. What a function does to
its surroundings is the list of calls it makes, in order; what these answer is an
argument.
-/

namespace XIoT.Wifi

open Lib.TaskPool

/-- `connection_event_t`. -/
inductive ConnectionEvent where
  | start
  | staConnected
  | gotIp
  | lostIp
  | disconnected
  | retryTimeout
  deriving DecidableEq, Repr

/-- `connection_state_t`. -/
inductive ConnectionState where
  | idle
  | connecting
  | connected
  | retryWait
  | gotIp
  deriving DecidableEq, Repr

/-- `wifi_state_t`. -/
inductive WifiState where
  | deinitialized
  | initialized
  | running
  | stopped
  deriving DecidableEq, Repr

inductive WifiCall where
  | eventPost (e : AppEvent)
  | wifiBegin
  | wifiDisconnect
  | timerReset
  | timerStop
  | queueSend (e : ConnectionEvent)
  deriving DecidableEq, Repr

/-- What the calls of one message answer: `pdPASS` of `xTimerReset` and `xTimerStop`,
`xTimerIsTimerActive` and `wifi_is_connected`. -/
structure Answers where
  timerReset : Bool
  timerStop : Bool
  timerActive : Bool
  isConnected : Bool
  deriving DecidableEq, Repr

/-! ## The state machine -/

/-- The retry on a disconnect that three of the states share. -/
def retryOnDisconnect (autoReconnect : Bool) (ans : Answers) (current : ConnectionState) :
    ConnectionState × List WifiCall :=
  if autoReconnect then
    if !ans.timerReset then (current, [.timerReset])
    else (.retryWait, [.timerReset])
  else (current, [])

/-- The body of `wifiFSTMTask` for one message. An event a state does not list is
logged as unhandled and dropped. -/
def wifiFSTMTask (autoReconnect : Bool) (ans : Answers) (current : ConnectionState)
    (event : ConnectionEvent) : ConnectionState × List WifiCall :=
  match current with
  | .idle =>
    match event with
    | .start => (.connecting, [.wifiBegin])
    | _ => (.idle, [])
  | .connecting =>
    match event with
    | .staConnected => (.connected, [])
    | .disconnected => retryOnDisconnect autoReconnect ans .connecting
    | _ => (.connecting, [])
  | .connected =>
    match event with
    | .disconnected => retryOnDisconnect autoReconnect ans .connected
    | .gotIp => (.gotIp, [.eventPost .networkUp])
    | _ => (.connected, [])
  | .retryWait =>
    match event with
    | .staConnected =>
      if ans.timerActive then
        if !ans.timerStop then (.retryWait, [.timerStop])
        else (.connected, [.timerStop])
      else (.connected, [])
    | .retryTimeout =>
      if ans.isConnected then (.connected, [])
      else (.connecting, [.wifiBegin])
    | .disconnected => (.retryWait, [.timerReset])
    | .lostIp => (.retryWait, [])
    | _ => (.retryWait, [])
  | .gotIp =>
    match event with
    | .lostIp => (.connected, [.eventPost .networkDown])
    | .disconnected =>
      let r := retryOnDisconnect autoReconnect ans .gotIp
      (r.1, .eventPost .networkDown :: r.2)
    | _ => (.gotIp, [])

/-! ## Bringing it up and down -/

/-- The static variables of `wifi_service.cpp` and the live state machine tasks. -/
structure WifiVars where
  wConnectionState : ConnectionState
  gWifiState : WifiState
  autoReconnect : Bool
  xWifiTaskHandle : Option TaskHandle
  tasks : Pool Unit

def WifiVars.boot : WifiVars := ⟨.idle, .deinitialized, false, none, .empty⟩

/-- `wifi_init`; of the configuration only `autoReconnect` matters here. The two
flags tell whether the timer and the queue could be created. -/
def wifiInit (s : WifiVars) (cfg : Option Bool) (timerMade queueMade : Bool) :
    WifiVars × SysStatus :=
  if s.gWifiState ≠ .deinitialized then (s, .invalidState)
  else match cfg with
    | none => (s, .invalidParam)
    | some autoReconnect =>
      let s := { s with autoReconnect := autoReconnect }
      if !timerMade then (s, .noMemory)
      else if !queueMade then (s, .noMemory)
      else ({ s with gWifiState := .initialized }, .ok)

/-- `wifi_start`. When the START message does not fit the queue, the task stays. -/
def wifiStart (s : WifiVars) (taskMade sent : Bool) : WifiVars × List WifiCall × SysStatus :=
  if s.gWifiState ≠ .initialized ∧ s.gWifiState ≠ .stopped then (s, [], .invalidState)
  else if !taskMade then (s, [], .noMemory)
  else
    let s := { s with tasks := s.tasks.spawn (), xWifiTaskHandle := some s.tasks.next }
    if !sent then (s, [.queueSend .start], .fail)
    else ({ s with gWifiState := .running }, [.queueSend .start], .ok)

/-- `vTaskDelete` of a handle that is not NULL. -/
def deleteTask (tasks : Pool Unit) : Option TaskHandle → Pool Unit
  | none => tasks
  | some h => tasks.delete h

/-- `wifi_stop`. -/
def wifiStop (s : WifiVars) (timerStopped : Bool) : WifiVars × List WifiCall × SysStatus :=
  if s.gWifiState ≠ .running then (s, [], .invalidState)
  else
    let s := { s with tasks := deleteTask s.tasks s.xWifiTaskHandle, xWifiTaskHandle := none }
    if !timerStopped then (s, [.timerStop], .fail)
    else
      ({ s with wConnectionState := .idle, gWifiState := .stopped },
        [.timerStop, .wifiDisconnect], .ok)

end XIoT.Wifi
