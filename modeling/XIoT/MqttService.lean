import XIoT.System
import XIoT.Lib.TaskPool

/-!
# The MQTT service

`mqtt_service.cpp` at the granularity of its state reads and writes, its task
creation and deletion and its client calls. `mqtt_start` and `mqtt_stop` run in the
event-loop task, the callbacks in the client's task, and their steps interleave.
-/

namespace XIoT.Mqtt

open Lib.TaskPool

/-- `mqtt_state_t`. -/
inductive MqttState where
  | deinitialized
  | initialized
  | connecting
  | running
  | stopped
  deriving DecidableEq, Repr

/-- `mqtt_subscribe`: the status, and whether the client's `subscribe` was called with
the topic. `refused` is its answer -1. -/
def mqttSubscribe (state : MqttState) (topic : Option String) (refused : Bool) :
    SysStatus × Option String :=
  if state ≠ .running then (.invalidState, none)
  else match topic with
    | none => (.invalidParam, none)
    | some topic => if refused then (.fail, some topic) else (.ok, some topic)

/-- The call in progress in the event-loop task, by its next step. -/
inductive LoopPc where
  | idle
  | startRead
  | startCreate
  | startConnect
  | startSet
  | stopRead
  | stopDelete
  | stopSet
  | stopDisconnect
  deriving DecidableEq, Repr

/-- The callback in progress in the client's task, by its next step. -/
inductive ClientPc where
  | idle
  | connectSet
  | connectPublish
  | disconnectRead
  | disconnectSet
  deriving DecidableEq, Repr

inductive Callback where
  | onConnect
  | onDisconnect
  deriving DecidableEq, Repr

structure MqttVars where
  gState : MqttState
  gTaskHandle : Option TaskHandle
  /-- The live tasks that run `mqttTask`. -/
  tasks : Pool Unit
  loop : LoopPc
  client : ClientPc
  /-- `connect()` of the client has been called. -/
  connectCalled : Bool
  /-- What the last call of the service returned. -/
  returned : Option SysStatus
  /-- The latest callback since the last successful `mqtt_start`. -/
  latest : Option Callback
  /-- `mqtt_stop` has been called since then. -/
  stopCalled : Bool

namespace MqttVars

def boot : MqttVars :=
  ⟨.deinitialized, none, .empty, .idle, .idle, false, none, none, false⟩

def HasTask (s : MqttVars) : Prop := ∃ h, s.tasks.Alive h

/-- Return from a call of the service. -/
def return_ (s : MqttVars) (status : SysStatus) : MqttVars :=
  { s with loop := .idle, returned := some status }

/-- `mqtt_init`, as far as the state goes. -/
def mqttInit (s : MqttVars) (cfgGiven queueMade : Bool) : MqttVars :=
  if s.gState ≠ .deinitialized then s.return_ .invalidState
  else if !cfgGiven then s.return_ .invalidParam
  else if !queueMade then s.return_ .noMemory
  else { s with gState := .initialized }.return_ .ok

/-- `app_event_handler` on NETWORK_DOWN: `mqtt_stop` is called unless the state reads STOPPED. -/
def networkDown (s : MqttVars) : MqttVars :=
  if s.gState ≠ .stopped then { s with loop := .stopRead, stopCalled := true } else s

/-- The next step of `mqtt_start` or `mqtt_stop`; `created` is the outcome of
`xTaskCreatePinnedToCore`. -/
def loopStep (s : MqttVars) (created : Bool) : Option MqttVars :=
  match s.loop with
  | .idle => none
  | .startRead =>
    if s.gState ≠ .initialized ∧ s.gState ≠ .stopped then some (s.return_ .invalidState)
    else some { s with loop := .startCreate }
  | .startCreate =>
    if !created then some (s.return_ .noMemory)
    else
      some { s with
        tasks := s.tasks.spawn ()
        gTaskHandle := some s.tasks.next
        loop := .startConnect
        latest := none
        stopCalled := false }
  | .startConnect => some { s with connectCalled := true, loop := .startSet }
  | .startSet => some ({ s with gState := .connecting }.return_ .ok)
  | .stopRead =>
    if s.gState ≠ .running ∧ s.gState ≠ .connecting then some (s.return_ .invalidState)
    else some { s with loop := .stopDelete }
  | .stopDelete =>
    match s.gTaskHandle with
    | none => some { s with loop := .stopSet }
    | some h => some { s with tasks := s.tasks.delete h, gTaskHandle := none, loop := .stopSet }
  | .stopSet => some { s with gState := .stopped, loop := .stopDisconnect }
  | .stopDisconnect => some (s.return_ .ok)

/-- The next step of `onConnect` or `onDisconnect`. -/
def clientStep (s : MqttVars) : Option MqttVars :=
  match s.client with
  | .idle => none
  | .connectSet => some { s with gState := .running, client := .connectPublish }
  -- `mqtt_publish` of the status message reads the state and sends to the queue
  | .connectPublish => some { s with client := .idle }
  | .disconnectRead =>
    if s.gState ≠ .stopped then some { s with client := .disconnectSet }
    else some { s with client := .idle }
  | .disconnectSet => some { s with gState := .connecting, client := .idle }

end MqttVars

inductive MqttStep where
  | init (cfgGiven queueMade : Bool)
  | networkUp
  | networkDown
  | loop (created : Bool)
  | onConnect
  | onDisconnect
  | client
  deriving DecidableEq, Repr

/-- A callback begins with its log line and its `event_post`. -/
def mqttStep (s : MqttVars) : MqttStep → Option MqttVars
  | .init cfgGiven queueMade => if s.loop = .idle then some (s.mqttInit cfgGiven queueMade) else none
  | .networkUp => if s.loop = .idle then some { s with loop := .startRead } else none
  | .networkDown => if s.loop = .idle then some s.networkDown else none
  | .loop created => s.loopStep created
  | .onConnect =>
    if s.client = .idle ∧ s.connectCalled = true then
      some { s with client := .connectSet, latest := some .onConnect }
    else none
  | .onDisconnect =>
    if s.client = .idle ∧ s.connectCalled = true then
      some { s with client := .disconnectRead, latest := some .onDisconnect }
    else none
  | .client => s.clientStep

end XIoT.Mqtt
