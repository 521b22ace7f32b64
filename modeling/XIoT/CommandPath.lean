import XIoT.Subscriber
import XIoT.Lib.TaskPool

/-!
# The path of a command

Commands pass two bounded queues: that of the subscriber, filled by `subscriber_post`
and emptied by `subscriberTask`, and that of the dispatcher, which other tasks fill as
well. `subscriber_stop` deletes the task wherever it stands. The steps below are those
between which another task can run.
-/

namespace XIoT.Subscriber

open Mqtt (SubscriberState)
open Lib.TaskPool

/-- A message with its number in the order of acceptance. -/
structure Numbered where
  number : Nat
  msg : MqttMsg
  deriving DecidableEq, Repr

/-- `subscriberTask`, by its next step. `subscribing` is the loop before the main loop. -/
inductive TaskPc where
  | subscribing
  | receive
  | lookUp (m : Numbered)
  | parse (m : Numbered) (tag : TagConfig)
  | post (m : Numbered) (request : ProtocolRequest)
  | reject (m : Numbered) (r : Rejection)

/-- `subscriber_start` or `subscriber_stop`, by its next step. -/
inductive CallPc where
  | idle
  | startCreate
  | startSet
  | stopDelete
  | stopSet
  deriving DecidableEq, Repr

/-- A request in the queue of the dispatcher; `command` marks those of `subscriberTask`. -/
structure Posted where
  request : ProtocolRequest
  command : Bool
  deriving DecidableEq

structure CommandPath where
  gState : SubscriberState
  gTaskHandle : Option TaskHandle
  call : CallPc
  tasks : Pool TaskPc
  /-- The calls of `subscriber_post` that have found the state RUNNING. -/
  posting : List MqttMsg
  gQueue : List Numbered
  dispatcher : DispatcherState
  gDispatchQueue : List Posted
  /-- The request `protocolDispatcherTask` has received and not yet dispatched. -/
  dispatching : Option Posted
  /-- The messages for which `subscriber_post` returned SYS_OK, oldest first. -/
  accepted : List MqttMsg
  /-- The numbers of those whose request the dispatcher has accepted. -/
  posted : List Nat
  /-- The numbers of those dropped, with the line logged. -/
  rejected : List (Nat × LogLevel × String)
  /-- The requests `modbus_write_request` was called with on behalf of commands. -/
  handed : List ProtocolRequest

/-- After `subscriber_init`. -/
def CommandPath.boot (dispatcher : DispatcherState) : CommandPath :=
  ⟨.initialized, none, .idle, .empty, [], [], dispatcher, [], none, [], [], [], []⟩

namespace CommandPath

/-! ## The producers -/

/-- `subscriber_post` begins. -/
def postTest (s : CommandPath) (msg : Option MqttMsg) : CommandPath :=
  match msg with
  | none => s
  | some m =>
    if subscriberPostTest s.gState msg = .ok then { s with posting := s.posting ++ [m] } else s

/-- `xQueueSend` of the `i`-th call in progress succeeds, or gives up on a full queue. -/
def postSend (s : CommandPath) (i : Nat) : Option CommandPath :=
  match s.posting[i]? with
  | none => none
  | some msg =>
    if subscriberPostSend s.gQueue.length = .ok then
      some { s with
        posting := s.posting.eraseIdx i
        gQueue := s.gQueue ++ [⟨s.accepted.length, msg⟩]
        accepted := s.accepted ++ [msg] }
    else some { s with posting := s.posting.eraseIdx i }

/-- `protocol_dispatcher_post`; on a full queue it is the end of the 500 ticks. -/
def dispatcherPost (s : CommandPath) (request : ProtocolRequest) (command : Bool) :
    CommandPath × SysStatus :=
  match ProtocolDispatcher.protocolDispatcherPost
      ⟨s.dispatcher, s.gDispatchQueue.map Posted.request⟩ (some request)
      (decide (s.gDispatchQueue.length < ProtocolDispatcher.queueLength)) with
  | (_, .ok) => ({ s with gDispatchQueue := s.gDispatchQueue ++ [⟨request, command⟩] }, .ok)
  | (_, status) => (s, status)

/-! ## Starting and stopping -/

/-- `subscriber_start` begins. -/
def startTest (s : CommandPath) : CommandPath :=
  if s.gState ≠ .initialized ∧ s.gState ≠ .stopped then s else { s with call := .startCreate }

/-- `subscriber_stop` begins. `app_event_handler` calls it only when the state is not
STOPPED, which this test covers. -/
def stopTest (s : CommandPath) : CommandPath :=
  if s.gState ≠ .running then s else { s with call := .stopDelete }

/-- The next step of the call in progress; `created` is the outcome of
`xTaskCreatePinnedToCore`. -/
def callStep (s : CommandPath) (created : Bool) : Option CommandPath :=
  match s.call with
  | .idle => none
  | .startCreate =>
    if created then
      some { s with
        tasks := s.tasks.spawn .subscribing
        gTaskHandle := some s.tasks.next
        call := .startSet }
    else some { s with call := .idle }
  | .startSet => some { s with gState := .running, call := .idle }
  | .stopDelete =>
    match s.gTaskHandle with
    | none => some { s with call := .stopSet }
    | some h => some { s with tasks := s.tasks.delete h, gTaskHandle := none, call := .stopSet }
  | .stopSet => some { s with gState := .stopped, call := .idle }

/-! ## The tasks -/

def setTask (s : CommandPath) (h : TaskHandle) (pc : TaskPc) : CommandPath :=
  { s with tasks := s.tasks.set h pc }

/-- One step of the subscriber task with handle `h`. -/
def taskStep (reg : Registry) (json : ArduinoJson) (s : CommandPath) (h : TaskHandle) :
    Option CommandPath :=
  match s.tasks.task h with
  | none => none
  | some .subscribing => some (s.setTask h .receive)
  | some .receive =>
    match s.gQueue with
    | [] => none
    | m :: rest => some ({ s with gQueue := rest }.setTask h (.lookUp m))
  | some (.lookUp m) =>
    match Subscriber.lookUp reg m.msg with
    | .error r => some (s.setTask h (.reject m r))
    | .ok tag => some (s.setTask h (.parse m tag))
  | some (.parse m tag) =>
    match Subscriber.parse json tag m.msg with
    | .error r => some (s.setTask h (.reject m r))
    | .ok request => some (s.setTask h (.post m request))
  | some (.post m request) =>
    match s.dispatcherPost request true with
    | (s', .ok) => some ({ s' with posted := s'.posted ++ [m.number] }.setTask h .receive)
    | (s', _) => some (s'.setTask h (.reject m .dispatchFailed))
  | some (.reject m r) =>
    some ({ s with rejected := s.rejected ++ [(m.number, r.logLine)] }.setTask h .receive)

/-- `protocolDispatcherTask` receives a request. -/
def dispatchReceive (s : CommandPath) : Option CommandPath :=
  match s.dispatching, s.gDispatchQueue with
  | none, p :: rest => some { s with dispatching := some p, gDispatchQueue := rest }
  | _, _ => none

/-- `dispatch_request` on the received request; `answer` is what the service returns. -/
def dispatchRequest (s : CommandPath) (answer : SysStatus) : Option CommandPath :=
  match s.dispatching with
  | none => none
  | some p =>
    some { s with
      dispatching := none
      handed :=
        if (ProtocolDispatcher.dispatchRequest (some p.request) answer).service = some .modbusWrite ∧
            p.command = true then
          s.handed ++ [p.request]
        else s.handed }

end CommandPath

inductive CommandStep where
  /-- `subscriber_post` is called. -/
  | post (msg : Option MqttMsg)
  | send (i : Nat)
  | start
  | stop
  | call (created : Bool)
  | task (h : TaskHandle)
  /-- Another task posts a request, such as a read of `acquisition_scan`. -/
  | otherPost (request : ProtocolRequest)
  | receive
  | dispatch (answer : SysStatus)

def commandStep (reg : Registry) (json : ArduinoJson) (s : CommandPath) :
    CommandStep → Option CommandPath
  | .post msg => some (s.postTest msg)
  | .send i => s.postSend i
  | .start => if s.call = .idle then some s.startTest else none
  | .stop => if s.call = .idle then some s.stopTest else none
  | .call created => s.callStep created
  | .task h => s.taskStep reg json h
  | .otherPost request => some (s.dispatcherPost request false).1
  | .receive => s.dispatchReceive
  | .dispatch answer => s.dispatchRequest answer

end XIoT.Subscriber
