import XIoT.TagRuntime

/-!
# Requests and responses

The two records that travel between the tasks, and the admission check of the
dispatcher queue.
-/

namespace XIoT

/-- `protocol_op_t`. -/
inductive ProtocolOp where
  | read
  | write
  deriving DecidableEq, Repr

/-- `protocol_request_t`; the tag is a pointer, the value only counts for a write. -/
structure ProtocolRequest where
  tag : Option TagConfig
  operation : ProtocolOp
  value : TagValue
  deriving DecidableEq

/-- `protocol_response_t`. Nothing in it tells a read from a write. -/
structure ProtocolResponse where
  tagId : BitVec 32
  status : SysStatus
  value : TagValue
  deriving DecidableEq

/-- `protocol_dispatcher_state_t`. -/
inductive DispatcherState where
  | deinitialized
  | initialized
  | running
  | stopped
  deriving DecidableEq, Repr

namespace ProtocolDispatcher

/-- The length `xQueueCreate` gives `gQueue`. -/
def queueLength : Nat := 30

/-- The variables of `protocol_dispatcher.cpp` that a post reads and writes. -/
structure State where
  gState : DispatcherState := .deinitialized
  gQueue : List ProtocolRequest := []
  deriving DecidableEq

/-- `protocol_dispatcher_post`; `room` tells whether the queue took the request
within the 500 ticks of `xQueueSend`. -/
def protocolDispatcherPost (s : State) (request : Option ProtocolRequest) (room : Bool) :
    State × SysStatus :=
  if s.gState ≠ .running then (s, .invalidState)
  else match request with
    | none => (s, .invalidParam)
    | some req => if room then ({ s with gQueue := s.gQueue ++ [req] }, .ok) else (s, .busy)

/-! ## Dispatching -/

/-- The service functions of `dispatch_request`. -/
inductive Service where
  | modbusRead
  | modbusWrite
  | systemRead
  deriving DecidableEq, Repr

/-- The switch over the source: a CAN request and a write to the system go nowhere. -/
def serviceOf (tag : TagConfig) (operation : ProtocolOp) : Option Service :=
  match tag.source, operation with
  | .modbus, .read => some .modbusRead
  | .modbus, .write => some .modbusWrite
  | .system, .read => some .systemRead
  | .system, .write => none
  | .can, _ => none

/-- What `dispatch_request` comes to: it reads through a NULL tag, or it returns a status
after at most one call of a service. -/
inductive Dispatch where
  | nullDereference
  | returned (service : Option Service) (status : SysStatus)
  deriving DecidableEq, Repr

/-- The service that was called. -/
def Dispatch.service : Dispatch → Option Service
  | nullDereference => none
  | returned service _ => service

/-- `dispatch_request`, where the service that it calls answers `answer`. -/
def dispatchRequest (request : Option ProtocolRequest) (answer : SysStatus) : Dispatch :=
  match request with
  | none => .returned none .invalidParam
  | some req =>
    match req.tag with
    | none => .nullDereference
    | some tag =>
      match serviceOf tag req.operation with
      | none => .returned none .ok
      | some service => .returned (some service) (if answer = .ok then .ok else .fail)

end ProtocolDispatcher

end XIoT
