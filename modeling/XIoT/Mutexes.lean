import XIoT.Lib.LockOrder

/-!
# The mutexes of the firmware

The four mutexes and what each task and callback does with them, function by
function. A `choice` is a branch of the source, a `maybe` one that may do nothing,
and a critical section lies between `xSemaphoreTake` and `xSemaphoreGive`.
-/

namespace XIoT.Mutexes

open Lib.LockOrder Lib.Runs Lib.LockOrder.Prog

/-- `gLoggerMutex`, `gRuntimeMutex`, `gModbusMutex` and `gCommandMutex`. -/
inductive Mutex where
  | logger
  | runtime
  | modbus
  | command
  deriving DecidableEq, Repr

/-! ## Functions of the services -/

/-- `logger_log`, which returns at once before `logger_init`. -/
def loggerLog : Prog Mutex := maybe (.locked .logger .skip)

/-- From `tag_runtime_lock` to `tag_runtime_unlock`; nothing when the lock fails. -/
def withRuntime (body : Prog Mutex) : Prog Mutex := maybe (.locked .runtime body)

/-- From `modbus_lock` to `modbus_unlock`. -/
def withModbus : Prog Mutex := maybe (.locked .modbus .skip)

/-- `gCommandMutex` around the two pending flags. -/
def withCommand : Prog Mutex := .locked .command .skip

/-- `tag_runtime_get` and `tag_runtime_get_at`. -/
def tagRuntimeGet : Prog Mutex := maybe loggerLog

def eventPost : Prog Mutex := maybe loggerLog

def protocolDispatcherPost : Prog Mutex := maybe loggerLog

def acquisitionPostResponse : Prog Mutex := maybe loggerLog

def subscriberPost : Prog Mutex := maybe loggerLog

def mqttPublish : Prog Mutex := maybe loggerLog

def mqttSubscribe : Prog Mutex := loggerLog

def buildMessage : Prog Mutex := maybe loggerLog

def modbusReadRequest : Prog Mutex := .choice loggerLog (block [withModbus, maybe loggerLog])

/-- A data type that cannot be written is refused without a log line. -/
def modbusWriteRequest : Prog Mutex :=
  maybe (.choice loggerLog (block [withModbus, maybe loggerLog]))

def systemServiceReadRequest : Prog Mutex :=
  maybe (block [maybe loggerLog, acquisitionPostResponse])

def dispatchRequest : Prog Mutex :=
  maybe <| .choice loggerLog <|
    .choice (block [modbusReadRequest, maybe loggerLog]) <|
    .choice (block [loggerLog, modbusWriteRequest, maybe loggerLog])
      (block [systemServiceReadRequest, maybe loggerLog])

def sendModbusCommand : Prog Mutex :=
  .choice loggerLog (block [protocolDispatcherPost, loggerLog])

/-- The `*_init`, `*_start` and `*_stop` functions take no mutex but the logger's. -/
def serviceCall : Prog Mutex := .loop loggerLog

/-- `core_request_regen` and `core_abort_regen`. -/
def coreCommand : Prog Mutex := maybe (block [withCommand, loggerLog])

/-! ## Tasks -/

def publisherTask : Prog Mutex :=
  block [loggerLog,
    .loop (.loop (block [tagRuntimeGet, maybe (block [withRuntime .skip,
      maybe (.choice (block [buildMessage, loggerLog])
        (block [buildMessage, mqttPublish, maybe loggerLog]))])])),
    loggerLog]

def acquisitionScan : Prog Mutex := .loop (maybe (block [protocolDispatcherPost, maybe loggerLog]))

/-- A read error is logged while the store is locked. -/
def acquisitionTask : Prog Mutex :=
  block [loggerLog,
    .loop (block [maybe acquisitionScan,
      maybe (block [tagRuntimeGet, withRuntime (maybe loggerLog)])]),
    loggerLog]

def nextionTask : Prog Mutex :=
  block [loggerLog, .loop (.loop (block [tagRuntimeGet, maybe (withRuntime .skip)])), loggerLog]

def subscriberTask : Prog Mutex :=
  block [loggerLog,
    .loop (maybe (block [mqttSubscribe, maybe loggerLog])),
    .loop (.choice loggerLog (block [protocolDispatcherPost, loggerLog]))]

def mqttTask : Prog Mutex := block [loggerLog, .loop (maybe loggerLog)]

def protocolDispatcherTask : Prog Mutex :=
  block [loggerLog, .loop (.choice loggerLog (block [dispatchRequest, maybe loggerLog]))]

/-- The state evaluation of `core_task`. -/
def evaluateState : Prog Mutex :=
  block [maybe (block [loggerLog, eventPost]), maybe (block [loggerLog, sendModbusCommand])]

def exitTransition : Prog Mutex := maybe (block [loggerLog, maybe sendModbusCommand, eventPost])

def midCycleFaultProtection : Prog Mutex := maybe (block [loggerLog, sendModbusCommand])

def processCommands : Prog Mutex :=
  block [withCommand, maybe (block [loggerLog, maybe sendModbusCommand])]

def coreTask : Prog Mutex :=
  block [loggerLog,
    .loop (block [tagRuntimeGet, tagRuntimeGet, tagRuntimeGet,
      maybe (block [withRuntime .skip, evaluateState, exitTransition, midCycleFaultProtection,
        processCommands])])]

def wifiFSTMTask : Prog Mutex :=
  .loop (.choice loggerLog (block [maybe eventPost, .loop loggerLog]))

def alertTask : Prog Mutex :=
  block [loggerLog,
    .loop (maybe (block [loggerLog, maybe (block [mqttPublish, maybe loggerLog])]))]

/-! ## Callbacks and callers -/

def onConnect : Prog Mutex := block [loggerLog, eventPost, mqttPublish]

def onDisconnect : Prog Mutex := block [loggerLog, eventPost]

def onModbusData : Prog Mutex :=
  .choice loggerLog (block [maybe eventPost, .choice loggerLog acquisitionPostResponse])

def onModbusError : Prog Mutex := block [loggerLog, maybe eventPost, acquisitionPostResponse]

/-- Everything that runs: the tasks the services create, and one task for each call
that another task or a library makes. -/
inductive TaskKind where
  | publisher
  | acquisition
  | nextion
  | subscriber
  | mqtt
  | protocolDispatcher
  | core
  | wifi
  | alert
  /-- `setup`, with `fault_handler`. -/
  | setup
  | appEventHandler
  | alertEventHandler
  | onConnect
  | onDisconnect
  /-- `onPublish` and `onSubscribe` of the MQTT client. -/
  | onAcknowledge
  | onMessage
  | onModbusData
  | onModbusError
  | vStaReconnectTimerCB
  | wifiEventHandler
  | coreCommand
  | serviceCall
  deriving DecidableEq, Repr

def TaskKind.program : TaskKind → Prog Mutex
  | .publisher => publisherTask
  | .acquisition => acquisitionTask
  | .nextion => nextionTask
  | .subscriber => subscriberTask
  | .mqtt => mqttTask
  | .protocolDispatcher => protocolDispatcherTask
  | .core => coreTask
  | .wifi => wifiFSTMTask
  | .alert => alertTask
  | .setup => .loop (.choice Mutexes.serviceCall eventPost)
  | .appEventHandler => block [loggerLog, Mutexes.serviceCall]
  | .alertEventHandler => maybe loggerLog
  | .onConnect => Mutexes.onConnect
  | .onDisconnect => Mutexes.onDisconnect
  | .onAcknowledge => loggerLog
  | .onMessage => subscriberPost
  | .onModbusData => Mutexes.onModbusData
  | .onModbusError => Mutexes.onModbusError
  | .vStaReconnectTimerCB => maybe loggerLog
  | .wifiEventHandler => maybe loggerLog
  | .coreCommand => Mutexes.coreCommand
  | .serviceCall => Mutexes.serviceCall

/-- The tasks that `subscriber_stop`, `mqtt_stop`, `protocol_dispatcher_stop`,
`core_stop`, `wifi_stop` and `alert_stop` delete. The others end by themselves. -/
def TaskKind.isDeletedByStop : TaskKind → Bool
  | .subscriber => true
  | .mqtt => true
  | .protocolDispatcher => true
  | .core => true
  | .wifi => true
  | .alert => true
  | _ => false

def firmware : Tasks TaskKind Mutex := ⟨TaskKind.program, TaskKind.isDeletedByStop⟩

/-! ## Lock order -/

/-- A task may log inside any critical section, and takes nothing else there. -/
def rank : Mutex → Nat
  | .logger => 1
  | _ => 0

theorem programs_above (kind : TaskKind) : (firmware.program kind).Above rank [] := by
  cases kind <;> decide

/-- The live tasks that wait for mutexes form no cycle, in any run. -/
theorem firmware_noWaitCycle (as : List (Step TaskKind)) :
    Always (step firmware) NoWaitCycle .boot as :=
  (always_of_invariant (inv_step programs_above) (inv_boot rank) as).mono fun _ => noWaitCycle

/-- **No lock is orphaned or waited for forever, exactly.** Throughout a run each mutex
is free or held by a live task and the waiting tasks form no cycle if and only if no
stop deletes a task that holds a mutex. -/
theorem mutexes_safe_iff (as : List (Step TaskKind)) :
    Always (step firmware) (fun s => NoOrphan s ∧ NoWaitCycle s) .boot as ↔
      Throughout (step firmware) KillsUnlocked .boot as :=
  safe_iff_killsUnlocked programs_above as

/-- `subscriber_stop` while the subscriber writes its first log line. -/
def stopWhileLogging : List (Step TaskKind) :=
  [.spawn .subscriber, .task 0 0, .task 0 1, .task 0 0, .kill 0]

/-- The logger mutex stays with a task that is gone. -/
theorem logger_orphaned_by_subscriberStop :
    ¬ ∀ as : List (Step TaskKind),
      Always (step firmware) (fun s => NoOrphan s ∧ NoWaitCycle s) .boot as := by
  intro hall
  have hno := ((hall stopWhileLogging).last rfl).1
  exact absurd (hno .logger 0 rfl) (by decide)

end XIoT.Mutexes
