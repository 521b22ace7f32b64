import XIoT.ProtocolDispatcher
import XIoT.Lib.Trace

/-!
# The water softener core

`core.cpp`: the state machine that `core_task` evaluates every two seconds and
the two flags through which other tasks ask it to start or abort a regeneration.
A pass of the loop is a function of the module state and of what it samples; it
returns the calls of `event_post` and `send_modbus_command` it makes, in order.
-/

namespace XIoT.Core

/-- `ws_state_t`. -/
inductive WsState where
  | idle
  | monitoring
  | regenRequired
  | regenRunning
  | fault
  deriving DecidableEq, Repr

/-- The static variables of `core.cpp`. -/
structure CoreState where
  gState : WsState := .idle
  gTaskHandle : Option TaskHandle := none
  gInitialized : Bool := false
  gRegenPending : Bool := false
  gAbortPending : Bool := false
  gRegenStartTime : BitVec 32 := 0
  gRegenStopping : Bool := false
  deriving DecidableEq, Repr

/-- `20.0f` psi. -/
def minWaterPressure : Float32Bits := 0x41A00000

/-- `10.0f` percent. -/
def minSaltLevel : Float32Bits := 0x41200000

def maxRegenTimeMs : BitVec 32 := 120 * 1000

/-! ## Remote commands -/

/-- The critical section of `gCommandMutex` is one step. -/
def coreRequestRegen (s : CoreState) : CoreState × SysStatus :=
  if !s.gInitialized then (s, .invalidState)
  else ({ s with gRegenPending := true }, .ok)

def coreAbortRegen (s : CoreState) : CoreState × SysStatus :=
  if !s.gInitialized then (s, .invalidState)
  else ({ s with gAbortPending := true }, .ok)

/-- The request that `send_modbus_command` posts, none when the registry has no `cmd_regen`. -/
def modbusCommandRequest (reg : Registry) (state : Bool) : Option ProtocolRequest :=
  (reg.tagFindByName (some "cmd_regen")).map fun tag => ⟨some tag, .write, TagValue.zero.setBv state⟩

/-! ## One pass of the loop -/

/-- What a pass reads: the entries of tags 2, 3 and 6 (NULL when the store has no
such tag), the answer of `tag_runtime_lock`, and its two clock readings. -/
structure Sample where
  pressureTag : Option TagRuntime
  saltTag : Option TagRuntime
  regenStatTag : Option TagRuntime
  lock : SysStatus
  startMillis : BitVec 32
  timerMillis : BitVec 32
  deriving DecidableEq

/-- The local variables of the sampling block. -/
structure Sensors where
  currentPressure : Float32Bits := 0
  currentSalt : Float32Bits := 0
  isRegenerating : Bool := false
  processDataValid : Bool := false
  deriving DecidableEq

/-- The locals keep their defaults when the lock is refused or a tag is not valid. -/
def readSensors (lock : SysStatus) (pressure salt regenStat : TagRuntime) : Sensors :=
  if lock = .ok ∧ pressure.valid ∧ salt.valid ∧ regenStat.valid then
    { currentPressure := pressure.value.f32v
      currentSalt := salt.value.f32v
      isRegenerating := regenStat.value.bv
      processDataValid := true }
  else {}

/-- None is the `continue` on a NULL tag. -/
def Sample.sensors (smp : Sample) : Option Sensors :=
  match smp.pressureTag, smp.saltTag, smp.regenStatTag with
  | some pressure, some salt, some regenStat => some (readSensors smp.lock pressure salt regenStat)
  | _, _, _ => none

/-- A call of `event_post` or of `send_modbus_command`. -/
inductive CoreCall where
  | post (id : CoreEvent)
  | command (state : Bool)
  deriving DecidableEq, Repr

/-- A pass on its way through the loop body. -/
structure Pass where
  core : CoreState
  newState : WsState
  systemFault : Bool
  calls : List CoreCall

def Sensors.lowPressure (rd : Sensors) : Bool := rd.currentPressure.lt minWaterPressure

def Sensors.lowSalt (rd : Sensors) : Bool := rd.currentSalt.lt minSaltLevel

/-- Priority 4, entered from another state: note the start time. -/
def cycleStart (s : CoreState) (startMillis : BitVec 32) : CoreState × List CoreCall :=
  if s.gState ≠ .regenRunning then
    ({ s with gRegenStartTime := startMillis, gRegenStopping := false }, [.post .regenStarted])
  else (s, [])

/-- Priority 4: the STOP of an expired cycle, sent once. The subtraction wraps. -/
def cycleTimer (s : CoreState) (timerMillis : BitVec 32) : CoreState × List CoreCall :=
  if maxRegenTimeMs ≤ timerMillis - s.gRegenStartTime ∧ s.gRegenStopping = false then
    ({ s with gRegenStopping := true }, [.command false])
  else (s, [])

/-- The five priorities. -/
def evaluateState (s : CoreState) (smp : Sample) (rd : Sensors) : Pass :=
  if !rd.processDataValid then
    ⟨s, .idle, true, if s.gState ≠ .idle then [.post .faultDataLoss] else []⟩
  else if rd.lowPressure then
    ⟨s, .fault, true, if s.gState ≠ .fault then [.post .faultLowPressure] else []⟩
  else if rd.lowSalt then
    ⟨s, .fault, true, if s.gState ≠ .fault then [.post .faultLowSalt] else []⟩
  else if rd.isRegenerating then
    let started := cycleStart s smp.startMillis
    let timed := cycleTimer started.1 smp.timerMillis
    ⟨timed.1, .regenRunning, false, started.2 ++ timed.2⟩
  else ⟨s, .monitoring, false, []⟩

/-- The global exit transition. The two successful ends differ in their log line only. -/
def exitTransition (previousState : WsState) (p : Pass) : Pass :=
  if previousState = .regenRunning ∧ p.newState ≠ .regenRunning then
    let calls :=
      if p.systemFault then [.command false, .post .regenFailed]
      else if p.core.gRegenStopping then [.post .regenCompleted]
      else [.post .regenCompleted]
    { p with
      core := { p.core with gRegenStopping := false, gRegenStartTime := 0 }
      calls := p.calls ++ calls }
  else p

/-- The mid-cycle protection. Its guard repeats that of the exit transition. -/
def midCycleFaultProtection (previousState : WsState) (rd : Sensors) (p : Pass) : Pass :=
  if p.systemFault ∧ rd.isRegenerating ∧ p.newState ≠ .regenRunning ∧
      previousState = .regenRunning then
    { p with calls := p.calls ++ [.command false] }
  else p

def coreSetState (s : CoreState) (newState : WsState) : CoreState := { s with gState := newState }

/-- Take both pending flags, then act on the abort first. -/
def processCommands (rd : Sensors) (p : Pass) : Pass :=
  let calls :=
    if p.core.gAbortPending then
      if p.newState = .regenRunning then [.command false] else []
    else if p.core.gRegenPending then
      if !rd.processDataValid then []
      else if p.systemFault then []
      else if p.newState = .regenRunning then []
      else [.command true]
    else []
  { p with
    core := { p.core with gRegenPending := false, gAbortPending := false }
    calls := p.calls ++ calls }

/-- The body of the loop between the NULL test and the pending commands. -/
def evaluationPass (s : CoreState) (smp : Sample) (rd : Sensors) : Pass :=
  let evaluated := evaluateState s smp rd
  let left := exitTransition s.gState evaluated
  let guarded := midCycleFaultProtection s.gState rd left
  { guarded with core := coreSetState guarded.core guarded.newState }

/-- The body of the loop behind the NULL test. -/
def corePass (s : CoreState) (smp : Sample) (rd : Sensors) : Pass :=
  processCommands rd (evaluationPass s smp rd)

/-- One iteration of `core_task`. -/
def coreTask (s : CoreState) (smp : Sample) : CoreState × List CoreCall :=
  match smp.sensors with
  | some rd => ((corePass s smp rd).core, (corePass s smp rd).calls)
  | none => (s, [])

/-! ## Life cycle -/

/-- `core_init`; `created` tells whether the command mutex could be created. -/
def coreInit (s : CoreState) (created : Bool) : CoreState × SysStatus :=
  if s.gInitialized then (s, .invalidState)
  else if !created then (s, .noMemory)
  else
    ({ s with gState := .idle, gRegenStopping := false, gRegenStartTime := 0, gInitialized := true },
      .ok)

/-- `core_start`; `task` is the handle of the new task, if one could be created. -/
def coreStart (s : CoreState) (task : Option TaskHandle) : CoreState × SysStatus :=
  if !s.gInitialized then (s, .invalidState)
  else match task with
    | none => (s, .noMemory)
    | some handle => ({ s with gTaskHandle := some handle }, .ok)

/-- `core_stop`; the deleted task is the one of the handle. -/
def coreStop (s : CoreState) : CoreState × SysStatus :=
  ({ s with gTaskHandle := none, gState := .idle, gRegenStopping := false, gRegenStartTime := 0 },
    .ok)

/-! ## Runs -/

/-- A step of a run. A call that lands within a pass has the effect of one before
the pass (`evaluationPass_setFlags`), so that calls between iterations are enough. -/
inductive CoreStep where
  | request
  | abort
  | iterate (smp : Sample)
  deriving DecidableEq

def coreStep (s : CoreState) : CoreStep → CoreState × List CoreCall
  | .request => ((coreRequestRegen s).1, [])
  | .abort => ((coreAbortRegen s).1, [])
  | .iterate smp => coreTask s smp

/-- The state `core_init` leaves. -/
def coreBoot : CoreState := (coreInit {} true).1

abbrev CoreRecord := Lib.Trace.Record CoreState CoreStep CoreCall

def coreTrace (as : List CoreStep) : List CoreRecord := Lib.Trace.trace coreStep coreBoot as

def coreFinal (as : List CoreStep) : CoreState := Lib.Trace.final coreStep coreBoot as

def coreOutput (as : List CoreStep) : List CoreCall := Lib.Trace.output coreStep coreBoot as

/-- A record of a run belongs to the state in which the steps before it end. -/
theorem coreTrace_split {as : List CoreStep} {h t : List CoreRecord} {r : CoreRecord}
    (he : coreTrace as = h ++ r :: t) :
    ∃ before a, h = coreTrace before ∧ r = Lib.Trace.record coreStep (coreFinal before) a := by
  obtain ⟨before, a, after, -, hh, hr, -⟩ := Lib.Trace.trace_split coreStep he
  exact ⟨before, a, hh, hr⟩

end XIoT.Core
