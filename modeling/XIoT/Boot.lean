import XIoT.Mediator
import XIoT.WifiService
import XIoT.TagRuntime

/-!
# The boot

`setup` initializes all services and starts five of them, in a fixed order and up to the
first call that fails; `fault_handler` restarts the board or posts SYSTEM_FAULT, and `setup`
goes on. What the platform answers to the calls is arbitrary.
-/

namespace XIoT.App

open Mqtt (MqttVars SubscriberState)
open Services (Hosted AlertVars)

/-- The values of `esp_err_t` that `event_init` tells apart. -/
inductive EspErr where
  | ok
  | invalidState
  | other
  deriving DecidableEq, Repr

/-- What the platform answers to the calls of `setup`, in their order. -/
structure BootEnv where
  loggerMutexMade : Bool
  loopCreated : EspErr
  handlerRegistered : Bool
  alertQueueMade : Bool
  alertRegistered : Bool
  runtimeAllocated : Bool
  runtimeMutexMade : Bool
  modbusMutexMade : Bool
  dispatcherQueueMade : Bool
  responseQueueMade : Bool
  commandQueueMade : Bool
  wifiTimerMade : Bool
  wifiQueueMade : Bool
  transmitQueueMade : Bool
  initFaultAccepted : Bool
  alertTaskMade : Bool
  dispatcherTaskMade : Bool
  acquisitionTaskMade : Bool
  wifiTaskMade : Bool
  wifiStartSent : Bool
  nextionTaskMade : Bool
  startFaultAccepted : Bool

/-- The static variables of all services, as far as `setup` goes. -/
structure Board where
  loggerInitialized : Bool
  eventInitialized : Bool
  alert : Hosted AlertVars
  runtime : RuntimeStore
  modbusInitialized : Bool
  dispatcher : Hosted DispatcherState
  acquisition : Polling.Service
  publisher : Polling.Service
  subscriber : Hosted SubscriberState
  wifi : Wifi.WifiVars
  mqtt : MqttVars
  nextion : Polling.Service
  /-- The statuses `fault_handler` was called with, and the events in the queue of the loop. -/
  faults : List SysStatus
  events : List AppEvent
  restarted : Bool

def Board.reset : Board where
  loggerInitialized := false
  eventInitialized := false
  alert := .boot ⟨false, false⟩
  runtime := ⟨[], false⟩
  modbusInitialized := false
  dispatcher := .boot .deinitialized
  acquisition := .boot
  publisher := .boot
  subscriber := .boot .deinitialized
  wifi := .boot
  mqtt := .boot
  nextion := .boot
  faults := []
  events := []
  restarted := false

/-! ## The calls -/

def loggerInit (gInitialized mutexMade : Bool) : Bool × SysStatus :=
  if gInitialized then (gInitialized, .invalidState)
  else if !mutexMade then (false, .noMemory)
  else (true, .ok)

/-- `event_init`; a loop that exists already will do. -/
def eventInit (gInitialized : Bool) (err : EspErr) : Bool × SysStatus :=
  if gInitialized then (gInitialized, .invalidState)
  else if err ≠ .ok ∧ err ≠ .invalidState then (false, .fail)
  else (true, .ok)

def eventRegister (gInitialized registered : Bool) : SysStatus :=
  if !gInitialized then .invalidState else if registered then .ok else .fail

def modbusInit (gInitialized cfgGiven mutexMade : Bool) : Bool × SysStatus :=
  if gInitialized then (gInitialized, .invalidState)
  else if !cfgGiven then (gInitialized, .invalidParam)
  else if !mutexMade then (gInitialized, .noMemory)
  else (true, .ok)

namespace Board

/-- `event_post` of SYSTEM_FAULT; its status is not looked at. -/
def postFault (s : Board) (accepted : Bool) : Board :=
  if s.eventInitialized && accepted then { s with events := s.events ++ [.systemFault] } else s

/-- `fault_handler`; `esp_restart` does not return. -/
def faultHandler (s : Board) (status : SysStatus) (accepted : Bool) : Board :=
  let s := { s with faults := s.faults ++ [status] }
  match status with
  | .noMemory => { s with restarted := true }
  | .invalidState => s.postFault accepted
  | .invalidParam => s.postFault accepted
  | .fail => s.postFault accepted
  | _ => s

end Board

/-- `status = ...; if(status != SYS_OK) return status;` before the rest. -/
def andThen (r : Board × SysStatus) (rest : Board → Board × SysStatus) : Board × SysStatus :=
  if r.2 = .ok then rest r.1 else r

/-- The status of a call of a polling service. -/
def returned (s : Polling.Service) : SysStatus := s.returned.getD .ok

def appInit (reg : Registry) (env : BootEnv) (s : Board) : Board × SysStatus :=
  let r := loggerInit s.loggerInitialized env.loggerMutexMade
  andThen ({ s with loggerInitialized := r.1 }, r.2) fun s =>
  let r := eventInit s.eventInitialized env.loopCreated
  andThen ({ s with eventInitialized := r.1 }, r.2) fun s =>
  andThen (s, eventRegister s.eventInitialized env.handlerRegistered) fun s =>
  let r := Services.alertInit s.alert env.alertQueueMade
    (decide (eventRegister s.eventInitialized env.alertRegistered = .ok))
  andThen ({ s with alert := r.1 }, r.2) fun s =>
  let r := s.runtime.tagRuntimeInit reg env.runtimeAllocated env.runtimeMutexMade
  andThen ({ s with runtime := r.1 }, r.2) fun s =>
  let r := modbusInit s.modbusInitialized true env.modbusMutexMade
  andThen ({ s with modbusInitialized := r.1 }, r.2) fun s =>
  let r := Services.protocolDispatcherInit s.dispatcher env.dispatcherQueueMade
  andThen ({ s with dispatcher := r.1 }, r.2) fun s =>
  let r := Polling.pollingInit Polling.acquisition s.acquisition true env.responseQueueMade
  andThen ({ s with acquisition := r }, returned r) fun s =>
  let r := Polling.pollingInit Polling.publisher s.publisher true true
  andThen ({ s with publisher := r }, returned r) fun s =>
  let r := Services.subscriberInit s.subscriber env.commandQueueMade
  andThen ({ s with subscriber := r.1 }, r.2) fun s =>
  let r := Wifi.wifiInit s.wifi (some true) env.wifiTimerMade env.wifiQueueMade
  andThen ({ s with wifi := r.1 }, r.2) fun s =>
  let r := s.mqtt.mqttInit true env.transmitQueueMade
  andThen ({ s with mqtt := r }, r.returned.getD .ok) fun s =>
  let r := Polling.pollingInit Polling.nextion s.nextion true true
  andThen ({ s with nextion := r }, returned r) fun s => (s, .ok)

def appStart (env : BootEnv) (s : Board) : Board × SysStatus :=
  let r := Services.alertStart s.alert env.alertTaskMade
  andThen ({ s with alert := r.1 }, r.2) fun s =>
  let r := Services.protocolDispatcherStart s.dispatcher env.dispatcherTaskMade
  andThen ({ s with dispatcher := r.1 }, r.2) fun s =>
  let r := pollingStart Polling.acquisition s.acquisition env.acquisitionTaskMade
  andThen ({ s with acquisition := r }, returned r) fun s =>
  let r := Wifi.wifiStart s.wifi env.wifiTaskMade env.wifiStartSent
  andThen ({ s with wifi := r.1 }, r.2.2) fun s =>
  let r := pollingStart Polling.nextion s.nextion env.nextionTaskMade
  andThen ({ s with nextion := r }, returned r) fun s => (s, .ok)

/-- `if(status != SYS_OK) fault_handler(status);` -/
def handled (r : Board × SysStatus) (accepted : Bool) : Board :=
  if r.2 ≠ .ok then r.1.faultHandler r.2 accepted else r.1

def setup (reg : Registry) (env : BootEnv) : Board :=
  let s := handled (appInit reg env .reset) env.initFaultAccepted
  if s.restarted then s else handled (appStart env s) env.startFaultAccepted

/-! ## How it ends -/

/-- The five services that `app_start` starts, in its order, and whether they run. -/
def Board.running (s : Board) : List Bool :=
  [s.alert.vars.gRunning, s.dispatcher.vars = .running, s.acquisition.gState = .running,
    s.wifi.gWifiState = .running, s.nextion.gState = .running]

/-- How a boot ends. -/
inductive BootEnd where
  /-- Everything runs. -/
  | serving
  /-- The board is restarted. -/
  | exhausted
  /-- There are no alerts, and nothing is started. -/
  | dead
  /-- The Wi-Fi task was not told to start. -/
  | offline
  deriving DecidableEq, Repr

namespace BootEnv

/-- All that `app_init` allocates behind the handlers of the alert service. -/
def initMemory (env : BootEnv) : Bool :=
  env.runtimeAllocated && env.runtimeMutexMade && env.modbusMutexMade && env.dispatcherQueueMade &&
    env.responseQueueMade && env.commandQueueMade && env.wifiTimerMade && env.wifiQueueMade &&
      env.transmitQueueMade

/-- The tasks that `app_start` creates before the start message of the Wi-Fi service. -/
def startMemory (env : BootEnv) : Bool :=
  env.alertTaskMade && env.dispatcherTaskMade && env.acquisitionTaskMade && env.wifiTaskMade

/-- What decides on the status of `app_init`. -/
def initStatus (env : BootEnv) : SysStatus :=
  if !env.loggerMutexMade then .noMemory
  else if env.loopCreated = .other then .fail
  else if !env.handlerRegistered then .fail
  else if !env.alertQueueMade then .noMemory
  else if !env.alertRegistered then .fail
  else if !env.initMemory then .noMemory
  else .ok

/-- What decides on the status of `app_start` when `app_init` has succeeded. -/
def startStatus (env : BootEnv) : SysStatus :=
  if !env.startMemory then .noMemory
  else if !env.wifiStartSent then .fail
  else if !env.nextionTaskMade then .noMemory
  else .ok

def bootEnd (env : BootEnv) : BootEnd :=
  if env.initStatus = .noMemory then .exhausted
  else if env.initStatus = .fail then .dead
  else if env.startStatus = .noMemory then .exhausted
  else if env.startStatus = .fail then .offline
  else .serving

end BootEnv

/-- What the end of a boot leaves. -/
def BootEnd.Leaves : BootEnd → Board → Prop
  | .serving, s =>
    s.running = [true, true, true, true, true] ∧ s.faults = [] ∧ s.events = [] ∧ s.restarted = false
  | .exhausted, s => s.faults = [.noMemory] ∧ s.events = [] ∧ s.restarted = true
  | .dead, s =>
    s.running = [false, false, false, false, false] ∧ s.faults = [.fail, .invalidState] ∧
      s.restarted = false
  | .offline, s =>
    s.running = [true, true, true, false, false] ∧ s.faults = [.fail] ∧ s.restarted = false

/-! ## Initialization -/

/-- Nothing runs, and nothing has failed. -/
structure Fresh (s : Board) : Prop where
  running : s.running = [false, false, false, false, false]
  faults : s.faults = []
  events : s.events = []
  restarted : s.restarted = false

/-- After an `app_init` that has succeeded. -/
def Board.ready (reg : Registry) : Board where
  loggerInitialized := true
  eventInitialized := true
  alert := .boot ⟨true, false⟩
  runtime := .initial reg
  modbusInitialized := true
  dispatcher := .boot .initialized
  acquisition := { Polling.Service.boot with gState := .initialized, returned := some .ok }
  publisher := { Polling.Service.boot with gState := .initialized, returned := some .ok }
  subscriber := .boot .initialized
  wifi := { Wifi.WifiVars.boot with autoReconnect := true, gWifiState := .initialized }
  mqtt := { MqttVars.boot with gState := .initialized, returned := some .ok }
  nextion := { Polling.Service.boot with gState := .initialized, returned := some .ok }
  faults := []
  events := []
  restarted := false

/-- What `app_init` leaves, by its status. -/
structure Initialized (reg : Registry) (status : SysStatus) (r : Board × SysStatus) : Prop where
  returns : r.2 = status
  fresh : Fresh r.1
  ready : status = .ok → r.1 = Board.ready reg
  /-- The alert service is the last one whose init can fail without a lack of memory. -/
  noAlerts : status = .fail → r.1.alert.vars = ⟨false, false⟩

theorem appInit_ends (reg : Registry) (env : BootEnv) :
    Initialized reg env.initStatus (appInit reg env .reset) := by
  obtain ⟨loggerMutexMade, loopCreated, handlerRegistered, alertQueueMade, alertRegistered,
    runtimeAllocated, runtimeMutexMade, modbusMutexMade, dispatcherQueueMade, responseQueueMade,
    commandQueueMade, wifiTimerMade, wifiQueueMade, transmitQueueMade, -, -, -, -, -, -, -, -⟩ := env
  have exhausted : ∀ {r : Board × SysStatus}, r.2 = .noMemory → Fresh r.1 →
      Initialized reg .noMemory r := fun hstatus hfresh => ⟨hstatus, hfresh, nofun, nofun⟩
  have failed : ∀ {r : Board × SysStatus}, r.2 = .fail → Fresh r.1 →
      r.1.alert.vars = ⟨false, false⟩ → Initialized reg .fail r :=
    fun hstatus hfresh halert => ⟨hstatus, hfresh, nofun, fun _ => halert⟩
  -- the calls up to the handlers of the alert service, then the allocations behind them
  cases loggerMutexMade
  · exact exhausted rfl ⟨rfl, rfl, rfl, rfl⟩
  cases loopCreated
  case other => exact failed rfl ⟨rfl, rfl, rfl, rfl⟩ rfl
  all_goals
    cases handlerRegistered
    · exact failed rfl ⟨rfl, rfl, rfl, rfl⟩ rfl
    cases alertQueueMade
    · exact exhausted rfl ⟨rfl, rfl, rfl, rfl⟩
    cases alertRegistered
    · exact failed rfl ⟨rfl, rfl, rfl, rfl⟩ rfl
    cases runtimeAllocated
    · exact exhausted rfl ⟨rfl, rfl, rfl, rfl⟩
    cases runtimeMutexMade
    · exact exhausted rfl ⟨rfl, rfl, rfl, rfl⟩
    cases modbusMutexMade
    · exact exhausted rfl ⟨rfl, rfl, rfl, rfl⟩
    cases dispatcherQueueMade
    · exact exhausted rfl ⟨rfl, rfl, rfl, rfl⟩
    cases responseQueueMade
    · exact exhausted rfl ⟨rfl, rfl, rfl, rfl⟩
    cases commandQueueMade
    · exact exhausted rfl ⟨rfl, rfl, rfl, rfl⟩
    cases wifiTimerMade
    · exact exhausted rfl ⟨rfl, rfl, rfl, rfl⟩
    cases wifiQueueMade
    · exact exhausted rfl ⟨rfl, rfl, rfl, rfl⟩
    cases transmitQueueMade
    · exact exhausted rfl ⟨rfl, rfl, rfl, rfl⟩
    exact ⟨rfl, ⟨rfl, rfl, rfl, rfl⟩, fun _ => rfl, nofun⟩

/-! ## Start -/

/-- What `app_start` leaves of a board that is ready, by its status. -/
structure Started (status : SysStatus) (r : Board × SysStatus) : Prop where
  returns : r.2 = status
  faults : r.1.faults = []
  events : r.1.events = []
  restarted : r.1.restarted = false
  serving : status = .ok → r.1.running = [true, true, true, true, true]
  offline : status = .fail → r.1.running = [true, true, true, false, false]
  inOrder : ∃ n, r.1.running = List.replicate n true ++ List.replicate (5 - n) false

theorem appStart_ready (reg : Registry) (env : BootEnv) :
    Started env.startStatus (appStart env (.ready reg)) := by
  obtain ⟨-, -, -, -, -, -, -, -, -, -, -, -, -, -, -, alertTaskMade, dispatcherTaskMade,
    acquisitionTaskMade, wifiTaskMade, wifiStartSent, nextionTaskMade, -⟩ := env
  cases alertTaskMade
  · exact ⟨rfl, rfl, rfl, rfl, nofun, nofun, 0, rfl⟩
  cases dispatcherTaskMade
  · exact ⟨rfl, rfl, rfl, rfl, nofun, nofun, 1, rfl⟩
  cases acquisitionTaskMade
  · exact ⟨rfl, rfl, rfl, rfl, nofun, nofun, 2, rfl⟩
  cases wifiTaskMade
  · exact ⟨rfl, rfl, rfl, rfl, nofun, nofun, 3, rfl⟩
  cases wifiStartSent
  · exact ⟨rfl, rfl, rfl, rfl, nofun, fun _ => rfl, 3, rfl⟩
  cases nextionTaskMade
  · exact ⟨rfl, rfl, rfl, rfl, nofun, nofun, 4, rfl⟩
  · exact ⟨rfl, rfl, rfl, rfl, fun _ => rfl, nofun, 5, rfl⟩

/-- Without the alert service `app_start` gives up at once. -/
theorem appStart_noAlerts (env : BootEnv) {s : Board} (h : s.alert.vars = ⟨false, false⟩) :
    appStart env s = (s, .invalidState) := by
  have halert : Services.alertStart s.alert env.alertTaskMade = (s.alert, .invalidState) := by
    simp [Services.alertStart, Services.guardedStart, Services.alertGuards, h]
  simp [appStart, halert, andThen]

/-! ## Boot -/

theorem postFault_frame (s : Board) (accepted : Bool) :
    (s.postFault accepted).running = s.running ∧ (s.postFault accepted).faults = s.faults ∧
      (s.postFault accepted).restarted = s.restarted ∧
      (s.postFault accepted).alert = s.alert := by
  unfold Board.postFault
  split <;> exact ⟨rfl, rfl, rfl, rfl⟩

/-- What a boot leaves, whatever the platform answers. -/
structure BootsInOrder (env : BootEnv) (s : Board) : Prop where
  ends : env.bootEnd.Leaves s
  /-- The services that run are the first ones of `app_start`. -/
  inOrder : ∃ n, s.running = List.replicate n true ++ List.replicate (5 - n) false
  /-- A fault that is announced to the alert service finds no way out of the board. -/
  unheard : .systemFault ∈ s.events → s.wifi.gWifiState ≠ .running

/-- The fourth of the services is the Wi-Fi service. -/
theorem wifi_not_running {s : Board} {a b c e : Bool} (h : s.running = [a, b, c, false, e]) :
    s.wifi.gWifiState ≠ .running := by
  have hwifi : s.running[3]? = some false := by rw [h]; rfl
  intro hrunning
  rw [Board.running] at hwifi
  simp [hrunning] at hwifi

theorem initStatus_cases (env : BootEnv) :
    env.initStatus = .ok ∨ env.initStatus = .fail ∨ env.initStatus = .noMemory := by
  unfold BootEnv.initStatus
  split_ifs <;> simp

theorem startStatus_cases (env : BootEnv) :
    env.startStatus = .ok ∨ env.startStatus = .fail ∨ env.startStatus = .noMemory := by
  unfold BootEnv.startStatus
  split_ifs <;> simp

theorem handled_ok {r : Board × SysStatus} (h : r.2 = .ok) (accepted : Bool) :
    handled r accepted = r.1 := if_neg fun hne => hne h

theorem handled_noMemory {r : Board × SysStatus} (h : r.2 = .noMemory) (accepted : Bool) :
    handled r accepted = { r.1 with faults := r.1.faults ++ [.noMemory], restarted := true } := by
  rw [handled, h]
  rfl

theorem handled_fail {r : Board × SysStatus} (h : r.2 = .fail) (accepted : Bool) :
    handled r accepted = Board.postFault { r.1 with faults := r.1.faults ++ [.fail] } accepted := by
  rw [handled, h]
  rfl

theorem handled_invalidState {r : Board × SysStatus} (h : r.2 = .invalidState) (accepted : Bool) :
    handled r accepted =
      Board.postFault { r.1 with faults := r.1.faults ++ [.invalidState] } accepted := by
  rw [handled, h]
  rfl

/-- Memory ran out in `app_init`. -/
theorem boot_exhausted {reg : Registry} {env : BootEnv} (hstatus : env.initStatus = .noMemory) :
    BootsInOrder env (setup reg env) := by
  have hinit := appInit_ends reg env
  have hend : env.bootEnd = .exhausted := if_pos hstatus
  have hsetup : setup reg env = { (appInit reg env .reset).1 with
      faults := (appInit reg env .reset).1.faults ++ [.noMemory], restarted := true } := by
    rw [setup, handled_noMemory (hinit.returns.trans hstatus)]
    rfl
  rw [hsetup]
  refine ⟨?_, ⟨0, hinit.fresh.running⟩, fun hfault => ?_⟩
  · rw [hend]
    exact ⟨by rw [hinit.fresh.faults]; rfl, hinit.fresh.events, rfl⟩
  · have hfault : AppEvent.systemFault ∈ (appInit reg env .reset).1.events := hfault
    rw [hinit.fresh.events] at hfault
    cases hfault

/-- The event loop or the handlers could not be set up: `app_start` meets a service that is
not initialized. -/
theorem boot_dead {reg : Registry} {env : BootEnv} (hstatus : env.initStatus = .fail) :
    BootsInOrder env (setup reg env) := by
  have hinit := appInit_ends reg env
  have hend : env.bootEnd = .dead := by
    rw [BootEnv.bootEnd, hstatus]
    rfl
  have hhandled := handled_fail (hinit.returns.trans hstatus) env.initFaultAccepted
  generalize hs : handled (appInit reg env .reset) env.initFaultAccepted = s at hhandled
  obtain ⟨hrunning, hfaults, hrestarted, halert⟩ := postFault_frame
    { (appInit reg env .reset).1 with faults := (appInit reg env .reset).1.faults ++ [.fail] }
    env.initFaultAccepted
  rw [← hhandled] at hrunning hfaults hrestarted halert
  have hstart : appStart env s = (s, .invalidState) :=
    appStart_noAlerts env (by rw [halert]; exact hinit.noAlerts hstatus)
  have hsetup : setup reg env =
      Board.postFault { s with faults := s.faults ++ [.invalidState] } env.startFaultAccepted := by
    have hgoes : s.restarted = false := hrestarted.trans hinit.fresh.restarted
    have hcontinues : setup reg env = handled (appStart env s) env.startFaultAccepted := by
      unfold setup
      rw [hs]
      exact if_neg (by rw [hgoes]; decide)
    rw [hcontinues, hstart]
    exact handled_invalidState rfl _
  obtain ⟨hrunning', hfaults', hrestarted', -⟩ := postFault_frame
    { s with faults := s.faults ++ [.invalidState] } env.startFaultAccepted
  rw [← hsetup] at hrunning' hfaults' hrestarted'
  have hnone : (setup reg env).running = [false, false, false, false, false] :=
    hrunning'.trans (hrunning.trans hinit.fresh.running)
  refine ⟨?_, ⟨0, hnone⟩, fun _ => wifi_not_running hnone⟩
  rw [hend]
  refine ⟨hnone, ?_, hrestarted'.trans (hrestarted.trans hinit.fresh.restarted)⟩
  rw [hfaults']
  show s.faults ++ [.invalidState] = _
  rw [hfaults]
  show (appInit reg env .reset).1.faults ++ [.fail] ++ [.invalidState] = _
  rw [hinit.fresh.faults]
  rfl

/-- All was initialized. -/
theorem boot_started {reg : Registry} {env : BootEnv} (hstatus : env.initStatus = .ok) :
    BootsInOrder env (setup reg env) := by
  have hinit := appInit_ends reg env
  have hstart := appStart_ready reg env
  have hsetup : setup reg env = handled (appStart env (.ready reg)) env.startFaultAccepted := by
    rw [setup, handled_ok (hinit.returns.trans hstatus), hinit.ready hstatus]
    rfl
  rw [hsetup]
  obtain hok | hfail | hmemory := startStatus_cases env
  · have hend : env.bootEnd = .serving := by
      rw [BootEnv.bootEnd, hstatus, hok]
      rfl
    rw [handled_ok (hstart.returns.trans hok)]
    refine ⟨?_, hstart.inOrder, fun hfault => ?_⟩
    · rw [hend]
      exact ⟨hstart.serving hok, hstart.faults, hstart.events, hstart.restarted⟩
    · rw [hstart.events] at hfault
      cases hfault
  · have hend : env.bootEnd = .offline := by
      rw [BootEnv.bootEnd, hstatus, hfail]
      rfl
    obtain ⟨hrunning, hfaults, hrestarted, -⟩ := postFault_frame
      { (appStart env (.ready reg)).1 with faults := (appStart env (.ready reg)).1.faults ++ [.fail] }
      env.startFaultAccepted
    rw [handled_fail (hstart.returns.trans hfail)]
    have hoffline := hrunning.trans (hstart.offline hfail)
    refine ⟨?_, ⟨3, hoffline⟩, fun _ => wifi_not_running hoffline⟩
    rw [hend]
    refine ⟨hoffline, ?_, hrestarted.trans hstart.restarted⟩
    rw [hfaults, hstart.faults]
    rfl
  · have hend : env.bootEnd = .exhausted := by
      rw [BootEnv.bootEnd, hstatus, hmemory]
      rfl
    rw [handled_noMemory (hstart.returns.trans hmemory)]
    refine ⟨?_, hstart.inOrder, fun hfault => ?_⟩
    · rw [hend]
      exact ⟨by rw [hstart.faults]; rfl, hstart.events, rfl⟩
    · have hfault : AppEvent.systemFault ∈ (appStart env (.ready reg)).1.events := hfault
      rw [hstart.events] at hfault
      cases hfault

/-- **A boot ends in one of four ways**, decided by what the platform answers; the services
that run are the first ones of the start order, and where SYSTEM_FAULT is posted at boot
the Wi-Fi service does not run. -/
theorem boot_ends (reg : Registry) (env : BootEnv) : BootsInOrder env (setup reg env) := by
  obtain hok | hfail | hmemory := initStatus_cases env
  · exact boot_started hok
  · exact boot_dead hfail
  · exact boot_exhausted hmemory

end XIoT.App
