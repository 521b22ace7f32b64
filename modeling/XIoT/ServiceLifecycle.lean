import XIoT.Core
import XIoT.SubscribeOnConnect
import XIoT.Lib.TaskPool
import Mathlib.Logic.Function.Basic

/-!
# Services that delete their task

The dispatcher, the subscriber, the alert service and the core create their task in
`*_start` and delete it in `*_stop`. The first three start only what is not running; the
core starts whenever it is initialized.
-/

namespace XIoT.Services

open Lib.TaskPool Lib.Runs
open Mqtt (SubscriberState)

/-! ## The guarded services -/

/-- The static variables of a service and the tasks it has created that are alive. -/
structure Hosted (σ : Type) where
  vars : σ
  gTaskHandle : Option TaskHandle
  tasks : Pool Unit

def Hosted.boot {σ : Type} (vars : σ) : Hosted σ := ⟨vars, none, .empty⟩

/-- The guards of `*_start` and `*_stop` and what they write; none may be started while
it may be stopped. -/
structure Guards (σ : Type) where
  mayStart : σ → Bool
  started : σ → σ
  mayStop : σ → Bool
  stopped : σ → σ
  exclusive : ∀ v, mayStart v = true → mayStop v = false
  mayStop_started : ∀ v, mayStop (started v) = true
  mayStop_stopped : ∀ v, mayStop (stopped v) = false

section

variable {σ : Type} (g : Guards σ)

def guardedStart (s : Hosted σ) (taskMade : Bool) : Hosted σ × SysStatus :=
  if !g.mayStart s.vars then (s, .invalidState)
  else if !taskMade then (s, .noMemory)
  else (⟨g.started s.vars, some s.tasks.next, s.tasks.spawn ()⟩, .ok)

def guardedStop (s : Hosted σ) : Hosted σ × SysStatus :=
  if !g.mayStop s.vars then (s, .invalidState)
  else (⟨g.stopped s.vars, none, s.tasks.deleteSome s.gTaskHandle⟩, .ok)

end

/-! ### The protocol dispatcher -/

def dispatcherGuards : Guards DispatcherState where
  mayStart v := v = .initialized || v = .stopped
  started _ := .running
  mayStop v := v = .running
  stopped _ := .stopped
  exclusive v := by cases v <;> simp
  mayStop_started _ := rfl
  mayStop_stopped _ := rfl

/-- `protocol_dispatcher_init`; the queue it creates does not matter here. -/
def protocolDispatcherInit (s : Hosted DispatcherState) (queueMade : Bool) :
    Hosted DispatcherState × SysStatus :=
  if s.vars ≠ .deinitialized then (s, .invalidState)
  else if !queueMade then (s, .noMemory)
  else ({ s with vars := .initialized }, .ok)

def protocolDispatcherStart (s : Hosted DispatcherState) (taskMade : Bool) :=
  guardedStart dispatcherGuards s taskMade

def protocolDispatcherStop (s : Hosted DispatcherState) := guardedStop dispatcherGuards s

/-! ### The subscriber -/

def subscriberGuards : Guards SubscriberState where
  mayStart v := v = .initialized || v = .stopped
  started _ := .running
  mayStop v := v = .running
  stopped _ := .stopped
  exclusive v := by cases v <;> simp
  mayStop_started _ := rfl
  mayStop_stopped _ := rfl

def subscriberInit (s : Hosted SubscriberState) (queueMade : Bool) :
    Hosted SubscriberState × SysStatus :=
  if s.vars ≠ .deinitialized then (s, .invalidState)
  else if !queueMade then (s, .noMemory)
  else ({ s with vars := .initialized }, .ok)

def subscriberStart (s : Hosted SubscriberState) (taskMade : Bool) :=
  guardedStart subscriberGuards s taskMade

def subscriberStop (s : Hosted SubscriberState) := guardedStop subscriberGuards s

/-! ### The alert service -/

structure AlertVars where
  gInitialized : Bool
  gRunning : Bool
  deriving DecidableEq, Repr

def alertGuards : Guards AlertVars where
  mayStart v := v.gInitialized && !v.gRunning
  started v := { v with gRunning := true }
  mayStop v := v.gRunning
  stopped v := { v with gRunning := false }
  exclusive v := by simp
  mayStop_started _ := rfl
  mayStop_stopped _ := rfl

/-- `alert_init`; `registered` tells whether both handlers could be registered. The queue
is deleted again when they could not. -/
def alertInit (s : Hosted AlertVars) (queueMade registered : Bool) : Hosted AlertVars × SysStatus :=
  if s.vars.gInitialized then (s, .invalidState)
  else if !queueMade then (s, .noMemory)
  else if !registered then (s, .fail)
  else ({ s with vars := { s.vars with gInitialized := true } }, .ok)

def alertStart (s : Hosted AlertVars) (taskMade : Bool) := guardedStart alertGuards s taskMade

def alertStop (s : Hosted AlertVars) := guardedStop alertGuards s

/-! ## The core -/

/-- The core with its tasks; its handle is among its variables. -/
structure HostedCore where
  core : Core.CoreState
  tasks : Pool Unit

def HostedCore.boot : HostedCore := ⟨{}, .empty⟩

def HostedCore.init (s : HostedCore) (mutexMade : Bool) : HostedCore × SysStatus :=
  let r := Core.coreInit s.core mutexMade
  ({ s with core := r.1 }, r.2)

/-- `core_start`: past its guard it creates a task, if one can be created. -/
def HostedCore.start (s : HostedCore) (taskMade : Bool) : HostedCore × SysStatus :=
  let r := Core.coreStart s.core (if taskMade then some s.tasks.next else none)
  (⟨r.1, if s.core.gInitialized && taskMade then s.tasks.spawn () else s.tasks⟩, r.2)

/-- `core_stop`: it deletes the task of its handle. -/
def HostedCore.stop (s : HostedCore) : HostedCore × SysStatus :=
  let r := Core.coreStop s.core
  (⟨r.1, s.tasks.deleteSome s.core.gTaskHandle⟩, r.2)

/-! ## All four -/

inductive ServiceId where
  | protocolDispatcher
  | subscriber
  | alert
  | core
  deriving DecidableEq, Repr

structure Firmware where
  dispatcher : Hosted DispatcherState
  subscriber : Hosted SubscriberState
  alert : Hosted AlertVars
  core : HostedCore
  /-- A start returned `SYS_OK` and no stop has since. -/
  started : ServiceId → Bool

def Firmware.boot : Firmware :=
  ⟨.boot .deinitialized, .boot .deinitialized, .boot ⟨false, false⟩, .boot, fun _ => false⟩

def Firmware.tasks (s : Firmware) : ServiceId → Pool Unit
  | .protocolDispatcher => s.dispatcher.tasks
  | .subscriber => s.subscriber.tasks
  | .alert => s.alert.tasks
  | .core => s.core.tasks

/-- The `started` of a service after a start or a stop that returned `status`. -/
def noteCall (id : ServiceId) (start : Bool) (status : SysStatus) (started : ServiceId → Bool) :
    ServiceId → Bool :=
  if status = .ok then Function.update started id start else started

inductive ServiceStep where
  | protocolDispatcherInit (queueMade : Bool)
  | protocolDispatcherStart (taskMade : Bool)
  | protocolDispatcherStop
  | subscriberInit (queueMade : Bool)
  | subscriberStart (taskMade : Bool)
  | subscriberStop
  | alertInit (queueMade registered : Bool)
  | alertStart (taskMade : Bool)
  | alertStop
  | coreInit (mutexMade : Bool)
  | coreStart (taskMade : Bool)
  | coreStop
  deriving DecidableEq, Repr

def serviceCall (s : Firmware) : ServiceStep → Firmware
  | .protocolDispatcherInit queueMade =>
    { s with dispatcher := (protocolDispatcherInit s.dispatcher queueMade).1 }
  | .protocolDispatcherStart taskMade =>
    let r := protocolDispatcherStart s.dispatcher taskMade
    { s with
      dispatcher := r.1, started := noteCall .protocolDispatcher true r.2 s.started }
  | .protocolDispatcherStop =>
    let r := protocolDispatcherStop s.dispatcher
    { s with
      dispatcher := r.1, started := noteCall .protocolDispatcher false r.2 s.started }
  | .subscriberInit queueMade =>
    { s with subscriber := (subscriberInit s.subscriber queueMade).1 }
  | .subscriberStart taskMade =>
    let r := subscriberStart s.subscriber taskMade
    { s with subscriber := r.1, started := noteCall .subscriber true r.2 s.started }
  | .subscriberStop =>
    let r := subscriberStop s.subscriber
    { s with subscriber := r.1, started := noteCall .subscriber false r.2 s.started }
  | .alertInit queueMade registered =>
    { s with alert := (alertInit s.alert queueMade registered).1 }
  | .alertStart taskMade =>
    let r := alertStart s.alert taskMade
    { s with alert := r.1, started := noteCall .alert true r.2 s.started }
  | .alertStop =>
    let r := alertStop s.alert
    { s with alert := r.1, started := noteCall .alert false r.2 s.started }
  | .coreInit mutexMade => { s with core := (s.core.init mutexMade).1 }
  | .coreStart taskMade =>
    let r := s.core.start taskMade
    { s with core := r.1, started := noteCall .core true r.2 s.started }
  | .coreStop =>
    let r := s.core.stop
    { s with core := r.1, started := noteCall .core false r.2 s.started }

def serviceStep (s : Firmware) (a : ServiceStep) : Option Firmware := some (serviceCall s a)

/-- No service has two live tasks, and each has one exactly while it is started. -/
def RunsOneTask (s : Firmware) : Prop :=
  ∀ id, (∀ h k, (s.tasks id).Alive h → (s.tasks id).Alive k → h = k) ∧
    ((∃ h, (s.tasks id).Alive h) ↔ s.started id = true)

/-- No task is created for a core that has one. -/
def NoSecondCore (s : Firmware) : ServiceStep → Prop
  | .coreStart taskMade =>
    s.core.core.gInitialized = true → taskMade = true → ¬ ∃ h, s.core.tasks.Alive h
  | _ => True

/-! ## One call -/

theorem noteCall_ok (id : ServiceId) (start : Bool) (started : ServiceId → Bool) :
    noteCall id start .ok started id = start := by
  rw [noteCall, if_pos rfl, Function.update_self]

theorem noteCall_of_ne {id id' : ServiceId} (hne : id' ≠ id) (start : Bool) (status : SysStatus)
    (started : ServiceId → Bool) : noteCall id start status started id' = started id' := by
  unfold noteCall
  split
  · exact Function.update_of_ne hne _ _
  · rfl

/-- What the invariant says of a guarded service. -/
structure InStep {σ : Type} (g : Guards σ) (s : Hosted σ) (started : Bool) : Prop where
  sole : s.tasks.SoleTask s.gTaskHandle (started = true)
  mayStop : g.mayStop s.vars = started

section

variable {σ : Type} {g : Guards σ} {s : Hosted σ} {started : ServiceId → Bool} {id : ServiceId}

/-- A start of a guarded service, and the note that is taken of it. -/
theorem InStep.guardedStart (hs : InStep g s (started id)) (taskMade : Bool) :
    InStep g (guardedStart g s taskMade).1
      (noteCall id true (guardedStart g s taskMade).2 started id) := by
  unfold Services.guardedStart
  by_cases hstart : g.mayStart s.vars = true
  · cases taskMade with
    | false =>
      rw [hstart]
      exact hs
    | true =>
      rw [hstart]
      have hrest : started id = false := hs.mayStop ▸ g.exclusive s.vars hstart
      change InStep g ⟨g.started s.vars, some s.tasks.next, s.tasks.spawn ()⟩
        (noteCall id true .ok started id)
      rw [noteCall_ok]
      refine ⟨hs.sole.spawn ?_ rfl (), g.mayStop_started s.vars⟩
      rw [hrest]
      exact Bool.false_ne_true
  · rw [Bool.not_eq_true] at hstart
    rw [hstart]
    exact hs

theorem InStep.guardedStop (hs : InStep g s (started id)) :
    InStep g (guardedStop g s).1 (noteCall id false (guardedStop g s).2 started id) := by
  unfold Services.guardedStop
  by_cases hstop : g.mayStop s.vars = true
  · rw [hstop]
    change InStep g ⟨g.stopped s.vars, none, s.tasks.deleteSome s.gTaskHandle⟩
      (noteCall id false .ok started id)
    rw [noteCall_ok]
    exact ⟨hs.sole.deleteSome Bool.false_ne_true none, g.mayStop_stopped s.vars⟩
  · rw [Bool.not_eq_true] at hstop
    rw [hstop]
    exact hs

/-- An init that has taken the service from one state at rest to another. -/
theorem InStep.init (hs : InStep g s (started id)) {vars : σ}
    (hrest : g.mayStop vars = g.mayStop s.vars) : InStep g { s with vars := vars } (started id) :=
  ⟨hs.sole, hrest.trans hs.mayStop⟩

/-- A call of another service is nothing to this one. -/
theorem sole_of_note {p : Pool Unit} {handle : Option TaskHandle} {id' : ServiceId} {start : Bool}
    {status : SysStatus} (hne : id' ≠ id) (h : p.SoleTask handle (started id' = true)) :
    p.SoleTask handle (noteCall id start status started id' = true) := by
  rw [noteCall_of_ne hne]
  exact h

theorem InStep.of_note {id' : ServiceId} {start : Bool} {status : SysStatus} (hne : id' ≠ id)
    (h : InStep g s (started id')) : InStep g s (noteCall id start status started id') :=
  ⟨sole_of_note hne h.sole, h.mayStop.trans (noteCall_of_ne hne start status started).symm⟩

end

/-- `core_start` of a core without a task. -/
theorem HostedCore.start_sole {s : HostedCore} {started : ServiceId → Bool} {taskMade : Bool}
    (hs : s.tasks.SoleTask s.core.gTaskHandle (started .core = true))
    (hc : s.core.gInitialized = true → taskMade = true → ¬ ∃ h, s.tasks.Alive h) :
    (s.start taskMade).1.tasks.SoleTask (s.start taskMade).1.core.gTaskHandle
      (noteCall .core true (s.start taskMade).2 started .core = true) := by
  unfold HostedCore.start Core.coreStart
  by_cases hinit : s.core.gInitialized = true
  · rw [hinit]
    cases taskMade with
    | false => exact hs
    | true =>
      exact hs.spawn (mt hs.running_iff.mp (hc hinit rfl)) (noteCall_ok .core true started) ()
  · rw [Bool.not_eq_true] at hinit
    rw [hinit]
    exact hs

theorem HostedCore.stop_sole {s : HostedCore} {started : ServiceId → Bool}
    (hs : s.tasks.SoleTask s.core.gTaskHandle (started .core = true)) :
    s.stop.1.tasks.SoleTask s.stop.1.core.gTaskHandle
      (noteCall .core false s.stop.2 started .core = true) := by
  refine hs.deleteSome ?_ none
  change ¬ noteCall .core false .ok started .core = true
  rw [noteCall_ok]
  exact Bool.false_ne_true

theorem HostedCore.init_handle (s : HostedCore) (mutexMade : Bool) :
    (s.init mutexMade).1.core.gTaskHandle = s.core.gTaskHandle := by
  unfold HostedCore.init Core.coreInit
  split_ifs <;> rfl

/-! ## All calls -/

structure FirmwareInv (s : Firmware) : Prop where
  dispatcher : InStep dispatcherGuards s.dispatcher (s.started .protocolDispatcher)
  subscriber : InStep subscriberGuards s.subscriber (s.started .subscriber)
  alert : InStep alertGuards s.alert (s.started .alert)
  core : s.core.tasks.SoleTask s.core.core.gTaskHandle (s.started .core = true)

theorem firmwareInv_boot : FirmwareInv .boot where
  dispatcher := ⟨.empty Bool.false_ne_true, rfl⟩
  subscriber := ⟨.empty Bool.false_ne_true, rfl⟩
  alert := ⟨.empty Bool.false_ne_true, rfl⟩
  core := .empty Bool.false_ne_true

theorem FirmwareInv.runsOneTask {s : Firmware} (hs : FirmwareInv s) : RunsOneTask s := by
  intro id
  cases id with
  | protocolDispatcher =>
    exact ⟨fun _ _ => hs.dispatcher.sole.unique, hs.dispatcher.sole.running_iff.symm⟩
  | subscriber => exact ⟨fun _ _ => hs.subscriber.sole.unique, hs.subscriber.sole.running_iff.symm⟩
  | alert => exact ⟨fun _ _ => hs.alert.sole.unique, hs.alert.sole.running_iff.symm⟩
  | core => exact ⟨fun _ _ => hs.core.unique, hs.core.running_iff.symm⟩

namespace FirmwareInv

variable {s : Firmware} (hs : FirmwareInv s) {start : Bool} {status : SysStatus}

include hs

theorem noteDispatcher {d : Hosted DispatcherState}
    (hd : InStep dispatcherGuards d
      (noteCall .protocolDispatcher start status s.started .protocolDispatcher)) :
    FirmwareInv { s with
      dispatcher := d, started := noteCall .protocolDispatcher start status s.started } :=
  ⟨hd, .of_note (by decide) hs.subscriber, .of_note (by decide) hs.alert,
    sole_of_note (by decide) hs.core⟩

theorem noteSubscriber {d : Hosted SubscriberState}
    (hd : InStep subscriberGuards d (noteCall .subscriber start status s.started .subscriber)) :
    FirmwareInv { s with
      subscriber := d, started := noteCall .subscriber start status s.started } :=
  ⟨.of_note (by decide) hs.dispatcher, hd, .of_note (by decide) hs.alert,
    sole_of_note (by decide) hs.core⟩

theorem noteAlert {d : Hosted AlertVars}
    (hd : InStep alertGuards d (noteCall .alert start status s.started .alert)) :
    FirmwareInv { s with alert := d, started := noteCall .alert start status s.started } :=
  ⟨.of_note (by decide) hs.dispatcher, .of_note (by decide) hs.subscriber, hd,
    sole_of_note (by decide) hs.core⟩

theorem noteCore {c : HostedCore}
    (hc : c.tasks.SoleTask c.core.gTaskHandle
      (noteCall .core start status s.started .core = true)) :
    FirmwareInv { s with core := c, started := noteCall .core start status s.started } :=
  ⟨.of_note (by decide) hs.dispatcher, .of_note (by decide) hs.subscriber,
    .of_note (by decide) hs.alert, hc⟩

end FirmwareInv

theorem firmwareInv_serviceStep (s : Firmware) (a : ServiceStep) (s' : Firmware)
    (hs : FirmwareInv s) (hc : NoSecondCore s a) (ha : serviceStep s a = some s') :
    FirmwareInv s' := by
  obtain rfl := Option.some.inj ha
  clear ha
  cases a with
  | protocolDispatcherInit queueMade =>
    refine ⟨?_, hs.subscriber, hs.alert, hs.core⟩
    change InStep dispatcherGuards (protocolDispatcherInit s.dispatcher queueMade).1
      (s.started .protocolDispatcher)
    unfold protocolDispatcherInit
    split_ifs with hstate
    · exact hs.dispatcher
    · exact hs.dispatcher
    · rw [not_not] at hstate
      exact hs.dispatcher.init (by rw [hstate]; rfl)
  | protocolDispatcherStart taskMade => exact hs.noteDispatcher (hs.dispatcher.guardedStart taskMade)
  | protocolDispatcherStop => exact hs.noteDispatcher hs.dispatcher.guardedStop
  | subscriberInit queueMade =>
    refine ⟨hs.dispatcher, ?_, hs.alert, hs.core⟩
    change InStep subscriberGuards (subscriberInit s.subscriber queueMade).1 (s.started .subscriber)
    unfold subscriberInit
    split_ifs with hstate
    · exact hs.subscriber
    · exact hs.subscriber
    · rw [not_not] at hstate
      exact hs.subscriber.init (by rw [hstate]; rfl)
  | subscriberStart taskMade => exact hs.noteSubscriber (hs.subscriber.guardedStart taskMade)
  | subscriberStop => exact hs.noteSubscriber hs.subscriber.guardedStop
  | alertInit queueMade registered =>
    refine ⟨hs.dispatcher, hs.subscriber, ?_, hs.core⟩
    change InStep alertGuards (alertInit s.alert queueMade registered).1 (s.started .alert)
    unfold alertInit
    split_ifs
    · exact hs.alert
    · exact hs.alert
    · exact hs.alert
    · exact hs.alert.init rfl
  | alertStart taskMade => exact hs.noteAlert (hs.alert.guardedStart taskMade)
  | alertStop => exact hs.noteAlert hs.alert.guardedStop
  | coreInit mutexMade =>
    refine ⟨hs.dispatcher, hs.subscriber, hs.alert, ?_⟩
    change s.core.tasks.SoleTask (s.core.init mutexMade).1.core.gTaskHandle _
    rw [HostedCore.init_handle]
    exact hs.core
  | coreStart taskMade => exact hs.noteCore (HostedCore.start_sole hs.core hc)
  | coreStop => exact hs.noteCore (HostedCore.stop_sole hs.core)

/-- A second start of the core leaves two tasks alive. -/
theorem not_runsOneTask_of_second (s : Firmware) (a : ServiceStep) (s' : Firmware)
    (_ : FirmwareInv s) (hc : ¬ NoSecondCore s a) (ha : serviceStep s a = some s') :
    ¬ RunsOneTask s' := by
  obtain rfl := Option.some.inj ha
  clear ha
  intro hone
  cases a with
  | coreStart taskMade =>
    simp only [NoSecondCore, Classical.not_imp, not_not] at hc
    obtain ⟨hinit, rfl, h, hh⟩ := hc
    have htasks : (s.core.start true).1.tasks = s.core.tasks.spawn () := by
      unfold HostedCore.start
      rw [hinit]
      rfl
    have hsame := (hone .core).1 h s.core.tasks.next
    change (s.core.start true).1.tasks.Alive h → (s.core.start true).1.tasks.Alive _ → _ at hsame
    rw [htasks, Pool.alive_spawn, Pool.alive_spawn] at hsame
    obtain rfl := hsame (Or.inr hh) (Or.inl rfl)
    exact Pool.not_alive_next s.core.tasks hh
  | _ => exact hc trivial

/-- **Running means exactly one task, exactly** in the runs that never start a core that has
a task. -/
theorem runs_one_task_iff (as : List ServiceStep) :
    Always serviceStep RunsOneTask .boot as ↔ Throughout serviceStep NoSecondCore .boot as :=
  always_iff_throughout (fun _ hs => hs.runsOneTask) firmwareInv_serviceStep
    not_runsOneTask_of_second firmwareInv_boot as

/-- The core is started twice. -/
theorem two_cores_after_second_start :
    ¬ ∀ as : List ServiceStep, Always serviceStep RunsOneTask .boot as := by
  intro hall
  have hlast := (hall [.coreInit true, .coreStart true, .coreStart true]).last rfl
  have hsame := (hlast .core).1 0 1 (by decide) (by decide)
  cases hsame

end XIoT.Services
