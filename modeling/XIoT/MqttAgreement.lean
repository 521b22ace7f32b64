import XIoT.MqttService
import XIoT.Lib.Runs

/-!
# The MQTT state and the client

What the state tells about the transmit task and about the latest callback, when
neither a call nor a callback is in progress.
-/

namespace XIoT.Mqtt

open Lib.TaskPool Lib.Runs

/-- The state agrees with the task and the client whenever nothing is in progress. -/
def Agrees (s : MqttVars) : Prop :=
  s.loop = .idle → s.client = .idle →
    (s.gState = .running ∨ s.gState = .connecting → s.HasTask) ∧
    (s.latest = some .onConnect → s.stopCalled = false → s.gState = .running)

/-- A callback writes the state only while the transmit task is alive, or before the
STOPPED of the `mqtt_stop` that has just deleted it; and `mqtt_start` does not
overwrite RUNNING. -/
def WritesInOrder (s : MqttVars) : MqttStep → Prop
  | .client => s.client = .connectSet ∨ s.client = .disconnectSet → s.HasTask ∨ s.loop = .stopSet
  | .loop _ => s.loop = .startSet → s.gState ≠ .running
  | _ => True

/-! ## The invariant -/

/-- `mqtt_start` has created its task. -/
def LoopPc.isStarting : LoopPc → Bool
  | .startConnect => true
  | .startSet => true
  | _ => false

def LoopPc.isStopping : LoopPc → Bool
  | .stopRead => true
  | .stopDelete => true
  | .stopSet => true
  | .stopDisconnect => true
  | _ => false

def ClientPc.isDisconnecting : ClientPc → Bool
  | .disconnectRead => true
  | .disconnectSet => true
  | _ => false

structure Inv (s : MqttVars) : Prop where
  task : s.gState = .running ∨ s.gState = .connecting → s.HasTask ∨ s.loop = .stopSet
  starting : s.loop.isStarting = true → s.HasTask
  stopping : s.loop.isStopping = true → s.stopCalled = true
  connected : s.latest = some .onConnect → s.stopCalled = false →
    s.gState = .running ∨ s.client = .connectSet
  disconnecting : s.client.isDisconnecting = true → s.latest ≠ some .onConnect

theorem inv_boot : Inv .boot where
  task := by rintro (h | h) <;> cases h
  starting := nofun
  stopping := nofun
  connected := nofun
  disconnecting := nofun

theorem Inv.agrees {s : MqttVars} (h : Inv s) : Agrees s := by
  intro hloop hclient
  refine ⟨fun hstate => ?_, fun hlatest hstop => ?_⟩
  · rcases h.task hstate with htask | hset
    · exact htask
    · rw [hloop] at hset
      cases hset
  · rcases h.connected hlatest hstop with hrunning | hset
    · exact hrunning
    · rw [hclient] at hset
      cases hset

/-- A step that only moves on to another point of the call. -/
theorem Inv.goto {s : MqttVars} (h : Inv s) (hloop : s.loop ≠ .stopSet) (pc : LoopPc)
    (hstart : pc.isStarting = true → s.HasTask) (hstop : pc.isStopping = true → s.stopCalled = true) :
    Inv { s with loop := pc } where
  task hstate := Or.inl ((h.task hstate).resolve_right hloop)
  starting := hstart
  stopping := hstop
  connected := h.connected
  disconnecting := h.disconnecting

theorem hasTask_spawn (s : MqttVars) : ∃ h, (s.tasks.spawn ()).Alive h :=
  ⟨s.tasks.next, Pool.alive_spawn.mpr (Or.inl rfl)⟩

/-- A return from a call that wrote nothing. -/
theorem Inv.return_ {s : MqttVars} (h : Inv s) (hloop : s.loop ≠ .stopSet) (status : SysStatus) :
    Inv (s.return_ status) :=
  have hmoved := h.goto hloop .idle nofun nofun
  ⟨hmoved.task, hmoved.starting, hmoved.stopping, hmoved.connected, hmoved.disconnecting⟩

theorem Inv.mqttInit {s : MqttVars} (h : Inv s) (hloop : s.loop = .idle) (cfgGiven queueMade : Bool) :
    Inv (s.mqttInit cfgGiven queueMade) := by
  have hset : s.loop ≠ .stopSet := by rw [hloop]; decide
  unfold MqttVars.mqttInit
  split
  · exact h.return_ hset _
  · next hstate =>
    split
    · exact h.return_ hset _
    · split
      · exact h.return_ hset _
      · have hdeinit : s.gState = .deinitialized := not_not.mp hstate
        refine ⟨(by rintro (h | h) <;> cases h), nofun, nofun, fun hlatest hstop => ?_, h.disconnecting⟩
        rcases h.connected hlatest hstop with hrunning | hclient
        · rw [hdeinit] at hrunning
          cases hrunning
        · exact Or.inr hclient

theorem Inv.networkUp {s : MqttVars} (h : Inv s) (hloop : s.loop = .idle) :
    Inv { s with loop := .startRead } :=
  h.goto (by rw [hloop]; decide) .startRead nofun nofun

theorem Inv.networkDown {s : MqttVars} (h : Inv s) (hloop : s.loop = .idle) :
    Inv s.networkDown := by
  unfold MqttVars.networkDown
  split
  · refine ⟨fun hstate => ?_, nofun, fun _ => rfl, nofun, h.disconnecting⟩
    rcases h.task hstate with htask | hset
    · exact Or.inl htask
    · rw [hloop] at hset
      cases hset
  · exact h

theorem inv_loopStep {s s' : MqttVars} {created : Bool} (h : Inv s)
    (hset : s.loop = .startSet → s.gState ≠ .running) (ha : s.loopStep created = some s') :
    Inv s' := by
  unfold MqttVars.loopStep at ha
  split at ha
  · cases ha
  · next hloop =>
    have hne : s.loop ≠ .stopSet := by rw [hloop]; decide
    split at ha
    · obtain rfl := Option.some.inj ha
      exact h.return_ hne _
    · obtain rfl := Option.some.inj ha
      exact h.goto hne .startCreate nofun nofun
  · next hloop =>
    have hne : s.loop ≠ .stopSet := by rw [hloop]; decide
    split at ha
    · obtain rfl := Option.some.inj ha
      exact h.return_ hne _
    · obtain rfl := Option.some.inj ha
      exact ⟨fun _ => Or.inl (hasTask_spawn s), fun _ => hasTask_spawn s,
        nofun, nofun, fun _ => nofun⟩
  · next hloop =>
    obtain rfl := Option.some.inj ha
    have htask : s.HasTask := h.starting (by rw [hloop]; rfl)
    have hmoved := h.goto (by rw [hloop]; decide) .startSet (fun _ => htask) nofun
    exact ⟨hmoved.task, hmoved.starting, hmoved.stopping, hmoved.connected, hmoved.disconnecting⟩
  · next hloop =>
    -- the write of CONNECTING: RUNNING is not lost, as the step is in order
    obtain rfl := Option.some.inj ha
    refine ⟨fun _ => Or.inl (h.starting (by rw [hloop]; rfl)), nofun,
      nofun, fun hlatest hstop => ?_, h.disconnecting⟩
    exact Or.inr ((h.connected hlatest hstop).resolve_left (hset hloop))
  · next hloop =>
    have hne : s.loop ≠ .stopSet := by rw [hloop]; decide
    have hstop : s.stopCalled = true := h.stopping (by rw [hloop]; rfl)
    split at ha
    · obtain rfl := Option.some.inj ha
      exact h.return_ hne _
    · obtain rfl := Option.some.inj ha
      exact h.goto hne .stopDelete nofun fun _ => hstop
  · next hloop =>
    have hne : s.loop ≠ .stopSet := by rw [hloop]; decide
    have hstop : s.stopCalled = true := h.stopping (by rw [hloop]; rfl)
    split at ha
    · obtain rfl := Option.some.inj ha
      exact h.goto hne .stopSet nofun fun _ => hstop
    · obtain rfl := Option.some.inj ha
      exact ⟨fun _ => Or.inr rfl, nofun, fun _ => hstop,
        h.connected, h.disconnecting⟩
  · next hloop =>
    obtain rfl := Option.some.inj ha
    have hstop : s.stopCalled = true := h.stopping (by rw [hloop]; rfl)
    refine ⟨(by rintro (h | h) <;> cases h), nofun, fun _ => hstop,
      fun _ hno => ?_, h.disconnecting⟩
    exact absurd (hstop.symm.trans hno) (by decide)
  · next hloop =>
    obtain rfl := Option.some.inj ha
    exact h.return_ (by rw [hloop]; decide) _

theorem inv_clientStep {s s' : MqttVars} (h : Inv s)
    (hset : s.client = .connectSet ∨ s.client = .disconnectSet → s.HasTask ∨ s.loop = .stopSet)
    (ha : s.clientStep = some s') : Inv s' := by
  unfold MqttVars.clientStep at ha
  split at ha
  · cases ha
  · next hclient =>
    obtain rfl := Option.some.inj ha
    exact ⟨fun _ => hset (Or.inl hclient), h.starting, h.stopping, fun _ _ => Or.inl rfl,
      nofun⟩
  · next hclient =>
    obtain rfl := Option.some.inj ha
    refine ⟨h.task, h.starting, h.stopping, fun hlatest hstop => ?_,
      nofun⟩
    rcases h.connected hlatest hstop with hrunning | hset
    · exact Or.inl hrunning
    · rw [hclient] at hset
      cases hset
  · next hclient =>
    have hlatest : s.latest ≠ some .onConnect := h.disconnecting (by rw [hclient]; rfl)
    split at ha
    · obtain rfl := Option.some.inj ha
      exact ⟨h.task, h.starting, h.stopping, fun hl => absurd hl hlatest, fun _ => hlatest⟩
    · obtain rfl := Option.some.inj ha
      exact ⟨h.task, h.starting, h.stopping, fun hl => absurd hl hlatest, fun _ => hlatest⟩
  · next hclient =>
    have hlatest : s.latest ≠ some .onConnect := h.disconnecting (by rw [hclient]; rfl)
    obtain rfl := Option.some.inj ha
    exact ⟨fun _ => hset (Or.inr hclient), h.starting, h.stopping, fun hl => absurd hl hlatest,
      fun _ => hlatest⟩

theorem inv_mqttStep (s : MqttVars) (a : MqttStep) (s' : MqttVars) (h : Inv s)
    (horder : WritesInOrder s a) (ha : mqttStep s a = some s') : Inv s' := by
  cases a with
  | init cfgGiven queueMade =>
    obtain ⟨hloop, rfl⟩ := of_guarded ha
    exact h.mqttInit hloop cfgGiven queueMade
  | networkUp =>
    obtain ⟨hloop, rfl⟩ := of_guarded ha
    exact h.networkUp hloop
  | networkDown =>
    obtain ⟨hloop, rfl⟩ := of_guarded ha
    exact h.networkDown hloop
  | loop created => exact inv_loopStep h horder ha
  | onConnect =>
    obtain ⟨-, rfl⟩ := of_guarded ha
    exact ⟨h.task, h.starting, h.stopping, fun _ _ => Or.inr rfl, nofun⟩
  | onDisconnect =>
    obtain ⟨-, rfl⟩ := of_guarded ha
    exact ⟨h.task, h.starting, h.stopping, nofun, fun _ => nofun⟩
  | client => exact inv_clientStep h horder ha

/-- **The MQTT state agrees with the client** in every run whose state writes are in order. -/
theorem mqtt_agrees (as : List MqttStep) (horder : Throughout mqttStep WritesInOrder .boot as) :
    Always mqttStep Agrees .boot as :=
  (always_of_throughout inv_mqttStep inv_boot horder).mono fun _ h => h.agrees

/-- The client connects after `mqtt_start` has returned. -/
def startThenConnect : List MqttStep :=
  [.init true true, .networkUp, .loop true, .loop true, .loop true, .loop true, .onConnect,
    .client, .client]

theorem running_after_startThenConnect :
    ∃ s, run mqttStep .boot startThenConnect = some s ∧ s.gState = .running ∧ Agrees s := by
  refine ⟨_, rfl, rfl, (mqtt_agrees startThenConnect ?_).last rfl⟩
  have htask : ∃ h, ((Pool.empty : Pool Unit).spawn ()).Alive h := ⟨0, rfl⟩
  refine .cons rfl trivial (.cons rfl trivial (.cons rfl nofun (.cons rfl nofun
    (.cons rfl nofun (.cons rfl (fun _ => by decide) (.cons rfl trivial
      (.cons rfl (fun _ => Or.inl htask) (.cons rfl ?_ trivial))))))))
  rintro (h | h) <;> cases h

/-- The client connects before `mqtt_start` has written CONNECTING. -/
def connectInsideStart : List MqttStep :=
  [.init true true, .networkUp, .loop true, .loop true, .loop true, .onConnect, .client, .client,
    .loop true]

/-- A connection made inside `mqtt_start` leaves the state CONNECTING. -/
theorem connecting_after_onConnect : ¬ ∀ as : List MqttStep, Always mqttStep Agrees .boot as := by
  intro hall
  have hagrees := (hall connectInsideStart).last rfl
  exact absurd ((hagrees rfl rfl).2 rfl rfl) (by decide)

end XIoT.Mqtt
