import XIoT.CommandPath
import XIoT.Lib.Runs

/-!
# The flow of commands

What the two queues and the two tasks do to the accepted messages: each of them goes
from the queue into the hand of the task and from there to the dispatcher, or is
dropped on the way. The path of a command refines this flow: all of its steps but the
deletion of a task with a message in its hand are steps of the flow.
-/

namespace XIoT.Subscriber

open Mqtt (SubscriberState)
open Lib.TaskPool Lib.Runs

/-- What there is of the accepted messages. -/
structure Flow where
  queue : List Numbered
  /-- The message in the hand of the task, and the request it will be turned into. -/
  hand : Option (Numbered × Option ProtocolRequest)
  dispatchQueue : List Posted
  dispatching : Option Posted
  accepted : List MqttMsg
  posted : List Nat
  rejected : List (Nat × LogLevel × String)
  handed : List ProtocolRequest

inductive FlowStep (reg : Registry) (json : ArduinoJson) (f : Flow) : Flow → Prop where
  | quiet : FlowStep reg json f f
  | accept (msg : MqttMsg) :
    FlowStep reg json f { f with
      queue := f.queue ++ [⟨f.accepted.length, msg⟩]
      accepted := f.accepted ++ [msg] }
  | receive (m : Numbered) (rest : List Numbered) (hqueue : f.queue = m :: rest)
    (hhand : f.hand = none) :
    FlowStep reg json f { f with
      queue := rest
      hand := some (m, (decode reg json m.msg).toOption) }
  | post (m : Numbered) (request : ProtocolRequest) (hhand : f.hand = some (m, some request)) :
    FlowStep reg json f { f with
      hand := none
      dispatchQueue := f.dispatchQueue ++ [⟨request, true⟩]
      posted := f.posted ++ [m.number] }
  | refuse (m : Numbered) (request : ProtocolRequest) (hhand : f.hand = some (m, some request)) :
    FlowStep reg json f { f with hand := some (m, none) }
  | reject (m : Numbered) (r : Rejection) (hhand : f.hand = some (m, none)) :
    FlowStep reg json f { f with
      hand := none
      rejected := f.rejected ++ [(m.number, r.logLine)] }
  | otherPost (request : ProtocolRequest) :
    FlowStep reg json f { f with dispatchQueue := f.dispatchQueue ++ [⟨request, false⟩] }
  | take (p : Posted) (rest : List Posted) (hqueue : f.dispatchQueue = p :: rest)
    (hidle : f.dispatching = none) :
    FlowStep reg json f { f with dispatchQueue := rest, dispatching := some p }
  | dispatch (p : Posted) (hp : f.dispatching = some p) :
    FlowStep reg json f { f with dispatching := none }
  | hand (p : Posted) (hp : f.dispatching = some p) (hcommand : p.command = true) :
    FlowStep reg json f { f with dispatching := none, handed := f.handed ++ [p.request] }

/-! ## The flow of a path -/

/-- The message a task has received and not yet disposed of. -/
def TaskPc.message : TaskPc → Option Numbered
  | .lookUp m => some m
  | .parse m _ => some m
  | .post m _ => some m
  | .reject m _ => some m
  | _ => none

/-- The request it will be turned into, if any. -/
def TaskPc.command (reg : Registry) (json : ArduinoJson) : TaskPc → Option ProtocolRequest
  | .lookUp m => (decode reg json m.msg).toOption
  | .parse m tag => (Subscriber.parse json tag m.msg).toOption
  | .post _ request => some request
  | _ => none

def TaskPc.hand (reg : Registry) (json : ArduinoJson) (pc : TaskPc) :
    Option (Numbered × Option ProtocolRequest) :=
  pc.message.map fun m => (m, pc.command reg json)

namespace CommandPath

/-- The task of `gTaskHandle`. -/
def current (s : CommandPath) : Option TaskPc := s.gTaskHandle.bind s.tasks.task

def flow (reg : Registry) (json : ArduinoJson) (s : CommandPath) : Flow where
  queue := s.gQueue
  hand := s.current.bind (TaskPc.hand reg json)
  dispatchQueue := s.gDispatchQueue
  dispatching := s.dispatching
  accepted := s.accepted
  posted := s.posted
  rejected := s.rejected
  handed := s.handed

/-- The only live task is that of `gTaskHandle`, and there is none outside RUNNING. -/
structure Alone (s : CommandPath) : Prop where
  handle : ∀ h, s.tasks.Alive h → s.gTaskHandle = some h
  outside : s.call ≠ .startSet → s.gState ≠ .running → s.gTaskHandle = none
  creating : s.call = .startCreate → s.gTaskHandle = none
  stopped : s.call = .stopSet → s.gTaskHandle = none

theorem alone_boot (dispatcher : DispatcherState) : (boot dispatcher).Alone where
  handle h hlive := by cases hlive
  outside _ _ := rfl
  creating _ := rfl
  stopped _ := rfl

theorem Alone.current_eq {s : CommandPath} (hs : s.Alone) {h : TaskHandle} {pc : TaskPc}
    (hpc : s.tasks.task h = some pc) : s.current = some pc := by
  rw [current, hs.handle h (Pool.Alive.intro hpc)]
  exact hpc

theorem Alone.current_setTask {s : CommandPath} (hs : s.Alone) {h : TaskHandle} {pc : TaskPc}
    (hpc : s.tasks.task h = some pc) (pc' : TaskPc) : (s.setTask h pc').current = some pc' := by
  have hhandle : s.gTaskHandle = some h := hs.handle h (Pool.Alive.intro hpc)
  show (s.gTaskHandle.bind (s.tasks.set h pc').task) = some pc'
  rw [hhandle, Option.bind_some, Pool.task_set, if_pos rfl, hpc]
  rfl

/-- Nothing but the calls to start and stop concerns the number of tasks. -/
theorem Alone.congr {s t : CommandPath} (hs : s.Alone)
    (htasks : ∀ h, t.tasks.Alive h → s.tasks.Alive h) (hhandle : t.gTaskHandle = s.gTaskHandle)
    (hstate : t.gState = s.gState) (hcall : t.call = s.call) : t.Alone where
  handle h hlive := hhandle.trans (hs.handle h (htasks h hlive))
  outside hset hrunning := by
    rw [hhandle]
    exact hs.outside (hcall ▸ hset) (hstate ▸ hrunning)
  creating hcreate := hhandle.trans (hs.creating (hcall ▸ hcreate))
  stopped hstop := hhandle.trans (hs.stopped (hcall ▸ hstop))

/-- `protocol_dispatcher_post` appends the request or does nothing. -/
theorem dispatcherPost_cases (s : CommandPath) (request : ProtocolRequest) (command : Bool) :
    s.dispatcherPost request command =
      ({ s with gDispatchQueue := s.gDispatchQueue ++ [⟨request, command⟩] }, .ok) ∨
    ∃ status, status ≠ .ok ∧ s.dispatcherPost request command = (s, status) := by
  unfold dispatcherPost
  split
  · exact Or.inl rfl
  · next status hne _ => exact Or.inr ⟨status, hne, rfl⟩

/-! ## One step of the path -/

theorem alone_callStep {s s' : CommandPath} {created : Bool} (hs : s.Alone)
    (ha : s.callStep created = some s') : s'.Alone := by
  unfold callStep at ha
  split at ha
  · cases ha
  · next hcall =>
    have hnone : s.gTaskHandle = none := hs.creating hcall
    split at ha
    · obtain rfl := Option.some.inj ha
      refine ⟨fun k hlive => ?_, fun hset => absurd rfl hset, nofun, nofun⟩
      rcases Pool.alive_spawn.mp hlive with rfl | hold
      · rfl
      · rw [hs.handle k hold] at hnone
        cases hnone
    · obtain rfl := Option.some.inj ha
      exact ⟨hs.handle, fun _ _ => hnone, nofun, nofun⟩
  · obtain rfl := Option.some.inj ha
    exact ⟨hs.handle, fun _ hrunning => absurd rfl hrunning, nofun, nofun⟩
  · split at ha
    · next hnone =>
      obtain rfl := Option.some.inj ha
      exact ⟨hs.handle, fun _ _ => hnone, nofun, fun _ => hnone⟩
    · next h hhandle =>
      obtain rfl := Option.some.inj ha
      refine ⟨fun k hlive => ?_, fun _ _ => rfl, nofun, fun _ => rfl⟩
      obtain ⟨hne, hold⟩ := Pool.alive_delete.mp hlive
      have hk : s.gTaskHandle = some k := hs.handle k hold
      rw [hhandle] at hk
      exact absurd (Option.some.inj hk).symm hne
  · next hcall =>
    obtain rfl := Option.some.inj ha
    exact ⟨hs.handle, fun _ _ => hs.stopped hcall, nofun, nofun⟩

theorem alone_startTest {s : CommandPath} (hs : s.Alone) (hidle : s.call = .idle) :
    s.startTest.Alone := by
  unfold startTest
  split
  · exact hs
  · next hstate =>
    have hrunning : s.gState ≠ .running := by
      intro heq
      exact hstate (by rw [heq]; decide)
    have hnone : s.gTaskHandle = none := hs.outside (by rw [hidle]; decide) hrunning
    exact ⟨hs.handle, fun _ _ => hnone, fun _ => hnone, nofun⟩

theorem alone_stopTest {s : CommandPath} (hs : s.Alone) : s.stopTest.Alone := by
  unfold stopTest
  split
  · exact hs
  · next hstate =>
    exact ⟨hs.handle, fun _ hrunning => absurd (not_not.mp hstate) hrunning, nofun, nofun⟩

/-- A task that moves on. -/
theorem Alone.setTask {s : CommandPath} (hs : s.Alone) (h : TaskHandle) (pc : TaskPc) :
    (s.setTask h pc).Alone :=
  hs.congr (fun _ hlive => Pool.alive_set.mp hlive) rfl rfl rfl

theorem alone_dispatcherPost {s : CommandPath} (hs : s.Alone) (request : ProtocolRequest)
    (command : Bool) : (s.dispatcherPost request command).1.Alone := by
  rcases s.dispatcherPost_cases request command with heq | ⟨status, -, heq⟩
  · rw [heq]
    exact hs.congr (fun _ hlive => hlive) rfl rfl rfl
  · rw [heq]
    exact hs

theorem Alone.hand_eq {s : CommandPath} (hs : s.Alone) {h : TaskHandle} {pc : TaskPc}
    (hpc : s.tasks.task h = some pc) (reg : Registry) (json : ArduinoJson) :
    (s.flow reg json).hand = pc.hand reg json := by
  simp only [flow, hs.current_eq hpc, Option.bind_some]

theorem Alone.flow_setTask {s : CommandPath} (hs : s.Alone) {h : TaskHandle} {pc : TaskPc}
    (hpc : s.tasks.task h = some pc) (pc' : TaskPc) (reg : Registry) (json : ArduinoJson) :
    (s.setTask h pc').flow reg json = { s.flow reg json with hand := pc'.hand reg json } := by
  simp only [flow, hs.current_setTask hpc, Option.bind_some]
  rfl

/-- A step of the task that leaves what it has in hand as it is. -/
theorem Alone.flow_setTask_same {s : CommandPath} (hs : s.Alone) {h : TaskHandle} {pc pc' : TaskPc}
    {reg : Registry} {json : ArduinoJson} (hpc : s.tasks.task h = some pc)
    (hsame : pc'.hand reg json = pc.hand reg json) :
    (s.setTask h pc').flow reg json = s.flow reg json := by
  rw [hs.flow_setTask hpc, hsame, ← hs.hand_eq hpc]

theorem flowStep_receive {reg : Registry} {json : ArduinoJson} {s : CommandPath}
    {h : TaskHandle} {m : Numbered} {rest : List Numbered} (hs : s.Alone)
    (hpc : s.tasks.task h = some .receive) (hqueue : s.gQueue = m :: rest) :
    FlowStep reg json (s.flow reg json)
      (({ s with gQueue := rest }.setTask h (.lookUp m)).flow reg json) := by
  have ht : ({ s with gQueue := rest } : CommandPath).Alone :=
    hs.congr (fun _ hlive => hlive) rfl rfl rfl
  rw [ht.flow_setTask hpc]
  exact .receive m rest hqueue (hs.hand_eq hpc reg json)

theorem flowStep_post {reg : Registry} {json : ArduinoJson} {s s' : CommandPath}
    {h : TaskHandle} {m : Numbered} {request : ProtocolRequest} (hs : s.Alone)
    (hpc : s.tasks.task h = some (.post m request))
    (ha : (match s.dispatcherPost request true with
      | (s', .ok) => some ({ s' with posted := s'.posted ++ [m.number] }.setTask h .receive)
      | (s', _) => some (s'.setTask h (.reject m .dispatchFailed))) = some s') :
    s'.Alone ∧ FlowStep reg json (s.flow reg json) (s'.flow reg json) := by
  have hhand : (s.flow reg json).hand = some (m, some request) := hs.hand_eq hpc reg json
  rcases s.dispatcherPost_cases request true with heq | ⟨status, hstatus, heq⟩
  · rw [heq] at ha
    obtain rfl := Option.some.inj ha
    have ht : ({ s with
        gDispatchQueue := s.gDispatchQueue ++ [⟨request, true⟩]
        posted := s.posted ++ [m.number] } : CommandPath).Alone :=
      hs.congr (fun _ hlive => hlive) rfl rfl rfl
    refine ⟨ht.setTask h .receive, ?_⟩
    rw [ht.flow_setTask hpc]
    exact .post m request hhand
  · rw [heq] at ha
    have ha : some (s.setTask h (.reject m .dispatchFailed)) = some s' := by
      cases status <;> first | exact ha | exact absurd rfl hstatus
    obtain rfl := Option.some.inj ha
    refine ⟨hs.setTask h _, ?_⟩
    rw [hs.flow_setTask hpc]
    exact .refuse m request hhand

/-- The subscriber task takes one message at a time. -/
theorem flowStep_taskStep {reg : Registry} {json : ArduinoJson} {s s' : CommandPath}
    {h : TaskHandle} (hs : s.Alone) (ha : s.taskStep reg json h = some s') :
    s'.Alone ∧ FlowStep reg json (s.flow reg json) (s'.flow reg json) := by
  have quiet : ∀ {pc pc' : TaskPc}, s.tasks.task h = some pc →
      pc'.hand reg json = pc.hand reg json →
      (s.setTask h pc').Alone ∧
        FlowStep reg json (s.flow reg json) ((s.setTask h pc').flow reg json) := by
    intro pc pc' hpc hsame
    refine ⟨hs.setTask h pc', ?_⟩
    rw [hs.flow_setTask_same hpc hsame]
    exact .quiet
  unfold taskStep at ha
  split at ha
  · cases ha
  · next hpc =>
    obtain rfl := Option.some.inj ha
    exact quiet hpc rfl
  · next hpc =>
    split at ha
    · cases ha
    · next m rest hqueue =>
      obtain rfl := Option.some.inj ha
      have ht : ({ s with gQueue := rest } : CommandPath).Alone :=
        hs.congr (fun _ hlive => hlive) rfl rfl rfl
      exact ⟨ht.setTask h (.lookUp m), flowStep_receive hs hpc hqueue⟩
  · next m hpc =>
    split at ha
    · next r hlook =>
      obtain rfl := Option.some.inj ha
      exact quiet hpc (by simp [TaskPc.hand, TaskPc.message, TaskPc.command, decode, hlook,
        Except.toOption])
    · next tag hlook =>
      obtain rfl := Option.some.inj ha
      exact quiet hpc (by simp [TaskPc.hand, TaskPc.message, TaskPc.command, decode, hlook])
  · next m tag hpc =>
    split at ha
    · next r hparse =>
      obtain rfl := Option.some.inj ha
      exact quiet hpc (by simp [TaskPc.hand, TaskPc.message, TaskPc.command, hparse,
        Except.toOption])
    · next request hparse =>
      obtain rfl := Option.some.inj ha
      exact quiet hpc (by simp [TaskPc.hand, TaskPc.message, TaskPc.command, hparse,
        Except.toOption])
  · next m request hpc => exact flowStep_post hs hpc ha
  · next m r hpc =>
    obtain rfl := Option.some.inj ha
    have ht : ({ s with rejected := s.rejected ++ [(m.number, r.logLine)] } : CommandPath).Alone :=
      hs.congr (fun _ hlive => hlive) rfl rfl rfl
    refine ⟨ht.setTask h .receive, ?_⟩
    rw [ht.flow_setTask hpc]
    exact .reject m r (hs.hand_eq hpc reg json)

/-! ## Refinement -/

/-- The task has a message in its hand. -/
def Holds (s : CommandPath) (m : Numbered) : Prop :=
  ∃ h pc, s.tasks.task h = some pc ∧ pc.message = some m

/-- The step deletes a subscriber task that has a message in its hand. -/
def DropsMessage (s : CommandPath) (a : CommandStep) : Prop :=
  (∃ created, a = .call created) ∧ s.call = .stopDelete ∧ ∃ m, s.Holds m

theorem Alone.holds_iff {s : CommandPath} (hs : s.Alone) (m : Numbered) :
    s.Holds m ↔ ∃ pc, s.current = some pc ∧ pc.message = some m := by
  constructor
  · rintro ⟨h, pc, hpc, hm⟩
    exact ⟨pc, hs.current_eq hpc, hm⟩
  · rintro ⟨pc, hcurrent, hm⟩
    obtain ⟨h, -, hpc⟩ := Option.bind_eq_some_iff.mp hcurrent
    exact ⟨h, pc, hpc, hm⟩

theorem Alone.holds_iff_hand {s : CommandPath} (hs : s.Alone) (m : Numbered) (reg : Registry)
    (json : ArduinoJson) : s.Holds m ↔ ∃ c, (s.flow reg json).hand = some (m, c) := by
  rw [hs.holds_iff]
  constructor
  · rintro ⟨pc, hcurrent, hm⟩
    exact ⟨pc.command reg json, by simp [flow, hcurrent, TaskPc.hand, hm]⟩
  · rintro ⟨c, hhand⟩
    obtain ⟨pc, hcurrent, hpc⟩ := Option.bind_eq_some_iff.mp hhand
    obtain ⟨m', hm', heq⟩ := Option.map_eq_some_iff.mp hpc
    obtain ⟨rfl, -⟩ := Prod.mk.inj heq
    exact ⟨pc, hcurrent, hm'⟩

/-- What the step made of the flow. -/
def Refines (reg : Registry) (json : ArduinoJson) (s : CommandPath) (a : CommandStep)
    (s' : CommandPath) : Prop :=
  ¬ DropsMessage s a ∧ FlowStep reg json (s.flow reg json) (s'.flow reg json) ∨
    DropsMessage s a ∧ s'.flow reg json = { s.flow reg json with hand := none }

theorem refines_of_flowStep {reg : Registry} {json : ArduinoJson} {s s' : CommandPath}
    {a : CommandStep} (hnot : ∀ created, a ≠ .call created)
    (h : FlowStep reg json (s.flow reg json) (s'.flow reg json)) : Refines reg json s a s' :=
  Or.inl ⟨fun ⟨⟨created, ha⟩, _⟩ => hnot created ha, h⟩

theorem refines_callStep {reg : Registry} {json : ArduinoJson} {s s' : CommandPath}
    {created : Bool} (hs : s.Alone) (ha : s.callStep created = some s') :
    Refines reg json s (.call created) s' := by
  have quiet : ∀ pc, s.call = pc → pc ≠ .stopDelete → s'.flow reg json = s.flow reg json →
      Refines reg json s (.call created) s' := by
    rintro pc rfl hne hsame
    refine Or.inl ⟨fun hdrops => hne hdrops.2.1, ?_⟩
    rw [hsame]
    exact .quiet
  unfold callStep at ha
  split at ha
  · cases ha
  · next hcall =>
    split at ha
    · obtain rfl := Option.some.inj ha
      -- the new task has nothing in its hand, and there was none before
      refine quiet _ hcall (by decide) ?_
      have hnew : (some s.tasks.next).bind (s.tasks.spawn .subscribing).task =
          some .subscribing := by rw [Option.bind_some, Pool.task_spawn, if_pos rfl]
      simp only [flow, current, hnew, hs.creating hcall]
      rfl
    · obtain rfl := Option.some.inj ha
      exact quiet _ hcall (by decide) rfl
  · next hcall =>
    obtain rfl := Option.some.inj ha
    exact quiet _ hcall (by decide) rfl
  · next hcall =>
    have hflow : s'.flow reg json = { s.flow reg json with hand := none } := by
      split at ha
      · next hnone =>
        obtain rfl := Option.some.inj ha
        have hnil : (s.flow reg json).hand = none := by
          simp only [flow, current, hnone]
          rfl
        rw [← hnil]
        rfl
      · obtain rfl := Option.some.inj ha
        rfl
    by_cases hholds : ∃ m, s.Holds m
    · exact Or.inr ⟨⟨⟨created, rfl⟩, hcall, hholds⟩, hflow⟩
    · refine Or.inl ⟨fun hdrops => hholds hdrops.2.2, ?_⟩
      have hempty : (s.flow reg json).hand = none := by
        cases hhand : (s.flow reg json).hand with
        | none => rfl
        | some mc => exact absurd ⟨mc.1, (hs.holds_iff_hand mc.1 reg json).mpr ⟨mc.2, hhand⟩⟩ hholds
      rw [hflow, ← hempty]
      exact .quiet
  · next hcall =>
    obtain rfl := Option.some.inj ha
    exact quiet _ hcall (by decide) rfl

theorem flowStep_postSend {reg : Registry} {json : ArduinoJson} {s s' : CommandPath} {i : Nat}
    (hs : s.Alone) (ha : s.postSend i = some s') :
    s'.Alone ∧ FlowStep reg json (s.flow reg json) (s'.flow reg json) := by
  unfold postSend at ha
  split at ha
  · cases ha
  · next msg _ =>
    split at ha
    · obtain rfl := Option.some.inj ha
      exact ⟨hs.congr (fun _ hlive => hlive) rfl rfl rfl, .accept msg⟩
    · obtain rfl := Option.some.inj ha
      exact ⟨hs.congr (fun _ hlive => hlive) rfl rfl rfl, .quiet⟩

theorem flowStep_otherPost {reg : Registry} {json : ArduinoJson} (s : CommandPath)
    (request : ProtocolRequest) :
    FlowStep reg json (s.flow reg json) ((s.dispatcherPost request false).1.flow reg json) := by
  rcases s.dispatcherPost_cases request false with heq | ⟨status, -, heq⟩
  · rw [heq]
    exact .otherPost request
  · rw [heq]
    exact .quiet

theorem flowStep_dispatchReceive {reg : Registry} {json : ArduinoJson} {s s' : CommandPath}
    (hs : s.Alone) (ha : s.dispatchReceive = some s') :
    s'.Alone ∧ FlowStep reg json (s.flow reg json) (s'.flow reg json) := by
  unfold dispatchReceive at ha
  split at ha
  · next p rest hidle hqueue =>
    obtain rfl := Option.some.inj ha
    exact ⟨hs.congr (fun _ hlive => hlive) rfl rfl rfl, .take p rest hqueue hidle⟩
  · cases ha

theorem flowStep_dispatchRequest {reg : Registry} {json : ArduinoJson} {s s' : CommandPath}
    {answer : SysStatus} (hs : s.Alone) (ha : s.dispatchRequest answer = some s') :
    s'.Alone ∧ FlowStep reg json (s.flow reg json) (s'.flow reg json) := by
  unfold dispatchRequest at ha
  split at ha
  · cases ha
  · next p hp =>
    obtain rfl := Option.some.inj ha
    refine ⟨hs.congr (fun _ hlive => hlive) rfl rfl rfl, ?_⟩
    split
    · next hcommand => exact .hand p hp hcommand.2
    · exact .dispatch p hp

/-- **The path refines the flow**, but for the deletion of a task with a message in its hand. -/
theorem refines_commandStep {reg : Registry} {json : ArduinoJson} {s s' : CommandPath}
    {a : CommandStep} (hs : s.Alone) (ha : commandStep reg json s a = some s') :
    s'.Alone ∧ Refines reg json s a s' := by
  cases a with
  | post msg =>
    obtain rfl := Option.some.inj ha
    have hsame : (s.postTest msg).Alone ∧ (s.postTest msg).flow reg json = s.flow reg json := by
      unfold postTest
      split
      · exact ⟨hs, rfl⟩
      · split
        · exact ⟨hs.congr (fun _ hlive => hlive) rfl rfl rfl, rfl⟩
        · exact ⟨hs, rfl⟩
    refine ⟨hsame.1, refines_of_flowStep (fun _ => nofun) ?_⟩
    rw [hsame.2]
    exact .quiet
  | send i =>
    obtain ⟨halone, hflow⟩ := flowStep_postSend hs ha
    exact ⟨halone, refines_of_flowStep (fun _ => nofun) hflow⟩
  | start =>
    obtain ⟨hidle, rfl⟩ := of_guarded ha
    refine ⟨alone_startTest hs hidle, refines_of_flowStep (fun _ => nofun) ?_⟩
    have hsame : s.startTest.flow reg json = s.flow reg json := by
      unfold startTest
      split <;> rfl
    rw [hsame]
    exact .quiet
  | stop =>
    obtain ⟨-, rfl⟩ := of_guarded ha
    refine ⟨alone_stopTest hs, refines_of_flowStep (fun _ => nofun) ?_⟩
    have hsame : s.stopTest.flow reg json = s.flow reg json := by
      unfold stopTest
      split <;> rfl
    rw [hsame]
    exact .quiet
  | call created => exact ⟨alone_callStep hs ha, refines_callStep hs ha⟩
  | task h =>
    obtain ⟨halone, hflow⟩ := flowStep_taskStep hs ha
    exact ⟨halone, refines_of_flowStep (fun _ => nofun) hflow⟩
  | otherPost request =>
    obtain rfl := Option.some.inj ha
    exact ⟨alone_dispatcherPost hs request false,
      refines_of_flowStep (fun _ => nofun) (flowStep_otherPost s request)⟩
  | receive =>
    obtain ⟨halone, hflow⟩ := flowStep_dispatchReceive hs ha
    exact ⟨halone, refines_of_flowStep (fun _ => nofun) hflow⟩
  | dispatch answer =>
    obtain ⟨halone, hflow⟩ := flowStep_dispatchRequest hs ha
    exact ⟨halone, refines_of_flowStep (fun _ => nofun) hflow⟩

end CommandPath

end XIoT.Subscriber
