import XIoT.MqttService
import XIoT.TagRegistry
import XIoT.Lib.Runs
import Mathlib.Tactic.ByContra

/-!
# Subscribing on a connection

The three tasks a connection sets going: the client's, which runs `onConnect`; the
event loop's, which runs `app_event_handler` on the event that `onConnect` posts;
and `subscriberTask`, which subscribes to every topic once before its main loop.
-/

namespace XIoT.Mqtt

open Lib.Runs

/-- `subscriber_state_t`. -/
inductive SubscriberState where
  | deinitialized
  | initialized
  | running
  | stopped
  deriving DecidableEq, Repr

/-- `onConnect`, by its next step. -/
inductive ConnectPc where
  | post
  | set
  | publish
  | returned
  deriving DecidableEq, Repr

/-- The event-loop task, by its next step: the write that ends `mqtt_start`, and
`app_event_handler` on MQTT_CONNECTED. -/
inductive HandlerPc where
  | startSet
  | wait
  | publisherStart
  | subscriberRead
  | subscriberCreate
  | subscriberSet
  | done
  deriving DecidableEq, Repr

/-- `subscriberTask`, by its next step; `left` stands for its main loop. -/
inductive SubscriberPc where
  | test (i : Nat)
  | subscribe (i : Nat) (topic : Option String)
  | left
  deriving DecidableEq

structure Session where
  gState : MqttState
  connect : ConnectPc
  events : List AppEvent
  handler : HandlerPc
  subscriber : SubscriberState
  task : Option SubscriberPc
  /-- The topics the client's `subscribe` was called with. -/
  subscribed : List String
  deriving DecidableEq

/-- The client has connected and is about to call `onConnect`. When `starting`, the
`mqtt_start` that made it connect has still to write CONNECTING over the INITIALIZED or
STOPPED it has found. -/
def Session.boot (gState : MqttState) (starting : Bool) (subscriber : SubscriberState) : Session :=
  ⟨gState, .post, [], if starting then .startSet else .wait, subscriber, none, []⟩

/-! ## The three tasks -/

/-- `onConnect`. The status message it publishes last changes nothing here. -/
def Session.onConnect (s : Session) : Option Session :=
  match s.connect with
  | .post => some { s with events := s.events ++ [.mqttConnected], connect := .set }
  | .set => some { s with gState := .running, connect := .publish }
  | .publish => some { s with connect := .returned }
  | .returned => none

/-- What is left of `mqtt_start`, and then `app_event_handler` with `subscriber_start` in
steps. -/
def Session.appEventHandler (s : Session) : Option Session :=
  match s.handler with
  | .startSet => some { s with gState := .connecting, handler := .wait }
  | .wait =>
    match s.events with
    | .mqttConnected :: rest => some { s with events := rest, handler := .publisherStart }
    | _ => none
  | .publisherStart => some { s with handler := .subscriberRead }
  | .subscriberRead =>
    if s.subscriber ≠ .initialized ∧ s.subscriber ≠ .stopped then some { s with handler := .done }
    else some { s with handler := .subscriberCreate }
  | .subscriberCreate => some { s with task := some (.test 0), handler := .subscriberSet }
  | .subscriberSet => some { s with subscriber := .running, handler := .done }
  | .done => none

/-- The initial loop of `subscriberTask`. The state is read and the client called in one
step: nothing else looks at the subscriptions. -/
def Session.subscriberTask (reg : Registry) (s : Session) : Option Session :=
  match s.task with
  | some (.test i) =>
    match reg.tagGetAt i with
    | none => some { s with task := some .left }
    | some tag =>
      if tag.topicType = .subscribe then some { s with task := some (.subscribe i tag.topic) }
      else some { s with task := some (.test (i + 1)) }
  | some (.subscribe i topic) =>
    some { s with
      task := some (.test (i + 1))
      subscribed := s.subscribed ++ (mqttSubscribe s.gState topic false).2.toList }
  | _ => none

inductive SessionStep where
  | client
  | eventLoop
  | subscriber
  deriving DecidableEq, Repr

def sessionStep (reg : Registry) (s : Session) : SessionStep → Option Session
  | .client => s.onConnect
  | .eventLoop => s.appEventHandler
  | .subscriber => s.subscriberTask reg

/-! ## The MQTT service of a session -/

/-- The point of `onConnect` as the MQTT service has it. -/
def ConnectPc.clientPc : ConnectPc → ClientPc
  | .post => .idle
  | .set => .connectSet
  | .publish => .connectPublish
  | .returned => .idle

/-- The variables of the MQTT service are those of the session. -/
structure Session.Shows (s : Session) (v : MqttVars) : Prop where
  state : v.gState = s.gState
  loop : v.loop = if s.handler = .startSet then .startSet else .idle
  client : v.client = s.connect.clientPc
  connectCalled : v.connectCalled = true

/-- A step of the client is one of its callback. -/
theorem shows_onConnect {s s' : Session} {v : MqttVars} (h : s.Shows v)
    (ha : s.onConnect = some s') : ∃ a v', mqttStep v a = some v' ∧ s'.Shows v' := by
  have hclient := h.client
  unfold Session.onConnect at ha
  split at ha
  · next hpc =>
    obtain rfl := Option.some.inj ha
    rw [hpc] at hclient
    exact ⟨.onConnect, _, if_pos ⟨hclient, h.connectCalled⟩, h.state, h.loop, rfl, h.connectCalled⟩
  · next hpc =>
    obtain rfl := Option.some.inj ha
    rw [hpc] at hclient
    refine ⟨.client, { v with gState := .running, client := .connectPublish }, ?_, rfl, h.loop, rfl,
      h.connectCalled⟩
    rw [mqttStep, MqttVars.clientStep, hclient]
    rfl
  · next hpc =>
    obtain rfl := Option.some.inj ha
    rw [hpc] at hclient
    refine ⟨.client, { v with client := .idle }, ?_, h.state, h.loop, rfl, h.connectCalled⟩
    rw [mqttStep, MqttVars.clientStep, hclient]
    rfl
  · cases ha

/-- A step of the event loop ends `mqtt_start`, or does not touch the service. -/
theorem shows_appEventHandler {s s' : Session} {v : MqttVars} (h : s.Shows v)
    (ha : s.appEventHandler = some s') :
    s'.Shows v ∨ ∃ a v', mqttStep v a = some v' ∧ s'.Shows v' := by
  have hloop := h.loop
  unfold Session.appEventHandler at ha
  split at ha
  · next hpc =>
    obtain rfl := Option.some.inj ha
    rw [if_pos hpc] at hloop
    refine Or.inr ⟨.loop true, { v with gState := .connecting }.return_ .ok, ?_, rfl, rfl, h.client,
      h.connectCalled⟩
    rw [mqttStep, MqttVars.loopStep, hloop]
  · next hpc =>
    rw [hpc] at hloop
    split at ha
    · obtain rfl := Option.some.inj ha
      exact Or.inl ⟨h.state, hloop, h.client, h.connectCalled⟩
    · cases ha
  · next hpc =>
    rw [hpc] at hloop
    obtain rfl := Option.some.inj ha
    exact Or.inl ⟨h.state, hloop, h.client, h.connectCalled⟩
  · next hpc =>
    rw [hpc] at hloop
    split at ha <;> obtain rfl := Option.some.inj ha <;>
      exact Or.inl ⟨h.state, hloop, h.client, h.connectCalled⟩
  · next hpc =>
    rw [hpc] at hloop
    obtain rfl := Option.some.inj ha
    exact Or.inl ⟨h.state, hloop, h.client, h.connectCalled⟩
  · next hpc =>
    rw [hpc] at hloop
    obtain rfl := Option.some.inj ha
    exact Or.inl ⟨h.state, hloop, h.client, h.connectCalled⟩
  · cases ha

theorem shows_subscriberTask {reg : Registry} {s s' : Session} {v : MqttVars} (h : s.Shows v)
    (ha : s.subscriberTask reg = some s') : s'.Shows v := by
  unfold Session.subscriberTask at ha
  split at ha
  · split at ha
    · obtain rfl := Option.some.inj ha
      exact ⟨h.state, h.loop, h.client, h.connectCalled⟩
    · split at ha <;> obtain rfl := Option.some.inj ha <;>
        exact ⟨h.state, h.loop, h.client, h.connectCalled⟩
  · obtain rfl := Option.some.inj ha
    exact ⟨h.state, h.loop, h.client, h.connectCalled⟩
  · cases ha

/-- **A session is a run of the MQTT service.** -/
theorem session_shows_mqtt {reg : Registry} {s s' : Session} {v : MqttVars} {as : List SessionStep}
    (h : s.Shows v) (hrun : run (sessionStep reg) s as = some s') :
    ∃ bs v', run mqttStep v bs = some v' ∧ s'.Shows v' := by
  refine run_of_simulation (R := Session.Shows) ?_ h hrun
  intro s a s' v h ha
  cases a with
  | client => exact Or.inr (shows_onConnect h ha)
  | eventLoop => exact shows_appEventHandler h ha
  | subscriber => exact Or.inl (shows_subscriberTask h ha)

/-- The service is initialised, the network comes up, and `mqtt_start` has called
`connect()`: here a session begins, before the last write of `mqtt_start` or behind it. -/
example : ∃ v v', run mqttStep .boot
      [.init true true, .networkUp, .loop true, .loop true, .loop true] = some v ∧
    (Session.boot .initialized true .initialized).Shows v ∧ mqttStep v (.loop true) = some v' ∧
    (Session.boot .connecting false .initialized).Shows v' :=
  ⟨_, _, rfl, ⟨rfl, rfl, rfl, rfl⟩, rfl, ⟨rfl, rfl, rfl, rfl⟩⟩

/-! ## What is subscribed and what is still to come -/

/-- The client's `subscribe` was called with the topic of every SUBSCRIBE tag. -/
def AllSubscribed (reg : Registry) (s : Session) : Prop :=
  ∀ tag ∈ reg.gTags, tag.topicType = .subscribe → ∃ topic ∈ s.subscribed, tag.topic = some topic

/-- The topics the initial loop passes on to `mqtt_subscribe` from a suffix of the table. -/
def wantedTopics (tags : List TagConfig) : List (Option String) :=
  (tags.filter fun tag => tag.topicType = .subscribe).map TagConfig.topic

/-- The topics whose state test is still to come. -/
def pendingTopics (reg : Registry) : Option SubscriberPc → List (Option String)
  | none => wantedTopics reg.gTags
  | some (.test i) => wantedTopics (reg.gTags.drop i)
  | some (.subscribe i topic) => topic :: wantedTopics (reg.gTags.drop (i + 1))
  | some .left => []

/-- `onConnect` has written RUNNING. -/
def Session.Written (s : Session) : Prop := s.connect = .publish ∨ s.connect = .returned

/-- When `onConnect` writes RUNNING, the test for every wanted topic is still to come; and
`mqtt_start` does not write CONNECTING behind it, unless no topic is wanted. -/
def WritesInTime (reg : Registry) (s : Session) : SessionStep → Prop
  | .client => s.connect = .set → s.gState ≠ .running →
      ∀ topic ∈ wantedTopics reg.gTags, topic ∈ pendingTopics reg s.task
  | .eventLoop => s.handler = .startSet → s.Written → wantedTopics reg.gTags = []
  | .subscriber => True

/-- From the write of RUNNING on, every wanted topic is subscribed, or its test is still to
come and will find RUNNING. -/
def Owed (reg : Registry) (s : Session) : Prop :=
  s.gState = .running ∨ s.Written → ∀ topic ∈ wantedTopics reg.gTags,
    topic ∈ s.subscribed.map some ∨ s.gState = .running ∧ topic ∈ pendingTopics reg s.task

theorem mem_wantedTopics {tags : List TagConfig} {topic : Option String} :
    topic ∈ wantedTopics tags ↔ ∃ tag ∈ tags, tag.topicType = .subscribe ∧ tag.topic = topic := by
  simp only [wantedTopics, List.mem_map, List.mem_filter, decide_eq_true_eq, and_assoc]

theorem allSubscribed_iff (reg : Registry) (s : Session) :
    AllSubscribed reg s ↔ ∀ topic ∈ wantedTopics reg.gTags, topic ∈ s.subscribed.map some := by
  constructor
  · intro h topic htopic
    obtain ⟨tag, htag, htype, rfl⟩ := mem_wantedTopics.mp htopic
    obtain ⟨topic, hmem, heq⟩ := h tag htag htype
    exact List.mem_map.mpr ⟨topic, hmem, heq.symm⟩
  · intro h tag htag htype
    obtain ⟨topic, hmem, heq⟩ :=
      List.mem_map.mp (h tag.topic (mem_wantedTopics.mpr ⟨tag, htag, htype, rfl⟩))
    exact ⟨topic, hmem, heq.symm⟩

theorem wantedTopics_drop {reg : Registry} {i : Nat} {tag : TagConfig}
    (h : reg.tagGetAt i = some tag) :
    wantedTopics (reg.gTags.drop i) =
      if tag.topicType = .subscribe then tag.topic :: wantedTopics (reg.gTags.drop (i + 1))
      else wantedTopics (reg.gTags.drop (i + 1)) := by
  obtain ⟨hlt, htag⟩ := List.getElem?_eq_some_iff.mp h
  rw [List.drop_eq_getElem_cons hlt, htag, wantedTopics, List.filter_cons]
  by_cases htype : tag.topicType = .subscribe
  · rw [if_pos htype, if_pos (decide_eq_true htype)]
    rfl
  · rw [if_neg htype, if_neg (by simpa using htype)]
    rfl

theorem wantedTopics_drop_none {reg : Registry} {i : Nat} (h : reg.tagGetAt i = none) :
    wantedTopics (reg.gTags.drop i) = [] := by
  rw [List.drop_eq_nil_of_le (List.getElem?_eq_none_iff.mp h)]
  rfl

/-! ## One step -/

/-- What holds of every session, in order or not. -/
structure Session.Inv (s : Session) : Prop where
  unsubscribed : s.gState ≠ .running → s.subscribed = []
  fresh : s.task = none → s.subscribed = []
  created : s.task = none ∨ s.handler = .subscriberSet ∨ s.handler = .done

theorem Session.inv_boot (gState : MqttState) (starting : Bool) (subscriber : SubscriberState) :
    (Session.boot gState starting subscriber).Inv where
  unsubscribed _ := rfl
  fresh _ := rfl
  created := Or.inl rfl

/-- What a step can do to the state, the task and the subscriptions. -/
inductive SessionEffect (reg : Registry) (s s' : Session) : SessionStep → Prop where
  | connected (hconnect : s.connect = .set) (hstate : s'.gState = .running)
    (htask : s'.task = s.task) (hsub : s'.subscribed = s.subscribed) :
    SessionEffect reg s s' .client
  | started (hhandler : s.handler = .startSet) (hstate : s'.gState ≠ .running)
    (hconnect : s'.connect = s.connect) (htask : s.task = none)
    (hsub : s'.subscribed = s.subscribed) : SessionEffect reg s s' .eventLoop
  | tested {a : SessionStep} (hclient : a = .client → s.connect ≠ .set)
    (hloop : a = .eventLoop → s.handler ≠ .startSet) (hstate : s'.gState = s.gState)
    (hwritten : s'.Written ↔ s.Written)
    (htask : pendingTopics reg s'.task = pendingTopics reg s.task)
    (hsub : s'.subscribed = s.subscribed) : SessionEffect reg s s' a
  | subscribed (topic : Option String) (hstate : s'.gState = s.gState)
    (hconnect : s'.connect = s.connect)
    (htask : pendingTopics reg s.task = topic :: pendingTopics reg s'.task)
    (hsub : s'.subscribed = s.subscribed ++ (mqttSubscribe s.gState topic false).2.toList) :
    SessionEffect reg s s' .subscriber

theorem inv_onConnect {s s' : Session} (hs : s.Inv) (ha : s.onConnect = some s') : s'.Inv := by
  unfold Session.onConnect at ha
  split at ha
  · obtain rfl := Option.some.inj ha
    exact ⟨hs.unsubscribed, hs.fresh, hs.created⟩
  · obtain rfl := Option.some.inj ha
    exact ⟨fun h => absurd rfl h, hs.fresh, hs.created⟩
  · obtain rfl := Option.some.inj ha
    exact ⟨hs.unsubscribed, hs.fresh, hs.created⟩
  · cases ha

/-- The subscriber task is created by the handler. -/
theorem Session.Inv.task_eq_none {s : Session} (hs : s.Inv) (hset : s.handler ≠ .subscriberSet)
    (hdone : s.handler ≠ .done) : s.task = none :=
  hs.created.resolve_right (not_or.mpr ⟨hset, hdone⟩)

theorem inv_appEventHandler {s s' : Session} (hs : s.Inv) (ha : s.appEventHandler = some s') :
    s'.Inv := by
  unfold Session.appEventHandler at ha
  split at ha
  · next hpc =>
    obtain rfl := Option.some.inj ha
    have hnone := hs.task_eq_none (by simp [hpc]) (by simp [hpc])
    exact ⟨fun _ => hs.fresh hnone, hs.fresh, Or.inl hnone⟩
  · next hpc =>
    have hnone := hs.task_eq_none (by simp [hpc]) (by simp [hpc])
    split at ha
    · obtain rfl := Option.some.inj ha
      exact ⟨hs.unsubscribed, hs.fresh, Or.inl hnone⟩
    · cases ha
  · next hpc =>
    obtain rfl := Option.some.inj ha
    exact ⟨hs.unsubscribed, hs.fresh, Or.inl (hs.task_eq_none (by simp [hpc]) (by simp [hpc]))⟩
  · next hpc =>
    split at ha
    · obtain rfl := Option.some.inj ha
      exact ⟨hs.unsubscribed, hs.fresh, Or.inr (Or.inr rfl)⟩
    · obtain rfl := Option.some.inj ha
      exact ⟨hs.unsubscribed, hs.fresh, Or.inl (hs.task_eq_none (by simp [hpc]) (by simp [hpc]))⟩
  · next hpc =>
    obtain rfl := Option.some.inj ha
    exact ⟨hs.unsubscribed, nofun, Or.inr (Or.inl rfl)⟩
  · obtain rfl := Option.some.inj ha
    exact ⟨hs.unsubscribed, hs.fresh, Or.inr (Or.inr rfl)⟩
  · cases ha

theorem mqttSubscribe_not_running {state : MqttState} (h : state ≠ .running)
    (topic : Option String) : (mqttSubscribe state topic false).2 = none := by
  unfold mqttSubscribe
  rw [if_pos h]

theorem mqttSubscribe_running (topic : Option String) :
    (mqttSubscribe .running topic false).2 = topic := by
  cases topic <;> rfl

theorem inv_subscriberTask {reg : Registry} {s s' : Session} (hs : s.Inv)
    (ha : s.subscriberTask reg = some s') : s'.Inv := by
  have hcreated : ∀ pc, s.task = some pc → s.handler = .subscriberSet ∨ s.handler = .done := by
    intro pc hpc
    refine hs.created.resolve_left fun hnone => ?_
    rw [hpc] at hnone
    cases hnone
  unfold Session.subscriberTask at ha
  split at ha
  · next hpc =>
    split at ha
    · obtain rfl := Option.some.inj ha
      exact ⟨hs.unsubscribed, nofun, Or.inr (hcreated _ hpc)⟩
    · split at ha
      · obtain rfl := Option.some.inj ha
        exact ⟨hs.unsubscribed, nofun, Or.inr (hcreated _ hpc)⟩
      · obtain rfl := Option.some.inj ha
        exact ⟨hs.unsubscribed, nofun, Or.inr (hcreated _ hpc)⟩
  · next hpc =>
    obtain rfl := Option.some.inj ha
    refine ⟨fun hstate => ?_, nofun, Or.inr (hcreated _ hpc)⟩
    have hstate : s.gState ≠ .running := hstate
    show s.subscribed ++ _ = []
    rw [hs.unsubscribed hstate, mqttSubscribe_not_running hstate]
    rfl
  · cases ha

theorem inv_sessionStep {reg : Registry} (s : Session) (a : SessionStep) (s' : Session)
    (hs : s.Inv) (ha : sessionStep reg s a = some s') : s'.Inv := by
  cases a with
  | client => exact inv_onConnect hs ha
  | eventLoop => exact inv_appEventHandler hs ha
  | subscriber => exact inv_subscriberTask hs ha

theorem sessionEffect_onConnect {reg : Registry} {s s' : Session} (ha : s.onConnect = some s') :
    SessionEffect reg s s' .client := by
  unfold Session.onConnect at ha
  split at ha
  · next hpc =>
    obtain rfl := Option.some.inj ha
    exact .tested (fun _ => by simp [hpc]) nofun rfl (by simp [Session.Written, hpc]) rfl rfl
  · next hpc =>
    obtain rfl := Option.some.inj ha
    exact .connected hpc rfl rfl rfl
  · next hpc =>
    obtain rfl := Option.some.inj ha
    exact .tested (fun _ => by simp [hpc]) nofun rfl (by simp [Session.Written, hpc]) rfl rfl
  · cases ha

theorem sessionEffect_appEventHandler {reg : Registry} {s s' : Session} (hs : s.Inv)
    (ha : s.appEventHandler = some s') : SessionEffect reg s s' .eventLoop := by
  unfold Session.appEventHandler at ha
  split at ha
  · next hpc =>
    obtain rfl := Option.some.inj ha
    exact .started hpc nofun rfl (hs.task_eq_none (by simp [hpc]) (by simp [hpc])) rfl
  · next hpc =>
    split at ha
    · obtain rfl := Option.some.inj ha
      exact .tested nofun (fun _ => by simp [hpc]) rfl Iff.rfl rfl rfl
    · cases ha
  · next hpc =>
    obtain rfl := Option.some.inj ha
    exact .tested nofun (fun _ => by simp [hpc]) rfl Iff.rfl rfl rfl
  · next hpc =>
    split at ha <;> obtain rfl := Option.some.inj ha <;>
      exact .tested nofun (fun _ => by simp [hpc]) rfl Iff.rfl rfl rfl
  · next hpc =>
    -- the new task starts at the head of the table
    have hnone := hs.task_eq_none (by simp [hpc]) (by simp [hpc])
    obtain rfl := Option.some.inj ha
    refine .tested nofun (fun _ => by simp [hpc]) rfl Iff.rfl ?_ rfl
    rw [hnone]
    rfl
  · next hpc =>
    obtain rfl := Option.some.inj ha
    exact .tested nofun (fun _ => by simp [hpc]) rfl Iff.rfl rfl rfl
  · cases ha

theorem sessionEffect_subscriberTask {reg : Registry} {s s' : Session}
    (ha : s.subscriberTask reg = some s') : SessionEffect reg s s' .subscriber := by
  unfold Session.subscriberTask at ha
  split at ha
  · next i hpc =>
    split at ha
    · next hend =>
      obtain rfl := Option.some.inj ha
      refine .tested nofun nofun rfl Iff.rfl ?_ rfl
      rw [hpc]
      exact (wantedTopics_drop_none hend).symm
    · next tag htag =>
      have hdrop := wantedTopics_drop htag
      split at ha
      · next htype =>
        obtain rfl := Option.some.inj ha
        refine .tested nofun nofun rfl Iff.rfl ?_ rfl
        rw [hpc]
        exact (hdrop.trans (if_pos htype)).symm
      · next htype =>
        obtain rfl := Option.some.inj ha
        refine .tested nofun nofun rfl Iff.rfl ?_ rfl
        rw [hpc]
        exact (hdrop.trans (if_neg htype)).symm
  · next i topic hpc =>
    obtain rfl := Option.some.inj ha
    refine .subscribed topic rfl rfl ?_ rfl
    rw [hpc]
    rfl
  · cases ha

theorem sessionEffect {reg : Registry} {s s' : Session} {a : SessionStep} (hs : s.Inv)
    (ha : sessionStep reg s a = some s') : SessionEffect reg s s' a := by
  cases a with
  | client => exact sessionEffect_onConnect ha
  | eventLoop => exact sessionEffect_appEventHandler hs ha
  | subscriber => exact sessionEffect_subscriberTask ha

/-- No SUBSCRIBE tag has a NULL topic. -/
def TopicsGiven (reg : Registry) : Prop :=
  ∀ tag ∈ reg.gTags, tag.topicType = .subscribe → tag.topic ≠ none

theorem none_notMem_wantedTopics {reg : Registry} (h : TopicsGiven reg) :
    none ∉ wantedTopics reg.gTags := by
  intro hmem
  obtain ⟨tag, htag, htype, hnone⟩ := mem_wantedTopics.mp hmem
  exact h tag htag htype hnone

theorem owed_step {reg : Registry} (hgiven : TopicsGiven reg) {s s' : Session} {a : SessionStep}
    (howed : Owed reg s) (htime : WritesInTime reg s a) (he : SessionEffect reg s s' a) :
    Owed reg s' := by
  intro hdue topic htopic
  cases he with
  | connected hconnect hstate htask hsub =>
    rw [hsub, htask]
    by_cases hbefore : s.gState = .running
    · exact (howed (Or.inl hbefore) topic htopic).imp_right fun h => ⟨hstate, h.2⟩
    · exact Or.inr ⟨hstate, htime hconnect hbefore topic htopic⟩
  | started hhandler hstate hconnect htask hsub =>
    have hwritten : s.Written := by
      rw [Session.Written, ← hconnect]
      exact hdue.resolve_left hstate
    rw [htime hhandler hwritten] at htopic
    cases htopic
  | tested hclient hloop hstate hwritten htask hsub =>
    rw [hsub, hstate, htask]
    exact howed (hdue.imp (hstate ▸ ·) hwritten.mp) topic htopic
  | subscribed tested hstate hconnect htask hsub =>
    have hbefore : s.gState = .running ∨ s.Written := by
      rw [Session.Written, ← hconnect, ← hstate]
      exact hdue
    rcases howed hbefore topic htopic with hmem | ⟨hrunning, hmem⟩
    · rw [hsub, List.map_append]
      exact Or.inl (List.mem_append_left _ hmem)
    · rw [htask] at hmem
      rw [hsub, hrunning, mqttSubscribe_running, List.map_append]
      rcases List.mem_cons.mp hmem with rfl | hmem
      · obtain ⟨t, rfl⟩ : ∃ t, topic = some t := by
          cases topic with
          | none => exact absurd htopic (none_notMem_wantedTopics hgiven)
          | some t => exact ⟨t, rfl⟩
        exact Or.inl (List.mem_append_right _ List.mem_cons_self)
      · exact Or.inr ⟨hstate.trans hrunning, hmem⟩

/-- A topic that is missed once is never subscribed. -/
theorem not_owed_step {reg : Registry} {s s' : Session} {a : SessionStep} (hs : s.Inv)
    (hnot : ¬ Owed reg s) (he : SessionEffect reg s s' a) : ¬ Owed reg s' := by
  intro howed
  apply hnot
  intro hdue topic htopic
  cases he with
  | connected hconnect hstate htask hsub =>
    -- `onConnect` has not written yet, so that the state was RUNNING before
    have hrunning : s.gState = .running := by
      refine hdue.resolve_right fun hwritten => ?_
      rw [Session.Written, hconnect] at hwritten
      simp at hwritten
    have hmem := howed (Or.inl hstate) topic htopic
    rw [hsub, htask] at hmem
    exact hmem.imp_right fun h => ⟨hrunning, h.2⟩
  | started hhandler hstate hconnect htask hsub =>
    by_cases hwritten : s.Written
    · have hmem := howed (Or.inr (by rwa [Session.Written, hconnect])) topic htopic
      rw [hsub, hs.fresh htask] at hmem
      rcases hmem with hmem | ⟨hrunning, -⟩
      · cases hmem
      · exact absurd hrunning hstate
    · refine Or.inr ⟨hdue.resolve_right hwritten, ?_⟩
      rw [htask]
      exact htopic
  | tested hclient hloop hstate hwritten htask hsub =>
    have hmem := howed (hdue.imp (hstate.trans ·) hwritten.mpr) topic htopic
    rwa [hsub, hstate, htask] at hmem
  | subscribed tested hstate hconnect htask hsub =>
    have hafter : s'.gState = .running ∨ s'.Written := by
      rw [Session.Written, hconnect, hstate]
      exact hdue
    rcases howed hafter topic htopic with hmem | ⟨hrunning, hmem⟩
    · rw [hsub, List.map_append] at hmem
      rcases List.mem_append.mp hmem with hmem | hmem
      · exact Or.inl hmem
      · by_cases hrunning : s.gState = .running
        · rw [hrunning, mqttSubscribe_running] at hmem
          cases tested with
          | none => cases hmem
          | some t =>
            refine Or.inr ⟨hrunning, ?_⟩
            rw [htask]
            exact List.mem_cons.mpr (Or.inl (List.mem_singleton.mp hmem))
        · rw [mqttSubscribe_not_running hrunning] at hmem
          cases hmem
    · refine Or.inr ⟨hstate ▸ hrunning, ?_⟩
      rw [htask]
      exact List.mem_cons_of_mem _ hmem

/-- A write that is not in time misses a topic at once. -/
theorem not_owed_of_late {reg : Registry} {s s' : Session} {a : SessionStep} (hs : s.Inv)
    (hlate : ¬ WritesInTime reg s a) (he : SessionEffect reg s s' a) : ¬ Owed reg s' := by
  intro howed
  apply hlate
  cases he with
  | connected hconnect hrunning htask hsub =>
    intro _ hstate topic htopic
    have hmem := howed (Or.inl hrunning) topic htopic
    rw [hsub, hs.unsubscribed hstate, htask] at hmem
    exact (hmem.resolve_left List.not_mem_nil).2
  | started hhandler hstate hconnect htask hsub =>
    intro _ hwritten
    refine List.eq_nil_iff_forall_not_mem.mpr fun topic htopic => ?_
    have hmem := howed (Or.inr (by rwa [Session.Written, hconnect])) topic htopic
    rw [hsub, hs.fresh htask] at hmem
    exact hstate (hmem.resolve_left List.not_mem_nil).1
  | tested hclient hloop =>
    cases a with
    | client => exact fun hset => absurd hset (hclient rfl)
    | eventLoop => exact fun hset => absurd hset (hloop rfl)
    | subscriber => trivial
  | subscribed => trivial

/-! ## Whole sessions -/

/-- `onConnect` has returned and `subscriberTask` has left its initial loop. -/
def Session.IsDone (s : Session) : Prop := s.connect = .returned ∧ s.task = some .left

theorem owed_iff_allSubscribed {reg : Registry} {s : Session} (hdone : s.IsDone) :
    Owed reg s ↔ AllSubscribed reg s := by
  obtain ⟨hreturned, hleft⟩ := hdone
  rw [allSubscribed_iff]
  constructor
  · intro howed topic htopic
    have hmem := howed (Or.inr (Or.inr hreturned)) topic htopic
    rw [hleft] at hmem
    exact hmem.resolve_right fun h => List.not_mem_nil h.2
  · intro hall _ topic htopic
    exact Or.inl (hall topic htopic)

theorem topicsGiven_of_allSubscribed {reg : Registry} {s : Session} (h : AllSubscribed reg s) :
    TopicsGiven reg := by
  intro tag htag htype hnone
  obtain ⟨topic, -, heq⟩ := h tag htag htype
  rw [hnone] at heq
  cases heq

theorem owed_boot (reg : Registry) (gState : MqttState) (starting : Bool)
    (subscriber : SubscriberState) : Owed reg (.boot gState starting subscriber) := by
  intro hdue topic htopic
  have hnot : ¬ (Session.boot gState starting subscriber).Written := by
    rintro (h | h) <;> cases h
  exact Or.inr ⟨hdue.resolve_right hnot, htopic⟩

section

variable {reg : Registry} (gState : MqttState) (starting : Bool) (subscriber : SubscriberState)

theorem always_owed_iff (hgiven : TopicsGiven reg) (as : List SessionStep) :
    Always (sessionStep reg) (Owed reg) (.boot gState starting subscriber) as ↔
      Throughout (sessionStep reg) (WritesInTime reg) (.boot gState starting subscriber) as := by
  refine always_iff_throughout (I := fun s => s.Inv ∧ Owed reg s) (fun _ h => h.2) ?_ ?_
    ⟨Session.inv_boot gState starting subscriber, owed_boot reg gState starting subscriber⟩ as
  · rintro s a s' ⟨hs, howed⟩ htime ha
    exact ⟨inv_sessionStep s a s' hs ha, owed_step hgiven howed htime (sessionEffect hs ha)⟩
  · rintro s a s' ⟨hs, -⟩ hlate ha
    exact not_owed_of_late hs hlate (sessionEffect hs ha)

/-- **No subscription is missed, exactly.** A finished session has subscribed to the
topic of every SUBSCRIBE tag if and only if all these topics are given, none of them was
tested for the last time before `onConnect` wrote RUNNING, and `mqtt_start` did not write
CONNECTING behind it. -/
theorem all_subscribed_iff (as : List SessionStep) (s : Session)
    (hrun : run (sessionStep reg) (.boot gState starting subscriber) as = some s)
    (hdone : s.IsDone) :
    AllSubscribed reg s ↔ TopicsGiven reg ∧
      Throughout (sessionStep reg) (WritesInTime reg) (.boot gState starting subscriber) as := by
  have hboot := Session.inv_boot gState starting subscriber
  have hlast : Always (sessionStep reg) (Owed reg) (.boot gState starting subscriber) as ↔
      Owed reg s :=
    always_iff_last inv_sessionStep
      (fun s a s' hs hnot ha => not_owed_step hs hnot (sessionEffect hs ha)) hboot hrun
  constructor
  · intro hall
    have hgiven := topicsGiven_of_allSubscribed hall
    refine ⟨hgiven, (always_owed_iff gState starting subscriber hgiven as).mp (hlast.mpr ?_)⟩
    exact (owed_iff_allSubscribed hdone).mpr hall
  · rintro ⟨hgiven, htime⟩
    have howed := hlast.mp ((always_owed_iff gState starting subscriber hgiven as).mpr htime)
    exact (owed_iff_allSubscribed hdone).mp howed

end

/-- One relay that is controlled over MQTT. -/
def oneRelay : Registry := ⟨[relayControl 1 "MACH-YC" "HDR0030/MACH-YC-100" 0], by decide⟩

/-- `mqtt_start` ends, and RUNNING is written before the event loop goes on. -/
def writeFirst : List SessionStep :=
  [.eventLoop, .client, .client, .client, .eventLoop, .eventLoop, .eventLoop, .eventLoop, .eventLoop,
    .subscriber, .subscriber, .subscriber]

theorem all_subscribed_after_writeFirst :
    ∃ s, run (sessionStep oneRelay) (.boot .initialized true .initialized) writeFirst = some s ∧
      AllSubscribed oneRelay s := by
  refine ⟨_, rfl, (all_subscribed_iff .initialized true .initialized writeFirst _ rfl
    ⟨rfl, rfl⟩).mpr ⟨by unfold TopicsGiven; decide, ?_⟩⟩
  have hunwritten : ¬ (Session.boot .initialized true .initialized).Written := by
    rintro (h | h) <;> cases h
  exact .cons rfl (fun _ h => absurd h hunwritten) (.cons rfl nofun
    (.cons rfl (fun _ _ _ h => h) (.cons rfl nofun (.cons rfl nofun (.cons rfl nofun
      (.cons rfl nofun (.cons rfl nofun (.cons rfl nofun (.cons rfl trivial (.cons rfl trivial
        (.cons rfl trivial trivial)))))))))))

/-- The event loop and the subscriber run between the post and the write. -/
def subscribeFirst : List SessionStep :=
  [.client, .eventLoop, .eventLoop, .eventLoop, .eventLoop, .subscriber, .subscriber, .subscriber,
    .eventLoop, .client, .client]

/-- A subscriber that is faster than `onConnect` subscribes to nothing. -/
theorem nothing_subscribed_after_subscribeFirst :
    ¬ ∀ (reg : Registry) (gState : MqttState) (starting : Bool) (subscriber : SubscriberState)
      (as : List SessionStep) (s : Session),
      run (sessionStep reg) (.boot gState starting subscriber) as = some s → s.IsDone →
        AllSubscribed reg s := by
  intro hall
  obtain ⟨topic, hmem, -⟩ :=
    hall oneRelay .connecting false .initialized subscribeFirst _ rfl ⟨rfl, rfl⟩ _
      List.mem_cons_self rfl
  cases hmem

end XIoT.Mqtt
