import XIoT.MqttTransmit
import XIoT.PollingService
import XIoT.ServiceLifecycle
import XIoT.Lib.Alternation

/-!
# The mediator

`app_event_handler` starts and stops the services by the events of the network and of the
MQTT client. It runs in the task of the event loop, which takes the next event when
`mqtt_start` or `mqtt_stop` has returned; the callbacks of the client and the posts of the
other tasks come in between.
-/

namespace XIoT.App

open Lib.Runs
open Lib.TaskPool (Pool)
open Lib.Alternation (latest latest_nil latest_concat)
open Mqtt (MqttVars MqttStep MqttState SubscriberState WritesInOrder LoopPc ClientPc)
open Services (Hosted)

structure Mediator where
  mqtt : MqttVars
  publisher : Polling.Service
  subscriber : Hosted SubscriberState
  /-- The queue of the default event loop. -/
  events : List AppEvent
  /-- The events `event_post` was called with, and those the handler was called with. -/
  posted : List AppEvent
  handled : List AppEvent

/-- `publisher_start`, `acquisition_start` or `nextion_start` in one go; nothing else writes
what it reads. -/
def pollingStart (v : Polling.Variant) (s : Polling.Service) (made : Bool) : Polling.Service :=
  let started := Polling.pollingStart s
  if started.call = .creating then
    (Polling.pollingFinish v (Polling.pollingCreate started made)).getD started
  else started

namespace Mediator

/-- After `app_init`. -/
def boot : Mediator where
  mqtt := MqttVars.boot.mqttInit true true
  publisher := Polling.pollingInit Polling.publisher .boot true true
  subscriber := (Services.subscriberInit (.boot .deinitialized) true).1
  events := []
  posted := []
  handled := []

/-- `event_post`; `accepted` is the answer of `esp_event_post`. -/
def eventPost (s : Mediator) (event : AppEvent) (accepted : Bool) : Mediator :=
  { s with
    events := if accepted then s.events ++ [event] else s.events
    posted := s.posted ++ [event] }

/-- `app_event_handler`; `publisherMade` and `subscriberMade` are the outcomes of
`xTaskCreatePinnedToCore`. It returns at the end of `mqtt_start` or `mqtt_stop`. -/
def appEventHandler (s : Mediator) (event : AppEvent) (publisherMade subscriberMade : Bool) :
    Mediator :=
  match event with
  | .networkUp => { s with mqtt := { s.mqtt with loop := .startRead } }
  | .networkDown => { s with mqtt := s.mqtt.networkDown }
  | .mqttConnected =>
    { s with
      publisher := pollingStart Polling.publisher s.publisher publisherMade
      subscriber := (Services.subscriberStart s.subscriber subscriberMade).1 }
  | .mqttDisconnected =>
    { s with
      publisher :=
        if s.publisher.gState ≠ .stopped then Polling.pollingStop s.publisher else s.publisher
      subscriber :=
        if s.subscriber.vars ≠ .stopped then (Services.subscriberStop s.subscriber).1
        else s.subscriber }
  | _ => s

def deliver (s : Mediator) (publisherMade subscriberMade : Bool) : Option Mediator :=
  if s.mqtt.loop = .idle then
    match s.events with
    | [] => none
    | event :: rest => some
      ({ s with events := rest, handled := s.handled ++ [event] }.appEventHandler event
        publisherMade subscriberMade)
  else none

end Mediator

inductive MediatorStep where
  /-- `event_post` of the Wi-Fi service, the Modbus service or the fault handler. -/
  | post (event : AppEvent) (accepted : Bool)
  | onConnect (accepted : Bool)
  | onDisconnect (accepted : Bool)
  /-- The callback goes on. -/
  | client
  | deliver (publisherMade subscriberMade : Bool)
  /-- `mqtt_start` or `mqtt_stop` goes on. -/
  | loop (created : Bool)

/-- The event is one that `onConnect` or `onDisconnect` posts. -/
def clientMark : AppEvent → Option Bool
  | .mqttConnected => some true
  | .mqttDisconnected => some false
  | _ => none

def networkMark : AppEvent → Option Bool
  | .networkUp => some true
  | .networkDown => some false
  | _ => none

def mediatorStep (s : Mediator) : MediatorStep → Option Mediator
  | .post event accepted => if clientMark event = none then some (s.eventPost event accepted) else none
  | .onConnect accepted => (Mqtt.mqttStep s.mqtt .onConnect).map fun mqtt =>
    { s with mqtt := mqtt }.eventPost .mqttConnected accepted
  | .onDisconnect accepted => (Mqtt.mqttStep s.mqtt .onDisconnect).map fun mqtt =>
    { s with mqtt := mqtt }.eventPost .mqttDisconnected accepted
  | .client => s.mqtt.clientStep.map fun mqtt => { s with mqtt := mqtt }
  | .deliver publisherMade subscriberMade => s.deliver publisherMade subscriberMade
  | .loop created => (s.mqtt.loopStep created).map fun mqtt => { s with mqtt := mqtt }

/-- The events of the network and the client reach the queue, the tasks can be created,
and the callbacks write the state of the MQTT service in order. -/
def GoesWell (s : Mediator) : MediatorStep → Prop
  | .post event accepted => networkMark event ≠ none → accepted = true
  | .onConnect accepted => accepted = true
  | .onDisconnect accepted => accepted = true
  | .client => WritesInOrder s.mqtt .client
  | .deliver publisherMade subscriberMade =>
    s.events.head? = some .mqttConnected → publisherMade = true ∧ subscriberMade = true
  | .loop created => s.mqtt.loop = .startCreate → created = true

/-! ## The invariant -/

/-- The MQTT service is connected or connecting. -/
def IsUp (state : MqttState) : Prop := state = .running ∨ state = .connecting

/-- `mqtt_start` is in progress. -/
def callsStart : LoopPc → Bool
  | .startRead => true
  | .startCreate => true
  | .startConnect => true
  | .startSet => true
  | _ => false

/-- What the call in progress has to do with the latest event of the network. -/
structure NetworkInv (mqtt : MqttVars) (network : Option Bool) : Prop where
  alone : mqtt.Alone
  initialized : mqtt.gState ≠ .deinitialized
  idle : mqtt.loop = .idle → (IsUp mqtt.gState ↔ network = some true)
  starting : callsStart mqtt.loop = true → network = some true
  stopping : mqtt.loop.isStopping = true → network ≠ some true
  stopped : mqtt.loop = .stopDisconnect → ¬ IsUp mqtt.gState ∧ mqtt.gTaskHandle = none

/-- RUNNING is the word of the latest callback, or about to be taken back. -/
structure ClientInv (mqtt : MqttVars) (client : Option Bool) : Prop where
  connecting : mqtt.client = .connectSet ∨ mqtt.client = .connectPublish → client = some true
  running : mqtt.gState = .running → client = some true ∨ mqtt.client.isDisconnecting = true

/-- The publisher and the subscriber run as the events that were handled say. -/
structure SessionInv (s : Mediator) : Prop where
  publisher : s.publisher.gState = .running ↔ latest clientMark s.handled = some true
  ready : s.publisher.call = .idle ∧ s.publisher.gState ≠ .deinitialized
  subscriber : s.subscriber.vars = .running ↔ latest clientMark s.handled = some true
  subscriberReady : s.subscriber.vars ≠ .deinitialized

structure Mediator.Inv (s : Mediator) : Prop where
  network : NetworkInv s.mqtt (latest networkMark s.handled)
  client : ClientInv s.mqtt (latest clientMark s.posted)
  session : SessionInv s
  queuedNetwork : s.posted.filterMap networkMark = (s.handled ++ s.events).filterMap networkMark
  queuedClient : s.posted.filterMap clientMark = (s.handled ++ s.events).filterMap clientMark

theorem inv_boot : Mediator.boot.Inv where
  network := by
    have hdown : ¬ IsUp MqttState.initialized := by
      intro h
      rcases h with h | h <;> cases h
    exact ⟨Mqtt.alone_mqttStep (a := .init true true) Mqtt.alone_boot rfl, by decide,
      fun _ => iff_of_false hdown (by decide), nofun, nofun, nofun⟩
  client := ⟨fun h => (by rcases h with h | h <;> cases h), nofun⟩
  session := ⟨by decide, by decide, by decide, by decide⟩
  queuedNetwork := rfl
  queuedClient := rfl

section

variable {s s' : Mediator} {network : Option Bool} {mqtt mqtt' : MqttVars}

/-! ### Calls of the MQTT service -/

theorem not_hasTask_of_none (halone : mqtt.Alone) (hnone : mqtt.gTaskHandle = none) :
    ¬ mqtt.HasTask := by
  intro htask
  obtain ⟨h, hlive⟩ := htask
  have hhandle := halone.handle h hlive
  rw [hnone] at hhandle
  cases hhandle

/-- The test of `mqtt_start` fails only while the service is up. -/
theorem isUp_of_not_startable (hinit : mqtt.gState ≠ .deinitialized)
    (hstate : mqtt.gState ≠ .initialized ∧ mqtt.gState ≠ .stopped) : IsUp mqtt.gState := by
  cases hs : mqtt.gState with
  | deinitialized => exact absurd hs hinit
  | initialized => exact absurd hs hstate.1
  | connecting => exact Or.inr rfl
  | running => exact Or.inl rfl
  | stopped => exact absurd hs hstate.2

theorem networkInv_loopStep {created : Bool} (h : NetworkInv mqtt network)
    (hcreated : mqtt.loop = .startCreate → created = true)
    (ha : mqtt.loopStep created = some mqtt') : NetworkInv mqtt' network := by
  have halone := Mqtt.alone_loopStep h.alone ha
  unfold MqttVars.loopStep at ha
  split at ha
  · cases ha
  · next hloop =>
    have hnetwork := h.starting (by rw [hloop]; rfl)
    split at ha
    · next hstate =>
      obtain rfl := Option.some.inj ha
      have hup := isUp_of_not_startable h.initialized hstate
      exact ⟨halone, h.initialized, fun _ => iff_of_true hup hnetwork, fun _ => hnetwork, nofun, nofun⟩
    · obtain rfl := Option.some.inj ha
      exact ⟨halone, h.initialized, nofun, fun _ => hnetwork, nofun, nofun⟩
  · next hloop =>
    have hnetwork := h.starting (by rw [hloop]; rfl)
    rw [hcreated hloop] at ha
    obtain rfl := Option.some.inj ha
    exact ⟨halone, h.initialized, nofun, fun _ => hnetwork, nofun, nofun⟩
  · next hloop =>
    have hnetwork := h.starting (by rw [hloop]; rfl)
    obtain rfl := Option.some.inj ha
    exact ⟨halone, h.initialized, nofun, fun _ => hnetwork, nofun, nofun⟩
  · next hloop =>
    have hnetwork := h.starting (by rw [hloop]; rfl)
    obtain rfl := Option.some.inj ha
    exact ⟨halone, nofun, fun _ => iff_of_true (Or.inr rfl) hnetwork, fun _ => hnetwork, nofun, nofun⟩
  · next hloop =>
    have hnetwork := h.stopping (by rw [hloop]; rfl)
    split at ha
    · next hstate =>
      obtain rfl := Option.some.inj ha
      have hdown : ¬ IsUp mqtt.gState := fun hup => hup.elim hstate.1 hstate.2
      exact ⟨halone, h.initialized, fun _ => iff_of_false hdown hnetwork, nofun, nofun, nofun⟩
    · obtain rfl := Option.some.inj ha
      exact ⟨halone, h.initialized, nofun, nofun, fun _ => hnetwork, nofun⟩
  · next hloop =>
    have hnetwork := h.stopping (by rw [hloop]; rfl)
    split at ha <;>
      (obtain rfl := Option.some.inj ha
       exact ⟨halone, h.initialized, nofun, nofun, fun _ => hnetwork, nofun⟩)
  · next hloop =>
    have hnetwork := h.stopping (by rw [hloop]; rfl)
    obtain rfl := Option.some.inj ha
    refine ⟨halone, nofun, nofun, nofun, fun _ => hnetwork, fun _ => ⟨fun hup => ?_, ?_⟩⟩
    · rcases hup with hup | hup <;> cases hup
    · exact h.alone.stopped hloop
  · next hloop =>
    have hnetwork := h.stopping (by rw [hloop]; rfl)
    obtain rfl := Option.some.inj ha
    exact ⟨halone, h.initialized, fun _ => iff_of_false (h.stopped hloop).1 hnetwork, nofun, nofun,
      nofun⟩

/-- A write of the client's task in order finds the service up, or `mqtt_stop` before its
own write. -/
theorem networkInv_write {state : MqttState} {client : ClientPc} (h : NetworkInv mqtt network)
    (hup : IsUp state) (htask : mqtt.HasTask ∨ mqtt.loop = .stopSet) :
    NetworkInv { mqtt with gState := state, client := client } network := by
  have halone : MqttVars.Alone { mqtt with gState := state, client := client } :=
    h.alone.goto rfl rfl (fun _ => Or.inl hup) h.alone.creating h.alone.stopped
  refine ⟨halone, fun hdown => ?_, fun hloop => ?_, h.starting, h.stopping, fun hloop => ?_⟩
  · have hdown : state = .deinitialized := hdown
    rw [hdown] at hup
    rcases hup with hup | hup <;> cases hup
  · have hloop : mqtt.loop = .idle := hloop
    have hlive : mqtt.HasTask := htask.resolve_right (by rw [hloop]; decide)
    obtain ⟨k, hk⟩ := hlive
    have hcreated : mqtt.gTaskHandle ≠ none := by rw [h.alone.handle k hk]; nofun
    have hwas : IsUp mqtt.gState := h.alone.connected (by rw [hloop]; rfl) hcreated
    exact iff_of_true hup ((h.idle hloop).mp hwas)
  · have hloop : mqtt.loop = .stopDisconnect := hloop
    have hlive : mqtt.HasTask := htask.resolve_right (by rw [hloop]; decide)
    exact absurd hlive (not_hasTask_of_none h.alone (h.stopped hloop).2)

theorem networkInv_clientStep (h : NetworkInv mqtt network)
    (horder : WritesInOrder mqtt .client) (ha : mqtt.clientStep = some mqtt') :
    NetworkInv mqtt' network := by
  have hmove : ∀ client : ClientPc, NetworkInv { mqtt with client := client } network := fun _ =>
    ⟨h.alone.goto rfl rfl h.alone.created h.alone.creating h.alone.stopped, h.initialized, h.idle,
      h.starting, h.stopping, h.stopped⟩
  unfold MqttVars.clientStep at ha
  split at ha
  · cases ha
  · next hclient =>
    obtain rfl := Option.some.inj ha
    exact networkInv_write h (Or.inl rfl) (horder (Or.inl hclient))
  · obtain rfl := Option.some.inj ha
    exact hmove .idle
  · split at ha
    · obtain rfl := Option.some.inj ha
      exact hmove .disconnectSet
    · obtain rfl := Option.some.inj ha
      exact hmove .idle
  · next hclient =>
    obtain rfl := Option.some.inj ha
    exact networkInv_write h (Or.inr rfl) (horder (Or.inr hclient))

/-- The handler is called when the call before has returned. -/
theorem NetworkInv.networkUp (h : NetworkInv mqtt network) (hloop : mqtt.loop = .idle) :
    NetworkInv { mqtt with loop := .startRead } (some true) :=
  ⟨h.alone.goto rfl rfl (fun hne => Or.inl (h.alone.connected (by rw [hloop]; rfl) hne)) nofun nofun,
    h.initialized, nofun, fun _ => rfl, nofun, nofun⟩

theorem NetworkInv.networkDown (h : NetworkInv mqtt network) (hloop : mqtt.loop = .idle) :
    NetworkInv mqtt.networkDown (some false) := by
  unfold MqttVars.networkDown
  split
  · exact ⟨h.alone.goto rfl rfl (fun hne => Or.inl (h.alone.connected (by rw [hloop]; rfl) hne))
      nofun nofun, h.initialized, nofun, nofun, fun _ => nofun, nofun⟩
  · next hstopped =>
    have hstopped : mqtt.gState = .stopped := not_not.mp hstopped
    refine ⟨h.alone, h.initialized, fun _ => iff_of_false (fun hup => ?_) nofun, fun hstart => ?_,
      fun _ => nofun, h.stopped⟩
    · rw [hstopped] at hup
      rcases hup with hup | hup <;> cases hup
    · rw [hloop] at hstart
      cases hstart

/-! ### Callbacks -/

variable {client : Option Bool}

theorem clientInv_loopStep {created : Bool} (h : ClientInv mqtt client)
    (ha : mqtt.loopStep created = some mqtt') : ClientInv mqtt' client := by
  unfold MqttVars.loopStep at ha
  split at ha
  · cases ha
  · split at ha <;> (obtain rfl := Option.some.inj ha; exact ⟨h.connecting, h.running⟩)
  · split at ha <;> (obtain rfl := Option.some.inj ha; exact ⟨h.connecting, h.running⟩)
  · obtain rfl := Option.some.inj ha
    exact ⟨h.connecting, h.running⟩
  · obtain rfl := Option.some.inj ha
    exact ⟨h.connecting, nofun⟩
  · split at ha <;> (obtain rfl := Option.some.inj ha; exact ⟨h.connecting, h.running⟩)
  · split at ha <;> (obtain rfl := Option.some.inj ha; exact ⟨h.connecting, h.running⟩)
  · obtain rfl := Option.some.inj ha
    exact ⟨h.connecting, nofun⟩
  · obtain rfl := Option.some.inj ha
    exact ⟨h.connecting, h.running⟩

theorem clientInv_clientStep (h : ClientInv mqtt client) (ha : mqtt.clientStep = some mqtt') :
    ClientInv mqtt' client := by
  unfold MqttVars.clientStep at ha
  split at ha
  · cases ha
  · next hclient =>
    have hlatest := h.connecting (Or.inl hclient)
    obtain rfl := Option.some.inj ha
    exact ⟨fun _ => hlatest, fun _ => Or.inl hlatest⟩
  · next hclient =>
    have hlatest := h.connecting (Or.inr hclient)
    obtain rfl := Option.some.inj ha
    exact ⟨fun _ => hlatest, fun _ => Or.inl hlatest⟩
  · split at ha
    · obtain rfl := Option.some.inj ha
      exact ⟨fun hset => (by rcases hset with hset | hset <;> cases hset), fun _ => Or.inr rfl⟩
    · next hstopped =>
      have hstopped : mqtt.gState = .stopped := not_not.mp hstopped
      obtain rfl := Option.some.inj ha
      refine ⟨fun hset => (by rcases hset with hset | hset <;> cases hset), fun hrunning => ?_⟩
      have hrunning : mqtt.gState = .running := hrunning
      rw [hstopped] at hrunning
      cases hrunning
  · obtain rfl := Option.some.inj ha
    exact ⟨fun hset => (by rcases hset with hset | hset <;> cases hset), nofun⟩

/-! ### The publisher and the subscriber -/

theorem publisherStart_running {p : Polling.Service}
    (hready : p.call = .idle ∧ p.gState ≠ .deinitialized) :
    (pollingStart Polling.publisher p true).gState = .running ∧
      (pollingStart Polling.publisher p true).call = .idle := by
  unfold pollingStart Polling.pollingStart
  split
  · next hstate =>
    have hrunning : p.gState = .running := by
      cases hs : p.gState with
      | deinitialized => exact absurd hs hready.2
      | initialized => exact absurd hs hstate.1
      | running => rfl
      | stopped => exact absurd hs hstate.2
    simp [hready.1, hrunning]
  · simp [Polling.pollingCreate, Polling.pollingFinish, Polling.publisher]

theorem publisherStop_not_running {p : Polling.Service}
    (hready : p.call = .idle ∧ p.gState ≠ .deinitialized) :
    let p' := if p.gState ≠ .stopped then Polling.pollingStop p else p
    p'.gState ≠ .running ∧ p'.call = .idle ∧ p'.gState ≠ .deinitialized := by
  intro p'
  by_cases hstopped : p.gState = .stopped
  · simp [p', hstopped, hready.1]
  · simp only [p', if_pos hstopped, Polling.pollingStop]
    split
    · next hrunning => exact ⟨hrunning, hready⟩
    · exact ⟨by simp, hready.1, by simp⟩

theorem subscriberStart_running {p : Hosted SubscriberState} (hready : p.vars ≠ .deinitialized) :
    (Services.subscriberStart p true).1.vars = .running := by
  unfold Services.subscriberStart Services.guardedStart Services.subscriberGuards
  cases hvars : p.vars <;> simp_all

theorem subscriberStop_not_running {p : Hosted SubscriberState} (hready : p.vars ≠ .deinitialized) :
    let p' := if p.vars ≠ .stopped then (Services.subscriberStop p).1 else p
    p'.vars ≠ .running ∧ p'.vars ≠ .deinitialized := by
  intro p'
  simp only [p', Services.subscriberStop, Services.guardedStop, Services.subscriberGuards]
  cases hvars : p.vars <;> simp_all

/-! ### One step -/

/-- A step that posts and handles nothing. -/
theorem Mediator.Inv.callStep (h : s.Inv) (hnetwork : NetworkInv mqtt (latest networkMark s.handled))
    (hclient : ClientInv mqtt (latest clientMark s.posted)) :
    Mediator.Inv { s with mqtt := mqtt } :=
  ⟨hnetwork, hclient,
    ⟨h.session.publisher, h.session.ready, h.session.subscriber, h.session.subscriberReady⟩,
    h.queuedNetwork, h.queuedClient⟩

/-- A post keeps the marks in the queue unless it is refused. -/
theorem filterMap_post {f : AppEvent → Option Bool} {event : AppEvent} {accepted : Bool}
    (hqueued : s.posted.filterMap f = (s.handled ++ s.events).filterMap f)
    (haccepted : f event ≠ none → accepted = true) :
    (s.posted ++ [event]).filterMap f =
      (s.handled ++ if accepted then s.events ++ [event] else s.events).filterMap f := by
  rw [List.filterMap_append, hqueued]
  cases accepted with
  | true => simp
  | false =>
    have hnone : f event = none := by
      by_contra hne
      cases haccepted hne
    simp [hnone]

/-- A post, and what the callback that makes it writes to the service. -/
theorem inv_eventPost {event : AppEvent} {accepted : Bool} (h : s.Inv)
    (hmqtt : NetworkInv mqtt (latest networkMark s.handled))
    (hnetwork : networkMark event ≠ none → accepted = true)
    (haccepted : clientMark event ≠ none → accepted = true)
    (hclient : ClientInv mqtt ((clientMark event).or (latest clientMark s.posted))) :
    (Mediator.eventPost { s with mqtt := mqtt } event accepted).Inv := by
  refine ⟨hmqtt, ?_, ⟨h.session.publisher, h.session.ready, h.session.subscriber,
    h.session.subscriberReady⟩, filterMap_post h.queuedNetwork hnetwork,
    filterMap_post h.queuedClient haccepted⟩
  show ClientInv mqtt (latest clientMark (s.posted ++ [event]))
  rw [latest_concat]
  exact hclient

/-- A callback leaves what concerns the network alone. -/
theorem NetworkInv.callback (h : NetworkInv mqtt network) (client : ClientPc)
    (callback : Option Mqtt.Callback) :
    NetworkInv { mqtt with client := client, latest := callback } network :=
  ⟨h.alone.goto rfl rfl h.alone.created h.alone.creating h.alone.stopped, h.initialized, h.idle,
    h.starting, h.stopping, h.stopped⟩

/-- The handler leaves the events it does not know alone. -/
theorem sessionInv_of_none {t : Mediator} (h : SessionInv s) (event : AppEvent)
    (hmark : clientMark event = none) (hpublisher : t.publisher = s.publisher)
    (hsubscriber : t.subscriber = s.subscriber) (hhandled : t.handled = s.handled ++ [event]) :
    SessionInv t := by
  have hlatest : latest clientMark t.handled = latest clientMark s.handled := by
    rw [hhandled, latest_concat, hmark]
    rfl
  refine ⟨?_, ?_, ?_, ?_⟩
  · rw [hpublisher, hlatest]
    exact h.publisher
  · rw [hpublisher]
    exact h.ready
  · rw [hsubscriber, hlatest]
    exact h.subscriber
  · rw [hsubscriber]
    exact h.subscriberReady

/-- The handler starts publisher and subscriber. -/
theorem SessionInv.connected {t : Mediator} (h : SessionInv s)
    (hpublisher : t.publisher = pollingStart Polling.publisher s.publisher true)
    (hsubscriber : t.subscriber = (Services.subscriberStart s.subscriber true).1)
    (hhandled : t.handled = s.handled ++ [.mqttConnected]) : SessionInv t := by
  have hlatest : latest clientMark t.handled = some true := by
    rw [hhandled, latest_concat]
    rfl
  obtain ⟨hrunning, hidle⟩ := publisherStart_running h.ready
  have hstarted := subscriberStart_running h.subscriberReady
  rw [← hpublisher] at hrunning hidle
  rw [← hsubscriber] at hstarted
  refine ⟨iff_of_true hrunning hlatest, ⟨hidle, ?_⟩, iff_of_true hstarted hlatest, ?_⟩
  · rw [hrunning]
    decide
  · rw [hstarted]
    decide

/-- The handler stops publisher and subscriber. -/
theorem SessionInv.disconnected {t : Mediator} (h : SessionInv s)
    (hpublisher : t.publisher =
      if s.publisher.gState ≠ .stopped then Polling.pollingStop s.publisher else s.publisher)
    (hsubscriber : t.subscriber =
      if s.subscriber.vars ≠ .stopped then (Services.subscriberStop s.subscriber).1 else s.subscriber)
    (hhandled : t.handled = s.handled ++ [.mqttDisconnected]) : SessionInv t := by
  have hlatest : latest clientMark t.handled ≠ some true := by
    rw [hhandled, latest_concat]
    show some false ≠ some true
    decide
  obtain ⟨hstopped, hidle, hready⟩ := publisherStop_not_running h.ready
  obtain ⟨hsubscriberStopped, hsubscriberReady⟩ := subscriberStop_not_running h.subscriberReady
  rw [← hpublisher] at hstopped hidle hready
  rw [← hsubscriber] at hsubscriberStopped hsubscriberReady
  exact ⟨iff_of_false hstopped hlatest, ⟨hidle, hready⟩, iff_of_false hsubscriberStopped hlatest,
    hsubscriberReady⟩

theorem inv_deliver {publisherMade subscriberMade : Bool} (h : s.Inv)
    (hmade : s.events.head? = some .mqttConnected → publisherMade = true ∧ subscriberMade = true)
    (ha : s.deliver publisherMade subscriberMade = some s') : s'.Inv := by
  unfold Mediator.deliver at ha
  split at ha
  · next hloop =>
    split at ha
    · cases ha
    · next event rest hevents =>
      obtain rfl := Option.some.inj ha
      have hqueue : s.handled ++ [event] ++ rest = s.handled ++ s.events := by
        rw [hevents, List.append_assoc]
        rfl
      have hqueuedNetwork := h.queuedNetwork
      have hqueuedClient := h.queuedClient
      rw [← hqueue] at hqueuedNetwork hqueuedClient
      have hsame : networkMark event = none →
          NetworkInv s.mqtt (latest networkMark (s.handled ++ [event])) := by
        intro hmark
        rw [latest_concat, hmark]
        exact h.network
      cases event with
      | networkUp =>
        refine ⟨?_, ⟨h.client.connecting, h.client.running⟩,
          sessionInv_of_none h.session .networkUp rfl rfl rfl rfl, hqueuedNetwork,
          hqueuedClient⟩
        show NetworkInv { s.mqtt with loop := .startRead } (latest networkMark (s.handled ++ [.networkUp]))
        rw [latest_concat]
        exact h.network.networkUp hloop
      | networkDown =>
        refine ⟨?_, ?_, sessionInv_of_none h.session .networkDown rfl rfl rfl rfl,
          hqueuedNetwork, hqueuedClient⟩
        · show NetworkInv s.mqtt.networkDown (latest networkMark (s.handled ++ [.networkDown]))
          rw [latest_concat]
          exact h.network.networkDown hloop
        · show ClientInv s.mqtt.networkDown (latest clientMark s.posted)
          unfold MqttVars.networkDown
          split
          · exact ⟨h.client.connecting, h.client.running⟩
          · exact h.client
      | mqttConnected =>
        obtain ⟨rfl, rfl⟩ := hmade (by rw [hevents]; rfl)
        exact ⟨hsame rfl, h.client, h.session.connected rfl rfl rfl, hqueuedNetwork, hqueuedClient⟩
      | mqttDisconnected =>
        exact ⟨hsame rfl, h.client, h.session.disconnected rfl rfl rfl, hqueuedNetwork,
          hqueuedClient⟩
      | modbusNetworkUp | modbusNetworkDown | systemFault =>
        exact ⟨hsame rfl, h.client, sessionInv_of_none h.session _ rfl rfl rfl rfl, hqueuedNetwork,
          hqueuedClient⟩
  · cases ha

theorem inv_mediatorStep (s : Mediator) (a : MediatorStep) (s' : Mediator) (h : s.Inv)
    (hwell : GoesWell s a) (ha : mediatorStep s a = some s') : s'.Inv := by
  cases a with
  | post event accepted =>
    obtain ⟨hmark, rfl⟩ := of_guarded ha
    refine inv_eventPost h h.network hwell (fun hne => absurd hmark hne) ?_
    rw [hmark]
    exact h.client
  | onConnect accepted =>
    obtain ⟨mqtt, hmqtt, rfl⟩ := Option.map_eq_some_iff.mp ha
    obtain ⟨-, rfl⟩ := of_guarded hmqtt
    exact inv_eventPost h (h.network.callback _ _) (fun hne => absurd rfl hne) (fun _ => hwell)
      ⟨fun _ => rfl, fun _ => Or.inl rfl⟩
  | onDisconnect accepted =>
    obtain ⟨mqtt, hmqtt, rfl⟩ := Option.map_eq_some_iff.mp ha
    obtain ⟨-, rfl⟩ := of_guarded hmqtt
    exact inv_eventPost h (h.network.callback _ _) (fun hne => absurd rfl hne) (fun _ => hwell)
      ⟨fun hset => (by rcases hset with hset | hset <;> cases hset), fun _ => Or.inr rfl⟩
  | client =>
    obtain ⟨mqtt, hmqtt, rfl⟩ := Option.map_eq_some_iff.mp ha
    exact h.callStep (networkInv_clientStep h.network hwell hmqtt) (clientInv_clientStep h.client hmqtt)
  | deliver publisherMade subscriberMade => exact inv_deliver h hwell ha
  | loop created =>
    obtain ⟨mqtt, hmqtt, rfl⟩ := Option.map_eq_some_iff.mp ha
    exact h.callStep (networkInv_loopStep h.network hwell hmqtt) (clientInv_loopStep h.client hmqtt)

end

/-! ## Runs -/

/-- The event loop has no event queued and no call of the service in progress. -/
def AtRest (s : Mediator) : Prop := s.events = [] ∧ s.mqtt.loop = .idle

/-- The services are as the latest events want them. In the middle of `onDisconnect` the
state may still be RUNNING when its event is handled already. -/
structure FollowsEvents (s : Mediator) : Prop where
  network : AtRest s → (IsUp s.mqtt.gState ↔ latest networkMark s.posted = some true)
  publisher : AtRest s → (s.publisher.gState = .running ↔ latest clientMark s.posted = some true)
  subscriber : AtRest s → (s.subscriber.vars = .running ↔ latest clientMark s.posted = some true)
  serving : AtRest s → s.mqtt.client = .idle → s.mqtt.gState = .running →
    s.publisher.gState = .running ∧ s.subscriber.vars = .running

theorem Mediator.Inv.followsEvents {s : Mediator} (h : s.Inv) : FollowsEvents s := by
  have hhandled : ∀ f : AppEvent → Option Bool,
      s.posted.filterMap f = (s.handled ++ s.events).filterMap f → s.events = [] →
        latest f s.handled = latest f s.posted := by
    intro f hqueued hnone
    rw [latest, latest, hqueued, hnone, List.append_nil]
  have hclient : AtRest s → latest clientMark s.handled = latest clientMark s.posted :=
    fun hrest => hhandled clientMark h.queuedClient hrest.1
  refine ⟨fun hrest => ?_, fun hrest => ?_, fun hrest => ?_, fun hrest hclientIdle hrunning => ?_⟩
  · rw [← hhandled networkMark h.queuedNetwork hrest.1]
    exact h.network.idle hrest.2
  · rw [← hclient hrest]
    exact h.session.publisher
  · rw [← hclient hrest]
    exact h.session.subscriber
  · have hconnected : latest clientMark s.posted = some true := by
      refine (h.client.running hrunning).resolve_right ?_
      rw [hclientIdle]
      decide
    rw [← hclient hrest] at hconnected
    exact ⟨h.session.publisher.mpr hconnected, h.session.subscriber.mpr hconnected⟩

/-- **The services follow the events.** Whatever comes in between, once the event loop is at
rest the MQTT service is up exactly after NETWORK_UP, and the publisher and the subscriber
run exactly after MQTT_CONNECTED. -/
theorem services_follow_events (as : List MediatorStep)
    (hwell : Throughout mediatorStep GoesWell .boot as) :
    Always mediatorStep FollowsEvents .boot as :=
  (always_of_throughout inv_mediatorStep inv_boot hwell).mono fun _ h => h.followsEvents

/-- The network comes up, the client connects, and both events are handled. -/
def connectOnce : List MediatorStep :=
  [.post .networkUp true, .deliver true true, .loop true, .loop true, .loop true, .loop true,
    .onConnect true, .client, .client, .deliver true true]

theorem serving_after_connectOnce :
    ∃ s, run mediatorStep .boot connectOnce = some s ∧ AtRest s ∧ s.mqtt.client = .idle ∧
      s.mqtt.gState = .running ∧ FollowsEvents s := by
  refine ⟨_, rfl, ⟨rfl, rfl⟩, rfl, rfl, (services_follow_events connectOnce ?_).last rfl⟩
  have htask : ∃ h, ((Pool.empty : Pool Unit).spawn ()).Alive h := ⟨0, rfl⟩
  refine .cons rfl (fun _ => rfl) (.cons rfl (fun _ => ⟨rfl, rfl⟩) (.cons rfl nofun
    (.cons rfl (fun _ => rfl) (.cons rfl nofun (.cons rfl nofun
      (.cons rfl rfl (.cons rfl (fun _ => Or.inl htask) (.cons rfl ?_
        (.cons rfl (fun _ => ⟨rfl, rfl⟩) trivial)))))))))
  intro hset
  rcases hset with hset | hset <;> cases hset

end XIoT.App
