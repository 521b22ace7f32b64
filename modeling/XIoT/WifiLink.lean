import XIoT.WifiService
import XIoT.Lib.Runs

/-!
# The Wi-Fi state machine and the link

The state machine hears of the link through its queue and may lag behind it. The
driver is a link automaton whose events `wifiEventHandler` queues; the reconnect
timer queues a retry timeout when it expires.
-/

namespace XIoT.Wifi

open Lib.Runs

/-! ## The driver -/

/-- What the Wi-Fi driver is doing. -/
inductive Link where
  | down
  | attempting
  | associated
  | hasIp
  deriving DecidableEq, Repr

/-- The `WiFiEvent_t` values that `wifiEventHandler` tells apart. -/
inductive WifiEvent where
  | staConnected
  | staGotIp
  | staDisconnected
  | staLostIp
  | other
  deriving DecidableEq, Repr

/-- `wifiEventHandler`: the message an event is queued as. -/
def wifiEventHandler : WifiEvent → Option ConnectionEvent
  | .staConnected => some .staConnected
  | .staGotIp => some .gotIp
  | .staDisconnected => some .disconnected
  | .staLostIp => some .lostIp
  | .other => none

/-- The driver emits the event while its link goes from the first state to the second.
A disconnect in `attempting` may be spurious and leave the attempt going. -/
def linkMoves : Link → WifiEvent → Link → Bool
  | .attempting, .staConnected, .associated => true
  | .associated, .staGotIp, .hasIp => true
  | .hasIp, .staLostIp, .associated => true
  | .attempting, .staDisconnected, .down => true
  | .associated, .staDisconnected, .down => true
  | .hasIp, .staDisconnected, .down => true
  | .attempting, .staDisconnected, .attempting => true
  | link, .other, link' => link = link'
  | _, _, _ => false

/-- `WiFi.begin`: a new attempt, and the events it makes the driver emit. The state
machine never begins in `hasIp`. -/
def Link.begin : Link → Link × List WifiEvent
  | .down => (.attempting, [])
  | .attempting => (.attempting, [])
  | .associated => (.attempting, [.staDisconnected])
  | .hasIp => (.attempting, [.staDisconnected])

/-! ## The whole -/

structure LinkSystem where
  wConnectionState : ConnectionState
  xWifiQueue : List ConnectionEvent
  timerActive : Bool
  link : Link
  /-- START has been processed. -/
  started : Bool
  deriving DecidableEq

/-- What a call of the state machine does here, where no send and no timer call fails. -/
def LinkSystem.apply (s : LinkSystem) : WifiCall → LinkSystem
  | .wifiBegin =>
    { s with
      link := s.link.begin.1
      xWifiQueue := s.xWifiQueue ++ s.link.begin.2.filterMap wifiEventHandler }
  | .timerReset => { s with timerActive := true }
  | .timerStop => { s with timerActive := false }
  | .queueSend e => { s with xWifiQueue := s.xWifiQueue ++ [e] }
  | _ => s

def LinkSystem.answers (s : LinkSystem) : Answers := ⟨true, true, s.timerActive, s.link = .hasIp⟩

inductive LinkStep where
  | driver (event : WifiEvent) (link' : Link)
  | expire
  | fsm
  deriving DecidableEq

def linkStep (s : LinkSystem) : LinkStep → Option LinkSystem
  | .driver event link' =>
    if linkMoves s.link event link' then
      some { s with link := link', xWifiQueue := s.xWifiQueue ++ (wifiEventHandler event).toList }
    else none
  | .expire =>
    -- `vStaReconnectTimerCB` of the one-shot timer
    if s.timerActive then
      some { s with timerActive := false, xWifiQueue := s.xWifiQueue ++ [.retryTimeout] }
    else none
  | .fsm =>
    match s.xWifiQueue with
    | [] => none
    | event :: rest =>
      let r := wifiFSTMTask true s.answers s.wConnectionState event
      let s' := r.2.foldl LinkSystem.apply
        { s with xWifiQueue := rest, started := s.started || event = .start }
      some { s' with wConnectionState := r.1 }

/-- The START message with stale retry timeouts before and behind it; a timer that
was left running may add more. -/
def LinkSystem.boot (before behind : Nat) (timerActive : Bool) : LinkSystem :=
  ⟨.idle, List.replicate before .retryTimeout ++ .start :: List.replicate behind .retryTimeout,
    timerActive, .down, false⟩

/-- With an empty queue the state machine agrees with the link. -/
def TracksLink (s : LinkSystem) : Prop :=
  s.xWifiQueue = [] →
    (s.wConnectionState = .gotIp ↔ s.link = .hasIp) ∧
    (s.link = .down → s.started = true → s.wConnectionState = .retryWait ∧ s.timerActive = true)

/-! ## What the queue says about the link -/

/-- A link as far as its events tell it: `down` and `attempting` look the same. -/
inductive Level where
  | apart
  | associated
  | hasIp
  deriving DecidableEq

def Link.level : Link → Level
  | .down => .apart
  | .attempting => .apart
  | .associated => .associated
  | .hasIp => .hasIp

/-- The level after a message, `none` when the driver would not send it there. -/
def Level.follow : Level → ConnectionEvent → Option Level
  | .apart, .staConnected => some .associated
  | .associated, .gotIp => some .hasIp
  | .hasIp, .lostIp => some .associated
  | _, .disconnected => some .apart
  | l, .start => some l
  | l, .retryTimeout => some l
  | _, _ => none

def Level.followAll (l : Level) (es : List ConnectionEvent) : Option Level :=
  es.foldlM Level.follow l

/-- The message comes from the driver. -/
def ConnectionEvent.isDriver : ConnectionEvent → Bool
  | .start => false
  | .retryTimeout => false
  | _ => true

/-- No driver event is waiting. -/
def Settled (es : List ConnectionEvent) : Prop := ∀ e ∈ es, e.isDriver = false

theorem Level.follow_of_not_driver {l : Level} {e : ConnectionEvent} (h : e.isDriver = false) :
    l.follow e = some l := by
  cases e with
  | start => cases l <;> rfl
  | retryTimeout => cases l <;> rfl
  | _ => cases h

theorem Level.followAll_settled {l : Level} {es : List ConnectionEvent} (h : Settled es) :
    l.followAll es = some l := by
  induction es with
  | nil => rfl
  | cons e es ih =>
    have he : l.follow e = some l := follow_of_not_driver (h e List.mem_cons_self)
    have hes : l.followAll es = some l := ih fun x hx => h x (List.mem_cons_of_mem e hx)
    rw [followAll, List.foldlM_cons, he]
    exact hes

theorem Level.followAll_append {l m : Level} {es : List ConnectionEvent}
    (h : l.followAll es = some m) (fs : List ConnectionEvent) :
    l.followAll (es ++ fs) = m.followAll fs := by
  rw [followAll] at h ⊢
  rw [List.foldlM_append, h]
  rfl

theorem Level.followAll_cons {l m : Level} {e : ConnectionEvent} {es : List ConnectionEvent}
    (h : l.followAll (e :: es) = some m) : ∃ k, l.follow e = some k ∧ k.followAll es = some m := by
  rw [followAll, List.foldlM_cons] at h
  exact Option.bind_eq_some_iff.mp h

@[simp] theorem settled_nil : Settled [] := fun _ he => by cases he

@[simp] theorem settled_append {es fs : List ConnectionEvent} :
    Settled (es ++ fs) ↔ Settled es ∧ Settled fs := by
  simp only [Settled, List.mem_append, or_imp, forall_and]

@[simp] theorem settled_cons {e : ConnectionEvent} {es : List ConnectionEvent} :
    Settled (e :: es) ↔ e.isDriver = false ∧ Settled es := by
  simp only [Settled, List.mem_cons, or_imp, forall_and, forall_eq]

theorem settled_replicate (n : Nat) : Settled (List.replicate n .retryTimeout) := by
  intro e he
  rw [List.eq_of_mem_replicate he]
  rfl

/-- What the driver queues leads from the level of its link to that of the next one. -/
theorem followAll_linkMoves {link link' : Link} {event : WifiEvent} (h : linkMoves link event link') :
    link.level.followAll (wifiEventHandler event).toList = some link'.level := by
  cases event <;> cases link <;> cases link' <;> first | rfl | cases h

theorem wifiEventHandler_of_down {link' : Link} {event : WifiEvent} (h : linkMoves .down event link') :
    wifiEventHandler event = none := by
  cases event <;> cases link' <;> first | rfl | cases h

theorem not_settled_linkMoves {link link' : Link} {event : WifiEvent} (h : linkMoves link event link') :
    ¬ Settled (wifiEventHandler event).toList ∨
      (wifiEventHandler event).toList = [] ∧ link' = link := by
  cases event with
  | other =>
    refine Or.inr ⟨rfl, ?_⟩
    cases link <;> cases link' <;> first | rfl | cases h
  | _ => exact Or.inl fun hs => Bool.false_ne_true (hs _ List.mem_cons_self).symm

/-! ## The invariant -/

/-- How the connection state relates to the level that the messages processed so far
have told of. -/
inductive View (queue : List ConnectionEvent) (timerActive : Bool) (link : Link) (started : Bool) :
    ConnectionState → Level → Prop where
  | idle (hdown : link = .down) (hsettled : Settled queue) (hstarted : started = false) :
    View queue timerActive link started .idle .apart
  | connecting (h : Settled queue → link = .attempting) :
    View queue timerActive link started .connecting .apart
  | connected : View queue timerActive link started .connected .associated
  /-- A retry timeout that found the link up runs ahead of the driver's events. -/
  | ahead (h : ¬ Settled queue) : View queue timerActive link started .connected .apart
  | retryWait (h : timerActive = true ∨ .retryTimeout ∈ queue) :
    View queue timerActive link started .retryWait .apart
  | gotIp : View queue timerActive link started .gotIp .hasIp

/-- The messages processed told of the level `v`, and those still queued lead on
from there to the link. -/
structure Tracked (s : LinkSystem) (v : Level) : Prop where
  path : v.followAll s.xWifiQueue = some s.link.level
  view : View s.xWifiQueue s.timerActive s.link s.started s.wConnectionState v

theorem tracked_boot (before behind : Nat) (timerActive : Bool) :
    Tracked (.boot before behind timerActive) .apart := by
  have hs : Settled (LinkSystem.boot before behind timerActive).xWifiQueue :=
    settled_append.mpr
      ⟨settled_replicate before, settled_cons.mpr ⟨rfl, settled_replicate behind⟩⟩
  exact ⟨Level.followAll_settled hs, .idle rfl hs rfl⟩

/-- With an empty queue the processed messages tell the link itself. -/
theorem Tracked.tracksLink {s : LinkSystem} {v : Level} (h : Tracked s v) : TracksLink s := by
  obtain ⟨state, queue, timerActive, link, started⟩ := s
  rintro rfl
  obtain ⟨hpath, hview⟩ := h
  obtain rfl : v = link.level := Option.some.inj hpath
  show (state = .gotIp ↔ link = .hasIp) ∧
    (link = .down → started = true → state = .retryWait ∧ timerActive = true)
  cases link with
  | down =>
    cases hview with
    | idle _ _ hstarted =>
      have hstarted : started = false := hstarted
      simp [hstarted]
    | connecting h => cases h settled_nil
    | ahead h => exact absurd settled_nil h
    | retryWait h =>
      have htimer : timerActive = true := by simpa using h
      simp [htimer]
  | attempting => cases hview <;> simp
  | associated => cases hview; simp
  | hasIp => cases hview; simp

theorem Tracked.driver {s : LinkSystem} {v : Level} {event : WifiEvent} {link' : Link}
    (h : Tracked s v) (hmove : linkMoves s.link event link') :
    Tracked { s with link := link', xWifiQueue := s.xWifiQueue ++ (wifiEventHandler event).toList }
      v := by
  obtain ⟨state, queue, timerActive, link, started⟩ := s
  obtain ⟨hpath, hview⟩ := h
  refine ⟨(Level.followAll_append hpath _).trans (followAll_linkMoves hmove), ?_⟩
  rcases not_settled_linkMoves hmove with hdriver | ⟨hnone, rfl⟩
  · have hpending : ¬ Settled (queue ++ (wifiEventHandler event).toList) :=
      fun hs => hdriver (settled_append.mp hs).2
    cases hview with
    | idle hdown =>
      -- a link that is down emits nothing the state machine hears of
      have hnone : wifiEventHandler event = none := wifiEventHandler_of_down (hdown ▸ hmove)
      rw [hnone] at hdriver
      exact absurd settled_nil hdriver
    | connecting => exact .connecting fun hs => absurd hs hpending
    | connected => exact .connected
    | ahead => exact .ahead hpending
    | retryWait h => exact .retryWait (h.imp_right (List.mem_append_left _))
    | gotIp => exact .gotIp
  · simpa only [hnone, List.append_nil] using hview

theorem Tracked.expire {s : LinkSystem} {v : Level} (h : Tracked s v) :
    Tracked { s with timerActive := false, xWifiQueue := s.xWifiQueue ++ [.retryTimeout] } v := by
  obtain ⟨state, queue, timerActive, link, started⟩ := s
  obtain ⟨hpath, hview⟩ := h
  have htimeout : Settled [ConnectionEvent.retryTimeout] := settled_cons.mpr ⟨rfl, settled_nil⟩
  refine ⟨(Level.followAll_append hpath _).trans (Level.followAll_settled htimeout), ?_⟩
  cases hview with
  | idle hdown hsettled hstarted =>
    exact .idle hdown (settled_append.mpr ⟨hsettled, htimeout⟩) hstarted
  | connecting h => exact .connecting fun hs => h (settled_append.mp hs).1
  | connected => exact .connected
  | ahead h => exact .ahead fun hs => h (settled_append.mp hs).1
  | retryWait => exact .retryWait (Or.inr (List.mem_append_right _ List.mem_cons_self))
  | gotIp => exact .gotIp

/-- A message that is not the driver's and that the state drops changes nothing. -/
theorem View.drop {event : ConnectionEvent} {rest : List ConnectionEvent} {timerActive : Bool}
    {link : Link} {started started' : Bool} {state : ConnectionState} {v : Level}
    (h : View (event :: rest) timerActive link started state v) (hevent : event.isDriver = false)
    (hidle : state ≠ .idle) (hretry : state = .retryWait → event ≠ .retryTimeout) :
    View rest timerActive link started' state v := by
  cases h with
  | idle => exact absurd rfl hidle
  | connecting h => exact .connecting fun hs => h (settled_cons.mpr ⟨hevent, hs⟩)
  | connected => exact .connected
  | ahead h => exact .ahead fun hs => h (settled_cons.mpr ⟨hevent, hs⟩)
  | retryWait h =>
    refine .retryWait (h.imp_right fun hmem => ?_)
    rcases List.mem_cons.mp hmem with heq | hmem
    · exact absurd heq.symm (hretry rfl)
    · exact hmem
  | gotIp => exact .gotIp

/-- A retry timeout that finds no link begins an attempt; an association that the
queue has yet to tell of is disconnected by it, behind everything queued. -/
theorem followAll_begin {rest : List ConnectionEvent} {link : Link}
    (hpath : Level.apart.followAll rest = some link.level) :
    Level.apart.followAll (rest ++ link.begin.2.filterMap wifiEventHandler) =
      some link.begin.1.level := by
  rw [Level.followAll_append hpath]
  cases link <;> rfl

theorem not_settled_of_hasIp {rest : List ConnectionEvent}
    (hpath : Level.apart.followAll rest = some .hasIp) : ¬ Settled rest := by
  intro hs
  rw [Level.followAll_settled hs] at hpath
  cases hpath

theorem Tracked.fsm {s s' : LinkSystem} {v : Level} (h : Tracked s v)
    (hfsm : linkStep s .fsm = some s') : ∃ v', Tracked s' v' := by
  obtain ⟨state, queue, timerActive, link, started⟩ := s
  obtain ⟨hpath, hview⟩ := h
  cases queue with
  | nil => cases hfsm
  | cons event rest =>
    obtain rfl := Option.some.inj hfsm
    obtain ⟨k, hk, hrest⟩ := Level.followAll_cons hpath
    have hkeep := hview
    cases hview with
    | idle hdown hsettled hstarted =>
      obtain rfl : link = .down := hdown
      obtain ⟨hevent, hquiet⟩ := settled_cons.mp hsettled
      cases event with
      | start =>
        obtain rfl := Option.some.inj hk
        exact ⟨.apart, followAll_begin hrest, .connecting fun _ => rfl⟩
      | retryTimeout =>
        obtain rfl := Option.some.inj hk
        obtain rfl : started = false := hstarted
        exact ⟨.apart, hrest, .idle rfl hquiet rfl⟩
      | _ => cases hevent
    | connecting h =>
      cases event with
      | staConnected => exact ⟨.associated, Option.some.inj hk ▸ hrest, .connected⟩
      | disconnected => exact ⟨.apart, Option.some.inj hk ▸ hrest, .retryWait (Or.inl rfl)⟩
      | start => exact ⟨.apart, Option.some.inj hk ▸ hrest, hkeep.drop rfl nofun nofun⟩
      | retryTimeout =>
        exact ⟨.apart, Option.some.inj hk ▸ hrest, hkeep.drop rfl nofun nofun⟩
      | _ => cases hk
    | connected =>
      cases event with
      | disconnected => exact ⟨.apart, Option.some.inj hk ▸ hrest, .retryWait (Or.inl rfl)⟩
      | gotIp => exact ⟨.hasIp, Option.some.inj hk ▸ hrest, .gotIp⟩
      | start => exact ⟨.associated, Option.some.inj hk ▸ hrest, .connected⟩
      | retryTimeout => exact ⟨.associated, Option.some.inj hk ▸ hrest, .connected⟩
      | _ => cases hk
    | ahead h =>
      cases event with
      | staConnected => exact ⟨.associated, Option.some.inj hk ▸ hrest, .connected⟩
      | disconnected => exact ⟨.apart, Option.some.inj hk ▸ hrest, .retryWait (Or.inl rfl)⟩
      | start => exact ⟨.apart, Option.some.inj hk ▸ hrest, hkeep.drop rfl nofun nofun⟩
      | retryTimeout =>
        exact ⟨.apart, Option.some.inj hk ▸ hrest, hkeep.drop rfl nofun nofun⟩
      | _ => cases hk
    | retryWait h =>
      cases event with
      | staConnected =>
        obtain rfl := Option.some.inj hk
        cases timerActive <;> exact ⟨.associated, hrest, .connected⟩
      | disconnected => exact ⟨.apart, Option.some.inj hk ▸ hrest, .retryWait (Or.inl rfl)⟩
      | start => exact ⟨.apart, Option.some.inj hk ▸ hrest, hkeep.drop rfl nofun nofun⟩
      | retryTimeout =>
        obtain rfl := Option.some.inj hk
        cases link with
        | hasIp => exact ⟨.apart, hrest, .ahead (not_settled_of_hasIp hrest)⟩
        | _ => exact ⟨.apart, followAll_begin hrest, .connecting fun _ => rfl⟩
      | _ => cases hk
    | gotIp =>
      cases event with
      | lostIp => exact ⟨.associated, Option.some.inj hk ▸ hrest, .connected⟩
      | disconnected => exact ⟨.apart, Option.some.inj hk ▸ hrest, .retryWait (Or.inl rfl)⟩
      | start => exact ⟨.hasIp, Option.some.inj hk ▸ hrest, .gotIp⟩
      | retryTimeout => exact ⟨.hasIp, Option.some.inj hk ▸ hrest, .gotIp⟩
      | _ => cases hk

theorem tracked_linkStep (s : LinkSystem) (a : LinkStep) (s' : LinkSystem)
    (hs : ∃ v, Tracked s v) (ha : linkStep s a = some s') : ∃ v, Tracked s' v := by
  obtain ⟨v, hs⟩ := hs
  cases a with
  | driver event link' =>
    obtain ⟨hmove, rfl⟩ := of_guarded ha
    exact ⟨v, hs.driver hmove⟩
  | expire =>
    obtain ⟨-, rfl⟩ := of_guarded ha
    exact ⟨v, hs.expire⟩
  | fsm => exact hs.fsm ha

/-- **The state machine tracks the link.** In every interleaving of driver events,
timer expiries and messages, an empty queue means that GOT_IP is the state of a
link that has its address, and that a link that is down is being retried. -/
theorem fsm_tracks_link (before behind : Nat) (timerActive : Bool) (as : List LinkStep) :
    Always linkStep TracksLink (.boot before behind timerActive) as :=
  (always_of_invariant tracked_linkStep ⟨.apart, tracked_boot before behind timerActive⟩ as).mono
    fun _ ⟨_, h⟩ => h.tracksLink

/-- A retry timeout that was queued before the association is announced disconnects it. -/
example : run linkStep (.boot 0 0 false)
    [.fsm, .driver .staDisconnected .attempting, .fsm, .expire, .driver .staConnected .associated,
      .fsm, .fsm, .fsm] =
      some ⟨.retryWait, [], true, .attempting, true⟩ := by decide

end XIoT.Wifi
