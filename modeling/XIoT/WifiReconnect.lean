import XIoT.WifiLink

/-!
# The obligation to reconnect

A processed disconnect is owed a new attempt. The debt is carried by the one-shot timer,
then by the timeout message its callback queues, and paid by `WiFi.begin`. Every
hand-over can fail: `xTimerReset` may be refused, the queue may be full when the timer
expires, and a timeout may be consumed without an attempt.
-/

namespace XIoT.Wifi

open Lib.Runs

/-- The length `xQueueCreate` gives the queue. -/
def wifiQueueLength : Nat := 30

/-- The state machine with automatic reconnect, its queue and its timer. -/
structure ReconnectSystem where
  wConnectionState : ConnectionState
  xWifiQueue : List ConnectionEvent
  timerActive : Bool
  /-- A disconnect was processed, and since then neither a STA_CONNECTED processed nor
  `WiFi.begin` called. -/
  owed : Bool
  deriving DecidableEq

/-- `xQueueSend` without waiting. -/
def ReconnectSystem.queueSend (s : ReconnectSystem) (event : ConnectionEvent) : ReconnectSystem :=
  if s.xWifiQueue.length < wifiQueueLength then { s with xWifiQueue := s.xWifiQueue ++ [event] }
  else s

/-- The timer after a call that the answers let through. -/
def timerAfter (ans : Answers) (active : Bool) : WifiCall → Bool
  | .timerReset => active || ans.timerReset
  | .timerStop => active && !ans.timerStop
  | _ => active

/-- Whether an attempt is owed after the message was processed with these calls. -/
def owedAfter (current : ConnectionState) (event : ConnectionEvent) (calls : List WifiCall)
    (owed : Bool) : Bool :=
  if event = .disconnected ∧ current ≠ .idle then true
  else if event = .staConnected ∨ .wifiBegin ∈ calls then false
  else owed

inductive ReconnectStep where
  /-- The driver emits an event. -/
  | driver (event : WifiEvent)
  /-- The timer expires, if it is active. -/
  | expire
  /-- The state machine takes a message; the flags are the answers of `xTimerReset`,
  `xTimerStop` and `wifi_is_connected`. -/
  | fsm (timerReset timerStop isConnected : Bool)
  deriving DecidableEq

def reconnectStep (s : ReconnectSystem) : ReconnectStep → Option ReconnectSystem
  | .driver event =>
    match wifiEventHandler event with
    | some msg => some (s.queueSend msg)
    | none => some s
  | .expire =>
    -- `vStaReconnectTimerCB`: a message that does not fit is lost
    if s.timerActive then some ({ s with timerActive := false }.queueSend .retryTimeout) else none
  | .fsm timerReset timerStop isConnected =>
    match s.xWifiQueue with
    | [] => none
    | event :: rest =>
      let ans : Answers := ⟨timerReset, timerStop, s.timerActive, isConnected⟩
      let r := wifiFSTMTask true ans s.wConnectionState event
      some {
        wConnectionState := r.1
        xWifiQueue := rest
        timerActive := r.2.foldl (timerAfter ans) s.timerActive
        owed := owedAfter s.wConnectionState event r.2 s.owed }

/-- No attempt is owed yet: after `wifi_start`, with whatever the queue and the timer hold. -/
def ReconnectSystem.boot (current : ConnectionState) (queue : List ConnectionEvent)
    (timerActive : Bool) : ReconnectSystem := ⟨current, queue, timerActive, false⟩

/-- An attempt that is owed is on its way. -/
def NotForgotten (s : ReconnectSystem) : Prop :=
  s.owed = true → s.timerActive = true ∨ .retryTimeout ∈ s.xWifiQueue

/-- Where the debt would be dropped, another carrier is left: a disconnect for which
`xTimerReset` fails finds the timer active or a timeout behind it in the queue, an expiry
that finds the queue full finds a timeout in it, and a timeout that is consumed without an
attempt finds the timer active or another timeout. -/
def HandsOver (s : ReconnectSystem) : ReconnectStep → Prop
  | .driver _ => True
  | .expire =>
    s.owed = true → s.xWifiQueue.length < wifiQueueLength ∨ .retryTimeout ∈ s.xWifiQueue
  | .fsm timerReset _ isConnected =>
    match s.xWifiQueue with
    | .disconnected :: rest =>
      s.wConnectionState ≠ .idle → timerReset = false →
        s.timerActive = true ∨ .retryTimeout ∈ rest
    | .retryTimeout :: rest =>
      s.owed = true → ¬ (s.wConnectionState = .retryWait ∧ isConnected = false) →
        s.timerActive = true ∨ .retryTimeout ∈ rest
    | _ => True

/-! ## One message -/

/-- What a message does to the debt and to the timer. -/
inductive DebtEffect (ans : Answers) (active owed : Bool) (current : ConnectionState) :
    ConnectionEvent → Bool → Bool → Prop where
  | incurred (h : current ≠ .idle) :
    DebtEffect ans active owed current .disconnected (active || ans.timerReset) true
  | connected (active' : Bool) : DebtEffect ans active owed current .staConnected active' false
  | retried (h : current = .retryWait) (hdown : ans.isConnected = false) :
    DebtEffect ans active owed current .retryTimeout active false
  | dropped (h : ¬ (current = .retryWait ∧ ans.isConnected = false)) :
    DebtEffect ans active owed current .retryTimeout active owed
  | begun : DebtEffect ans active owed current .start active false
  | ignored (event : ConnectionEvent) (h : event ≠ .retryTimeout)
      (hidle : event = .disconnected → current = .idle) :
    DebtEffect ans active owed current event active owed

theorem timer_retryOnDisconnect (ans : Answers) (current : ConnectionState) (active : Bool) :
    (retryOnDisconnect true ans current).2.foldl (timerAfter ans) active =
      (active || ans.timerReset) := by
  rw [retryOnDisconnect, if_pos rfl]
  split <;> rfl

theorem debtEffect_wifiFSTMTask (ans : Answers) (active owed : Bool) (current : ConnectionState)
    (event : ConnectionEvent) :
    DebtEffect ans active owed current event
      ((wifiFSTMTask true ans current event).2.foldl (timerAfter ans) active)
      (owedAfter current event (wifiFSTMTask true ans current event).2 owed) := by
  cases event with
  | start =>
    cases current with
    | idle => exact .begun
    | _ => exact .ignored _ (by decide) nofun
  | staConnected =>
    have howed (calls : List WifiCall) : owedAfter current .staConnected calls owed = false := by
      simp [owedAfter]
    rw [howed]
    exact .connected _
  | gotIp => cases current <;> exact .ignored _ (by decide) nofun
  | lostIp => cases current <;> exact .ignored _ (by decide) nofun
  | disconnected =>
    cases current with
    | idle => exact .ignored _ (by decide) fun _ => rfl
    | retryWait => exact .incurred (by decide)
    | connecting | connected | gotIp =>
      change DebtEffect _ _ _ _ _ ((retryOnDisconnect true ans _).2.foldl _ active) true
      rw [timer_retryOnDisconnect]
      exact .incurred (by decide)
  | retryTimeout =>
    cases current with
    | retryWait =>
      cases hconnected : ans.isConnected with
      | true =>
        have hcalls : (wifiFSTMTask true ans .retryWait .retryTimeout).2 = [] := by
          simp only [wifiFSTMTask, hconnected, if_true]
        rw [hcalls]
        exact .dropped fun h => nomatch hconnected.symm.trans h.2
      | false =>
        have hcalls : (wifiFSTMTask true ans .retryWait .retryTimeout).2 = [.wifiBegin] := by
          simp only [wifiFSTMTask, hconnected, Bool.false_eq_true, if_false]
        rw [hcalls]
        exact .retried rfl hconnected
    | _ => exact .dropped fun h => nomatch h.1

/-! ## Runs -/

theorem notForgotten_queueSend {s : ReconnectSystem} (hs : NotForgotten s)
    (event : ConnectionEvent) : NotForgotten (s.queueSend event) := by
  unfold ReconnectSystem.queueSend
  split
  · exact fun howed => (hs howed).imp_right (List.mem_append_left [event])
  · exact hs

/-- The callback carries the debt over exactly when the queue has room or a timeout. -/
theorem notForgotten_expire (s : ReconnectSystem) :
    NotForgotten ({ s with timerActive := false }.queueSend .retryTimeout) ↔
      (s.owed = true → s.xWifiQueue.length < wifiQueueLength ∨ .retryTimeout ∈ s.xWifiQueue) := by
  unfold ReconnectSystem.queueSend NotForgotten
  by_cases hroom : s.xWifiQueue.length < wifiQueueLength
  · rw [if_pos hroom]
    exact iff_of_true (fun _ => Or.inr (List.mem_append_right _ List.mem_cons_self))
      fun _ => Or.inl hroom
  · rw [if_neg hroom]
    refine forall_congr' fun _ => ?_
    simp only [Bool.false_eq_true, false_or, hroom]

/-- A processed message keeps an attempt on its way exactly when it hands the debt over. -/
theorem notForgotten_fsm {s s' : ReconnectSystem} {timerReset timerStop isConnected : Bool}
    (hs : NotForgotten s) (ha : reconnectStep s (.fsm timerReset timerStop isConnected) = some s') :
    NotForgotten s' ↔ HandsOver s (.fsm timerReset timerStop isConnected) := by
  obtain ⟨current, queue, active, owed⟩ := s
  cases queue with
  | nil => cases ha
  | cons event rest =>
    obtain rfl := Option.some.inj ha
    clear ha
    have heffect := debtEffect_wifiFSTMTask ⟨timerReset, timerStop, active, isConnected⟩ active owed
      current event
    have hold : owed = true → event ≠ .retryTimeout → active = true ∨ .retryTimeout ∈ rest :=
      fun howed hne => (hs howed).imp_right fun h =>
        (List.mem_cons.mp h).resolve_left fun heq => hne heq.symm
    unfold NotForgotten HandsOver
    simp only
    generalize (wifiFSTMTask _ _ _ _).2.foldl _ _ = active' at heffect ⊢
    generalize owedAfter _ _ _ _ = owed' at heffect ⊢
    cases heffect with
    | incurred hidle =>
      cases active <;> cases timerReset <;> simp [hidle]
    | connected => exact iff_of_true (fun h => nomatch h) trivial
    | retried hwait hdown =>
      exact iff_of_true (fun h => nomatch h) fun _ hnot => absurd ⟨hwait, hdown⟩ hnot
    | dropped hnot => exact ⟨fun h howed _ => h howed, fun h howed => h howed hnot⟩
    | begun => exact iff_of_true (fun h => nomatch h) trivial
    | ignored _ hne hidle =>
      refine iff_of_true (fun howed => hold howed hne) ?_
      cases event with
      | disconnected => exact fun hnot => absurd (hidle rfl) hnot
      | retryTimeout => exact absurd rfl hne
      | _ => trivial

theorem notForgotten_step (s : ReconnectSystem) (a : ReconnectStep) (s' : ReconnectSystem)
    (hs : NotForgotten s) (ha : reconnectStep s a = some s') : NotForgotten s' ↔ HandsOver s a := by
  cases a with
  | driver event =>
    refine iff_of_true ?_ trivial
    simp only [reconnectStep] at ha
    split at ha
    · obtain rfl := Option.some.inj ha
      exact notForgotten_queueSend hs _
    · obtain rfl := Option.some.inj ha
      exact hs
  | expire =>
    obtain ⟨-, rfl⟩ := of_guarded ha
    exact notForgotten_expire s
  | fsm timerReset timerStop isConnected => exact notForgotten_fsm hs ha

/-- **A reconnect is never forgotten, exactly** in the runs whose steps hand it over. -/
theorem reconnect_not_forgotten_iff (current : ConnectionState) (queue : List ConnectionEvent)
    (timerActive : Bool) (as : List ReconnectStep) :
    Always reconnectStep NotForgotten (.boot current queue timerActive) as ↔
      Throughout reconnectStep HandsOver (.boot current queue timerActive) as :=
  always_iff_throughout (fun _ hs => hs)
    (fun s a s' hs hc ha => (notForgotten_step s a s' hs ha).mpr hc)
    (fun s a s' hs hc ha => mt (notForgotten_step s a s' hs ha).mp hc)
    (fun howed => nomatch (show false = true from howed)) as

/-- The first attempt fails and `xTimerReset` is refused. -/
def refusedReset : List ReconnectStep :=
  [.fsm true true false, .driver .staDisconnected, .fsm false true false]

/-- Nothing is left that would try again. -/
theorem reconnect_forgotten :
    ¬ ∀ (current : ConnectionState) (queue : List ConnectionEvent) (timerActive : Bool)
      (as : List ReconnectStep), Always reconnectStep NotForgotten (.boot current queue timerActive) as := by
  intro hall
  have hlast : NotForgotten ⟨.connecting, [], false, true⟩ :=
    (hall .idle [.start] false refusedReset).last rfl
  revert hlast
  unfold NotForgotten
  decide

end XIoT.Wifi
