import XIoT.WifiService
import XIoT.Lib.Runs
import XIoT.Lib.Alternation

/-!
# Network up and network down

The posts of `APP_EVENT_NETWORK_UP` and `APP_EVENT_NETWORK_DOWN` over whole runs of
the Wi-Fi service, with any messages, any answers and any calls in between.
-/

namespace XIoT.Wifi

open Lib.TaskPool Lib.Runs Lib.Alternation

inductive WifiStep where
  | init (cfg : Option Bool) (timerMade queueMade : Bool)
  | start (taskMade sent : Bool)
  | stop (timerStopped : Bool)
  | message (h : TaskHandle) (event : ConnectionEvent) (ans : Answers)

/-- The service and every call it has made so far, oldest first. -/
structure WifiRun where
  vars : WifiVars
  calls : List WifiCall

def WifiRun.boot : WifiRun := ⟨.boot, []⟩

/-- A message is processed by any task that is alive. -/
def wifiStep (s : WifiRun) : WifiStep → Option WifiRun
  | .init cfg timerMade queueMade =>
    some { s with vars := (wifiInit s.vars cfg timerMade queueMade).1 }
  | .start taskMade sent =>
    let r := wifiStart s.vars taskMade sent
    some ⟨r.1, s.calls ++ r.2.1⟩
  | .stop timerStopped =>
    let r := wifiStop s.vars timerStopped
    some ⟨r.1, s.calls ++ r.2.1⟩
  | .message h event ans =>
    let r := wifiFSTMTask s.vars.autoReconnect ans s.vars.wConnectionState event
    if s.vars.tasks.Alive h then
      some ⟨{ s.vars with wConnectionState := r.1 }, s.calls ++ r.2⟩
    else none

/-- NETWORK_UP opens, NETWORK_DOWN closes. -/
def networkMark : WifiCall → Option Mark
  | .eventPost .networkUp => some .opening
  | .eventPost .networkDown => some .closing
  | _ => none

def networkMarks (calls : List WifiCall) : List Mark := calls.filterMap networkMark

/-- The posts alternate from UP on, and one more UP than DOWN was posted exactly in GOT_IP. -/
def NetworkPaired (s : WifiRun) : Prop :=
  StrictlyAlternates (networkMarks s.calls) ∧
    openCycles (networkMarks s.calls) = if s.vars.wConnectionState = .gotIp then 1 else 0

/-- A step that ends a connection leaves GOT_IP together with its NETWORK_DOWN: a
disconnect finds the automatic reconnect on and its timer ready, and no stop succeeds. -/
def ClosesNetwork (s : WifiRun) (a : WifiStep) : Prop :=
  s.vars.wConnectionState = .gotIp →
    match a with
    | .message _ .disconnected ans => s.vars.autoReconnect = true ∧ ans.timerReset = true
    | .stop timerStopped => ¬ (s.vars.gWifiState = .running ∧ timerStopped = true)
    | _ => True

/-! ## One step -/

theorem networkMarks_append (l m : List WifiCall) :
    networkMarks (l ++ m) = networkMarks l ++ networkMarks m := List.filterMap_append

/-- The posts a message causes, and whether the network counts as up after it. -/
inductive NetworkEffect (current next : ConnectionState) : List Mark → Prop where
  | same (h : next = .gotIp ↔ current = .gotIp) : NetworkEffect current next []
  | up (h : current ≠ .gotIp) (h' : next = .gotIp) : NetworkEffect current next [.opening]
  | down (h : current = .gotIp) (h' : next ≠ .gotIp) : NetworkEffect current next [.closing]

theorem NetworkEffect.apart {current next : ConnectionState} (h : current ≠ .gotIp)
    (h' : next ≠ .gotIp) : NetworkEffect current next [] :=
  .same ⟨fun hn => absurd hn h', fun hc => absurd hc h⟩

theorem networkEffect_retry (autoReconnect : Bool) (ans : Answers) {current : ConnectionState}
    (h : current ≠ .gotIp) :
    NetworkEffect current (retryOnDisconnect autoReconnect ans current).1
      (networkMarks (retryOnDisconnect autoReconnect ans current).2) := by
  unfold retryOnDisconnect
  split
  · split
    · exact .same Iff.rfl
    · exact .apart h (by decide)
  · exact .same Iff.rfl

theorem retryOnDisconnect_ok {autoReconnect : Bool} {ans : Answers} (hauto : autoReconnect = true)
    (hreset : ans.timerReset = true) (current : ConnectionState) :
    retryOnDisconnect autoReconnect ans current = (.retryWait, [.timerReset]) := by
  rw [retryOnDisconnect, if_pos hauto, hreset]
  rfl

theorem retryOnDisconnect_stuck {autoReconnect : Bool} {ans : Answers}
    (h : ¬ (autoReconnect = true ∧ ans.timerReset = true)) (current : ConnectionState) :
    (retryOnDisconnect autoReconnect ans current).1 = current := by
  unfold retryOnDisconnect
  split
  · next hauto =>
    have hreset : ans.timerReset = false := by
      rw [← Bool.not_eq_true]
      exact fun hr => h ⟨hauto, hr⟩
    rw [hreset]
    rfl
  · rfl

theorem networkMarks_retryOnDisconnect (autoReconnect : Bool) (ans : Answers)
    (current : ConnectionState) :
    networkMarks (retryOnDisconnect autoReconnect ans current).2 = [] := by
  unfold retryOnDisconnect
  split
  · split <;> rfl
  · rfl

/-- A message that is not a disconnect in GOT_IP keeps the posts in step with the state. -/
theorem networkEffect_wifiFSTMTask (autoReconnect : Bool) (ans : Answers)
    (current : ConnectionState) (event : ConnectionEvent)
    (hclose : current = .gotIp → event = .disconnected →
      autoReconnect = true ∧ ans.timerReset = true) :
    NetworkEffect current (wifiFSTMTask autoReconnect ans current event).1
      (networkMarks (wifiFSTMTask autoReconnect ans current event).2) := by
  cases current with
  | idle => cases event <;> exact .apart (by decide) (by simp [wifiFSTMTask])
  | connecting =>
    cases event with
    | disconnected => exact networkEffect_retry autoReconnect ans (by decide)
    | _ => exact .apart (by decide) (by simp [wifiFSTMTask])
  | connected =>
    cases event with
    | disconnected => exact networkEffect_retry autoReconnect ans (by decide)
    | gotIp => exact .up (by decide) rfl
    | _ => exact .apart (by decide) (by simp [wifiFSTMTask])
  | retryWait =>
    cases event with
    | staConnected =>
      simp only [wifiFSTMTask]
      split
      · split <;> exact .apart (by decide) (by decide)
      · exact .apart (by decide) (by decide)
    | retryTimeout =>
      simp only [wifiFSTMTask]
      split <;> exact .apart (by decide) (by decide)
    | _ => exact .apart (by decide) (by simp [wifiFSTMTask])
  | gotIp =>
    cases event with
    | lostIp => exact .down rfl (by simp [wifiFSTMTask])
    | disconnected =>
      obtain ⟨hauto, hreset⟩ := hclose rfl rfl
      simp only [wifiFSTMTask, retryOnDisconnect_ok hauto hreset]
      exact .down rfl (by decide)
    | _ => exact .same Iff.rfl

theorem NetworkEffect.balanced {current next : ConnectionState} {ms l : List Mark}
    (h : NetworkEffect current next ms) (hl : Balanced l (current = .gotIp)) :
    Balanced (l ++ ms) (next = .gotIp) := by
  cases h with
  | same h =>
    rw [List.append_nil]
    exact hl.congr h.symm
  | up h h' => exact hl.opened h h'
  | down h h' => exact hl.closed h h'

/-- The invariant behind `NetworkPaired`. -/
def Paired (s : WifiRun) : Prop :=
  Balanced (networkMarks s.calls) (s.vars.wConnectionState = .gotIp)

theorem paired_boot : Paired .boot := balanced_nil (by decide)

theorem Paired.networkPaired {s : WifiRun} (h : Paired s) : NetworkPaired s :=
  ⟨h.alternates, h.openCycles_eq⟩

/-- Calls that post nothing and leave the connection state alone keep the pairing. -/
theorem Paired.of_silent {s s' : WifiRun} (hs : Paired s)
    (hstate : s'.vars.wConnectionState = .gotIp ↔ s.vars.wConnectionState = .gotIp)
    (hmarks : networkMarks s'.calls = networkMarks s.calls) : Paired s' := by
  unfold Paired
  rw [hmarks]
  exact hs.congr hstate.symm

theorem wifiInit_connectionState (s : WifiVars) (cfg : Option Bool) (timerMade queueMade : Bool) :
    (wifiInit s cfg timerMade queueMade).1.wConnectionState = s.wConnectionState := by
  unfold wifiInit
  split
  · rfl
  · cases cfg with
    | none => rfl
    | some autoReconnect => cases timerMade <;> cases queueMade <;> rfl

theorem wifiStart_silent (s : WifiVars) (taskMade sent : Bool) :
    (wifiStart s taskMade sent).1.wConnectionState = s.wConnectionState ∧
      networkMarks (wifiStart s taskMade sent).2.1 = [] := by
  unfold wifiStart
  split
  · exact ⟨rfl, rfl⟩
  · cases taskMade <;> cases sent <;> exact ⟨rfl, rfl⟩

theorem networkMarks_wifiStop (s : WifiVars) (timerStopped : Bool) :
    networkMarks (wifiStop s timerStopped).2.1 = [] := by
  unfold wifiStop
  split
  · rfl
  · cases timerStopped <;> rfl

/-- Only a stop that succeeds touches the connection state. -/
theorem wifiStop_connectionState (s : WifiVars) (timerStopped : Bool) :
    (wifiStop s timerStopped).1.wConnectionState =
      if s.gWifiState = .running ∧ timerStopped = true then .idle else s.wConnectionState := by
  unfold wifiStop
  by_cases hrunning : s.gWifiState = .running
  · rw [if_neg (not_not.mpr hrunning)]
    cases timerStopped with
    | false => simp
    | true => simp [hrunning]
  · rw [if_pos hrunning, if_neg fun h => hrunning h.1]

theorem paired_wifiStep (s : WifiRun) (a : WifiStep) (s' : WifiRun) (hs : Paired s)
    (hclose : ClosesNetwork s a) (ha : wifiStep s a = some s') : Paired s' := by
  cases a with
  | init cfg timerMade queueMade =>
    obtain rfl := Option.some.inj ha
    refine hs.of_silent ?_ rfl
    rw [wifiInit_connectionState]
  | start taskMade sent =>
    obtain rfl := Option.some.inj ha
    obtain ⟨hstate, hmarks⟩ := wifiStart_silent s.vars taskMade sent
    refine hs.of_silent ?_ ?_
    · rw [hstate]
    · rw [networkMarks_append, hmarks, List.append_nil]
  | stop timerStopped =>
    obtain rfl := Option.some.inj ha
    refine hs.of_silent ?_ ?_
    · rw [wifiStop_connectionState]
      split
      · next hok =>
        exact ⟨nofun, fun h => absurd hok (hclose h)⟩
      · exact Iff.rfl
    · rw [networkMarks_append, networkMarks_wifiStop, List.append_nil]
  | message h event ans =>
    obtain ⟨-, rfl⟩ := of_guarded ha
    have heffect := networkEffect_wifiFSTMTask s.vars.autoReconnect ans s.vars.wConnectionState
      event fun hgot hdisc => by subst hdisc; exact hclose hgot
    unfold Paired
    rw [networkMarks_append]
    exact heffect.balanced hs

/-- A disconnect that GOT_IP survives, or a stop in GOT_IP, breaks the pairing. -/
theorem not_networkPaired_of_not_closes (s : WifiRun) (a : WifiStep) (s' : WifiRun)
    (hs : Paired s) (hclose : ¬ ClosesNetwork s a) (ha : wifiStep s a = some s') :
    ¬ NetworkPaired s' := by
  obtain ⟨hgot, hclose⟩ := Classical.not_imp.mp hclose
  rintro ⟨-, hcount⟩
  have hopen : openCycles (networkMarks s.calls) = 1 := by
    rw [hs.openCycles_eq, if_pos hgot]
  cases a with
  | init cfg timerMade queueMade => exact hclose trivial
  | start taskMade sent => exact hclose trivial
  | stop timerStopped =>
    obtain rfl := Option.some.inj ha
    have hidle : (wifiStop s.vars timerStopped).1.wConnectionState = .idle := by
      rw [wifiStop_connectionState, if_pos (not_not.mp hclose)]
    simp only [networkMarks_append, networkMarks_wifiStop, List.append_nil, hopen, hidle] at hcount
    exact absurd hcount (by decide)
  | message h event ans =>
    obtain ⟨-, rfl⟩ := of_guarded ha
    cases event with
    | disconnected =>
      -- the post is made, and the state stays where it was
      have hstays := retryOnDisconnect_stuck hclose .gotIp
      have hposts : networkMarks
          (.eventPost .networkDown :: (retryOnDisconnect s.vars.autoReconnect ans .gotIp).2) =
            [.closing] := congrArg (Mark.closing :: ·) (networkMarks_retryOnDisconnect ..)
      have hclosed : openCycles (networkMarks s.calls ++ [.closing]) = 0 :=
        (hs.closed hgot not_false).openCycles_eq
      simp only [wifiFSTMTask, hgot, networkMarks_append, hposts, hclosed, hstays] at hcount
      exact absurd hcount (by decide)
    | _ => exact hclose trivial

/-- **The network events are paired, exactly.** NETWORK_UP and NETWORK_DOWN alternate
in step with GOT_IP throughout a run if and only if each disconnect processed in
GOT_IP can start the retry and no stop succeeds in GOT_IP. -/
theorem network_paired_iff (as : List WifiStep) :
    Always wifiStep NetworkPaired .boot as ↔ Throughout wifiStep ClosesNetwork .boot as :=
  always_iff_throughout (fun _ h => h.networkPaired) paired_wifiStep
    not_networkPaired_of_not_closes paired_boot as

/-- All calls pass and the station is connected. -/
def allPass : Answers := ⟨true, true, true, true⟩

/-- A connection comes up and is lost, with the automatic reconnect off. -/
def lostWithoutReconnect : List WifiStep :=
  [.init (some false) true true, .start true true, .message 0 .start allPass,
   .message 0 .staConnected allPass, .message 0 .gotIp allPass, .message 0 .disconnected allPass]

/-- Without automatic reconnect the state stays GOT_IP after NETWORK_DOWN was posted. -/
theorem gotIp_after_networkDown :
    ¬ ∀ as : List WifiStep, Always wifiStep NetworkPaired .boot as := by
  intro hall
  have hcount := ((hall lostWithoutReconnect).last rfl).2
  exact absurd hcount (by decide)

end XIoT.Wifi
