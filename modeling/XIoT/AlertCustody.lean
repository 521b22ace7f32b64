import XIoT.AlertPath

/-!
# Every alert in order, and none unaccounted for

The path of an alert refines the ledger of its events: whatever the six tasks involved do,
the broker is told of alerts in the order they were posted, of each at most once, and every
alert posted is under way or lost at a known place. Some of these places say nothing.
-/

namespace XIoT.Alert

open Lib.Runs Lib.Custody
open Mqtt (TxPath TxItem TxStep TxLoss MqttStep)

/-! ## The ledger -/

/-- The event a message announces. -/
def eventOfItem (item : TxItem) : Option Event := (alertOfItem item).map AlertMsg.eventId

namespace AlertPath

/-- The alerts that have not reached the MQTT service, the foremost first. -/
def waiting (s : AlertPath) : List Event :=
  s.task.held.toList.map AlertMsg.eventId ++
    (s.gAlertQueue.map AlertMsg.eventId ++ s.events.filter IsAlert)

/-- The alerts among the messages of the MQTT service. -/
def transmitted (s : AlertPath) : Ledger Event := s.tx.ledger.filterMap eventOfItem

def ledger (s : AlertPath) : Ledger Event where
  entered := s.posted.filter IsAlert
  transit := s.transmitted.transit ++ s.waiting
  lost := s.lost.map Prod.fst ++ s.transmitted.lost

end AlertPath

/-- One more alert lost before the MQTT service. -/
theorem lost_snoc (s : AlertPath) (event : Event) :
    (s.lost.map Prod.fst ++ [event] ++ s.transmitted.lost).Perm (s.ledger.lost ++ [event]) := by
  rw [AlertPath.ledger, List.append_assoc, List.append_assoc]
  exact List.perm_append_comm.append_left _

section

variable {serializeJson : AlertDoc → String} {s s' : AlertPath}

/-- A message from another task does not enter the ledger of the alerts. -/
theorem entered_of_fromOthers {tx tx' : TxPath} {a : TxStep} (hothers : FromOthers a = true)
    (ha : Mqtt.txStep tx a = some tx') :
    (tx'.ledger.filterMap eventOfItem).entered = (tx.ledger.filterMap eventOfItem).entered := by
  rcases (Mqtt.txEffect_txStep ha).sent_eq with hsent | ⟨item, rfl, hsent⟩
  · simp only [Ledger.filterMap, TxPath.ledger, hsent]
  · have hitem : eventOfItem item = none := by
      rw [eventOfItem, Option.isNone_iff_eq_none.mp hothers, Option.map_none]
    simp [Ledger.filterMap, TxPath.ledger, hsent, hitem]

/-- An alert that waits before the MQTT service is lost there. -/
theorem step_lost {event : Event} {loss : AlertLoss} {l r : List Event}
    (hposted : s'.posted = s.posted) (htx : s'.tx = s.tx)
    (hlost : s'.lost = s.lost ++ [(event, loss)])
    (hbefore : s.waiting = l ++ event :: r) (hafter : s'.waiting = l ++ r) :
    s.ledger.Step s'.ledger := by
  have htransit : s.ledger.transit = s.transmitted.transit ++ l ++ event :: r := by
    simp [AlertPath.ledger, hbefore]
  have hledger : s'.ledger = ⟨s.ledger.entered, s.transmitted.transit ++ l ++ r,
      s.lost.map Prod.fst ++ [event] ++ s.transmitted.lost⟩ := by
    simp [AlertPath.ledger, AlertPath.transmitted, hposted, htx, hlost, hafter]
  rw [hledger]
  exact .lose _ event r _ htransit (lost_snoc s event)

/-- **Refinement.** Every step of the path is a step of the ledger. -/
theorem AlertEffect.ledger (h : AlertEffect serializeJson s s') :
    s.ledger.Step s'.ledger := by
  cases h with
  | post event =>
    cases halert : IsAlert event with
    | true =>
      have hledger : AlertPath.ledger
          { s with posted := s.posted ++ [event], events := s.events ++ [event] } =
          ⟨s.ledger.entered ++ [event], s.ledger.transit ++ [event], s.ledger.lost⟩ := by
        simp [AlertPath.ledger, AlertPath.transmitted, AlertPath.waiting, halert]
      rw [hledger]
      exact .enter event
    | false =>
      have hledger : AlertPath.ledger
          { s with posted := s.posted ++ [event], events := s.events ++ [event] } = s.ledger := by
        simp [AlertPath.ledger, AlertPath.transmitted, AlertPath.waiting, halert]
      rw [hledger]
      exact .refl _
  | refuse event halert =>
    have hledger : AlertPath.ledger { s with
        posted := s.posted ++ [event], lost := s.lost ++ [(event, .notPosted)] } =
        ⟨s.ledger.entered ++ [event], s.ledger.transit,
          s.lost.map Prod.fst ++ [event] ++ s.transmitted.lost⟩ := by
      simp [AlertPath.ledger, AlertPath.transmitted, AlertPath.waiting, halert]
    rw [hledger]
    exact .refuse event _ (lost_snoc s event)
  | refuseOther event halert =>
    have hledger : AlertPath.ledger { s with posted := s.posted ++ [event] } = s.ledger := by
      simp [AlertPath.ledger, AlertPath.transmitted, AlertPath.waiting, halert]
    rw [hledger]
    exact .refl _
  | pass event rest hevents halert =>
    have hledger : AlertPath.ledger { s with events := rest } = s.ledger := by
      simp [AlertPath.ledger, AlertPath.transmitted, AlertPath.waiting, hevents, halert]
    rw [hledger]
    exact .refl _
  | miss event rest loss hevents halert =>
    have hbefore : s.waiting = (s.task.held.toList.map AlertMsg.eventId ++
        s.gAlertQueue.map AlertMsg.eventId) ++ event :: rest.filter IsAlert := by
      simp [AlertPath.waiting, hevents, halert]
    exact step_lost rfl rfl rfl hbefore (List.append_assoc ..).symm
  | enqueue event rest now alert hevents halert hroom =>
    obtain ⟨hisAlert, hevent, -⟩ := announces_of_alertOf halert
    have hledger : AlertPath.ledger { s with
        events := rest, gAlertQueue := s.gAlertQueue ++ [alert] } = s.ledger := by
      simp [AlertPath.ledger, AlertPath.transmitted, AlertPath.waiting, hevents, hisAlert, hevent]
    rw [hledger]
    exact .refl _
  | service alert => exact .refl _
  | receive alert rest htask hqueue =>
    have hledger : AlertPath.ledger { s with gAlertQueue := rest, task := .publish alert } =
        s.ledger := by
      simp [AlertPath.ledger, AlertPath.transmitted, AlertPath.waiting, htask, hqueue,
        AlertPc.held]
    rw [hledger]
    exact .refl _
  | test alert htask =>
    have hledger : AlertPath.ledger { s with task := .send alert } = s.ledger := by
      simp [AlertPath.ledger, AlertPath.transmitted, AlertPath.waiting, htask, AlertPc.held]
    rw [hledger]
    exact .refl _
  | drop vars alert loss hheld =>
    have hbefore : s.waiting = [] ++ alert.eventId ::
        (s.gAlertQueue.map AlertMsg.eventId ++ s.events.filter IsAlert) := by
      simp [AlertPath.waiting, hheld]
    exact step_lost rfl rfl rfl hbefore rfl
  | send alert htask =>
    have hledger : AlertPath.ledger { s with
        task := .receive
        tx := { s.tx with
          gTxQueue := s.tx.gTxQueue ++ [⟨alertMessage serializeJson alert, .alertTask alert⟩]
          sent := s.tx.sent ++ [⟨alertMessage serializeJson alert, .alertTask alert⟩] } } =
        s.ledger := by
      simp [AlertPath.ledger, AlertPath.transmitted, AlertPath.waiting, htask, AlertPc.held,
        TxPath.ledger, Ledger.filterMap, eventOfItem, alertOfItem]
    rw [hledger]
    exact .refl _
  | tx a tx hothers ha =>
    exact ((Mqtt.txEffect_txStep ha).ledger.filterMap eventOfItem).behind
      (entered_of_fromOthers hothers ha) _ _ _

end

/-! ## The content of the alerts -/

/-- What is queued, held and sent announces its event, and the queue does not overflow. -/
structure AlertPath.Inv (serializeJson : AlertDoc → String) (s : AlertPath) : Prop where
  queued : ∀ alert ∈ s.gAlertQueue, Announces alert
  held : ∀ alert, s.task.held = some alert → Announces alert
  sent : ∀ item ∈ s.tx.sent, ∀ alert, alertOfItem item = some alert →
    item.msg = alertMessage serializeJson alert ∧ Announces alert
  bounded : s.gAlertQueue.length ≤ alertQueueLength
  transmitted : s.tx.ledger.Kept

section

variable {serializeJson : AlertDoc → String} {s s' : AlertPath}

theorem inv_alertBoot : AlertPath.boot.Inv serializeJson where
  queued := nofun
  held := nofun
  sent := nofun
  bounded := Nat.zero_le _
  transmitted := .empty

theorem inv_send {alert : AlertMsg} (hs : s.Inv serializeJson) (hheld : s.task.held = some alert) :
    ∀ item ∈ s.tx.sent ++ [⟨alertMessage serializeJson alert, .alertTask alert⟩],
      ∀ alert', alertOfItem item = some alert' →
        item.msg = alertMessage serializeJson alert' ∧ Announces alert' := by
  intro item hitem alert' halert'
  rcases List.mem_append.mp hitem with hold | hnew
  · exact hs.sent item hold alert' halert'
  · obtain rfl := List.mem_singleton.mp hnew
    obtain rfl := Option.some.inj halert'
    exact ⟨rfl, hs.held alert hheld⟩

theorem AlertEffect.inv (h : AlertEffect serializeJson s s') (hs : s.Inv serializeJson) :
    s'.Inv serializeJson := by
  cases h with
  | post | refuse | refuseOther | pass | miss | service =>
    exact ⟨hs.queued, hs.held, hs.sent, hs.bounded, hs.transmitted⟩
  | enqueue event rest now alert hevents halert hroom =>
    refine ⟨fun alert' hmem => ?_, hs.held, hs.sent, ?_, hs.transmitted⟩
    · rcases List.mem_append.mp hmem with hold | hnew
      · exact hs.queued alert' hold
      · rw [List.mem_singleton.mp hnew]
        exact (announces_of_alertOf halert).2.2
    · rw [List.length_append]
      exact hroom
  | receive alert rest htask hqueue =>
    have hqueued := hs.queued
    have hbounded := hs.bounded
    rw [hqueue] at hqueued hbounded
    refine ⟨fun alert' hmem => hqueued alert' (List.mem_cons_of_mem _ hmem), fun alert' halert' => ?_,
      hs.sent, Nat.le_of_succ_le hbounded, hs.transmitted⟩
    obtain rfl := Option.some.inj halert'
    exact hqueued alert List.mem_cons_self
  | test alert htask =>
    refine ⟨hs.queued, fun alert' halert' => hs.held alert' ?_, hs.sent, hs.bounded, hs.transmitted⟩
    rw [htask]
    exact halert'
  | drop vars alert loss hheld =>
    exact ⟨hs.queued, nofun, hs.sent, hs.bounded, hs.transmitted⟩
  | send alert htask =>
    have hheld : s.task.held = some alert := by rw [htask]; rfl
    refine ⟨hs.queued, nofun, inv_send hs hheld, hs.bounded, hs.transmitted.step ?_⟩
    simp only [TxPath.ledger, ← List.append_assoc]
    exact .enter _
  | tx a tx hothers ha =>
    refine ⟨hs.queued, hs.held, ?_, hs.bounded,
      hs.transmitted.step (Mqtt.txEffect_txStep ha).ledger⟩
    rcases (Mqtt.txEffect_txStep ha).sent_eq with hsent | ⟨item, rfl, hsent⟩
    · rw [show tx.sent = s.tx.sent from hsent]
      exact hs.sent
    · show ∀ item ∈ tx.sent, _
      rw [hsent]
      intro item' hitem' alert halert
      rcases List.mem_append.mp hitem' with hold | hnew
      · exact hs.sent item' hold alert halert
      · rw [List.mem_singleton.mp hnew, Option.isNone_iff_eq_none.mp hothers] at halert
        cases halert

/-- What the broker is told of the alerts. -/
structure TellsAlerts (serializeJson : AlertDoc → String) (s : AlertPath) : Prop where
  inOrder : (s.tx.published.filterMap eventOfItem).Sublist (s.posted.filter IsAlert)
  content : ∀ item ∈ s.tx.published, ∀ alert, alertOfItem item = some alert →
    item.msg = alertMessage serializeJson alert ∧
      alertText alert.eventId = some (alert.severity, alert.message)
  accounted : (s.lost.map Prod.fst ++
    ((s.tx.lost.map Prod.fst).filterMap eventOfItem ++
      ((s.tx.published ++ s.tx.hand.toList ++ s.tx.gTxQueue).filterMap eventOfItem ++
        s.waiting))).Perm (s.posted.filter IsAlert)

/-- **The broker is told of alerts in the order they were posted**, of each at most once
and in its own words, and every alert posted is told, under way, or lost at a known place. -/
theorem alerts_told_in_order (serializeJson : AlertDoc → String) (as : List AlertStep) :
    Always (alertStep serializeJson) (TellsAlerts serializeJson) .boot as := by
  have hboot : AlertPath.boot.ledger.Kept := .empty
  refine (always_kept AlertPath.ledger
    (fun s a s' hs ha => (alertEffect_alertStep ha).inv hs)
    (fun s a s' _ ha => (alertEffect_alertStep ha).ledger) inv_alertBoot hboot as).mono ?_
  intro s h
  obtain ⟨hs, hkept⟩ := h
  have hpublished : s.tx.published.Sublist s.tx.ledger.transit :=
    (List.sublist_append_left _ _).trans (List.sublist_append_left _ _)
  refine ⟨?_, fun item hitem => hs.sent item ?_, ?_⟩
  · exact ((hpublished.filterMap eventOfItem).trans (List.sublist_append_left _ s.waiting)).trans
      hkept.inOrder
  · exact (hpublished.trans hs.transmitted.inOrder).subset hitem
  · have haccounted := hkept.accounted
    rwa [AlertPath.ledger, List.append_assoc] at haccounted

end

/-! ## Losses that say nothing -/

/-- The alerts that were lost without a line in the log. -/
def AlertPath.silent (s : AlertPath) : List Event :=
  ((s.lost.filter fun loss => loss.2.logLine.isNone).map Prod.fst) ++
    ((s.tx.lost.filter fun loss => loss.2.logLine.isNone).map Prod.fst).filterMap eventOfItem

/-- The event loop runs the handler while the service is stopped, the service is stopped
between the receipt of an alert and the end of its `mqtt_publish`, an alert is not
serialized, or the MQTT service is stopped with an alert in the hand of its task. -/
def LosesSilently (serializeJson : AlertDoc → String) (s : AlertPath) : AlertStep → Prop
  | .deliver _ => s.alert.vars.gRunning = false ∧ ∃ event ∈ s.events.head?, IsAlert event = true
  | .stop => s.alert.vars.gRunning = true ∧ s.task.held ≠ none
  | .task _ => ∃ alert, s.task = .publish alert ∧ (alertMessage serializeJson alert).len = 0
  | .tx (.mqtt a) => s.tx.mqtt.deletesTask a = true ∧ ∃ item ∈ s.tx.hand, eventOfItem item ≠ none
  | _ => False

section

variable {serializeJson : AlertDoc → String} {s s' : AlertPath}

/-- A loss that is logged does not count as silent. -/
theorem silent_lose (event : Event) {loss : AlertLoss} (hlogged : loss.logLine.isNone = false) :
    (s.lose event loss).silent = s.silent := by
  unfold AlertPath.lose
  split
  · simp [AlertPath.silent, hlogged]
  · rfl

theorem silent_drop {loss : AlertLoss} (hlogged : loss.logLine.isNone = false) :
    (s.drop loss).silent = s.silent := by
  cases hheld : s.task.held <;> simp [AlertPath.silent, AlertPath.drop, hheld, hlogged]

/-- A loss that is not logged is silent from then on. -/
theorem silent_drop_ne {alert : AlertMsg} (hheld : s.task.held = some alert) {loss : AlertLoss}
    (hsilent : loss.logLine.isNone = true) : (s.drop loss).silent ≠ [] := by
  simp [AlertPath.silent, AlertPath.drop, hheld, hsilent]

/-- What a step does to the silent losses: none is added, or it is one that loses silently. -/
def Silence (serializeJson : AlertDoc → String) (s : AlertPath) (a : AlertStep)
    (s' : AlertPath) : Prop :=
  s'.silent = s.silent ∧ ¬ LosesSilently serializeJson s a ∨
    s'.silent ≠ [] ∧ LosesSilently serializeJson s a

theorem silence_deliver {now : BitVec 32} (ha : s.deliver now = some s') :
    Silence serializeJson s (.deliver now) s' := by
  unfold AlertPath.deliver at ha
  split at ha
  · cases ha
  · next event rest hevents =>
    obtain rfl := Option.some.inj ha
    unfold AlertPath.alertEventHandler
    cases hrunning : s.alert.vars.gRunning with
    | true =>
      refine Or.inl ⟨?_, fun h => ?_⟩
      · rw [if_neg (by simp)]
        split
        · rfl
        · split
          · rfl
          · exact silent_lose event rfl
      · rw [h.1] at hrunning
        cases hrunning
    | false =>
      rw [if_pos (show (!false) = true from rfl)]
      cases halert : IsAlert event with
      | true =>
        refine Or.inr ⟨?_, hrunning, event, by rw [hevents]; rfl, halert⟩
        simp [AlertPath.lose, halert, AlertPath.silent, AlertLoss.logLine]
      | false =>
        refine Or.inl ⟨?_, fun hsilent => ?_⟩
        · simp [AlertPath.lose, halert, AlertPath.silent]
        · obtain ⟨-, event', hevent', halert'⟩ := hsilent
          rw [hevents] at hevent'
          obtain rfl := Option.some.inj hevent'
          rw [halert] at halert'
          cases halert'

theorem alertStop_of_running (hrunning : s.alert.vars.gRunning = true) :
    s.alertStop = { s.drop .taskDeleted with alert := (Services.alertStop s.alert).1 } :=
  if_pos (by simp [Services.alertStop, Services.guardedStop, Services.alertGuards, hrunning])

theorem alertStop_of_stopped (hstopped : s.alert.vars.gRunning = false) : s.alertStop = s := by
  have hstop : Services.alertStop s.alert = (s.alert, .invalidState) := by
    simp [Services.alertStop, Services.guardedStop, Services.alertGuards, hstopped]
  rw [AlertPath.alertStop, hstop]
  rfl

theorem silence_stop : Silence serializeJson s .stop s.alertStop := by
  cases hrunning : s.alert.vars.gRunning with
  | false =>
    refine Or.inl ⟨by rw [alertStop_of_stopped hrunning], fun h => ?_⟩
    rw [h.1] at hrunning
    cases hrunning
  | true =>
    rw [alertStop_of_running hrunning]
    cases hheld : s.task.held with
    | none =>
      refine Or.inl ⟨?_, fun h => h.2 hheld⟩
      simp [AlertPath.silent, AlertPath.drop, hheld]
    | some alert => exact Or.inr ⟨silent_drop_ne hheld rfl, hrunning, by rw [hheld]; simp⟩

theorem silence_task {h : TaskHandle} (ha : s.alertTask serializeJson h = some s') :
    Silence serializeJson s (.task h) s' := by
  unfold AlertPath.alertTask at ha
  split at ha
  · split at ha
    · next htask =>
      split at ha
      · cases ha
      · obtain rfl := Option.some.inj ha
        refine Or.inl ⟨rfl, fun ⟨alert, htask', _⟩ => ?_⟩
        rw [htask] at htask'
        cases htask'
    · next alert htask =>
      have hheld : s.task.held = some alert := by rw [htask]; rfl
      simp only at ha
      split_ifs at ha with hempty htest
      · obtain rfl := Option.some.inj ha
        exact Or.inr ⟨silent_drop_ne hheld rfl, alert, htask, hempty⟩
      · obtain rfl := Option.some.inj ha
        refine Or.inl ⟨silent_drop rfl, fun ⟨alert', htask', hempty'⟩ => ?_⟩
        rw [htask] at htask'
        obtain rfl := AlertPc.publish.inj htask'
        exact hempty hempty'
      · obtain rfl := Option.some.inj ha
        refine Or.inl ⟨rfl, fun ⟨alert', htask', hempty'⟩ => ?_⟩
        rw [htask] at htask'
        obtain rfl := AlertPc.publish.inj htask'
        exact hempty hempty'
    · next alert htask =>
      have hother : ¬ LosesSilently serializeJson s (.task h) := by
        intro hloses
        obtain ⟨alert', htask', _⟩ := hloses
        rw [htask] at htask'
        cases htask'
      simp only at ha
      rcases Mqtt.send_cases s.tx ⟨alertMessage serializeJson alert, .alertTask alert⟩ with
        ⟨-, heq⟩ | heq
      · rw [heq, if_pos rfl] at ha
        obtain rfl := Option.some.inj ha
        exact Or.inl ⟨rfl, hother⟩
      · rw [heq, if_neg (show ¬ SysStatus.fail = .ok by decide)] at ha
        obtain rfl := Option.some.inj ha
        exact Or.inl ⟨silent_drop rfl, hother⟩
  · cases ha

/-- Of the messages that the MQTT service loses, those that its stop takes with the task
are not logged. -/
theorem silence_tx {a : TxStep} {tx : TxPath} (ha : Mqtt.txStep s.tx a = some tx) :
    Silence serializeJson s (.tx a) { s with tx := tx } := by
  cases a with
  | mqtt a =>
    obtain ⟨mqtt, -, rfl⟩ := Option.map_eq_some_iff.mp ha
    cases hdelete : s.tx.mqtt.deletesTask a with
    | false =>
      refine Or.inl ⟨rfl, fun h => ?_⟩
      have hdeletes : s.tx.mqtt.deletesTask a = true := h.1
      rw [hdelete] at hdeletes
      cases hdeletes
    | true =>
      rw [if_pos rfl]
      by_cases hitem : ∃ item ∈ s.tx.hand, eventOfItem item ≠ none
      · obtain ⟨item, hhand, hevent⟩ := hitem
        refine Or.inr ⟨?_, hdelete, item, hhand, hevent⟩
        obtain ⟨event, hevent⟩ := Option.ne_none_iff_exists'.mp hevent
        simp [AlertPath.silent, Mqtt.drop_eq hhand, TxLoss.logLine, hevent]
      · refine Or.inl ⟨?_, fun h => hitem h.2⟩
        cases hhand : s.tx.hand with
        | none => simp [AlertPath.silent, TxPath.drop, hhand]
        | some item =>
          have hevent : eventOfItem item = none := by
            by_contra hne
            exact hitem ⟨item, hhand, hne⟩
          simp [AlertPath.silent, Mqtt.drop_eq hhand, TxLoss.logLine, hevent]
  | send item =>
    obtain rfl := Option.some.inj ha
    refine Or.inl ⟨?_, id⟩
    rcases Mqtt.send_cases s.tx item with ⟨-, heq⟩ | heq
    · rw [heq]
      rfl
    · rw [heq]
  | receive h =>
    simp only [Mqtt.txStep, TxPath.receive] at ha
    split_ifs at ha
    split at ha
    · obtain rfl := Option.some.inj ha
      exact Or.inl ⟨rfl, id⟩
    · cases ha
  | transmit h refused =>
    simp only [Mqtt.txStep, TxPath.transmit] at ha
    cases hhand : s.tx.hand with
    | none => simp [hhand] at ha
    | some item =>
      simp only [hhand] at ha
      split_ifs at ha
      · obtain rfl := Option.some.inj ha
        exact Or.inl ⟨by simp [AlertPath.silent, Mqtt.drop_eq hhand, TxLoss.logLine], id⟩
      · obtain rfl := Option.some.inj ha
        exact Or.inl ⟨by simp [AlertPath.silent, Mqtt.drop_eq hhand, TxLoss.logLine], id⟩
      · obtain rfl := Option.some.inj ha
        exact Or.inl ⟨rfl, id⟩

theorem silence_alertStep {a : AlertStep} (ha : alertStep serializeJson s a = some s') :
    Silence serializeJson s a s' := by
  cases a with
  | post event accepted =>
    obtain rfl := Option.some.inj ha
    refine Or.inl ⟨?_, id⟩
    cases accepted with
    | true => rfl
    | false => exact silent_lose event rfl
  | deliver now => exact silence_deliver ha
  | start taskMade =>
    obtain rfl := Option.some.inj ha
    exact Or.inl ⟨rfl, id⟩
  | stop =>
    obtain rfl := Option.some.inj ha
    exact silence_stop
  | task h => exact silence_task ha
  | tx a =>
    simp only [alertStep] at ha
    split at ha
    · obtain ⟨tx, htx, rfl⟩ := Option.map_eq_some_iff.mp ha
      exact silence_tx htx
    · cases ha

end

/-- **An alert is lost without a trace in exactly four ways.** Every other loss is logged. -/
theorem alert_lost_silently_iff (serializeJson : AlertDoc → String) (as : List AlertStep) :
    Always (alertStep serializeJson) (fun s : AlertPath => s.silent = []) .boot as ↔
      Throughout (alertStep serializeJson) (fun s a => ¬ LosesSilently serializeJson s a)
        .boot as := by
  refine always_iff_throughout (I := fun s : AlertPath => s.silent = []) (fun _ h => h) ?_ ?_ rfl as
  · intro s a s' hs hkept ha
    rcases silence_alertStep ha with ⟨hsame, -⟩ | ⟨-, hloses⟩
    · exact hsame.trans hs
    · exact absurd hloses hkept
  · intro s a s' _ hloses ha
    rcases silence_alertStep ha with ⟨-, hkept⟩ | ⟨hsilent, -⟩
    · exact absurd hkept hloses
    · exact hsilent

end XIoT.Alert
