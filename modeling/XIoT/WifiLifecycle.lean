import XIoT.WifiService
import XIoT.Lib.Trace

/-!
# Wi-Fi calls that fail half way

`wifi_init`, `wifi_start` and `wifi_stop` each perform two fallible steps. A call whose
first step fails has done nothing; one whose second step fails returns an error and leaves
the first one done.
-/

namespace XIoT.Wifi

open Lib.TaskPool Lib.Trace

/-- The service with the number of timers and of queues it has created; none is deleted. -/
structure WifiService where
  vars : WifiVars
  timers : Nat
  queues : Nat

def WifiService.boot : WifiService := ⟨.boot, 0, 0⟩

/-- `wifi_init` gets as far as the creation of the timer. -/
def ReachesCreation (s : WifiService) (cfg : Option Bool) : Prop :=
  s.vars.gWifiState = .deinitialized ∧ cfg.isSome = true

instance (s : WifiService) (cfg : Option Bool) : Decidable (ReachesCreation s cfg) :=
  inferInstanceAs (Decidable (_ ∧ _))

inductive LifeStep where
  | init (cfg : Option Bool) (timerMade queueMade : Bool)
  | start (taskMade sent : Bool)
  | stop (timerStopped : Bool)
  /-- The task with the handle `h` processes a message. -/
  | message (h : TaskHandle) (event : ConnectionEvent) (ans : Answers)

/-- A call returns its status; a task that is not alive does nothing. -/
def lifeStep (s : WifiService) : LifeStep → WifiService × List SysStatus
  | .init cfg timerMade queueMade =>
    let r := wifiInit s.vars cfg timerMade queueMade
    -- the timer is created before the queue, and only once the tests have passed
    let timer := decide (ReachesCreation s cfg) && timerMade
    (⟨r.1, s.timers + timer.toNat, s.queues + (timer && queueMade).toNat⟩, [r.2])
  | .start taskMade sent =>
    let r := wifiStart s.vars taskMade sent
    ({ s with vars := r.1 }, [r.2.2])
  | .stop timerStopped =>
    let r := wifiStop s.vars timerStopped
    ({ s with vars := r.1 }, [r.2.2])
  | .message h event ans =>
    let r := wifiFSTMTask s.vars.autoReconnect ans s.vars.wConnectionState event
    if s.vars.tasks.Alive h then ({ s with vars := { s.vars with wConnectionState := r.1 } }, [])
    else (s, [])

abbrev LifeRecord := Record WifiService LifeStep SysStatus

/-- The two states, the live tasks and the created objects are the same. -/
structure SameService (s t : WifiService) : Prop where
  gWifiState : t.vars.gWifiState = s.vars.gWifiState
  wConnectionState : t.vars.wConnectionState = s.vars.wConnectionState
  alive : ∀ h, t.vars.tasks.Alive h ↔ s.vars.tasks.Alive h
  timers : t.timers = s.timers
  queues : t.queues = s.queues

/-- A call that does not return `SYS_OK` has done nothing; at most one task is alive, and
one is exactly in `WIFI_STATE_RUNNING`. -/
structure FailsAtomically (r : LifeRecord) : Prop where
  unchanged : ∀ status ∈ r.out, status ≠ .ok → SameService r.pre r.post
  atMostOne : ∀ h k, r.post.vars.tasks.Alive h → r.post.vars.tasks.Alive k → h = k
  running_iff : r.post.vars.gWifiState = .running ↔ ∃ h, r.post.vars.tasks.Alive h

/-- No call fails at its second step: the queue behind the timer, the message behind the
task, the timer behind the deleted task. -/
def SecondStepSucceeds (r : LifeRecord) : Prop :=
  match r.label with
  | .init cfg timerMade queueMade =>
    ReachesCreation r.pre cfg → timerMade = true → queueMade = true
  | .start taskMade sent =>
    r.pre.vars.gWifiState = .initialized ∨ r.pre.vars.gWifiState = .stopped →
      taskMade = true → sent = true
  | .stop timerStopped => r.pre.vars.gWifiState = .running → timerStopped = true
  | .message _ _ _ => True

/-! ## What a call does -/

/-- The task of the handle is alive in `RUNNING`, and no other task ever is. -/
def LifeInv (s : WifiService) : Prop :=
  s.vars.tasks.SoleTask s.vars.xWifiTaskHandle (s.vars.gWifiState = .running)

theorem lifeInv_boot : LifeInv .boot := Pool.SoleTask.empty fun h => nomatch h

theorem SameService.refl (s : WifiService) : SameService s s := ⟨rfl, rfl, fun _ => Iff.rfl, rfl, rfl⟩

/-- The invariant and an unchanged state are all that the property asks for. -/
theorem LifeInv.failsAtomically {r : LifeRecord} (h : LifeInv r.post)
    (hsame : ∀ status ∈ r.out, status ≠ .ok → SameService r.pre r.post) : FailsAtomically r :=
  ⟨hsame, fun _ _ hh hk => h.unique hh hk, h.running_iff⟩

/-- A call that leaves all but `gConfig` as it was. -/
theorem keeps_of_same {s t : WifiService} {a : LifeStep} (hs : LifeInv s)
    (hpost : (lifeStep s a).1 = t) (hsame : SameService s t)
    (hhandle : t.vars.xWifiTaskHandle = s.vars.xWifiTaskHandle) :
    LifeInv (lifeStep s a).1 ∧ FailsAtomically (record lifeStep s a) := by
  subst hpost
  have hinv : LifeInv (lifeStep s a).1 := by
    refine ⟨fun hrunning => ?_, fun hnot k hk => ?_⟩
    · obtain ⟨h, hh, hk⟩ := hs.held (hsame.gWifiState ▸ hrunning)
      exact ⟨h, hhandle.trans hh, fun k => (hsame.alive k).trans (hk k)⟩
    · exact hs.resting (hsame.gWifiState ▸ hnot) k ((hsame.alive k).mp hk)
  exact ⟨hinv, LifeInv.failsAtomically (r := record lifeStep s a) hinv fun _ _ _ => hsame⟩

/-- A call that returns `SYS_OK` only has to keep the invariant. -/
theorem keeps_of_ok {s : WifiService} {a : LifeStep} (hinv : LifeInv (lifeStep s a).1)
    (hok : (lifeStep s a).2 = [.ok]) :
    LifeInv (lifeStep s a).1 ∧ FailsAtomically (record lifeStep s a) := by
  refine ⟨hinv, LifeInv.failsAtomically (r := record lifeStep s a) hinv fun status hst hne => ?_⟩
  change status ∈ (lifeStep s a).2 at hst
  rw [hok] at hst
  exact absurd (List.mem_singleton.mp hst) hne

theorem init_keeps {s : WifiService} {cfg : Option Bool} {timerMade queueMade : Bool}
    (hs : LifeInv s) (hc : ReachesCreation s cfg → timerMade = true → queueMade = true) :
    LifeInv (lifeStep s (.init cfg timerMade queueMade)).1 ∧
      FailsAtomically (record lifeStep s (.init cfg timerMade queueMade)) := by
  by_cases hreach : ReachesCreation s cfg
  · obtain ⟨hstate, hcfg⟩ := id hreach
    obtain ⟨autoReconnect, rfl⟩ := Option.isSome_iff_exists.mp hcfg
    have hguard : ¬ s.vars.gWifiState ≠ .deinitialized := not_not.mpr hstate
    cases timerMade with
    | false =>
      refine keeps_of_same hs (t := ⟨{ s.vars with autoReconnect := autoReconnect }, s.timers, s.queues⟩)
        ?_ ⟨rfl, rfl, fun _ => Iff.rfl, rfl, rfl⟩ rfl
      simp [lifeStep, wifiInit, hguard]
    | true =>
      obtain rfl := hc hreach rfl
      have hpost : (lifeStep s (.init (some autoReconnect) true true)).1.vars =
          { s.vars with autoReconnect := autoReconnect, gWifiState := .initialized } := by
        simp [lifeStep, wifiInit, hguard]
      refine keeps_of_ok ?_ (by simp [lifeStep, wifiInit, hguard])
      rw [LifeInv, hpost]
      refine hs.congr (iff_of_false (fun h => nomatch h) ?_)
      rw [hstate]
      decide
  · refine keeps_of_same hs (t := s) ?_ (.refl s) rfl
    by_cases hstate : s.vars.gWifiState = .deinitialized
    · cases cfg with
      | none => simp [lifeStep, wifiInit, hstate, hreach]
      | some autoReconnect => exact absurd ⟨hstate, rfl⟩ hreach
    · simp [lifeStep, wifiInit, hstate, hreach]

theorem start_keeps {s : WifiService} {taskMade sent : Bool} (hs : LifeInv s)
    (hc : s.vars.gWifiState = .initialized ∨ s.vars.gWifiState = .stopped →
      taskMade = true → sent = true) :
    LifeInv (lifeStep s (.start taskMade sent)).1 ∧
      FailsAtomically (record lifeStep s (.start taskMade sent)) := by
  by_cases hstate : s.vars.gWifiState = .initialized ∨ s.vars.gWifiState = .stopped
  · have hguard : ¬ (s.vars.gWifiState ≠ .initialized ∧ s.vars.gWifiState ≠ .stopped) :=
      fun h => hstate.elim h.1 h.2
    cases taskMade with
    | false =>
      refine keeps_of_same hs (t := s) ?_ (.refl s) rfl
      simp only [lifeStep, wifiStart, if_neg hguard, Bool.not_false, if_true]
    | true =>
      obtain rfl := hc hstate rfl
      have hrest : s.vars.gWifiState ≠ .running := by
        rcases hstate with h | h <;> rw [h] <;> decide
      have hpost : lifeStep s (.start true true) =
          ({ s with vars := { s.vars with
              tasks := s.vars.tasks.spawn ()
              xWifiTaskHandle := some s.vars.tasks.next
              gWifiState := .running } }, [.ok]) := by
        simp only [lifeStep, wifiStart, if_neg hguard, Bool.not_true, Bool.false_eq_true, if_false]
      refine keeps_of_ok ?_ (by rw [hpost])
      rw [hpost]
      exact hs.spawn hrest rfl ()
  · have hguard : s.vars.gWifiState ≠ .initialized ∧ s.vars.gWifiState ≠ .stopped :=
      not_or.mp hstate
    refine keeps_of_same hs (t := s) ?_ (.refl s) rfl
    simp only [lifeStep, wifiStart, if_pos hguard]

theorem deleteTask_eq (tasks : Pool Unit) (handle : Option TaskHandle) :
    deleteTask tasks handle = tasks.deleteSome handle := by
  cases handle <;> rfl

theorem stop_keeps {s : WifiService} {timerStopped : Bool} (hs : LifeInv s)
    (hc : s.vars.gWifiState = .running → timerStopped = true) :
    LifeInv (lifeStep s (.stop timerStopped)).1 ∧
      FailsAtomically (record lifeStep s (.stop timerStopped)) := by
  by_cases hstate : s.vars.gWifiState = .running
  · obtain rfl := hc hstate
    have hguard : ¬ s.vars.gWifiState ≠ .running := not_not.mpr hstate
    have hpost : lifeStep s (.stop true) =
        ({ s with vars := { s.vars with
            tasks := deleteTask s.vars.tasks s.vars.xWifiTaskHandle
            xWifiTaskHandle := none
            wConnectionState := .idle
            gWifiState := .stopped } }, [.ok]) := by
      simp only [lifeStep, wifiStop, if_neg hguard, Bool.not_true, Bool.false_eq_true, if_false]
    refine keeps_of_ok ?_ (by rw [hpost])
    rw [hpost]
    change (deleteTask s.vars.tasks s.vars.xWifiTaskHandle).SoleTask none _
    rw [deleteTask_eq]
    exact hs.deleteSome (fun h => nomatch h) none
  · refine keeps_of_same hs (t := s) ?_ (.refl s) rfl
    simp only [lifeStep, wifiStop, if_pos hstate]

theorem lifeStep_keeps (s : WifiService) (a : LifeStep) (hs : LifeInv s)
    (hc : SecondStepSucceeds (record lifeStep s a)) :
    LifeInv (lifeStep s a).1 ∧ FailsAtomically (record lifeStep s a) := by
  cases a with
  | init cfg timerMade queueMade => exact init_keeps hs hc
  | start taskMade sent => exact start_keeps hs hc
  | stop timerStopped => exact stop_keeps hs hc
  | message h event ans =>
    have hinv : LifeInv (lifeStep s (.message h event ans)).1 := by
      simp only [lifeStep]
      split
      · exact hs
      · exact hs
    have hsilent : (lifeStep s (.message h event ans)).2 = [] := by
      simp only [lifeStep]
      split <;> rfl
    refine ⟨hinv, LifeInv.failsAtomically (r := record lifeStep s (.message h event ans)) hinv
      fun status hst _ => ?_⟩
    change status ∈ (lifeStep s (.message h event ans)).2 at hst
    rw [hsilent] at hst
    cases hst

/-- A second step that fails leaves a timer or a task behind, or has taken the task away. -/
theorem lifeStep_breaks (s : WifiService) (a : LifeStep) (hs : LifeInv s)
    (hc : ¬ SecondStepSucceeds (record lifeStep s a)) : ¬ FailsAtomically (record lifeStep s a) := by
  intro hatomic
  cases a with
  | init cfg timerMade queueMade =>
    simp only [SecondStepSucceeds, record, Classical.not_imp, Bool.not_eq_true] at hc
    obtain ⟨hreach, rfl, rfl⟩ := hc
    obtain ⟨hstate, hcfg⟩ := id hreach
    obtain ⟨autoReconnect, rfl⟩ := Option.isSome_iff_exists.mp hcfg
    have hguard : ¬ s.vars.gWifiState ≠ .deinitialized := not_not.mpr hstate
    have hout : (lifeStep s (.init (some autoReconnect) true false)).2 = [.noMemory] := by
      simp [lifeStep, wifiInit, hguard]
    have htimers : (lifeStep s (.init (some autoReconnect) true false)).1.timers = s.timers + 1 := by
      simp [lifeStep, hreach]
    have hsame := (hatomic.unchanged .noMemory (by rw [record, hout]; exact List.mem_cons_self)
      (by decide)).timers
    exact absurd (htimers.symm.trans hsame) (Nat.succ_ne_self _)
  | start taskMade sent =>
    simp only [SecondStepSucceeds, record, Classical.not_imp, Bool.not_eq_true] at hc
    obtain ⟨hstate, rfl, rfl⟩ := hc
    have hguard : ¬ (s.vars.gWifiState ≠ .initialized ∧ s.vars.gWifiState ≠ .stopped) :=
      fun h => hstate.elim h.1 h.2
    have hpost : lifeStep s (.start true false) =
        ({ s with vars := { s.vars with
            tasks := s.vars.tasks.spawn ()
            xWifiTaskHandle := some s.vars.tasks.next } }, [.fail]) := by
      simp only [lifeStep, wifiStart, if_neg hguard, Bool.not_true, Bool.false_eq_true, if_false,
        Bool.not_false, if_true]
    have hsame := (hatomic.unchanged .fail (by rw [record, hpost]; exact List.mem_cons_self)
      (by decide)).alive s.vars.tasks.next
    rw [record, hpost] at hsame
    exact Pool.not_alive_next s.vars.tasks (hsame.mp (Pool.alive_spawn.mpr (Or.inl rfl)))
  | stop timerStopped =>
    simp only [SecondStepSucceeds, record, Classical.not_imp, Bool.not_eq_true] at hc
    obtain ⟨hstate, rfl⟩ := hc
    obtain ⟨h, hh, halive⟩ := hs.held hstate
    have hguard : ¬ s.vars.gWifiState ≠ .running := not_not.mpr hstate
    have hpost : lifeStep s (.stop false) =
        ({ s with vars := { s.vars with
            tasks := s.vars.tasks.delete h, xWifiTaskHandle := none } }, [.fail]) := by
      simp only [lifeStep, wifiStop, if_neg hguard, hh, deleteTask, Bool.not_false, if_true]
    have hsame := (hatomic.unchanged .fail (by rw [record, hpost]; exact List.mem_cons_self)
      (by decide)).alive h
    rw [record, hpost] at hsame
    exact (Pool.alive_delete.mp (hsame.mpr ((halive h).mpr rfl))).1 rfl
  | message h event ans => exact hc trivial

/-- **Wi-Fi calls fail atomically, exactly** in the runs in which none fails half way. -/
theorem calls_atomic_iff (as : List LifeStep) :
    (∀ r ∈ trace lifeStep .boot as, FailsAtomically r) ↔
      ∀ r ∈ trace lifeStep .boot as, SecondStepSucceeds r :=
  forall_iff_forall lifeStep lifeStep_keeps lifeStep_breaks lifeInv_boot as

/-- The START message does not fit the queue: the task stays, and the next start adds another. -/
theorem start_fails_with_task :
    ¬ ∀ as : List LifeStep, ∀ r ∈ trace lifeStep .boot as, FailsAtomically r := by
  intro hall
  have hatomic := hall [.init (some true) true true, .start true false, .start true true] _
    (List.mem_cons_of_mem _ (List.mem_cons_of_mem _ List.mem_cons_self))
  have honly := hatomic.atMostOne 0 1 (by decide) (by decide)
  cases honly

end XIoT.Wifi
