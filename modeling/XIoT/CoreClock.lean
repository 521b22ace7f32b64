import XIoT.CoreInterlock
import XIoT.Lib.WrappingClock

/-!
# The cycle timer in true time

`millis()` wraps every 49.7 days, and an iteration reads it twice. With the true times of
the readings beside what the clock shows, the timer of every cycle fires when two minutes
have passed, wherever the wrap falls.
-/

namespace XIoT.Core

open Lib.Trace Lib.WrappingClock

/-- A step with the true times of the clock readings that its iteration makes, if it
makes them. -/
inductive ClockStep where
  | request
  | abort
  | iterate (smp : Sample) (startTime timerTime : ℕ)

/-- What the core gets to see: `millis()` is true time modulo `2 ^ 32`. -/
def ClockStep.shown : ClockStep → CoreStep
  | request => .request
  | abort => .abort
  | iterate smp startTime timerTime =>
    .iterate { smp with
      startMillis := Lib.WrappingClock.shown 32 startTime
      timerMillis := Lib.WrappingClock.shown 32 timerTime }

def clockStep (s : CoreState) (a : ClockStep) : CoreState × List CoreCall := coreStep s a.shown

abbrev ClockRecord := Record CoreState ClockStep CoreCall

def clockTrace (as : List ClockStep) : List ClockRecord := trace clockStep coreBoot as

/-- The iteration reaches priority 4. -/
def Sample.Running (smp : Sample) : Prop := smp.sensors.map Sensors.verdict = some .running

instance (smp : Sample) : Decidable smp.Running := inferInstanceAs (Decidable (_ = _))

theorem Sample.running_iff {smp : Sample} {rd : Sensors} (hrd : smp.sensors = some rd) :
    smp.Running ↔ rd.verdict = .running := by
  rw [Sample.Running, hrd, Option.map_some, Option.some_inj]

theorem Sample.not_running {smp : Sample} (hrd : smp.sensors = none) : ¬ smp.Running := by
  rw [Sample.Running, hrd]
  exact fun h => by cases h

/-- The reading that goes to `gRegenStartTime`. -/
def startReadings (r : ClockRecord) : List ℕ :=
  match r.label with
  | .iterate smp startTime _ =>
    if smp.Running ∧ r.pre.gState ≠ .regenRunning then [startTime] else []
  | .request => []
  | .abort => []

/-- The reading that is compared with `MAX_REGEN_TIME_MS`. -/
def timerReadings (r : ClockRecord) : List ℕ :=
  match r.label with
  | .iterate smp _ timerTime => if smp.Running then [timerTime] else []
  | .request => []
  | .abort => []

/-- All clock readings of a run, in order. -/
def clockReadings (tr : List ClockRecord) : List ℕ :=
  tr.flatMap fun r => startReadings r ++ timerReadings r

/-- The calls of the timer branch. -/
def timerCalls (r : ClockRecord) : List CoreCall :=
  match r.label with
  | .iterate smp startTime timerTime =>
    if smp.Running then
      (cycleTimer (cycleStart r.pre (shown 32 startTime)).1 (shown 32 timerTime)).2
    else []
  | .request => []
  | .abort => []

/-- The calls of an iteration before the timer branch: its evaluation up to there. -/
def callsBefore (r : ClockRecord) : List CoreCall :=
  match r.label with
  | .iterate smp startTime _ =>
    match smp.sensors with
    | none => []
    | some rd =>
      if rd.verdict = .running then (cycleStart r.pre (shown 32 startTime)).2
      else evaluatedCalls r.pre smp rd.verdict
  | .request => []
  | .abort => []

/-- The calls behind it: exit transition, mid-cycle protection and pending commands. -/
def callsBehind (r : ClockRecord) : List CoreCall :=
  match r.label with
  | .iterate smp _ _ =>
    match smp.sensors with
    | none => []
    | some rd => exitCalls r.pre rd.verdict ++ midCycleCalls r.pre rd ++ commandCalls r.pre rd.verdict
  | .request => []
  | .abort => []

/-- What the iteration calls are the calls of the timer branch between the others. -/
def CallsInOrder (r : ClockRecord) : Prop := r.out = callsBefore r ++ timerCalls r ++ callsBehind r

/-- The iteration compares at least `MAX_REGEN_TIME_MS` after the true time `start`. -/
def Due (start : ℕ) (r : ClockRecord) : Prop :=
  ∃ time ∈ timerReadings r, start + maxRegenTimeMs.toNat ≤ time

instance (start : ℕ) (r : ClockRecord) : Decidable (Due start r) :=
  inferInstanceAs (Decidable (∃ time ∈ timerReadings r, _))

def EntersRegen (r : ClockRecord) : Prop :=
  r.pre.gState ≠ .regenRunning ∧ r.post.gState = .regenRunning

/-- The timer over a cycle that started at the true time `start`. -/
structure TimerExact (start : ℕ) (cycle : List ClockRecord) : Prop where
  noted : ∀ r ∈ cycle, r.post.gRegenStartTime = shown 32 start
  first : ∀ m k n, cycle = m ++ k :: n →
    (.command false ∈ timerCalls k ↔ Due start k ∧ ∀ q ∈ m, ¬ Due start q)
  once : cycle.countP (fun r => .command false ∈ timerCalls r) =
    if ∃ q ∈ cycle, Due start q then 1 else 0

/-- Outside `REGEN_RUNNING` the flag is down and the timer sends nothing. -/
def TimerAtRest (r : ClockRecord) : Prop :=
  (r.pre.gState ≠ .regenRunning → r.pre.gRegenStopping = false) ∧
    (r.post.gState ≠ .regenRunning → r.post.gRegenStopping = false ∧ timerCalls r = [])

/-! ## One iteration -/

/-- The two timer variables as a latch. -/
def CoreState.latch (s : CoreState) : Latch 32 := ⟨s.gRegenStartTime, s.gRegenStopping⟩

theorem cycleTimer_latch (s : CoreState) (now : BitVec 32) :
    (cycleTimer s now).1.latch = (s.latch.tick maxRegenTimeMs now).1 ∧
      (.command false ∈ (cycleTimer s now).2 ↔ (s.latch.tick maxRegenTimeMs now).2 = true) := by
  unfold cycleTimer Latch.tick
  by_cases h : maxRegenTimeMs ≤ now - s.gRegenStartTime ∧ s.gRegenStopping = false
  · rw [if_pos h, if_pos (show _ ≤ now - s.latch.start ∧ s.latch.fired = false from h)]
    exact ⟨rfl, iff_of_true List.mem_cons_self rfl⟩
  · rw [if_neg h, if_neg (show ¬ (_ ≤ now - s.latch.start ∧ s.latch.fired = false) from h)]
    exact ⟨rfl, iff_of_false List.not_mem_nil Bool.false_ne_true⟩

theorem clockStep_pass (s : CoreState) {smp : Sample} {rd : Sensors} (h : smp.sensors = some rd)
    (startTime timerTime : ℕ) :
    clockStep s (.iterate smp startTime timerTime) =
      let seen := { smp with startMillis := shown 32 startTime, timerMillis := shown 32 timerTime }
      ((corePass s seen rd).core, (corePass s seen rd).calls) :=
  @coreStep_pass s
    { smp with startMillis := shown 32 startTime, timerMillis := shown 32 timerTime } rd h

theorem clockStep_skip (s : CoreState) {smp : Sample} (h : smp.sensors = none)
    (startTime timerTime : ℕ) : clockStep s (.iterate smp startTime timerTime) = (s, []) :=
  @coreStep_skip s
    { smp with startMillis := shown 32 startTime, timerMillis := shown 32 timerTime } h

theorem evaluatedCalls_of_not_running {s : CoreState} {v : Verdict} (hv : v ≠ .running)
    (smp smp' : Sample) : evaluatedCalls s smp v = evaluatedCalls s smp' v := by
  cases v with
  | running => exact absurd rfl hv
  | _ => rfl

theorem callsInOrder_record (s : CoreState) (a : ClockStep) : CallsInOrder (record clockStep s a) := by
  cases a with
  | request => rfl
  | abort => rfl
  | iterate smp startTime timerTime =>
    cases hrd : smp.sensors with
    | none =>
      have hnot := Sample.not_running hrd
      simp only [CallsInOrder, record, clockStep_skip s hrd, callsBefore, timerCalls, callsBehind, hrd,
        if_neg hnot]
      rfl
    | some rd =>
      have hrunning := Sample.running_iff hrd
      have hout : (record clockStep s (.iterate smp startTime timerTime)).out =
          (corePass s { smp with
            startMillis := shown 32 startTime, timerMillis := shown 32 timerTime } rd).calls :=
        congrArg Prod.snd (clockStep_pass s hrd startTime timerTime)
      rw [CallsInOrder, hout, corePass_eq]
      simp only [record, callsBefore, timerCalls, callsBehind, hrd]
      by_cases hv : rd.verdict = .running
      · rw [if_pos hv, if_pos (hrunning.mpr hv), hv]
        simp only [evaluatedCalls, List.append_assoc]
      · rw [if_neg hv, if_neg fun h => hv (hrunning.mp h), evaluatedCalls_of_not_running hv _ smp]
        simp only [List.append_nil, List.append_assoc]

/-- The timer variables a pass in priority 4 leaves. -/
theorem latch_corePass (s : CoreState) (smp : Sample) {rd : Sensors} (hv : rd.verdict = .running) :
    (corePass s smp rd).core.latch =
      (cycleTimer (cycleStart s smp.startMillis).1 smp.timerMillis).1.latch := by
  rw [corePass_eq]
  change (leftCore s smp rd.verdict).latch = _
  rw [leftCore, if_neg fun h => h.2 hv, evaluatedCore, if_pos hv]

/-- An iteration in priority 4, the latch armed at the true time `start`. -/
theorem running_tick {s : CoreState} {smp : Sample} {rd : Sensors} {startTime timerTime start : ℕ}
    {seen : List ℕ} (hrd : smp.sensors = some rd) (hv : rd.verdict = .running)
    (h : Tracks maxRegenTimeMs start seen (cycleStart s (shown 32 startTime)).1.latch)
    (hpaced : Paced maxRegenTimeMs (start :: (seen ++ [timerTime]))) :
    let r : ClockRecord := record clockStep s (.iterate smp startTime timerTime)
    timerReadings r = [timerTime] ∧
      (.command false ∈ timerCalls r ↔
        Due start r ∧ ∀ t ∈ seen, ¬ start + maxRegenTimeMs.toNat ≤ t) ∧
      Tracks maxRegenTimeMs start (seen ++ timerReadings r) r.post.latch := by
  intro r
  have hrunning : smp.Running := (Sample.running_iff hrd).mpr hv
  have hreadings : timerReadings r = [timerTime] := if_pos hrunning
  obtain ⟨hfires, htracks⟩ := h.tick hpaced
  obtain ⟨hlatch, hcalls⟩ := cycleTimer_latch (cycleStart s (shown 32 startTime)).1
    (shown 32 timerTime)
  have hdue : Due start r ↔ start + maxRegenTimeMs.toNat ≤ timerTime := by
    rw [Due, hreadings]
    simp only [List.mem_singleton, exists_eq_left]
  refine ⟨hreadings, ?_, ?_⟩
  · have htimer : timerCalls r =
        (cycleTimer (cycleStart s (shown 32 startTime)).1 (shown 32 timerTime)).2 :=
      if_pos hrunning
    rw [htimer, hcalls, hfires, hdue]
  · have hpost : r.post.latch =
        (cycleTimer (cycleStart s (shown 32 startTime)).1 (shown 32 timerTime)).1.latch := by
      change (clockStep s (.iterate smp startTime timerTime)).1.latch = _
      rw [clockStep_pass s hrd]
      exact latch_corePass s _ hv
    rw [hreadings, hpost, hlatch]
    exact htracks

/-- A step that ends in `REGEN_RUNNING` reached priority 4, or left everything as it was. -/
theorem running_cases {s : CoreState} {a : ClockStep}
    (hpost : (clockStep s a).1.gState = .regenRunning) :
    (∃ smp rd startTime timerTime, a = .iterate smp startTime timerTime ∧ smp.sensors = some rd ∧
        rd.verdict = .running) ∨
      (s.gState = .regenRunning ∧ (clockStep s a).1.latch = s.latch ∧
        timerReadings (record clockStep s a) = [] ∧ timerCalls (record clockStep s a) = []) := by
  cases a with
  | request =>
    obtain ⟨hg, hstop, hstart⟩ := coreRequestRegen_frame s
    refine Or.inr ⟨hg.symm.trans hpost, ?_, rfl, rfl⟩
    change Latch.mk (coreRequestRegen s).1.gRegenStartTime (coreRequestRegen s).1.gRegenStopping = _
    rw [hstop, hstart]
    rfl
  | abort =>
    obtain ⟨hg, hstop, hstart⟩ := coreAbortRegen_frame s
    refine Or.inr ⟨hg.symm.trans hpost, ?_, rfl, rfl⟩
    change Latch.mk (coreAbortRegen s).1.gRegenStartTime (coreAbortRegen s).1.gRegenStopping = _
    rw [hstop, hstart]
    rfl
  | iterate smp startTime timerTime =>
    cases hrd : smp.sensors with
    | none =>
      have hnot := Sample.not_running hrd
      rw [clockStep_skip s hrd] at hpost ⊢
      exact Or.inr ⟨hpost, rfl, if_neg hnot, if_neg hnot⟩
    | some rd =>
      rw [clockStep_pass s hrd] at hpost
      exact Or.inl ⟨smp, rd, startTime, timerTime, rfl, hrd,
        (corePass_gState_eq_regenRunning s _ rd).mp hpost⟩

/-! ## One cycle -/

/-- Within a cycle no start is read. -/
theorem startReadings_within {r : ClockRecord} (h : r.pre.gState = .regenRunning) :
    startReadings r = [] := by
  unfold startReadings
  split
  · exact if_neg fun hc => hc.2 h
  · rfl
  · rfl

theorem cycleStart_within {s : CoreState} (hs : s.gState = .regenRunning) (now : BitVec 32) :
    (cycleStart s now).1 = s := by
  rw [cycleStart, if_neg (not_not.mpr hs)]

/-- An iteration within a cycle, the latch armed at the true time `start`. -/
theorem stay_tick {s : CoreState} {a : ClockStep} {start : ℕ} {seen : List ℕ}
    (hs : s.gState = .regenRunning) (hpost : (clockStep s a).1.gState = .regenRunning)
    (h : Tracks maxRegenTimeMs start seen s.latch)
    (hpaced : Paced maxRegenTimeMs (start :: (seen ++ timerReadings (record clockStep s a)))) :
    (.command false ∈ timerCalls (record clockStep s a) ↔
        Due start (record clockStep s a) ∧ ∀ t ∈ seen, ¬ start + maxRegenTimeMs.toNat ≤ t) ∧
      Tracks maxRegenTimeMs start (seen ++ timerReadings (record clockStep s a))
        (clockStep s a).1.latch := by
  rcases running_cases hpost with
    ⟨smp, rd, startTime, timerTime, rfl, hrd, hv⟩ | ⟨-, hlatch, hreadings, hcalls⟩
  · have hreading : timerReadings (record clockStep s (.iterate smp startTime timerTime)) =
        [timerTime] := if_pos ((Sample.running_iff hrd).mpr hv)
    rw [hreading] at hpaced
    rw [← cycleStart_within hs (shown 32 startTime)] at h
    exact (running_tick hrd hv h hpaced).2
  · rw [hlatch, hreadings, hcalls, Due, hreadings, List.append_nil]
    refine ⟨iff_of_false List.not_mem_nil fun hc => ?_, h⟩
    obtain ⟨t, ht, -⟩ := hc.1
    cases ht

theorem clockReadings_stay {tr : List ClockRecord} (h : ∀ r ∈ tr, r.pre.gState = .regenRunning) :
    clockReadings tr = tr.flatMap timerReadings := by
  refine List.flatMap_congr fun r hr => ?_
  rw [startReadings_within (h r hr), List.nil_append]

/-- The latch over the steps within a cycle. -/
theorem stay_run {s : CoreState} {as : List ClockStep} {start : ℕ} {seen : List ℕ}
    (hs : s.gState = .regenRunning)
    (hstay : ∀ r ∈ trace clockStep s as, r.post.gState = .regenRunning)
    (h : Tracks maxRegenTimeMs start seen s.latch)
    (hpaced : Paced maxRegenTimeMs
      (start :: (seen ++ (trace clockStep s as).flatMap timerReadings))) :
    (final clockStep s as).gState = .regenRunning ∧
      Tracks maxRegenTimeMs start (seen ++ (trace clockStep s as).flatMap timerReadings)
        (final clockStep s as).latch := by
  induction as generalizing s seen with
  | nil =>
    rw [trace, List.flatMap_nil, List.append_nil]
    exact ⟨hs, h⟩
  | cons a as ih =>
    have hpost : (clockStep s a).1.gState = .regenRunning := hstay _ List.mem_cons_self
    rw [trace, List.flatMap_cons, ← List.append_assoc] at hpaced ⊢
    have hnow := (stay_tick hs hpost h (List.IsChain.left_of_append hpaced)).2
    exact ih hpost (fun r hr => hstay r (List.mem_cons_of_mem _ hr)) hnow hpaced

/-- The iteration that enters a cycle arms the latch and compares at once. -/
theorem enters_tick {s : CoreState} {a : ClockStep} (hs : s.gState ≠ .regenRunning)
    (hpost : (clockStep s a).1.gState = .regenRunning) :
    ∃ start, startReadings (record clockStep s a) = [start] ∧
      (Paced maxRegenTimeMs (start :: timerReadings (record clockStep s a)) →
        (.command false ∈ timerCalls (record clockStep s a) ↔ Due start (record clockStep s a)) ∧
        Tracks maxRegenTimeMs start (timerReadings (record clockStep s a))
          (clockStep s a).1.latch) := by
  rcases running_cases hpost with ⟨smp, rd, start, timerTime, rfl, hrd, hv⟩ | ⟨hg, -⟩
  · have hrunning : smp.Running := (Sample.running_iff hrd).mpr hv
    have hreading : timerReadings (record clockStep s (.iterate smp start timerTime)) = [timerTime] :=
      if_pos hrunning
    have harmed : Tracks maxRegenTimeMs start [] (cycleStart s (shown 32 start)).1.latch := by
      rw [cycleStart, if_pos hs]
      exact tracks_armed maxRegenTimeMs start
    refine ⟨start, if_pos ⟨hrunning, hs⟩, fun hpaced => ?_⟩
    rw [hreading] at hpaced
    obtain ⟨-, hfires, htracks⟩ := running_tick hrd hv harmed hpaced
    refine ⟨hfires.trans ⟨And.left, fun hdue => ⟨hdue, fun t ht => by cases ht⟩⟩, ?_⟩
    rw [List.nil_append] at htracks
    exact htracks
  · exact absurd hg hs

theorem not_due_iff {start : ℕ} {m : List ClockRecord} :
    (∀ t ∈ m.flatMap timerReadings, ¬ start + maxRegenTimeMs.toNat ≤ t) ↔
      ∀ q ∈ m, ¬ Due start q := by
  simp only [Due, List.mem_flatMap]
  constructor
  · rintro h q hq ⟨t, ht, hdue⟩
    exact h t ⟨q, hq, ht⟩ hdue
  · rintro h t ⟨q, hq, ht⟩ hdue
    exact h q hq ⟨t, ht, hdue⟩

/-- Every iteration of a cycle, with the readings of the iterations before it. -/
theorem cycle_tick {s : CoreState} {a : ClockStep} {as : List ClockStep} {start : ℕ}
    (hs : s.gState ≠ .regenRunning) (hpost : (clockStep s a).1.gState = .regenRunning)
    (hstart : startReadings (record clockStep s a) = [start])
    (hstay : ∀ r ∈ trace clockStep (clockStep s a).1 as, r.post.gState = .regenRunning)
    (hpaced : Paced maxRegenTimeMs
      (clockReadings (record clockStep s a :: trace clockStep (clockStep s a).1 as)))
    {m n : List ClockRecord} {k : ClockRecord}
    (hk : record clockStep s a :: trace clockStep (clockStep s a).1 as = m ++ k :: n) :
    k.post.gRegenStartTime = shown 32 start ∧
      (.command false ∈ timerCalls k ↔ Due start k ∧ ∀ q ∈ m, ¬ Due start q) := by
  have hpre : ∀ r ∈ trace clockStep (clockStep s a).1 as, r.pre.gState = .regenRunning :=
    (trace_invariant clockStep (I := fun s => s.gState = .regenRunning)
      (fun _ _ _ h => h) hpost hstay).1
  have hreadings : clockReadings (record clockStep s a :: trace clockStep (clockStep s a).1 as) =
      start :: (timerReadings (record clockStep s a) ++
        (trace clockStep (clockStep s a).1 as).flatMap timerReadings) := by
    rw [← clockReadings_stay hpre, clockReadings, List.flatMap_cons, hstart]
    rfl
  rw [hreadings] at hpaced
  obtain ⟨start', hstart', henter⟩ := enters_tick hs hpost
  obtain rfl : start = start' := List.head_eq_of_cons_eq (hstart.symm.trans hstart')
  have hsplit : Paced maxRegenTimeMs ((start :: timerReadings (record clockStep s a)) ++
      (trace clockStep (clockStep s a).1 as).flatMap timerReadings) := hpaced
  have hfirst := henter (List.IsChain.left_of_append hsplit)
  cases m with
  | nil =>
    obtain ⟨rfl, -⟩ := List.cons.inj hk
    refine ⟨hfirst.2.noted, hfirst.1.trans ⟨fun h => ⟨h, fun q hq => by cases hq⟩, And.left⟩⟩
  | cons e m =>
    obtain ⟨rfl, htail⟩ := List.cons.inj hk
    have hrest : trace clockStep (clockStep s a).1 as = m ++ k :: n := htail
    obtain ⟨before, b, after, rfl, rfl, rfl, -⟩ := trace_split clockStep hrest
    rw [hrest, List.flatMap_append, List.flatMap_cons, ← List.append_assoc, ← List.append_assoc,
      ← List.cons_append] at hpaced
    have hpacedk := List.IsChain.left_of_append hpaced
    have hin : ∀ r ∈ trace clockStep (clockStep s a).1 before, r.post.gState = .regenRunning :=
      fun r hr => hstay r (by rw [hrest]; exact List.mem_append_left _ hr)
    obtain ⟨hg, htracks⟩ := stay_run hpost hin hfirst.2 (List.IsChain.left_of_append hpacedk)
    obtain ⟨hfires, htracks'⟩ := stay_tick hg
      (hstay (record clockStep (final clockStep (clockStep s a).1 before) b)
        (by rw [hrest]; exact List.mem_append_right _ List.mem_cons_self)) htracks hpacedk
    refine ⟨htracks'.noted, hfires.trans ?_⟩
    rw [← not_due_iff, List.flatMap_cons]

/-! ## All runs -/

theorem cycleInvariant_clock (as : List ClockStep) :
    CycleInvariant (final clockStep coreBoot as) (output clockStep coreBoot as) :=
  output_invariant clockStep (I := CycleInvariant) (fun _ _ a h => h.coreStep a.shown)
    cycleInvariant_boot as

theorem timerAtRest_of_mem {as : List ClockStep} {r : ClockRecord} (hr : r ∈ clockTrace as) :
    TimerAtRest r := by
  obtain ⟨before, a, rfl⟩ := reached_of_mem clockStep hr
  have hpre := (cycleInvariant_clock before).reset
  have hpost := (cycleInvariant_clock (before ++ [a])).reset
  rw [final_concat] at hpost
  refine ⟨fun hg => (hpre hg).1, fun hg => ⟨(hpost hg).1, ?_⟩⟩
  generalize final clockStep coreBoot before = s at hg ⊢
  cases a with
  | request => rfl
  | abort => rfl
  | iterate smp startTime timerTime =>
    refine if_neg fun hrunning => hg ?_
    obtain ⟨rd, hrd, hv⟩ := Option.map_eq_some_iff.mp hrunning
    change (clockStep s (.iterate smp startTime timerTime)).1.gState = _
    rw [clockStep_pass s hrd]
    exact (corePass_gState_eq_regenRunning s _ rd).mpr hv

theorem callsInOrder_of_mem {as : List ClockStep} {r : ClockRecord} (hr : r ∈ clockTrace as) :
    CallsInOrder r := by
  obtain ⟨before, a, rfl⟩ := reached_of_mem clockStep hr
  exact callsInOrder_record _ a

/-- **The cycle timer is exact across clock wrap.** `e` enters `REGEN_RUNNING` and `c` are
steps behind it that stay there. What the timer branch calls stands among the calls that the
iteration makes. -/
theorem cycle_timer_exact (as : List ClockStep)
    (hpaced : Paced maxRegenTimeMs (clockReadings (clockTrace as))) :
    (∀ h e c t, clockTrace as = h ++ e :: (c ++ t) → EntersRegen e →
      (∀ r ∈ c, r.post.gState = .regenRunning) →
      ∃ start, startReadings e = [start] ∧ TimerExact start (e :: c)) ∧
    (∀ r ∈ clockTrace as, CallsInOrder r) ∧ ∀ r ∈ clockTrace as, TimerAtRest r := by
  refine ⟨fun h e c t he henters hstay => ?_, fun r => callsInOrder_of_mem,
    fun r => timerAtRest_of_mem⟩
  have hwhole : Paced maxRegenTimeMs (clockReadings (e :: c)) := by
    have hreadings : clockReadings (clockTrace as) =
        clockReadings h ++ (clockReadings (e :: c) ++ clockReadings t) := by
      rw [he, ← List.cons_append, clockReadings, List.flatMap_append, List.flatMap_append]
      rfl
    rw [hreadings] at hpaced
    exact List.IsChain.left_of_append (List.IsChain.right_of_append hpaced)
  obtain ⟨before, a, rest, -, -, rfl, hrest⟩ := trace_split clockStep he
  obtain ⟨cs, -, -, rfl, -⟩ := trace_append_split clockStep hrest.symm
  obtain ⟨hs, hpost⟩ := henters
  obtain ⟨start, hstart, -⟩ := enters_tick hs hpost
  have htick (m k n) := cycle_tick (m := m) (k := k) (n := n) hs hpost hstart hstay hwhole
  have hfirst := fun m k n hk => (htick m k n hk).2
  refine ⟨start, hstart, fun r hr => ?_, hfirst, countP_of_first hfirst⟩
  obtain ⟨m, n, hk⟩ := List.append_of_mem hr
  exact (htick m r n hk).1

/-- The machine is seen running, both readings at one true time. -/
def runningAt (time : ℕ) : ClockStep :=
  .iterate (validSample goodPressure goodSalt true 0) time time

/-- A cycle that starts 50 seconds before the wrap and is seen 70 and 72 seconds after it. -/
def acrossWrap : List ClockStep :=
  [runningAt (2 ^ 32 - 50000), runningAt (2 ^ 32 + 70000), runningAt (2 ^ 32 + 72000)]

theorem timer_fires_across_wrap :
    (∃ start, startReadings (record clockStep coreBoot (runningAt (2 ^ 32 - 50000))) = [start] ∧
      TimerExact start (clockTrace acrossWrap)) ∧
    (∀ r ∈ clockTrace acrossWrap, CallsInOrder r) ∧
    (clockTrace acrossWrap).map Record.out = [[.post .regenStarted], [.command false], []] := by
  obtain ⟨hcycle, hcalls, -⟩ := cycle_timer_exact acrossWrap (by decide)
  refine ⟨hcycle [] _ (clockTrace acrossWrap).tail [] rfl ⟨by decide, by decide⟩ ?_, hcalls,
    by decide⟩
  intro r hr
  rcases List.mem_cons.mp hr with rfl | hr
  · decide
  · obtain rfl := List.mem_singleton.mp hr
    decide

end XIoT.Core
