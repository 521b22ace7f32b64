import XIoT.Core

/-!
# One pass in closed form

The evaluation is a choice among five verdicts. `corePass_eq` gives the state a
pass leaves and every call it makes, block by block, as a function of the verdict;
all properties of runs are derived from it without unfolding the pass again.
-/

namespace XIoT.Core

/-- Which of the five priorities of the evaluation a sample selects. -/
inductive Verdict where
  | dataLoss
  | lowPressure
  | lowSalt
  | running
  | normal
  deriving DecidableEq, Repr

namespace Verdict

def nextState : Verdict → WsState
  | dataLoss => .idle
  | lowPressure => .fault
  | lowSalt => .fault
  | running => .regenRunning
  | normal => .monitoring

def isFault : Verdict → Bool
  | dataLoss | lowPressure | lowSalt => true
  | running | normal => false

theorem nextState_eq_regenRunning {v : Verdict} : v.nextState = .regenRunning ↔ v = running := by
  cases v <;> simp [nextState]

end Verdict

def Sensors.verdict (rd : Sensors) : Verdict :=
  if !rd.processDataValid then .dataLoss
  else if rd.lowPressure then .lowPressure
  else if rd.lowSalt then .lowSalt
  else if rd.isRegenerating then .running
  else .normal

/-- The module state the evaluation leaves: only a running cycle touches it. -/
def evaluatedCore (s : CoreState) (smp : Sample) (v : Verdict) : CoreState :=
  if v = .running then (cycleTimer (cycleStart s smp.startMillis).1 smp.timerMillis).1 else s

/-- The calls the evaluation makes. -/
def evaluatedCalls (s : CoreState) (smp : Sample) : Verdict → List CoreCall
  | .dataLoss => if s.gState ≠ .idle then [.post .faultDataLoss] else []
  | .lowPressure => if s.gState ≠ .fault then [.post .faultLowPressure] else []
  | .lowSalt => if s.gState ≠ .fault then [.post .faultLowSalt] else []
  | .running =>
    (cycleStart s smp.startMillis).2 ++
      (cycleTimer (cycleStart s smp.startMillis).1 smp.timerMillis).2
  | .normal => []

theorem evaluateState_eq (s : CoreState) (smp : Sample) (rd : Sensors) :
    evaluateState s smp rd =
      ⟨evaluatedCore s smp rd.verdict, rd.verdict.nextState, rd.verdict.isFault,
        evaluatedCalls s smp rd.verdict⟩ := by
  unfold evaluateState Sensors.verdict
  split
  · rfl
  split
  · rfl
  split
  · rfl
  split <;> rfl

/-! ## Pending flags -/

def CoreState.setFlags (s : CoreState) (regen abort : Bool) : CoreState :=
  { s with gRegenPending := regen, gAbortPending := abort }

theorem cycleStart_setFlags (s : CoreState) (t : BitVec 32) (regen abort : Bool) :
    cycleStart (s.setFlags regen abort) t =
      ((cycleStart s t).1.setFlags regen abort, (cycleStart s t).2) := by
  unfold cycleStart
  by_cases h : s.gState ≠ .regenRunning
  · rw [if_pos h, if_pos (show (s.setFlags regen abort).gState ≠ _ from h)]
    rfl
  · rw [if_neg h, if_neg (show ¬ (s.setFlags regen abort).gState ≠ _ from h)]

theorem cycleTimer_setFlags (s : CoreState) (t : BitVec 32) (regen abort : Bool) :
    cycleTimer (s.setFlags regen abort) t =
      ((cycleTimer s t).1.setFlags regen abort, (cycleTimer s t).2) := by
  unfold cycleTimer CoreState.setFlags
  split <;> rfl

def Pass.setFlags (p : Pass) (regen abort : Bool) : Pass :=
  { p with core := p.core.setFlags regen abort }

theorem evaluateState_setFlags (s : CoreState) (smp : Sample) (rd : Sensors) (regen abort : Bool) :
    evaluateState (s.setFlags regen abort) smp rd =
      (evaluateState s smp rd).setFlags regen abort := by
  rw [evaluateState_eq, evaluateState_eq]
  cases rd.verdict with
  | running =>
    simp only [evaluatedCore, evaluatedCalls, cycleStart_setFlags, cycleTimer_setFlags, if_true,
      Pass.setFlags]
  | dataLoss | lowPressure | lowSalt | normal => rfl

theorem exitTransition_setFlags (previousState : WsState) (p : Pass) (regen abort : Bool) :
    exitTransition previousState (p.setFlags regen abort) =
      (exitTransition previousState p).setFlags regen abort := by
  unfold exitTransition
  by_cases h : previousState = .regenRunning ∧ p.newState ≠ .regenRunning
  · rw [if_pos h, if_pos (show _ ∧ (p.setFlags regen abort).newState ≠ _ from h)]
    rfl
  · rw [if_neg h, if_neg (show ¬ (_ ∧ (p.setFlags regen abort).newState ≠ _) from h)]

theorem midCycleFaultProtection_setFlags (previousState : WsState) (rd : Sensors) (p : Pass)
    (regen abort : Bool) :
    midCycleFaultProtection previousState rd (p.setFlags regen abort) =
      (midCycleFaultProtection previousState rd p).setFlags regen abort := by
  unfold midCycleFaultProtection
  by_cases h : p.systemFault ∧ rd.isRegenerating ∧ p.newState ≠ .regenRunning ∧
      previousState = .regenRunning
  · rw [if_pos h, if_pos (show (p.setFlags regen abort).systemFault ∧ _ ∧
      (p.setFlags regen abort).newState ≠ _ ∧ _ from h)]
    rfl
  · rw [if_neg h, if_neg (show ¬ ((p.setFlags regen abort).systemFault ∧ _ ∧
      (p.setFlags regen abort).newState ≠ _ ∧ _) from h)]

/-- The evaluation neither reads nor writes the pending flags. -/
theorem evaluationPass_setFlags (s : CoreState) (smp : Sample) (rd : Sensors) (regen abort : Bool) :
    evaluationPass (s.setFlags regen abort) smp rd =
      (evaluationPass s smp rd).setFlags regen abort := by
  have hg : (s.setFlags regen abort).gState = s.gState := rfl
  simp only [evaluationPass, hg, evaluateState_setFlags, exitTransition_setFlags,
    midCycleFaultProtection_setFlags]
  rfl

/-! ## The calls of each block -/

def exitCalls (s : CoreState) (v : Verdict) : List CoreCall :=
  if s.gState = .regenRunning ∧ v ≠ .running then
    if v.isFault then [.command false, .post .regenFailed] else [.post .regenCompleted]
  else []

def midCycleCalls (s : CoreState) (rd : Sensors) : List CoreCall :=
  if rd.verdict.isFault ∧ rd.isRegenerating ∧ s.gState = .regenRunning then [.command false] else []

def commandCalls (s : CoreState) (v : Verdict) : List CoreCall :=
  if s.gAbortPending then if v = .running then [.command false] else []
  else if s.gRegenPending ∧ v = .normal then [.command true] else []

theorem verdict_eq_dataLoss {rd : Sensors} :
    rd.verdict = .dataLoss ↔ rd.processDataValid = false := by
  unfold Sensors.verdict
  cases rd.processDataValid
  · simp
  · simp only [Bool.not_true, Bool.false_eq_true, if_false]
    split_ifs <;> simp

theorem evaluatedCore_frame (s : CoreState) (smp : Sample) (v : Verdict) :
    (evaluatedCore s smp v).gState = s.gState ∧
    (evaluatedCore s smp v).gTaskHandle = s.gTaskHandle ∧
    (evaluatedCore s smp v).gInitialized = s.gInitialized ∧
    (evaluatedCore s smp v).gRegenPending = s.gRegenPending ∧
    (evaluatedCore s smp v).gAbortPending = s.gAbortPending := by
  unfold evaluatedCore cycleTimer cycleStart
  split_ifs <;> exact ⟨rfl, rfl, rfl, rfl, rfl⟩

/-- The exit transition after an evaluation with verdict `v`. -/
theorem exitTransition_eq (s core : CoreState) (v : Verdict) (calls : List CoreCall) :
    exitTransition s.gState ⟨core, v.nextState, v.isFault, calls⟩ =
      ⟨if s.gState = .regenRunning ∧ v ≠ .running then
          { core with gRegenStopping := false, gRegenStartTime := 0 } else core,
        v.nextState, v.isFault, calls ++ exitCalls s v⟩ := by
  unfold exitTransition exitCalls
  simp only [ne_eq, Verdict.nextState_eq_regenRunning, ite_self]
  split
  · rfl
  · rw [List.append_nil]

theorem midCycleFaultProtection_eq (s core : CoreState) (rd : Sensors) (calls : List CoreCall) :
    midCycleFaultProtection s.gState rd ⟨core, rd.verdict.nextState, rd.verdict.isFault, calls⟩ =
      ⟨core, rd.verdict.nextState, rd.verdict.isFault, calls ++ midCycleCalls s rd⟩ := by
  have hn : rd.verdict.isFault = true → rd.verdict.nextState ≠ .regenRunning := by
    cases rd.verdict <;> simp [Verdict.isFault, Verdict.nextState]
  unfold midCycleFaultProtection midCycleCalls
  by_cases h : rd.verdict.isFault ∧ rd.isRegenerating ∧ s.gState = .regenRunning
  · rw [if_pos h, if_pos ⟨h.1, h.2.1, hn h.1, h.2.2⟩]
  · rw [if_neg h, if_neg fun hg => h ⟨hg.1, hg.2.1, hg.2.2.2⟩, List.append_nil]

theorem processCommands_eq (core : CoreState) (rd : Sensors) (calls : List CoreCall) :
    processCommands rd ⟨core, rd.verdict.nextState, rd.verdict.isFault, calls⟩ =
      ⟨core.setFlags false false, rd.verdict.nextState, rd.verdict.isFault,
        calls ++ commandCalls core rd.verdict⟩ := by
  have hd : rd.verdict = .dataLoss ↔ rd.processDataValid = false := verdict_eq_dataLoss
  unfold processCommands commandCalls CoreState.setFlags
  cases hv : rd.verdict <;> simp_all [Verdict.nextState, Verdict.isFault]

/-- The module state the evaluation and the exit transition leave. -/
def leftCore (s : CoreState) (smp : Sample) (v : Verdict) : CoreState :=
  if s.gState = .regenRunning ∧ v ≠ .running then
    { evaluatedCore s smp v with gRegenStopping := false, gRegenStartTime := 0 }
  else evaluatedCore s smp v

/-- A pass in closed form: the state it leaves and all its calls, block by block. -/
theorem corePass_eq (s : CoreState) (smp : Sample) (rd : Sensors) :
    corePass s smp rd =
      ⟨(coreSetState (leftCore s smp rd.verdict) rd.verdict.nextState).setFlags false false,
        rd.verdict.nextState, rd.verdict.isFault,
        evaluatedCalls s smp rd.verdict ++ exitCalls s rd.verdict ++ midCycleCalls s rd ++
          commandCalls s rd.verdict⟩ := by
  obtain ⟨hg, -, -, hr, ha⟩ := evaluatedCore_frame s smp rd.verdict
  simp only [corePass, evaluationPass, evaluateState_eq, exitTransition_eq,
    midCycleFaultProtection_eq, processCommands_eq]
  have hf : (leftCore s smp rd.verdict).gRegenPending = s.gRegenPending ∧
      (leftCore s smp rd.verdict).gAbortPending = s.gAbortPending := by
    unfold leftCore
    split <;> exact ⟨hr, ha⟩
  have hc : commandCalls (coreSetState (leftCore s smp rd.verdict) rd.verdict.nextState) rd.verdict =
      commandCalls s rd.verdict := by
    simp only [commandCalls, coreSetState, hf]
  rw [← hc]
  rfl

theorem corePass_frame (s : CoreState) (smp : Sample) (rd : Sensors) :
    (corePass s smp rd).core.gInitialized = s.gInitialized ∧
    (corePass s smp rd).core.gTaskHandle = s.gTaskHandle ∧
    (corePass s smp rd).core.gRegenPending = false ∧
    (corePass s smp rd).core.gAbortPending = false := by
  obtain ⟨-, ht, hi, -, -⟩ := evaluatedCore_frame s smp rd.verdict
  rw [corePass_eq]
  refine ⟨?_, ?_, rfl, rfl⟩
  · show (leftCore s smp rd.verdict).gInitialized = _
    unfold leftCore
    split <;> exact hi
  · show (leftCore s smp rd.verdict).gTaskHandle = _
    unfold leftCore
    split <;> exact ht

/-- An iteration that finds a NULL tag does nothing. -/
theorem coreStep_skip (s : CoreState) {smp : Sample} (h : smp.sensors = none) :
    coreStep s (.iterate smp) = (s, []) := by
  simp only [coreStep, coreTask, h]

theorem coreStep_pass (s : CoreState) {smp : Sample} {rd : Sensors} (h : smp.sensors = some rd) :
    coreStep s (.iterate smp) = ((corePass s smp rd).core, (corePass s smp rd).calls) := by
  simp only [coreStep, coreTask, h]

end XIoT.Core
