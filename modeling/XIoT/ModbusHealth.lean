import XIoT.ModbusService
import XIoT.Lib.Alternation
import XIoT.Lib.Trace

/-!
# The health of the Modbus network

The two callbacks run one after the other in the task of the Modbus client and share
`gModbusCommHealthy`. The events they post bracket the outages of the network, and the
flag is the kind of the latest answer that concerns a tag.
-/

namespace XIoT.Modbus

open Lib.Alternation (Mark StrictlyAlternates Balanced openCycles balanced_nil latest latest_concat)

inductive Callback where
  | data (response : List Byte) (token : BitVec 32) (u : Uninit)
  | error (token : BitVec 32) (u : Uninit)

/-- The callback of the client is called. -/
def callback (reg : Registry) (healthy : Bool) : Callback → CallbackResult
  | .data response token u => onModbusData reg healthy response token u
  | .error token u => onModbusError healthy token u

def healthStep (reg : Registry) (healthy : Bool) (c : Callback) : Bool × List AppEvent :=
  ((callback reg healthy c).gModbusCommHealthy, (callback reg healthy c).posts)

/-- An outage begins with NETWORK_DOWN and ends with NETWORK_UP. -/
def outageMark : AppEvent → Option Mark
  | .modbusNetworkDown => some .opening
  | .modbusNetworkUp => some .closing
  | _ => none

/-- What an answer says of the network; data for an id that no tag has says nothing. -/
def verdictOf (reg : Registry) : Callback → Option Bool
  | .data _ token _ => (reg.tagFindById (token.setWidth 16)).map fun _ => true
  | .error _ _ => some false

/-! ## One callback -/

/-- The posts of a callback: one event, when its verdict is not the one before. -/
def healthPosts (healthy : Bool) : Option Bool → List AppEvent
  | none => []
  | some true => if healthy then [] else [.modbusNetworkUp]
  | some false => if healthy then [.modbusNetworkDown] else []

theorem healthStep_eq (reg : Registry) (healthy : Bool) (c : Callback) :
    healthStep reg healthy c =
      ((verdictOf reg c).getD healthy, healthPosts healthy (verdictOf reg c)) := by
  cases c with
  | data response token u =>
    simp only [healthStep, callback, onModbusData, verdictOf]
    cases reg.tagFindById (token.setWidth 16) with
    | none => rfl
    | some tag => cases hvalue : decodeValue tag response u <;> cases healthy <;> simp [hvalue, healthPosts]
  | error token u => cases healthy <;> rfl

/-- The events so far, and what they tell of the flag. -/
structure HealthInvariant (healthy : Bool) (posts : List AppEvent) : Prop where
  balanced : Balanced (posts.filterMap outageMark) (healthy = false)
  marks : ∀ event ∈ posts, (outageMark event).isSome = true

theorem healthInvariant_boot : HealthInvariant true [] :=
  ⟨balanced_nil (by decide), fun _ h => by cases h⟩

theorem HealthInvariant.verdict {healthy : Bool} {posts : List AppEvent}
    (h : HealthInvariant healthy posts) (verdict : Option Bool) :
    HealthInvariant (verdict.getD healthy) (posts ++ healthPosts healthy verdict) := by
  have hmarks : ∀ event ∈ healthPosts healthy verdict, (outageMark event).isSome = true := by
    intro event hevent
    cases verdict with
    | none => cases hevent
    | some b => cases b <;> cases healthy <;> simp [healthPosts] at hevent <;> subst hevent <;> rfl
  refine ⟨?_, fun event hevent => (List.mem_append.mp hevent).elim (h.marks event) (hmarks event)⟩
  rw [List.filterMap_append]
  have hb := h.balanced
  cases verdict with
  | none => exact (List.append_nil _).symm ▸ hb
  | some b =>
    cases b <;> cases healthy
    · exact (List.append_nil _).symm ▸ hb
    · exact hb.opened (by decide) rfl
    · exact hb.closed rfl (by decide)
    · exact (List.append_nil _).symm ▸ hb

/-! ## Runs -/

/-- What the callbacks up to some point have said. -/
structure TellsHealth (reg : Registry) (cs : List Callback) (healthy : Bool)
    (posts : List AppEvent) : Prop where
  alternates : StrictlyAlternates (posts.filterMap outageMark)
  outage : openCycles (posts.filterMap outageMark) = if healthy then 0 else 1
  only : ∀ event ∈ posts, event = .modbusNetworkDown ∨ event = .modbusNetworkUp
  last : healthy = (latest (verdictOf reg) cs).getD true

theorem healthFinal_eq (reg : Registry) (cs : List Callback) :
    Lib.Trace.final (healthStep reg) true cs = (latest (verdictOf reg) cs).getD true := by
  induction cs using List.reverseRecOn with
  | nil => rfl
  | append_singleton cs c ih =>
    rw [Lib.Trace.final_concat, healthStep_eq, ih, latest_concat]
    cases verdictOf reg c <;> rfl

/-- **Outages are bracketed exactly.** Whatever answers come back, NETWORK_DOWN and
NETWORK_UP alternate from DOWN on, and the last of them agrees with the latest answer. -/
theorem outages_bracketed (reg : Registry) (cs : List Callback) :
    TellsHealth reg cs (Lib.Trace.final (healthStep reg) true cs)
      (Lib.Trace.output (healthStep reg) true cs) := by
  have hinv : HealthInvariant (Lib.Trace.final (healthStep reg) true cs)
      (Lib.Trace.output (healthStep reg) true cs) := by
    refine Lib.Trace.output_invariant (healthStep reg) ?_ healthInvariant_boot cs
    intro healthy posts c h
    rw [healthStep_eq]
    exact h.verdict _
  refine ⟨hinv.balanced.alternates, ?_, fun event hevent => ?_, healthFinal_eq reg cs⟩
  · rw [hinv.balanced.openCycles_eq]
    cases Lib.Trace.final (healthStep reg) true cs <;> rfl
  · have hmark := hinv.marks event hevent
    cases event <;> first | exact Or.inl rfl | exact Or.inr rfl | cases hmark

end XIoT.Modbus
