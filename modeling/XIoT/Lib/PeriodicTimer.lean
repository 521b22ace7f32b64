import XIoT.Lib.WrappingClock

/-!
# A periodic timer on a clock that wraps

The timer is polled: it compares a reading with the one it noted last, and when a period
has passed it fires and notes the new reading. It never fires too soon, and with readings
that come often enough it fires when the same timer on a clock that does not wrap would.
-/

namespace XIoT.Lib.PeriodicTimer

open WrappingClock

variable {w : ℕ}

/-- Compare a reading with the noted one; fire and note it when the period is over. -/
def poll (period noted now : BitVec w) : BitVec w × Bool :=
  if period ≤ now - noted then (now, true) else (noted, false)

/-- The true times among the readings at which the timer fires. -/
def firings (period noted : BitVec w) : List ℕ → List ℕ
  | [] => []
  | time :: times =>
    let r := poll period noted (shown w time)
    if r.2 then time :: firings period r.1 times else firings period r.1 times

theorem firings_cons (period noted : BitVec w) (time : ℕ) (times : List ℕ) :
    firings period noted (time :: times) =
      if period ≤ shown w time - noted then time :: firings period (shown w time) times
      else firings period noted times := by
  rw [firings, poll]
  split <;> rfl

/-- The timer on a clock that does not wrap. -/
def schedule (period noted : ℕ) : List ℕ → List ℕ
  | [] => []
  | time :: times =>
    if noted + period ≤ time then time :: schedule period time times else schedule period noted times

/-- Readings in order, none before the start. -/
def Ordered (start : ℕ) (times : List ℕ) : Prop := (start :: times).IsChain (· ≤ ·)

theorem Ordered.cons {start time : ℕ} {times : List ℕ} (h : Ordered start (time :: times)) :
    start ≤ time ∧ Ordered time times := List.isChain_cons_cons.mp h

/-- A reading may be left out. -/
theorem Ordered.skip {start time : ℕ} {times : List ℕ} (h : Ordered start (time :: times)) :
    Ordered start times := by
  obtain ⟨hle, hrest⟩ := h.cons
  cases times with
  | nil => exact List.isChain_singleton start
  | cons next times =>
    obtain ⟨hnext, htail⟩ := hrest.cons
    exact List.isChain_cons_cons.mpr ⟨hle.trans hnext, htail⟩

/-- Every pair of neighbours is a period apart, the start included. -/
def Spaced (period start : ℕ) (times : List ℕ) : Prop :=
  (start :: times).IsChain fun a b => a + period ≤ b

/-- The clock never shows more than has passed. -/
theorem toNat_shown_sub_le {a b : ℕ} (hle : a ≤ b) : (shown w b - shown w a).toNat ≤ b - a := by
  have hb : shown w b = shown w (b - a) + shown w a := by
    rw [shown, shown, shown, ← BitVec.ofNat_add, Nat.sub_add_cancel hle]
  rw [hb, BitVec.add_sub_cancel, shown, BitVec.toNat_ofNat]
  exact Nat.mod_le _ _

/-- **Never too soon.** However the readings are spaced, the firings are a period apart. -/
theorem firings_spaced {period : BitVec w} {start : ℕ} {times : List ℕ} (h : Ordered start times) :
    Spaced period.toNat start (firings period (shown w start) times) := by
  induction times generalizing start with
  | nil => exact List.isChain_singleton start
  | cons time times ih =>
    rw [firings_cons]
    by_cases hfires : period ≤ shown w time - shown w start
    · have hpassed : start + period.toNat ≤ time := by
        have hshown := toNat_shown_sub_le (w := w) h.cons.1
        have hlimit := BitVec.le_def.mp hfires
        have hle := h.cons.1
        omega
      rw [if_pos hfires]
      exact List.isChain_cons_cons.mpr ⟨hpassed, ih h.cons.2⟩
    · rw [if_neg hfires]
      exact ih h.skip

/-- Readings with gaps that leave room for the period before the clock wraps; the first may
come any time before it has come round since the start. -/
structure PacedFrom (period : BitVec w) (start : ℕ) (times : List ℕ) : Prop where
  first : ∀ time ∈ times.head?, start ≤ time ∧ time - start < 2 ^ w
  paced : Paced period times

theorem PacedFrom.cons {period : BitVec w} {start time : ℕ} {times : List ℕ}
    (h : PacedFrom period start (time :: times)) : start ≤ time ∧ time - start < 2 ^ w :=
  h.first time rfl

/-- After a reading at which the timer fires, or one that was not due. -/
theorem PacedFrom.next {period : BitVec w} {start time noted : ℕ} {times : List ℕ}
    (h : PacedFrom period start (time :: times)) (hle : noted ≤ time)
    (hnear : time - noted ≤ period.toNat) : PacedFrom period noted times := by
  refine ⟨fun next hnext => ?_, h.paced.tail⟩
  cases times with
  | nil => cases hnext
  | cons next' times =>
    obtain rfl := Option.some.inj hnext
    obtain ⟨⟨hstep, hgap⟩, -⟩ := List.isChain_cons_cons.mp h.paced
    omega

theorem PacedFrom.ordered {period : BitVec w} {start : ℕ} {times : List ℕ}
    (h : PacedFrom period start times) : Ordered start times := by
  cases times with
  | nil => exact List.isChain_singleton start
  | cons time times =>
    exact List.isChain_cons_cons.mpr ⟨h.cons.1, h.paced.imp fun _ _ hstep => hstep.1⟩

/-- **Refinement.** With paced readings the wrap does not show. -/
theorem firings_eq_schedule {period : BitVec w} {start : ℕ} {times : List ℕ}
    (h : PacedFrom period start times) :
    firings period (shown w start) times = schedule period.toNat start times := by
  induction times generalizing start with
  | nil => rfl
  | cons time times ih =>
    have hdue : period ≤ shown w time - shown w start ↔ start + period.toNat ≤ time :=
      le_shown_sub_iff h.cons.1 h.cons.2
    rw [firings_cons, schedule]
    by_cases hfires : period ≤ shown w time - shown w start
    · rw [if_pos hfires, if_pos (hdue.mp hfires), ih (h.next (Nat.le_refl time) (by omega))]
    · have hle := h.cons.1
      have hnot := mt hdue.mpr hfires
      rw [if_neg hfires, if_neg hnot]
      exact ih (h.next hle (by omega))

/-- **Never too late.** At every reading the latest firing is less than a period ago, or
the timer fires at it. -/
theorem schedule_fresh {period start : ℕ} {times : List ℕ} (h : Ordered start times) :
    ∀ time ∈ times, ∃ fired ∈ start :: schedule period start times,
      fired ≤ time ∧ (time < fired + period ∨ time = fired) := by
  induction times generalizing start with
  | nil => exact fun _ h => by cases h
  | cons first times ih =>
    intro time htime
    unfold schedule
    by_cases hfires : start + period ≤ first
    · rw [if_pos hfires]
      rcases List.mem_cons.mp htime with rfl | hlater
      · exact ⟨time, List.mem_cons_of_mem _ List.mem_cons_self, Nat.le_refl time, Or.inr rfl⟩
      · obtain ⟨fired, hfired, hfresh⟩ := ih h.cons.2 time hlater
        exact ⟨fired, List.mem_cons_of_mem _ hfired, hfresh⟩
    · rw [if_neg hfires]
      rcases List.mem_cons.mp htime with rfl | hlater
      · exact ⟨start, List.mem_cons_self, h.cons.1, Or.inl (by omega)⟩
      · exact ih h.skip time hlater

end XIoT.Lib.PeriodicTimer
