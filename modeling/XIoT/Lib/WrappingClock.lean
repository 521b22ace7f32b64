import Mathlib.Data.List.Chain
import Mathlib.Algebra.Group.Nat.Defs

/-!
# Deadlines on a clock that wraps

True time is a natural number and a clock of `w` bits shows it modulo `2 ^ w`. A latch
notes a reading and fires once, at the first later reading that lies a limit behind it.
As long as the clock is read often enough the wrap does not show.
-/

namespace XIoT.Lib.WrappingClock

variable {w : ℕ}

/-- What a clock of `w` bits shows. -/
def shown (w time : ℕ) : BitVec w := BitVec.ofNat w time

theorem toNat_shown_sub {a b : ℕ} (hle : a ≤ b) (hlt : b - a < 2 ^ w) :
    (shown w b - shown w a).toNat = b - a := by
  have hb : shown w b = shown w (b - a) + shown w a := by
    rw [shown, shown, shown, ← BitVec.ofNat_add, Nat.sub_add_cancel hle]
  rw [hb, BitVec.add_sub_cancel, shown, BitVec.toNat_ofNat]
  exact Nat.mod_eq_of_lt hlt

/-- The wrapping difference has reached the limit when true time has. -/
theorem le_shown_sub_iff {limit : BitVec w} {a b : ℕ} (hle : a ≤ b) (hlt : b - a < 2 ^ w) :
    limit ≤ shown w b - shown w a ↔ a + limit.toNat ≤ b := by
  rw [BitVec.le_def, toNat_shown_sub hle hlt]
  omega

/-- Readings in order, with gaps that leave room for the limit before the clock wraps. -/
def Paced (limit : BitVec w) (readings : List ℕ) : Prop :=
  readings.IsChain fun a b => a ≤ b ∧ b - a < 2 ^ w - limit.toNat

instance (limit : BitVec w) (readings : List ℕ) : Decidable (Paced limit readings) :=
  inferInstanceAs (Decidable (List.IsChain _ _))

/-- The reading before the last one is no earlier than the first. -/
theorem Paced.last {limit : BitVec w} {start time : ℕ} {seen : List ℕ}
    (h : Paced limit (start :: (seen ++ [time]))) :
    ∃ prev, (prev = start ∨ prev ∈ seen) ∧ start ≤ prev ∧ prev ≤ time ∧
      time - prev < 2 ^ w - limit.toNat := by
  induction seen generalizing start with
  | nil =>
    obtain ⟨⟨hle, hgap⟩, -⟩ := List.isChain_cons_cons.mp h
    exact ⟨start, Or.inl rfl, Nat.le_refl start, hle, hgap⟩
  | cons next seen ih =>
    obtain ⟨⟨hle, -⟩, hrest⟩ := List.isChain_cons_cons.mp h
    obtain ⟨prev, hprev, hfrom, hto, hgap⟩ := ih hrest
    refine ⟨prev, Or.inr ?_, hle.trans hfrom, hto, hgap⟩
    rcases hprev with rfl | hprev
    · exact List.mem_cons_self
    · exact List.mem_cons_of_mem next hprev

/-- When `P` holds of the first element with `D` and of no other, it is counted once. -/
theorem countP_of_first {α : Type*} {P D : α → Prop} [DecidablePred P] [DecidablePred D] {l : List α}
    (h : ∀ m k n, l = m ++ k :: n → (P k ↔ D k ∧ ∀ q ∈ m, ¬ D q)) :
    l.countP P = if ∃ q ∈ l, D q then 1 else 0 := by
  induction l using List.reverseRecOn with
  | nil => simp
  | append_singleton l x ih =>
    have hx := h l x [] rfl
    have hrest := ih fun m k n hl => h m k (n ++ [x]) (by rw [hl, List.append_assoc]; rfl)
    have hexists : (∃ q ∈ l ++ [x], D q) ↔ (∃ q ∈ l, D q) ∨ D x := by
      simp only [List.mem_append, List.mem_singleton, or_and_right, exists_or, exists_eq_left]
    rw [List.countP_append, hrest, List.countP_singleton]
    by_cases hearlier : ∃ q ∈ l, D q
    · have hnot : ¬ P x := fun hp => by
        obtain ⟨q, hq, hD⟩ := hearlier
        exact (hx.mp hp).2 q hq hD
      rw [if_pos hearlier, if_pos (hexists.mpr (Or.inl hearlier))]
      simp [hnot]
    · have hiff : P x ↔ D x := hx.trans
        ⟨And.left, fun hD => ⟨hD, fun q hq hDq => hearlier ⟨q, hq, hDq⟩⟩⟩
      rw [if_neg hearlier, Nat.zero_add]
      by_cases hD : D x
      · rw [if_pos (hexists.mpr (Or.inr hD))]
        simp [hiff.mpr hD]
      · rw [if_neg fun hc => (hexists.mp hc).elim hearlier hD]
        simp [mt hiff.mp hD]

/-! ## A latch -/

/-- The noted reading, and whether the limit has been found exceeded. -/
structure Latch (w : ℕ) where
  start : BitVec w
  fired : Bool

/-- Compare a reading; fire unless it has been done. -/
def Latch.tick (limit : BitVec w) (l : Latch w) (now : BitVec w) : Latch w × Bool :=
  if limit ≤ now - l.start ∧ l.fired = false then ({ l with fired := true }, true) else (l, false)

/-- The latch noted the true time `start`, and has fired if a reading since then was due. -/
structure Tracks (limit : BitVec w) (start : ℕ) (seen : List ℕ) (l : Latch w) : Prop where
  noted : l.start = shown w start
  fired_iff : l.fired = true ↔ ∃ time ∈ seen, start + limit.toNat ≤ time

theorem tracks_armed (limit : BitVec w) (start : ℕ) :
    Tracks limit start [] ⟨shown w start, false⟩ :=
  ⟨rfl, (fun h => by cases h), (fun ⟨_, h, _⟩ => by cases h)⟩

/-- **One reading.** The latch fires at the first reading that is due, and at no other. -/
theorem Tracks.tick {limit : BitVec w} {start time : ℕ} {seen : List ℕ} {l : Latch w}
    (h : Tracks limit start seen l) (hpaced : Paced limit (start :: (seen ++ [time]))) :
    ((l.tick limit (shown w time)).2 = true ↔
        start + limit.toNat ≤ time ∧ ∀ t ∈ seen, ¬ start + limit.toNat ≤ t) ∧
      Tracks limit start (seen ++ [time]) (l.tick limit (shown w time)).1 := by
  obtain ⟨prev, hprev, hfrom, hto, hgap⟩ := hpaced.last
  have hfired : (∃ t ∈ seen ++ [time], start + limit.toNat ≤ t) ↔
      l.fired = true ∨ start + limit.toNat ≤ time := by
    simp only [h.fired_iff, List.mem_append, List.mem_singleton, or_and_right, exists_or,
      exists_eq_left]
  by_cases hdone : l.fired = true
  · have hkept : l.tick limit (shown w time) = (l, false) := by
      rw [Latch.tick, if_neg fun hc => by rw [hdone] at hc; cases hc.2]
    rw [hkept]
    refine ⟨⟨(fun hc => by cases hc), fun hc => ?_⟩, h.noted, ?_⟩
    · obtain ⟨t, ht, hdue⟩ := h.fired_iff.mp hdone
      exact absurd hdue (hc.2 t ht)
    · rw [hfired]
      exact ⟨Or.inl, fun _ => hdone⟩
  · have hearly : ∀ t ∈ seen, ¬ start + limit.toNat ≤ t := fun t ht hdue =>
      hdone (h.fired_iff.mpr ⟨t, ht, hdue⟩)
    -- no reading so far was due, so that the clock has not come round since the start
    have hnear : time - start < 2 ^ w := by
      rcases hprev with rfl | hmem
      · omega
      · have hnotdue := hearly prev hmem
        omega
    have hdue : limit ≤ shown w time - shown w start ↔ start + limit.toNat ≤ time :=
      le_shown_sub_iff (hfrom.trans hto) hnear
    rw [Bool.not_eq_true] at hdone
    rw [Latch.tick, h.noted]
    by_cases hnow : limit ≤ shown w time - shown w start
    · rw [if_pos ⟨hnow, hdone⟩]
      refine ⟨⟨fun _ => ⟨hdue.mp hnow, hearly⟩, fun _ => rfl⟩, rfl, ?_⟩
      rw [hfired]
      exact ⟨fun _ => Or.inr (hdue.mp hnow), fun _ => rfl⟩
    · rw [if_neg fun hc => hnow hc.1]
      refine ⟨⟨(fun hc => by cases hc), fun hc => absurd (hdue.mpr hc.1) hnow⟩, h.noted, ?_⟩
      rw [hfired]
      exact ⟨Or.inl, fun hc => hc.resolve_right fun hd => hnow (hdue.mpr hd)⟩

end XIoT.Lib.WrappingClock
