import Mathlib.Data.Option.Basic

/-!
# Pools of live tasks

The tasks an operating system runs, each with its own local state `π`. A pool
never reuses a handle: those from `next` on have not been given out yet.
-/

namespace XIoT.Lib.TaskPool

variable {π : Type*}

structure Pool (π : Type*) where
  next : Nat
  task : Nat → Option π
  fresh : ∀ h, next ≤ h → task h = none

namespace Pool

def empty : Pool π := ⟨0, fun _ => none, fun _ _ => rfl⟩

/-- Create a task; its handle is the `next` of the pool it is added to. -/
def spawn (p : Pool π) (x : π) : Pool π where
  next := p.next + 1
  task h := if h = p.next then some x else p.task h
  fresh h hle := by
    have hne : h ≠ p.next := by omega
    rw [if_neg hne]
    exact p.fresh h (by omega)

/-- Move a live task to the local state `x`; a handle that is not live stays so. -/
def set (p : Pool π) (h : Nat) (x : π) : Pool π where
  next := p.next
  task k := if k = h then (p.task h).map fun _ => x else p.task k
  fresh k hle := by
    split
    · subst k
      rw [p.fresh h hle, Option.map_none]
    · exact p.fresh k hle

/-- End a task, wherever it stands. -/
def delete (p : Pool π) (h : Nat) : Pool π where
  next := p.next
  task k := if k = h then none else p.task k
  fresh k hle := by
    split
    · rfl
    · exact p.fresh k hle

def Alive (p : Pool π) (h : Nat) : Prop := (p.task h).isSome

instance (p : Pool π) (h : Nat) : Decidable (p.Alive h) :=
  inferInstanceAs (Decidable ((p.task h).isSome = true))

variable {p : Pool π} {h k : Nat} {x y : π}

@[simp] theorem task_empty : (empty : Pool π).task h = none := rfl

theorem lt_next (hx : p.task h = some x) : h < p.next := by
  by_contra hlt
  have hnone := p.fresh h (by omega)
  rw [hx] at hnone
  cases hnone

theorem Alive.intro (hx : p.task h = some x) : p.Alive h := by
  rw [Alive, hx]
  rfl

theorem task_spawn (p : Pool π) (x : π) (k : Nat) :
    (p.spawn x).task k = if k = p.next then some x else p.task k := rfl

theorem task_set (p : Pool π) (h : Nat) (x : π) (k : Nat) :
    (p.set h x).task k = if k = h then (p.task h).map fun _ => x else p.task k := rfl

theorem task_delete (p : Pool π) (h k : Nat) :
    (p.delete h).task k = if k = h then none else p.task k := rfl

/-- A task of the pool after a creation is the new one or an earlier one. -/
theorem task_spawn_cases (hy : (p.spawn x).task k = some y) :
    k = p.next ∧ y = x ∨ p.task k = some y := by
  rw [task_spawn] at hy
  split at hy
  · exact Or.inl ⟨by assumption, (Option.some.inj hy).symm⟩
  · exact Or.inr hy

theorem task_set_cases (hy : (p.set h x).task k = some y) :
    k = h ∧ y = x ∧ p.Alive h ∨ k ≠ h ∧ p.task k = some y := by
  rw [task_set] at hy
  split at hy
  · obtain ⟨z, hz, rfl⟩ := Option.map_eq_some_iff.mp hy
    exact Or.inl ⟨by assumption, rfl, Alive.intro hz⟩
  · exact Or.inr ⟨by assumption, hy⟩

theorem task_delete_cases (hy : (p.delete h).task k = some y) : k ≠ h ∧ p.task k = some y := by
  rw [task_delete] at hy
  split at hy
  · cases hy
  · exact ⟨by assumption, hy⟩

@[simp] theorem alive_set : (p.set h x).Alive k ↔ p.Alive k := by
  rw [Alive, Alive, task_set]
  split
  · subst k
    rw [Option.isSome_map]
  · rfl

@[simp] theorem alive_spawn : (p.spawn x).Alive k ↔ k = p.next ∨ p.Alive k := by
  rw [Alive, Alive, task_spawn]
  split
  · simp [*]
  · simp [*]

@[simp] theorem alive_delete : (p.delete h).Alive k ↔ k ≠ h ∧ p.Alive k := by
  rw [Alive, Alive, task_delete]
  split
  · simp [*]
  · simp [*]

/-! ## At most one task of a kind -/

/-- No two live tasks have a local state in `P`. -/
def AtMostOne (p : Pool π) (P : π → Prop) : Prop :=
  ∀ h k x y, p.task h = some x → p.task k = some y → P x → P y → h = k

variable {P Q : π → Prop}

theorem atMostOne_empty (P : π → Prop) : (empty : Pool π).AtMostOne P := by
  intro h k x y hx
  cases hx

theorem AtMostOne.mono (hp : p.AtMostOne P) (hQP : ∀ x, Q x → P x) : p.AtMostOne Q :=
  fun h k x y hx hy hQx hQy => hp h k x y hx hy (hQP x hQx) (hQP y hQy)

theorem AtMostOne.spawn (hnone : ∀ h y, p.task h = some y → ¬ P y) : (p.spawn x).AtMostOne P := by
  intro h k y z hy hz hPy hPz
  rcases task_spawn_cases hy with ⟨rfl, -⟩ | hy
  · rcases task_spawn_cases hz with ⟨rfl, -⟩ | hz
    · rfl
    · exact absurd hPz (hnone k z hz)
  · exact absurd hPy (hnone h y hy)

/-- A task may move without becoming one of the kind. -/
theorem AtMostOne.set (hp : p.AtMostOne P) (hx : p.task h = some x) (hPx : P y → P x) :
    (p.set h y).AtMostOne P := by
  have back : ∀ k z, (p.set h y).task k = some z → P z → ∃ w, p.task k = some w ∧ P w := by
    intro k z hz hPz
    rcases task_set_cases hz with ⟨rfl, rfl, -⟩ | ⟨-, hz⟩
    · exact ⟨x, hx, hPx hPz⟩
    · exact ⟨z, hz, hPz⟩
  intro i j a b ha hb hPa hPb
  obtain ⟨a', ha', hPa'⟩ := back i a ha hPa
  obtain ⟨b', hb', hPb'⟩ := back j b hb hPb
  exact hp i j a' b' ha' hb' hPa' hPb'

theorem AtMostOne.delete (hp : p.AtMostOne P) : (p.delete h).AtMostOne P := by
  intro i j a b ha hb
  exact hp i j a b (task_delete_cases ha).2 (task_delete_cases hb).2

theorem not_atMostOne_spawn (hy : p.task h = some y) (hPy : P y) (hPx : P x) :
    ¬ (p.spawn x).AtMostOne P := by
  intro hp
  have hlt := lt_next hy
  have heq : h = p.next := by
    refine hp h p.next y x ?_ ?_ hPy hPx
    · rw [task_spawn, if_neg (by omega)]
      exact hy
    · rw [task_spawn, if_pos rfl]
  omega

/-! ## The task of a handle -/

/-- End the task of a handle that may be missing. -/
def deleteSome (p : Pool π) : Option Nat → Pool π
  | none => p
  | some h => p.delete h

/-- While `running`, the task of the handle is the only one alive; otherwise none is. -/
structure SoleTask (p : Pool π) (handle : Option Nat) (running : Prop) : Prop where
  held : running → ∃ h, handle = some h ∧ ∀ k, p.Alive k ↔ k = h
  resting : ¬ running → ∀ k, ¬ p.Alive k

theorem not_alive_next (p : Pool π) : ¬ p.Alive p.next := by
  rw [Alive, p.fresh p.next (Nat.le_refl _)]
  exact Bool.false_ne_true

namespace SoleTask

variable {handle : Option Nat} {running running' : Prop}

theorem empty (hr : ¬ running) : (Pool.empty : Pool π).SoleTask handle running :=
  ⟨fun h => absurd h hr, fun _ k hk => by cases hk⟩

theorem congr (hp : p.SoleTask handle running) (hr : running' ↔ running) :
    p.SoleTask handle running' :=
  ⟨fun h => hp.held (hr.mp h), fun h => hp.resting (mt hr.mpr h)⟩

theorem unique (hp : p.SoleTask handle running) (hh : p.Alive h) (hk : p.Alive k) : h = k := by
  by_cases hr : running
  · obtain ⟨i, -, hi⟩ := hp.held hr
    exact ((hi h).mp hh).trans ((hi k).mp hk).symm
  · exact absurd hh (hp.resting hr h)

theorem running_iff (hp : p.SoleTask handle running) : running ↔ ∃ h, p.Alive h := by
  constructor
  · intro hr
    obtain ⟨h, -, hh⟩ := hp.held hr
    exact ⟨h, (hh h).mpr rfl⟩
  · rintro ⟨h, hh⟩
    by_contra hr
    exact hp.resting hr h hh

/-- A task created at rest. -/
theorem spawn (hp : p.SoleTask handle running) (hr : ¬ running) (hr' : running') (x : π) :
    (p.spawn x).SoleTask (some p.next) running' := by
  refine ⟨fun _ => ⟨p.next, rfl, fun k => ?_⟩, fun hnot => absurd hr' hnot⟩
  exact alive_spawn.trans (or_iff_left (hp.resting hr k))

/-- The task of the handle is all there is to end. -/
theorem deleteSome (hp : p.SoleTask handle running) (hr' : ¬ running') (handle' : Option Nat) :
    (p.deleteSome handle).SoleTask handle' running' := by
  refine ⟨fun h => absurd h hr', fun _ k hk => ?_⟩
  by_cases hr : running
  · obtain ⟨h, rfl, hh⟩ := hp.held hr
    obtain ⟨hne, hold⟩ := alive_delete.mp hk
    exact hne ((hh k).mp hold)
  · refine hp.resting hr k ?_
    cases handle with
    | none => exact hk
    | some h => exact (alive_delete.mp hk).2

end SoleTask

end Pool

end XIoT.Lib.TaskPool
