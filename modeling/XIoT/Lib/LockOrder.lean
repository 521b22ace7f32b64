import XIoT.Lib.Runs
import XIoT.Lib.TaskPool
import Mathlib.Logic.Function.Basic
import Mathlib.Logic.Relation
import Mathlib.Tactic.ByContra

/-!
# Tasks that lock mutexes in order

A task is the program of its mutex operations: every critical section is a bracket,
and what decides a branch or the number of passes of a loop is left open. Tasks are
created at any time and their steps interleave; some may be killed from outside at
any point, without giving back what they hold. When every program takes mutexes of
rising rank only, no cycle of waiting tasks can form, whatever is killed, and no
mutex is orphaned exactly when nothing is killed that holds one.
-/

namespace XIoT.Lib.LockOrder

open TaskPool Runs

/-- The mutex operations of a piece of code. -/
inductive Prog (μ : Type*) where
  | skip
  | locked (m : μ) (body : Prog μ)
  | seq (p q : Prog μ)
  | choice (p q : Prog μ)
  | loop (body : Prog μ)

namespace Prog

variable {μ : Type*}

/-- The parts one after the other. -/
def block (ps : List (Prog μ)) : Prog μ := ps.foldr .seq .skip

/-- The part or nothing. -/
def maybe (p : Prog μ) : Prog μ := .choice .skip p

end Prog

/-- What a task has still to do: run a program, or give a mutex back. -/
inductive Frame (μ : Type*) where
  | run (p : Prog μ)
  | give (m : μ)

/-- The next move of a task, with what is left to do after it. -/
inductive Move (μ : Type*) where
  | internal (next : List (Frame μ))
  | take (m : μ) (next : List (Frame μ))
  | give (m : μ) (next : List (Frame μ))

variable {κ μ : Type*}

/-- The moves a task can choose from; one with nothing left to do has none. -/
def moves : List (Frame μ) → List (Move μ)
  | [] => []
  | .run .skip :: k => [.internal k]
  | .run (.locked m body) :: k => [.take m (.run body :: .give m :: k)]
  | .run (.seq p q) :: k => [.internal (.run p :: .run q :: k)]
  | .run (.choice p q) :: k => [.internal (.run p :: k), .internal (.run q :: k)]
  | .run (.loop body) :: k => [.internal k, .internal (.run body :: .run (.loop body) :: k)]
  | .give m :: k => [.give m k]

/-- The mutexes a task holds, the last one taken first. -/
def held : List (Frame μ) → List μ
  | [] => []
  | .run _ :: k => held k
  | .give m :: k => m :: held k

/-! ## The system -/

structure LockTask (κ μ : Type*) where
  kind : κ
  stack : List (Frame μ)

structure Machine (κ μ : Type*) where
  tasks : Pool (LockTask κ μ)
  owner : μ → Option Nat

inductive Step (κ : Type*) where
  | spawn (kind : κ)
  /-- The `i`-th of the task's moves; a task with nothing left to do ends. -/
  | task (h i : Nat)
  | kill (h : Nat)

/-- The programs of the kinds of tasks, and which of them may be killed. -/
structure Tasks (κ μ : Type*) where
  program : κ → Prog μ
  killable : κ → Bool

def Machine.boot : Machine κ μ := ⟨.empty, fun _ => none⟩

variable [DecidableEq μ]

/-- A mutex that is taken makes the move that takes it wait. -/
def Machine.move (s : Machine κ μ) (h : Nat) (kind : κ) : Move μ → Option (Machine κ μ)
  | .internal k => some { s with tasks := s.tasks.set h ⟨kind, k⟩ }
  | .take m k =>
    if s.owner m = none then
      some ⟨s.tasks.set h ⟨kind, k⟩, Function.update s.owner m (some h)⟩
    else none
  | .give m k => some ⟨s.tasks.set h ⟨kind, k⟩, Function.update s.owner m none⟩

def step (T : Tasks κ μ) (s : Machine κ μ) : Step κ → Option (Machine κ μ)
  | .spawn kind => some { s with tasks := s.tasks.spawn ⟨kind, [.run (T.program kind)]⟩ }
  | .task h i =>
    match s.tasks.task h with
    | none => none
    | some t =>
      match t.stack with
      | [] => some { s with tasks := s.tasks.delete h }
      | stack => ((moves stack)[i]?).bind (s.move h t.kind)
  | .kill h =>
    match s.tasks.task h with
    | none => none
    | some t => if T.killable t.kind = true then some { s with tasks := s.tasks.delete h } else none

/-- The task `h` is about to take a mutex that the live task `k` has. -/
def WaitsFor (s : Machine κ μ) (h k : Nat) : Prop :=
  ∃ t m next, s.tasks.task h = some t ∧ Move.take m next ∈ moves t.stack ∧
    s.owner m = some k ∧ s.tasks.Alive k

def NoWaitCycle (s : Machine κ μ) : Prop := ∀ h, ¬ Relation.TransGen (WaitsFor s) h h

def NoOrphan (s : Machine κ μ) : Prop := ∀ m h, s.owner m = some h → s.tasks.Alive h

/-- What is killed holds no mutex. -/
def KillsUnlocked (s : Machine κ μ) : Step κ → Prop
  | .kill h => ∀ m, s.owner m ≠ some h
  | _ => True

/-! ## Lock order -/

section Order

variable (rank : μ → Nat)

/-- Below the mutexes of the list, each critical section takes one of higher rank. -/
def Prog.Above (l : List μ) : Prog μ → Prop
  | .skip => True
  | .locked m body => (∀ m' ∈ l, rank m' < rank m) ∧ body.Above (m :: l)
  | .seq p q => p.Above l ∧ q.Above l
  | .choice p q => p.Above l ∧ q.Above l
  | .loop body => body.Above l

instance Prog.decidableAbove : (l : List μ) → (p : Prog μ) → Decidable (p.Above rank l)
  | _, .skip => .isTrue trivial
  | l, .locked m body =>
    have := decidableAbove (m :: l) body
    inferInstanceAs (Decidable (_ ∧ _))
  | l, .seq p q =>
    have := decidableAbove l p
    have := decidableAbove l q
    inferInstanceAs (Decidable (_ ∧ _))
  | l, .choice p q =>
    have := decidableAbove l p
    have := decidableAbove l q
    inferInstanceAs (Decidable (_ ∧ _))
  | l, .loop body => decidableAbove l body

/-- What a task has still to do respects the order, given what it holds. -/
def Ordered : List (Frame μ) → Prop
  | [] => True
  | .run p :: k => p.Above rank (held k) ∧ Ordered k
  | .give m :: k => (∀ m' ∈ held k, rank m' < rank m) ∧ Ordered k

end Order

omit [DecidableEq μ] in
/-- What a move of an ordered task does to what it holds. -/
theorem ordered_move {rank : μ → Nat} {k : List (Frame μ)} {mv : Move μ} (hk : Ordered rank k)
    (hmv : mv ∈ moves k) :
    match mv with
    | .internal next => Ordered rank next ∧ held next = held k
    | .take m next => Ordered rank next ∧ held next = m :: held k ∧ ∀ m' ∈ held k, rank m' < rank m
    | .give m next => Ordered rank next ∧ held k = m :: held next ∧
        ∀ m' ∈ held next, rank m' < rank m := by
  cases k with
  | nil => cases hmv
  | cons f k =>
    cases f with
    | give m =>
      obtain rfl := List.mem_singleton.mp hmv
      exact ⟨hk.2, rfl, hk.1⟩
    | run p =>
      obtain ⟨hp, hk⟩ := hk
      cases p with
      | skip =>
        obtain rfl := List.mem_singleton.mp hmv
        exact ⟨hk, rfl⟩
      | locked m body =>
        obtain rfl := List.mem_singleton.mp hmv
        exact ⟨⟨hp.2, hp.1, hk⟩, rfl, hp.1⟩
      | seq p q =>
        obtain rfl := List.mem_singleton.mp hmv
        exact ⟨⟨hp.1, hp.2, hk⟩, rfl⟩
      | choice p q =>
        rcases List.mem_cons.mp hmv with rfl | hmv
        · exact ⟨⟨hp.1, hk⟩, rfl⟩
        · obtain rfl := List.mem_singleton.mp hmv
          exact ⟨⟨hp.2, hk⟩, rfl⟩
      | loop body =>
        rcases List.mem_cons.mp hmv with rfl | hmv
        · exact ⟨hk, rfl⟩
        · obtain rfl := List.mem_singleton.mp hmv
          exact ⟨⟨hp, hp, hk⟩, rfl⟩

/-! ## What a step can do -/

inductive StepEffect (T : Tasks κ μ) (s s' : Machine κ μ) : Step κ → Prop where
  | spawned (kind : κ) (ht : s'.tasks = s.tasks.spawn ⟨kind, [.run (T.program kind)]⟩)
    (ho : s'.owner = s.owner) : StepEffect T s s' (.spawn kind)
  | moved (h i : Nat) (t : LockTask κ μ) (next : List (Frame μ)) (hh : s.tasks.task h = some t)
    (hmv : Move.internal next ∈ moves t.stack) (ht : s'.tasks = s.tasks.set h ⟨t.kind, next⟩)
    (ho : s'.owner = s.owner) : StepEffect T s s' (.task h i)
  | took (h i : Nat) (t : LockTask κ μ) (m : μ) (next : List (Frame μ))
    (hh : s.tasks.task h = some t) (hmv : Move.take m next ∈ moves t.stack)
    (hfree : s.owner m = none) (ht : s'.tasks = s.tasks.set h ⟨t.kind, next⟩)
    (ho : s'.owner = Function.update s.owner m (some h)) : StepEffect T s s' (.task h i)
  | gave (h i : Nat) (t : LockTask κ μ) (m : μ) (next : List (Frame μ))
    (hh : s.tasks.task h = some t) (hmv : Move.give m next ∈ moves t.stack)
    (ht : s'.tasks = s.tasks.set h ⟨t.kind, next⟩)
    (ho : s'.owner = Function.update s.owner m none) : StepEffect T s s' (.task h i)
  | ended (h i : Nat) (t : LockTask κ μ) (hh : s.tasks.task h = some t) (hstack : t.stack = [])
    (ht : s'.tasks = s.tasks.delete h) (ho : s'.owner = s.owner) : StepEffect T s s' (.task h i)
  | killed (h : Nat) (ht : s'.tasks = s.tasks.delete h) (ho : s'.owner = s.owner) :
    StepEffect T s s' (.kill h)

theorem stepEffect {T : Tasks κ μ} {s s' : Machine κ μ} {a : Step κ} (ha : step T s a = some s') :
    StepEffect T s s' a := by
  cases a with
  | spawn kind =>
    obtain rfl := Option.some.inj ha
    exact .spawned kind rfl rfl
  | kill h =>
    simp only [step] at ha
    split at ha
    · cases ha
    · obtain ⟨-, rfl⟩ := of_guarded ha
      exact .killed h rfl rfl
  | task h i =>
    simp only [step] at ha
    split at ha
    · cases ha
    · next t hh =>
      split at ha
      · next hstack =>
        obtain rfl := Option.some.inj ha
        exact .ended h i t hh hstack rfl rfl
      · obtain ⟨mv, hmv, ha⟩ := Option.bind_eq_some_iff.mp ha
        have hmv : mv ∈ moves t.stack := List.mem_of_getElem? hmv
        cases mv with
        | internal next =>
          obtain rfl := Option.some.inj ha
          exact .moved h i t next hh hmv rfl rfl
        | take m next =>
          obtain ⟨hfree, rfl⟩ := of_guarded ha
          exact .took h i t m next hh hmv hfree rfl rfl
        | give m next =>
          obtain rfl := Option.some.inj ha
          exact .gave h i t m next hh hmv rfl rfl

/-! ## The invariant -/

/-- Every live task keeps the order and owns what it holds, and a live owner holds
what it owns. -/
structure Inv (rank : μ → Nat) (s : Machine κ μ) : Prop where
  ordered : ∀ h t, s.tasks.task h = some t → Ordered rank t.stack
  owns : ∀ h t m, s.tasks.task h = some t → m ∈ held t.stack → s.owner m = some h
  holds : ∀ h t m, s.tasks.task h = some t → s.owner m = some h → m ∈ held t.stack
  given : ∀ m h, s.owner m = some h → h < s.tasks.next

omit [DecidableEq μ] in
theorem inv_boot (rank : μ → Nat) : Inv rank (Machine.boot : Machine κ μ) :=
  ⟨nofun, nofun, nofun, nofun⟩

omit [DecidableEq μ] in
/-- Ending a task, killed or not, leaves what the others hold. -/
theorem Inv.delete {rank : μ → Nat} {s : Machine κ μ} (hs : Inv rank s) (h : Nat) :
    Inv rank { s with tasks := s.tasks.delete h } where
  ordered k t hk := hs.ordered k t (Pool.task_delete_cases hk).2
  owns k t m hk := hs.owns k t m (Pool.task_delete_cases hk).2
  holds k t m hk := hs.holds k t m (Pool.task_delete_cases hk).2
  given := hs.given

omit [DecidableEq μ] in
theorem Inv.spawn {rank : μ → Nat} {s : Machine κ μ} (hs : Inv rank s) {t : LockTask κ μ}
    (ht : Ordered rank t.stack) (hheld : held t.stack = []) :
    Inv rank { s with tasks := s.tasks.spawn t } where
  ordered k t' hk := by
    rcases Pool.task_spawn_cases hk with ⟨-, rfl⟩ | hk
    · exact ht
    · exact hs.ordered k t' hk
  owns k t' m hk hm := by
    rcases Pool.task_spawn_cases hk with ⟨-, rfl⟩ | hk
    · rw [hheld] at hm
      cases hm
    · exact hs.owns k t' m hk hm
  holds k t' m hk ho := by
    rcases Pool.task_spawn_cases hk with ⟨rfl, -⟩ | hk
    · -- the handle is new, so nothing is owned by it
      exact absurd (hs.given m _ ho) (Nat.lt_irrefl _)
    · exact hs.holds k t' m hk ho
  given m k ho := Nat.lt_trans (hs.given m k ho) (Nat.lt_succ_self _)

omit [DecidableEq μ] in
theorem Inv.moved {rank : μ → Nat} {s : Machine κ μ} (hs : Inv rank s) {h : Nat} {t t' : LockTask κ μ}
    (hh : s.tasks.task h = some t) (hord : Ordered rank t'.stack)
    (hheld : held t'.stack = held t.stack) :
    Inv rank { s with tasks := s.tasks.set h t' } where
  ordered k u hk := by
    rcases Pool.task_set_cases hk with ⟨-, rfl, -⟩ | ⟨-, hk⟩
    · exact hord
    · exact hs.ordered k u hk
  owns k u m hk hm := by
    rcases Pool.task_set_cases hk with ⟨rfl, rfl, -⟩ | ⟨-, hk⟩
    · rw [hheld] at hm
      exact hs.owns k t m hh hm
    · exact hs.owns k u m hk hm
  holds k u m hk ho := by
    rcases Pool.task_set_cases hk with ⟨rfl, rfl, -⟩ | ⟨-, hk⟩
    · rw [hheld]
      exact hs.holds k t m hh ho
    · exact hs.holds k u m hk ho
  given := hs.given

theorem Inv.took {rank : μ → Nat} {s : Machine κ μ} (hs : Inv rank s) {h : Nat} {m : μ}
    {t t' : LockTask κ μ} (hh : s.tasks.task h = some t) (hord : Ordered rank t'.stack)
    (hfree : s.owner m = none) (hheld : held t'.stack = m :: held t.stack) :
    Inv rank ⟨s.tasks.set h t', Function.update s.owner m (some h)⟩ where
  ordered k u hk := by
    rcases Pool.task_set_cases hk with ⟨-, rfl, -⟩ | ⟨-, hk⟩
    · exact hord
    · exact hs.ordered k u hk
  owns k u n hk hn := by
    show Function.update s.owner m (some h) n = some k
    by_cases hnm : n = m
    · subst n
      rw [Function.update_self]
      rcases Pool.task_set_cases hk with ⟨rfl, -, -⟩ | ⟨-, hk⟩
      · rfl
      · have hown := hs.owns k u m hk hn
        rw [hfree] at hown
        cases hown
    · rw [Function.update_of_ne hnm]
      rcases Pool.task_set_cases hk with ⟨rfl, rfl, -⟩ | ⟨-, hk⟩
      · rw [hheld] at hn
        exact hs.owns k t n hh ((List.mem_cons.mp hn).resolve_left hnm)
      · exact hs.owns k u n hk hn
  holds k u n hk howner := by
    have ho : Function.update s.owner m (some h) n = some k := howner
    by_cases hnm : n = m
    · subst n
      rw [Function.update_self] at ho
      obtain rfl := Option.some.inj ho
      rcases Pool.task_set_cases hk with ⟨-, rfl, -⟩ | ⟨hne, -⟩
      · rw [hheld]
        exact List.mem_cons_self
      · exact absurd rfl hne
    · rw [Function.update_of_ne hnm] at ho
      rcases Pool.task_set_cases hk with ⟨rfl, rfl, -⟩ | ⟨-, hk⟩
      · rw [hheld]
        exact List.mem_cons_of_mem _ (hs.holds k t n hh ho)
      · exact hs.holds k u n hk ho
  given n k howner := by
    have ho : Function.update s.owner m (some h) n = some k := howner
    by_cases hnm : n = m
    · subst n
      rw [Function.update_self] at ho
      obtain rfl := Option.some.inj ho
      have hlt : h < s.tasks.next := Pool.lt_next hh
      exact hlt
    · rw [Function.update_of_ne hnm] at ho
      exact hs.given n k ho

theorem Inv.gave {rank : μ → Nat} {s : Machine κ μ} (hs : Inv rank s) {h : Nat} {m : μ}
    {t t' : LockTask κ μ} (hh : s.tasks.task h = some t) (hord : Ordered rank t'.stack)
    (hheld : held t.stack = m :: held t'.stack) (hrank : ∀ n ∈ held t'.stack, rank n < rank m) :
    Inv rank ⟨s.tasks.set h t', Function.update s.owner m none⟩ where
  ordered k u hk := by
    rcases Pool.task_set_cases hk with ⟨-, rfl, -⟩ | ⟨-, hk⟩
    · exact hord
    · exact hs.ordered k u hk
  owns k u n hk hn := by
    show Function.update s.owner m none n = some k
    rcases Pool.task_set_cases hk with ⟨rfl, rfl, -⟩ | ⟨hne, hother⟩
    · -- what is still held has a lower rank than what is given
      have hnm : n ≠ m := by
        rintro rfl
        exact Nat.lt_irrefl _ (hrank n hn)
      rw [Function.update_of_ne hnm]
      exact hs.owns k t n hh (by rw [hheld]; exact List.mem_cons_of_mem _ hn)
    · have hnm : n ≠ m := by
        rintro rfl
        have hown := hs.owns h t n hh (by rw [hheld]; exact List.mem_cons_self)
        exact hne (Option.some.inj ((hs.owns k u n hother hn).symm.trans hown))
      rw [Function.update_of_ne hnm]
      exact hs.owns k u n hother hn
  holds k u n hk howner := by
    have ho : Function.update s.owner m none n = some k := howner
    by_cases hnm : n = m
    · subst n
      rw [Function.update_self] at ho
      cases ho
    · rw [Function.update_of_ne hnm] at ho
      rcases Pool.task_set_cases hk with ⟨rfl, rfl, -⟩ | ⟨-, hk⟩
      · have hmem := hs.holds k t n hh ho
        rw [hheld] at hmem
        exact (List.mem_cons.mp hmem).resolve_left hnm
      · exact hs.holds k u n hk ho
  given n k howner := by
    have ho : Function.update s.owner m none n = some k := howner
    by_cases hnm : n = m
    · subst n
      rw [Function.update_self] at ho
      cases ho
    · rw [Function.update_of_ne hnm] at ho
      exact hs.given n k ho

section Discipline

variable {rank : μ → Nat} {T : Tasks κ μ} (hT : ∀ kind, (T.program kind).Above rank [])
include hT

theorem inv_step (s : Machine κ μ) (a : Step κ) (s' : Machine κ μ) (hs : Inv rank s)
    (ha : step T s a = some s') : Inv rank s' := by
  obtain ⟨tasks, owner⟩ := s'
  cases stepEffect ha with
  | spawned kind ht ho =>
    obtain rfl : tasks = _ := ht
    obtain rfl : owner = _ := ho
    exact hs.spawn ⟨hT kind, trivial⟩ rfl
  | moved h i t next hh hmv ht ho =>
    obtain rfl : tasks = _ := ht
    obtain rfl : owner = _ := ho
    obtain ⟨hord, hheld⟩ := ordered_move (hs.ordered h t hh) hmv
    exact hs.moved hh hord hheld
  | took h i t m next hh hmv hfree ht ho =>
    obtain rfl : tasks = _ := ht
    obtain rfl : owner = _ := ho
    obtain ⟨hord, hheld, -⟩ := ordered_move (hs.ordered h t hh) hmv
    exact hs.took hh hord hfree hheld
  | gave h i t m next hh hmv ht ho =>
    obtain rfl : tasks = _ := ht
    obtain rfl : owner = _ := ho
    obtain ⟨hord, hheld, hrank⟩ := ordered_move (hs.ordered h t hh) hmv
    exact hs.gave hh hord hheld hrank
  | ended h i t hh hstack ht ho =>
    obtain rfl : tasks = _ := ht
    obtain rfl : owner = _ := ho
    exact hs.delete h
  | killed h ht ho =>
    obtain rfl : tasks = _ := ht
    obtain rfl : owner = _ := ho
    exact hs.delete h

omit [DecidableEq μ] hT in
/-- A chain of waits leads from a mutex that its first task is about to take to one of
at least its rank that its last task holds. -/
theorem waitChain {s : Machine κ μ} (hs : Inv rank s) {h k : Nat}
    (hchain : Relation.TransGen (WaitsFor s) h k) :
    ∃ t m next u n, s.tasks.task h = some t ∧ Move.take m next ∈ moves t.stack ∧
      s.tasks.task k = some u ∧ n ∈ held u.stack ∧ rank m ≤ rank n := by
  induction hchain with
  | single hw =>
    obtain ⟨t, m, next, ht, hmv, ho, halive⟩ := hw
    obtain ⟨u, hu⟩ := Option.isSome_iff_exists.mp halive
    exact ⟨t, m, next, u, m, ht, hmv, hu, hs.holds _ u m hu ho, Nat.le_refl _⟩
  | tail _ hw ih =>
    obtain ⟨t, m, next, u, n, ht, hmv, hu, hn, hle⟩ := ih
    obtain ⟨u', m', next', hu', hmv', ho', halive'⟩ := hw
    obtain rfl := Option.some.inj (hu.symm.trans hu')
    obtain ⟨v, hv⟩ := Option.isSome_iff_exists.mp halive'
    obtain ⟨-, -, hrank⟩ := ordered_move (hs.ordered _ u hu) hmv'
    have hlt : rank n < rank m' := hrank n hn
    exact ⟨t, m, next, v, m', ht, hmv, hv, hs.holds _ v m' hv ho', by omega⟩

omit [DecidableEq μ] hT in
theorem noWaitCycle {s : Machine κ μ} (hs : Inv rank s) : NoWaitCycle s := by
  intro h hcycle
  obtain ⟨t, m, next, u, n, ht, hmv, hu, hn, hle⟩ := waitChain hs hcycle
  obtain rfl := Option.some.inj (ht.symm.trans hu)
  obtain ⟨-, -, hrank⟩ := ordered_move (hs.ordered h t ht) hmv
  have hlt : rank n < rank m := hrank n hn
  omega

omit hT in
/-- No kill of a task that holds nothing orphans a mutex, and no other step does. -/
theorem noOrphan_step (s : Machine κ μ) (a : Step κ) (s' : Machine κ μ) (hs : Inv rank s)
    (hno : NoOrphan s) (hkill : KillsUnlocked s a) (ha : step T s a = some s') : NoOrphan s' := by
  intro n k ho
  cases stepEffect ha with
  | spawned kind ht heq =>
    rw [heq] at ho
    rw [ht, Pool.alive_spawn]
    exact Or.inr (hno n k ho)
  | moved h i t next hh hmv ht heq =>
    rw [heq] at ho
    rw [ht, Pool.alive_set]
    exact hno n k ho
  | took h i t m next hh hmv hfree ht heq =>
    rw [heq] at ho
    rw [ht, Pool.alive_set]
    by_cases hnm : n = m
    · subst n
      rw [Function.update_self] at ho
      obtain rfl := Option.some.inj ho
      exact Pool.Alive.intro hh
    · rw [Function.update_of_ne hnm] at ho
      exact hno n k ho
  | gave h i t m next hh hmv ht heq =>
    rw [heq] at ho
    rw [ht, Pool.alive_set]
    by_cases hnm : n = m
    · subst n
      rw [Function.update_self] at ho
      cases ho
    · rw [Function.update_of_ne hnm] at ho
      exact hno n k ho
  | ended h i t hh hstack ht heq =>
    rw [heq] at ho
    rw [ht, Pool.alive_delete]
    refine ⟨?_, hno n k ho⟩
    rintro rfl
    have hmem := hs.holds k t n hh ho
    rw [hstack] at hmem
    cases hmem
  | killed h ht heq =>
    rw [heq] at ho
    rw [ht, Pool.alive_delete]
    refine ⟨?_, hno n k ho⟩
    rintro rfl
    exact hkill n ho

/-- **Safety of ordered tasks, exactly.** Every mutex stays free or owned by a live task
and no cycle of waiting tasks forms, throughout a run, if and only if nothing is
killed while it holds a mutex. -/
theorem safe_iff_killsUnlocked (as : List (Step κ)) :
    Always (step T) (fun s => NoOrphan s ∧ NoWaitCycle s) .boot as ↔
      Throughout (step T) KillsUnlocked .boot as := by
  refine always_iff_throughout (I := fun s => Inv rank s ∧ NoOrphan s)
    (fun _ h => ⟨h.2, noWaitCycle h.1⟩) ?_ ?_ ⟨inv_boot rank, nofun⟩ as
  · rintro s a s' ⟨hs, hno⟩ hkill ha
    exact ⟨inv_step hT s a s' hs ha, noOrphan_step s a s' hs hno hkill ha⟩
  · rintro s a s' ⟨-, -⟩ hkill ha ⟨hno, -⟩
    cases stepEffect ha with
    | killed h ht heq =>
      obtain ⟨m, hm⟩ := not_forall.mp hkill
      have halive := hno m h (heq ▸ not_not.mp hm)
      rw [ht, Pool.alive_delete] at halive
      exact halive.1 rfl
    | _ => exact hkill trivial

end Discipline

end XIoT.Lib.LockOrder
