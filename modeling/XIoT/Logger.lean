import XIoT.Subscriber
import XIoT.Lib.Framing
import XIoT.Lib.Runs
import Mathlib.Logic.Function.Basic

/-!
# The log

`logger_log` writes a line to the serial port under `gLoggerMutex`. The port takes one
character at a time, tasks wait for the mutex for as long as it takes, and a task can be
deleted at any point of its call, also while it holds the mutex.
-/

namespace XIoT.Logger

open Lib.Framing Lib.Runs
open Subscriber (LogLevel)

def levelStr : LogLevel → List Char
  | .info => "INFO".toList
  | .warn => "WARN".toList
  | .error => "ERROR".toList
  | .debug => "DEBUG".toList

/-- A call of `logger_log`; `text` is what its format makes of its arguments. -/
structure LogCall where
  level : LogLevel
  module_ : List Char
  text : List Char
  deriving DecidableEq

/-- The length of the array `message`. -/
def messageLength : ℕ := 256

/-- `[%s] [%s] %s`, without the line break. -/
def LogCall.body (c : LogCall) : List Char :=
  '[' :: levelStr c.level ++ "] [".toList ++ c.module_ ++ "] ".toList ++
    c.text.take (messageLength - 1)

/-- The end of a line. -/
def lineBreak : Char := '\n'

/-- What `Serial.printf` writes for a call. -/
def LogCall.line (c : LogCall) : List Char := encode lineBreak 1 c.body

/-- Where a task stands in `logger_log`. -/
inductive LogPc where
  | idle
  | waiting (c : LogCall)
  | writing (rest : List Char)
  | deleted
  deriving DecidableEq

structure LogState where
  /-- The holder of `gLoggerMutex`. -/
  holder : Option TaskHandle
  pc : TaskHandle → LogPc
  output : List Char
  /-- The calls that have taken the mutex, oldest first. -/
  taken : List LogCall

/-- After `logger_init`. -/
def LogState.boot : LogState := ⟨none, fun _ => .idle, [], []⟩

inductive LogStep where
  | call (t : TaskHandle) (c : LogCall)
  | take (t : TaskHandle)
  | put (t : TaskHandle)
  | give (t : TaskHandle)
  | delete (t : TaskHandle)
  deriving DecidableEq

def logStep (s : LogState) : LogStep → Option LogState
  | .call t c =>
    match s.pc t with
    | .idle => some { s with pc := Function.update s.pc t (.waiting c) }
    | _ => none
  | .take t =>
    match s.pc t, s.holder with
    | .waiting c, none => some { s with
        holder := some t
        pc := Function.update s.pc t (.writing c.line)
        taken := s.taken ++ [c] }
    | _, _ => none
  | .put t =>
    match s.pc t with
    | .writing (c :: rest) => some { s with
        output := s.output ++ [c]
        pc := Function.update s.pc t (.writing rest) }
    | _ => none
  | .give t =>
    match s.pc t with
    | .writing [] => some { s with holder := none, pc := Function.update s.pc t .idle }
    | _ => none
  | .delete t => some { s with pc := Function.update s.pc t .deleted }

/-! ## What is still to be written -/

/-- All that was begun, with the rest of the line that is being written. -/
structure Writes (s : LogState) (rest : List Char) : Prop where
  whole : s.output ++ rest = s.taken.flatMap LogCall.line
  free : s.holder = none → rest = []
  writing : ∀ t r, s.pc t = .writing r → s.holder = some t ∧ r = rest
  last : rest ≠ [] → ∃ calls c, s.taken = calls ++ [c] ∧ rest <:+ c.line

theorem writes_boot : Writes .boot [] := ⟨rfl, fun _ => rfl, nofun, fun h => absurd rfl h⟩

section

variable {s s' : LogState} {rest : List Char}

/-- A task that goes to a point where it writes nothing. -/
theorem Writes.goto (h : Writes s rest) (t : TaskHandle) {pc : LogPc} (hpc : ∀ r, pc ≠ .writing r) :
    Writes { s with pc := Function.update s.pc t pc } rest := by
  refine ⟨h.whole, h.free, fun k r hk => ?_, h.last⟩
  have hk : Function.update s.pc t pc k = .writing r := hk
  by_cases heq : k = t
  · rw [heq, Function.update_self] at hk
    exact absurd hk (hpc r)
  · rw [Function.update_of_ne heq] at hk
    exact h.writing k r hk

/-- While the mutex is free nobody writes, and every line is whole. -/
theorem Writes.take {t : TaskHandle} {c : LogCall} (h : Writes s rest) (hfree : s.holder = none) :
    Writes { s with
      holder := some t
      pc := Function.update s.pc t (.writing c.line)
      taken := s.taken ++ [c] } c.line := by
  have hwhole := h.whole
  rw [h.free hfree, List.append_nil] at hwhole
  refine ⟨?_, nofun, fun k r hk => ?_, fun _ => ⟨s.taken, c, rfl, List.suffix_refl _⟩⟩
  · show s.output ++ c.line = (s.taken ++ [c]).flatMap LogCall.line
    rw [hwhole, List.flatMap_append, List.flatMap_cons, List.flatMap_nil, List.append_nil]
  · have hk : Function.update s.pc t (.writing c.line) k = .writing r := hk
    by_cases heq : k = t
    · rw [heq, Function.update_self] at hk
      exact ⟨by rw [heq], (LogPc.writing.inj hk).symm⟩
    · rw [Function.update_of_ne heq] at hk
      have hholder := (h.writing k r hk).1
      rw [hfree] at hholder
      cases hholder

theorem Writes.put {t : TaskHandle} {c : Char} {r : List Char} (h : Writes s rest)
    (hpc : s.pc t = .writing (c :: r)) :
    Writes { s with
      output := s.output ++ [c]
      pc := Function.update s.pc t (.writing r) } r := by
  obtain ⟨hholder, rfl⟩ := h.writing t (c :: r) hpc
  refine ⟨?_, fun hfree => ?_, fun k r' hk => ?_, fun _ => ?_⟩
  · show s.output ++ [c] ++ r = s.taken.flatMap LogCall.line
    rw [List.append_assoc]
    exact h.whole
  · have hfree : s.holder = none := hfree
    rw [hholder] at hfree
    cases hfree
  · have hk : Function.update s.pc t (.writing r) k = .writing r' := hk
    by_cases heq : k = t
    · rw [heq, Function.update_self] at hk
      exact ⟨by rw [heq]; exact hholder, (LogPc.writing.inj hk).symm⟩
    · rw [Function.update_of_ne heq] at hk
      have hother := (h.writing k r' hk).1
      rw [hholder] at hother
      exact absurd (Option.some.inj hother).symm heq
  · obtain ⟨calls, last, htaken, hsuffix⟩ := h.last (List.cons_ne_nil c r)
    exact ⟨calls, last, htaken, (List.suffix_cons c r).trans hsuffix⟩

theorem Writes.give {t : TaskHandle} (h : Writes s rest) (hpc : s.pc t = .writing []) :
    Writes { s with holder := none, pc := Function.update s.pc t .idle } rest := by
  obtain ⟨hholder, rfl⟩ := h.writing t [] hpc
  refine ⟨h.whole, fun _ => rfl, fun k r hk => ?_, fun hne => absurd rfl hne⟩
  have hk : Function.update s.pc t .idle k = .writing r := hk
  by_cases heq : k = t
  · rw [heq, Function.update_self] at hk
    cases hk
  · rw [Function.update_of_ne heq] at hk
    have hother := (h.writing k r hk).1
    rw [hholder] at hother
    exact absurd (Option.some.inj hother).symm heq

theorem writes_logStep {a : LogStep} (h : Writes s rest) (ha : logStep s a = some s') :
    ∃ rest', Writes s' rest' := by
  cases a with
  | call t c =>
    simp only [logStep] at ha
    split at ha
    · obtain rfl := Option.some.inj ha
      exact ⟨rest, h.goto t nofun⟩
    · cases ha
  | take t =>
    simp only [logStep] at ha
    split at ha
    · next c hpc hfree =>
      obtain rfl := Option.some.inj ha
      exact ⟨c.line, h.take hfree⟩
    · cases ha
  | put t =>
    simp only [logStep] at ha
    split at ha
    · next c r hpc =>
      obtain rfl := Option.some.inj ha
      exact ⟨r, h.put hpc⟩
    · cases ha
  | give t =>
    simp only [logStep] at ha
    split at ha
    · next hpc =>
      obtain rfl := Option.some.inj ha
      exact ⟨rest, h.give hpc⟩
    · cases ha
  | delete t =>
    obtain rfl := Option.some.inj ha
    exact ⟨rest, h.goto t nofun⟩

/-! ## A mutex that is never given back -/

/-- The holder of the mutex has been deleted. -/
def Orphaned (s : LogState) : Prop := ∃ t, s.holder = some t ∧ s.pc t = .deleted

/-- Then nothing is written any more. -/
theorem orphaned_logStep {a : LogStep} (h : Writes s rest) (horphan : Orphaned s)
    (ha : logStep s a = some s') : Orphaned s' ∧ s'.output = s.output := by
  obtain ⟨t, hholder, hdeleted⟩ := horphan
  have hnone : ∀ k r, s.pc k ≠ .writing r := by
    intro k r hk
    have hsame := (h.writing k r hk).1
    rw [hholder] at hsame
    obtain rfl := Option.some.inj hsame
    rw [hdeleted] at hk
    cases hk
  cases a with
  | call k c =>
    simp only [logStep] at ha
    split at ha
    · next hidle =>
      obtain rfl := Option.some.inj ha
      have hne : t ≠ k := by
        rintro rfl
        rw [hdeleted] at hidle
        cases hidle
      exact ⟨⟨t, hholder, (Function.update_of_ne hne _ _).trans hdeleted⟩, rfl⟩
    · cases ha
  | take k =>
    simp only [logStep] at ha
    split at ha
    · next hfree =>
      rw [hholder] at hfree
      cases hfree
    · cases ha
  | put k =>
    simp only [logStep] at ha
    split at ha
    · next hpc => exact absurd hpc (hnone _ _)
    · cases ha
  | give k =>
    simp only [logStep] at ha
    split at ha
    · next hpc => exact absurd hpc (hnone _ _)
    · cases ha
  | delete k =>
    obtain rfl := Option.some.inj ha
    refine ⟨⟨t, hholder, ?_⟩, rfl⟩
    by_cases heq : t = k
    · rw [heq]
      exact Function.update_self ..
    · exact (Function.update_of_ne heq _ _).trans hdeleted

end

/-! ## Runs -/

/-- The log, as it is read at the other end of the serial port. -/
structure LinesWhole (s : LogState) : Prop where
  /-- Lines follow one another, and the last one may be unfinished. -/
  whole : ∃ rest, s.output ++ rest = s.taken.flatMap LogCall.line ∧
    (rest ≠ [] → ∃ calls c, s.taken = calls ++ [c] ∧ rest <:+ c.line)
  /-- A reader that splits at line breaks reads the calls. -/
  readable : (∀ c ∈ s.taken, lineBreak ∉ c.body) →
    received lineBreak 1 s.output <+: s.taken.map LogCall.body
  complete : (∀ c ∈ s.taken, lineBreak ∉ c.body) → s.holder = none →
    received lineBreak 1 s.output = s.taken.map LogCall.body
  /-- When the holder of the mutex is deleted, the log has ended. -/
  ended : Orphaned s → ∀ as, Always logStep (fun s' => s'.output = s.output) s as

theorem flatMap_line (calls : List LogCall) :
    calls.flatMap LogCall.line = (calls.map LogCall.body).flatMap (encode lineBreak 1) := by
  rw [List.flatMap_map]
  rfl

theorem Writes.linesWhole {s : LogState} {rest : List Char} (h : Writes s rest) : LinesWhole s := by
  have hbodies : (∀ c ∈ s.taken, lineBreak ∉ c.body) →
      ∀ body ∈ s.taken.map LogCall.body, lineBreak ∉ body := by
    intro hplain body hbody
    obtain ⟨c, hc, rfl⟩ := List.mem_map.mp hbody
    exact hplain c hc
  refine ⟨⟨rest, h.whole, h.last⟩, fun hplain => ?_, fun hplain hfree => ?_, fun horphan as => ?_⟩
  · refine received_cut Nat.one_pos (hbodies hplain) ?_
    rw [← flatMap_line]
    exact ⟨rest, h.whole⟩
  · have hwhole := h.whole
    rw [h.free hfree, List.append_nil, flatMap_line] at hwhole
    rw [hwhole]
    exact received_encode Nat.one_pos (hbodies hplain)
  · have hinv : ∀ (t : LogState) (a : LogStep) (t' : LogState),
        ((∃ r, Writes t r) ∧ Orphaned t ∧ t.output = s.output) → logStep t a = some t' →
          (∃ r, Writes t' r) ∧ Orphaned t' ∧ t'.output = s.output := by
      intro t a t' ht ha
      obtain ⟨⟨r, hwrites⟩, hdead, hsame⟩ := ht
      obtain ⟨hdead', houtput⟩ := orphaned_logStep hwrites hdead ha
      exact ⟨writes_logStep hwrites ha, hdead', houtput.trans hsame⟩
    exact (always_of_invariant hinv ⟨⟨rest, h⟩, horphan, rfl⟩ as).mono fun _ ht => ht.2.2

/-- **Log lines are never torn.** However the tasks interleave and wherever they are deleted,
what has been written is whole lines in the order of the calls that took the mutex, up to
one unfinished line at the end; that line stays the last one if its task is deleted. -/
theorem log_lines_whole (as : List LogStep) : Always logStep LinesWhole .boot as := by
  have hboot : ∃ rest, Writes .boot rest := ⟨[], writes_boot⟩
  refine (always_of_invariant (I := fun s => ∃ rest, Writes s rest) ?_ hboot as).mono ?_
  · intro s a s' h ha
    obtain ⟨rest, hwrites⟩ := h
    exact writes_logStep hwrites ha
  · intro s h
    obtain ⟨rest, hwrites⟩ := h
    exact hwrites.linesWhole

end XIoT.Logger
