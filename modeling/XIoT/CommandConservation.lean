import XIoT.CommandFlow
import Mathlib.Data.List.Nodup
import Mathlib.Data.List.Range

/-!
# No command disappears silently

An accepted message is in the queue, in the hand of the task, at the dispatcher, or
dropped with a line in the log, and in one of these places only. The flow keeps this;
the deletion of a task with a message in its hand does not.
-/

namespace XIoT.Subscriber

open Lib.Runs

/-- Where an accepted message can be. -/
inductive Place where
  | posted
  | rejected
  | held
  | queued
  deriving DecidableEq, Repr

/-- The message is in that place. -/
def CommandPath.At (s : CommandPath) (m : Numbered) : Place → Prop
  | .posted => m.number ∈ s.posted
  | .rejected => ∃ level text, (m.number, level, text) ∈ s.rejected ∧ (level = .warn ∨ level = .error)
  | .held => s.Holds m
  | .queued => m ∈ s.gQueue

/-- Every accepted message is in exactly one place. -/
def CommandPath.Conserved (s : CommandPath) : Prop :=
  ∀ n msg, s.accepted[n]? = some msg → ∃! p, s.At ⟨n, msg⟩ p

/-! ## The places of the flow -/

def Place.all : List Place := [.posted, .rejected, .held, .queued]

theorem Place.mem_all (p : Place) : p ∈ all := by cases p <;> decide

/-- The numbers of the messages in a place. -/
def Flow.numbers (f : Flow) : Place → List Nat
  | .posted => f.posted
  | .rejected => f.rejected.map Prod.fst
  | .held => f.hand.toList.map fun hand => hand.1.number
  | .queued => f.queue.map Numbered.number

def Flow.places (f : Flow) : List Nat := Place.all.flatMap f.numbers

theorem Flow.places_eq (f : Flow) :
    f.places = f.posted ++ (f.rejected.map Prod.fst ++ (f.hand.toList.map (fun hand => hand.1.number) ++
      f.queue.map Numbered.number)) := by
  simp only [places, Place.all, List.flatMap_cons, List.flatMap_nil, numbers, List.append_nil]

/-- The numbers in the places are those of the accepted messages, each once. -/
structure Flow.Inv (f : Flow) : Prop where
  perm : f.places.Perm (List.range f.accepted.length)
  hand : ∀ m c, f.hand = some (m, c) → f.accepted[m.number]? = some m.msg
  queue : ∀ m ∈ f.queue, f.accepted[m.number]? = some m.msg
  logged : ∀ e ∈ f.rejected, e.2.1 = .warn ∨ e.2.1 = .error

theorem Rejection.level (r : Rejection) : r.logLine.1 = .warn ∨ r.logLine.1 = .error := by
  cases r <;> decide

/-- A message that has a number keeps it. -/
theorem getElem?_concat {accepted : List MqttMsg} {n : Nat} {msg : MqttMsg} (new : MqttMsg)
    (h : accepted[n]? = some msg) : (accepted ++ [new])[n]? = some msg := by
  rw [List.getElem?_append_left (List.getElem?_eq_some_iff.mp h).1]
  exact h

theorem Flow.inv_flowStep {reg : Registry} {json : ArduinoJson} {f f' : Flow} (hf : f.Inv)
    (hstep : FlowStep reg json f f') : f'.Inv := by
  cases hstep with
  | quiet => exact hf
  | accept msg =>
    refine ⟨?_, fun m c hm => getElem?_concat msg (hf.hand m c hm), fun m hm => ?_, hf.logged⟩
    · have hplaces := hf.perm.append_right [f.accepted.length]
      simp only [places_eq, List.map_append, List.map_cons, List.map_nil, List.append_assoc,
        List.length_append, List.length_singleton, List.range_succ] at hplaces ⊢
      exact hplaces
    · rcases List.mem_append.mp hm with hold | hnew
      · exact getElem?_concat msg (hf.queue m hold)
      · rw [List.mem_singleton.mp hnew]
        simp
  | receive m rest hqueue hhand =>
    have hm : m ∈ f.queue := by rw [hqueue]; exact List.mem_cons_self
    refine ⟨?_, fun m' c hm' => ?_, fun m' hm' => hf.queue m' ?_, hf.logged⟩
    · have hplaces := hf.perm
      simp only [places_eq, hqueue, hhand, Option.toList_none, Option.toList_some, List.map_nil,
        List.map_cons, List.nil_append, List.cons_append] at hplaces ⊢
      exact hplaces
    · obtain ⟨rfl, -⟩ := Prod.mk.inj (Option.some.inj hm')
      exact hf.queue m hm
    · rw [hqueue]
      exact List.mem_cons_of_mem m hm'
  | post m request hhand =>
    refine ⟨?_, (fun _ _ hm => by cases hm), hf.queue, hf.logged⟩
    have hplaces := hf.perm
    simp only [places_eq, hhand, Option.toList_none, Option.toList_some, List.map_nil,
      List.map_cons, List.nil_append, List.append_assoc, List.cons_append] at hplaces ⊢
    refine List.Perm.trans ?_ hplaces
    exact List.Perm.append_left _ List.perm_middle.symm
  | refuse m request hhand =>
    refine ⟨?_, fun m' c hm' => ?_, hf.queue, hf.logged⟩
    · have hplaces := hf.perm
      simp only [places_eq, hhand, Option.toList_some, List.map_cons, List.map_nil] at hplaces ⊢
      exact hplaces
    · obtain ⟨rfl, -⟩ := Prod.mk.inj (Option.some.inj hm')
      exact hf.hand m _ hhand
  | reject m r hhand =>
    refine ⟨?_, (fun _ _ hm => by cases hm), hf.queue, fun e he => ?_⟩
    · have hplaces := hf.perm
      simp only [places_eq, hhand, Option.toList_none, Option.toList_some, List.map_nil,
        List.map_cons, List.map_append, List.nil_append, List.append_assoc,
        List.cons_append] at hplaces ⊢
      exact hplaces
    · rcases List.mem_append.mp he with hold | hnew
      · exact hf.logged e hold
      · rw [List.mem_singleton.mp hnew]
        exact r.level
  | otherPost request => exact ⟨hf.perm, hf.hand, hf.queue, hf.logged⟩
  | take p rest hqueue hidle => exact ⟨hf.perm, hf.hand, hf.queue, hf.logged⟩
  | dispatch p hp => exact ⟨hf.perm, hf.hand, hf.queue, hf.logged⟩
  | hand p hp hcommand => exact ⟨hf.perm, hf.hand, hf.queue, hf.logged⟩

theorem Flow.Inv.nodup {f : Flow} (hf : f.Inv) : f.places.Nodup :=
  hf.perm.nodup_iff.mpr List.nodup_range

/-- A number is in one place only. -/
theorem Flow.Inv.place_unique {f : Flow} (hf : f.Inv) {n : Nat} {p q : Place}
    (hp : n ∈ f.numbers p) (hq : n ∈ f.numbers q) : p = q := by
  by_contra hne
  have hdisjoint := (List.nodup_flatMap.mp hf.nodup).2
  have : Std.Symm (Function.onFun List.Disjoint f.numbers) := ⟨fun _ _ h _ hq hp => h hp hq⟩
  exact hdisjoint.forall p.mem_all q.mem_all hne hp hq

theorem Flow.Inv.exists_place {f : Flow} (hf : f.Inv) {n : Nat} (hn : n < f.accepted.length) :
    ∃ p, n ∈ f.numbers p := by
  obtain ⟨p, -, hp⟩ := List.mem_flatMap.mp (hf.perm.mem_iff.mpr (List.mem_range.mpr hn))
  exact ⟨p, hp⟩

/-! ## The places of the path -/

theorem numbered_eq {accepted : List MqttMsg} {n : Nat} {msg : MqttMsg} {m : Numbered}
    (hmsg : accepted[n]? = some msg) (hm : accepted[m.number]? = some m.msg) (hn : m.number = n) :
    m = ⟨n, msg⟩ := by
  subst hn
  rw [hmsg] at hm
  rw [Option.some.inj hm]

/-- A message is in a place when its number is. -/
theorem at_iff {reg : Registry} {json : ArduinoJson} {s : CommandPath} (hs : s.Alone)
    (hf : (s.flow reg json).Inv) {n : Nat} {msg : MqttMsg} (hmsg : s.accepted[n]? = some msg)
    (p : Place) : s.At ⟨n, msg⟩ p ↔ n ∈ (s.flow reg json).numbers p := by
  cases p with
  | posted => exact Iff.rfl
  | rejected =>
    constructor
    · rintro ⟨level, text, hmem, -⟩
      exact List.mem_map.mpr ⟨_, hmem, rfl⟩
    · intro hnumber
      obtain ⟨⟨k, level, text⟩, hmem, rfl⟩ := List.mem_map.mp hnumber
      exact ⟨level, text, hmem, hf.logged _ hmem⟩
  | held =>
    constructor
    · intro hheld
      obtain ⟨c, hhand⟩ := (hs.holds_iff_hand _ reg json).mp hheld
      simp [Flow.numbers, hhand]
    · intro hmem
      obtain ⟨⟨m, c⟩, hhand, hn⟩ := List.mem_map.mp hmem
      have hhand : (s.flow reg json).hand = some (m, c) := Option.mem_toList.mp hhand
      have hm : m = ⟨n, msg⟩ := numbered_eq hmsg (hf.hand m c hhand) hn
      exact (hs.holds_iff_hand _ reg json).mpr ⟨c, hm ▸ hhand⟩
  | queued =>
    constructor
    · intro hqueued
      exact List.mem_map.mpr ⟨_, hqueued, rfl⟩
    · intro hmem
      obtain ⟨m, hqueued, hn⟩ := List.mem_map.mp hmem
      have hm : m = ⟨n, msg⟩ := numbered_eq hmsg (hf.queue m hqueued) hn
      exact hm ▸ hqueued

theorem conserved_of_inv {reg : Registry} {json : ArduinoJson} {s : CommandPath} (hs : s.Alone)
    (hf : (s.flow reg json).Inv) : s.Conserved := by
  intro n msg hmsg
  obtain ⟨p, hp⟩ := hf.exists_place (List.getElem?_eq_some_iff.mp hmsg).1
  refine ⟨p, (at_iff hs hf hmsg p).mpr hp, fun q hq => ?_⟩
  exact hf.place_unique ((at_iff hs hf hmsg q).mp hq) hp

/-- A message that is dropped from the hand is nowhere. -/
theorem not_conserved_of_drop {reg : Registry} {json : ArduinoJson} {s s' : CommandPath}
    {m : Numbered} (hs : s.Alone) (hs' : s'.Alone) (hf : (s.flow reg json).Inv) (hm : s.Holds m)
    (hdrop : s'.flow reg json = { s.flow reg json with hand := none }) : ¬ s'.Conserved := by
  intro hconserved
  obtain ⟨c, hhand⟩ := (hs.holds_iff_hand m reg json).mp hm
  have haccepted : s'.accepted = s.accepted := congrArg Flow.accepted hdrop
  have hmsg : s.accepted[m.number]? = some m.msg := hf.hand m c hhand
  have hheld : m.number ∈ (s.flow reg json).numbers .held := by simp [Flow.numbers, hhand]
  have other : ∀ p, m.number ∈ (s.flow reg json).numbers p → p = .held :=
    fun p hp => hf.place_unique hp hheld
  obtain ⟨p, hp, -⟩ := hconserved m.number m.msg (haccepted ▸ hmsg)
  cases p with
  | posted =>
    have hposted : s'.posted = s.posted := congrArg Flow.posted hdrop
    have hp : m.number ∈ s.posted := by
      rw [← hposted]
      exact hp
    cases other .posted hp
  | rejected =>
    have hrejected : s'.rejected = s.rejected := congrArg Flow.rejected hdrop
    obtain ⟨level, text, hmem, -⟩ := hp
    rw [hrejected] at hmem
    cases other .rejected (List.mem_map.mpr ⟨_, hmem, rfl⟩)
  | held =>
    obtain ⟨c', hhand'⟩ := (hs'.holds_iff_hand m reg json).mp hp
    rw [hdrop] at hhand'
    cases hhand'
  | queued =>
    have hqueue : s'.gQueue = s.gQueue := congrArg Flow.queue hdrop
    have hp : m ∈ s.gQueue := by
      rw [← hqueue]
      exact hp
    cases other .queued (List.mem_map.mpr ⟨m, hp, rfl⟩)

/-! ## Runs -/

/-- No subscriber task is deleted with a message in its hand. -/
def StopsEmptyHanded (s : CommandPath) (a : CommandStep) : Prop := ¬ s.DropsMessage a

theorem flow_inv_boot (reg : Registry) (json : ArduinoJson) (dispatcher : DispatcherState) :
    ((CommandPath.boot dispatcher).flow reg json).Inv where
  perm := List.Perm.refl _
  hand _ _ hhand := by cases hhand
  queue _ hmem := by cases hmem
  logged _ hmem := by cases hmem

/-- **No accepted command disappears silently, exactly.** Every accepted message is
throughout a run in exactly one place if and only if no step deletes a subscriber task
that has received a message and not yet posted or rejected it. -/
theorem commands_conserved_iff (reg : Registry) (json : ArduinoJson) (dispatcher : DispatcherState)
    (as : List CommandStep) :
    Always (commandStep reg json) CommandPath.Conserved (.boot dispatcher) as ↔
      Throughout (commandStep reg json) StopsEmptyHanded (.boot dispatcher) as := by
  refine always_iff_throughout (I := fun s => s.Alone ∧ (s.flow reg json).Inv)
    (fun _ hs => conserved_of_inv hs.1 hs.2) ?_ ?_
    ⟨CommandPath.alone_boot dispatcher, flow_inv_boot reg json dispatcher⟩ as
  · rintro s a s' ⟨hs, hf⟩ hempty ha
    obtain ⟨hs', hrefines⟩ := CommandPath.refines_commandStep hs ha
    rcases hrefines with ⟨-, hstep⟩ | ⟨hdrops, -⟩
    · exact ⟨hs', Flow.inv_flowStep hf hstep⟩
    · exact absurd hdrops hempty
  · rintro s a s' ⟨hs, hf⟩ hdrops ha
    obtain ⟨hs', hrefines⟩ := CommandPath.refines_commandStep hs ha
    rcases hrefines with ⟨hnot, -⟩ | ⟨⟨-, -, m, hm⟩, hdrop⟩
    · exact absurd hnot hdrops
    · exact not_conserved_of_drop hs hs' hf hm hdrop

/-- The broker disconnects while a command for a relay is in the hand of the task. -/
def stopInHand : List CommandStep :=
  [.start, .call true, .call true, .task 0,
    .post (some (onMessage "HDR0030/MACH-YC-100" "\x7b\"value\":false\x7d" 1 false)), .send 0, .task 0,
    .stop, .call true, .call true]

/-- A parser for that one payload, and conversions as the library documents them. -/
def switchOffJson : ArduinoJson where
  deserializeJson _ := some (.object [("value", .bool false)])
  toBool
    | .bool b => b
    | _ => false
  toUnsigned _ _ := 0
  toSigned _ _ := 0
  toFloat _ := 0

/-- A relay is not switched off, and nothing says so. -/
theorem command_lost_by_stop :
    ¬ ∀ (reg : Registry) (json : ArduinoJson) (dispatcher : DispatcherState)
      (as : List CommandStep),
      Always (commandStep reg json) CommandPath.Conserved (.boot dispatcher) as := by
  intro hall
  have hconserved := (hall gTags switchOffJson .running stopInHand).last rfl
  have hrun : run (commandStep gTags switchOffJson) (.boot .running) stopInHand = some _ := rfl
  have halone := run_invariant (fun _ _ _ hs ha => (CommandPath.refines_commandStep hs ha).1)
    (CommandPath.alone_boot .running) hrun
  obtain ⟨p, hp, -⟩ := hconserved 0 _ rfl
  cases p with
  | posted => cases hp
  | rejected =>
    obtain ⟨level, text, hmem, -⟩ := hp
    cases hmem
  | held =>
    obtain ⟨h, pc, hpc, -⟩ := hp
    cases halone.handle h (Lib.TaskPool.Pool.Alive.intro hpc)
  | queued => cases hp

end XIoT.Subscriber
