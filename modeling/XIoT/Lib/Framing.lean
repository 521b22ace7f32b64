import Mathlib.Data.List.Infix

/-!
# Frames that end with a run of one symbol

A sender puts `n` copies of a symbol behind every frame, and no frame contains that
symbol. A receiver that takes one symbol at a time gets the frames back, each as soon as
its end has come.
-/

namespace XIoT.Lib.Framing

variable {α : Type*} [DecidableEq α] (t : α) (n : ℕ)

/-- A frame with its end. -/
def encode (frame : List α) : List α := frame ++ List.replicate n t

/-- What a receiver has: the frame that has begun, how much of an end has come, and the
frames that are complete. -/
structure Receiver (α : Type*) where
  frame : List α
  ends : ℕ
  frames : List (List α)

def Receiver.empty : Receiver α := ⟨[], 0, []⟩

/-- One more symbol. A run of `t` that is too short for an end belongs to the frame. -/
def Receiver.feed (r : Receiver α) (a : α) : Receiver α :=
  if a = t then
    if r.ends + 1 = n then ⟨[], 0, r.frames ++ [r.frame]⟩ else { r with ends := r.ends + 1 }
  else ⟨r.frame ++ List.replicate r.ends t ++ [a], 0, r.frames⟩

def Receiver.feedAll (r : Receiver α) (l : List α) : Receiver α := l.foldl (Receiver.feed t n) r

/-- The frames a receiver has got from a stream. -/
def received (l : List α) : List (List α) := (Receiver.empty.feedAll t n l).frames

variable {t n}

theorem Receiver.feedAll_append (r : Receiver α) (l m : List α) :
    r.feedAll t n (l ++ m) = (r.feedAll t n l).feedAll t n m := List.foldl_append

/-- Symbols of a frame. -/
theorem Receiver.feedAll_body {body : List α} (hbody : t ∉ body) (frame : List α)
    (frames : List (List α)) :
    (⟨frame, 0, frames⟩ : Receiver α).feedAll t n body = ⟨frame ++ body, 0, frames⟩ := by
  induction body generalizing frame with
  | nil => rw [List.append_nil]; rfl
  | cons a body ih =>
    have hne : a ≠ t := fun h => hbody (h ▸ List.mem_cons_self)
    have hrest : t ∉ body := fun h => hbody (List.mem_cons_of_mem a h)
    have hfeed : (⟨frame, 0, frames⟩ : Receiver α).feed t n a = ⟨frame ++ [a], 0, frames⟩ := by
      simp [Receiver.feed, hne]
    rw [Receiver.feedAll, List.foldl_cons, hfeed]
    exact (ih hrest (frame ++ [a])).trans (by rw [List.append_assoc]; rfl)

/-- An end, from somewhere within it. -/
theorem Receiver.feedAll_end (frame : List α) (frames : List (List α)) {k ends : ℕ} (hk : 0 < k)
    (hends : ends + k = n) :
    (⟨frame, ends, frames⟩ : Receiver α).feedAll t n (List.replicate k t) =
      ⟨[], 0, frames ++ [frame]⟩ := by
  induction k generalizing ends with
  | zero => omega
  | succ k ih =>
    rw [List.replicate_succ, Receiver.feedAll, List.foldl_cons]
    rcases Nat.eq_zero_or_pos k with rfl | hpos
    · have hfeed : (⟨frame, ends, frames⟩ : Receiver α).feed t n t = ⟨[], 0, frames ++ [frame]⟩ := by
        rw [Receiver.feed, if_pos rfl, if_pos hends]
      rw [hfeed]
      rfl
    · have hfeed : (⟨frame, ends, frames⟩ : Receiver α).feed t n t = ⟨frame, ends + 1, frames⟩ := by
        rw [Receiver.feed, if_pos rfl, if_neg (show ¬ ends + 1 = n by omega)]
      rw [hfeed]
      exact ih hpos (by omega)

theorem Receiver.feedAll_encode (hn : 0 < n) {frame : List α} (hframe : t ∉ frame)
    (frames : List (List α)) :
    (⟨[], 0, frames⟩ : Receiver α).feedAll t n (encode t n frame) = ⟨[], 0, frames ++ [frame]⟩ := by
  rw [encode, Receiver.feedAll_append, Receiver.feedAll_body hframe, List.nil_append]
  exact Receiver.feedAll_end frame frames hn (Nat.zero_add n)

/-- **Round trip.** A receiver gets the frames that were sent, in order. -/
theorem received_encode (hn : 0 < n) {frames : List (List α)} (hframes : ∀ frame ∈ frames, t ∉ frame) :
    received t n (frames.flatMap (encode t n)) = frames := by
  have hall : ∀ (seen : List (List α)), (⟨[], 0, seen⟩ : Receiver α).feedAll t n
      (frames.flatMap (encode t n)) = ⟨[], 0, seen ++ frames⟩ := by
    induction frames with
    | nil => intro seen; rw [List.append_nil]; rfl
    | cons frame frames ih =>
      intro seen
      rw [List.flatMap_cons, Receiver.feedAll_append,
        Receiver.feedAll_encode hn (hframes frame List.mem_cons_self),
        ih fun f hf => hframes f (List.mem_cons_of_mem frame hf), List.append_assoc]
      rfl
  rw [received, Receiver.empty, hall []]
  rfl

theorem Receiver.feedAll_frames (r : Receiver α) (l : List α) :
    r.frames <+: (r.feedAll t n l).frames := by
  induction l generalizing r with
  | nil => exact List.prefix_refl r.frames
  | cons a l ih =>
    have hfeed : r.frames <+: (r.feed t n a).frames := by
      unfold Receiver.feed
      split
      · split
        · exact List.prefix_append r.frames [r.frame]
        · exact List.prefix_refl r.frames
      · exact List.prefix_refl r.frames
    exact hfeed.trans (ih (r.feed t n a))

/-- A stream that is cut off yields the first of the frames. -/
theorem received_cut (hn : 0 < n) {frames : List (List α)} (hframes : ∀ frame ∈ frames, t ∉ frame)
    {l : List α} (hl : l <+: frames.flatMap (encode t n)) : received t n l <+: frames := by
  obtain ⟨rest, hrest⟩ := hl
  have hmore := (Receiver.empty.feedAll t n l).feedAll_frames (t := t) (n := n) rest
  rw [← Receiver.feedAll_append, hrest] at hmore
  exact (received_encode hn hframes) ▸ hmore

end XIoT.Lib.Framing
