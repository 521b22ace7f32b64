import XIoT.ProtocolDispatcher
import XIoT.Lib.PeriodicTimer
import XIoT.Lib.Trace

/-!
# The scan schedule

When `acquisition_task` sweeps the registry and what a sweep requests. The task reads
`millis()` once a pass, in between it waits for a response; `lastScanTime` is its local
variable and zero at first.
-/

namespace XIoT.Acquisition

open Lib.WrappingClock (shown Paced)
open Lib.PeriodicTimer

/-- A pass of the task: when it reads the clock, and what the variable `request` of the
sweep holds before each of its rounds. -/
structure ScanPass where
  time : ℕ
  stack : ℕ → TagValue

/-- One round of `acquisition_scan`. -/
def scanRound (reg : Registry) (index : ℕ) (value : TagValue) : List ProtocolRequest :=
  match reg.tagGetAt index with
  | none => []
  | some tag => if tag.access = .writeOnly then [] else [⟨some tag, .read, value⟩]

/-- The requests that `acquisition_scan` posts; whether a post succeeds decides on a log
line only. -/
def acquisitionScan (reg : Registry) (stack : ℕ → TagValue) : List ProtocolRequest :=
  (List.range reg.tagCount).flatMap fun i => scanRound reg i (stack i)

/-- A pass of `acquisition_task` as far as the wait for a response, over `lastScanTime`. -/
def scanPass (reg : Registry) (gAcqScanInterval lastScanTime : BitVec 32) (p : ScanPass) :
    BitVec 32 × List ProtocolRequest :=
  let now := shown 32 p.time
  if gAcqScanInterval ≤ now - lastScanTime then (now, acquisitionScan reg p.stack)
  else (lastScanTime, [])

/-- The requests that the task posts in a number of passes. -/
def scanRequests (reg : Registry) (gAcqScanInterval : BitVec 32) (passes : List ScanPass) :
    List ProtocolRequest :=
  Lib.Trace.output (scanPass reg gAcqScanInterval) 0 passes

/-- The tags of the registry that can be read, in table order. -/
def readableTags (reg : Registry) : List TagConfig :=
  reg.gTags.filter fun tag => tag.access ≠ .writeOnly

/-- The clock shows zero when it comes round, last of all before a pass. -/
def epoch (time : ℕ) : ℕ := time - time % 2 ^ 32

/-! ## A sweep -/

theorem scan_requests_round (reg : Registry) (stack : ℕ → TagValue) (n : ℕ)
    (hn : n ≤ reg.gTags.length) :
    ((List.range n).flatMap fun i => scanRound reg i (stack i)).map
        (fun request => (request.tag, request.operation)) =
      ((reg.gTags.take n).filter fun tag => tag.access ≠ .writeOnly).map
        fun tag => (some tag, ProtocolOp.read) := by
  induction n with
  | zero => rfl
  | succ n ih =>
    have hlt : n < reg.gTags.length := hn
    have htag : reg.tagGetAt n = some reg.gTags[n] := List.getElem?_eq_getElem hlt
    rw [List.range_succ, List.flatMap_append, List.map_append, ih (Nat.le_of_lt hlt),
      List.take_succ_eq_append_getElem hlt, List.filter_append, List.map_append]
    congr 1
    simp only [List.flatMap_cons, List.flatMap_nil, List.append_nil, scanRound, htag]
    by_cases haccess : reg.gTags[n].access = .writeOnly
    · simp [haccess]
    · simp [haccess]

/-- A sweep requests one read of every readable tag, in table order. -/
theorem acquisitionScan_requests (reg : Registry) (stack : ℕ → TagValue) :
    (acquisitionScan reg stack).map (fun request => (request.tag, request.operation)) =
      (readableTags reg).map fun tag => (some tag, ProtocolOp.read) := by
  have hrounds := scan_requests_round reg stack reg.tagCount (Nat.le_refl _)
  rwa [Registry.tagCount, List.take_length] at hrounds

/-! ## The schedule -/

/-- The passes that sweep are those at which the timer fires. -/
theorem scanOutput_eq (reg : Registry) (interval lastScanTime : BitVec 32)
    (passes : List ScanPass) :
    (Lib.Trace.output (scanPass reg interval) lastScanTime passes).map
        (fun request => (request.tag, request.operation)) =
      (firings interval lastScanTime (passes.map ScanPass.time)).flatMap fun _ =>
        (readableTags reg).map fun tag => (some tag, ProtocolOp.read) := by
  induction passes generalizing lastScanTime with
  | nil => rfl
  | cons p passes ih =>
    have hcons : Lib.Trace.output (scanPass reg interval) lastScanTime (p :: passes) =
        (scanPass reg interval lastScanTime p).2 ++
          Lib.Trace.output (scanPass reg interval) (scanPass reg interval lastScanTime p).1 passes := rfl
    rw [hcons, List.map_append, ih, List.map_cons, firings_cons, scanPass]
    by_cases hdue : interval ≤ shown 32 p.time - lastScanTime
    · simp only [if_pos hdue, List.flatMap_cons, acquisitionScan_requests]
    · simp only [if_neg hdue, List.map_nil, List.nil_append]

/-- What a run of the task requests, and when. -/
structure ScansOnSchedule (reg : Registry) (interval : BitVec 32) (start : ℕ)
    (passes : List ScanPass) (scans : List ℕ) : Prop where
  /-- A scan is a whole sweep. -/
  sweeps : (scanRequests reg interval passes).map (fun request => (request.tag, request.operation)) =
    scans.flatMap fun _ => (readableTags reg).map fun tag => (some tag, ProtocolOp.read)
  exact_ : scans = schedule interval.toNat start (passes.map ScanPass.time)
  spaced : Spaced interval.toNat start scans
  /-- The start counts as a scan here. -/
  fresh : ∀ p ∈ passes, ∃ scan ∈ start :: scans,
    scan ≤ p.time ∧ (p.time < scan + interval.toNat ∨ p.time = scan)

theorem shown_epoch (time : ℕ) : shown 32 (epoch time) = 0 := by
  apply BitVec.eq_of_toNat_eq
  rw [shown, BitVec.toNat_ofNat, epoch]
  show (time - time % 2 ^ 32) % 2 ^ 32 = 0
  omega

/-- The first pass comes before the clock has come round since its epoch. -/
theorem pacedFrom_epoch {interval : BitVec 32} {p : ScanPass} {passes : List ScanPass}
    (h : Paced interval ((p :: passes).map ScanPass.time)) :
    PacedFrom interval (epoch p.time) ((p :: passes).map ScanPass.time) := by
  refine ⟨fun time htime => ?_, h⟩
  obtain rfl := Option.some.inj htime
  rw [epoch]
  omega

/-- **Scans come on schedule, across every wrap of the clock.** Each one requests every
readable tag once and in table order, two are never less than the interval apart, and no
pass finds the latest one older than the interval. -/
theorem scans_on_schedule (reg : Registry) (interval : BitVec 32) (p : ScanPass)
    (passes : List ScanPass) (hpaced : Paced interval ((p :: passes).map ScanPass.time)) :
    ScansOnSchedule reg interval (epoch p.time) (p :: passes)
      (firings interval 0 ((p :: passes).map ScanPass.time)) := by
  have hfrom := pacedFrom_epoch hpaced
  have hexact := firings_eq_schedule hfrom
  have hspaced : Spaced interval.toNat (epoch p.time) (firings interval _ _) :=
    firings_spaced hfrom.ordered
  rw [shown_epoch] at hexact hspaced
  refine ⟨scanOutput_eq reg interval 0 (p :: passes), hexact, hspaced, fun q hq => ?_⟩
  rw [hexact]
  exact schedule_fresh hfrom.ordered q.time (List.mem_map_of_mem hq)

/-- Passes before and after the clock comes round, the last of them eleven seconds after
the first. -/
def passesAcrossWrap : List ScanPass :=
  [⟨2 ^ 32 - 5000, fun _ => .zero⟩, ⟨2 ^ 32 - 1, fun _ => .zero⟩, ⟨2 ^ 32 + 6000, fun _ => .zero⟩]

/-- The first and the last of them scan. -/
theorem scans_across_wrap :
    ScansOnSchedule gTags 10000 (epoch (2 ^ 32 - 5000)) passesAcrossWrap
      [2 ^ 32 - 5000, 2 ^ 32 + 6000] :=
  scans_on_schedule gTags 10000 ⟨2 ^ 32 - 5000, fun _ => .zero⟩
    [⟨2 ^ 32 - 1, fun _ => .zero⟩, ⟨2 ^ 32 + 6000, fun _ => .zero⟩] (by decide)

end XIoT.Acquisition
