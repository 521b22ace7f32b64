import XIoT.ModbusService
import XIoT.Acquisition
import XIoT.Lib.Runs

/-!
# What the runtime store mirrors

Requests go out on the bus with the tag's id as their token, responses come back with
that token and pass the response queue into the runtime store. The store is compared
with the one that the responses to reads alone would have left.
-/

namespace XIoT.Modbus

open Lib.Runs

/-- A request on the bus. The operation is not part of the frame. -/
structure Pending where
  frame : Frame
  operation : ProtocolOp
  deriving DecidableEq

/-- A response in the queue, with the operation of the request it answers. -/
structure Queued where
  response : ProtocolResponse
  operation : ProtocolOp
  deriving DecidableEq

/-- A response that has been written to the store, and when. -/
structure Applied where
  response : ProtocolResponse
  operation : ProtocolOp
  now : BitVec 32
  deriving DecidableEq

structure BusSystem where
  gModbusCommHealthy : Bool
  pending : List Pending
  gAcqResponseQueue : List Queued
  store : RuntimeStore
  /-- Every response applied so far, oldest first. -/
  applied : List Applied
  deriving DecidableEq

/-- After the initialisations, with acquisition running. -/
def BusSystem.boot (reg : Registry) : BusSystem := ⟨true, [], [], .initial reg, []⟩

inductive BusStep where
  /-- A request is dispatched. -/
  | request (req : ProtocolRequest) (ans : BusAnswers)
  /-- The `i`-th request on the bus is answered by a message. -/
  | data (i : Nat) (msg : List Byte) (u : Uninit)
  /-- The `i`-th request on the bus is answered by an error. -/
  | error (i : Nat) (u : Uninit)
  /-- The acquisition task receives a response; `taken` is the answer of the mutex. -/
  | apply (now : BitVec 32) (taken : Bool)

/-- The request of either kind goes to its service function. -/
def dispatch (req : ProtocolRequest) (ans : BusAnswers) : SysStatus × Option Frame :=
  match req.operation with
  | .read => modbusReadRequest true (some req) ans
  | .write => modbusWriteRequest true (some req) ans

namespace BusSystem

/-- A callback's response is posted to the queue. -/
def post (s : BusSystem) (operation : ProtocolOp) (r : CallbackResult) : BusSystem :=
  match r.response with
  | none => { s with gModbusCommHealthy := r.gModbusCommHealthy }
  | some response =>
    if Acquisition.acquisitionPostResponse .running (some s.gAcqResponseQueue.length)
        (some response) = .ok then
      { s with
        gModbusCommHealthy := r.gModbusCommHealthy
        gAcqResponseQueue := s.gAcqResponseQueue ++ [⟨response, operation⟩] }
    else { s with gModbusCommHealthy := r.gModbusCommHealthy }

/-- The response at the head of the queue is applied. -/
def applyHead (s : BusSystem) (q : Queued) (rest : List Queued) (now : BitVec 32) (taken : Bool) :
    BusSystem :=
  { s with
    gAcqResponseQueue := rest
    store := s.store.acquisitionUpdate q.response now taken
    applied :=
      if s.store.tagRuntimeLock taken = .ok then s.applied ++ [⟨q.response, q.operation, now⟩]
      else s.applied }

end BusSystem

def busStep (reg : Registry) (s : BusSystem) : BusStep → Option BusSystem
  | .request req ans =>
    let r := dispatch req ans
    some { s with pending := s.pending ++ (r.2.map fun frame => ⟨frame, req.operation⟩).toList }
  | .data i msg u =>
    match s.pending[i]? with
    | none => none
    | some p =>
      if Answers p.frame msg then
        some ({ s with pending := s.pending.eraseIdx i }.post p.operation
          (onModbusData reg s.gModbusCommHealthy msg p.frame.token u))
      else none
  | .error i u =>
    match s.pending[i]? with
    | none => none
    | some p =>
      some ({ s with pending := s.pending.eraseIdx i }.post p.operation
        (onModbusError s.gModbusCommHealthy p.frame.token u))
  | .apply now taken =>
    match s.gAcqResponseQueue with
    | [] => none
    | q :: rest => some (s.applyHead q rest now taken)

/-! ## The mirror of the reads -/

/-- The store after the responses to reads alone. -/
def readMirror (reg : Registry) (applied : List Applied) : RuntimeStore :=
  (applied.filter fun a => a.operation = .read).foldl
    (fun store a => store.applyResponse a.response a.now) (.initial reg)

/-- The store is what the responses to reads have made of it. -/
def MirrorsReads (reg : Registry) (s : BusSystem) : Prop := s.store = readMirror reg s.applied

/-- The step applies a response to a write, with the status `status`, to `entry`. -/
def AppliesWrite (s : BusSystem) (status : SysStatus) (entry : TagRuntime) : BusStep → Prop
  | .apply _ taken => ∃ q rest idx, s.gAcqResponseQueue = q :: rest ∧ q.operation = .write ∧
      q.response.status = status ∧ taken = true ∧
      s.store.tagRuntimeGet q.response.tagId = some idx ∧ s.store.gTagRuntime[idx]? = some entry
  | _ => False

/-- A response to a write reaches an entry only as an error, and only one that is invalid. -/
def WritesUnfelt (s : BusSystem) (a : BusStep) : Prop :=
  ∀ status entry, AppliesWrite s status entry a → status ≠ .ok ∧ entry.valid = false

/-- No error of a write reaches a valid entry, and no other response to a write one that is
invalid or that was stored at another time. -/
def WritesUnseen (s : BusSystem) : BusStep → Prop
  | .apply now taken => ∀ status entry, AppliesWrite s status entry (.apply now taken) →
      if status = .ok then entry.valid = true ∧ entry.timestamp = now else entry.valid = false
  | _ => True

theorem readMirror_concat (reg : Registry) (applied : List Applied) (a : Applied) :
    readMirror reg (applied ++ [a]) =
      if a.operation = .read then (readMirror reg applied).applyResponse a.response a.now
      else readMirror reg applied := by
  rw [readMirror, List.filter_append, List.foldl_append]
  by_cases hread : a.operation = .read
  · have hlast : [a].filter (fun a => a.operation = .read) = [a] := by simp [hread]
    rw [if_pos hread, hlast]
    rfl
  · have hlast : [a].filter (fun a => a.operation = .read) = [] := by simp [hread]
    rw [if_neg hread, hlast]
    rfl

/-- The latest response to a read of a tag decides its entry: a good one its value,
validity and time, a bad one that it is invalid. -/
theorem readMirror_entry (reg : Registry) (applied : List Applied) (response : ProtocolResponse)
    (now : BitVec 32) {idx : Nat} {entry : TagRuntime}
    (hidx : (readMirror reg applied).tagRuntimeGet response.tagId = some idx)
    (hentry : (readMirror reg applied).gTagRuntime[idx]? = some entry) :
    (readMirror reg (applied ++ [⟨response, .read, now⟩])).gTagRuntime[idx]? =
      some (entry.update response now) := by
  rw [readMirror_concat, if_pos rfl, RuntimeStore.applyResponse_of_some hidx,
    RuntimeStore.getElem?_modify, if_pos rfl, hentry]
  rfl

/-! ## One step -/

structure MirrorInv (reg : Registry) (s : BusSystem) : Prop where
  mirrors : MirrorsReads reg s
  initialized : s.store.gInitialized = true

theorem mirrorInv_boot (reg : Registry) : MirrorInv reg (.boot reg) := ⟨rfl, rfl⟩

theorem post_frame (s : BusSystem) (operation : ProtocolOp) (r : CallbackResult) :
    (s.post operation r).store = s.store ∧ (s.post operation r).applied = s.applied := by
  unfold BusSystem.post
  split
  · exact ⟨rfl, rfl⟩
  · split <;> exact ⟨rfl, rfl⟩

/-- Only the acquisition task touches the store. -/
theorem busStep_frame {reg : Registry} {s s' : BusSystem} {a : BusStep}
    (ha : busStep reg s a = some s') (hnot : ∀ now taken, a ≠ .apply now taken) :
    s'.store = s.store ∧ s'.applied = s.applied := by
  cases a with
  | request req ans =>
    obtain rfl := Option.some.inj ha
    exact ⟨rfl, rfl⟩
  | data i msg u =>
    simp only [busStep] at ha
    split at ha
    · cases ha
    · obtain ⟨-, rfl⟩ := of_guarded ha
      exact post_frame ..
  | error i u =>
    simp only [busStep] at ha
    split at ha
    · cases ha
    · obtain rfl := Option.some.inj ha
      exact post_frame ..
  | apply now taken => exact absurd rfl (hnot now taken)

theorem apply_cases {reg : Registry} {s s' : BusSystem} {now : BitVec 32} {taken : Bool}
    (ha : busStep reg s (.apply now taken) = some s') :
    ∃ q rest, s.gAcqResponseQueue = q :: rest ∧ s' = s.applyHead q rest now taken := by
  simp only [busStep] at ha
  split at ha
  · cases ha
  · next q rest hqueue => exact ⟨q, rest, hqueue, (Option.some.inj ha).symm⟩

theorem tagRuntimeLock_eq_ok {store : RuntimeStore} (h : store.gInitialized = true) (taken : Bool) :
    store.tagRuntimeLock taken = .ok ↔ taken = true := by
  rw [RuntimeStore.tagRuntimeLock, h]
  cases taken <;> decide

theorem applyResponse_initialized (store : RuntimeStore) (response : ProtocolResponse)
    (now : BitVec 32) : (store.applyResponse response now).gInitialized = store.gInitialized := by
  unfold RuntimeStore.applyResponse
  split <;> rfl

/-- An error leaves an invalid entry as it is. -/
theorem update_error {entry : TagRuntime} {response : ProtocolResponse} (now : BitVec 32)
    (hstatus : response.status ≠ .ok) (hvalid : entry.valid = false) :
    entry.update response now = entry := by
  obtain ⟨config, value, timestamp, valid, changed⟩ := entry
  obtain rfl : valid = false := hvalid
  rw [TagRuntime.update, if_neg hstatus]

/-- A response that leaves the store as it is leaves its entry as it is. -/
theorem update_of_applyResponse {store : RuntimeStore} {response : ProtocolResponse}
    {now : BitVec 32} {idx : Nat} {entry : TagRuntime}
    (hidx : store.tagRuntimeGet response.tagId = some idx)
    (hentry : store.gTagRuntime[idx]? = some entry)
    (hsame : store.applyResponse response now = store) : entry.update response now = entry := by
  rw [RuntimeStore.applyResponse_of_some hidx] at hsame
  have hat := congrArg (fun st : RuntimeStore => st.gTagRuntime[idx]?) hsame
  simp only [RuntimeStore.getElem?_modify, if_pos, hentry, Option.map_some] at hat
  exact Option.some.inj hat

/-- A response leaves the store as it is when it leaves its entry as it is. -/
theorem applyResponse_of_update {store : RuntimeStore} {response : ProtocolResponse}
    {now : BitVec 32} {idx : Nat} {entry : TagRuntime}
    (hidx : store.tagRuntimeGet response.tagId = some idx)
    (hentry : store.gTagRuntime[idx]? = some entry)
    (hsame : entry.update response now = entry) : store.applyResponse response now = store := by
  rw [RuntimeStore.applyResponse_of_some hidx]
  have hlist : (store.modify idx fun e => e.update response now).gTagRuntime =
      store.gTagRuntime := by
    apply List.ext_getElem?
    intro i
    rw [RuntimeStore.getElem?_modify]
    split
    · next heq =>
      rw [← heq, hentry, Option.map_some, hsame]
    · rfl
  exact congrArg (fun l => ({ store with gTagRuntime := l } : RuntimeStore)) hlist

/-- What `apply` does to the store, when the mutex is taken and when it is not. -/
theorem acquisitionUpdate_eq {store : RuntimeStore} (h : store.gInitialized = true)
    (response : ProtocolResponse) (now : BitVec 32) (taken : Bool) :
    store.acquisitionUpdate response now taken =
      if taken = true then store.applyResponse response now else store := by
  simp only [RuntimeStore.acquisitionUpdate, tagRuntimeLock_eq_ok h]

/-- An update leaves the tags of the entries and the initialisation as they are. -/
theorem acquisitionUpdate_frame (store : RuntimeStore) (response : ProtocolResponse)
    (now : BitVec 32) (taken : Bool) :
    (store.acquisitionUpdate response now taken).gInitialized = store.gInitialized ∧
      (store.acquisitionUpdate response now taken).configs = store.configs := by
  unfold RuntimeStore.acquisitionUpdate
  split
  · exact ⟨applyResponse_initialized store response now,
      RuntimeStore.configs_applyResponse store response now⟩
  · exact ⟨rfl, rfl⟩

theorem applyHead_store {s : BusSystem} (h : s.store.gInitialized = true) (q : Queued)
    (rest : List Queued) (now : BitVec 32) (taken : Bool) :
    (s.applyHead q rest now taken).store =
      if taken = true then s.store.applyResponse q.response now else s.store :=
  acquisitionUpdate_eq h q.response now taken

theorem applyHead_applied {s : BusSystem} (h : s.store.gInitialized = true) (q : Queued)
    (rest : List Queued) (now : BitVec 32) (taken : Bool) :
    (s.applyHead q rest now taken).applied =
      if taken = true then s.applied ++ [⟨q.response, q.operation, now⟩] else s.applied := by
  simp only [BusSystem.applyHead, tagRuntimeLock_eq_ok h]

theorem initialized_busStep {reg : Registry} {s s' : BusSystem} {a : BusStep}
    (hs : s.store.gInitialized = true) (ha : busStep reg s a = some s') :
    s'.store.gInitialized = true := by
  by_cases happly : ∃ now taken, a = .apply now taken
  · obtain ⟨now, taken, rfl⟩ := happly
    obtain ⟨q, rest, -, rfl⟩ := apply_cases ha
    exact (acquisitionUpdate_frame s.store q.response now taken).1.trans hs
  · obtain ⟨hstore, -⟩ := busStep_frame ha fun now taken heq => happly ⟨now, taken, heq⟩
    exact hstore ▸ hs

theorem mirrors_applyHead {reg : Registry} {s : BusSystem} {q : Queued} {rest : List Queued}
    {now : BitVec 32} {taken : Bool} (hs : MirrorInv reg s)
    (hsame : taken = true → q.operation = .write →
      s.store.applyResponse q.response now = s.store) :
    MirrorsReads reg (s.applyHead q rest now taken) := by
  rw [MirrorsReads, applyHead_store hs.initialized, applyHead_applied hs.initialized]
  cases taken with
  | false => exact hs.mirrors
  | true =>
    rw [if_pos rfl, if_pos rfl, readMirror_concat, ← hs.mirrors]
    cases hop : q.operation with
    | read => rw [if_pos rfl]
    | write => rw [if_neg nofun, hsame rfl hop]

theorem mirrorInv_busStep {reg : Registry} (s : BusSystem) (a : BusStep) (s' : BusSystem)
    (hs : MirrorInv reg s) (hunfelt : WritesUnfelt s a) (ha : busStep reg s a = some s') :
    MirrorInv reg s' := by
  refine ⟨?_, initialized_busStep hs.initialized ha⟩
  by_cases happly : ∃ now taken, a = .apply now taken
  · obtain ⟨now, taken, rfl⟩ := happly
    obtain ⟨q, rest, hqueue, rfl⟩ := apply_cases ha
    refine mirrors_applyHead hs fun htaken hwrite => ?_
    cases hidx : s.store.tagRuntimeGet q.response.tagId with
    | none => exact RuntimeStore.applyResponse_of_none hidx
    | some idx =>
      obtain ⟨entry, hentry, -⟩ := RuntimeStore.getElem?_of_tagRuntimeGet hidx
      obtain ⟨hstatus, hvalid⟩ := hunfelt q.response.status entry
        ⟨q, rest, idx, hqueue, hwrite, rfl, htaken, hidx, hentry⟩
      exact applyResponse_of_update hidx hentry (update_error now hstatus hvalid)
  · obtain ⟨hstore, happlied⟩ :=
      busStep_frame ha fun now taken heq => happly ⟨now, taken, heq⟩
    rw [MirrorsReads, hstore, happlied]
    exact hs.mirrors

/-- A write whose response leaves the mirror intact has left its entry as it was. -/
theorem writesUnseen_of_mirrors {reg : Registry} {s s' : BusSystem} {a : BusStep}
    (hs : MirrorInv reg s) (ha : busStep reg s a = some s') (hmirrors : MirrorsReads reg s') :
    WritesUnseen s a := by
  cases a with
  | apply now taken =>
    rintro status entry ⟨q, rest, idx, hqueue, hwrite, rfl, rfl, hidx, hentry⟩
    obtain ⟨q', rest', hqueue', rfl⟩ := apply_cases ha
    obtain ⟨rfl, rfl⟩ := List.cons.inj (hqueue.symm.trans hqueue')
    have hstore : s.store.applyResponse q.response now = s.store := by
      calc s.store.applyResponse q.response now
          = readMirror reg (s.applyHead q rest now true).applied :=
            (applyHead_store hs.initialized q rest now true).symm.trans hmirrors
        _ = readMirror reg s.applied := by
          rw [applyHead_applied hs.initialized, if_pos rfl, readMirror_concat,
            if_neg (by simp [hwrite])]
        _ = s.store := hs.mirrors.symm
    have hupdate := update_of_applyResponse hidx hentry hstore
    rw [← hupdate, TagRuntime.update]
    split
    · exact ⟨rfl, rfl⟩
    · rfl
  | _ => trivial

/-- **The runtime store mirrors reads only, as far as writes do not reach it.** Throughout a
run whose responses to writes reach no entry, but for errors that reach an invalid one, the
store is what the responses to reads have made of it. And it is so in no run in which the
error of a write reaches a valid entry, or another response to a write an entry that is
invalid or of another time. -/
theorem mirrors_reads (reg : Registry) (as : List BusStep) :
    (Throughout (busStep reg) WritesUnfelt (.boot reg) as →
      Always (busStep reg) (MirrorsReads reg) (.boot reg) as) ∧
    (Always (busStep reg) (MirrorsReads reg) (.boot reg) as →
      Throughout (busStep reg) WritesUnseen (.boot reg) as) := by
  constructor
  · intro hunfelt
    exact (always_of_throughout mirrorInv_busStep (mirrorInv_boot reg) hunfelt).mono
      fun _ hs => hs.mirrors
  · intro hmirrors
    refine throughout_of_always (I := MirrorInv reg) ?_ (mirrorInv_boot reg) hmirrors
    intro s a s' hs ha hmirrors
    exact ⟨writesUnseen_of_mirrors hs ha hmirrors, hmirrors, initialized_busStep hs.initialized ha⟩

/-- MODE-YC and MODE-YT, the control and the status tag of the coil at address 1. -/
def modeControl : TagConfig := relayControl 2 "MODE-YC" "HDR0030/MODE-YC-100" 1

def modeStatus : TagConfig := relayStatus 8 "MODE-YT" "HDR0030/MODE-YT-100" 1

/-- The slave does not answer when the coil is switched off, and shows it on when it is read. -/
def refusedThenRead : List BusStep :=
  [.request ⟨some modeControl, .write, TagValue.zero.setBv false⟩ ⟨true, true, true⟩,
    .error 0 ⟨.zero, 0, (0, 0), 0⟩, .apply 1000 true,
    .request ⟨some modeStatus, .read, .zero⟩ ⟨true, true, true⟩,
    .data 0 [1, 0x01, 1, 1, 0, 0] ⟨.zero, 0, (0, 0), 0⟩, .apply 2000 true]

theorem mirrors_reads_after_refusedWrite :
    ∃ s, run (busStep gTags) (.boot gTags) refusedThenRead = some s ∧ MirrorsReads gTags s ∧
      s.applied.map Applied.operation = [.write, .read] ∧
      (s.store.gTagRuntime[7]?).map (fun entry => (entry.valid, entry.value.bv)) =
        some (true, true) := by
  refine ⟨_, rfl, ((mirrors_reads gTags refusedThenRead).1 ?_).last rfl, by decide, by decide⟩
  have hreads : ∀ {s : BusSystem} {a : BusStep},
      (∀ q ∈ s.gAcqResponseQueue.head?, q.operation = .read) → WritesUnfelt s a := by
    intro s a hread status entry happlies
    cases a with
    | apply now taken =>
      obtain ⟨q, rest, idx, hqueue, hwrite, -⟩ := happlies
      have hop := hread q (by rw [hqueue]; rfl)
      rw [hwrite] at hop
      cases hop
    | _ => cases happlies
  refine .cons rfl (hreads (by simp [BusSystem.boot])) (.cons rfl (hreads (by decide))
    (.cons rfl ?_ (.cons rfl (hreads (by decide)) (.cons rfl (hreads (by decide))
      (.cons rfl (hreads (by decide)) trivial)))))
  -- the error of the write reaches an entry that no read has filled yet
  rintro status entry ⟨q, rest, idx, hqueue, -, rfl, -, hidx, hentry⟩
  obtain ⟨rfl, rfl⟩ := List.cons.inj hqueue
  obtain rfl : idx = 1 := (Option.some.inj hidx).symm
  obtain rfl := Option.some.inj hentry
  exact ⟨by decide, rfl⟩

/-- The coil at address 1 is switched off, and the slave confirms it. -/
def switchOff : List BusStep :=
  [.request ⟨some modeControl, .write, TagValue.zero.setBv false⟩ ⟨true, true, true⟩,
    .data 0 [1, 0x05, 0, 1, 0, 0] ⟨.zero, 0, (0, 0), 0⟩, .apply 1000 true]

/-- Switching a coil off makes the store show it valid and on. -/
theorem on_after_switchOff :
    ¬ ∀ (reg : Registry) (as : List BusStep),
      Always (busStep reg) (MirrorsReads reg) (.boot reg) as := by
  intro hall
  have hmirrors := (hall gTags switchOff).last rfl
  have hentry := congrArg (fun store : RuntimeStore => (store.gTagRuntime[1]?).map fun entry =>
    (entry.valid, entry.value.bv)) hmirrors
  exact absurd hentry (by decide)

end XIoT.Modbus
