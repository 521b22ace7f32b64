import XIoT.Publisher
import XIoT.Acquisition
import XIoT.Lib.Runs

/-!
# Snapshots of the runtime store

`acquisition_task` writes an entry field by field while it holds the mutex of the store;
`publisherTask` tests an entry without the mutex, copies it field by field with the mutex
and builds a message from the copy. The steps below are single fields, so that every
update can fall between any two of the publisher's.
-/

namespace XIoT.Publisher

open Lib.Runs
open Subscriber (MqttMsg)

/-- The two tasks that take the mutex of the store. -/
inductive Party where
  | acquisition
  | publisher
  deriving DecidableEq, Repr

/-- A response on its way into the entry at `idx`; `number` is its place in the order of
arrival. -/
structure Update where
  number : Nat
  response : ProtocolResponse
  idx : Nat

/-- `acquisition_task`, by its next step. -/
inductive AcquisitionPc where
  | receive
  | lock (u : Update)
  | writeValue (u : Update)
  | writeValid (u : Update)
  | writeTimestamp (u : Update)
  | writeChanged (u : Update)
  | clearValid (u : Update)
  | unlock

/-- `localTag`, with the numbers of the responses its value and timestamp are from, and
whether the last response to the entry since the test, if any, was a good one. -/
structure LocalTag where
  tag : TagRuntime
  valueBy : Option Nat
  timestampBy : Option Nat
  sinceTest : Option Bool

/-- `publisherTask`, by its next step on the entry at `idx`. -/
inductive PublisherPc where
  | test (idx : Nat)
  | lock (idx : Nat)
  | copyValue (idx : Nat)
  | copyTimestamp (idx : Nat) (c : LocalTag)
  | copyValid (idx : Nat) (c : LocalTag)
  | copyChanged (idx : Nat) (c : LocalTag)
  | unlock (idx : Nat) (c : LocalTag)
  | build (idx : Nat) (c : LocalTag)
  | publish (idx : Nat) (msg : MqttMsg)

/-- The entry that was tested and whose `valid` is not yet copied. -/
def PublisherPc.tested : PublisherPc → Option Nat
  | .lock idx => some idx
  | .copyValue idx => some idx
  | .copyTimestamp idx _ => some idx
  | .copyValid idx _ => some idx
  | _ => none

structure Sharing where
  store : RuntimeStore
  mutex : Option Party
  acquisition : AcquisitionPc
  publisher : PublisherPc
  /-- The responses received so far, oldest first. -/
  responses : List ProtocolResponse
  /-- The response that wrote the value, and the timestamp, of each entry. -/
  valueBy : Nat → Option Nat
  timestampBy : Nat → Option Nat
  /-- The last response to the tested entry since its test. -/
  sinceTest : Option Bool
  /-- The copies that messages were built from, with the messages. -/
  built : List (LocalTag × MqttMsg)

/-- After `tag_runtime_init`, with both tasks running. -/
def Sharing.boot (reg : Registry) : Sharing :=
  ⟨.initial reg, none, .receive, .test 0, [], fun _ => none, fun _ => none, none, []⟩

namespace Sharing

/-! ## Acquisition -/

/-- `xQueueReceive` returns a response. -/
def receive (s : Sharing) (response : ProtocolResponse) : Option Sharing :=
  match s.acquisition with
  | .receive =>
    some { s with
      responses := s.responses ++ [response]
      acquisition :=
        match s.store.tagRuntimeGet response.tagId with
        | none => .receive
        | some idx => .lock ⟨s.responses.length, response, idx⟩ }
  | _ => none

/-- The `valid` field of an entry is written. -/
def setValid (s : Sharing) (idx : Nat) (valid : Bool) : Sharing :=
  { s with
    store := s.store.modify idx fun entry => { entry with valid := valid }
    sinceTest := if s.publisher.tested = some idx then some valid else s.sinceTest }

/-- The next step of `acquisition_task` on a response; `taken` is the answer of
`xSemaphoreTake`, which waits for the mutex. -/
def acquisitionStep (s : Sharing) (now : BitVec 32) (taken : Bool) : Option Sharing :=
  match s.acquisition with
  | .receive => none
  | .lock u =>
    if s.store.tagRuntimeLock taken ≠ .ok then some { s with acquisition := .receive }
    else if s.mutex ≠ none then none
    else
      some { s with
        mutex := some .acquisition
        acquisition := if u.response.status = .ok then .writeValue u else .clearValid u }
  | .writeValue u =>
    some { s with
      store := s.store.modify u.idx fun entry => { entry with value := u.response.value }
      valueBy := fun i => if i = u.idx then some u.number else s.valueBy i
      acquisition := .writeValid u }
  | .writeValid u => some { s.setValid u.idx true with acquisition := .writeTimestamp u }
  | .writeTimestamp u =>
    some { s with
      store := s.store.modify u.idx fun entry => { entry with timestamp := now }
      timestampBy := fun i => if i = u.idx then some u.number else s.timestampBy i
      acquisition := .writeChanged u }
  | .writeChanged u =>
    some { s with
      store := s.store.modify u.idx fun entry => { entry with changed := true }
      acquisition := .unlock }
  | .clearValid u => some { s.setValid u.idx false with acquisition := .unlock }
  | .unlock => some { s with mutex := none, acquisition := .receive }

/-! ## Publishing -/

/-- The next step of `publisherTask`. `memset` has cleared what is not yet copied. -/
def publisherStep (serializeJson : Telemetry → String) (s : Sharing) (taken : Bool) :
    Option Sharing :=
  match s.publisher with
  | .test idx =>
    match s.store.gTagRuntime[idx]? with
    | none => some { s with publisher := .test 0 }
    | some entry =>
      if isPublished entry then some { s with publisher := .lock idx, sinceTest := none }
      else some { s with publisher := .test (idx + 1) }
  | .lock idx =>
    if s.store.tagRuntimeLock taken ≠ .ok then some { s with publisher := .test (idx + 1) }
    else if s.mutex ≠ none then none
    else some { s with mutex := some .publisher, publisher := .copyValue idx }
  | .copyValue idx =>
    (s.store.gTagRuntime[idx]?).map fun entry =>
      { s with
        publisher := .copyTimestamp idx
          ⟨⟨entry.config, entry.value, 0, false, false⟩, s.valueBy idx, none, none⟩ }
  | .copyTimestamp idx c =>
    (s.store.gTagRuntime[idx]?).map fun entry =>
      { s with
        publisher := .copyValid idx
          { c with
            tag := { c.tag with timestamp := entry.timestamp }
            timestampBy := s.timestampBy idx } }
  | .copyValid idx c =>
    (s.store.gTagRuntime[idx]?).map fun entry =>
      { s with
        publisher := .copyChanged idx
          { c with tag := { c.tag with valid := entry.valid }, sinceTest := s.sinceTest } }
  | .copyChanged idx c =>
    (s.store.gTagRuntime[idx]?).map fun entry =>
      { s with publisher := .unlock idx { c with tag := { c.tag with changed := entry.changed } } }
  | .unlock idx c => some { s with mutex := none, publisher := .build idx c }
  | .build idx c =>
    match buildMessage serializeJson (some c.tag) with
    | .error _ => some { s with publisher := .test (idx + 1) }
    | .ok msg => some { s with built := s.built ++ [(c, msg)], publisher := .publish idx msg }
  | .publish idx _ => some { s with publisher := .test (idx + 1) }

end Sharing

inductive SharingStep where
  | receive (response : ProtocolResponse)
  | acquisition (now : BitVec 32) (taken : Bool)
  | publisher (taken : Bool)

def sharingStep (serializeJson : Telemetry → String) (s : Sharing) : SharingStep → Option Sharing
  | .receive response => s.receive response
  | .acquisition now taken => s.acquisitionStep now taken
  | .publisher taken => s.publisherStep serializeJson taken

/-! ## What a snapshot is -/

/-- The value of the copy was written by a good response to its tag. -/
def FromResponse (responses : List ProtocolResponse) (c : LocalTag) : Prop :=
  ∃ k response, c.valueBy = some k ∧ responses[k]? = some response ∧ response.status = .ok ∧
    response.tagId = c.tag.config.tagId ∧ c.tag.value = response.value

/-- Value and timestamp are from one good response to the tag, and the copy is valid. -/
structure IsSnapshot (responses : List ProtocolResponse) (c : LocalTag) : Prop where
  fromResponse : FromResponse responses c
  together : c.timestampBy = c.valueBy
  valid : c.tag.valid = true

/-- Every message was built from a snapshot. -/
def PublishesSnapshots (s : Sharing) : Prop := ∀ b ∈ s.built, IsSnapshot s.responses b.1

/-- A message is built from a copy only when no bad response was the last one to its
entry between the test and the copy. -/
def NotFailedSinceTest (serializeJson : Telemetry → String) (s : Sharing) : SharingStep → Prop
  | .publisher _ =>
    ∀ idx c msg, s.publisher = .build idx c → buildMessage serializeJson (some c.tag) = .ok msg →
      c.sinceTest ≠ some false
  | _ => True

/-! ## The invariant -/

namespace Sharing

/-- Between the write of the value and that of the timestamp of the entry. -/
def Updating (s : Sharing) (i : Nat) : Prop :=
  match s.acquisition with
  | .writeValid u => u.idx = i
  | .writeTimestamp u => u.idx = i
  | _ => False

/-- The update is that of a response received, to the entry of its tag. -/
def Known (s : Sharing) (u : Update) : Prop :=
  s.responses[u.number]? = some u.response ∧
    ∀ entry, s.store.gTagRuntime[u.idx]? = some entry → entry.config.tagId = u.response.tagId

/-- What `acquisition_task` relies on where it stands. -/
def AcquisitionInv (s : Sharing) : Prop :=
  match s.acquisition with
  | .receive => True
  | .lock u => s.Known u
  | .writeValue u => s.mutex = some .acquisition ∧ s.Known u ∧ u.response.status = .ok
  | .writeValid u => s.mutex = some .acquisition ∧ s.valueBy u.idx = some u.number
  | .writeTimestamp u => s.mutex = some .acquisition ∧ s.valueBy u.idx = some u.number
  | .writeChanged _ => s.mutex = some .acquisition
  | .clearValid _ => s.mutex = some .acquisition
  | .unlock => s.mutex = some .acquisition

/-- The entry was valid at its test, and what has become of it is noted. -/
def Tested (s : Sharing) (idx : Nat) : Prop :=
  s.valueBy idx ≠ none ∧
    ∃ entry, s.store.gTagRuntime[idx]? = some entry ∧ entry.valid = s.sinceTest.getD true

/-- What `publisherTask` relies on where it stands. -/
def PublisherInv (s : Sharing) : Prop :=
  match s.publisher with
  | .test _ => True
  | .lock idx => s.Tested idx
  | .copyValue idx => s.mutex = some .publisher ∧ s.Tested idx
  | .copyTimestamp idx c =>
    s.mutex = some .publisher ∧ s.Tested idx ∧ FromResponse s.responses c ∧
      c.valueBy = s.valueBy idx
  | .copyValid idx c =>
    s.mutex = some .publisher ∧ s.Tested idx ∧ FromResponse s.responses c ∧
      c.timestampBy = c.valueBy
  | .copyChanged _ c =>
    s.mutex = some .publisher ∧ FromResponse s.responses c ∧ c.timestampBy = c.valueBy ∧
      c.tag.valid = c.sinceTest.getD true
  | .unlock _ c =>
    s.mutex = some .publisher ∧ FromResponse s.responses c ∧ c.timestampBy = c.valueBy ∧
      c.tag.valid = c.sinceTest.getD true
  | .build _ c =>
    FromResponse s.responses c ∧ c.timestampBy = c.valueBy ∧ c.tag.valid = c.sinceTest.getD true
  | .publish _ _ => True

/-- The values in the store are those of the responses noted for them. -/
def Authored (s : Sharing) : Prop :=
  ∀ i entry k, s.store.gTagRuntime[i]? = some entry → s.valueBy i = some k →
    ∃ response, s.responses[k]? = some response ∧ response.status = .ok ∧
      response.tagId = entry.config.tagId ∧ entry.value = response.value

/-- A valid entry has been written. -/
def ValidAuthored (s : Sharing) : Prop :=
  ∀ i entry, s.store.gTagRuntime[i]? = some entry → entry.valid = true → s.valueBy i ≠ none

/-- Every message was built from a copy whose value and timestamp are from one good
response, and what has become of its entry since the test is noted. -/
def BuiltTogether (s : Sharing) : Prop :=
  ∀ b ∈ s.built, FromResponse s.responses b.1 ∧ b.1.timestampBy = b.1.valueBy ∧
    b.1.tag.valid = b.1.sinceTest.getD true

structure Inv (s : Sharing) : Prop where
  /-- No entry is half updated but the one that is being updated. -/
  settled : ∀ i, ¬ s.Updating i → s.timestampBy i = s.valueBy i
  authored : s.Authored
  valid : s.ValidAuthored
  acquisition : s.AcquisitionInv
  publisher : s.PublisherInv
  built : s.BuiltTogether

theorem inv_boot (reg : Registry) : (boot reg).Inv where
  settled _ _ := rfl
  authored _ _ _ _ h := by cases h
  valid i entry h hvalid := by
    obtain ⟨tag, -, rfl⟩ := List.mem_map.mp (List.mem_of_getElem? h)
    cases hvalid
  acquisition := trivial
  publisher := trivial
  built _ hmem := by cases hmem

variable {s s' : Sharing}

/-! ### The mutex -/

/-- While the publisher does not hold the mutex, it depends on the entry it tested and
on the responses only. -/
theorem publisherInv_of_not_held (h : s.PublisherInv) (hmutex : s.mutex ≠ some .publisher)
    (hpc : s'.publisher = s.publisher) (hresponses : s'.responses = s.responses)
    (htested : ∀ idx, s.publisher.tested = some idx → s.Tested idx → s'.Tested idx) :
    s'.PublisherInv := by
  unfold PublisherInv at h ⊢
  rw [hpc, hresponses]
  cases hp : s.publisher <;> rw [hp] at h
  case lock idx => exact htested idx (by rw [hp]; rfl) h
  case test => trivial
  case build => exact h
  case publish => trivial
  all_goals exact absurd h.1 hmutex

/-- While acquisition does not hold the mutex, it depends on the response it received. -/
theorem acquisitionInv_of_not_held (h : s.AcquisitionInv) (hmutex : s.mutex ≠ some .acquisition)
    (hpc : s'.acquisition = s.acquisition) (hresponses : s'.responses = s.responses)
    (hstore : s'.store = s.store) : s'.AcquisitionInv := by
  unfold AcquisitionInv at h ⊢
  rw [hpc]
  cases hp : s.acquisition <;> rw [hp] at h
  case receive => trivial
  case lock u => exact ⟨hresponses ▸ h.1, hstore ▸ h.2⟩
  case writeValue => exact absurd h.1 hmutex
  case writeValid => exact absurd h.1 hmutex
  case writeTimestamp => exact absurd h.1 hmutex
  all_goals exact absurd h hmutex

/-! ### The acquisition task -/

theorem inv_receive {response : ProtocolResponse} (hs : s.Inv) (ha : s.receive response = some s') :
    s'.Inv := by
  have hkept {k : Nat} {r : ProtocolResponse} (hr : s.responses[k]? = some r) :
      (s.responses ++ [response])[k]? = some r :=
    (List.getElem?_append_left (List.getElem?_eq_some_iff.mp hr).1).trans hr
  have hfrom {c : LocalTag} (h : FromResponse s.responses c) :
      FromResponse (s.responses ++ [response]) c := by
    obtain ⟨k, r, hk, hr, h⟩ := h
    exact ⟨k, r, hk, hkept hr, h⟩
  unfold receive at ha
  cases hpc : s.acquisition <;> rw [hpc] at ha <;> try cases ha
  have hidle (i : Nat) : ¬ s.Updating i := by
    rw [Updating, hpc]
    exact not_false
  refine ⟨fun i _ => hs.settled i (hidle i), ?_, hs.valid, ?_, ?_, ?_⟩
  · intro i entry k hentry hk
    obtain ⟨r, hr, h⟩ := hs.authored i entry k hentry hk
    exact ⟨r, hkept hr, h⟩
  · cases hidx : s.store.tagRuntimeGet response.tagId with
    | none => simp only [AcquisitionInv]
    | some idx =>
      simp only [AcquisitionInv]
      refine ⟨List.getElem?_concat_length, fun entry hentry => ?_⟩
      obtain ⟨found, hfound, htag⟩ := RuntimeStore.getElem?_of_tagRuntimeGet hidx
      obtain rfl := Option.some.inj (hentry.symm.trans hfound)
      exact htag
  · have hp := hs.publisher
    unfold PublisherInv at hp ⊢
    cases hpp : s.publisher <;> simp only [hpp] at hp ⊢
    case lock => exact hp
    case copyValue => exact hp
    case copyTimestamp => exact ⟨hp.1, hp.2.1, hfrom hp.2.2.1, hp.2.2.2⟩
    case copyValid => exact ⟨hp.1, hp.2.1, hfrom hp.2.2.1, hp.2.2.2⟩
    case copyChanged => exact ⟨hp.1, hfrom hp.2.1, hp.2.2⟩
    case unlock => exact ⟨hp.1, hfrom hp.2.1, hp.2.2⟩
    case build => exact ⟨hfrom hp.1, hp.2⟩
  · intro b hb
    exact ⟨hfrom (hs.built b hb).1, (hs.built b hb).2⟩

/-- A write to one entry, seen from the entry it leads to. -/
theorem getElem?_of_modify {store : RuntimeStore} {idx i : Nat} {f : TagRuntime → TagRuntime}
    {entry : TagRuntime} (h : (store.modify idx f).gTagRuntime[i]? = some entry) :
    ∃ old, store.gTagRuntime[i]? = some old ∧ entry = if idx = i then f old else old := by
  rw [RuntimeStore.getElem?_modify] at h
  split_ifs at h with heq
  · obtain ⟨old, hold, rfl⟩ := Option.map_eq_some_iff.mp h
    exact ⟨old, hold, (if_pos heq).symm⟩
  · exact ⟨entry, h, (if_neg heq).symm⟩

/-- The writes that leave the values alone. -/
theorem Authored.modify {idx : Nat} {f : TagRuntime → TagRuntime} (h : s.Authored)
    (hf : ∀ entry, (f entry).config = entry.config ∧ (f entry).value = entry.value)
    (hstore : s'.store = s.store.modify idx f) (hvalueBy : s'.valueBy = s.valueBy)
    (hresponses : s'.responses = s.responses) : s'.Authored := by
  intro i entry k hentry hk
  rw [hstore] at hentry
  obtain ⟨old, hold, rfl⟩ := getElem?_of_modify hentry
  obtain ⟨response, hr, hok, htag, hvalue⟩ := h i old k hold (hvalueBy ▸ hk)
  refine ⟨response, hresponses ▸ hr, hok, ?_, ?_⟩
  · split_ifs
    · rw [(hf old).1]
      exact htag
    · exact htag
  · split_ifs
    · rw [(hf old).2]
      exact hvalue
    · exact hvalue

theorem ValidAuthored.modify {idx : Nat} {f : TagRuntime → TagRuntime} (h : s.ValidAuthored)
    (hf : ∀ entry, (f entry).valid = true → entry.valid = true ∨ s'.valueBy idx ≠ none)
    (hstore : s'.store = s.store.modify idx f)
    (hvalueBy : ∀ i, s.valueBy i ≠ none → s'.valueBy i ≠ none) : s'.ValidAuthored := by
  intro i entry hentry hvalid
  rw [hstore] at hentry
  obtain ⟨old, hold, rfl⟩ := getElem?_of_modify hentry
  split_ifs at hvalid with heq
  · rcases hf old hvalid with hold' | hwritten
    · exact hvalueBy i (h i old hold hold')
    · exact heq ▸ hwritten
  · exact hvalueBy i (h i old hold hvalid)

/-- The writes that leave `valid` alone. -/
theorem Tested.modify {idx i : Nat} {f : TagRuntime → TagRuntime} (h : s.Tested i)
    (hf : ∀ entry, (f entry).valid = entry.valid) (hstore : s'.store = s.store.modify idx f)
    (hvalueBy : ∀ i, s.valueBy i ≠ none → s'.valueBy i ≠ none)
    (hsince : s'.sinceTest = s.sinceTest) : s'.Tested i := by
  obtain ⟨hwritten, entry, hentry, hvalid⟩ := h
  refine ⟨hvalueBy i hwritten, if idx = i then f entry else entry, ?_, ?_⟩
  · rw [hstore, RuntimeStore.getElem?_modify, hentry]
    split_ifs <;> rfl
  · rw [hsince, ← hvalid]
    split_ifs
    · exact hf entry
    · rfl

/-- A write of `valid` is noted by a publisher that has tested the entry. -/
theorem Tested.setValid {idx i : Nat} {valid : Bool} (h : s.Tested i)
    (hpc : s.publisher.tested = some i) : (s.setValid idx valid).Tested i := by
  obtain ⟨hwritten, entry, hentry, hvalid⟩ := h
  refine ⟨hwritten, if idx = i then { entry with valid := valid } else entry, ?_, ?_⟩
  · change (s.store.modify idx _).gTagRuntime[i]? = _
    rw [RuntimeStore.getElem?_modify, hentry]
    split_ifs <;> rfl
  · change _ = Option.getD (if s.publisher.tested = some idx then some valid else s.sinceTest) true
    rw [hpc]
    by_cases heq : idx = i
    · rw [if_pos heq, if_pos (congrArg some heq.symm)]
      rfl
    · rw [if_neg heq, if_neg fun h => heq (Option.some.inj h).symm]
      exact hvalid

theorem inv_setValid {u : Update} {valid : Bool} {next : AcquisitionPc} (hs : s.Inv)
    (hmutex : s.mutex = some .acquisition) (hwritten : valid = true → s.valueBy u.idx ≠ none)
    (hupdating : ∀ i, s.Updating i → ({ s with acquisition := next } : Sharing).Updating i)
    (hacq : ({ s.setValid u.idx valid with acquisition := next } : Sharing).AcquisitionInv) :
    ({ s.setValid u.idx valid with acquisition := next } : Sharing).Inv := by
  refine ⟨fun i hi => hs.settled i fun h => hi (hupdating i h), ?_, ?_, hacq, ?_, hs.built⟩
  · exact hs.authored.modify (f := fun entry => { entry with valid := valid })
      (fun entry => ⟨rfl, rfl⟩) rfl rfl rfl
  · exact hs.valid.modify (f := fun entry => { entry with valid := valid })
      (fun entry h => Or.inr (hwritten h)) rfl fun _ h => h
  · exact publisherInv_of_not_held hs.publisher (by rw [hmutex]; nofun) rfl rfl
      fun i hpc h => Tested.setValid h hpc

/-- The writes that leave value and validity alone. -/
theorem inv_setOther {idx : Nat} {f : TagRuntime → TagRuntime} {timestampBy : Nat → Option Nat}
    {next : AcquisitionPc} (hs : s.Inv) (hmutex : s.mutex = some .acquisition)
    (hf : ∀ entry, (f entry).config = entry.config ∧ (f entry).value = entry.value ∧
      (f entry).valid = entry.valid)
    (hsettled : ∀ i, timestampBy i = s.valueBy i)
    (hacq : ({ s with
      store := s.store.modify idx f, timestampBy := timestampBy, acquisition := next } :
      Sharing).AcquisitionInv) :
    ({ s with
      store := s.store.modify idx f, timestampBy := timestampBy, acquisition := next } :
      Sharing).Inv := by
  refine ⟨fun i _ => hsettled i, ?_, ?_, hacq, ?_, hs.built⟩
  · exact hs.authored.modify (fun entry => ⟨(hf entry).1, (hf entry).2.1⟩) rfl rfl rfl
  · exact hs.valid.modify (fun entry h => Or.inl ((hf entry).2.2 ▸ h)) rfl fun _ h => h
  · exact publisherInv_of_not_held hs.publisher (by rw [hmutex]; nofun) rfl rfl fun i _ h =>
      h.modify (fun entry => (hf entry).2.2) rfl (fun _ h => h) rfl

/-- The value of a good response is written, and noted. -/
theorem inv_writeValue {u : Update} (hs : s.Inv) (hpc : s.acquisition = .writeValue u) :
    ({ s with
      store := s.store.modify u.idx fun entry => { entry with value := u.response.value }
      valueBy := fun i => if i = u.idx then some u.number else s.valueBy i
      acquisition := .writeValid u } : Sharing).Inv := by
  have hacq := hs.acquisition
  rw [AcquisitionInv, hpc] at hacq
  obtain ⟨hmutex, ⟨hresponse, htag⟩, hok⟩ := hacq
  have hmono (i : Nat) (h : s.valueBy i ≠ none) :
      (if i = u.idx then some u.number else s.valueBy i) ≠ none := by
    split_ifs
    · nofun
    · exact h
  refine ⟨?_, ?_, ?_, ?_, ?_, hs.built⟩
  · intro i hi
    have hne : i ≠ u.idx := fun h => hi h.symm
    have hidle : ¬ s.Updating i := by simp [Updating, hpc]
    exact (hs.settled i hidle).trans (if_neg hne).symm
  · intro i entry k hentry hk
    obtain ⟨old, hold, rfl⟩ := getElem?_of_modify hentry
    change (if i = u.idx then some u.number else s.valueBy i) = some k at hk
    by_cases heq : u.idx = i
    · subst heq
      rw [if_pos rfl] at hk ⊢
      obtain rfl := Option.some.inj hk
      exact ⟨u.response, hresponse, hok, (htag old hold).symm, rfl⟩
    · rw [if_neg (Ne.symm heq)] at hk
      rw [if_neg heq]
      exact hs.authored i old k hold hk
  · exact hs.valid.modify (f := fun entry => { entry with value := u.response.value })
      (fun entry h => Or.inl h) rfl hmono
  · exact ⟨hmutex, if_pos rfl⟩
  · exact publisherInv_of_not_held hs.publisher (by rw [hmutex]; nofun) rfl rfl fun i _ h =>
      h.modify (f := fun entry => { entry with value := u.response.value }) (fun _ => rfl) rfl
        hmono rfl

/-- The task moves on without a write; `mutex` is what it leaves of the mutex. -/
theorem Inv.acquisitionMoves {mutex : Option Party} {next : AcquisitionPc} (hs : s.Inv)
    (hidle : ∀ i, ¬ s.Updating i)
    (hacq : ({ s with mutex := mutex, acquisition := next } : Sharing).AcquisitionInv)
    (hpub : ({ s with mutex := mutex, acquisition := next } : Sharing).PublisherInv) :
    ({ s with mutex := mutex, acquisition := next } : Sharing).Inv :=
  ⟨fun i _ => hs.settled i (hidle i), hs.authored, hs.valid, hacq, hpub, hs.built⟩

theorem inv_acquisitionStep {now : BitVec 32} {taken : Bool} (hs : s.Inv)
    (ha : s.acquisitionStep now taken = some s') : s'.Inv := by
  have hacq := hs.acquisition
  unfold AcquisitionInv at hacq
  unfold acquisitionStep at ha
  cases hpc : s.acquisition with
  | receive =>
    rw [hpc] at ha
    cases ha
  | lock u =>
    simp only [hpc] at ha hacq
    have hidle (i : Nat) : ¬ s.Updating i := by simp [Updating, hpc]
    split_ifs at ha with hrefused hheld hok
    · obtain rfl := Option.some.inj ha
      exact hs.acquisitionMoves hidle trivial hs.publisher
    · obtain rfl := Option.some.inj ha
      have hfree : s.mutex = none := not_not.mp hheld
      exact hs.acquisitionMoves hidle ⟨rfl, hacq, hok⟩
        (publisherInv_of_not_held hs.publisher (by rw [hfree]; nofun) rfl rfl fun _ _ h => h)
    · obtain rfl := Option.some.inj ha
      have hfree : s.mutex = none := not_not.mp hheld
      exact hs.acquisitionMoves hidle rfl
        (publisherInv_of_not_held hs.publisher (by rw [hfree]; nofun) rfl rfl fun _ _ h => h)
  | writeValue u =>
    rw [hpc] at ha
    obtain rfl := Option.some.inj ha
    exact inv_writeValue hs hpc
  | writeValid u =>
    simp only [hpc] at ha hacq
    obtain rfl := Option.some.inj ha
    refine inv_setValid hs hacq.1 (fun _ => by rw [hacq.2]; nofun) ?_ hacq
    intro i hi
    rw [Updating, hpc] at hi
    exact hi
  | writeTimestamp u =>
    simp only [hpc] at ha hacq
    obtain ⟨hmutex, hvalueBy⟩ := hacq
    obtain rfl := Option.some.inj ha
    refine inv_setOther hs hmutex (fun _ => ⟨rfl, rfl, rfl⟩) (fun i => ?_) hmutex
    -- the entry of the update catches up with its value, the others were settled
    split_ifs with heq
    · rw [heq, hvalueBy]
    · refine hs.settled i fun h => ?_
      rw [Updating, hpc] at h
      exact heq h.symm
  | writeChanged u =>
    simp only [hpc] at ha hacq
    obtain rfl := Option.some.inj ha
    exact inv_setOther hs hacq (fun _ => ⟨rfl, rfl, rfl⟩)
      (fun i => hs.settled i (by simp [Updating, hpc])) hacq
  | clearValid u =>
    simp only [hpc] at ha hacq
    obtain rfl := Option.some.inj ha
    refine inv_setValid hs hacq (fun h => by cases h) ?_ hacq
    intro i hi
    rw [Updating, hpc] at hi
    exact hi
  | unlock =>
    simp only [hpc] at ha hacq
    obtain rfl := Option.some.inj ha
    exact hs.acquisitionMoves (fun i => by simp [Updating, hpc]) trivial
      (publisherInv_of_not_held hs.publisher (by rw [hacq]; nofun) rfl rfl fun _ _ h => h)

/-! ### The publisher -/

theorem not_updating_of_publisher (h : s.AcquisitionInv) (hmutex : s.mutex = some .publisher)
    (i : Nat) : ¬ s.Updating i := by
  unfold AcquisitionInv at h
  unfold Updating
  cases hpc : s.acquisition <;> rw [hpc] at h
  case writeValid => rw [hmutex] at h; cases h.1
  case writeTimestamp => rw [hmutex] at h; cases h.1
  all_goals exact not_false

/-- The task moves on; `mutex` and `sinceTest` are what it leaves of the two. -/
theorem Inv.publisherMoves {mutex : Option Party} {sinceTest : Option Bool} {next : PublisherPc}
    (hs : s.Inv)
    (hacq : ({ s with mutex := mutex, publisher := next, sinceTest := sinceTest } :
      Sharing).AcquisitionInv)
    (hpub : ({ s with mutex := mutex, publisher := next, sinceTest := sinceTest } :
      Sharing).PublisherInv) :
    ({ s with mutex := mutex, publisher := next, sinceTest := sinceTest } : Sharing).Inv :=
  ⟨hs.settled, hs.authored, hs.valid, hacq, hpub, hs.built⟩

theorem inv_publisherStep {serializeJson : Telemetry → String} {taken : Bool} (hs : s.Inv)
    (ha : s.publisherStep serializeJson taken = some s') : s'.Inv := by
  have hp := hs.publisher
  unfold PublisherInv at hp
  unfold publisherStep at ha
  cases hpc : s.publisher with
  | test idx =>
    simp only [hpc] at ha
    cases hentry : s.store.gTagRuntime[idx]? with
    | none =>
      rw [hentry] at ha
      obtain rfl := Option.some.inj ha
      exact hs.publisherMoves hs.acquisition trivial
    | some entry =>
      simp only [hentry] at ha
      split_ifs at ha with hpublished
      · obtain rfl := Option.some.inj ha
        have hvalid : entry.valid = true := (Bool.and_eq_true_iff.mp hpublished).1
        exact hs.publisherMoves hs.acquisition
          ⟨hs.valid idx entry hentry hvalid, entry, hentry, hvalid⟩
      · obtain rfl := Option.some.inj ha
        exact hs.publisherMoves hs.acquisition trivial
  | lock idx =>
    simp only [hpc] at ha hp
    split_ifs at ha with hrefused hheld
    · obtain rfl := Option.some.inj ha
      exact hs.publisherMoves hs.acquisition trivial
    · obtain rfl := Option.some.inj ha
      have hfree : s.mutex = none := not_not.mp hheld
      exact hs.publisherMoves
        (acquisitionInv_of_not_held hs.acquisition (by rw [hfree]; nofun) rfl rfl rfl) ⟨rfl, hp⟩
  | copyValue idx =>
    simp only [hpc] at ha hp
    obtain ⟨hmutex, htested⟩ := hp
    obtain ⟨entry, hentry, rfl⟩ := Option.map_eq_some_iff.mp ha
    obtain ⟨k, hk⟩ := Option.ne_none_iff_exists'.mp htested.1
    obtain ⟨response, hr⟩ := hs.authored idx entry k hentry hk
    exact hs.publisherMoves hs.acquisition ⟨hmutex, htested, ⟨k, response, hk, hr⟩, rfl⟩
  | copyTimestamp idx c =>
    simp only [hpc] at ha hp
    obtain ⟨hmutex, htested, hfrom, hvalueBy⟩ := hp
    obtain ⟨entry, hentry, rfl⟩ := Option.map_eq_some_iff.mp ha
    have hsettled := hs.settled idx (not_updating_of_publisher hs.acquisition hmutex idx)
    exact hs.publisherMoves hs.acquisition
      ⟨hmutex, htested, hfrom, hsettled.trans hvalueBy.symm⟩
  | copyValid idx c =>
    simp only [hpc] at ha hp
    obtain ⟨hmutex, ⟨-, tested, htested, hvalid⟩, hfrom, htogether⟩ := hp
    obtain ⟨entry, hentry, rfl⟩ := Option.map_eq_some_iff.mp ha
    obtain rfl := Option.some.inj (hentry.symm.trans htested)
    exact hs.publisherMoves hs.acquisition ⟨hmutex, hfrom, htogether, hvalid⟩
  | copyChanged idx c =>
    simp only [hpc] at ha hp
    obtain ⟨entry, -, rfl⟩ := Option.map_eq_some_iff.mp ha
    exact hs.publisherMoves hs.acquisition hp
  | unlock idx c =>
    simp only [hpc] at ha hp
    obtain rfl := Option.some.inj ha
    exact hs.publisherMoves
      (acquisitionInv_of_not_held hs.acquisition (by rw [hp.1]; nofun) rfl rfl rfl) hp.2
  | build idx c =>
    simp only [hpc] at ha hp
    cases hmsg : buildMessage serializeJson (some c.tag) with
    | error status =>
      rw [hmsg] at ha
      obtain rfl := Option.some.inj ha
      exact hs.publisherMoves hs.acquisition trivial
    | ok msg =>
      rw [hmsg] at ha
      obtain rfl := Option.some.inj ha
      refine ⟨hs.settled, hs.authored, hs.valid, hs.acquisition, trivial, fun b hb => ?_⟩
      rcases List.mem_append.mp hb with hb | hb
      · exact hs.built b hb
      · obtain rfl := List.mem_singleton.mp hb
        exact hp
  | publish idx msg =>
    simp only [hpc] at ha
    obtain rfl := Option.some.inj ha
    exact hs.publisherMoves hs.acquisition trivial

theorem inv_sharingStep {serializeJson : Telemetry → String} (s : Sharing) (a : SharingStep)
    (s' : Sharing) (hs : s.Inv) (ha : sharingStep serializeJson s a = some s') : s'.Inv := by
  cases a <;> simp only [sharingStep] at ha
  case receive response => exact inv_receive hs ha
  case acquisition now taken => exact inv_acquisitionStep hs ha
  case publisher taken => exact inv_publisherStep hs ha

/-! ### The messages -/

theorem built_receive {response : ProtocolResponse} (ha : s.receive response = some s') :
    s'.built = s.built := by
  unfold receive at ha
  split at ha
  · obtain rfl := Option.some.inj ha
    rfl
  · cases ha

theorem built_acquisitionStep {now : BitVec 32} {taken : Bool}
    (ha : s.acquisitionStep now taken = some s') : s'.built = s.built := by
  unfold acquisitionStep at ha
  cases hpc : s.acquisition <;> simp only [hpc] at ha
  case receive => cases ha
  case lock => split_ifs at ha <;> exact Option.some.inj ha ▸ rfl
  all_goals exact Option.some.inj ha ▸ rfl

theorem built_publisherStep {serializeJson : Telemetry → String} {taken : Bool}
    (ha : s.publisherStep serializeJson taken = some s') :
    s'.built = s.built ∨
      ∃ idx c msg, s.publisher = .build idx c ∧ buildMessage serializeJson (some c.tag) = .ok msg ∧
        s'.built = s.built ++ [(c, msg)] := by
  unfold publisherStep at ha
  cases hpc : s.publisher <;> simp only [hpc] at ha
  case test => split at ha <;> (try split_ifs at ha) <;> exact Or.inl (Option.some.inj ha ▸ rfl)
  case lock => split_ifs at ha <;> exact Or.inl (Option.some.inj ha ▸ rfl)
  case unlock => exact Or.inl (Option.some.inj ha ▸ rfl)
  case publish => exact Or.inl (Option.some.inj ha ▸ rfl)
  case build idx c =>
    split at ha
    · exact Or.inl (Option.some.inj ha ▸ rfl)
    · next msg hmsg => exact Or.inr ⟨idx, c, msg, rfl, hmsg, Option.some.inj ha ▸ rfl⟩
  all_goals
    obtain ⟨entry, -, rfl⟩ := Option.map_eq_some_iff.mp ha
    exact Or.inl rfl

/-- A step builds no message, or one from the copy that the publisher has made. -/
theorem built_sharingStep {serializeJson : Telemetry → String} {a : SharingStep}
    (ha : sharingStep serializeJson s a = some s') :
    s'.built = s.built ∨
      ∃ taken idx c msg, a = .publisher taken ∧ s.publisher = .build idx c ∧
        buildMessage serializeJson (some c.tag) = .ok msg ∧ s'.built = s.built ++ [(c, msg)] := by
  cases a <;> simp only [sharingStep] at ha
  case receive response => exact Or.inl (built_receive ha)
  case acquisition now taken => exact Or.inl (built_acquisitionStep ha)
  case publisher taken =>
    rcases built_publisherStep ha with hkept | ⟨idx, c, msg, hpc, hmsg, hbuilt⟩
    · exact Or.inl hkept
    · exact Or.inr ⟨taken, idx, c, msg, rfl, hpc, hmsg, hbuilt⟩

/-- What stands between the copies and snapshots is a bad response since the test. -/
theorem publishesSnapshots_iff (hs : s.BuiltTogether) :
    PublishesSnapshots s ↔ ∀ b ∈ s.built, b.1.sinceTest ≠ some false := by
  have hiff (o : Option Bool) : o.getD true = true ↔ o ≠ some false := by
    rcases o with _ | _ | _ <;> decide
  constructor
  · intro h b hb
    rw [← hiff, ← (hs b hb).2.2]
    exact (h b hb).valid
  · intro h b hb
    obtain ⟨hfrom, htogether, hvalid⟩ := hs b hb
    exact ⟨hfrom, htogether, hvalid.trans ((hiff _).mpr (h b hb))⟩

/-- The invariant of the runs that publish snapshots only. -/
def SnapshotInv (s : Sharing) : Prop := s.Inv ∧ PublishesSnapshots s

theorem snapshotInv_sharingStep {serializeJson : Telemetry → String} (s : Sharing)
    (a : SharingStep) (s' : Sharing) (hs : s.SnapshotInv)
    (hc : NotFailedSinceTest serializeJson s a) (ha : sharingStep serializeJson s a = some s') :
    s'.SnapshotInv := by
  have hs' := inv_sharingStep s a s' hs.1 ha
  refine ⟨hs', (publishesSnapshots_iff hs'.built).mpr fun b hb => ?_⟩
  have hold := (publishesSnapshots_iff hs.1.built).mp hs.2
  rcases built_sharingStep ha with hkept | ⟨taken, idx, c, msg, rfl, hpc, hmsg, hbuilt⟩
  · exact hold b (hkept ▸ hb)
  · rw [hbuilt] at hb
    rcases List.mem_append.mp hb with hb | hb
    · exact hold b hb
    · obtain rfl := List.mem_singleton.mp hb
      exact hc idx c msg hpc hmsg

/-- A message built from an entry that has failed since its test is no snapshot. -/
theorem not_publishesSnapshots_of_failed {serializeJson : Telemetry → String} (s : Sharing)
    (a : SharingStep) (s' : Sharing) (hs : s.SnapshotInv)
    (hfailed : ¬ NotFailedSinceTest serializeJson s a)
    (ha : sharingStep serializeJson s a = some s') : ¬ PublishesSnapshots s' := by
  have hs' := inv_sharingStep s a s' hs.1 ha
  cases a with
  | publisher taken =>
    simp only [NotFailedSinceTest, not_forall] at hfailed
    obtain ⟨idx, c, msg, hpc, hmsg, hlast⟩ := hfailed
    simp only [sharingStep, publisherStep, hpc, hmsg] at ha
    obtain rfl := Option.some.inj ha
    intro hall
    exact hlast ((publishesSnapshots_iff hs'.built).mp hall (c, msg)
      (List.mem_append_right _ (List.mem_singleton_self _)))
  | receive response => exact absurd trivial hfailed
  | acquisition now taken => exact absurd trivial hfailed

end Sharing

/-- In every run a message has its value and timestamp from one good response to its tag. -/
theorem always_builtTogether (serializeJson : Telemetry → String) (reg : Registry)
    (as : List SharingStep) :
    Always (sharingStep serializeJson) Sharing.BuiltTogether (.boot reg) as :=
  (always_of_invariant Sharing.inv_sharingStep (Sharing.inv_boot reg) as).mono fun _ hs => hs.built

/-- **Published telemetry is a valid snapshot, exactly.** In a run every message is built
from one good response and a valid copy if and only if none is built from an entry whose
last response between the test and the copy was a bad one. -/
theorem publishes_snapshots_iff (serializeJson : Telemetry → String) (reg : Registry)
    (as : List SharingStep) :
    Always (sharingStep serializeJson) PublishesSnapshots (.boot reg) as ↔
      Throughout (sharingStep serializeJson) (NotFailedSinceTest serializeJson) (.boot reg) as :=
  always_iff_throughout (fun _ hs => hs.2) Sharing.snapshotInv_sharingStep
    Sharing.not_publishesSnapshots_of_failed
    ⟨Sharing.inv_boot reg, fun _ hb => (List.not_mem_nil hb).elim⟩ as

/-- The status of the machine, tag 7, is read as on and applied; the publisher walks to its
entry and finds it valid; the next read fails and is applied; the publisher goes on. -/
def failAfterTest : List SharingStep :=
  .receive ⟨7, .ok, TagValue.zero.setBv true⟩ :: List.replicate 6 (SharingStep.acquisition 1000 true) ++
    List.replicate 7 (SharingStep.publisher true) ++
    .receive ⟨7, .fail, .zero⟩ :: List.replicate 3 (SharingStep.acquisition 2000 true) ++
    List.replicate 7 (SharingStep.publisher true)

/-- The sample goes out after the sensor was declared failed. -/
theorem failed_sample_published :
    ¬ Always
        (sharingStep fun _ => "\x7b\"id\":7,\"ts\":1000,\"type\":\"telemetry\",\"value\":true\x7d")
        PublishesSnapshots (.boot gTags) failAfterTest := by
  intro hall
  have hsnap := hall.last rfl _ (List.mem_singleton_self _)
  cases hsnap.valid

end XIoT.Publisher
