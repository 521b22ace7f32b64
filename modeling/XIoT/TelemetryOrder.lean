import XIoT.Snapshot
import XIoT.Lib.VersionedRegister

/-!
# The order of telemetry

Each entry of the store is a register. `acquisition_task` writes it by the responses of its
tag, in the order they arrive, and `publisherTask` copies it and builds a message of the
copy. The sharing of the store refines the versions of these registers.
-/

namespace XIoT.Publisher

open Lib.VersionedRegister
open Subscriber (MqttMsg)

/-- The response that has not been written yet. -/
def AcquisitionPc.update : AcquisitionPc → Option Update
  | .lock u => some u
  | .writeValue u => some u
  | _ => none

def Update.version (u : Update) : BitVec 32 × ℕ := (u.response.tagId, u.number)

/-- `localTag`, while there is something of the entry in it. -/
def PublisherPc.copied : PublisherPc → Option LocalTag
  | .copyTimestamp _ c => some c
  | .copyValid _ c => some c
  | .copyChanged _ c => some c
  | .unlock _ c => some c
  | .build _ c => some c
  | _ => none

def LocalTag.version (c : LocalTag) : Option (BitVec 32 × ℕ) :=
  c.valueBy.map fun n => (c.tag.config.tagId, n)

theorem version_of_fromResponse {responses : List ProtocolResponse} {c : LocalTag}
    (h : FromResponse responses c) : ∃ n, c.version = some (c.tag.config.tagId, n) := by
  obtain ⟨n, response, hn, -⟩ := h
  exact ⟨n, by rw [LocalTag.version, hn]; rfl⟩

namespace Sharing

/-- The entries as registers. -/
def versions (s : Sharing) : Versions (BitVec 32) where
  next := s.responses.length
  pending := s.acquisition.update.map Update.version
  held tagId := (s.store.tagRuntimeGet tagId).bind s.valueBy
  copy := s.publisher.copied.bind LocalTag.version
  reported := s.built.filterMap fun b => b.1.version

/-! ## Where a tag is written -/

/-- The stores have the same tags at the same places. -/
structure SameTags (store store' : RuntimeStore) : Prop where
  get : ∀ tagId, store'.tagRuntimeGet tagId = store.tagRuntimeGet tagId
  config : ∀ (i : ℕ) (entry' : TagRuntime), store'.gTagRuntime[i]? = some entry' →
    ∃ entry, store.gTagRuntime[i]? = some entry ∧ entry'.config = entry.config

theorem SameTags.refl (store : RuntimeStore) : SameTags store store :=
  ⟨fun _ => rfl, fun _ entry h => ⟨entry, h, rfl⟩⟩

theorem sameTags_modify (store : RuntimeStore) (idx : Nat) {f : TagRuntime → TagRuntime}
    (hf : ∀ entry, (f entry).config = entry.config) : SameTags store (store.modify idx f) where
  get := store.tagRuntimeGet_modify idx hf
  config i entry' h := by
    obtain ⟨entry, hentry, rfl⟩ := getElem?_of_modify h
    refine ⟨entry, hentry, ?_⟩
    split
    · exact hf entry
    · rfl

theorem sameTags_value (store : RuntimeStore) (u : Update) :
    SameTags store (store.modify u.idx fun entry => { entry with value := u.response.value }) :=
  sameTags_modify store u.idx (f := fun entry => { entry with value := u.response.value }) fun _ => rfl

/-- Only the first entry of a tag is written. -/
structure Placed (s : Sharing) : Prop where
  update : ∀ u, s.acquisition.update = some u → s.store.tagRuntimeGet u.response.tagId = some u.idx
  written : ∀ i entry, s.valueBy i ≠ none → s.store.gTagRuntime[i]? = some entry →
    s.store.tagRuntimeGet entry.config.tagId = some i

theorem placed_boot (reg : Registry) : (boot reg).Placed where
  update u h := by cases h
  written i entry h := absurd rfl h

variable {s s' : Sharing}

/-- A step that writes no value. -/
theorem Placed.congr (hs : s.Placed) (hstore : SameTags s.store s'.store)
    (hvalueBy : s'.valueBy = s.valueBy)
    (hupdate : ∀ u, s'.acquisition.update = some u → s.acquisition.update = some u) :
    s'.Placed where
  update u hu := (hstore.get _).trans (hs.update u (hupdate u hu))
  written i entry' hi hentry' := by
    obtain ⟨entry, hentry, hconfig⟩ := hstore.config i entry' hentry'
    rw [hconfig, hstore.get]
    exact hs.written i entry (hvalueBy ▸ hi) hentry

theorem Placed.writeValue (hs : s.Placed) {u : Update} (hpc : s.acquisition = .writeValue u) :
    Placed { s with
      store := s.store.modify u.idx fun entry => { entry with value := u.response.value }
      valueBy := fun i => if i = u.idx then some u.number else s.valueBy i
      acquisition := .writeValid u } := by
  have hplace : s.store.tagRuntimeGet u.response.tagId = some u.idx := hs.update u (by rw [hpc]; rfl)
  have hstore := sameTags_value s.store u
  refine ⟨fun u' h => (by cases h), fun i entry' hi hentry' => ?_⟩
  obtain ⟨entry, hentry, hconfig⟩ := hstore.config i entry' hentry'
  show (s.store.modify u.idx _).tagRuntimeGet _ = some i
  rw [hconfig, hstore.get]
  by_cases heq : i = u.idx
  · obtain ⟨found, hfound, htag⟩ := RuntimeStore.getElem?_of_tagRuntimeGet hplace
    rw [heq] at hentry ⊢
    obtain rfl := Option.some.inj (hentry.symm.trans hfound)
    rw [htag, hplace]
  · exact hs.written i entry (fun h => hi ((if_neg heq).trans h)) hentry

/-! ## One step of the sharing -/

/-- What leaves the values alone leaves what is held. -/
theorem held_of_sameTags (hstore : SameTags s.store s'.store) (hvalueBy : s'.valueBy = s.valueBy) :
    s'.versions.held = s.versions.held := by
  funext tagId
  show (s'.store.tagRuntimeGet tagId).bind s'.valueBy = _
  rw [hstore.get, hvalueBy]
  rfl

/-- The value of the response is written to the register of its tag. -/
theorem held_writeValue (hs : s.Placed) {u : Update} (hpc : s.acquisition = .writeValue u) :
    (fun tagId => ((s.store.modify u.idx fun entry => { entry with value := u.response.value }).tagRuntimeGet
      tagId).bind fun i => if i = u.idx then some u.number else s.valueBy i) =
      Function.update s.versions.held u.response.tagId (some u.number) := by
  have hplace : s.store.tagRuntimeGet u.response.tagId = some u.idx := hs.update u (by rw [hpc]; rfl)
  funext tagId
  rw [(sameTags_value s.store u).get]
  by_cases htag : tagId = u.response.tagId
  · rw [htag, Function.update_self, hplace, Option.bind_some, if_pos rfl]
  · rw [Function.update_of_ne htag]
    show _ = (s.store.tagRuntimeGet tagId).bind s.valueBy
    cases hget : s.store.tagRuntimeGet tagId with
    | none => rfl
    | some i =>
      rw [Option.bind_some, Option.bind_some, if_neg]
      rintro rfl
      obtain ⟨entry, hentry, hid⟩ := RuntimeStore.getElem?_of_tagRuntimeGet hget
      obtain ⟨entry', hentry', hid'⟩ := RuntimeStore.getElem?_of_tagRuntimeGet hplace
      obtain rfl := Option.some.inj (hentry.symm.trans hentry')
      exact htag (hid.symm.trans hid')

theorem step_receive {response : ProtocolResponse} (hs : s.Placed)
    (ha : s.receive response = some s') : s.versions.Step s'.versions ∧ s'.Placed := by
  unfold receive at ha
  cases hpc : s.acquisition <;> rw [hpc] at ha <;> try cases ha
  have hnext : (s.responses ++ [response]).length = s.responses.length + 1 := List.length_append
  cases hidx : s.store.tagRuntimeGet response.tagId with
  | none =>
    refine ⟨?_, hs.congr (.refl _) rfl fun u hu => by cases hu⟩
    simp only [versions, hnext]
    exact .skip
  | some idx =>
    refine ⟨?_, fun u hu => ?_, hs.written⟩
    · simp only [versions, hnext]
      exact .give response.tagId
    · obtain rfl := Option.some.inj hu
      exact hidx

/-- A step of `acquisition_task` that writes no value: the response it has received stays
or is let go of. -/
theorem step_same (hs : s.Placed) (hstore : SameTags s.store s'.store)
    (hsame : s'.valueBy = s.valueBy ∧ s'.responses = s.responses ∧ s'.publisher = s.publisher ∧
      s'.built = s.built)
    (hupdate : s'.acquisition.update = s.acquisition.update ∨ s'.acquisition.update = none) :
    s.versions.Step s'.versions ∧ s'.Placed := by
  obtain ⟨hvalueBy, hresponses, hpublisher, hbuilt⟩ := hsame
  have hversions : s'.versions =
      { s.versions with pending := s'.acquisition.update.map Update.version } := by
    have hheld := held_of_sameTags hstore hvalueBy
    simp only [versions, hresponses, hpublisher, hbuilt] at hheld ⊢
    rw [hheld]
  rw [hversions]
  rcases hupdate with hkept | hgone
  · refine ⟨?_, hs.congr hstore hvalueBy fun u hu => hkept ▸ hu⟩
    rw [hkept]
    exact .stay
  · refine ⟨?_, hs.congr hstore hvalueBy fun u hu => ?_⟩
    · rw [hgone]
      exact .abandon
    · rw [hgone] at hu
      cases hu

theorem step_acquisitionStep {now : BitVec 32} {taken : Bool} (hs : s.Placed)
    (ha : s.acquisitionStep now taken = some s') : s.versions.Step s'.versions ∧ s'.Placed := by
  unfold acquisitionStep at ha
  cases hpc : s.acquisition with
  | receive =>
    rw [hpc] at ha
    cases ha
  | lock u =>
    simp only [hpc] at ha
    split_ifs at ha with hrefused hheld hok
    · obtain rfl := Option.some.inj ha
      exact step_same hs (.refl _) ⟨rfl, rfl, rfl, rfl⟩ (Or.inr rfl)
    · obtain rfl := Option.some.inj ha
      exact step_same hs (.refl _) ⟨rfl, rfl, rfl, rfl⟩ (Or.inl (by rw [hpc]; rfl))
    · obtain rfl := Option.some.inj ha
      exact step_same hs (.refl _) ⟨rfl, rfl, rfl, rfl⟩ (Or.inr rfl)
  | writeValue u =>
    rw [hpc] at ha
    obtain rfl := Option.some.inj ha
    refine ⟨?_, hs.writeValue hpc⟩
    have hpending : s.versions.pending = some (u.response.tagId, u.number) := by
      show s.acquisition.update.map Update.version = _
      rw [hpc]
      rfl
    have hwrite := Versions.Step.write u.response.tagId u.number hpending
    rw [← held_writeValue hs hpc] at hwrite
    exact hwrite
  | writeValid u =>
    rw [hpc] at ha
    obtain rfl := Option.some.inj ha
    exact step_same hs (sameTags_modify _ _ fun _ => rfl) ⟨rfl, rfl, rfl, rfl⟩ (Or.inr rfl)
  | writeTimestamp u =>
    rw [hpc] at ha
    obtain rfl := Option.some.inj ha
    exact step_same hs (sameTags_modify _ _ fun _ => rfl) ⟨rfl, rfl, rfl, rfl⟩ (Or.inr rfl)
  | writeChanged u =>
    rw [hpc] at ha
    obtain rfl := Option.some.inj ha
    exact step_same hs (sameTags_modify _ _ fun _ => rfl) ⟨rfl, rfl, rfl, rfl⟩ (Or.inr rfl)
  | clearValid u =>
    rw [hpc] at ha
    obtain rfl := Option.some.inj ha
    exact step_same hs (sameTags_modify _ _ fun _ => rfl) ⟨rfl, rfl, rfl, rfl⟩ (Or.inr rfl)
  | unlock =>
    rw [hpc] at ha
    obtain rfl := Option.some.inj ha
    exact step_same hs (.refl _) ⟨rfl, rfl, rfl, rfl⟩ (Or.inr rfl)

/-- `publisherTask` moves on; `mutex` and `sinceTest` are what it leaves of the two. -/
theorem versions_moves (s : Sharing) (mutex : Option Party) (sinceTest : Option Bool)
    (next : PublisherPc) :
    versions { s with mutex := mutex, sinceTest := sinceTest, publisher := next } =
      { s.versions with copy := next.copied.bind LocalTag.version } := rfl

/-- What is written where does not depend on `publisherTask`. -/
theorem Placed.publisher (hs : s.Placed) (mutex : Option Party) (sinceTest : Option Bool)
    (next : PublisherPc) (built : List (LocalTag × MqttMsg)) :
    Placed { s with
      mutex := mutex, sinceTest := sinceTest, publisher := next, built := built } :=
  ⟨hs.update, hs.written⟩

/-- What `publisherTask` has copied stays what it is. -/
theorem step_kept (hs : s.Placed) (mutex : Option Party) (sinceTest : Option Bool)
    {next : PublisherPc}
    (hkept : next.copied.bind LocalTag.version = s.publisher.copied.bind LocalTag.version) :
    s.versions.Step
        (versions { s with mutex := mutex, sinceTest := sinceTest, publisher := next }) ∧
      Placed { s with mutex := mutex, sinceTest := sinceTest, publisher := next } := by
  refine ⟨?_, hs.publisher _ _ _ _⟩
  have hmoves := versions_moves s mutex sinceTest next
  rw [hkept] at hmoves
  rw [hmoves]
  exact .stay

/-- The entry was valid at its test, so that it has been written, and is the first of its
tag: what is copied is what its register holds. -/
theorem step_copyValue (hs : s.Placed) {idx : Nat} {entry : TagRuntime} (htested : s.Tested idx)
    (hentry : s.store.gTagRuntime[idx]? = some entry) :
    s.versions.Step (versions { s with
      publisher := .copyTimestamp idx
        ⟨⟨entry.config, entry.value, 0, false, false⟩, s.valueBy idx, none, none⟩ }) := by
  obtain ⟨n, hn⟩ := Option.ne_none_iff_exists'.mp htested.1
  have hplace := hs.written idx entry htested.1 hentry
  have hheld : s.versions.held entry.config.tagId = some n := by
    show (s.store.tagRuntimeGet entry.config.tagId).bind s.valueBy = some n
    rw [hplace, Option.bind_some, hn]
  rw [versions_moves]
  simp only [PublisherPc.copied, LocalTag.version, hn]
  exact .read _ n hheld

/-- The message is built from what was copied. -/
theorem step_build {idx : Nat} {c : LocalTag} {msg : MqttMsg} (hpc : s.publisher = .build idx c)
    (hfrom : FromResponse s.responses c) :
    s.versions.Step (versions { s with
      built := s.built ++ [(c, msg)], publisher := .publish idx msg }) := by
  obtain ⟨n, hn⟩ := version_of_fromResponse hfrom
  have hcopy : s.versions.copy = some (c.tag.config.tagId, n) := by
    show s.publisher.copied.bind LocalTag.version = _
    rw [hpc]
    exact hn
  have hreport := Versions.Step.report c.tag.config.tagId n hcopy
  simp only [versions, List.filterMap_append, List.filterMap_cons, hn, List.filterMap_nil]
    at hreport ⊢
  exact hreport

theorem step_publisherStep {serializeJson : Telemetry → String} {taken : Bool} (hinv : s.Inv)
    (hs : s.Placed) (ha : s.publisherStep serializeJson taken = some s') :
    s.versions.Step s'.versions ∧ s'.Placed := by
  have hp := hinv.publisher
  unfold PublisherInv at hp
  unfold publisherStep at ha
  cases hpc : s.publisher with
  | test idx =>
    have hnone : s.publisher.copied.bind LocalTag.version = none := by rw [hpc]; rfl
    simp only [hpc] at ha
    split at ha
    · obtain rfl := Option.some.inj ha
      exact step_kept hs _ _ hnone.symm
    · split_ifs at ha <;> obtain rfl := Option.some.inj ha
      · exact step_kept hs _ _ hnone.symm
      · exact step_kept hs _ _ hnone.symm
  | lock idx =>
    have hnone : s.publisher.copied.bind LocalTag.version = none := by rw [hpc]; rfl
    simp only [hpc] at ha
    split_ifs at ha <;> obtain rfl := Option.some.inj ha
    · exact step_kept hs _ _ hnone.symm
    · exact step_kept hs _ _ hnone.symm
  | copyValue idx =>
    simp only [hpc] at ha hp
    obtain ⟨entry, hentry, rfl⟩ := Option.map_eq_some_iff.mp ha
    exact ⟨step_copyValue hs hp.2 hentry, hs.publisher _ _ _ _⟩
  | copyTimestamp idx c =>
    simp only [hpc] at ha
    obtain ⟨entry, -, rfl⟩ := Option.map_eq_some_iff.mp ha
    exact step_kept hs _ _ (by rw [hpc]; rfl)
  | copyValid idx c =>
    simp only [hpc] at ha
    obtain ⟨entry, -, rfl⟩ := Option.map_eq_some_iff.mp ha
    exact step_kept hs _ _ (by rw [hpc]; rfl)
  | copyChanged idx c =>
    simp only [hpc] at ha
    obtain ⟨entry, -, rfl⟩ := Option.map_eq_some_iff.mp ha
    exact step_kept hs _ _ (by rw [hpc]; rfl)
  | unlock idx c =>
    simp only [hpc] at ha
    obtain rfl := Option.some.inj ha
    exact step_kept hs _ _ (by rw [hpc]; rfl)
  | build idx c =>
    simp only [hpc] at ha hp
    split at ha
    · obtain rfl := Option.some.inj ha
      exact ⟨.forget, hs.publisher _ _ _ _⟩
    · obtain rfl := Option.some.inj ha
      exact ⟨step_build hpc hp.1, hs.publisher _ _ _ _⟩
  | publish idx msg =>
    simp only [hpc] at ha
    obtain rfl := Option.some.inj ha
    exact step_kept hs _ _ (by rw [hpc]; rfl)

/-- **The sharing of the store refines the registers.** -/
theorem step_sharingStep {serializeJson : Telemetry → String} {a : SharingStep} (hinv : s.Inv)
    (hs : s.Placed) (ha : sharingStep serializeJson s a = some s') :
    s.versions.Step s'.versions ∧ s'.Placed := by
  cases a with
  | receive response => exact step_receive hs ha
  | acquisition now taken => exact step_acquisitionStep hs ha
  | publisher taken => exact step_publisherStep hinv hs ha

end Sharing

end XIoT.Publisher
