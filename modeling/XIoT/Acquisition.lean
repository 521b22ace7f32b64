import XIoT.PollingService
import XIoT.ProtocolDispatcher

/-!
# Acquisition

The two ends of `acquisition.cpp` a response passes: the post into the response
queue, and the update of the runtime store by `acquisition_task`.
-/

namespace XIoT

namespace Acquisition

/-- The length `xQueueCreate` gives `gAcqResponseQueue`. -/
def responseQueueLength : Nat := 30

/-- `acquisition_post_response`; `queued` is the number of responses in the queue, none
while there is no queue. -/
def acquisitionPostResponse (gAcqState : Polling.PollingState) (queued : Option Nat)
    (response : Option ProtocolResponse) : SysStatus :=
  match response with
  | none => .invalidParam
  | some _ =>
    if gAcqState ≠ .running then .invalidState
    else match queued with
      | none => .invalidState
      | some n => if responseQueueLength ≤ n then .busy else .ok

end Acquisition

/-- The writes of `acquisition_task` to the entry of a response. -/
def TagRuntime.update (entry : TagRuntime) (response : ProtocolResponse) (now : BitVec 32) :
    TagRuntime :=
  if response.status = .ok then
    { entry with value := response.value, valid := true, timestamp := now, changed := true }
  else { entry with valid := false }

theorem TagRuntime.config_update (entry : TagRuntime) (response : ProtocolResponse)
    (now : BitVec 32) : (entry.update response now).config = entry.config := by
  unfold TagRuntime.update
  split <;> rfl

theorem TagRuntime.valid_update (entry : TagRuntime) (response : ProtocolResponse)
    (now : BitVec 32) : (entry.update response now).valid = decide (response.status = .ok) := by
  unfold TagRuntime.update
  split
  · next hok => rw [hok]; rfl
  · next hfail => exact (decide_eq_false hfail).symm

namespace RuntimeStore

/-- A response written to the entry of its tag, when it has one. -/
def applyResponse (store : RuntimeStore) (response : ProtocolResponse) (now : BitVec 32) :
    RuntimeStore :=
  match store.tagRuntimeGet response.tagId with
  | none => store
  | some idx => store.modify idx fun entry => entry.update response now

/-- One response of the queue in `acquisition_task`. -/
def acquisitionUpdate (store : RuntimeStore) (response : ProtocolResponse) (now : BitVec 32)
    (taken : Bool) : RuntimeStore :=
  if store.tagRuntimeLock taken = .ok then store.applyResponse response now else store

theorem applyResponse_of_none {store : RuntimeStore} {response : ProtocolResponse} {now : BitVec 32}
    (h : store.tagRuntimeGet response.tagId = none) : store.applyResponse response now = store := by
  rw [applyResponse, h]

theorem applyResponse_of_some {store : RuntimeStore} {response : ProtocolResponse} {now : BitVec 32}
    {idx : Nat} (h : store.tagRuntimeGet response.tagId = some idx) :
    store.applyResponse response now = store.modify idx fun entry => entry.update response now := by
  rw [applyResponse, h]

theorem getElem?_modify (store : RuntimeStore) (idx : Nat) (f : TagRuntime → TagRuntime) (i : Nat) :
    (store.modify idx f).gTagRuntime[i]? =
      if idx = i then (store.gTagRuntime[i]?).map f else store.gTagRuntime[i]? := by
  rw [modify, List.getElem?_modify]
  split
  · rfl
  · exact Option.map_id'

/-- The position found for a tag is that of an entry. -/
theorem getElem?_of_tagRuntimeGet {store : RuntimeStore} {tagId : BitVec 32} {idx : Nat}
    (h : store.tagRuntimeGet tagId = some idx) :
    ∃ entry, store.gTagRuntime[idx]? = some entry ∧ entry.config.tagId = tagId := by
  rw [tagRuntimeGet] at h
  split at h
  · cases h
  · obtain ⟨hlt, htag, -⟩ := List.findIdx?_eq_some_iff_getElem.mp h
    exact ⟨_, List.getElem?_eq_getElem hlt, of_decide_eq_true htag⟩

/-- The tags of the entries, which no update touches. -/
def configs (store : RuntimeStore) : List TagConfig := store.gTagRuntime.map TagRuntime.config

theorem configs_modify (store : RuntimeStore) (idx : Nat) {f : TagRuntime → TagRuntime}
    (hf : ∀ entry, (f entry).config = entry.config) :
    (store.modify idx f).configs = store.configs := by
  apply List.ext_getElem?
  intro i
  rw [configs, configs, List.getElem?_map, List.getElem?_map, getElem?_modify]
  split
  · rw [Option.map_map]
    exact congrArg (fun g => Option.map g _) (funext hf)
  · rfl

/-- Where the entry of a tag stands depends on the tags only. -/
theorem tagRuntimeGet_modify (store : RuntimeStore) (idx : Nat) {f : TagRuntime → TagRuntime}
    (hf : ∀ entry, (f entry).config = entry.config) (tagId : BitVec 32) :
    (store.modify idx f).tagRuntimeGet tagId = store.tagRuntimeGet tagId := by
  have hfind (st : RuntimeStore) :
      st.gTagRuntime.findIdx? (fun entry => entry.config.tagId = tagId) =
        st.configs.findIdx? (fun tag => tag.tagId = tagId) := by
    rw [configs, List.findIdx?_map]
    rfl
  unfold tagRuntimeGet
  rw [hfind, hfind, configs_modify store idx hf]
  rfl

/-- The tag of the entry found is the first one of that id. -/
theorem config_entryOf {store : RuntimeStore} (h : store.gInitialized = true) (tagId : BitVec 32) :
    (store.entryOf tagId).map TagRuntime.config =
      store.configs.find? fun tag => tag.tagId = tagId := by
  have hentry : store.entryOf tagId =
      store.gTagRuntime.find? fun entry => entry.config.tagId = tagId := by
    rw [entryOf, tagRuntimeGet, h, List.find?_eq_bind_findIdx?_getElem?]
    rfl
  rw [hentry, configs, List.find?_map]
  rfl

theorem configs_applyResponse (store : RuntimeStore) (response : ProtocolResponse)
    (now : BitVec 32) : (store.applyResponse response now).configs = store.configs := by
  cases hidx : store.tagRuntimeGet response.tagId with
  | none => rw [applyResponse_of_none hidx]
  | some idx =>
    rw [applyResponse_of_some hidx]
    exact configs_modify store idx fun entry => entry.config_update response now

/-- A response updates the entry of its own tag and no other. -/
theorem entryOf_applyResponse (store : RuntimeStore) (response : ProtocolResponse)
    (now tagId : BitVec 32) :
    (store.applyResponse response now).entryOf tagId =
      if response.tagId = tagId then (store.entryOf tagId).map fun entry => entry.update response now
      else store.entryOf tagId := by
  cases hidx : store.tagRuntimeGet response.tagId with
  | none =>
    rw [applyResponse_of_none hidx]
    split_ifs with heq
    · rw [← heq, entryOf, hidx]
      rfl
    · rfl
  | some idx =>
    have hf (entry : TagRuntime) := entry.config_update response now
    rw [applyResponse_of_some hidx, entryOf, tagRuntimeGet_modify store idx hf]
    split_ifs with heq
    · rw [← heq, entryOf, hidx]
      exact (getElem?_modify store idx _ idx).trans (if_pos rfl)
    · unfold entryOf
      cases hother : store.tagRuntimeGet tagId with
      | none => rfl
      | some other =>
        refine (getElem?_modify store idx _ other).trans (if_neg ?_)
        rintro rfl
        obtain ⟨entry, hentry, htag⟩ := getElem?_of_tagRuntimeGet hidx
        obtain ⟨entry', hentry', htag'⟩ := getElem?_of_tagRuntimeGet hother
        obtain rfl := Option.some.inj (hentry.symm.trans hentry')
        exact heq (htag.symm.trans htag')

end RuntimeStore

end XIoT
