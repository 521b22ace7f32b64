import XIoT.ModbusService
import XIoT.Acquisition
import XIoT.Lib.KeyedTable

/-!
# One token, two searches

The token of a response is looked up twice: in the registry for the configuration it is
decoded with, and in the runtime store for the entry it is written to. Ids and tokens have
32 bits, the parameter of `tag_find_by_id` has 16.
-/

namespace XIoT

open Lib.KeyedTable

/-! ## Stores of a table -/

/-- A runtime store with an entry for each tag of the table, as `tag_runtime_init` makes it. -/
structure StoreOf (reg : Registry) where
  store : RuntimeStore
  gInitialized : store.gInitialized = true
  configs : store.configs = reg.gTags

namespace StoreOf

variable {reg : Registry}

/-- After `tag_runtime_init`. -/
def init (store : RuntimeStore) (reg : Registry) (allocated mutexMade : Bool)
    (h : (store.tagRuntimeInit reg allocated mutexMade).2 = .ok) : StoreOf reg where
  store := (store.tagRuntimeInit reg allocated mutexMade).1
  gInitialized := by
    rw [RuntimeStore.tagRuntimeInit_ok h]
    rfl
  configs := by
    rw [RuntimeStore.tagRuntimeInit_ok h, RuntimeStore.configs, RuntimeStore.initial, List.map_map]
    exact List.map_id _

/-- `acquisition_task` writes a response to the entry of its tag, never to a configuration. -/
def applyResponse (s : StoreOf reg) (response : ProtocolResponse) (now : BitVec 32) :
    StoreOf reg where
  store := s.store.applyResponse response now
  gInitialized := by
    cases hidx : s.store.tagRuntimeGet response.tagId with
    | none =>
      rw [RuntimeStore.applyResponse_of_none hidx]
      exact s.gInitialized
    | some idx =>
      rw [RuntimeStore.applyResponse_of_some hidx]
      exact s.gInitialized
  configs := (s.store.configs_applyResponse response now).trans s.configs

/-- `tag_runtime_get(tagId)->config`, none for a NULL entry. -/
def configOf (s : StoreOf reg) (tagId : BitVec 32) : Option TagConfig :=
  (s.store.entryOf tagId).map TagRuntime.config

theorem configOf_eq (s : StoreOf reg) (tagId : BitVec 32) :
    s.configOf tagId = search TagConfig.tagId reg.gTags tagId := by
  rw [configOf, RuntimeStore.config_entryOf s.gInitialized, s.configs]
  rfl

end StoreOf

namespace Modbus

/-! ## The token of a response -/

/-- Both searches find the tag of the token, and `on_modbus_data` decodes a response with the
configuration of the entry the response is written to. -/
structure LookupsAgree (reg : Registry) (s : StoreOf reg) (token : BitVec 32) : Prop where
  found : ∀ tag, reg.tagFindById (token.setWidth 16) = some tag ↔
    tag ∈ reg.gTags ∧ tag.tagId = token
  absent : reg.tagFindById (token.setWidth 16) = none ↔ ∀ tag ∈ reg.gTags, tag.tagId ≠ token
  same : reg.tagFindById (token.setWidth 16) = s.configOf token
  decodes : ∀ healthy msg u response now,
    (onModbusData reg healthy msg token u).response = some response →
      ∃ entry, decodeValue entry.config msg u = some response.value ∧
        s.store.entryOf response.tagId = some entry ∧
        (s.applyResponse response now).store.entryOf response.tagId =
          some (entry.update response now)
  keeps : ∀ tag ∈ reg.gTags, tag.tagId = token → ∀ healthy msg u value,
    decodeValue tag msg u = some value →
      (onModbusData reg healthy msg token u).response = some ⟨token, .ok, value⟩

/-- The token fits the parameter of `tag_find_by_id`, or no tag has the token or what the
parameter leaves of it as its id. -/
def Unaliased (reg : Registry) (token : BitVec 32) : Prop :=
  token.toNat < 2 ^ 16 ∨
    ∀ tag ∈ reg.gTags, tag.tagId ≠ token ∧ tag.tagId ≠ (token.setWidth 16).setWidth 32

theorem narrowed_eq_iff (token : BitVec 32) :
    (token.setWidth 16).setWidth 32 = token ↔ token.toNat < 2 ^ 16 := by
  rw [← BitVec.toNat_inj, BitVec.toNat_setWidth, BitVec.toNat_setWidth]
  omega

theorem tagFindById_eq_iff (reg : Registry) (token : BitVec 32) :
    reg.tagFindById (token.setWidth 16) = search TagConfig.tagId reg.gTags token ↔
      Unaliased reg token := by
  rw [Unaliased, ← narrowed_eq_iff]
  exact search_changed_iff

/-- **The id lookups agree, exactly** for the tokens that the narrow parameter does not turn
into the id of another tag or of none. -/
theorem lookups_agree_iff (reg : Registry) (hdistinct : (reg.gTags.map TagConfig.tagId).Nodup)
    (s : StoreOf reg) (token : BitVec 32) : LookupsAgree reg s token ↔ Unaliased reg token := by
  rw [← tagFindById_eq_iff]
  constructor
  · intro hagree
    exact hagree.same.trans (s.configOf_eq token)
  · intro hsearch
    have hfound (tag : TagConfig) : reg.tagFindById (token.setWidth 16) = some tag ↔
        tag ∈ reg.gTags ∧ tag.tagId = token := by
      rw [hsearch]
      exact search_eq_some hdistinct
    refine ⟨hfound, ?_, hsearch.trans (s.configOf_eq token).symm, ?_, ?_⟩
    · rw [hsearch]
      exact search_eq_none
    · intro healthy msg u response now hresponse
      obtain ⟨tag, value, htag, hvalue, rfl⟩ := onModbusData_eq_some.mp hresponse
      have hconfig : s.configOf token = some tag :=
        (s.configOf_eq token).trans (hsearch.symm.trans htag)
      obtain ⟨entry, hentry, rfl⟩ := Option.map_eq_some_iff.mp hconfig
      refine ⟨entry, hvalue, hentry, ?_⟩
      rw [StoreOf.applyResponse, RuntimeStore.entryOf_applyResponse, if_pos rfl, hentry]
      rfl
    · intro tag hmem hid healthy msg u value hvalue
      exact onModbusData_eq_some.mpr ⟨tag, value, (hfound tag).mpr ⟨hmem, hid⟩, hvalue, rfl⟩

/-- The tags of the shipped table have small ids. -/
theorem shipped_lookups_agree :
    LookupsAgree gTags (.init ⟨[], false⟩ gTags true true rfl) 7 :=
  (lookups_agree_iff gTags (by decide) (.init ⟨[], false⟩ gTags true true rfl) 7).mpr
    (Or.inl (by decide))

/-- A table whose only tag has the id `2 ^ 16 + 1`. -/
def farTable : Registry := ⟨[relayStatus 0x10001 "MACH-YT" "HDR0030/MACH-YT-100" 0], by decide⟩

/-- The tag is registered and not found. -/
theorem far_tag_not_found :
    ¬ ∀ (reg : Registry) (s : StoreOf reg) (token : BitVec 32),
      (reg.gTags.map TagConfig.tagId).Nodup → LookupsAgree reg s token := by
  intro hall
  have hfound := (hall farTable (.init ⟨[], false⟩ farTable true true rfl) 0x10001
    (by decide)).found _ |>.mpr ⟨List.mem_cons_self, rfl⟩
  cases hfound

end Modbus

end XIoT
