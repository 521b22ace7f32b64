import XIoT.RuntimeMirror
import XIoT.Core

/-!
# The members of the union that the core reads

`tag_value_t` does not say which of its members was assigned. `on_modbus_data` assigns
the one of the tag's data type; `core_task` reads `f32v` of the tags 2 and 3 and `bv` of
tag 6, whatever the registry says these tags are.
-/

namespace XIoT.Modbus

open Lib.Runs

/-- The scalar members of `tag_value_t`. -/
inductive Member where
  | bv
  | u16v
  | i16v
  | u32v
  | i32v
  | f32v
  deriving DecidableEq, Repr

/-- `new` is `old` after an assignment to the member. -/
def Member.Assigned : Member → TagValue → TagValue → Prop
  | .bv, old, new => ∃ b, new = old.setBv b
  | .u16v, old, new => ∃ x, new = old.setU16v x
  | .i16v, old, new => ∃ x, new = old.setI16v x
  | .u32v, old, new => ∃ x, new = old.setU32v x
  | .i32v, old, new => ∃ x, new = old.setI32v x
  | .f32v, old, new => ∃ x, new = old.setF32v x

/-- The member that the switch of `on_modbus_data` assigns for a data type. -/
def assignedMember : TagType → Option Member
  | .bool => some .bv
  | .uint16 => some .u16v
  | .int16 => some .i16v
  | .uint32 => some .u32v
  | .int32 => some .i32v
  | .float32 => some .f32v
  | .string => none

theorem decodeValue_assigned {tag : TagConfig} {response : List Byte} {u : Uninit} {v : TagValue}
    (h : decodeValue tag response u = some v) :
    ∃ member, assignedMember tag.dataType = some member ∧ member.Assigned u.tempValue v := by
  unfold decodeValue at h
  cases htype : tag.dataType <;> rw [htype] at h
  case string => cases h
  all_goals
    obtain rfl := Option.some.inj h
    exact ⟨_, rfl, _, rfl⟩

/-- The tags `core_task` looks up, and the member it reads of each. -/
def coreTags : List (BitVec 32 × Member) := [(2, .f32v), (3, .f32v), (6, .bv)]

/-- What `core_task` samples of the store. -/
def coreSample (store : RuntimeStore) (lock : SysStatus) (startMillis timerMillis : BitVec 32) :
    Core.Sample :=
  ⟨store.entryOf 2, store.entryOf 3, store.entryOf 6, lock, startMillis, timerMillis⟩

/-- A pass of `core_task` finds its three tags valid. -/
def CoreFindsValid (store : RuntimeStore) : Prop :=
  ∃ lock startMillis timerMillis rd,
    (coreSample store lock startMillis timerMillis).sensors = some rd ∧ rd.processDataValid = true

/-- Each member that `core_task` reads is the one that is assigned for its tag. -/
def MembersAgree (store : RuntimeStore) : Prop :=
  ∀ read ∈ coreTags, ∀ entry, store.entryOf read.1 = some entry →
    assignedMember entry.config.dataType = some read.2

/-- `core_task` reads what was written. -/
def ReadsAssigned (s : BusSystem) : Prop := CoreFindsValid s.store → MembersAgree s.store

/-- The entry of a tag is there and valid. -/
def ValidAt (store : RuntimeStore) (tagId : BitVec 32) : Prop :=
  ∃ entry, store.entryOf tagId = some entry ∧ entry.valid = true

/-- A good response to one of the three tags that is applied finds another of them not
valid. -/
def LeavesOneInvalid (s : BusSystem) : BusStep → Prop
  | .apply _ taken =>
    ∀ q rest, s.gAcqResponseQueue = q :: rest → taken = true → q.response.status = .ok →
      ∀ read ∈ coreTags, q.response.tagId = read.1 →
        ∃ other ∈ coreTags, other.1 ≠ read.1 ∧ ¬ ValidAt s.store other.1
  | _ => True

theorem coreFindsValid_iff {store : RuntimeStore} :
    CoreFindsValid store ↔ ∀ read ∈ coreTags, ValidAt store read.1 := by
  have hlist : (∀ read ∈ coreTags, ValidAt store read.1) ↔
      ValidAt store 2 ∧ ValidAt store 3 ∧ ValidAt store 6 := by
    simp [coreTags]
  rw [hlist]
  constructor
  · rintro ⟨lock, startMillis, timerMillis, rd, hsensors, hvalid⟩
    unfold coreSample Core.Sample.sensors at hsensors
    split at hsensors
    · next pressure salt regenStat hp hs hr =>
      obtain rfl := Option.some.inj hsensors
      unfold Core.readSensors at hvalid
      split at hvalid
      · next hall => exact ⟨⟨pressure, hp, hall.2.1⟩, ⟨salt, hs, hall.2.2.1⟩, regenStat, hr, hall.2.2.2⟩
      · cases hvalid
    · cases hsensors
  · rintro ⟨⟨pressure, hp, hpv⟩, ⟨salt, hs, hsv⟩, regenStat, hr, hrv⟩
    refine ⟨.ok, 0, 0, Core.readSensors .ok pressure salt regenStat, ?_, ?_⟩
    · simp only [coreSample, hp, hs, hr, Core.Sample.sensors]
    · rw [Core.readSensors, if_pos ⟨rfl, hpv, hsv, hrv⟩]

theorem validAt_applyResponse {store : RuntimeStore} {response : ProtocolResponse}
    {now tagId : BitVec 32} :
    ValidAt (store.applyResponse response now) tagId ↔
      if response.tagId = tagId then response.status = .ok ∧ (store.entryOf tagId).isSome
      else ValidAt store tagId := by
  unfold ValidAt
  rw [RuntimeStore.entryOf_applyResponse]
  split_ifs
  · cases store.entryOf tagId with
    | none => simp
    | some entry => simp [TagRuntime.valid_update]
  · rfl

/-! ## Runs over the shipped registry -/

/-- The store has the shipped tags, and not all three are valid. -/
structure MemberInv (s : BusSystem) : Prop where
  configs : s.store.configs = gTags.gTags
  initialized : s.store.gInitialized = true
  notValid : ¬ CoreFindsValid s.store

theorem memberInv_boot : MemberInv (.boot gTags) where
  configs := rfl
  initialized := rfl
  notValid := by
    rw [coreFindsValid_iff]
    intro hall
    obtain ⟨entry, hentry, hvalid⟩ := hall (2, .f32v) (List.mem_cons_self ..)
    obtain rfl := Option.some.inj (hentry.symm.trans rfl)
    cases hvalid

/-- Among the shipped tags the three are there, and tag 2 is a coil. -/
theorem entryOf_gTags {store : RuntimeStore} (hconfigs : store.configs = gTags.gTags)
    (hinit : store.gInitialized = true) :
    (∀ read ∈ coreTags, (store.entryOf read.1).isSome) ∧ ¬ MembersAgree store := by
  have hfound (tagId : BitVec 32) := RuntimeStore.config_entryOf hinit tagId
  rw [hconfigs] at hfound
  have hsome (tagId : BitVec 32) :
      (store.entryOf tagId).isSome = (gTags.gTags.find? fun tag => tag.tagId = tagId).isSome := by
    rw [← hfound, Option.isSome_map]
  constructor
  · intro read hread
    rw [hsome]
    revert read
    decide
  · intro hagree
    obtain ⟨entry, hentry⟩ := Option.isSome_iff_exists.mp ((hsome 2).trans rfl)
    have hconfig := (congrArg (Option.map TagRuntime.config) hentry).symm.trans (hfound 2)
    have hmember := hagree (2, .f32v) (List.mem_cons_self ..) entry hentry
    rw [Option.some.inj hconfig] at hmember
    cases hmember

theorem memberInv_busStep (s : BusSystem) (a : BusStep) (s' : BusSystem) (hs : MemberInv s)
    (hleaves : LeavesOneInvalid s a) (ha : busStep gTags s a = some s') : MemberInv s' := by
  by_cases happly : ∃ now taken, a = .apply now taken
  · obtain ⟨now, taken, rfl⟩ := happly
    obtain ⟨q, rest, hqueue, rfl⟩ := apply_cases ha
    obtain ⟨hinit, hconfigs⟩ := acquisitionUpdate_frame s.store q.response now taken
    refine ⟨hconfigs.trans hs.configs, hinit.trans hs.initialized, ?_⟩
    change ¬ CoreFindsValid (s.store.acquisitionUpdate q.response now taken)
    rw [acquisitionUpdate_eq hs.initialized]
    split
    · next htaken =>
      rw [coreFindsValid_iff]
      intro hall
      apply hs.notValid
      rw [coreFindsValid_iff]
      intro read hread
      have hread' := validAt_applyResponse.mp (hall read hread)
      split_ifs at hread' with heq
      · obtain ⟨other, hother, hne, hinvalid⟩ :=
          hleaves q rest hqueue htaken hread'.1 read hread heq
        have hother' := validAt_applyResponse.mp (hall other hother)
        rw [if_neg (fun h => hne (h.symm.trans heq))] at hother'
        exact absurd hother' hinvalid
      · exact hread'
    · exact hs.notValid
  · obtain ⟨hstore, -⟩ := busStep_frame ha fun now taken heq => happly ⟨now, taken, heq⟩
    exact ⟨hstore ▸ hs.configs, hstore ▸ hs.initialized, hstore ▸ hs.notValid⟩

/-- The third valid tag is enough: the core then reads a member nobody assigned. -/
theorem not_readsAssigned_of_completing (s : BusSystem) (a : BusStep) (s' : BusSystem)
    (hs : MemberInv s) (hcompletes : ¬ LeavesOneInvalid s a) (ha : busStep gTags s a = some s') :
    ¬ ReadsAssigned s' := by
  cases a with
  | apply now taken =>
    simp only [LeavesOneInvalid, not_forall, not_exists, not_and, not_not] at hcompletes
    obtain ⟨q, rest, hqueue, rfl, hok, read, hread, heq, hothers⟩ := hcompletes
    obtain ⟨q', rest', hqueue', rfl⟩ := apply_cases ha
    obtain ⟨rfl, rfl⟩ := List.cons.inj (hqueue.symm.trans hqueue')
    have hstore : (s.applyHead q rest now true).store = s.store.applyResponse q.response now :=
      (acquisitionUpdate_eq hs.initialized q.response now true).trans (if_pos rfl)
    obtain ⟨-, hdisagree⟩ := entryOf_gTags
      ((RuntimeStore.configs_applyResponse s.store q.response now).trans hs.configs)
      ((applyResponse_initialized s.store q.response now).trans hs.initialized)
    obtain ⟨hfound, -⟩ := entryOf_gTags hs.configs hs.initialized
    intro hreads
    rw [ReadsAssigned, hstore] at hreads
    refine hdisagree (hreads (coreFindsValid_iff.mpr fun other hother => ?_))
    refine validAt_applyResponse.mpr ?_
    split_ifs with heq'
    · exact ⟨hok, hfound other hother⟩
    · exact hothers other hother fun h => heq' (heq.trans h.symm)
  | _ => exact absurd trivial hcompletes

/-- **The core reads the members that were assigned, exactly as long as it never finds its
tags valid.** -/
theorem reads_assigned_iff (as : List BusStep) :
    Always (busStep gTags) ReadsAssigned (.boot gTags) as ↔
      Throughout (busStep gTags) LeavesOneInvalid (.boot gTags) as :=
  always_iff_throughout (fun _ hs hvalid => absurd hvalid hs.notValid) memberInv_busStep
    not_readsAssigned_of_completing memberInv_boot as

/-- A relay is switched on, the slave confirms it, and the confirmation is applied. -/
def switchRelayOn (tag : TagConfig) (now : BitVec 32) : List BusStep :=
  [.request ⟨some tag, .write, TagValue.zero.setBv true⟩ ⟨true, true, true⟩,
    .data 0 (echo ⟨tag.tagId, 1, 0x05, tag.modbus.address, 0xFF00, []⟩) ⟨.zero, 0, (0, 0), 0⟩,
    .apply now true]

/-- The relays of the tags 2, 3 and 6 are switched on. -/
def switchThreeOn : List BusStep :=
  switchRelayOn (relayControl 2 "MODE-YC" "HDR0030/MODE-YC-100" 1) 1000 ++
    switchRelayOn (relayControl 3 "RSP-YC" "HDR0030/RSP-YC-101" 2) 2000 ++
    switchRelayOn (relayControl 6 "PSS-YC" "HDR0030/PSS-YC-104" 5) 3000

/-- The core then takes what the coils left behind for a pressure and a salt level. -/
theorem coils_read_as_floats :
    ¬ ∀ as, Always (busStep gTags) ReadsAssigned (.boot gTags) as := by
  intro hall
  have hreads := (hall switchThreeOn).last rfl
  have hmember := hreads ⟨.ok, 0, 0, _, rfl, rfl⟩ (2, .f32v) (List.mem_cons_self ..) _ rfl
  cases hmember

end XIoT.Modbus
