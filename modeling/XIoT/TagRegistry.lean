import XIoT.System
import Mathlib.Algebra.Group.Nat.Defs

/-!
# The tag registry

The configuration of the tags and the four searches of `tag_registry.cpp`, with
the table the firmware ships. A C string is a `String` whose characters are its
bytes; a pointer that may be NULL is an `Option`.
-/

namespace XIoT

/-- `word_order_t`. -/
inductive WordOrder where
  | abcd
  | cdab
  | badc
  | dcba
  deriving DecidableEq, Repr

/-- `tag_access_t`. -/
inductive TagAccess where
  | readOnly
  | writeOnly
  | readWrite
  deriving DecidableEq, Repr

/-- `tag_source_t`. -/
inductive TagSource where
  | modbus
  | can
  | system
  deriving DecidableEq, Repr

/-- `tag_topic_type_t`. -/
inductive TagTopicType where
  | subscribe
  | publish
  deriving DecidableEq, Repr

/-- `tag_type_t`. -/
inductive TagType where
  | bool
  | uint16
  | int16
  | uint32
  | int32
  | float32
  | string
  deriving DecidableEq, Repr

/-- `tag_modbus_config_t`, the only member of `tag_source_config_t` that is read. -/
structure TagModbusConfig where
  slaveId : BitVec 8
  address : BitVec 16
  quantity : BitVec 16
  functionCode : BitVec 8
  wordOrder : WordOrder
  deriving DecidableEq, Repr

/-- `tag_config_t`. -/
structure TagConfig where
  tagId : BitVec 32
  name : Option String
  topic : Option String
  topicType : TagTopicType
  source : TagSource
  access : TagAccess
  dataType : TagType
  modbus : TagModbusConfig
  deriving DecidableEq, Repr

/-- A table of tags, with a length that its `uint16_t` count can hold. -/
structure Registry where
  gTags : List TagConfig
  fits : gTags.length < 2 ^ 16

namespace Registry

def tagCount (reg : Registry) : Nat := reg.gTags.length

/-- `tag_find_by_id`: its parameter is a `uint16_t`, the ids it is compared with are not. -/
def tagFindById (reg : Registry) (tagId : BitVec 16) : Option TagConfig :=
  reg.gTags.find? fun tag => tag.tagId = tagId.setWidth 32

def tagFindByName (reg : Registry) : Option String → Option TagConfig
  | none => none
  | some name => reg.gTags.find? fun tag => tag.name = some name

def tagFindByTopic (reg : Registry) : Option String → Option TagConfig
  | none => none
  | some topic => reg.gTags.find? fun tag => tag.topic = some topic

def tagGetAt (reg : Registry) (index : Nat) : Option TagConfig := reg.gTags[index]?

theorem name_of_tagFindByName {reg : Registry} {name : String} {tag : TagConfig}
    (h : reg.tagFindByName (some name) = some tag) : tag.name = some name := by
  unfold tagFindByName at h
  simpa using List.find?_some h

end Registry

/-- The control tag of a relay: a coil that is only written. -/
def relayControl (tagId : BitVec 32) (name topic : String) (address : BitVec 16) : TagConfig where
  tagId := tagId
  name := some name
  topic := some topic
  topicType := .subscribe
  source := .modbus
  access := .writeOnly
  dataType := .bool
  modbus := ⟨1, address, 1, 0x05, .cdab⟩

/-- The status tag of a relay: a coil that is only read. -/
def relayStatus (tagId : BitVec 32) (name topic : String) (address : BitVec 16) : TagConfig where
  tagId := tagId
  name := some name
  topic := some topic
  topicType := .publish
  source := .modbus
  access := .readOnly
  dataType := .bool
  modbus := ⟨1, address, 1, 0x01, .cdab⟩

/-- A current sensor: an input register. -/
def currentSensor (tagId : BitVec 32) (name topic : String) (address : BitVec 16) : TagConfig where
  tagId := tagId
  name := some name
  topic := some topic
  topicType := .publish
  source := .modbus
  access := .readOnly
  dataType := .uint16
  modbus := ⟨2, address, 1, 0x04, .abcd⟩

/-- The table `gTags` of the shipped firmware. -/
def gTags : Registry where
  gTags :=
    [relayControl 1 "MACH-YC" "HDR0030/MACH-YC-100" 0,
     relayControl 2 "MODE-YC" "HDR0030/MODE-YC-100" 1,
     relayControl 3 "RSP-YC" "HDR0030/RSP-YC-101" 2,
     relayControl 4 "AIB-YC" "HDR0030/AIB_01-YC-102" 3,
     relayControl 5 "FFP-YC" "HDR0030/FFP-YC-103" 4,
     relayControl 6 "PSS-YC" "HDR0030/PSS-YC-104" 5,
     relayStatus 7 "MACH-YT" "HDR0030/MACH-YT-100" 0,
     relayStatus 8 "MODE-YT" "HDR0030/MODE-YT-100" 1,
     relayStatus 9 "RSP-YT" "HDR0030/RSP-YT-101" 2,
     relayStatus 10 "AIB-YT" "HDR0030/AIB_01-YT-102" 3,
     relayStatus 11 "FFP-YT" "HDR0030/FFP-YT-103" 4,
     relayStatus 12 "PSS-YT" "HDR0030/PSS-YT-104" 5,
     currentSensor 13 "DUMMY-01" "HDR0030/DUMMY-01" 0,
     currentSensor 14 "MACH-IT" "HDR0030/MACH-IT-100" 0,
     currentSensor 15 "RSP-IT" "HDR0030/RSP-IT-101" 1,
     currentSensor 16 "AIB_01-IT" "HDR0030/AIB_01-IT-102" 2,
     currentSensor 17 "FFP-IT" "HDR0030/FFP-IT-103" 3,
     currentSensor 18 "PSS-IT" "HDR0030/PSS-IT-104" 4,
     currentSensor 19 "AIB_2-IT" "HDR0030/AIB_2-IT-105" 5]
  fits := by decide

end XIoT
