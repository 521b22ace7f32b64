import XIoT.TagRegistry
import XIoT.Lib.BinaryFormat

/-!
# The runtime store

`tag_value_t` is an untagged union of 64 bytes on a little-endian machine. Its
scalar members overlay the first word, so that assigning one of them leaves the
bytes it does not cover as they were. The store has one entry for each tag of
the registry, in the registry's order.
-/

namespace XIoT

/-- A `float` as its IEEE 754 binary32 pattern. -/
abbrev Float32Bits := BitVec 32

namespace Float32Bits

def isNaN (x : Float32Bits) : Bool := Lib.BinaryFormat.isNaN 23 x

def lt (x y : Float32Bits) : Bool := Lib.BinaryFormat.lt 23 x y

def le (x y : Float32Bits) : Bool := Lib.BinaryFormat.le 23 x y

end Float32Bits

/-- `tag_value_t`: the first four bytes as one word, then the other sixty of `strv`. -/
structure TagValue where
  word : BitVec 32
  rest : Vector (BitVec 8) 60
  deriving DecidableEq

namespace TagValue

/-- All bytes zero, as `memset` leaves them. -/
def zero : TagValue := ⟨0, Vector.replicate 60 0⟩

/-- A `bool` member is true when its byte is not zero. -/
def bv (v : TagValue) : Bool := v.word.setWidth 8 != 0

def u16v (v : TagValue) : BitVec 16 := v.word.setWidth 16

/-- Signed members are given by their two's complement patterns. -/
def i16v (v : TagValue) : BitVec 16 := v.word.setWidth 16

def u32v (v : TagValue) : BitVec 32 := v.word

def i32v (v : TagValue) : BitVec 32 := v.word

def f32v (v : TagValue) : Float32Bits := v.word

/-- All bytes, lowest first. -/
def strv (v : TagValue) : List (BitVec 8) :=
  [v.word.setWidth 8, v.word.extractLsb' 8 8, v.word.extractLsb' 16 8, v.word.extractLsb' 24 8] ++
    v.rest.toList

def setBv (v : TagValue) (b : Bool) : TagValue :=
  { v with word := v.word.extractLsb' 8 24 ++ (if b then 1#8 else 0#8) }

def setU16v (v : TagValue) (x : BitVec 16) : TagValue :=
  { v with word := v.word.extractLsb' 16 16 ++ x }

def setI16v (v : TagValue) (x : BitVec 16) : TagValue := v.setU16v x

def setU32v (v : TagValue) (x : BitVec 32) : TagValue := { v with word := x }

def setI32v (v : TagValue) (x : BitVec 32) : TagValue := { v with word := x }

def setF32v (v : TagValue) (x : Float32Bits) : TagValue := { v with word := x }

theorem bv_setBv (v : TagValue) (b : Bool) : (v.setBv b).bv = b := by
  have hbyte : (v.setBv b).word.setWidth 8 = if b then 1#8 else 0#8 :=
    BitVec.setWidth_append_eq_right
  rw [bv, hbyte]
  cases b <;> rfl

theorem u16v_setU16v (v : TagValue) (x : BitVec 16) : (v.setU16v x).u16v = x :=
  BitVec.setWidth_append_eq_right

end TagValue

/-- `tag_runtime_t`. -/
structure TagRuntime where
  config : TagConfig
  value : TagValue
  timestamp : BitVec 32
  valid : Bool
  changed : Bool
  deriving DecidableEq

/-- The static variables of `tag_runtime.cpp`. -/
structure RuntimeStore where
  gTagRuntime : List TagRuntime
  gInitialized : Bool
  deriving DecidableEq

namespace RuntimeStore

/-- The entries `tag_runtime_init` writes: one for each tag, zeroed and invalid. -/
def initial (reg : Registry) : RuntimeStore where
  gTagRuntime := reg.gTags.map fun tag => ⟨tag, .zero, 0, false, false⟩
  gInitialized := true

/-- `tag_runtime_init`; `allocated` and `mutexMade` tell whether `calloc` and the creation of
the mutex succeeded. Without the mutex the entries are freed again, and nobody reads them
while `gInitialized` is false. -/
def tagRuntimeInit (store : RuntimeStore) (reg : Registry) (allocated mutexMade : Bool) :
    RuntimeStore × SysStatus :=
  if store.gInitialized then (store, .invalidState)
  else if !allocated then ({ store with gTagRuntime := [] }, .noMemory)
  else if !mutexMade then ({ store with gTagRuntime := [] }, .noMemory)
  else (initial reg, .ok)

theorem tagRuntimeInit_ok {store : RuntimeStore} {reg : Registry} {allocated mutexMade : Bool}
    (h : (store.tagRuntimeInit reg allocated mutexMade).2 = .ok) :
    (store.tagRuntimeInit reg allocated mutexMade).1 = initial reg := by
  unfold tagRuntimeInit at h ⊢
  split_ifs at h ⊢
  rfl

/-- `tag_runtime_lock`; `taken` is the answer of `xSemaphoreTake`. -/
def tagRuntimeLock (store : RuntimeStore) (taken : Bool) : SysStatus :=
  if !store.gInitialized then .invalidState
  else if !taken then .fail
  else .ok

/-- `tag_runtime_get`, with the position of the entry for the pointer to it. -/
def tagRuntimeGet (store : RuntimeStore) (tagId : BitVec 32) : Option Nat :=
  if !store.gInitialized then none
  else store.gTagRuntime.findIdx? fun entry => entry.config.tagId = tagId

/-- The entry that the pointer of `tag_runtime_get` leads to. -/
def entryOf (store : RuntimeStore) (tagId : BitVec 32) : Option TagRuntime :=
  (store.tagRuntimeGet tagId).bind fun idx => store.gTagRuntime[idx]?

/-- Write through a pointer into the store. -/
def modify (store : RuntimeStore) (idx : Nat) (f : TagRuntime → TagRuntime) : RuntimeStore :=
  { store with gTagRuntime := store.gTagRuntime.modify idx f }

end RuntimeStore

end XIoT
