import XIoT.TagRuntime
import XIoT.Lib.Decimal
import XIoT.Lib.Framing
import XIoT.Lib.Rounding

/-!
# The Nextion display

What `nextionTask` writes to the display, and what the display makes of it. An instruction
assigns a text to a component and ends with three bytes 0xFF; the display takes one byte
after the other and does not answer.
-/

namespace XIoT.Nextion

open Lib.Framing Lib.Decimal
open Lib.BinaryFormat (fields magnitude infinityFields unitsOfOne roundDiv distance)

abbrev Byte := BitVec 8

def ascii (s : String) : List Byte := s.toList.map fun c => BitVec.ofNat 8 c.toNat

/-- The byte 0xFF. -/
def endByte : Byte := 0xFF

/-- The character `"`. -/
def quote : Byte := 0x22

def sendTerminator : List Byte := [endByte, endByte, endByte]

def sendText (component text : List Byte) : List Byte :=
  component ++ ascii ".txt=\"" ++ text ++ ascii "\"" ++ sendTerminator

/-! ## Formatting -/

/-- What `snprintf` leaves of a text in a buffer of `size` bytes. -/
def snprintf (size : ℕ) (text : List Byte) : List Byte := text.take (size - 1)

/-- `sizeof(buf)`. -/
def bufSize : ℕ := 64

/-- The string in an array of characters. -/
def cString (bytes : List Byte) : List Byte := bytes.takeWhile fun c => c ≠ 0

def isInfinite (x : Float32Bits) : Bool := fields x = infinityFields 32 23

/-- The magnitude in hundredths, to the nearest and of two to the even one. -/
def hundredthsOf (x : Float32Bits) : ℕ := roundDiv (100 * magnitude 23 (fields x)) (unitsOfOne 32 23)

/-- `%.2f`. -/
def formatFloat (x : Float32Bits) : List Byte :=
  if x.isNaN then signOf x.msb ++ ascii "nan"
  else if isInfinite x then signOf x.msb ++ ascii "inf"
  else hundredths x.msb (hundredthsOf x)

/-- The text that `update_hmi_widget` makes of a value. -/
def widgetText (tag : TagRuntime) : List Byte :=
  match tag.config.dataType with
  | .bool => ascii (if tag.value.bv then "ON" else "OFF")
  | .uint16 => snprintf bufSize (decimal tag.value.u16v.toNat)
  | .int16 => snprintf bufSize (signed tag.value.i16v.toInt)
  | .uint32 => snprintf bufSize (decimal tag.value.u32v.toNat)
  | .int32 => snprintf bufSize (signed tag.value.i32v.toInt)
  | .float32 => snprintf bufSize (formatFloat tag.value.f32v)
  | .string => cString tag.value.strv

/-- `update_hmi_widget`; the component of a tag is given beside it. -/
def updateHmiWidget (nxtComponent : Option (List Byte)) (tag : TagRuntime) : List Byte :=
  match nxtComponent with
  | none => []
  | some component => sendText component (widgetText tag)

/-- One round of the loop of `nextionTask`: the component of the tag, the entry as it is
tested, and as it is copied later on, none when the lock is refused. -/
structure NextionRound where
  nxtComponent : Option (List Byte)
  tested : TagRuntime
  copied : Option TagRuntime

def nextionRound (r : NextionRound) : List Byte :=
  if !r.tested.valid then []
  else if r.nxtComponent.isNone then []
  else match r.copied with
    | none => []
    | some copy => updateHmiWidget r.nxtComponent copy

/-- What the task has written after a number of rounds, of however many passes. -/
def nextionStream (rounds : List NextionRound) : List Byte := rounds.flatMap nextionRound

/-! ## The display -/

/-- The component and the text of an instruction. -/
def readInstruction (frame : List Byte) : Option (List Byte × List Byte) :=
  let target := frame.takeWhile fun c => c ≠ quote
  match frame.dropWhile fun c => c ≠ quote with
  | [] => none
  | _ :: rest =>
    if ascii ".txt=" <:+ target ∧ rest.getLast? = some quote then
      some (target.take (target.length - (ascii ".txt=").length), rest.dropLast)
    else none

/-- The instructions in what the display has received. -/
def shown (stream : List Byte) : List (Option (List Byte × List Byte)) :=
  (received endByte 3 stream).map readInstruction

/-- What the display is to show after a round. -/
def toShow (r : NextionRound) : Option (List Byte × List Byte) :=
  if r.tested.valid then
    r.nxtComponent.bind fun component => r.copied.map fun copy => (component, widgetText copy)
  else none

/-- The names of components and the strings do not hold the bytes that mark their ends, and
the strings end within their arrays: the `print` of one that does not would read on. -/
structure Plain (r : NextionRound) : Prop where
  component : ∀ component ∈ r.nxtComponent, quote ∉ component ∧ endByte ∉ component
  strings : ∀ copy ∈ r.copied, copy.config.dataType = .string → endByte ∉ cString copy.value.strv
  terminated : ∀ copy ∈ r.copied, copy.config.dataType = .string → 0 ∈ copy.value.strv

/-- What a text tells of the value. -/
def Tells (tag : TagRuntime) (text : List Byte) : Prop :=
  match tag.config.dataType with
  | .bool => text = ascii (if tag.value.bv then "ON" else "OFF")
  | .uint16 => readDigits text = some tag.value.u16v.toNat
  | .int16 => readSigned text = some tag.value.i16v.toInt
  | .uint32 => readDigits text = some tag.value.u32v.toNat
  | .int32 => readSigned text = some tag.value.i32v.toInt
  | .float32 =>
    tag.value.f32v.isNaN = false → isInfinite tag.value.f32v = false →
      ∃ h, readHundredths text = some (tag.value.f32v.msb, h) ∧
        2 * distance (100 * magnitude 23 (fields tag.value.f32v)) (unitsOfOne 32 23) h ≤
          unitsOfOne 32 23
  | .string => text ++ [0] <+: tag.value.strv

/-! ## Texts -/

theorem snprintf_of_lt {text : List Byte} (h : text.length < bufSize) :
    snprintf bufSize text = text := List.take_of_length_le (Nat.le_sub_one_of_lt h)

theorem length_signed_le {i : ℤ} {k : ℕ} (hk : 0 < k) (hi : i.natAbs < 10 ^ k) :
    (signed i).length ≤ k + 1 := by
  have hdigits := length_decimal_le hk hi
  have hsign : (signOf (decide (i < 0))).length ≤ 1 := by cases decide (i < 0) <;> decide
  simp only [signed, List.length_append]
  omega

theorem natAbs_toInt_lt {w : ℕ} (x : BitVec w) : x.toInt.natAbs < 2 ^ w + 1 := by
  have hlt := x.isLt
  rw [BitVec.toInt_eq_toNat_cond]
  split
  · omega
  · omega

theorem magnitude_infinity : magnitude 23 (infinityFields 32 23) = 2 ^ 23 * 2 ^ 254 := by
  have hfields : infinityFields 32 23 = 254 * 2 ^ 23 + 2 ^ 23 := by decide
  rw [hfields]
  exact Lib.BinaryFormat.magnitude_scaled (by decide) (Or.inr (Nat.le_refl _))

/-- No `float` has more than 39 digits before the point. -/
theorem hundredthsOf_lt {x : Float32Bits} (hnan : x.isNaN = false) :
    hundredthsOf x / 100 < 10 ^ 39 := by
  have hfields : fields x ≤ infinityFields 32 23 := by
    simpa [Float32Bits.isNaN, Lib.BinaryFormat.isNaN] using hnan
  have hmagnitude : magnitude 23 (fields x) ≤ 2 ^ 23 * 2 ^ 254 :=
    magnitude_infinity ▸ (Lib.BinaryFormat.magnitude_strictMono 23).monotone hfields
  have hbound : 100 * (2 ^ 23 * 2 ^ 254) < (10 ^ 41 - 1) * 2 ^ 149 := by norm_num
  have hlt : 100 * magnitude 23 (fields x) < (10 ^ 41 - 1) * unitsOfOne 32 23 :=
    (Nat.mul_le_mul_left 100 hmagnitude).trans_lt hbound
  have hround : hundredthsOf x ≤ 10 ^ 41 - 1 :=
    Lib.BinaryFormat.roundDiv_le (Nat.two_pow_pos _) hlt
  omega

theorem length_formatFloat (x : Float32Bits) : (formatFloat x).length < bufSize := by
  have hsign : (signOf x.msb).length ≤ 1 := by cases x.msb <;> decide
  unfold formatFloat
  split_ifs with hnan hinf
  · have hword : (ascii "nan").length = 3 := by decide
    rw [List.length_append, hword, bufSize]
    omega
  · have hword : (ascii "inf").length = 3 := by decide
    rw [List.length_append, hword, bufSize]
    omega
  · rw [Bool.not_eq_true] at hnan
    have hlength := length_hundredths_le x.msb (by decide) (hundredthsOf_lt hnan)
    rw [bufSize]
    omega

/-- A number of an integer type fits the buffer. -/
theorem length_decimal_lt {n : ℕ} (hn : n < 2 ^ 32) : (decimal n).length < bufSize := by
  have hlength := length_decimal_le (k := 10) (by decide) (show n < 10 ^ 10 by omega)
  rw [bufSize]
  omega

theorem length_signed_lt {i : ℤ} (hi : i.natAbs ≤ 2 ^ 32) : (signed i).length < bufSize := by
  have hlength := length_signed_le (k := 10) (by decide) (show i.natAbs < 10 ^ 10 by omega)
  rw [bufSize]
  omega

/-- What is cut off at the first zero is followed by it. -/
theorem cString_prefix {bytes : List Byte} (h : 0 ∈ bytes) : cString bytes ++ [0] <+: bytes := by
  induction bytes with
  | nil => cases h
  | cons c bytes ih =>
    unfold cString at ih ⊢
    by_cases hc : c = 0
    · rw [hc]
      simp
    · have hrest : 0 ∈ bytes := (List.mem_cons.mp h).resolve_left fun h0 => hc h0.symm
      rw [List.takeWhile_cons, if_pos (decide_eq_true hc), List.cons_append]
      exact (List.prefix_cons_inj c).mpr (ih hrest)

/-- **Texts tell the values.** None is cut off by the buffer, integers are exact, and a
finite `float` is shown to the nearest hundredth. -/
theorem widgetText_tells {tag : TagRuntime}
    (hterminated : tag.config.dataType = .string → 0 ∈ tag.value.strv) :
    Tells tag (widgetText tag) := by
  unfold Tells widgetText
  cases htype : tag.config.dataType with
  | bool => rfl
  | uint16 =>
    have hlt := tag.value.u16v.isLt
    show readDigits (snprintf bufSize (decimal tag.value.u16v.toNat)) = _
    rw [snprintf_of_lt (length_decimal_lt (by omega))]
    exact readDigits_decimal _
  | int16 =>
    have hlt := natAbs_toInt_lt tag.value.i16v
    show readSigned (snprintf bufSize (signed tag.value.i16v.toInt)) = _
    rw [snprintf_of_lt (length_signed_lt (by omega))]
    exact readSigned_signed _
  | uint32 =>
    show readDigits (snprintf bufSize (decimal tag.value.u32v.toNat)) = _
    rw [snprintf_of_lt (length_decimal_lt tag.value.u32v.isLt)]
    exact readDigits_decimal _
  | int32 =>
    have hlt := natAbs_toInt_lt tag.value.i32v
    show readSigned (snprintf bufSize (signed tag.value.i32v.toInt)) = _
    rw [snprintf_of_lt (length_signed_lt (by omega))]
    exact readSigned_signed _
  | float32 =>
    intro hnan hinf
    refine ⟨hundredthsOf tag.value.f32v, ?_, Lib.BinaryFormat.two_mul_distance_roundDiv_le
      (Nat.two_pow_pos _)⟩
    show readHundredths (snprintf bufSize (formatFloat tag.value.f32v)) = _
    rw [snprintf_of_lt (length_formatFloat _), formatFloat, hnan, hinf]
    exact readHundredths_hundredths _ _
  | string => exact cString_prefix (hterminated htype)

/-! ## Frames -/

theorem endByte_notMem_decimal (n : ℕ) : endByte ∉ decimal n := by
  intro hmem
  exact absurd (mem_decimal hmem).2 (by decide)

theorem endByte_notMem_signOf (negative : Bool) : endByte ∉ signOf negative := by
  cases negative <;> decide

theorem endByte_notMem_digit {d : ℕ} (hd : d < 10) : endByte ≠ digit d := by
  intro heq
  have hvalue := toNat_digit hd
  rw [← heq] at hvalue
  have hend : endByte.toNat = 255 := rfl
  omega

theorem endByte_notMem_formatFloat (x : Float32Bits) : endByte ∉ formatFloat x := by
  have hsign := endByte_notMem_signOf x.msb
  unfold formatFloat
  split_ifs
  · exact List.not_mem_append hsign (by decide)
  · exact List.not_mem_append hsign (by decide)
  · have hplaces : endByte ∉ [point, digit (hundredthsOf x / 10 % 10), digit (hundredthsOf x % 10)] := by
      have hpoint : endByte ≠ point := by decide
      simp only [List.mem_cons, List.not_mem_nil, or_false, not_or]
      exact ⟨hpoint, endByte_notMem_digit (Nat.mod_lt _ (by decide)),
        endByte_notMem_digit (Nat.mod_lt _ (by decide))⟩
    exact List.not_mem_append hsign (List.not_mem_append (endByte_notMem_decimal _) hplaces)

/-- No text holds the byte that ends an instruction, if no string does. -/
theorem endByte_notMem_widgetText {tag : TagRuntime}
    (hstring : tag.config.dataType = .string → endByte ∉ cString tag.value.strv) :
    endByte ∉ widgetText tag := by
  have hcut : ∀ {text : List Byte}, endByte ∉ text → endByte ∉ snprintf bufSize text :=
    fun htext hmem => htext (List.mem_of_mem_take hmem)
  unfold widgetText
  cases htype : tag.config.dataType with
  | bool =>
    show endByte ∉ ascii (if tag.value.bv then "ON" else "OFF")
    cases tag.value.bv <;> decide
  | uint16 | uint32 => exact hcut (endByte_notMem_decimal _)
  | int16 | int32 =>
    exact hcut (List.not_mem_append (endByte_notMem_signOf _) (endByte_notMem_decimal _))
  | float32 => exact hcut (endByte_notMem_formatFloat _)
  | string => exact hstring htype

/-- An instruction without its end. -/
def instruction (component text : List Byte) : List Byte :=
  component ++ ascii ".txt=" ++ quote :: (text ++ [quote])

theorem sendText_eq (component text : List Byte) :
    sendText component text = encode endByte 3 (instruction component text) := by
  have hopening : ascii ".txt=\"" = ascii ".txt=" ++ [quote] := by decide
  have hclosing : ascii "\"" = [quote] := by decide
  simp only [sendText, hopening, hclosing, encode, instruction, sendTerminator, List.append_assoc,
    List.cons_append, List.nil_append]
  rfl

theorem readInstruction_instruction {component : List Byte} (hcomponent : quote ∉ component)
    (text : List Byte) : readInstruction (instruction component text) = some (component, text) := by
  have htarget : ∀ c ∈ component ++ ascii ".txt=", decide (c ≠ quote) = true := by
    intro c hc
    have hplain : quote ∉ component ++ ascii ".txt=" := List.not_mem_append hcomponent (by decide)
    exact decide_eq_true fun heq => hplain (heq ▸ hc)
  have htake : (instruction component text).takeWhile (fun c => c ≠ quote) =
      component ++ ascii ".txt=" := by
    rw [instruction, List.takeWhile_append_of_pos htarget, List.takeWhile_cons_of_neg (by simp),
      List.append_nil]
  have hdrop : (instruction component text).dropWhile (fun c => c ≠ quote) =
      quote :: (text ++ [quote]) := by
    rw [instruction, List.dropWhile_append_of_pos htarget, List.dropWhile_cons_of_neg (by simp)]
  have hlast : (text ++ [quote]).getLast? = some quote := List.getLast?_concat
  simp only [readInstruction, htake, hdrop, hlast, List.suffix_append, and_self, if_true,
    List.dropLast_concat, List.length_append, Nat.add_sub_cancel]
  rw [List.take_left]

/-- A round writes one instruction, or nothing. -/
theorem nextionRound_eq (r : NextionRound) :
    nextionRound r = (toShow r).toList.flatMap fun shown =>
      encode endByte 3 (instruction shown.1 shown.2) := by
  unfold nextionRound toShow
  cases r.tested.valid with
  | false => rfl
  | true =>
    cases hcomponent : r.nxtComponent with
    | none => rfl
    | some component =>
      cases hcopy : r.copied with
      | none => rfl
      | some copy => exact (sendText_eq component (widgetText copy)).trans (List.append_nil _).symm

/-- The instructions of a number of rounds. -/
def instructions (rounds : List NextionRound) : List (List Byte) :=
  (rounds.filterMap toShow).map fun shown => instruction shown.1 shown.2

theorem nextionStream_eq (rounds : List NextionRound) :
    nextionStream rounds = (instructions rounds).flatMap (encode endByte 3) := by
  induction rounds with
  | nil => rfl
  | cons r rounds ih =>
    have hcons : instructions (r :: rounds) =
        ((toShow r).toList.map fun shown => instruction shown.1 shown.2) ++ instructions rounds := by
      unfold instructions
      cases hshow : toShow r <;> simp [hshow]
    rw [nextionStream, List.flatMap_cons, hcons, List.flatMap_append, ← ih, nextionRound_eq]
    cases toShow r <;> simp [nextionStream]

theorem toShow_cases {r : NextionRound} {shown : List Byte × List Byte} (h : toShow r = some shown) :
    ∃ copy, r.nxtComponent = some shown.1 ∧ r.copied = some copy ∧ shown.2 = widgetText copy := by
  unfold toShow at h
  split at h
  · obtain ⟨component, hcomponent, hrest⟩ := Option.bind_eq_some_iff.mp h
    obtain ⟨copy, hcopy, rfl⟩ := Option.map_eq_some_iff.mp hrest
    exact ⟨copy, hcomponent, hcopy, rfl⟩
  · cases h

theorem endByte_notMem_instructions {rounds : List NextionRound} (hplain : ∀ r ∈ rounds, Plain r) :
    ∀ frame ∈ instructions rounds, endByte ∉ frame := by
  intro frame hframe
  obtain ⟨shown, hshown, rfl⟩ := List.mem_map.mp hframe
  obtain ⟨r, hr, hshow⟩ := List.mem_filterMap.mp hshown
  obtain ⟨copy, hcomponent, hcopy, htext⟩ := toShow_cases hshow
  have hname := ((hplain r hr).component shown.1 hcomponent).2
  have hstring := endByte_notMem_widgetText ((hplain r hr).strings copy hcopy)
  rw [← htext] at hstring
  refine List.not_mem_append (List.not_mem_append hname (by decide)) ?_
  have hquote : endByte ≠ quote := by decide
  simp only [List.mem_cons, List.mem_append, List.not_mem_nil, or_false, not_or]
  exact ⟨hquote, hstring, hquote⟩

theorem map_readInstruction {rounds : List NextionRound} (hplain : ∀ r ∈ rounds, Plain r) :
    (instructions rounds).map readInstruction = (rounds.filterMap toShow).map some := by
  unfold instructions
  rw [List.map_map]
  refine List.map_congr_left fun shown hshown => ?_
  obtain ⟨r, hr, hshow⟩ := List.mem_filterMap.mp hshown
  obtain ⟨copy, hcomponent, -, -⟩ := toShow_cases hshow
  exact readInstruction_instruction ((hplain r hr).component shown.1 hcomponent).1 shown.2

/-- What the display makes of what the task writes. -/
structure Displays (rounds : List NextionRound) : Prop where
  shown : shown (nextionStream rounds) = (rounds.filterMap toShow).map some
  soFar : ∀ stream, stream <+: nextionStream rounds →
    Nextion.shown stream <+: (rounds.filterMap toShow).map some
  tells : ∀ r ∈ rounds, ∀ component text, toShow r = some (component, text) →
    ∃ copy, r.copied = some copy ∧ Tells copy text

/-- **The display shows the values.** However many passes the task makes, and whatever it
finds in them, the display reads the stream back as one text for every entry that was copied,
in order, and every text tells the value of its entry. -/
theorem display_shows_values (rounds : List NextionRound) (hplain : ∀ r ∈ rounds, Plain r) :
    Displays rounds := by
  have hframes := endByte_notMem_instructions hplain
  refine ⟨?_, fun stream hstream => ?_, fun r hr component text hshow => ?_⟩
  · rw [shown, nextionStream_eq, received_encode (by decide) hframes, map_readInstruction hplain]
  · rw [nextionStream_eq] at hstream
    rw [shown, ← map_readInstruction hplain]
    exact (received_cut (by decide) hframes hstream).map readInstruction
  · obtain ⟨copy, -, hcopy, htext⟩ := toShow_cases hshow
    have htext : text = widgetText copy := htext
    exact ⟨copy, hcopy, htext ▸ widgetText_tells ((hplain r hr).terminated copy hcopy)⟩

/-- A current of 1234 units, a pressure of -20.125 psi and a text of two letters. -/
def currentEntry : TagRuntime :=
  ⟨currentSensor 14 "MACH-IT" "HDR0030/MACH-IT-100" 0, TagValue.zero.setU16v 1234, 0, true, true⟩

def pressureEntry : TagRuntime :=
  ⟨{ currentEntry.config with dataType := .float32 }, TagValue.zero.setF32v 0xC1A10000, 0, true, true⟩

def textEntry : TagRuntime :=
  ⟨{ currentEntry.config with dataType := .string }, TagValue.zero.setU16v 0x4B4F, 0, true, true⟩

/-- The entries as the task finds them in one pass; another one is not valid, and the lock
of the last is refused. -/
def onePass : List NextionRound :=
  [⟨some (ascii "t0"), currentEntry, some currentEntry⟩,
    ⟨some (ascii "t1"), pressureEntry, some pressureEntry⟩,
    ⟨some (ascii "t2"), textEntry, some textEntry⟩,
    ⟨some (ascii "t3"), { currentEntry with valid := false }, some currentEntry⟩,
    ⟨some (ascii "t4"), currentEntry, none⟩]

theorem display_shows_onePass :
    Displays onePass ∧ onePass.filterMap toShow =
      [(ascii "t0", ascii "1234"), (ascii "t1", ascii "-20.12"), (ascii "t2", ascii "OK")] := by
  have hplain : ∀ r ∈ onePass, Plain r := by
    intro r hr
    simp only [onePass, List.mem_cons, List.not_mem_nil, or_false] at hr
    rcases hr with rfl | rfl | rfl | rfl | rfl <;> exact ⟨by decide, by decide, by decide⟩
  exact ⟨display_shows_values onePass hplain, by decide +kernel⟩

end XIoT.Nextion
