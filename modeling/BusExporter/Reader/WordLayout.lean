import BusExporter.Reader.Decoder
import Mathlib.Data.Set.Function

/-!
# The layout of words in registers

The specification's table says in which order the bytes of a 32-bit or 64-bit
word are sent, two to a register and the high byte first. Decoding registers
undoes that order, and decoding the bytes of the registers gives the same numbers
for the two orders that a byte device has.
-/

namespace BusExporter.Decoder

open Foundation

/-! ## The table -/

/-- The order in which the bytes A, B, C, D of a 32-bit word are sent. -/
def table32 {α : Type*} (byteOrder : ByteOrder) : List α → List α
  | [a, b, c, d] =>
    match byteOrder with
    | .bigEndian => [a, b, c, d]
    | .littleEndian => [d, c, b, a]
    | .midBigEndian => [c, d, a, b]
    | .midLittleEndian => [b, a, d, c]
  | bytes => bytes

/-- The order in which the bytes A to H of a 64-bit word are sent. -/
def table64 {α : Type*} (byteOrder : ByteOrder) : List α → List α
  | [a, b, c, d, e, f, g, h] =>
    match byteOrder with
    | .bigEndian => [a, b, c, d, e, f, g, h]
    | .littleEndian => [h, g, f, e, d, c, b, a]
    | .midBigEndian => [e, f, g, h, a, b, c, d]
    | .midLittleEndian => [b, a, d, c, f, e, h, g]
  | bytes => bytes

/-- Bytes as registers, the high byte of each first. -/
def registersOf : List UInt8 → List UInt16
  | high :: low :: bytes => .ofBeBytes high low :: registersOf bytes
  | _ => []

/-- Registers as they are sent, the high byte of each first. -/
def wireBytes (registers : List UInt16) : List UInt8 := registers.flatMap UInt16.toBeBytes

/-- The registers that hold a 32-bit word. -/
def layout32 (byteOrder : ByteOrder) (word : UInt32) : List UInt16 :=
  registersOf (table32 byteOrder (beBytes 4 word.toNat))

/-- The registers that hold a 64-bit word. -/
def layout64 (byteOrder : ByteOrder) (word : UInt64) : List UInt16 :=
  registersOf (table64 byteOrder (beBytes 8 word.toNat))

/-! ## Bytes and registers -/

@[simp]
theorem wireBytes_cons (register : UInt16) (registers : List UInt16) :
    wireBytes (register :: registers) = register.toBeBytes ++ wireBytes registers := rfl

@[simp]
theorem length_wireBytes (registers : List UInt16) :
    (wireBytes registers).length = 2 * registers.length := by
  induction registers with
  | nil => rfl
  | cons register registers ih =>
    rw [wireBytes_cons, List.length_append, ih, List.length_cons, UInt16.toBeBytes]
    simp
    omega

theorem registersOf_wireBytes (registers : List UInt16) :
    registersOf (wireBytes registers) = registers := by
  induction registers with
  | nil => rfl
  | cons register registers ih =>
    rw [wireBytes_cons, UInt16.toBeBytes, List.cons_append, List.cons_append, List.nil_append,
      registersOf, UInt16.ofBeBytes_toBeBytes, ih]

theorem wireBytes_registersOf (bytes : List UInt8) (even : Even bytes.length) :
    wireBytes (registersOf bytes) = bytes := by
  induction bytes using registersOf.induct with
  | case1 high low bytes ih =>
    have rest : Even bytes.length := by simpa [Nat.even_add_one] using even
    rw [registersOf, wireBytes_cons, UInt16.toBeBytes_ofBeBytes, ih rest]
    rfl
  | case2 bytes short =>
    match bytes with
    | [] => rfl
    | [byte] => simp at even
    | high :: low :: bytes => exact absurd rfl (short high low bytes)

/-- The bytes of the first registers come first. -/
theorem take_wireBytes (registers : List UInt16) (count : ℕ) :
    (wireBytes registers).take (2 * count) = wireBytes (registers.take count) := by
  induction registers generalizing count with
  | nil => simp [wireBytes]
  | cons register registers ih =>
    cases count with
    | zero => rfl
    | succ count =>
      rw [List.take_succ_cons, wireBytes_cons, wireBytes_cons, ← ih, UInt16.toBeBytes]
      rfl

/-! ## The table undoes itself -/

section Tables

variable {α : Type*} {bytes : List α}

@[simp]
theorem length_table32 (byteOrder : ByteOrder) :
    (table32 byteOrder bytes).length = bytes.length := by
  unfold table32
  split
  · cases byteOrder <;> rfl
  · rfl

@[simp]
theorem length_table64 (byteOrder : ByteOrder) :
    (table64 byteOrder bytes).length = bytes.length := by
  unfold table64
  split
  · cases byteOrder <;> rfl
  · rfl

theorem exists_of_length_four (four : bytes.length = 4) : ∃ a b c d, bytes = [a, b, c, d] := by
  match bytes, four with
  | [a, b, c, d], _ => exact ⟨a, b, c, d, rfl⟩

theorem exists_of_length_eight (eight : bytes.length = 8) :
    ∃ a b c d e f g h, bytes = [a, b, c, d, e, f, g, h] := by
  match bytes, eight with
  | [a, b, c, d, e, f, g, h], _ => exact ⟨a, b, c, d, e, f, g, h, rfl⟩

theorem table32_table32 (byteOrder : ByteOrder) (four : bytes.length = 4) :
    table32 byteOrder (table32 byteOrder bytes) = bytes := by
  obtain ⟨a, b, c, d, rfl⟩ := exists_of_length_four four
  cases byteOrder <;> rfl

theorem table64_table64 (byteOrder : ByteOrder) (eight : bytes.length = 8) :
    table64 byteOrder (table64 byteOrder bytes) = bytes := by
  obtain ⟨a, b, c, d, e, f, g, h, rfl⟩ := exists_of_length_eight eight
  cases byteOrder <;> rfl

end Tables

/-! ## The decoder reorders by the table -/

theorem reorder32_eq (byteOrder : ByteOrder) (registers : List UInt16)
    (enough : 2 ≤ registers.length) :
    reorder32 registers byteOrder = table32 byteOrder ((wireBytes registers).take 4) := by
  match registers, enough with
  | r0 :: r1 :: registers, _ => cases byteOrder <;> rfl

theorem reorder64_eq (byteOrder : ByteOrder) (registers : List UInt16)
    (enough : 4 ≤ registers.length) :
    reorder64 registers byteOrder = table64 byteOrder ((wireBytes registers).take 8) := by
  match registers, enough with
  | r0 :: r1 :: r2 :: r3 :: registers, _ => cases byteOrder <;> rfl

theorem wireBytes_layout32 (byteOrder : ByteOrder) (word : UInt32) :
    wireBytes (layout32 byteOrder word) = table32 byteOrder (beBytes 4 word.toNat) := by
  apply wireBytes_registersOf
  rw [length_table32, length_beBytes]
  decide

theorem wireBytes_layout64 (byteOrder : ByteOrder) (word : UInt64) :
    wireBytes (layout64 byteOrder word) = table64 byteOrder (beBytes 8 word.toNat) := by
  apply wireBytes_registersOf
  rw [length_table64, length_beBytes]
  decide

@[simp]
theorem length_layout32 (byteOrder : ByteOrder) (word : UInt32) :
    (layout32 byteOrder word).length = 2 := by
  have bytes := congrArg List.length (wireBytes_layout32 byteOrder word)
  rw [length_wireBytes, length_table32, length_beBytes] at bytes
  omega

@[simp]
theorem length_layout64 (byteOrder : ByteOrder) (word : UInt64) :
    (layout64 byteOrder word).length = 4 := by
  have bytes := congrArg List.length (wireBytes_layout64 byteOrder word)
  rw [length_wireBytes, length_table64, length_beBytes] at bytes
  omega

/-- The registers of a 32-bit word are read back as the word, whatever follows them. -/
theorem word_of_layout32 (byteOrder : ByteOrder) (word : UInt32) (rest : List UInt16) :
    UInt32.ofNat (beValue (reorder32 (layout32 byteOrder word ++ rest) byteOrder)) = word := by
  have first : (wireBytes (layout32 byteOrder word ++ rest)).take 4 =
      table32 byteOrder (beBytes 4 word.toNat) := by
    rw [← wireBytes_layout32, take_wireBytes _ 2, List.take_left' (length_layout32 _ _)]
  have whole : word.toNat % 256 ^ 4 = word.toNat := Nat.mod_eq_of_lt word.toNat_lt
  rw [reorder32_eq byteOrder _ (by simp), first, table32_table32 byteOrder (length_beBytes _ _),
    beValue_beBytes, whole, UInt32.ofNat_toNat]

/-- The registers of a 64-bit word are read back as the word, whatever follows them. -/
theorem word_of_layout64 (byteOrder : ByteOrder) (word : UInt64) (rest : List UInt16) :
    UInt64.ofNat (beValue (reorder64 (layout64 byteOrder word ++ rest) byteOrder)) = word := by
  have first : (wireBytes (layout64 byteOrder word ++ rest)).take 8 =
      table64 byteOrder (beBytes 8 word.toNat) := by
    rw [← wireBytes_layout64, take_wireBytes _ 4, List.take_left' (length_layout64 _ _)]
  have whole : word.toNat % 256 ^ 8 = word.toNat := Nat.mod_eq_of_lt word.toNat_lt
  rw [reorder64_eq byteOrder _ (by simp), first, table64_table64 byteOrder (length_beBytes _ _),
    beValue_beBytes, whole, UInt64.ofNat_toNat]

/-- Every pair of registers holds exactly one 32-bit word. -/
theorem bijOn_layout32 (byteOrder : ByteOrder) :
    Set.BijOn (layout32 byteOrder) Set.univ {registers | registers.length = 2} := by
  refine ⟨fun word _ => length_layout32 byteOrder word, ?_, ?_⟩
  · intro word _ word' _ same
    rw [← word_of_layout32 byteOrder word [], same, word_of_layout32]
  · intro registers two
    have four : (wireBytes registers).length = 4 := by
      rw [length_wireBytes, show registers.length = 2 from two]
    have reordered : (table32 byteOrder (wireBytes registers)).length =
      (wireBytes registers).length := length_table32 byteOrder
    -- Four bytes make a number below 2 ^ 32, so no digit of it gets lost in the word.
    have small := beValue_lt (table32 byteOrder (wireBytes registers))
    rw [reordered, four] at small
    refine ⟨.ofNat (beValue (table32 byteOrder (wireBytes registers))), trivial, ?_⟩
    rw [layout32, UInt32.toNat_ofNat_of_lt' small, ← four, ← reordered, beBytes_beValue,
      table32_table32 byteOrder four, registersOf_wireBytes]

/-- Every four registers hold exactly one 64-bit word. -/
theorem bijOn_layout64 (byteOrder : ByteOrder) :
    Set.BijOn (layout64 byteOrder) Set.univ {registers | registers.length = 4} := by
  refine ⟨fun word _ => length_layout64 byteOrder word, ?_, ?_⟩
  · intro word _ word' _ same
    rw [← word_of_layout64 byteOrder word [], same, word_of_layout64]
  · intro registers four
    have eight : (wireBytes registers).length = 8 := by
      rw [length_wireBytes, show registers.length = 4 from four]
    have reordered : (table64 byteOrder (wireBytes registers)).length =
      (wireBytes registers).length := length_table64 byteOrder
    -- Eight bytes make a number below 2 ^ 64.
    have small := beValue_lt (table64 byteOrder (wireBytes registers))
    rw [reordered, eight] at small
    refine ⟨.ofNat (beValue (table64 byteOrder (wireBytes registers))), trivial, ?_⟩
    rw [layout64, UInt64.toNat_ofNat_of_lt' small, ← eight, ← reordered, beBytes_beValue,
      table64_table64 byteOrder eight, registersOf_wireBytes]

/-! ## Decoding inverts the layout -/

/-- The registers decode to the raw number, whatever the scale and the offset. -/
def DecodesTo (registers : List UInt16) (dataType : DataType) (byteOrder : ByteOrder)
    (raw : Float) : Prop :=
  ∀ scale offset : Float,
    decode registers dataType byteOrder scale offset = .ok (raw, raw * scale + offset)

theorem decodesTo_rawOfRegisters {registers : List UInt16} {dataType : DataType}
    (enough : registersNeeded dataType ≤ registers.length) (byteOrder : ByteOrder) :
    DecodesTo registers dataType byteOrder (rawOfRegisters registers dataType byteOrder) := by
  intro scale offset
  rw [decode, if_neg (Nat.not_lt.mpr enough)]

/-- Decoding reads back every word that was laid out by the table, as the unsigned number, the two's
complement or the IEEE pattern that it is, and no two words are laid out alike. -/
theorem decode_layout (byteOrder : ByteOrder) :
    (∀ (word : UInt32) (rest : List UInt16),
      UInt32.ofNat (beValue (reorder32 (layout32 byteOrder word ++ rest) byteOrder)) = word ∧
      DecodesTo (layout32 byteOrder word ++ rest) .u32 byteOrder word.toFloat ∧
      DecodesTo (layout32 byteOrder word ++ rest) .i32 byteOrder
        (floatOfInt word.toInt32.toInt) ∧
      DecodesTo (layout32 byteOrder word ++ rest) .f32 byteOrder
        (Float32.ofBits word).toFloat) ∧
    (∀ (word : UInt64) (rest : List UInt16),
      UInt64.ofNat (beValue (reorder64 (layout64 byteOrder word ++ rest) byteOrder)) = word ∧
      DecodesTo (layout64 byteOrder word ++ rest) .u64 byteOrder word.toFloat ∧
      DecodesTo (layout64 byteOrder word ++ rest) .i64 byteOrder
        (floatOfInt word.toInt64.toInt) ∧
      DecodesTo (layout64 byteOrder word ++ rest) .f64 byteOrder (Float.ofBits word)) ∧
    Set.BijOn (layout32 byteOrder) Set.univ {registers | registers.length = 2} ∧
    Set.BijOn (layout64 byteOrder) Set.univ {registers | registers.length = 4} := by
  refine ⟨?_, ?_, bijOn_layout32 byteOrder, bijOn_layout64 byteOrder⟩
  · intro word rest
    have word_back := word_of_layout32 byteOrder word rest
    -- The registers of the word alone are enough; what follows them is not looked at.
    have enough : 2 ≤ (layout32 byteOrder word ++ rest).length := by
      rw [List.length_append, length_layout32]
      omega
    have reads : ∀ dataType, registersNeeded dataType = 2 →
        DecodesTo (layout32 byteOrder word ++ rest) dataType byteOrder
          (rawOfRegisters (layout32 byteOrder word ++ rest) dataType byteOrder) :=
      fun _ needed => decodesTo_rawOfRegisters (by rwa [needed]) byteOrder
    refine ⟨word_back, ?_, ?_, ?_⟩
    · simpa only [rawOfRegisters, word32, word_back] using reads .u32 rfl
    · simpa only [rawOfRegisters, word32, word_back] using reads .i32 rfl
    · simpa only [rawOfRegisters, word32, word_back] using reads .f32 rfl
  · intro word rest
    have word_back := word_of_layout64 byteOrder word rest
    have enough : 4 ≤ (layout64 byteOrder word ++ rest).length := by
      rw [List.length_append, length_layout64]
      omega
    have reads : ∀ dataType, registersNeeded dataType = 4 →
        DecodesTo (layout64 byteOrder word ++ rest) dataType byteOrder
          (rawOfRegisters (layout64 byteOrder word ++ rest) dataType byteOrder) :=
      fun _ needed => decodesTo_rawOfRegisters (by rwa [needed]) byteOrder
    refine ⟨word_back, ?_, ?_, ?_⟩
    · simpa only [rawOfRegisters, word64, word_back] using reads .u64 rfl
    · simpa only [rawOfRegisters, word64, word_back] using reads .i64 rfl
    · simpa only [rawOfRegisters, word64, word_back] using reads .f64 rfl

/-! ## Registers and bytes agree -/

/-- An error about registers, in bytes. -/
def DecodeError.inBytes : DecodeError → DecodeError
  | insufficientRegisters expected got => insufficientRegisters (2 * expected) (2 * got)

/-- The two byte orders of a byte device put a word's bytes forwards or backwards. -/
theorem orderedValue_eq (byteOrder : ByteOrder)
    (plain : byteOrder = .bigEndian ∨ byteOrder = .littleEndian) (bytes : List UInt8) :
    (bytes.length = 4 → orderedValue byteOrder bytes = beValue (table32 byteOrder bytes)) ∧
      (bytes.length = 8 → orderedValue byteOrder bytes = beValue (table64 byteOrder bytes)) := by
  constructor
  · intro four
    obtain ⟨a, b, c, d, rfl⟩ := exists_of_length_four four
    rcases plain with rfl | rfl <;> rfl
  · intro eight
    obtain ⟨a, b, c, d, e, f, g, h, rfl⟩ := exists_of_length_eight eight
    rcases plain with rfl | rfl <;> rfl

/-- The 32-bit pattern that registers hold is the one that their bytes hold. -/
theorem pattern32_agrees (byteOrder : ByteOrder)
    (plain : byteOrder = .bigEndian ∨ byteOrder = .littleEndian) (registers : List UInt16)
    (enough : 2 ≤ registers.length) :
    orderedValue byteOrder ((wireBytes registers).take 4) =
      beValue (reorder32 registers byteOrder) := by
  rw [reorder32_eq byteOrder registers enough]
  apply (orderedValue_eq byteOrder plain _).1
  rw [List.length_take, length_wireBytes]
  omega

/-- The 64-bit pattern that registers hold is the one that their bytes hold. -/
theorem pattern64_agrees (byteOrder : ByteOrder)
    (plain : byteOrder = .bigEndian ∨ byteOrder = .littleEndian) (registers : List UInt16)
    (enough : 4 ≤ registers.length) :
    orderedValue byteOrder ((wireBytes registers).take 8) =
      beValue (reorder64 registers byteOrder) := by
  rw [reorder64_eq byteOrder registers enough]
  apply (orderedValue_eq byteOrder plain _).2
  rw [List.length_take, length_wireBytes]
  omega

/-- The data types of more than one register. -/
def wideTypes : List DataType := [.u32, .i32, .f32, .u64, .i64, .f64]

theorem byteCount_wide {dataType : DataType} (wide : dataType ∈ wideTypes) :
    byteCount dataType = 2 * registersNeeded dataType := by
  simp only [wideTypes, List.mem_cons, List.not_mem_nil, or_false] at wide
  rcases wide with rfl | rfl | rfl | rfl | rfl | rfl <;> rfl

/-- Enough registers and their bytes denote the same raw number. -/
theorem rawOfBytes_wireBytes {dataType : DataType} (wide : dataType ∈ wideTypes)
    {byteOrder : ByteOrder} (plain : byteOrder = .bigEndian ∨ byteOrder = .littleEndian)
    (registers : List UInt16) (enough : registersNeeded dataType ≤ registers.length) :
    rawOfBytes (wireBytes registers) dataType byteOrder =
      rawOfRegisters registers dataType byteOrder := by
  -- The number depends on the bit pattern only.
  have narrow := pattern32_agrees byteOrder plain registers
  have full := pattern64_agrees byteOrder plain registers
  simp only [wideTypes, List.mem_cons, List.not_mem_nil, or_false] at wide
  rcases wide with rfl | rfl | rfl | rfl | rfl | rfl
  · rw [rawOfBytes, rawOfRegisters, narrow enough]
  · rw [rawOfBytes, rawOfRegisters, narrow enough]
  · rw [rawOfBytes, rawOfRegisters, narrow enough]
  · rw [rawOfBytes, rawOfRegisters, full enough]
  · rw [rawOfBytes, rawOfRegisters, full enough]
  · rw [rawOfBytes, rawOfRegisters, full enough]

/-- Registers and the bytes they are sent as decode to the same result: to the same values,
from the same bit pattern, or to the same shortage, counted in bytes. -/
theorem decodeBytes_wireBytes (registers : List UInt16) (dataType : DataType)
    (wide : dataType ∈ wideTypes) (byteOrder : ByteOrder)
    (plain : byteOrder = .bigEndian ∨ byteOrder = .littleEndian) (scale offset : Float) :
    decodeBytes (wireBytes registers) dataType byteOrder scale offset =
        (decode registers dataType byteOrder scale offset).mapError DecodeError.inBytes ∧
      (2 ≤ registers.length → orderedValue byteOrder ((wireBytes registers).take 4) =
        beValue (reorder32 registers byteOrder)) ∧
      (4 ≤ registers.length → orderedValue byteOrder ((wireBytes registers).take 8) =
        beValue (reorder64 registers byteOrder)) := by
  refine ⟨?_, pattern32_agrees byteOrder plain registers,
    pattern64_agrees byteOrder plain registers⟩
  rw [decodeBytes, decode, byteCount_wide wide, length_wireBytes]
  by_cases short : registers.length < registersNeeded dataType
  · have shortBytes : 2 * registers.length < 2 * registersNeeded dataType := by omega
    rw [if_pos short, if_pos shortBytes]
    rfl
  · have enoughBytes : ¬ 2 * registers.length < 2 * registersNeeded dataType := by omega
    rw [if_neg short, if_neg enoughBytes,
      rawOfBytes_wireBytes wide plain registers (Nat.le_of_not_lt short)]
    rfl

theorem decodeBytes_wireBytes_swapped :
    decodeBytes (wireBytes [0x3412, 0x7856]) .u32 .littleEndian 1.0 0.0 =
      (decode [0x3412, 0x7856] .u32 .littleEndian 1.0 0.0).mapError DecodeError.inBytes :=
  (decodeBytes_wireBytes [0x3412, 0x7856] .u32 (by decide) .littleEndian (by decide) 1.0 0.0).1

end BusExporter.Decoder
