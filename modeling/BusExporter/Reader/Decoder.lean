import BusExporter.Config.Basic
import BusExporter.Foundation.NormalFloat

/-!
# Decoding

Registers and raw bytes to metric values. A value is decoded to its raw number
and to the scaled one. Floating-point arithmetic is the IEEE arithmetic of
`Float`, which evaluates.
-/

namespace BusExporter.Decoder

open Foundation

inductive ByteOrder where
  | bigEndian
  | littleEndian
  | midBigEndian
  | midLittleEndian
  deriving DecidableEq, Repr

inductive DataType where
  | u8
  | u16
  | i16
  | u32
  | i32
  | f32
  | u64
  | i64
  | f64
  | bool
  deriving DecidableEq, Repr

inductive DecodeError where
  | insufficientRegisters (expected got : ℕ)
  deriving DecidableEq, Repr

def DecodeError.display : DecodeError → String
  | insufficientRegisters expected got =>
    s!"insufficient registers: expected {expected}, got {got}"

/-- The number of registers a data type needs. -/
def registersNeeded : DataType → ℕ
  | .u8 | .u16 | .i16 | .bool => 1
  | .u32 | .i32 | .f32 => 2
  | .u64 | .i64 | .f64 => 4

/-- The number of raw bytes a data type needs. -/
def byteCount : DataType → ℕ
  | .bool | .u8 => 1
  | .u16 | .i16 => 2
  | .u32 | .i32 | .f32 => 4
  | .u64 | .i64 | .f64 => 8

/-! ## Words -/

/-- A 32-bit word's number, as the data type reads it. -/
def word32 (dataType : DataType) (word : UInt32) : Float :=
  match dataType with
  | .i32 => floatOfInt word.toInt32.toInt
  | .f32 => (Float32.ofBits word).toFloat
  | _ => word.toFloat

/-- A 64-bit word's number, as the data type reads it. -/
def word64 (dataType : DataType) (word : UInt64) : Float :=
  match dataType with
  | .i64 => floatOfInt word.toInt64.toInt
  | .f64 => Float.ofBits word
  | _ => word.toFloat

/-- The bytes of two registers in the order of a big-endian word. -/
def reorder32 (regs : List UInt16) (byteOrder : ByteOrder) : List UInt8 :=
  let r0 := (regs.getD 0 0).toBeBytes
  let r1 := (regs.getD 1 0).toBeBytes
  match byteOrder with
  | .bigEndian => r0 ++ r1
  | .littleEndian => r1.reverse ++ r0.reverse
  | .midBigEndian => r1 ++ r0
  | .midLittleEndian => r0.reverse ++ r1.reverse

/-- The bytes of four registers in the order of a big-endian word. -/
def reorder64 (regs : List UInt16) (byteOrder : ByteOrder) : List UInt8 :=
  let r0 := (regs.getD 0 0).toBeBytes
  let r1 := (regs.getD 1 0).toBeBytes
  let r2 := (regs.getD 2 0).toBeBytes
  let r3 := (regs.getD 3 0).toBeBytes
  match byteOrder with
  | .bigEndian => r0 ++ r1 ++ r2 ++ r3
  | .littleEndian => r3.reverse ++ r2.reverse ++ r1.reverse ++ r0.reverse
  | .midBigEndian => r2 ++ r3 ++ r0 ++ r1
  | .midLittleEndian => r0.reverse ++ r1.reverse ++ r2.reverse ++ r3.reverse

/-- `from_be_bytes` or `from_le_bytes`, as the byte order asks. -/
def orderedValue (byteOrder : ByteOrder) (bytes : List UInt8) : ℕ :=
  match byteOrder with
  | .bigEndian | .midBigEndian => beValue bytes
  | .littleEndian | .midLittleEndian => leValue bytes

/-! ## Decoding -/

/-- The raw number in enough registers. -/
def rawOfRegisters (registers : List UInt16) (dataType : DataType) (byteOrder : ByteOrder) :
    Float :=
  let first := registers.getD 0 0
  match dataType with
  | .bool => if first ≠ 0 then 1.0 else 0.0
  | .u8 => first.toUInt8.toFloat
  | .u16 => first.toFloat
  | .i16 => floatOfInt first.toInt16.toInt
  | .u32 | .i32 | .f32 => word32 dataType (.ofNat (beValue (reorder32 registers byteOrder)))
  | .u64 | .i64 | .f64 => word64 dataType (.ofNat (beValue (reorder64 registers byteOrder)))

/-- Decode registers into a raw and a scaled value. -/
def decode (registers : List UInt16) (dataType : DataType) (byteOrder : ByteOrder)
    (scale offset : Float) : Except DecodeError (Float × Float) :=
  let needed := registersNeeded dataType
  if registers.length < needed then
    .error (.insufficientRegisters needed registers.length)
  else
    let raw := rawOfRegisters registers dataType byteOrder
    .ok (raw, raw * scale + offset)

/-- The raw number in enough bytes. -/
def rawOfBytes (bytes : List UInt8) (dataType : DataType) (byteOrder : ByteOrder) : Float :=
  let first := bytes.getD 0 0
  match dataType with
  | .bool => if first &&& 0x01 ≠ 0 then 1.0 else 0.0
  | .u8 => first.toFloat
  | .u16 => (UInt16.ofNat (orderedValue byteOrder (bytes.take 2))).toFloat
  | .i16 => floatOfInt (UInt16.ofNat (orderedValue byteOrder (bytes.take 2))).toInt16.toInt
  | .u32 | .i32 | .f32 => word32 dataType (.ofNat (orderedValue byteOrder (bytes.take 4)))
  | .u64 | .i64 | .f64 => word64 dataType (.ofNat (orderedValue byteOrder (bytes.take 8)))

/-- Decode raw bytes into a raw and a scaled value. -/
def decodeBytes (bytes : List UInt8) (dataType : DataType) (byteOrder : ByteOrder)
    (scale offset : Float) : Except DecodeError (Float × Float) :=
  let needed := byteCount dataType
  if bytes.length < needed then
    .error (.insufficientRegisters needed bytes.length)
  else
    let raw := rawOfBytes bytes dataType byteOrder
    .ok (raw, raw * scale + offset)

/-! ## From the configuration -/

def mapByteOrder : BusExporter.ByteOrder → ByteOrder
  | .bigEndian => .bigEndian
  | .littleEndian => .littleEndian
  | .midBigEndian => .midBigEndian
  | .midLittleEndian => .midLittleEndian

def mapDataType : BusExporter.DataType → DataType
  | .u8 => .u8
  | .u16 => .u16
  | .i16 => .i16
  | .u32 => .u32
  | .i32 => .i32
  | .f32 => .f32
  | .u64 => .u64
  | .i64 => .i64
  | .f64 => .f64
  | .bool => .bool

/-- The configuration and the decoder agree on how many registers a data type needs. -/
@[simp]
theorem registersNeeded_mapDataType (dataType : BusExporter.DataType) :
    registersNeeded (mapDataType dataType) = dataType.registerCount.toNat := by
  cases dataType <;> rfl

/-- The configuration and the decoder agree on how many bytes a data type needs. -/
@[simp]
theorem byteCount_mapDataType (dataType : BusExporter.DataType) :
    byteCount (mapDataType dataType) = dataType.byteSize := by
  cases dataType <;> rfl

/-- Decode with a metric's own data type, byte order, scale and offset. -/
def decodeFor (metric : MetricConfig) (registers : List UInt16) : Except Error (Float × Float) :=
  (decode registers (mapDataType metric.dataType) (mapByteOrder metric.byteOrder) metric.scale
    metric.offset).mapError fun e => .msg e.display

/-- Decode raw bytes with a metric's own data type, byte order, scale and offset. -/
def decodeBytesFor (metric : MetricConfig) (bytes : List UInt8) : Except Error (Float × Float) :=
  (decodeBytes bytes (mapDataType metric.dataType) (mapByteOrder metric.byteOrder) metric.scale
    metric.offset).mapError fun e => .msg e.display

/-- As many registers as the data type needs are always decoded. -/
theorem decodeFor_isOk (metric : MetricConfig) (registers : List UInt16)
    (enough : metric.dataType.registerCount.toNat ≤ registers.length) :
    ∃ value, decodeFor metric registers = .ok value := by
  unfold decodeFor decode
  simp only [registersNeeded_mapDataType, if_neg (Nat.not_lt.mpr enough)]
  exact ⟨_, rfl⟩

/-- As many bytes as the data type needs are always decoded. -/
theorem decodeBytesFor_isOk (metric : MetricConfig) (bytes : List UInt8)
    (enough : metric.dataType.byteSize ≤ bytes.length) :
    ∃ value, decodeBytesFor metric bytes = .ok value := by
  unfold decodeBytesFor decodeBytes
  simp only [byteCount_mapDataType, if_neg (Nat.not_lt.mpr enough)]
  exact ⟨_, rfl⟩

end BusExporter.Decoder
