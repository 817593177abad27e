import BusExporter.Exporter.Mqtt
import BusExporter.Reader.Decoder

/-!
# Integers in payloads

A 64-bit integer that a double holds exactly goes through decoding unchanged. An
integral payload is printed by way of `i64`, though, so that an unsigned integer
from `2 ^ 63` on is published as the greatest signed one.
-/

namespace BusExporter.Mqtt

open Foundation Decoder

/-- The integer in four registers, as the data type reads them. -/
def integerIn (dataType : Decoder.DataType) (byteOrder : Decoder.ByteOrder)
    (registers : List UInt16) : ℤ :=
  let word := UInt64.ofNat (beValue (reorder64 registers byteOrder))
  match dataType with
  | .i64 => word.toInt64.toInt
  | _ => word.toNat

/-- The payload of the value that registers are decoded to. -/
def payloadOf (registers : List UInt16) (dataType : Decoder.DataType)
    (byteOrder : Decoder.ByteOrder) (scale offset : Float) : Except DecodeError String :=
  (Decoder.decode registers dataType byteOrder scale offset).map fun (_, value) =>
    formatValue value

/-- A signed integer never leaves the range of `i64`. -/
theorem integerIn_i64_lt (byteOrder : Decoder.ByteOrder) (registers : List UInt16) :
    integerIn .i64 byteOrder registers < 2 ^ 63 :=
  Int64.toInt_lt _

theorem le_integerIn {dataType : Decoder.DataType} (byteOrder : Decoder.ByteOrder)
    (registers : List UInt16) (integer : dataType ∈ [.u64, .i64]) :
    -2 ^ 63 ≤ integerIn dataType byteOrder registers := by
  rcases List.mem_pair.mp integer with rfl | rfl
  · exact le_trans (by decide) (Int.natCast_nonneg _)
  · exact Int64.le_toInt _

/-- An integer's payload is the nearest integer that `i64` has. -/
theorem formatValue_floatOfInt {n : ℤ} (exact : ExactlyRepresentable n) :
    formatValue (floatOfInt n) = (max (-2 ^ 63) (min n (2 ^ 63 - 1))).repr := by
  rw [formatValue, fractIsZero_floatOfInt exact, isFinite_floatOfInt exact,
    asI64_floatOfInt exact]
  rfl

theorem payloadOf_integer {dataType : Decoder.DataType} (integer : dataType ∈ [.u64, .i64])
    (byteOrder : Decoder.ByteOrder) {registers : List UInt16} (four : registers.length = 4)
    (exact : ExactlyRepresentable (integerIn dataType byteOrder registers)) :
    payloadOf registers dataType byteOrder 1.0 0.0 =
      .ok (max (-2 ^ 63) (min (integerIn dataType byteOrder registers) (2 ^ 63 - 1))).repr := by
  have needed : registersNeeded dataType = 4 := by
    rcases List.mem_pair.mp integer with rfl | rfl <;> rfl
  have raw : rawOfRegisters registers dataType byteOrder =
      floatOfInt (integerIn dataType byteOrder registers) := by
    rcases List.mem_pair.mp integer with rfl | rfl <;> rfl
  have decoded : Decoder.decode registers dataType byteOrder 1.0 0.0 =
      .ok (floatOfInt (integerIn dataType byteOrder registers),
        floatOfInt (integerIn dataType byteOrder registers)) := by
    simp only [Decoder.decode, needed, four, lt_self_iff_false, if_false, raw,
      floatOfInt_mul_one exact, floatOfInt_add_zero exact]
  rw [payloadOf, decoded, ← formatValue_floatOfInt exact]
  rfl

/-- The payload of an integer reading is that integer if it is within the range of `i64`. -/
theorem payloadOf_eq_repr_iff {dataType : Decoder.DataType} (integer : dataType ∈ [.u64, .i64])
    (byteOrder : Decoder.ByteOrder) (r0 r1 r2 r3 : UInt16)
    (exact : ExactlyRepresentable (integerIn dataType byteOrder [r0, r1, r2, r3])) :
    payloadOf [r0, r1, r2, r3] dataType byteOrder 1.0 0.0 =
        .ok (integerIn dataType byteOrder [r0, r1, r2, r3]).repr ↔
      integerIn dataType byteOrder [r0, r1, r2, r3] < 2 ^ 63 := by
  have least := le_integerIn byteOrder [r0, r1, r2, r3] integer
  rw [payloadOf_integer integer byteOrder rfl exact, Except.ok.injEq, Int.repr_inj]
  omega

/-- A negative integer, and the greatest one with all of a double's digits. -/
theorem payloadOf_eq_repr_iff_examples :
    (integerIn .i64 .midBigEndian [0xFFFF, 0xFFFE, 0xFFFF, 0xFFFF] = -2 ∧
      payloadOf [0xFFFF, 0xFFFE, 0xFFFF, 0xFFFF] .i64 .midBigEndian 1.0 0.0 =
        .ok (integerIn .i64 .midBigEndian [0xFFFF, 0xFFFE, 0xFFFF, 0xFFFF]).repr) ∧
    integerIn .u64 .bigEndian [0x1F, 0xFFFF, 0xFFFF, 0xFFFF] = 2 ^ 53 - 1 ∧
      payloadOf [0x1F, 0xFFFF, 0xFFFF, 0xFFFF] .u64 .bigEndian 1.0 0.0 =
        .ok (integerIn .u64 .bigEndian [0x1F, 0xFFFF, 0xFFFF, 0xFFFF]).repr := by
  refine ⟨⟨by decide, ?_⟩, by decide, ?_⟩
  · exact (payloadOf_eq_repr_iff (by simp) .midBigEndian 0xFFFF 0xFFFE 0xFFFF 0xFFFF
      ⟨-1, 1, by decide, by decide, by decide⟩).mpr (by decide)
  · exact (payloadOf_eq_repr_iff (by simp) .bigEndian 0x1F 0xFFFF 0xFFFF 0xFFFF
      ⟨2 ^ 53 - 1, 0, by decide, by decide, by decide⟩).mpr (by decide)

/-- The least unsigned integer out of the range is published as the greatest signed one. -/
theorem payload_saturates :
    ExactlyRepresentable (integerIn .u64 .bigEndian [0x8000, 0, 0, 0]) ∧
      (integerIn .u64 .bigEndian [0x8000, 0, 0, 0]).repr = "9223372036854775808" ∧
      payloadOf [0x8000, 0, 0, 0] .u64 .bigEndian 1.0 0.0 = .ok "9223372036854775807" ∧
      payloadOf [0x8000, 0, 0, 0] .u64 .bigEndian 1.0 0.0 ≠
        .ok (integerIn .u64 .bigEndian [0x8000, 0, 0, 0]).repr := by
  have exact : ExactlyRepresentable (integerIn .u64 .bigEndian [0x8000, 0, 0, 0]) :=
    ⟨1, 63, by decide, by decide, by decide⟩
  refine ⟨exact, by decide, ?_⟩
  rw [payloadOf_integer (by simp) .bigEndian rfl exact]
  decide

end BusExporter.Mqtt
