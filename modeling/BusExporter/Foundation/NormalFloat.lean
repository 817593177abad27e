import BusExporter.Foundation.FloatText

/-!
# Integers as doubles

A normal double is a sign, a biased exponent and the fraction of its mantissa. An
integer that a double holds exactly is such a double or zero: converting it loses
nothing, multiplying by one and adding zero change nothing, and the double's
integral part is the integer again.
-/

namespace BusExporter.Foundation

open Float.Model Float.Model.UnpackedFloat

/-- `n as f64`. -/
def floatOfInt (n : ℤ) : Float := .ofModel (.ofInt n)

/-- A double holds the integer exactly. -/
def ExactlyRepresentable (n : ℤ) : Prop :=
  ∃ digits : ℤ, ∃ zeros : ℕ, digits.natAbs < 2 ^ 53 ∧ zeros ≤ 971 ∧ n = digits * 2 ^ zeros

/-- The parts of a normal double. -/
structure Normal where
  sign : Sign
  biased : ℕ
  fraction : ℕ
  biased_pos : 0 < biased
  biased_lt : biased < 2047
  fraction_lt : fraction < 2 ^ 52

namespace Normal

variable (x : Normal)

def mant : ℕ := 2 ^ 52 + x.fraction

def exp : ℤ := x.biased - 1075

theorem mant_pos : 0 < x.mant := by
  rw [mant]
  omega

/-- The mantissa fills its 53 digits. -/
theorem log2_mant : x.mant.log2 = 52 := by
  have small := x.fraction_lt
  rw [Nat.log2_eq_iff x.mant_pos.ne', mant]
  omega

def unpacked : UnpackedFloat := .finite x.sign x.mant x.exp x.mant_pos

def toFloat : Float := .ofModel (.pack x.unpacked)

/-! ## Bits -/

def bits : BitVec Format.binary64.numBits :=
  packComponents .binary64 x.sign (.ofNat _ x.biased) (.ofNat _ x.fraction)

theorem pack_unpacked : UnpackedFloat.pack .binary64 x.unpacked = x.bits := by
  have small := x.biased_lt
  have biased : (x.exp + Format.binary64.exponentBias +
      Format.binary64.mantissaBitsWithoutImplicit).toNat = x.biased := by
    change (x.exp + (1023 : ℕ) + (52 : ℕ)).toNat = _
    rw [exp]
    omega
  have fraction : BitVec.ofNat 52 x.mant = BitVec.ofNat 52 x.fraction := by
    rw [← BitVec.toNat_inj, BitVec.toNat_ofNat, BitVec.toNat_ofNat, mant, Nat.add_mod_left]
  have full : x.mant.log2 + 1 = Format.binary64.mantissaBits := by
    rw [log2_mant]
    rfl
  have finite : ¬ 2 ^ Format.binary64.exponentBits ≤ x.biased + 1 := by
    change ¬ 2 ^ 11 ≤ x.biased + 1
    omega
  simp only [unpacked, UnpackedFloat.pack, biased, if_neg finite, if_pos full]
  exact congrArg (packComponents .binary64 x.sign (.ofNat 11 x.biased)) fraction

theorem toNat_bits :
    x.bits.toNat = x.sign.toBitVec.toNat * 2 ^ 63 + x.biased * 2 ^ 52 + x.fraction := by
  have biased : (BitVec.ofNat 11 x.biased).toNat = x.biased :=
    (BitVec.toNat_ofNat ..).trans (Nat.mod_eq_of_lt (by have := x.biased_lt; omega))
  have fraction : (BitVec.ofNat 52 x.fraction).toNat = x.fraction :=
    (BitVec.toNat_ofNat ..).trans (Nat.mod_eq_of_lt x.fraction_lt)
  change (x.sign.toBitVec ++ BitVec.ofNat 11 x.biased ++ BitVec.ofNat 52 x.fraction).toNat = _
  -- Appended bits are added, since the ones above have only zeros below them.
  rw [BitVec.toNat_append, ← Nat.shiftLeft_add_eq_or_of_lt (BitVec.isLt _), BitVec.toNat_append,
    ← Nat.shiftLeft_add_eq_or_of_lt (BitVec.isLt _), biased, fraction]
  simp only [Nat.shiftLeft_eq]
  ring

theorem toBits_toFloat : x.toFloat.toBits.toNat = x.bits.toNat :=
  congrArg BitVec.toNat x.pack_unpacked

theorem sign_bits : Sign.ofBitVec (unpackSign x.bits) = x.sign := by
  have high : unpackSign x.bits = x.sign.toBitVec := by
    have lt := x.biased_lt
    have small := x.fraction_lt
    have bit := x.sign.toBitVec.isLt
    rw [← BitVec.toNat_inj, unpackSign, BitVec.toNat_cast, BitVec.extractLsb_toNat, toNat_bits,
      Nat.shiftRight_eq_div_pow]
    change (_ / 2 ^ (52 + 11)) % 2 ^ (52 + 11 - (52 + 11) + 1) = _
    omega
  rw [high]
  cases x.sign <;> rfl

theorem unpack_bits : UnpackedFloat.unpack .binary64 x.bits = x.unpacked := by
  have pos := x.biased_pos
  have lt := x.biased_lt
  have exponent : unpackExponent x.bits = BitVec.ofNat 11 x.biased := unpackExponent_packComponents
  have mantissa : unpackMantissa x.bits = BitVec.ofNat 52 x.fraction :=
    unpackMantissa_packComponents
  have biased : (BitVec.ofNat 11 x.biased).toNat = x.biased :=
    (BitVec.toNat_ofNat ..).trans (Nat.mod_eq_of_lt (by omega))
  have fraction : (BitVec.ofNat 52 x.fraction).toNat = x.fraction :=
    (BitVec.toNat_ofNat ..).trans (Nat.mod_eq_of_lt x.fraction_lt)
  have finite : BitVec.ofNat 11 x.biased ≠ -1#11 := by
    intro same
    have values := biased.symm.trans (congrArg BitVec.toNat same)
    rw [show (-1#11 : BitVec 11).toNat = 2047 from rfl] at values
    omega
  have nonzero : BitVec.ofNat 11 x.biased ≠ 0#11 := by
    intro same
    have values := biased.symm.trans (congrArg BitVec.toNat same)
    rw [show (0#11 : BitVec 11).toNat = 0 from rfl] at values
    omega
  have implicit : (1#1 ++ BitVec.ofNat 52 x.fraction).toNat = x.mant := by
    rw [BitVec.toNat_append, ← Nat.shiftLeft_add_eq_or_of_lt (BitVec.isLt _), fraction, mant]
    rfl
  have bias : (x.biased : ℤ) - (Format.binary64.exponentBias +
      Format.binary64.mantissaBitsWithoutImplicit) = x.exp := by
    change (x.biased : ℤ) - ((1023 : ℕ) + (52 : ℕ)) = _
    rw [exp]
    omega
  simp only [UnpackedFloat.unpack, exponent, mantissa, sign_bits]
  rw [if_neg finite, if_neg nonzero]
  simp only [unpacked, biased, implicit, bias]

/-- A normal double's parts are read back from it. -/
theorem unpack_toFloat : x.toFloat.toModel.unpack = x.unpacked := by
  refine Eq.trans ?_ x.unpack_bits
  exact congrArg (UnpackedFloat.unpack .binary64) x.pack_unpacked

/-! ## Rounding -/

/-- Zeros are shifted out without a trace. -/
theorem shiftRight_zeros (mant zeros : ℕ) :
    (⟨mant * 2 ^ zeros, false, false⟩ : ExtendedMantissa) >>> zeros = ⟨mant, false, false⟩ := by
  change Nat.repeat ExtendedMantissa.shiftRightOne zeros _ = _
  induction zeros generalizing mant with
  | zero => simp [Nat.repeat]
  | succ zeros ih =>
    rw [Nat.repeat, pow_succ', ← mul_assoc, ih (mant * 2)]
    simp [ExtendedMantissa.shiftRightOne]

theorem targetExponent_zeros (zeros : ℕ) :
    Format.binary64.targetExponent
      (Float.Model.totalExponent (x.mant * 2 ^ zeros) (x.exp - zeros)) = x.exp := by
  have pos := x.biased_pos
  have log2 : (x.mant * 2 ^ zeros).log2 = 52 + zeros := by
    have filled := x.log2_mant
    rw [Nat.log2_eq_iff x.mant_pos.ne'] at filled
    rw [Nat.log2_eq_iff (by have := x.mant_pos; positivity), pow_add, Nat.add_right_comm, pow_add]
    exact ⟨Nat.mul_le_mul_right _ filled.1, Nat.mul_lt_mul_of_pos_right filled.2 (by positivity)⟩
  change max (((x.mant * 2 ^ zeros).log2 : ℤ) + 1 + (x.exp - zeros) - (53 : ℕ)) (-1074) = _
  rw [log2, exp]
  omega

theorem shiftToTarget_zeros (zeros : ℕ) :
    shiftToTargetExponent .binary64 (x.mant * 2 ^ zeros) (x.exp - zeros) .exact =
      (⟨x.mant, false, false⟩, x.exp) := by
  have amount : (x.exp - (x.exp - zeros)).toNat = zeros := by omega
  rw [shiftToTargetExponent, targetExponent_zeros, shiftToExponent, amount, sub_add_cancel]
  exact congrArg (·, x.exp) (shiftRight_zeros x.mant zeros)

/-- Rounding drops zeros behind the mantissa, and nothing else. -/
theorem roundWithAccuracy_zeros (zeros : ℕ) :
    roundWithAccuracy .binary64 x.sign (x.mant * 2 ^ zeros) (x.exp - zeros) .exact =
      x.unpacked := by
  have again := x.shiftToTarget_zeros 0
  rw [pow_zero, mul_one, Nat.cast_zero, sub_zero] at again
  rw [roundWithAccuracy, shiftToTarget_zeros]
  change (let (final, exponent) := shiftToTargetExponent .binary64 x.mant x.exp .exact;
    if h : final.mantissa = 0 then UnpackedFloat.zero x.sign
    else .finite x.sign final.mantissa exponent (Nat.pos_of_ne_zero h)) = _
  rw [again]
  exact dif_neg x.mant_pos.ne'

/-! ## Arithmetic -/

theorem toFloat_mul_one : x.toFloat * 1.0 = x.toFloat := by
  have one : (1.0 : Float).toModel.unpack = .finite .positive (2 ^ 52) (-52) (by decide) := rfl
  have sign : x.sign * .positive = x.sign := by cases x.sign <;> rfl
  have product : UnpackedFloat.mul .binary64 x.toFloat.toModel.unpack
      (1.0 : Float).toModel.unpack = x.unpacked := by
    rw [unpack_toFloat, one, unpacked, UnpackedFloat.mul, sign]
    exact x.roundWithAccuracy_zeros 52
  exact congrArg (fun u => Float.ofModel (.pack u)) product

theorem toFloat_add_zero : x.toFloat + 0.0 = x.toFloat := by
  have zero : (0.0 : Float).toModel.unpack = .zero .positive := rfl
  have sum : UnpackedFloat.add .binary64 x.toFloat.toModel.unpack
      (0.0 : Float).toModel.unpack = x.unpacked := by
    rw [unpack_toFloat, zero]
    rfl
  exact congrArg (fun u => Float.ofModel (.pack u)) sum

/-! ## Decoding -/

theorem biasedExponent_toFloat : biasedExponent x.toFloat = x.biased := by
  have lt := x.biased_lt
  have small := x.fraction_lt
  rw [biasedExponent, toBits_toFloat, toNat_bits]
  omega

theorem fraction_toFloat : Foundation.fraction x.toFloat = x.fraction := by
  have small := x.fraction_lt
  rw [Foundation.fraction, toBits_toFloat, toNat_bits]
  omega

theorem isNegative_toFloat : isNegative x.toFloat = (x.sign == .negative) := by
  have lt := x.biased_lt
  have small := x.fraction_lt
  have sign : x.bits.toNat / 2 ^ 63 = x.sign.toBitVec.toNat := by
    rw [toNat_bits]
    omega
  rw [isNegative, toBits_toFloat, sign]
  cases x.sign <;> rfl

/-- The double is the natural number, up to its sign. -/
def Holds (n : ℕ) : Prop := x.mant * 2 ^ x.exp.toNat = n * 2 ^ (-x.exp).toNat

/-- Decoding takes the double in smaller units, which keeps what number it is. -/
theorem decode_toFloat {n : ℕ} (holds : x.Holds n) :
    ∃ d, decode x.toFloat = .finite d ∧ d.mant * 2 ^ d.exp.toNat = n * 2 ^ (-d.exp).toNat := by
  have pos := x.biased_pos
  have lt := x.biased_lt
  have finer : ∀ k : ℕ, 2 ^ k * x.mant * 2 ^ (x.exp - k).toNat = n * 2 ^ (-(x.exp - k)).toNat := by
    intro k
    have exponents : k + (x.exp - k).toNat + (-x.exp).toNat =
        x.exp.toNat + (-(x.exp - k)).toNat := by omega
    refine Nat.eq_of_mul_eq_mul_right (Nat.two_pow_pos (-x.exp).toNat) ?_
    calc 2 ^ k * x.mant * 2 ^ (x.exp - k).toNat * 2 ^ (-x.exp).toNat
        = x.mant * 2 ^ (k + (x.exp - k).toNat + (-x.exp).toNat) := by
          rw [pow_add, pow_add]
          ring
      _ = x.mant * 2 ^ x.exp.toNat * 2 ^ (-(x.exp - k)).toNat := by
          rw [exponents, pow_add, mul_assoc]
      _ = n * 2 ^ (-(x.exp - k)).toNat * 2 ^ (-x.exp).toNat := by
          rw [holds]
          ring
  unfold decode
  rw [biasedExponent_toFloat, fraction_toFloat, if_neg (by omega), if_neg (by omega)]
  split
  · exact ⟨_, rfl, finer 2⟩
  · exact ⟨_, rfl, finer 1⟩

end Normal

/-! ## Conversion -/

/-- The number's 53 digits from the first one on, where it has no others. -/
theorem exists_mantissa {m digits zeros : ℕ} (ne : m ≠ 0) (few : digits < 2 ^ 53)
    (eq : m = digits * 2 ^ zeros) :
    ∃ mant, 2 ^ 52 ≤ mant ∧ mant < 2 ^ 53 ∧ m * 2 ^ (52 - m.log2) = mant * 2 ^ (m.log2 - 52) := by
  obtain ⟨low, high⟩ := (Nat.log2_eq_iff ne).mp rfl
  rcases le_or_gt m.log2 52 with short | long
  · have filled : m.log2 + (52 - m.log2) = 52 := by omega
    refine ⟨m * 2 ^ (52 - m.log2), ?_, ?_, ?_⟩
    · calc 2 ^ 52 = 2 ^ m.log2 * 2 ^ (52 - m.log2) := by rw [← pow_add, filled]
        _ ≤ m * 2 ^ (52 - m.log2) := Nat.mul_le_mul_right _ low
    · calc m * 2 ^ (52 - m.log2) < 2 ^ (m.log2 + 1) * 2 ^ (52 - m.log2) :=
          Nat.mul_lt_mul_of_pos_right high (by positivity)
        _ = 2 ^ 53 := by rw [← pow_add, Nat.add_right_comm, filled]
    · rw [Nat.sub_eq_zero_of_le short, pow_zero, mul_one]
  · -- The zeros at the end are at least as many as the digits too many.
    have enough : m.log2 - 52 ≤ zeros := by
      have bounds : 2 ^ m.log2 < 2 ^ (53 + zeros) :=
        calc 2 ^ m.log2 ≤ digits * 2 ^ zeros := eq ▸ low
          _ < 2 ^ 53 * 2 ^ zeros := Nat.mul_lt_mul_of_pos_right few (by positivity)
          _ = 2 ^ (53 + zeros) := (pow_add ..).symm
      have := (Nat.pow_lt_pow_iff_right (by decide)).mp bounds
      omega
    obtain ⟨mant, split⟩ : 2 ^ (m.log2 - 52) ∣ m :=
      eq ▸ Dvd.dvd.mul_left (pow_dvd_pow 2 enough) digits
    have shifted : m.log2 - 52 + 52 = m.log2 := by omega
    have positive : 0 < 2 ^ (m.log2 - 52) := by positivity
    refine ⟨mant, ?_, ?_, ?_⟩
    · refine Nat.le_of_mul_le_mul_left ?_ positive
      rw [← pow_add, shifted, ← split]
      exact low
    · refine Nat.lt_of_mul_lt_mul_left (a := 2 ^ (m.log2 - 52)) ?_
      rw [← pow_add, ← split]
      calc m < 2 ^ (m.log2 + 1) := high
        _ = 2 ^ (m.log2 - 52 + 53) := by congr 1; omega
    · rw [Nat.sub_eq_zero_of_le long.le, pow_zero, mul_one, mul_comm]
      exact split

/-- A number that fits is rounded to itself. -/
theorem round_exact (sign : Sign) {m digits zeros : ℕ} (ne : m ≠ 0) (few : digits < 2 ^ 53)
    (bound : zeros ≤ 971) (eq : m = digits * 2 ^ zeros) :
    ∃ x : Normal, x.sign = sign ∧ x.Holds m ∧
      UnpackedFloat.round .binary64 sign m 0 = x.unpacked := by
  obtain ⟨mant, low, high, mantissa⟩ := exists_mantissa ne few eq
  have log2 : m.log2 < 53 + zeros := by
    rw [Nat.log2_lt ne, pow_add, eq]
    exact Nat.mul_lt_mul_of_pos_right few (by positivity)
  let x : Normal := ⟨sign, m.log2 + 1023, mant - 2 ^ 52, by omega, by omega, by omega⟩
  have mant_eq : x.mant = mant := by
    change 2 ^ 52 + (mant - 2 ^ 52) = mant
    omega
  have exp_eq : x.exp = m.log2 - 52 := by
    change ((m.log2 + 1023 : ℕ) : ℤ) - 1075 = _
    omega
  refine ⟨x, rfl, ?_, ?_⟩
  · rw [Normal.Holds, mant_eq, exp_eq, show ((m.log2 : ℤ) - 52).toNat = m.log2 - 52 by omega,
      show (-((m.log2 : ℤ) - 52)).toNat = 52 - m.log2 by omega]
    exact mantissa.symm
  · have target : Format.binary64.targetExponent (Float.Model.totalExponent m 0) = x.exp := by
      change max ((m.log2 : ℤ) + 1 + 0 - (53 : ℕ)) (-1074) = _
      omega
    have amount : ((0 : ℤ) - x.exp).toNat = 52 - m.log2 := by omega
    have start : (0 : ℤ) - (52 - m.log2 : ℕ) = x.exp - (m.log2 - 52 : ℕ) := by omega
    rw [UnpackedFloat.round, target, decreaseExponent, amount, Nat.shiftLeft_eq, mantissa,
      ← mant_eq]
    change roundWithAccuracy _ x.sign _ (0 - ((52 - m.log2 : ℕ) : ℤ)) _ = _
    rw [start]
    exact x.roundWithAccuracy_zeros _

/-- An integer that fits and is not zero is converted to the normal double that holds it. -/
theorem floatOfInt_exact {n : ℤ} (ne : n ≠ 0) (exact : ExactlyRepresentable n) :
    ∃ x : Normal, floatOfInt n = x.toFloat ∧ x.Holds n.natAbs ∧
      (x.sign == .negative) = decide (n < 0) := by
  obtain ⟨digits, zeros, few, bound, eq⟩ := exact
  have size : n.natAbs = digits.natAbs * 2 ^ zeros := by
    rw [eq, Int.natAbs_mul, Int.natAbs_pow]
    rfl
  rcases lt_or_gt_of_ne ne with negative | positive
  · obtain ⟨x, sign, holds, rounded⟩ :=
      round_exact .negative (Int.natAbs_ne_zero.mpr ne) few bound size
    refine ⟨x, ?_, holds, by rw [sign, decide_eq_true negative]; rfl⟩
    have order : compare n 0 = .lt := compare_lt_iff_lt.mpr negative
    rw [floatOfInt, Float.Model.ofInt, UnpackedFloat.ofInt, UnpackedFloat.normalize, order,
      Normal.toFloat, ← rounded, show (-n).toNat = n.natAbs by omega]
  · obtain ⟨x, sign, holds, rounded⟩ :=
      round_exact .positive (Int.natAbs_ne_zero.mpr ne) few bound size
    refine ⟨x, ?_, holds, by rw [sign, decide_eq_false (by omega)]; rfl⟩
    have order : compare n 0 = .gt := compare_gt_iff_gt.mpr positive
    rw [floatOfInt, Float.Model.ofInt, UnpackedFloat.ofInt, UnpackedFloat.normalize, order,
      Normal.toFloat, ← rounded, show n.toNat = n.natAbs by omega]

theorem Decoded.isWhole_of_eq {d : Decoded} {n : ℕ}
    (holds : d.mant * 2 ^ d.exp.toNat = n * 2 ^ (-d.exp).toNat) : d.isWhole := by
  rw [isWhole, decide_eq_true_iff]
  rcases le_total 0 d.exp with nonneg | nonpos
  · rw [Int.toNat_of_nonpos (by omega), pow_zero, Nat.mod_one]
  · rw [Int.toNat_of_nonpos nonpos, pow_zero, mul_one] at holds
    rw [holds, Nat.mul_mod_left]

theorem Decoded.trunc_of_eq {d : Decoded} {n : ℕ}
    (holds : d.mant * 2 ^ d.exp.toNat = n * 2 ^ (-d.exp).toNat) : d.trunc = n := by
  rw [trunc, holds, Nat.mul_div_cancel _ (by positivity)]

/-! ## Integers that fit -/

section

variable {n : ℤ} (exact : ExactlyRepresentable n)
include exact

theorem floatOfInt_mul_one : floatOfInt n * 1.0 = floatOfInt n := by
  rcases eq_or_ne n 0 with rfl | ne
  · rfl
  · obtain ⟨x, eq, -⟩ := floatOfInt_exact ne exact
    rw [eq, x.toFloat_mul_one]

theorem floatOfInt_add_zero : floatOfInt n + 0.0 = floatOfInt n := by
  rcases eq_or_ne n 0 with rfl | ne
  · rfl
  · obtain ⟨x, eq, -⟩ := floatOfInt_exact ne exact
    rw [eq, x.toFloat_add_zero]

theorem fractIsZero_floatOfInt : fractIsZero (floatOfInt n) = true := by
  rcases eq_or_ne n 0 with rfl | ne
  · rfl
  · obtain ⟨x, eq, holds, -⟩ := floatOfInt_exact ne exact
    obtain ⟨d, decoded, number⟩ := x.decode_toFloat holds
    rw [fractIsZero, eq, decoded]
    exact Decoded.isWhole_of_eq number

theorem isFinite_floatOfInt : isFinite (floatOfInt n) = true := by
  rcases eq_or_ne n 0 with rfl | ne
  · rfl
  · obtain ⟨x, eq, holds, -⟩ := floatOfInt_exact ne exact
    obtain ⟨d, decoded, -⟩ := x.decode_toFloat holds
    rw [isFinite, eq, decoded]

/-- Converting there and back stops at the ends of `i64`. -/
theorem asI64_floatOfInt : asI64 (floatOfInt n) = max (-2 ^ 63) (min n (2 ^ 63 - 1)) := by
  rcases eq_or_ne n 0 with rfl | ne
  · rfl
  · obtain ⟨x, eq, holds, sign⟩ := floatOfInt_exact ne exact
    obtain ⟨d, decoded, number⟩ := x.decode_toFloat holds
    rw [asI64, eq, decoded, x.isNegative_toFloat, sign]
    simp only [Decoded.trunc_of_eq number, decide_eq_true_eq]
    split <;> omega

end

end BusExporter.Foundation
