import BusExporter.Foundation.Checks

/-!
# Machine words

Saturating 16-bit arithmetic and big- and little-endian byte strings. Every
operation comes with its value as a natural number, where `omega` can use it.
-/

namespace UInt16

/-- Addition that stops at the largest value. -/
def saturatingAdd (a b : UInt16) : UInt16 :=
  if a.toNat + b.toNat < 65536 then a + b else 65535

@[simp]
theorem toNat_saturatingAdd (a b : UInt16) :
    (a.saturatingAdd b).toNat = min (a.toNat + b.toNat) 65535 := by
  unfold saturatingAdd
  split
  · rename_i fits
    rw [UInt16.toNat_add, Nat.mod_eq_of_lt fits]
    omega
  · rename_i overflows
    simp
    omega

/-- Subtraction that stops at zero. -/
def saturatingSub (a b : UInt16) : UInt16 :=
  if b ≤ a then a - b else 0

@[simp]
theorem toNat_saturatingSub (a b : UInt16) :
    (a.saturatingSub b).toNat = a.toNat - b.toNat := by
  unfold saturatingSub
  split
  · rename_i ordered
    exact UInt16.toNat_sub_of_le _ _ ordered
  · rename_i reversed
    rw [UInt16.le_iff_toNat_le] at reversed
    simp
    omega

/-- The bytes of a word, most significant first. -/
def toBeBytes (w : UInt16) : List UInt8 :=
  [(w >>> 8).toUInt8, w.toUInt8]

/-- The word with the given bytes. -/
def ofBeBytes (high low : UInt8) : UInt16 := .ofNat (high.toNat * 256 + low.toNat)

@[simp]
theorem toBeBytes_ofBeBytes (high low : UInt8) :
    (ofBeBytes high low).toBeBytes = [high, low] := by
  have := high.toNat_lt
  have := low.toNat_lt
  simp only [toBeBytes, ofBeBytes, List.cons.injEq, and_true, ← UInt8.toNat_inj]
  simp [Nat.shiftRight_eq_div_pow]
  omega

@[simp]
theorem ofBeBytes_toBeBytes (w : UInt16) : ofBeBytes (w >>> 8).toUInt8 w.toUInt8 = w := by
  have := w.toNat_lt
  rw [← UInt16.toNat_inj]
  simp [ofBeBytes, Nat.shiftRight_eq_div_pow]
  omega

end UInt16

namespace BusExporter.Foundation

/-! ## Byte strings -/

/-- The number a byte string denotes, most significant byte first. -/
def beValue (bytes : List UInt8) : Nat :=
  bytes.foldl (fun value byte => value * 256 + byte.toNat) 0

/-- The number a byte string denotes, least significant byte first. -/
def leValue (bytes : List UInt8) : Nat :=
  beValue bytes.reverse

/-- The last bytes of a number, most significant byte first. -/
def beBytes : Nat → Nat → List UInt8
  | 0, _ => []
  | length + 1, value => beBytes length (value / 256) ++ [UInt8.ofNat value]

@[simp]
theorem beValue_snoc (bytes : List UInt8) (byte : UInt8) :
    beValue (bytes ++ [byte]) = beValue bytes * 256 + byte.toNat := by
  simp [beValue]

@[simp]
theorem length_beBytes (length value : Nat) : (beBytes length value).length = length := by
  induction length generalizing value with
  | zero => rfl
  | succ length ih => simp [beBytes, ih]

/-- A byte string is shorter than the power of its length. -/
theorem beValue_lt (bytes : List UInt8) : beValue bytes < 256 ^ bytes.length := by
  induction bytes using List.reverseRecOn with
  | nil => exact Nat.one_pos
  | append_singleton bytes byte ih =>
    have := byte.toNat_lt
    rw [beValue_snoc, List.length_append, List.length_singleton, Nat.pow_succ]
    omega

theorem beValue_beBytes (length value : Nat) :
    beValue (beBytes length value) = value % 256 ^ length := by
  induction length generalizing value with
  | zero => simp [beBytes, beValue, Nat.mod_one]
  | succ length ih =>
    rw [beBytes, beValue_snoc, ih, Nat.pow_succ', Nat.mod_mul, UInt8.toNat_ofNat']
    omega

@[simp]
theorem beBytes_beValue (bytes : List UInt8) : beBytes bytes.length (beValue bytes) = bytes := by
  induction bytes using List.reverseRecOn with
  | nil => rfl
  | append_singleton bytes byte ih =>
    have := byte.toNat_lt
    have front : (beValue bytes * 256 + byte.toNat) / 256 = beValue bytes := by omega
    have back : UInt8.ofNat (beValue bytes * 256 + byte.toNat) = byte := by
      rw [← UInt8.toNat_inj, UInt8.toNat_ofNat']
      omega
    rw [List.length_append, List.length_singleton, beBytes, beValue_snoc, front, back, ih]

end BusExporter.Foundation
