import BusExporter.Foundation.Text

/-!
# Hexadecimal numbers

Spellings of a number in base 16. Digits of either case have a value, and lower-case
digits are determined by their number and their value. Printing a number uses
lower-case digits and no leading zeros.
-/

namespace BusExporter.Foundation

/-! ## Digits -/

def IsLowerHexDigit (c : Char) : Prop := ('0' ≤ c ∧ c ≤ '9') ∨ ('a' ≤ c ∧ c ≤ 'f')

/-- A hexadecimal digit of either case. -/
def IsHexDigit (c : Char) : Prop := IsLowerHexDigit c ∨ ('A' ≤ c ∧ c ≤ 'F')

instance (c : Char) : Decidable (IsLowerHexDigit c) :=
  inferInstanceAs (Decidable (('0' ≤ c ∧ c ≤ '9') ∨ ('a' ≤ c ∧ c ≤ 'f')))

instance (c : Char) : Decidable (IsHexDigit c) :=
  inferInstanceAs (Decidable (IsLowerHexDigit c ∨ ('A' ≤ c ∧ c ≤ 'F')))

theorem Char.le_iff_toNat_le (c d : Char) : c ≤ d ↔ c.toNat ≤ d.toNat := UInt32.le_iff_toNat_le

theorem isLowerHexDigit_iff (c : Char) : IsLowerHexDigit c ↔
    (48 ≤ c.toNat ∧ c.toNat ≤ 57) ∨ (97 ≤ c.toNat ∧ c.toNat ≤ 102) := by
  unfold IsLowerHexDigit
  simp only [Char.le_iff_toNat_le]
  exact .rfl

theorem isHexDigit_iff (c : Char) : IsHexDigit c ↔
    (48 ≤ c.toNat ∧ c.toNat ≤ 57) ∨ (97 ≤ c.toNat ∧ c.toNat ≤ 102) ∨
      (65 ≤ c.toNat ∧ c.toNat ≤ 70) := by
  unfold IsHexDigit
  rw [isLowerHexDigit_iff, or_assoc, Char.le_iff_toNat_le, Char.le_iff_toNat_le]
  exact .rfl

/-- The value of a hexadecimal digit by its code point. -/
theorem digitValue_sixteen (c : Char) : digitValue 16 c =
    if 48 ≤ c.toNat ∧ c.toNat ≤ 57 then some (c.toNat - 48)
    else if 97 ≤ c.toNat ∧ c.toNat ≤ 102 then some (c.toNat - 87)
    else if 65 ≤ c.toNat ∧ c.toNat ≤ 70 then some (c.toNat - 55)
    else none := by
  have zero : '0'.toNat = 48 := rfl
  have nine : '9'.toNat = 57 := rfl
  have a : 'a'.toNat = 97 := rfl
  have z : 'z'.toNat = 122 := rfl
  have A : 'A'.toNat = 65 := rfl
  have Z : 'Z'.toNat = 90 := rfl
  unfold digitValue
  simp only [Char.le_iff_toNat_le, zero, nine, a, z, A, Z]
  split_ifs <;> simp [Option.filter] <;> omega

theorem digitValue_isSome_iff (c : Char) : (digitValue 16 c).isSome ↔ IsHexDigit c := by
  rw [digitValue_sixteen, isHexDigit_iff]
  split_ifs <;> simp <;> omega

theorem IsHexDigit.utf8Size {c : Char} (digit : IsHexDigit c) : c.utf8Size = 1 := by
  rw [isHexDigit_iff] at digit
  have ascii : c.toNat ≤ 127 := by omega
  exact Char.utf8Size_eq_one_iff.mpr (UInt32.le_iff_toNat_le.mpr ascii)

theorem utf8Length_of_isHexDigit {digits : List Char} (hex : ∀ c ∈ digits, IsHexDigit c) :
    utf8Length digits = digits.length := by
  unfold utf8Length
  rw [List.map_congr_left fun c mem => (hex c mem).utf8Size]
  simp

/-- The value of a digit is less than the radix. -/
theorem lt_of_digitValue {radix value : Nat} {c : Char}
    (valued : digitValue radix c = some value) : value < radix := by
  unfold digitValue at valued
  simpa using (Option.filter_eq_some_iff.mp valued).2

/-! ## Values -/

theorem digitsValue_concat (radix : Nat) (digits : List Char) (c : Char) :
    digitsValue radix (digits ++ [c]) =
      (digitsValue radix digits).bind fun value =>
        (digitValue radix c).map (value * radix + ·) := by
  unfold digitsValue
  rw [List.foldlM_append]
  simp [bind]

theorem digitsValue_isSome_iff (digits : List Char) :
    (digitsValue 16 digits).isSome ↔ ∀ c ∈ digits, IsHexDigit c := by
  induction digits using List.reverseRecOn with
  | nil => simp [digitsValue]
  | append_singleton digits c ih =>
    rw [digitsValue_concat, List.forall_mem_append, ← ih, List.forall_mem_singleton,
      ← digitValue_isSome_iff]
    cases digitsValue 16 digits <;> simp

theorem digitsValue_lt {digits : List Char} {value : Nat}
    (valued : digitsValue 16 digits = some value) : value < 16 ^ digits.length := by
  induction digits using List.reverseRecOn generalizing value with
  | nil =>
    obtain rfl : 0 = value := by simpa [digitsValue] using valued
    simp
  | append_singleton digits c ih =>
    rw [digitsValue_concat, Option.bind_eq_some_iff] at valued
    obtain ⟨before, ofDigits, rest⟩ := valued
    obtain ⟨last, ofLast, rfl⟩ := Option.map_eq_some_iff.mp rest
    have bound := ih ofDigits
    have small := lt_of_digitValue ofLast
    rw [List.length_append, List.length_singleton, Nat.pow_succ]
    omega

/-- A lower-case digit is determined by its value. -/
theorem eq_of_digitValue_eq {c d : Char} (lower : IsLowerHexDigit c) (lower' : IsLowerHexDigit d)
    (same : digitValue 16 c = digitValue 16 d) : c = d := by
  rw [isLowerHexDigit_iff] at lower lower'
  rw [digitValue_sixteen, digitValue_sixteen] at same
  apply Char.ext
  apply UInt32.toNat_inj.mp
  show c.toNat = d.toNat
  split_ifs at same <;> simp at same <;> omega

/-- Lower-case digits are determined by their number and their value. -/
theorem eq_of_digitsValue_eq {digits digits' : List Char}
    (lower : ∀ c ∈ digits, IsLowerHexDigit c) (lower' : ∀ c ∈ digits', IsLowerHexDigit c)
    (length : digits.length = digits'.length)
    (same : digitsValue 16 digits = digitsValue 16 digits') : digits = digits' := by
  induction digits using List.reverseRecOn generalizing digits' with
  | nil => exact (List.length_eq_zero_iff.mp length.symm).symm
  | append_singleton digits c ih =>
    obtain rfl | ⟨digits', c', rfl⟩ := List.eq_nil_or_concat' digits'
    · simp at length
    · rw [List.forall_mem_append, List.forall_mem_singleton] at lower lower'
      obtain ⟨value, valued⟩ := Option.isSome_iff_exists.mp
        ((digitsValue_isSome_iff digits).mpr fun d mem => .inl (lower.1 d mem))
      obtain ⟨value', valued'⟩ := Option.isSome_iff_exists.mp
        ((digitsValue_isSome_iff digits').mpr fun d mem => .inl (lower'.1 d mem))
      obtain ⟨last, ofLast⟩ := Option.isSome_iff_exists.mp
        ((digitValue_isSome_iff c).mpr (.inl lower.2))
      obtain ⟨last', ofLast'⟩ := Option.isSome_iff_exists.mp
        ((digitValue_isSome_iff c').mpr (.inl lower'.2))
      rw [digitsValue_concat, digitsValue_concat, valued, valued', ofLast, ofLast'] at same
      have sum : value * 16 + last = value' * 16 + last' := by simpa using same
      have small := lt_of_digitValue ofLast
      have small' := lt_of_digitValue ofLast'
      have values : value = value' := by omega
      have lasts : last = last' := by omega
      rw [ih lower.1 lower'.1 (by simpa using length) (by rw [valued, valued', values]),
        eq_of_digitValue_eq lower.2 lower'.2 (by rw [ofLast, ofLast', lasts])]

/-! ## Case -/

theorem toNat_toLower (c : Char) :
    c.toLower.toNat = if 65 ≤ c.toNat ∧ c.toNat ≤ 90 then c.toNat + 32 else c.toNat := by
  unfold Char.toLower
  have upper : (c.val ≥ 'A'.val ∧ c.val ≤ 'Z'.val) ↔ 65 ≤ c.toNat ∧ c.toNat ≤ 90 := by
    rw [ge_iff_le, UInt32.le_iff_toNat_le, UInt32.le_iff_toNat_le]
    exact .rfl
  by_cases isUpper : 65 ≤ c.toNat ∧ c.toNat ≤ 90
  · rw [dif_pos (upper.mpr isUpper), if_pos isUpper]
    show (c.val + ('a'.val - 'A'.val)).toNat = c.toNat + 32
    rw [UInt32.toNat_add]
    exact Nat.mod_eq_of_lt (by have := isUpper.2; change c.toNat + 32 < 2 ^ 32; omega)
  · rw [dif_neg fun above => isUpper (upper.mp above), if_neg isUpper]

/-- Lower-casing a digit keeps its value. -/
theorem digitValue_toLower {c : Char} (digit : IsHexDigit c) :
    digitValue 16 c.toLower = digitValue 16 c ∧ IsLowerHexDigit c.toLower := by
  rw [isHexDigit_iff] at digit
  rw [digitValue_sixteen, digitValue_sixteen, isLowerHexDigit_iff, toNat_toLower]
  split_ifs <;> simp <;> omega

theorem IsLowerHexDigit.toLower_eq {c : Char} (lower : IsLowerHexDigit c) : c.toLower = c := by
  rw [isLowerHexDigit_iff] at lower
  apply Char.ext
  apply UInt32.toNat_inj.mp
  show c.toLower.toNat = c.toNat
  rw [toNat_toLower, if_neg (by omega)]

/-- No digit is white space. -/
theorem IsHexDigit.not_isWhiteSpace {c : Char} (digit : IsHexDigit c) : ¬ isWhiteSpace c := by
  rw [isHexDigit_iff] at digit
  simp only [isWhiteSpace, List.mem_cons, List.not_mem_nil, or_false, decide_eq_true_eq]
  omega

theorem digitsValue_map_toLower {digits : List Char} (hex : ∀ c ∈ digits, IsHexDigit c) :
    digitsValue 16 (digits.map Char.toLower) = digitsValue 16 digits := by
  induction digits using List.reverseRecOn with
  | nil => rfl
  | append_singleton digits c ih =>
    rw [List.forall_mem_append, List.forall_mem_singleton] at hex
    rw [List.map_append, List.map_singleton, digitsValue_concat, digitsValue_concat, ih hex.1,
      (digitValue_toLower hex.2).1]

/-! ## Printing -/

section Printing

variable {radix : Nat}

theorem digitValue_digitChar (hex : radix ≤ 16) {d : Nat} (small : d < radix) :
    digitValue radix d.digitChar = some d := by
  have value : ∀ d < 16, (if '0' ≤ d.digitChar ∧ d.digitChar ≤ '9' then
      some (d.digitChar.toNat - '0'.toNat)
    else if 'a' ≤ d.digitChar ∧ d.digitChar ≤ 'z' then some (d.digitChar.toNat - 'a'.toNat + 10)
    else if 'A' ≤ d.digitChar ∧ d.digitChar ≤ 'Z' then some (d.digitChar.toNat - 'A'.toNat + 10)
    else none) = some d := by decide
  unfold digitValue
  simp only [value d (by omega)]
  exact Option.filter_eq_some_iff.mpr ⟨rfl, by simpa using small⟩

/-- A printed number has its own value. -/
theorem digitsValue_toDigits (two : 2 ≤ radix) (hex : radix ≤ 16) (n : Nat) :
    digitsValue radix (Nat.toDigits radix n) = some n := by
  induction n using Nat.strong_induction_on with
  | _ n ih =>
    rw [Nat.toDigits_eq_if (by omega)]
    split_ifs with small
    · show digitsValue radix ([] ++ [n.digitChar]) = some n
      rw [digitsValue_concat, digitValue_digitChar hex small]
      simp [digitsValue]
    · have last := digitValue_digitChar hex (Nat.mod_lt n (by omega : radix > 0))
      have rest := ih (n / radix) (Nat.div_lt_self (by omega) (by omega))
      rw [digitsValue_concat, rest, last]
      simp [Nat.div_add_mod']

theorem isLowerHexDigit_digitChar {d : Nat} (small : d < 16) : IsLowerHexDigit d.digitChar := by
  revert d
  decide

/-- A printed number is spelled in lower-case digits. -/
theorem isLowerHexDigit_toDigits (n : Nat) : ∀ c ∈ Nat.toDigits 16 n, IsLowerHexDigit c := by
  induction n using Nat.strong_induction_on with
  | _ n ih =>
    rw [Nat.toDigits_eq_if (by decide)]
    split_ifs with small
    · simpa using isLowerHexDigit_digitChar small
    · have last := isLowerHexDigit_digitChar (Nat.mod_lt n (by decide : 16 > 0))
      exact List.forall_mem_append.mpr ⟨ih (n / 16) (by omega), by simpa using last⟩

end Printing

end BusExporter.Foundation
