import BusExporter.Foundation.Text

/-!
# The decimal text of a double

A format string turns a double into the shortest decimal number that still rounds
to it, without an exponent, or into a number with as many fractional digits as it
asks for, rounded half to even. A finite double is an integer times a power of two,
so both are exact arithmetic on natural numbers.
-/

namespace BusExporter.Foundation

/-! ## Decoding -/

/-- A positive double, in units of a power of two, and how far the numbers reach that round
to it. -/
structure Decoded where
  mant : ℕ
  minus : ℕ
  plus : ℕ
  exp : ℤ
  /-- Whether the ends of the interval round to it as well. -/
  inclusive : Bool
  deriving DecidableEq

inductive FullDecoded where
  | nan
  | infinite
  | zero
  | finite (decoded : Decoded)
  deriving DecidableEq

/-- The biased exponent. -/
def biasedExponent (x : Float) : ℕ := x.toBits.toNat / 2 ^ 52 % 2 ^ 11

def fraction (x : Float) : ℕ := x.toBits.toNat % 2 ^ 52

def isNegative (x : Float) : Bool := x.toBits.toNat / 2 ^ 63 = 1

def decode (x : Float) : FullDecoded :=
  let mant := 2 ^ 52 + fraction x
  let exp : ℤ := biasedExponent x - 1075
  if biasedExponent x = 2047 then if fraction x = 0 then .infinite else .nan
  else if biasedExponent x = 0 then
    if fraction x = 0 then .zero else .finite ⟨2 * fraction x, 1, 1, exp, true⟩
  else if fraction x = 0 then
    -- The neighbour below a power of two is only half as far away as the one above.
    .finite ⟨4 * mant, 1, 2, exp - 2, true⟩
  else .finite ⟨2 * mant, 1, 1, exp - 1, mant % 2 = 0⟩

/-! ## Decimal digits -/

namespace Decoded

variable (d : Decoded)

/-- A number of units, as a multiple of `10 ^ p`, is the quotient of this and `denominator`. -/
def numerator (units : ℕ) (p : ℤ) : ℕ := units * 2 ^ d.exp.toNat * 10 ^ (-p).toNat

def denominator (p : ℤ) : ℕ := 2 ^ (-d.exp).toNat * 10 ^ p.toNat

/-- Within the interval, or at its end where that is included. -/
def within (distance reach : ℕ) : Bool :=
  if d.inclusive then distance ≤ reach else distance < reach

/-- The multiple of `10 ^ p` next to the number that rounds to it, if there is one; of two, the
nearer one. -/
def roundedTo (p : ℤ) : Option ℕ :=
  let scale := d.denominator p
  let below := d.numerator d.mant p / scale
  let rest := d.numerator d.mant p % scale
  let down := d.within rest (d.numerator d.minus p)
  let up := d.within scale (rest + d.numerator d.plus p)
  if up ∧ (down = false ∨ scale ≤ 2 * rest) then some (below + 1)
  else if down then some below
  else none

/-- Digits and their decimal exponent, with as few digits as possible from `10 ^ p` on. -/
def shortestFrom : ℕ → ℤ → ℕ × ℤ
  | 0, p => (d.numerator d.mant p / d.denominator p, p)
  | fuel + 1, p =>
    match d.roundedTo p with
    | some digits => (digits, p)
    | none => shortestFrom fuel (p - 1)

/-- The shortest digits. Every double is below `10 ^ 309`, and an interval that rounds to one
is wider than `10 ^ (-324)`. -/
def shortest : ℕ × ℤ := d.shortestFrom 634 309

/-- The number in units of `10 ^ (-precision)`, rounded half to even. -/
def rounded (precision : ℕ) : ℕ :=
  let scale := d.denominator (-precision)
  let below := d.numerator d.mant (-precision) / scale
  let rest := d.numerator d.mant (-precision) % scale
  if scale < 2 * rest ∨ (2 * rest = scale ∧ below % 2 = 1) then below + 1 else below

end Decoded

/-! ## Integers -/

namespace Decoded

variable (d : Decoded)

/-- The double is an integer. -/
def isWhole : Bool := d.mant % 2 ^ (-d.exp).toNat = 0

/-- The integral part. -/
def trunc : ℕ := d.mant * 2 ^ d.exp.toNat / 2 ^ (-d.exp).toNat

end Decoded

/-- `x.fract() == 0.0`; of an infinite double this is not a number. -/
def fractIsZero (x : Float) : Bool :=
  match decode x with
  | .nan | .infinite => false
  | .zero => true
  | .finite d => d.isWhole

def isFinite (x : Float) : Bool :=
  match decode x with
  | .nan | .infinite => false
  | .zero | .finite _ => true

/-- `x as i64`, which stays in the range of the type. -/
def asI64 (x : Float) : ℤ :=
  match decode x with
  | .nan | .zero => 0
  | .infinite => if isNegative x then -2 ^ 63 else 2 ^ 63 - 1
  | .finite d => if isNegative x then max (-d.trunc) (-2 ^ 63) else min d.trunc (2 ^ 63 - 1)

/-! ## Texts -/

/-- Digits times a power of ten, without an exponent. -/
def plainDecimal (digits : ℕ) (exponent : ℤ) : List Char :=
  if 0 ≤ exponent then Nat.toDigits 10 digits ++ List.replicate exponent.toNat '0'
  else
    let places := (-exponent).toNat
    let padded := zeroPad (places + 1) (Nat.toDigits 10 digits)
    padded.take (padded.length - places) ++ '.' :: padded.drop (padded.length - places)

/-- The text of a double, with a sign where the sign bit is set. -/
def formatFloat (zero : List Char) (finite : Decoded → List Char) (x : Float) : List Char :=
  let sign := if isNegative x then ['-'] else []
  match decode x with
  | .nan => "NaN".toList
  | .infinite => sign ++ "inf".toList
  | .zero => sign ++ zero
  | .finite d => sign ++ finite d

/-- `{}`. -/
def displayFloat (x : Float) : String :=
  String.ofList (formatFloat (plainDecimal 0 0) (fun d => plainDecimal d.shortest.1 d.shortest.2) x)

/-- `{:.N}`. -/
def displayFixed (precision : ℕ) (x : Float) : String :=
  String.ofList (formatFloat (plainDecimal 0 (-precision))
    (fun d => plainDecimal (d.rounded precision) (-precision)) x)

example : displayFloat 0.1 = "0.1" := by decide +kernel

example : displayFixed 1 0.25 = "0.2" := by decide +kernel

/-! ## Numbers -/

/-- At least one digit, and nothing else. -/
def IsDigits (text : List Char) : Prop := text ≠ [] ∧ ∀ c ∈ text, c.isDigit

/-- Digits, with a fraction or without one. -/
def IsDecimal (text : List Char) : Prop :=
  IsDigits text ∨ ∃ whole fraction, IsDigits whole ∧ IsDigits fraction ∧
    text = whole ++ '.' :: fraction

/-- The text of a number: a decimal or infinity, with a minus sign or without one, or no
number. -/
def IsNumber (text : List Char) : Prop :=
  text = "NaN".toList ∨ ∃ sign ∈ [[], ['-']], ∃ rest, (rest = "inf".toList ∨ IsDecimal rest) ∧
    text = sign ++ rest

theorem isDigits_toDigits (n : ℕ) : IsDigits (Nat.toDigits 10 n) :=
  ⟨Nat.toDigits_ne_nil, fun _ mem => Nat.isDigit_of_mem_toDigits (by decide) (by decide) mem⟩

theorem IsDigits.append_replicate {text : List Char} (digits : IsDigits text) (n : ℕ) :
    IsDigits (text ++ List.replicate n '0') := by
  refine ⟨by simp [digits.1], fun c mem => ?_⟩
  rcases List.mem_append.mp mem with inside | zero
  · exact digits.2 c inside
  · rw [List.eq_of_mem_replicate zero]
    rfl

theorem IsDigits.zeroPad {text : List Char} (digits : IsDigits text) (width : ℕ) :
    IsDigits (zeroPad width text) := by
  refine ⟨by simp [Foundation.zeroPad, digits.1], fun c mem => ?_⟩
  rcases List.mem_append.mp mem with zero | inside
  · rw [List.eq_of_mem_replicate zero]
    rfl
  · exact digits.2 c inside

theorem length_le_zeroPad (width : ℕ) (text : List Char) :
    width ≤ (zeroPad width text).length := by
  rw [zeroPad, List.length_append, List.length_replicate]
  omega

theorem isDecimal_plainDecimal (digits : ℕ) (exponent : ℤ) :
    IsDecimal (plainDecimal digits exponent) := by
  unfold plainDecimal
  split
  · exact .inl ((isDigits_toDigits digits).append_replicate _)
  · rename_i negative
    have padded := (isDigits_toDigits digits).zeroPad ((-exponent).toNat + 1)
    have long := length_le_zeroPad ((-exponent).toNat + 1) (Nat.toDigits 10 digits)
    -- The padding leaves at least one digit on either side of the point.
    refine .inr ⟨_, _, ⟨?_, ?_⟩, ⟨?_, ?_⟩, rfl⟩
    · apply List.ne_nil_of_length_pos
      rw [List.length_take]
      omega
    · exact fun c mem => padded.2 c (List.mem_of_mem_take mem)
    · apply List.ne_nil_of_length_pos
      rw [List.length_drop]
      omega
    · exact fun c mem => padded.2 c (List.mem_of_mem_drop mem)

theorem isNumber_formatFloat {zero : List Char} {finite : Decoded → List Char}
    (zeroDecimal : IsDecimal zero) (finiteDecimal : ∀ d, IsDecimal (finite d)) (x : Float) :
    IsNumber (formatFloat zero finite x) := by
  have signs : (if isNegative x then ['-'] else []) ∈ [[], ['-']] := by
    split <;> simp
  unfold formatFloat
  cases decode x with
  | nan => exact .inl rfl
  | infinite => exact .inr ⟨_, signs, _, .inl rfl, rfl⟩
  | zero => exact .inr ⟨_, signs, _, .inr zeroDecimal, rfl⟩
  | finite d => exact .inr ⟨_, signs, _, .inr (finiteDecimal d), rfl⟩

theorem isNumber_displayFloat (x : Float) : IsNumber (displayFloat x).toList := by
  rw [displayFloat, String.toList_ofList]
  exact isNumber_formatFloat (isDecimal_plainDecimal ..) (fun _ => isDecimal_plainDecimal ..) x

theorem isNumber_displayFixed (precision : ℕ) (x : Float) :
    IsNumber (displayFixed precision x).toList := by
  rw [displayFixed, String.toList_ofList]
  exact isNumber_formatFloat (isDecimal_plainDecimal ..) (fun _ => isDecimal_plainDecimal ..) x

theorem isNumber_repr (n : ℕ) : IsNumber n.repr.toList := by
  refine .inr ⟨[], by simp, _, .inr (.inl (isDigits_toDigits n)), ?_⟩
  rw [Nat.toList_repr, List.nil_append]

/-- A number has no line break in it. -/
theorem IsNumber.newline_not_mem {text : List Char} (number : IsNumber text) : '\n' ∉ text := by
  have digits : ∀ {text : List Char}, IsDigits text → '\n' ∉ text := by
    intro text digits mem
    exact absurd (digits.2 _ mem) (by decide)
  have decimal : ∀ {text : List Char}, IsDecimal text → '\n' ∉ text := by
    rintro text (whole | ⟨whole, fraction, isWhole, isFraction, rfl⟩)
    · exact digits whole
    · simp [digits isWhole, digits isFraction]
  rcases number with rfl | ⟨sign, signs, rest, rfl | isDecimal, rfl⟩
  · decide
  · rcases List.mem_pair.mp signs with rfl | rfl <;> decide
  · rcases List.mem_pair.mp signs with rfl | rfl <;> simp [decimal isDecimal]

end BusExporter.Foundation
