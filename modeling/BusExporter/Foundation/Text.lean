import BusExporter.Foundation.Words

/-!
# Text

The string operations of a systems language, on the characters of a string:
splitting at a delimiter, stripping a leading pattern, parsing a number in a
radix, and printing numbers the way format strings ask for them.
-/

namespace BusExporter.Foundation

/-! ## Leading patterns -/

/-- The characters after a leading pattern, if the text starts with it. -/
def stripStart : List Char → List Char → Option (List Char)
  | [], text => some text
  | _ :: _, [] => none
  | p :: pattern, c :: text => if p = c then stripStart pattern text else none

theorem stripStart_eq_some (pattern text rest : List Char) :
    stripStart pattern text = some rest ↔ text = pattern ++ rest := by
  induction pattern generalizing text with
  | nil => simp [stripStart]
  | cons p pattern ih =>
    cases text with
    | nil => simp [stripStart]
    | cons c text =>
      by_cases same : p = c
      · simp [stripStart, same, ih]
      · simp [stripStart, same, Ne.symm same]

/-- Strip a leading pattern as long as it is there, at most `fuel` times. -/
def trimStartFuel (pattern : List Char) : Nat → List Char → List Char
  | 0, text => text
  | fuel + 1, text =>
    match stripStart pattern text with
    | some rest => trimStartFuel pattern fuel rest
    | none => text

/-- Strip a leading pattern as long as it is there. Every strip of a nonempty
pattern shortens the text, so its length is enough fuel. -/
def trimStartMatches (pattern text : List Char) : List Char :=
  trimStartFuel pattern text.length text

section Trim

variable {pattern : List Char}

/-- More fuel than the text is long strips no more. -/
theorem trimStartFuel_add (nonempty : pattern ≠ []) (fuel : Nat) (text : List Char) :
    trimStartFuel pattern (text.length + fuel) text = trimStartMatches pattern text := by
  unfold trimStartMatches
  induction h : text.length using Nat.strong_induction_on generalizing text fuel with
  | _ n ih =>
    subst h
    cases stripped : stripStart pattern text with
    | none => cases text <;> cases fuel <;> simp [trimStartFuel, stripped]
    | some rest =>
      -- A strip shortens the text by at least one character, so fuel and text shrink together.
      have shorter := congrArg List.length ((stripStart_eq_some _ _ _).mp stripped)
      rw [List.length_append] at shorter
      have positive := List.length_pos_iff.mpr nonempty
      obtain ⟨k, length⟩ : ∃ k, text.length = k + 1 := ⟨text.length - 1, by omega⟩
      have enough : k = rest.length + (k - rest.length) := by omega
      have enough' : k + fuel = rest.length + (k + fuel - rest.length) := by omega
      rw [length, Nat.add_right_comm, trimStartFuel, trimStartFuel, stripped]
      show trimStartFuel pattern (k + fuel) rest = trimStartFuel pattern k rest
      rw [enough', enough, ih rest.length (by omega) _ rest rfl,
        ih rest.length (by omega) _ rest rfl]

/-- A leading pattern is stripped. -/
theorem trimStartMatches_append (nonempty : pattern ≠ []) (text : List Char) :
    trimStartMatches pattern (pattern ++ text) = trimStartMatches pattern text := by
  have positive := List.length_pos_iff.mpr nonempty
  have stripped := (stripStart_eq_some pattern (pattern ++ text) text).mpr rfl
  obtain ⟨k, length⟩ : ∃ k, pattern.length = k + 1 := ⟨pattern.length - 1, by omega⟩
  have fuel : (pattern ++ text).length = (text.length + k) + 1 := by
    rw [List.length_append]
    omega
  rw [trimStartMatches, fuel, trimStartFuel, stripped]
  exact trimStartFuel_add nonempty k text

theorem trimStartMatches_replicate (nonempty : pattern ≠ []) (n : Nat) (text : List Char) :
    trimStartMatches pattern ((List.replicate n pattern).flatten ++ text) =
      trimStartMatches pattern text := by
  induction n with
  | zero => rfl
  | succ n ih =>
    rw [List.replicate_succ, List.flatten_cons, List.append_assoc,
      trimStartMatches_append nonempty, ih]

/-- Without a leading pattern nothing is stripped. -/
theorem trimStartMatches_of_none {text : List Char} (unmatched : stripStart pattern text = none) :
    trimStartMatches pattern text = text := by
  cases text <;> simp [trimStartMatches, trimStartFuel, unmatched]

/-- What is stripped are copies of the pattern. -/
theorem eq_replicate_append_trimStartMatches (pattern text : List Char) :
    ∃ n, text = (List.replicate n pattern).flatten ++ trimStartMatches pattern text := by
  unfold trimStartMatches
  generalize text.length = fuel
  induction fuel generalizing text with
  | zero => exact ⟨0, rfl⟩
  | succ fuel ih =>
    rw [trimStartFuel]
    cases stripped : stripStart pattern text with
    | none => exact ⟨0, rfl⟩
    | some rest =>
      obtain ⟨n, split⟩ := ih rest
      refine ⟨n + 1, ?_⟩
      rw [List.replicate_succ, List.flatten_cons, List.append_assoc, ← split]
      exact (stripStart_eq_some _ _ _).mp stripped

end Trim

/-- The text contains a pattern. -/
def containsText (pattern text : List Char) : Bool := decide (pattern <:+: text)

/-- Remove a pattern wherever it occurs, from left to right, with at most `fuel` steps. -/
def removeFuel (pattern : List Char) : Nat → List Char → List Char
  | 0, text => text
  | _ + 1, [] => []
  | fuel + 1, c :: text =>
    match stripStart pattern (c :: text) with
    | some rest => removeFuel pattern fuel rest
    | none => c :: removeFuel pattern fuel text

/-- `replace(pattern, "")`. -/
def removeAll (pattern text : List Char) : List Char := removeFuel pattern text.length text

/-- A text without some character of the pattern is left as it is. -/
theorem removeFuel_of_notMem {pattern text : List Char} {x : Char} (mem : x ∈ pattern)
    (absent : x ∉ text) (fuel : Nat) : removeFuel pattern fuel text = text := by
  induction fuel generalizing text with
  | zero => rfl
  | succ fuel ih =>
    cases text with
    | nil => rfl
    | cons c text =>
      -- A match would put the missing character into the text.
      have unmatched : stripStart pattern (c :: text) = none := by
        rw [Option.eq_none_iff_forall_ne_some]
        intro rest stripped
        rw [stripStart_eq_some] at stripped
        exact absent (stripped ▸ List.mem_append_left _ mem)
      rw [removeFuel, unmatched]
      exact congrArg (c :: ·) (ih fun inRest => absent (List.mem_cons_of_mem _ inRest))

theorem removeAll_of_notMem {pattern text : List Char} {x : Char} (mem : x ∈ pattern)
    (absent : x ∉ text) : removeAll pattern text = text :=
  removeFuel_of_notMem mem absent _

/-- The pattern is removed from before such a text. -/
theorem removeAll_append {pattern text : List Char} {x : Char} (mem : x ∈ pattern)
    (absent : x ∉ text) : removeAll pattern (pattern ++ text) = text := by
  cases pattern with
  | nil => cases mem
  | cons p pattern =>
    have stripped := (stripStart_eq_some (p :: pattern) (p :: pattern ++ text) text).mpr rfl
    rw [List.cons_append] at stripped
    rw [removeAll, List.cons_append, List.length_cons, removeFuel, stripped]
    exact removeFuel_of_notMem mem absent _

/-! ## White space -/

/-- A character with the property `White_Space`. -/
def isWhiteSpace (c : Char) : Bool :=
  (0x9 ≤ c.toNat ∧ c.toNat ≤ 0xD) ∨ (0x2000 ≤ c.toNat ∧ c.toNat ≤ 0x200A) ∨
    c.toNat ∈ [0x20, 0x85, 0xA0, 0x1680, 0x2028, 0x2029, 0x202F, 0x205F, 0x3000]

/-- `trim`. -/
def trim (text : List Char) : List Char :=
  ((text.dropWhile isWhiteSpace).reverse.dropWhile isWhiteSpace).reverse

theorem dropWhile_isWhiteSpace {text : List Char} (visible : ∀ c ∈ text, ¬ isWhiteSpace c) :
    text.dropWhile isWhiteSpace = text := by
  cases text with
  | nil => rfl
  | cons c text => exact List.dropWhile_cons_of_neg (visible c List.mem_cons_self)

/-- A newline after a text without white space is trimmed. -/
theorem trim_newline {text : List Char} (visible : ∀ c ∈ text, ¬ isWhiteSpace c) :
    trim (text ++ ['\n']) = text := by
  have start : (text ++ ['\n']).dropWhile isWhiteSpace = text ++ ['\n'] ∨
      text = [] ∧ (text ++ ['\n']).dropWhile isWhiteSpace = [] := by
    cases text with
    | nil => exact .inr ⟨rfl, by decide⟩
    | cons c text =>
      exact .inl (List.dropWhile_cons_of_neg (visible c List.mem_cons_self))
  unfold trim
  rcases start with start | ⟨rfl, start⟩
  · rw [start, List.reverse_append, List.reverse_singleton, List.singleton_append,
      List.dropWhile_cons_of_pos (by decide), dropWhile_isWhiteSpace, List.reverse_reverse]
    exact fun c mem => visible c (List.mem_reverse.mp mem)
  · rw [start]
    rfl

/-- `trim_end`. -/
def trimEnd (text : List Char) : List Char := (text.reverse.dropWhile isWhiteSpace).reverse

/-- Only the line break at the end is trimmed, if no white space is before it. -/
theorem trimEnd_newline {body : List Char} {last : Char} (visible : ¬ isWhiteSpace last) :
    trimEnd (body ++ [last, '\n']) = body ++ [last] := by
  rw [trimEnd, List.reverse_append, List.reverse_cons, List.reverse_singleton, List.append_assoc,
    List.singleton_append, List.singleton_append, List.dropWhile_cons_of_pos (by decide),
    List.dropWhile_cons_of_neg visible, List.reverse_cons, List.reverse_reverse]

/-! ## Delimiters -/

/-- Split at the first occurrence of a delimiter, which belongs to neither part. -/
def splitOnce (delimiter : Char) : List Char → Option (List Char × List Char)
  | [] => none
  | c :: text =>
    if c = delimiter then some ([], text)
    else (splitOnce delimiter text).map fun (before, after) => (c :: before, after)

/-- Split at the last occurrence of a delimiter, which belongs to neither part. -/
def rsplitOnce (delimiter : Char) (text : List Char) : Option (List Char × List Char) :=
  (splitOnce delimiter text.reverse).map fun (after, before) => (before.reverse, after.reverse)

section Split

variable {d : Char} {xs ys : List Char}

/-- Nothing is split without a delimiter. -/
theorem splitOnce_of_notMem (absent : d ∉ xs) : splitOnce d xs = none := by
  induction xs with
  | nil => rfl
  | cons c xs ih =>
    rw [List.mem_cons, not_or] at absent
    rw [splitOnce, if_neg (Ne.symm absent.1), ih absent.2, Option.map_none]

/-- The first delimiter is the one with none before it. -/
theorem splitOnce_append_cons (absent : d ∉ xs) :
    splitOnce d (xs ++ d :: ys) = some (xs, ys) := by
  induction xs with
  | nil => rw [List.nil_append, splitOnce, if_pos rfl]
  | cons c xs ih =>
    rw [List.mem_cons, not_or] at absent
    rw [List.cons_append, splitOnce, if_neg (Ne.symm absent.1), ih absent.2, Option.map_some]

theorem rsplitOnce_of_notMem (absent : d ∉ xs) : rsplitOnce d xs = none := by
  rw [rsplitOnce, splitOnce_of_notMem fun mem => absent (List.mem_reverse.mp mem), Option.map_none]

/-- The last delimiter is the one with none after it. -/
theorem rsplitOnce_append_cons (absent : d ∉ ys) :
    rsplitOnce d (xs ++ d :: ys) = some (xs, ys) := by
  have reversed : (xs ++ d :: ys).reverse = ys.reverse ++ d :: xs.reverse := by simp
  rw [rsplitOnce, reversed, splitOnce_append_cons fun mem => absent (List.mem_reverse.mp mem)]
  simp only [Option.map_some, List.reverse_reverse]

end Split

section

variable {α : Type} {d : α} {xs xs' ys ys' : List α}

/-- Of two ways to split a list at a delimiter, the one with more before the delimiter continues
the other. -/
theorem append_cons_eq_append_cons :
    xs ++ d :: ys = xs' ++ d :: ys' ↔
      (xs = xs' ∧ ys = ys') ∨ (∃ s, xs' = xs ++ d :: s ∧ ys = s ++ d :: ys') ∨
        ∃ s, xs = xs' ++ d :: s ∧ ys' = s ++ d :: ys := by
  constructor
  · intro equal
    -- One side is a prefix of the other; the rest is empty or begins with the delimiter.
    rcases List.append_eq_append_iff.mp equal with ⟨s, before, after⟩ | ⟨s, before, after⟩
    · cases s with
      | nil => exact .inl ⟨by simpa using before.symm, (List.cons.inj after).2⟩
      | cons c s =>
        obtain ⟨rfl, rest⟩ := List.cons.inj after
        exact .inr (.inl ⟨s, before, rest⟩)
    · cases s with
      | nil => exact .inl ⟨by simpa using before, (List.cons.inj after).2.symm⟩
      | cons c s =>
        obtain ⟨rfl, rest⟩ := List.cons.inj after
        exact .inr (.inr ⟨s, before, rest⟩)
  · rintro (⟨rfl, rfl⟩ | ⟨s, rfl, rfl⟩ | ⟨s, rfl, rfl⟩)
    · rfl
    · simp
    · simp

end

/-! ## Numbers -/

/-- The value of a digit in a radix up to 36, letters of either case. -/
def digitValue (radix : Nat) (c : Char) : Option Nat :=
  let value :=
    if '0' ≤ c ∧ c ≤ '9' then some (c.toNat - '0'.toNat)
    else if 'a' ≤ c ∧ c ≤ 'z' then some (c.toNat - 'a'.toNat + 10)
    else if 'A' ≤ c ∧ c ≤ 'Z' then some (c.toNat - 'A'.toNat + 10)
    else none
  value.filter (· < radix)

/-- The value of a string of digits, most significant first. -/
def digitsValue (radix : Nat) (digits : List Char) : Option Nat :=
  digits.foldlM (fun value c => (digitValue radix c).map (value * radix + ·)) 0

/-- Parse an unsigned number below `bound`: an optional plus sign and at least one digit. -/
def parseRadix (radix bound : Nat) (text : List Char) : Option Nat :=
  let digits := (stripStart ['+'] text).getD text
  -- A lone plus sign is no number.
  if digits = [] then none
  else (digitsValue radix digits).filter (· < bound)

/-- `parse::<u16>()`. -/
def parseU16 (text : List Char) : Option UInt16 :=
  (parseRadix 10 65536 text).map UInt16.ofNat

/-- Pad on the left with zeros to a width. -/
def zeroPad (width : Nat) (digits : List Char) : List Char :=
  List.replicate (width - digits.length) '0' ++ digits

/-- `{:#0Nx}`: lower-case hexadecimal after `0x`, padded to `width` characters in all. -/
def hexPadded (width n : Nat) : String :=
  "0x" ++ String.ofList (zeroPad (width - 2) (Nat.toDigits 16 n))

/-- The length of a text in bytes of UTF-8. -/
def utf8Length (text : List Char) : Nat :=
  (text.map Char.utf8Size).sum

end BusExporter.Foundation
