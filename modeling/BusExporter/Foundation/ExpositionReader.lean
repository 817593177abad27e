import BusExporter.Foundation.Exposition

/-!
# Reading samples

A reader of the sample lines of the text exposition format: a label value ends at
the first quote that is not escaped, and the three escapes are replaced by the
characters they stand for. It gets back the sample that a line was made of.
-/

namespace BusExporter.Foundation

/-! ## The reader -/

/-- The text before the closing quote, unescaped, and what follows the quote. -/
def readValue : List Char → Option (List Char × List Char)
  | [] => none
  | '"' :: rest => some ([], rest)
  | '\\' :: '\\' :: rest => (readValue rest).map fun (value, rest) => ('\\' :: value, rest)
  | '\\' :: '"' :: rest => (readValue rest).map fun (value, rest) => ('"' :: value, rest)
  | '\\' :: 'n' :: rest => (readValue rest).map fun (value, rest) => ('\n' :: value, rest)
  -- No other escape is written, so none is accepted.
  | '\\' :: _ => none
  | c :: rest => (readValue rest).map fun (value, rest) => (c :: value, rest)

def isNameChar (c : Char) : Bool := c.isAlphanum || c = '_'

/-- The labels up to the closing brace, at most `fuel` of them, and what follows the brace. -/
def readLabels : ℕ → List Char → Option (List (String × String) × List Char)
  | 0, _ => none
  | fuel + 1, text =>
    -- A key is read as far as it goes; what follows has to be the opening quote.
    let key := String.ofList (text.takeWhile isNameChar)
    match text.dropWhile isNameChar with
    | '=' :: '"' :: quoted =>
      match readValue quoted with
      | some (value, ',' :: rest) =>
        (readLabels fuel rest).map fun (labels, rest) =>
          ((key, String.ofList value) :: labels, rest)
      | some (value, '\x7d' :: rest) => some ([(key, String.ofList value)], rest)
      | _ => none
    | _ => none

/-- The sample of a line. -/
def readSample (line : List Char) : Option Sample :=
  let name := String.ofList (line.takeWhile isNameChar)
  match line.dropWhile isNameChar with
  | ' ' :: value => some ⟨name, [], String.ofList value⟩
  | '\x7b' :: rest =>
    match readLabels rest.length rest with
    | some (labels, ' ' :: value) => some ⟨name, labels, String.ofList value⟩
    | _ => none
  | _ => none

/-! ## What it reads -/

/-- An escaped text is read up to the quote that closes it. -/
theorem readValue_escape (value rest : List Char) :
    readValue (value.flatMap escapeChar ++ '"' :: rest) = some (value, rest) := by
  induction value with
  | nil => rfl
  | cons c value ih =>
    rw [List.flatMap_cons, List.append_assoc]
    -- Each character of the value is one of the three that are escaped, or stands for itself.
    by_cases backslash : c = '\\'
    · subst backslash
      simp [escapeChar, readValue, ih]
    · by_cases quote : c = '"'
      · subst quote
        simp [escapeChar, readValue, ih]
      · by_cases newline : c = '\n'
        · subst newline
          simp [escapeChar, readValue, ih]
        · simp [escapeChar, backslash, quote, newline, readValue, ih]

theorem IsName.isNameChar {name : String} (isName : IsName name) :
    ∀ c ∈ name.toList, isNameChar c := by
  obtain ⟨first, rest, chars, start, others⟩ := isName_iff.mp isName
  rw [chars, List.forall_mem_cons]
  refine ⟨?_, fun c mem => by simpa [Foundation.isNameChar] using others c mem⟩
  rcases start with letter | rfl
  · simp [Foundation.isNameChar, Char.isAlphanum, letter]
  · decide

/-- A name is read up to the first character that cannot be part of it. -/
theorem takeWhile_name {name : String} (isName : IsName name) {c : Char} (rest : List Char)
    (ends : isNameChar c = false) :
    (name.toList ++ c :: rest).takeWhile isNameChar = name.toList ∧
      (name.toList ++ c :: rest).dropWhile isNameChar = c :: rest := by
  rw [List.takeWhile_append_of_pos isName.isNameChar,
    List.dropWhile_append_of_pos isName.isNameChar]
  simp [ends]

theorem toList_labelText (label : String × String) :
    (labelText label).toList = label.1.toList ++ '=' :: '"' :: (label.2.toList ++ ['"']) := by
  simp [labelText]

/-- A label is read up to what follows its closing quote. -/
theorem readLabels_succ {key : String} (isName : IsName key) (value : String) (fuel : ℕ)
    (next : Char) (rest : List Char) :
    readLabels (fuel + 1) ((labelText (key, escape value)).toList ++ next :: rest) =
      if next = ',' then
        (readLabels fuel rest).map fun (labels, rest) => ((key, value) :: labels, rest)
      else if next = '\x7d' then some ([(key, value)], rest)
      else none := by
  -- The name, the two characters that open the value, the escapes and the closing quote.
  have text : (labelText (key, escape value)).toList ++ next :: rest =
      key.toList ++ '=' :: ('"' :: (value.toList.flatMap escapeChar ++ '"' :: next :: rest)) := by
    rw [toList_labelText, escape, String.toList_ofList]
    simp
  obtain ⟨taken, dropped⟩ := takeWhile_name isName
    ('"' :: (value.toList.flatMap escapeChar ++ '"' :: next :: rest))
    (by decide : isNameChar '=' = false)
  rw [text, readLabels, taken, dropped]
  simp only [readValue_escape, String.ofList_toList]
  split_ifs with comma brace
  · subst comma
    simp [String.ofList_toList]
  · subst brace
    simp [String.ofList_toList]
  · split <;> simp_all

/-- Labels are read up to the closing brace. -/
theorem readLabels_intercalate {label : String × String} {labels : List (String × String)}
    (isName : ∀ label' ∈ label :: labels, IsName label'.1) (fuel : ℕ)
    (enough : labels.length < fuel) (rest : List Char) :
    readLabels fuel ((",".intercalate ((label :: labels).map fun label =>
        labelText (label.1, escape label.2))).toList ++ '\x7d' :: rest) =
      some (label :: labels, rest) := by
  induction labels generalizing label fuel with
  | nil =>
    obtain ⟨fuel, rfl⟩ : ∃ k, fuel = k + 1 := ⟨fuel - 1, by omega⟩
    rw [List.forall_mem_singleton] at isName
    rw [List.map_singleton, String.intercalate_singleton, readLabels_succ isName]
    rfl
  | cons next labels ih =>
    -- Each label costs one unit of fuel and the comma after it leads to the next.
    obtain ⟨fuel, rfl⟩ : ∃ k, fuel = k + 1 := ⟨fuel - 1, by omega⟩
    rw [List.forall_mem_cons] at isName
    have text : (",".intercalate ((label :: next :: labels).map fun label =>
          labelText (label.1, escape label.2))).toList ++ '\x7d' :: rest =
        (labelText (label.1, escape label.2)).toList ++ ',' ::
          ((",".intercalate ((next :: labels).map fun label =>
            labelText (label.1, escape label.2))).toList ++ '\x7d' :: rest) := by
      rw [List.map_cons, List.map_cons, String.intercalate_cons_cons]
      simp [-String.toList_intercalate]
    rw [List.length_cons] at enough
    rw [text, readLabels_succ isName.1, if_pos rfl, ih isName.2 fuel (by omega)]
    rfl

/-- Joined labels are at least as long as their number. -/
theorem length_le_intercalate (labels : List (String × String)) :
    labels.length ≤ (",".intercalate (labels.map labelText)).toList.length := by
  induction labels with
  | nil => exact Nat.zero_le _
  | cons label labels ih =>
    have long := length_labelText label
    cases labels with
    | nil =>
      rw [List.map_singleton, String.intercalate_singleton, List.length_singleton]
      omega
    | cons next labels =>
      rw [List.map_cons, List.map_cons, String.intercalate_cons_cons, String.toList_append,
        String.toList_append, List.length_append, List.length_append, List.length_cons]
      rw [List.map_cons] at ih
      omega

/-- A sample is read back from its line. -/
theorem readSample_line {sample : Sample} (name : IsName sample.name)
    (labels : ∀ label ∈ sample.labels, IsName label.1) :
    readSample sample.line.text.toList = some sample := by
  obtain ⟨name', labels', value⟩ := sample
  cases labels' with
  | nil =>
    have text : (Sample.line ⟨name', [], value⟩).text.toList =
        name'.toList ++ ' ' :: value.toList := by
      simp [Sample.line, BodyLine.text]
    obtain ⟨taken, dropped⟩ := takeWhile_name name value.toList (by decide : isNameChar ' ' = false)
    rw [text, readSample, taken, dropped]
    simp [String.ofList_toList]
  | cons label labels' =>
    let joined := (",".intercalate ((label :: labels').map fun label =>
      labelText (label.1, escape label.2))).toList
    have text : (Sample.line ⟨name', label :: labels', value⟩).text.toList =
        name'.toList ++ '\x7b' :: (joined ++ '\x7d' :: ' ' :: value.toList) := by
      simp [Sample.line, BodyLine.text, joined, -String.toList_intercalate]
      rfl
    -- The fuel is the length of the text, which no number of labels exceeds.
    have long : (label :: labels').length ≤ joined.length := by
      have bound :=
        length_le_intercalate ((label :: labels').map fun label => (label.1, escape label.2))
      rw [List.map_map, List.length_map] at bound
      exact bound
    obtain ⟨taken, dropped⟩ := takeWhile_name name (joined ++ '\x7d' :: ' ' :: value.toList)
      (by decide : isNameChar '\x7b' = false)
    have read := readLabels_intercalate labels (joined ++ '\x7d' :: ' ' :: value.toList).length
      (by rw [List.length_append]; rw [List.length_cons] at long; omega) (' ' :: value.toList)
    rw [text, readSample, taken, dropped]
    simp only [joined] at read ⊢
    rw [read]
    simp [String.ofList_toList]

end BusExporter.Foundation
