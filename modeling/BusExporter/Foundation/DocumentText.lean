import BusExporter.Foundation.Document
import BusExporter.Foundation.ExpositionReader

/-!
# Documents as texts

Documents are written as JSON, indented by two blanks, and as YAML in block style. Of
alike documents all but the strings is written in the same way, and every string can be
told from what follows it, so that alike documents with the same text are the same.
-/

namespace BusExporter.Foundation

/-! ## Scalars -/

def boolText (b : Bool) : String := if b then "true" else "false"

/-- A number that says that it is no integer. -/
def floatText (x : Float) : String :=
  if fractIsZero x then displayFloat x ++ ".0" else displayFloat x

def jsonString (s : String) : List Char := '"' :: (s.toList.flatMap escapeChar ++ ['"'])

def indentation (depth : ℕ) : List Char := List.replicate (2 * depth) ' '

def lineBreak (depth : ℕ) : List Char := '\n' :: indentation depth

/-- Words that YAML does not take for strings. -/
def yamlKeywords : List String := ["true", "false", "null", "yes", "no", "on", "off", "y", "n"]

def isPlainChar (c : Char) : Bool := c.isAlphanum || c ∈ [' ', '_', '-', '.', '/', ':']

/-- A text that can stand without quotes: it is neither a keyword nor a number, which has no
letter of this kind, and nothing in it is special. -/
def isPlainScalar (s : String) : Bool :=
  s ∉ yamlKeywords && s.toList.any (fun c => 'g' ≤ c ∧ c ≤ 'z' ∧ c ≠ 'o' ∧ c ≠ 'x') &&
    s.toList.all isPlainChar && !containsText [':', ' '] s.toList &&
    s.toList.head?.any Char.isAlphanum && s.toList.getLast?.any Char.isAlphanum

def doubleQuote (c : Char) : List Char := if c = '\x27' then ['\x27', '\x27'] else [c]

/-- A text in single quotes, unless it can stand without them. -/
def yamlString (s : String) : List Char :=
  if isPlainScalar s then s.toList
  else '\x27' :: (s.toList.flatMap doubleQuote ++ ['\x27'])

namespace Document

/-! ## JSON -/

mutual

def json (depth : ℕ) : Document → List Char
  | bool b => (boolText b).toList
  | nat n => Nat.toDigits 10 n
  | float x => (floatText x).toList
  | string s => jsonString s
  | seq items => '[' :: jsonItems depth true items
  | map entries => '\x7b' :: jsonEntries depth true entries

/-- The rest of a sequence, from its first item on or after one. -/
def jsonItems (depth : ℕ) (first : Bool) : List Document → List Char
  | [] => (if first then [] else lineBreak depth) ++ [']']
  | item :: items =>
    (if first then [] else [',']) ++ lineBreak (depth + 1) ++ item.json (depth + 1) ++
      jsonItems depth false items

def jsonEntries (depth : ℕ) (first : Bool) : List (String × Document) → List Char
  | [] => (if first then [] else lineBreak depth) ++ ['\x7d']
  | (key, value) :: entries =>
    (if first then [] else [',']) ++ lineBreak (depth + 1) ++ jsonString key ++ [':', ' '] ++
      value.json (depth + 1) ++ jsonEntries depth false entries

end

/-! ## YAML -/

mutual

/-- A value after its key, or after the dash of an item. -/
def yamlValue (depth : ℕ) (item : Bool) : Document → List Char
  | bool b => ' ' :: (boolText b).toList ++ ['\n']
  | nat n => ' ' :: Nat.toDigits 10 n ++ ['\n']
  | float x => ' ' :: (floatText x).toList ++ ['\n']
  | string s => ' ' :: yamlString s ++ ['\n']
  | seq items =>
    if items.isEmpty then [' ', '[', ']', '\n']
    -- The items of a sequence are not indented below its key.
    else if item then yamlItems (depth + 1) true items
    else '\n' :: yamlItems depth false items
  | map entries =>
    if entries.isEmpty then [' ', '\x7b', '\x7d', '\n']
    else if item then yamlEntries (depth + 1) true entries
    else '\n' :: yamlEntries (depth + 1) false entries

/-- The items, the first of which can continue a line. -/
def yamlItems (depth : ℕ) (continued : Bool) : List Document → List Char
  | [] => []
  | item :: items =>
    (if continued then [' '] else indentation depth) ++ '-' :: item.yamlValue depth true ++
      yamlItems depth false items

def yamlEntries (depth : ℕ) (continued : Bool) : List (String × Document) → List Char
  | [] => []
  | (key, value) :: entries =>
    (if continued then [' '] else indentation depth) ++ yamlString key ++
      ':' :: value.yamlValue depth false ++ yamlEntries depth false entries

end

/-- A whole document. -/
def yaml : Document → List Char
  | map (entry :: entries) => yamlEntries 0 false (entry :: entries)
  | seq (item :: items) => yamlItems 0 false (item :: items)
  | d => (d.yamlValue 0 false).tail

example : String.ofList (map [("list", seq [map [("unit", string "*"), ("step", nat 1)]])]).yaml =
    "list:\n- unit: '*'\n  step: 1\n" := by decide +kernel

example : String.ofList ((map [("list", seq [bool true, map []])]).json 0) =
    "\x7b\n  \"list\": [\n    true,\n    \x7b\x7d\n  ]\n\x7d" := by decide +kernel

end Document

/-! ## Strings and what follows them -/

theorem jsonString_told {s s' : String} {rest rest' : List Char}
    (same : jsonString s ++ rest = jsonString s' ++ rest') : s = s' ∧ rest = rest' := by
  simp only [jsonString, List.cons_append, List.append_assoc, List.nil_append,
    List.cons_inj_right] at same
  -- Reading up to the closing quote gives the string and what follows it.
  have read := congrArg readValue same
  rw [readValue_escape, readValue_escape, Option.some_inj, Prod.mk.injEq, String.toList_inj] at read
  exact read

/-- The text before a closing single quote, and what follows the quote. -/
def readSingle : List Char → Option (List Char × List Char)
  | [] => none
  | '\x27' :: '\x27' :: rest => (readSingle rest).map fun (text, rest) => ('\x27' :: text, rest)
  | '\x27' :: rest => some ([], rest)
  | c :: rest => (readSingle rest).map fun (text, rest) => (c :: text, rest)

theorem readSingle_doubleQuote (text rest : List Char) :
    readSingle (text.flatMap doubleQuote ++ '\x27' :: '\n' :: rest) =
      some (text, '\n' :: rest) := by
  induction text with
  | nil => simp [readSingle]
  | cons c text ih =>
    rw [List.flatMap_cons, List.append_assoc]
    by_cases quote : c = '\x27'
    · subst quote
      simp [doubleQuote, readSingle, ih]
    · simp [doubleQuote, quote, readSingle, ih]

/-- A plain scalar has neither a line break nor a quote in it. -/
theorem isPlainScalar_chars {s : String} (plain : isPlainScalar s = true) :
    '\n' ∉ s.toList ∧ '\x27' ∉ s.toList := by
  simp only [isPlainScalar, Bool.and_eq_true, List.all_eq_true] at plain
  obtain ⟨⟨⟨⟨-, all⟩, -⟩, -⟩, -⟩ := plain
  constructor
  all_goals
    intro mem
    exact absurd (all _ mem) (by decide)

theorem yamlString_told {s s' : String} {rest rest' : List Char}
    (same : yamlString s ++ '\n' :: rest = yamlString s' ++ '\n' :: rest') :
    s = s' ∧ rest = rest' := by
  -- A plain scalar can be told from a quoted one by its first character.
  have apart : ∀ {s s' : String} {rest rest' : List Char}, isPlainScalar s = true →
      s.toList ++ '\n' :: rest ≠
        '\x27' :: (s'.toList.flatMap doubleQuote ++ ['\x27']) ++ '\n' :: rest' := by
    intro s s' rest rest' plain same
    cases chars : s.toList with
    | nil => simp [chars] at same
    | cons c text =>
      rw [chars, List.cons_append, List.cons_append, List.cons.injEq] at same
      exact (isPlainScalar_chars plain).2 (by simp [chars, same.1])
  unfold yamlString at same
  split at same <;> split at same
  · rename_i plain plain'
    have read := congrArg (splitOnce '\n') same
    rw [splitOnce_append_cons (isPlainScalar_chars plain).1,
      splitOnce_append_cons (isPlainScalar_chars plain').1, Option.some_inj, Prod.mk.injEq,
      String.toList_inj] at read
    exact read
  · rename_i plain quoted
    exact absurd same (apart plain)
  · rename_i quoted plain
    exact absurd same.symm (apart plain)
  · simp only [List.cons_append, List.append_assoc, List.nil_append, List.cons_inj_right] at same
    have read := congrArg readSingle same
    rw [readSingle_doubleQuote, readSingle_doubleQuote, Option.some_inj, Prod.mk.injEq,
      String.toList_inj, List.cons_inj_right] at read
    exact read

namespace Document

/-! ## Alike documents -/

mutual

/-- Alike documents with the same text are the same, whatever follows them. -/
theorem Alike.eq_of_json : ∀ {d d' : Document}, d.Alike d' → ∀ {depth : ℕ} {rest rest' : List Char},
    d.json depth ++ rest = d'.json depth ++ rest' → d = d' ∧ rest = rest'
  | _, _, .bool _, _, _, _, same => ⟨rfl, List.append_cancel_left same⟩
  | _, _, .nat _, _, _, _, same => ⟨rfl, List.append_cancel_left same⟩
  | _, _, .float _, _, _, _, same => ⟨rfl, List.append_cancel_left same⟩
  | _, _, .string s s', _, _, _, same => by
    obtain ⟨rfl, rest⟩ := jsonString_told same
    exact ⟨rfl, rest⟩
  | _, _, .seq alike, _, _, _, same => by
    obtain ⟨rfl, rest⟩ := alike.eq_of_jsonItems (List.cons.inj same).2
    exact ⟨rfl, rest⟩
  | _, _, .map alike, _, _, _, same => by
    obtain ⟨rfl, rest⟩ := alike.eq_of_jsonEntries (List.cons.inj same).2
    exact ⟨rfl, rest⟩

theorem AlikeItems.eq_of_jsonItems : ∀ {items items' : List Document}, AlikeItems items items' →
    ∀ {depth : ℕ} {first : Bool} {rest rest' : List Char},
      jsonItems depth first items ++ rest = jsonItems depth first items' ++ rest' →
        items = items' ∧ rest = rest'
  | _, _, .nil, _, _, _, _, same => ⟨rfl, List.append_cancel_left same⟩
  | _, _, .cons alike others, _, _, _, _, same => by
    simp only [jsonItems, List.append_assoc, List.append_cancel_left_eq] at same
    obtain ⟨rfl, later⟩ := alike.eq_of_json same
    obtain ⟨rfl, rest⟩ := others.eq_of_jsonItems later
    exact ⟨rfl, rest⟩

theorem AlikeEntries.eq_of_jsonEntries : ∀ {entries entries' : List (String × Document)},
    AlikeEntries entries entries' → ∀ {depth : ℕ} {first : Bool} {rest rest' : List Char},
      jsonEntries depth first entries ++ rest = jsonEntries depth first entries' ++ rest' →
        entries = entries' ∧ rest = rest'
  | _, _, .nil, _, _, _, _, same => ⟨rfl, List.append_cancel_left same⟩
  | _, _, .cons _ alike others, _, _, _, _, same => by
    simp only [jsonEntries, List.append_assoc, List.append_cancel_left_eq] at same
    obtain ⟨rfl, later⟩ := alike.eq_of_json same
    obtain ⟨rfl, rest⟩ := others.eq_of_jsonEntries later
    exact ⟨rfl, rest⟩

end

theorem AlikeItems.eq_nil_iff {items items' : List Document} (alike : AlikeItems items items') :
    items = [] ↔ items' = [] := by
  cases alike <;> simp

theorem AlikeEntries.eq_nil_iff {entries entries' : List (String × Document)}
    (alike : AlikeEntries entries entries') : entries = [] ↔ entries' = [] := by
  cases alike <;> simp

mutual

theorem Alike.eq_of_yamlValue : ∀ {d d' : Document}, d.Alike d' →
    ∀ {depth : ℕ} {item : Bool} {rest rest' : List Char},
      d.yamlValue depth item ++ rest = d'.yamlValue depth item ++ rest' → d = d' ∧ rest = rest'
  | _, _, .bool _, _, _, _, _, same => ⟨rfl, List.append_cancel_left same⟩
  | _, _, .nat _, _, _, _, _, same => ⟨rfl, List.append_cancel_left same⟩
  | _, _, .float _, _, _, _, _, same => ⟨rfl, List.append_cancel_left same⟩
  | _, _, .string s s', _, _, _, _, same => by
    simp only [yamlValue, List.cons_append, List.append_assoc, List.nil_append,
      List.cons_inj_right] at same
    obtain ⟨rfl, rest⟩ := yamlString_told same
    exact ⟨rfl, rest⟩
  | .seq items, .seq _, .seq alike, _, item, _, _, same => by
    by_cases empty : items = []
    · obtain rfl := empty
      obtain rfl := alike.eq_nil_iff.mp rfl
      exact ⟨rfl, List.append_cancel_left same⟩
    · have empty' := mt alike.eq_nil_iff.mpr empty
      simp only [yamlValue, List.isEmpty_iff, empty, empty', if_false] at same
      cases item with
      | true =>
        obtain ⟨rfl, rest⟩ := alike.eq_of_yamlItems same
        exact ⟨rfl, rest⟩
      | false =>
        obtain ⟨rfl, rest⟩ := alike.eq_of_yamlItems (List.cons.inj same).2
        exact ⟨rfl, rest⟩
  | .map entries, .map _, .map alike, _, item, _, _, same => by
    by_cases empty : entries = []
    · obtain rfl := empty
      obtain rfl := alike.eq_nil_iff.mp rfl
      exact ⟨rfl, List.append_cancel_left same⟩
    · have empty' := mt alike.eq_nil_iff.mpr empty
      simp only [yamlValue, List.isEmpty_iff, empty, empty', if_false] at same
      cases item with
      | true =>
        obtain ⟨rfl, rest⟩ := alike.eq_of_yamlEntries same
        exact ⟨rfl, rest⟩
      | false =>
        obtain ⟨rfl, rest⟩ := alike.eq_of_yamlEntries (List.cons.inj same).2
        exact ⟨rfl, rest⟩

theorem AlikeItems.eq_of_yamlItems : ∀ {items items' : List Document}, AlikeItems items items' →
    ∀ {depth : ℕ} {continued : Bool} {rest rest' : List Char},
      yamlItems depth continued items ++ rest = yamlItems depth continued items' ++ rest' →
        items = items' ∧ rest = rest'
  | _, _, .nil, _, _, _, _, same => ⟨rfl, same⟩
  | _, _, .cons alike others, _, _, _, _, same => by
    simp only [yamlItems, List.append_assoc, List.append_cancel_left_eq, List.cons_append,
      List.cons_inj_right] at same
    obtain ⟨rfl, later⟩ := alike.eq_of_yamlValue same
    obtain ⟨rfl, rest⟩ := others.eq_of_yamlItems later
    exact ⟨rfl, rest⟩

theorem AlikeEntries.eq_of_yamlEntries : ∀ {entries entries' : List (String × Document)},
    AlikeEntries entries entries' → ∀ {depth : ℕ} {continued : Bool} {rest rest' : List Char},
      yamlEntries depth continued entries ++ rest = yamlEntries depth continued entries' ++ rest' →
        entries = entries' ∧ rest = rest'
  | _, _, .nil, _, _, _, _, same => ⟨rfl, same⟩
  | _, _, .cons _ alike others, _, _, _, _, same => by
    simp only [yamlEntries, List.append_assoc, List.append_cancel_left_eq, List.cons_append,
      List.cons_inj_right] at same
    obtain ⟨rfl, later⟩ := alike.eq_of_yamlValue same
    obtain ⟨rfl, rest⟩ := others.eq_of_yamlEntries later
    exact ⟨rfl, rest⟩

end

/-- Alike documents with the same YAML text are the same. -/
theorem Alike.eq_of_yaml {d d' : Document} (alike : d.Alike d') (same : d.yaml = d'.yaml) :
    d = d' := by
  have scalar : (d.yamlValue 0 false).tail = (d'.yamlValue 0 false).tail →
      (d.yamlValue 0 false).head? = (d'.yamlValue 0 false).head? → d = d' := by
    intro tails heads
    have texts : d.yamlValue 0 false = d'.yamlValue 0 false := by
      cases text : d.yamlValue 0 false <;> cases text' : d'.yamlValue 0 false <;> simp_all
    exact (alike.eq_of_yamlValue (congrArg (· ++ []) texts)).1
  cases alike with
  | bool | nat | float | string => exact scalar same rfl
  | seq items =>
    cases items with
    | nil => rfl
    | cons item items =>
      exact congrArg Document.seq ((AlikeItems.cons item items).eq_of_yamlItems
        (congrArg (· ++ []) same)).1
  | map entries =>
    cases entries with
    | nil => rfl
    | cons key value entries =>
      exact congrArg Document.map ((AlikeEntries.cons key value entries).eq_of_yamlEntries
        (congrArg (· ++ []) same)).1

end Document

/-! ## The end of a text -/

/-- A text ends with one line break, right after something visible. -/
def EndsVisibly (text : List Char) : Prop :=
  ∃ body last, text = body ++ [last, '\n'] ∧ ¬ isWhiteSpace last

theorem EndsVisibly.append {text : List Char} (ends : EndsVisibly text) (before : List Char) :
    EndsVisibly (before ++ text) := by
  obtain ⟨body, last, rfl, visible⟩ := ends
  exact ⟨before ++ body, last, (List.append_assoc ..).symm, visible⟩

/-- A text without white space ends visibly with its line break. -/
theorem endsVisibly_line {text : List Char} (nonempty : text ≠ [])
    (visible : ∀ c ∈ text, ¬ isWhiteSpace c) : EndsVisibly (text ++ ['\n']) := by
  refine ⟨text.dropLast, text.getLast nonempty, ?_, visible _ (List.getLast_mem nonempty)⟩
  conv_lhs => rw [← List.dropLast_append_getLast nonempty]
  simp

theorem IsDigits.visible {text : List Char} (digits : IsDigits text) :
    ∀ c ∈ text, ¬ isWhiteSpace c := by
  intro c mem
  have digit := digits.2 c mem
  simp only [Char.isDigit, Bool.and_eq_true, decide_eq_true_eq] at digit
  have bounds : 48 ≤ c.toNat ∧ c.toNat ≤ 57 := digit
  simp only [isWhiteSpace, List.mem_cons, List.not_mem_nil, or_false, decide_eq_true_eq]
  omega

/-- The text of a number has a character, and no white space. -/
theorem IsNumber.visible {text : List Char} (number : IsNumber text) :
    text ≠ [] ∧ ∀ c ∈ text, ¬ isWhiteSpace c := by
  have decimal : ∀ {text : List Char}, IsDecimal text →
      text ≠ [] ∧ ∀ c ∈ text, ¬ isWhiteSpace c := by
    rintro text (whole | ⟨whole, fraction, isWhole, isFraction, rfl⟩)
    · exact ⟨whole.1, whole.visible⟩
    · refine ⟨by simp, fun c mem => ?_⟩
      rcases List.mem_append.mp mem with inWhole | inFraction
      · exact isWhole.visible c inWhole
      · rcases List.mem_cons.mp inFraction with rfl | inFraction
        · decide
        · exact isFraction.visible c inFraction
  rcases number with rfl | ⟨sign, signs, rest, rfl | isDecimal, rfl⟩
  · simp [isWhiteSpace]
  · rcases List.mem_pair.mp signs with rfl | rfl <;> simp [isWhiteSpace]
  · obtain ⟨nonempty, visible⟩ := decimal isDecimal
    rcases List.mem_pair.mp signs with rfl | rfl
    · exact ⟨nonempty, visible⟩
    · exact ⟨by simp, List.forall_mem_cons.mpr ⟨by decide, visible⟩⟩

theorem boolText_visible (b : Bool) :
    (boolText b).toList ≠ [] ∧ ∀ c ∈ (boolText b).toList, ¬ isWhiteSpace c := by
  cases b <;> simp [boolText, isWhiteSpace]

theorem floatText_visible (x : Float) :
    (floatText x).toList ≠ [] ∧ ∀ c ∈ (floatText x).toList, ¬ isWhiteSpace c := by
  obtain ⟨nonempty, visible⟩ := (isNumber_displayFloat x).visible
  unfold floatText
  split
  · rw [String.toList_append]
    refine ⟨by simp, fun c mem => ?_⟩
    rcases List.mem_append.mp mem with number | zero
    · exact visible c number
    · have suffix : c ∈ ['.', '0'] := zero
      rcases List.mem_pair.mp suffix with rfl | rfl <;> decide
  · exact ⟨nonempty, visible⟩

namespace Document

mutual

/-- What ends plainly ends with one line break in YAML. -/
theorem endsVisibly_yamlValue : ∀ (d : Document) (depth : ℕ) (item : Bool), d.endsPlain = true →
    EndsVisibly (d.yamlValue depth item)
  | bool b, _, _, _ =>
    .append (endsVisibly_line (boolText_visible b).1 (boolText_visible b).2) [' ']
  | nat n, _, _, _ =>
    have digits := isDigits_toDigits n
    .append (endsVisibly_line digits.1 digits.visible) [' ']
  | float x, _, _, _ =>
    .append (endsVisibly_line (floatText_visible x).1 (floatText_visible x).2) [' ']
  | string _, _, _, plain => by cases plain
  | seq items, depth, item, plain => by
    unfold yamlValue
    split
    · exact ⟨[' ', '['], ']', rfl, by decide⟩
    · rename_i nonempty
      have items_ne : items ≠ [] := by simpa using nonempty
      split
      · exact endsVisibly_yamlItems items (depth + 1) true items_ne plain
      · exact (endsVisibly_yamlItems items depth false items_ne plain).append ['\n']
  | map entries, depth, item, plain => by
    unfold yamlValue
    split
    · exact ⟨[' ', '\x7b'], '\x7d', rfl, by decide⟩
    · rename_i nonempty
      have entries_ne : entries ≠ [] := by simpa using nonempty
      split
      · exact endsVisibly_yamlEntries entries (depth + 1) true entries_ne plain
      · exact (endsVisibly_yamlEntries entries (depth + 1) false entries_ne plain).append ['\n']

theorem endsVisibly_yamlItems : ∀ (items : List Document) (depth : ℕ) (continued : Bool),
    items ≠ [] → itemsEndPlain items = true → EndsVisibly (yamlItems depth continued items)
  | [], _, _, nonempty, _ => absurd rfl nonempty
  | [item], depth, continued, _, plain => by
    have ends := (endsVisibly_yamlValue item depth true plain).append
      ((if continued then [' '] else indentation depth) ++ ['-'])
    simpa [yamlItems] using ends
  | item :: next :: items, depth, continued, _, plain => by
    rw [yamlItems]
    exact (endsVisibly_yamlItems (next :: items) depth false (by simp) plain).append _

theorem endsVisibly_yamlEntries : ∀ (entries : List (String × Document)) (depth : ℕ)
    (continued : Bool), entries ≠ [] → entriesEndPlain entries = true →
      EndsVisibly (yamlEntries depth continued entries)
  | [], _, _, nonempty, _ => absurd rfl nonempty
  | [(key, value)], depth, continued, _, plain => by
    have ends := (endsVisibly_yamlValue value depth false plain).append
      ((if continued then [' '] else indentation depth) ++ yamlString key ++ [':'])
    simpa [yamlEntries] using ends
  | (key, value) :: next :: entries, depth, continued, _, plain => by
    rw [yamlEntries]
    exact (endsVisibly_yamlEntries (next :: entries) depth false (by simp) plain).append _

end

theorem endsVisibly_yaml (d : Document) (plain : d.endsPlain = true) : EndsVisibly d.yaml := by
  cases d with
  | bool b => exact endsVisibly_line (boolText_visible b).1 (boolText_visible b).2
  | nat n =>
    have digits := isDigits_toDigits n
    exact endsVisibly_line digits.1 digits.visible
  | float x => exact endsVisibly_line (floatText_visible x).1 (floatText_visible x).2
  | string s => cases plain
  | seq items =>
    cases items with
    | nil => exact ⟨['['], ']', rfl, by decide⟩
    | cons item items => exact endsVisibly_yamlItems (item :: items) 0 false (by simp) plain
  | map entries =>
    cases entries with
    | nil => exact ⟨['\x7b'], '\x7d', rfl, by decide⟩
    | cons entry entries => exact endsVisibly_yamlEntries (entry :: entries) 0 false (by simp) plain

end Document

end BusExporter.Foundation
