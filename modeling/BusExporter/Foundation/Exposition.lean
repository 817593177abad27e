import BusExporter.Foundation.FloatText

/-!
# The text exposition format

A body of metrics is text, one line for each sample and two lines of metadata for
each family of samples. A label value stands between quotes, with the quote, the
backslash and the line break escaped, so that a reader finds its end and can
restore it.
-/

namespace BusExporter.Foundation

/-! ## Names and label values -/

/-- `[a-zA-Z_][a-zA-Z0-9_]*`. -/
def isNameText : List Char → Bool
  | [] => false
  | first :: rest => (first.isAlpha || first = '_') && rest.all fun c => c.isAlphanum || c = '_'

def IsName (name : String) : Prop := isNameText name.toList = true

instance (name : String) : Decidable (IsName name) := inferInstanceAs (Decidable (_ = true))

theorem isName_iff {name : String} :
    IsName name ↔ ∃ first rest, name.toList = first :: rest ∧ (first.isAlpha ∨ first = '_') ∧
      ∀ c ∈ rest, c.isAlphanum ∨ c = '_' := by
  unfold IsName
  cases name.toList with
  | nil => simp [isNameText]
  | cons first rest => simp [isNameText]

def escapeChar (c : Char) : List Char :=
  if c = '\\' then ['\\', '\\']
  else if c = '"' then ['\\', '"']
  else if c = '\n' then ['\\', 'n']
  else [c]

/-- The form of a label value between quotes. -/
def escape (text : String) : String := String.ofList (text.toList.flatMap escapeChar)

/-- A text without a character that has to be escaped. -/
def Plain (text : String) : Prop := ∀ c ∈ text.toList, c ≠ '\\' ∧ c ≠ '"' ∧ c ≠ '\n'

theorem newline_not_mem_escapeChar (c : Char) : '\n' ∉ escapeChar c := by
  unfold escapeChar
  split_ifs with backslash quote newline
  · decide
  · decide
  · decide
  · simpa using Ne.symm newline

theorem newline_not_mem_escape (text : String) : '\n' ∉ (escape text).toList := by
  rw [escape, String.toList_ofList, List.mem_flatMap]
  rintro ⟨c, -, mem⟩
  exact newline_not_mem_escapeChar c mem

theorem escape_of_plain {text : String} (plain : Plain text) : escape text = text := by
  have same : ∀ c ∈ text.toList, escapeChar c = [c] := by
    intro c mem
    obtain ⟨backslash, quote, newline⟩ := plain c mem
    rw [escapeChar, if_neg backslash, if_neg quote, if_neg newline]
  rw [escape, List.flatMap_congr same, List.flatMap_singleton', String.ofList_toList]

theorem length_le_escape (text : List Char) :
    text.length ≤ (text.flatMap escapeChar).length := by
  induction text with
  | nil => simp
  | cons c text ih =>
    have one : 1 ≤ (escapeChar c).length := by
      unfold escapeChar
      split_ifs <;> simp
    rw [List.flatMap_cons, List.length_append, List.length_cons]
    omega

theorem length_escape_ge (text : String) : text.toList.length ≤ (escape text).toList.length := by
  rw [escape, String.toList_ofList]
  exact length_le_escape text.toList

/-- Escaping lengthens a text in which something is escaped. -/
theorem plain_of_length_escape {text : String}
    (short : (escape text).toList.length ≤ text.toList.length) : Plain text := by
  rw [escape, String.toList_ofList] at short
  unfold Plain
  generalize text.toList = chars at short
  induction chars with
  | nil => simp
  | cons c chars ih =>
    rw [List.flatMap_cons, List.length_append, List.length_cons] at short
    have rest := length_le_escape chars
    -- Neither this character nor the rest may get longer, as each is at least as long.
    have single : (escapeChar c).length ≤ 1 := by omega
    have unescaped : c ≠ '\\' ∧ c ≠ '"' ∧ c ≠ '\n' := by
      refine ⟨?_, ?_, ?_⟩ <;>
      · rintro rfl
        exact absurd single (by decide)
    have one : 1 ≤ (escapeChar c).length := by
      unfold escapeChar
      split_ifs <;> simp
    rw [List.forall_mem_cons]
    exact ⟨unescaped, ih (by omega)⟩

theorem escapeChar_injective {c c' : Char} {rest rest' : List Char}
    (same : escapeChar c ++ rest = escapeChar c' ++ rest') : c = c' ∧ rest = rest' := by
  unfold escapeChar at same
  split_ifs at same <;> simp only [List.cons_append, List.nil_append, List.cons.injEq] at same <;>
    grind

/-- A text can be restored from its escaped form. -/
theorem escape_injective {text text' : String} (same : escape text = escape text') :
    text = text' := by
  have chars : ∀ cs cs' : List Char, cs.flatMap escapeChar = cs'.flatMap escapeChar → cs = cs' := by
    intro cs
    induction cs with
    | nil =>
      intro cs' same
      cases cs' with
      | nil => rfl
      | cons c cs' =>
        have longer := congrArg List.length same
        have one := length_le_escape (c :: cs')
        simp only [List.flatMap_nil, List.length_nil, List.length_cons] at longer one
        omega
    | cons c cs ih =>
      intro cs' same
      cases cs' with
      | nil =>
        have longer := congrArg List.length same
        have one := length_le_escape (c :: cs)
        simp only [List.flatMap_nil, List.length_nil, List.length_cons] at longer one
        omega
      | cons c' cs' =>
        rw [List.flatMap_cons, List.flatMap_cons] at same
        obtain ⟨rfl, rest⟩ := escapeChar_injective same
        rw [ih cs' rest]
  rw [escape, escape, String.ofList_inj] at same
  exact String.toList_inj.mp (chars _ _ same)

/-! ## Lines -/

/-- A line of a body, with its label values as they stand between the quotes. -/
inductive BodyLine where
  | blank
  | help (name text : String)
  | type (name kind : String)
  | sample (name : String) (labels : List (String × String)) (value : String)
  deriving DecidableEq

def labelText (label : String × String) : String :=
  label.1 ++ "=\"" ++ label.2 ++ "\""

namespace BodyLine

def text : BodyLine → String
  | blank => ""
  | help name text => "# HELP " ++ name ++ " " ++ text
  | type name kind => "# TYPE " ++ name ++ " " ++ kind
  | sample name labels value =>
    if labels = [] then name ++ " " ++ value
    else name ++ "\x7b" ++ ",".intercalate (labels.map labelText) ++ "\x7d " ++ value

def isSample : BodyLine → Bool
  | sample .. => true
  | _ => false

/-- The names are names, the label values are escaped texts, and the value is a number. -/
def WellFormed : BodyLine → Prop
  | blank => True
  | help name text => IsName name ∧ '\n' ∉ text.toList
  | type name kind => IsName name ∧ (kind = "gauge" ∨ kind = "counter")
  | sample name labels value =>
    IsName name ∧ (∀ label ∈ labels, IsName label.1 ∧ ∃ original, label.2 = escape original) ∧
      IsNumber value.toList

end BodyLine

/-- The text of lines, each with a line break at its end. -/
def bodyText (lines : List BodyLine) : String :=
  String.ofList (lines.flatMap fun line => line.text.toList ++ ['\n'])

/-- A sample, with the texts that its labels have before they are escaped. -/
structure Sample where
  name : String
  labels : List (String × String)
  value : String

def Sample.line (sample : Sample) : BodyLine :=
  .sample sample.name (sample.labels.map fun label => (label.1, escape label.2)) sample.value

/-- The line of a sample with its label values as they are. -/
def Sample.written (sample : Sample) : BodyLine :=
  .sample sample.name sample.labels sample.value

/-- Each line of a body is well formed, and its samples are the given ones, in some order, with
their label values escaped. -/
def Reports (body : String) (samples : List Sample) : Prop :=
  ∃ lines : List BodyLine, body.toList.splitOn '\n' = lines.map (·.text.toList) ∧
    (∀ line ∈ lines, line.WellFormed) ∧ (lines.filter (·.isSample)).Perm (samples.map Sample.line)

/-- The order in which the samples are listed does not matter. -/
theorem Reports.perm {body : String} {samples others : List Sample} (reports : Reports body samples)
    (same : samples.Perm others) : Reports body others := by
  obtain ⟨lines, text, wellFormed, listed⟩ := reports
  exact ⟨lines, text, wellFormed, listed.trans (same.map Sample.line)⟩

/-! ## Reading the lines back -/

theorem IsName.newline_not_mem {name : String} (isName : IsName name) : '\n' ∉ name.toList := by
  obtain ⟨first, rest, chars, start, others⟩ := isName_iff.mp isName
  rw [chars]
  rintro (_ | ⟨_, mem⟩)
  · revert start
    decide
  · exact absurd (others _ mem) (by decide)

theorem newline_not_mem_labelText {label : String × String} (name : IsName label.1)
    (value : '\n' ∉ label.2.toList) : '\n' ∉ (labelText label).toList := by
  simp [labelText, name.newline_not_mem, value]

theorem newline_not_mem_intercalate {texts : List String}
    (none : ∀ text ∈ texts, '\n' ∉ text.toList) : '\n' ∉ (",".intercalate texts).toList := by
  induction texts with
  | nil => simp
  | cons text texts ih =>
    rw [List.forall_mem_cons] at none
    cases texts with
    | nil => simpa using none.1
    | cons next texts =>
      rw [String.intercalate_cons_cons]
      simp [-String.toList_intercalate, none.1, ih none.2]

theorem BodyLine.WellFormed.newline_not_mem {line : BodyLine} (wellFormed : line.WellFormed) :
    '\n' ∉ line.text.toList := by
  cases line with
  | blank => simp [text]
  | help name content => simp [text, wellFormed.1.newline_not_mem, wellFormed.2]
  | type name kind =>
    obtain ⟨isName, rfl | rfl⟩ := wellFormed <;> simp [text, isName.newline_not_mem]
  | sample name labels value =>
    obtain ⟨isName, isLabel, isNumber⟩ := wellFormed
    have joined : '\n' ∉ (",".intercalate (labels.map labelText)).toList := by
      refine newline_not_mem_intercalate fun content mem => ?_
      obtain ⟨label, inside, rfl⟩ := List.mem_map.mp mem
      obtain ⟨labelName, original, escaped⟩ := isLabel label inside
      exact newline_not_mem_labelText labelName (escaped ▸ newline_not_mem_escape original)
    by_cases unlabelled : labels = []
    · simp [text, unlabelled, isName.newline_not_mem, isNumber.newline_not_mem]
    · simp [text, unlabelled, isName.newline_not_mem, isNumber.newline_not_mem, joined,
        -String.toList_intercalate]

/-- The lines of a text come back when it is split at its line breaks. -/
theorem splitOn_bodyText {lines : List BodyLine}
    (unbroken : ∀ line ∈ lines, '\n' ∉ line.text.toList) :
    (bodyText lines).toList.splitOn '\n' = (lines ++ [BodyLine.blank]).map (·.text.toList) := by
  rw [bodyText, String.toList_ofList]
  induction lines with
  | nil => rfl
  | cons line lines ih =>
    rw [List.forall_mem_cons] at unbroken
    rw [List.flatMap_cons, List.append_assoc, List.singleton_append,
      List.splitOn_append_cons_self_of_not_mem unbroken.1, ih unbroken.2]
    rfl

/-! ## The length of the samples

Two bodies with the same samples are equally long, apart from their metadata. A body whose
label values are not escaped is shorter. -/

/-- The length of a line, if it is not a line of metadata. -/
def sampleLength (line : List Char) : ℕ := if line.head? = some '#' then 0 else line.length

/-- The length of all lines of a text that are not metadata. -/
def samplesLength (body : List Char) : ℕ := ((body.splitOn '\n').map sampleLength).sum

theorem samplesLength_append (text rest : List Char) :
    samplesLength (text ++ '\n' :: rest) = samplesLength text + samplesLength rest := by
  rw [samplesLength, List.splitOn_append_cons_self, List.map_append, List.sum_append]
  rfl

theorem sampleLength_le (line : List Char) : sampleLength line ≤ line.length := by
  unfold sampleLength
  split <;> omega

theorem samplesLength_le (text : List Char) : samplesLength text ≤ text.length := by
  have bound : ∀ pieces : List (List Char), (pieces.map sampleLength).sum ≤
      (['\n'].intercalate pieces).length := by
    intro pieces
    induction pieces with
    | nil => simp
    | cons piece pieces ih =>
      have head := sampleLength_le piece
      cases pieces with
      | nil => simpa using head
      | cons next pieces =>
        rw [List.intercalate_cons_cons, List.map_cons, List.sum_cons]
        simp only [List.length_append]
        omega
  have joined := bound (text.splitOn '\n')
  rwa [List.intercalate_splitOn] at joined

/-- The length that a line adds: a sample's own length, and nothing for metadata. -/
def BodyLine.ownLength (line : BodyLine) : ℕ := if line.isSample then line.text.toList.length else 0

theorem IsName.head_ne {name : String} (isName : IsName name) (rest : List Char) :
    (name.toList ++ rest).head? ≠ some '#' := by
  obtain ⟨first, others, chars, start, -⟩ := isName_iff.mp isName
  rw [chars]
  intro same
  rw [List.cons_append, List.head?_cons, Option.some_inj] at same
  subst same
  revert start
  decide

theorem BodyLine.WellFormed.sampleLength_text {line : BodyLine} (wellFormed : line.WellFormed) :
    sampleLength line.text.toList = line.ownLength := by
  cases line with
  | blank => rfl
  | help name content => simp [sampleLength, ownLength, isSample, text]
  | type name kind => simp [sampleLength, ownLength, isSample, text]
  | sample name labels value =>
    refine if_neg ?_
    by_cases unlabelled : labels = []
    · rw [text, if_pos unlabelled, String.append_assoc, String.toList_append]
      exact wellFormed.1.head_ne _
    · rw [text, if_neg unlabelled]
      simp only [String.append_assoc]
      rw [String.toList_append]
      exact wellFormed.1.head_ne _

theorem sum_ownLength (lines : List BodyLine) :
    (lines.map (·.ownLength)).sum =
      ((lines.filter (·.isSample)).map (·.text.toList.length)).sum := by
  induction lines with
  | nil => rfl
  | cons line lines ih =>
    rw [List.map_cons, List.sum_cons, ih]
    cases sample : line.isSample with
    | true => simp [sample, BodyLine.ownLength]
    | false => simp [sample, BodyLine.ownLength]

/-- The samples that a body reports are as long as the lines that are not metadata. -/
theorem Reports.samplesLength_eq {body : String} {samples : List Sample}
    (reports : Reports body samples) :
    samplesLength body.toList = (samples.map (·.line.text.toList.length)).sum := by
  obtain ⟨lines, split, wellFormed, same⟩ := reports
  have lengths : (lines.map (·.text.toList)).map sampleLength = lines.map (·.ownLength) := by
    rw [List.map_map]
    exact List.map_congr_left fun line mem => (wellFormed line mem).sampleLength_text
  rw [samplesLength, split, lengths, sum_ownLength, (same.map _).sum_eq, List.map_map]
  rfl

/-- The samples of lines are at least as long as the lines of their text that are not
metadata. -/
theorem samplesLength_bodyText_le {lines : List BodyLine}
    (metadata : ∀ line ∈ lines, line.isSample = false → line.WellFormed) :
    samplesLength (bodyText lines).toList ≤
      ((lines.filter (·.isSample)).map (·.text.toList.length)).sum := by
  rw [← sum_ownLength, bodyText, String.toList_ofList]
  induction lines with
  | nil => exact le_rfl
  | cons line lines ih =>
    rw [List.forall_mem_cons] at metadata
    have rest := ih metadata.2
    have head : samplesLength line.text.toList ≤ line.ownLength := by
      cases sample : line.isSample with
      | true => simpa [BodyLine.ownLength, sample] using samplesLength_le line.text.toList
      | false =>
        have wellFormed := metadata.1 sample
        rw [samplesLength, List.splitOn_eq_singleton wellFormed.newline_not_mem,
          List.map_singleton, List.sum_singleton, wellFormed.sampleLength_text]
    rw [List.flatMap_cons, List.append_assoc, List.singleton_append, samplesLength_append,
      List.map_cons, List.sum_cons]
    omega

/-! ## Samples that are not escaped -/

/-- The lengths of two lists of texts, joined in the same way, compare as the lists do. -/
theorem length_intercalate_le {texts texts' : List String}
    (shorter : List.Forall₂ (fun t t' => t.toList.length ≤ t'.toList.length) texts texts') :
    (",".intercalate texts).toList.length ≤ (",".intercalate texts').toList.length ∧
      ((",".intercalate texts').toList.length ≤ (",".intercalate texts).toList.length →
        List.Forall₂ (fun t t' => t'.toList.length ≤ t.toList.length) texts texts') := by
  induction shorter with
  | nil => exact ⟨le_rfl, fun _ => .nil⟩
  | @cons t t' texts texts' head tail ih =>
    cases tail with
    | nil =>
      simp only [String.intercalate_singleton]
      exact ⟨head, fun longer => .cons longer .nil⟩
    | cons next tail =>
      simp only [String.intercalate_cons_cons, String.toList_append, List.length_append]
      refine ⟨by omega, fun longer => .cons (by omega) (ih.2 (by omega))⟩

theorem length_labelText (label : String × String) :
    (labelText label).toList.length = label.1.toList.length + label.2.toList.length + 3 := by
  simp [labelText]
  omega

namespace Sample

variable (sample : Sample)

/-- The escaped labels are at least as long as the labels as they are, one by one. -/
theorem forall₂_labelText (labels : List (String × String)) :
    List.Forall₂ (fun t t' => t.toList.length ≤ t'.toList.length) (labels.map labelText)
      ((labels.map fun label => (label.1, escape label.2)).map labelText) := by
  induction labels with
  | nil => exact .nil
  | cons label labels ih =>
    refine .cons ?_ ih
    have longer := length_escape_ge label.2
    simp only [length_labelText]
    omega

theorem length_written_le :
    sample.written.text.toList.length ≤ sample.line.text.toList.length := by
  have joined := (length_intercalate_le (forall₂_labelText sample.labels)).1
  by_cases unlabelled : sample.labels = []
  · simp [written, line, BodyLine.text, unlabelled]
  · simp only [written, line, BodyLine.text, List.map_eq_nil_iff, unlabelled, if_false,
      String.toList_append, List.length_append]
    omega

/-- A sample that is not shortened by leaving out the escapes has none. -/
theorem plain_of_length_le
    (short : sample.line.text.toList.length ≤ sample.written.text.toList.length) :
    ∀ label ∈ sample.labels, Plain label.2 := by
  intro label mem
  have labelled : sample.labels ≠ [] := List.ne_nil_of_mem mem
  simp only [written, line, BodyLine.text, List.map_eq_nil_iff, labelled, if_false,
    String.toList_append, List.length_append] at short
  have each := (length_intercalate_le (forall₂_labelText sample.labels)).2 (by omega)
  rw [List.map_map, List.forall₂_map_left_iff, List.forall₂_map_right_iff, List.forall₂_same]
    at each
  have one := each label mem
  simp only [Function.comp_apply, length_labelText] at one
  exact plain_of_length_escape (by omega)

theorem line_of_plain (plain : ∀ label ∈ sample.labels, Plain label.2) :
    sample.line = sample.written := by
  have same : (sample.labels.map fun label => (label.1, escape label.2)) = sample.labels := by
    rw [List.map_congr_left fun label mem => by rw [escape_of_plain (plain label mem)],
      List.map_id']
  rw [line, written, same]

end Sample

/-- A body in which the labels of some samples are escaped and those of others stand as they are
reports all of them exactly if there was nothing to escape in the others. -/
theorem reports_iff {lines : List BodyLine} {samples unescaped : List Sample}
    (metadata : ∀ line ∈ lines, line.isSample = false → line.WellFormed)
    (same : (lines.filter (·.isSample)).Perm
      (samples.map Sample.line ++ unescaped.map Sample.written))
    (wellFormed : ∀ sample ∈ samples ++ unescaped, sample.line.WellFormed) :
    Reports (bodyText lines) (samples ++ unescaped) ↔
      ∀ sample ∈ unescaped, ∀ label ∈ sample.labels, Plain label.2 := by
  constructor
  · intro reports
    -- The body is too short for the escapes, so there are none.
    have long := reports.samplesLength_eq
    have short := samplesLength_bodyText_le metadata
    rw [(same.map _).sum_eq] at short
    simp only [List.map_append, List.map_map, List.sum_append] at long short
    have sums : (unescaped.map fun sample => sample.line.text.toList.length).sum ≤
        (unescaped.map fun sample => sample.written.text.toList.length).sum := by
      simp only [Function.comp_def] at short
      omega
    intro sample mem
    refine sample.plain_of_length_le ?_
    by_contra shorter
    have strict := List.sum_lt_sum (fun sample => sample.written.text.toList.length)
      (fun sample => sample.line.text.toList.length)
      (fun sample _ => sample.length_written_le) ⟨sample, mem, by omega⟩
    omega
  · intro plain
    have lineOf : unescaped.map Sample.written = unescaped.map Sample.line :=
      List.map_congr_left fun sample mem => (sample.line_of_plain (plain sample mem)).symm
    rw [lineOf, ← List.map_append] at same
    have each : ∀ line ∈ lines, line.WellFormed := by
      intro line mem
      cases sample : line.isSample with
      | false => exact metadata line mem sample
      | true =>
        have inside := same.mem_iff.mp (List.mem_filter.mpr ⟨mem, sample⟩)
        obtain ⟨origin, known, rfl⟩ := List.mem_map.mp inside
        exact wellFormed origin known
    refine ⟨lines ++ [.blank], splitOn_bodyText fun line mem => (each line mem).newline_not_mem,
      fun line mem => ?_, ?_⟩
    · rcases List.mem_append.mp mem with inside | last
      · exact each line inside
      · rw [List.mem_singleton.mp last]
        trivial
    · rw [List.filter_append]
      simpa [BodyLine.isSample] using same

end BusExporter.Foundation
