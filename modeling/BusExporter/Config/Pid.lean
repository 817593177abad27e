import BusExporter.Config.Accepted
import BusExporter.Foundation.Hex

/-!
# Provisioned IDs

A PID is spelled with at most one prefix and exactly twelve hexadecimal digits. The
validator strips any number of prefixes, and its number parser takes a plus sign
before the digits, so that it accepts two kinds of texts that spell no PID. Apart
from these it accepts exactly the spellings.
-/

namespace BusExporter

open Foundation

/-! ## Spellings -/

/-- Twelve hexadecimal digits: a 48-bit number. -/
def TwelveDigits (digits : List Char) : Prop := digits.length = 12 ∧ ∀ c ∈ digits, IsHexDigit c

/-- An optional `0x` or `0X` and twelve hexadecimal digits. -/
def SpellsPid (pid : String) : Prop :=
  ∃ mark ∈ ["", "0x", "0X"], ∃ digits, TwelveDigits digits ∧ pid.toList = mark.toList ++ digits

/-- Copies of `0x` and then of `0X`. -/
def marks (lower upper : ℕ) : List Char :=
  (List.replicate lower "0x".toList).flatten ++ (List.replicate upper "0X".toList).flatten

/-- A plus sign and eleven hexadecimal digits. -/
def SignedDigits (text : List Char) : Prop :=
  ∃ digits, text = '+' :: digits ∧ digits.length = 11 ∧ ∀ c ∈ digits, IsHexDigit c

/-- A text that the validator takes for a spelling: two or more prefixes before twelve digits, or
a sign before eleven. -/
def MisspellsPid (pid : String) : Prop :=
  ∃ lower upper text, pid.toList = marks lower upper ++ text ∧
    (2 ≤ lower + upper ∧ TwelveDigits text ∨ SignedDigits text)

/-! ## Stripping -/

theorem stripStart_eq_none_iff (pattern text : List Char) :
    stripStart pattern text = none ↔ ¬ pattern <+: text := by
  rw [Option.eq_none_iff_forall_ne_some]
  constructor
  · rintro unmatched ⟨rest, rfl⟩
    exact unmatched rest ((stripStart_eq_some _ _ _).mpr rfl)
  · rintro unmatched rest stripped
    exact unmatched ⟨rest, ((stripStart_eq_some _ _ _).mp stripped).symm⟩

/-- A text without an `x` of the case of a prefix does not start with it. -/
theorem stripStart_of_notMem {x : Char} {text : List Char} (absent : x ∉ text) :
    stripStart ['0', x] text = none := by
  rw [stripStart_eq_none_iff]
  rintro ⟨rest, rfl⟩
  simp at absent

theorem notMem_of_isHexDigit {x : Char} (letter : ¬ IsHexDigit x) {digits : List Char}
    (hex : ∀ c ∈ digits, IsHexDigit c) : x ∉ digits :=
  fun mem => letter (hex x mem)

theorem TwelveDigits.notMem {digits : List Char} (twelve : TwelveDigits digits) {x : Char}
    (letter : ¬ IsHexDigit x) : x ∉ digits :=
  notMem_of_isHexDigit letter twelve.2

theorem SignedDigits.notMem {text : List Char} (signed : SignedDigits text) {x : Char}
    (letter : ¬ IsHexDigit x) (noSign : x ≠ '+') : x ∉ text := by
  obtain ⟨digits, rfl, -, hex⟩ := signed
  rw [List.mem_cons, not_or]
  exact ⟨noSign, notMem_of_isHexDigit letter hex⟩

/-- What the validator parses once the prefixes are stripped. -/
def Parsed (text : List Char) : Prop := TwelveDigits text ∨ SignedDigits text

theorem Parsed.notMem {text : List Char} (parsed : Parsed text) {x : Char}
    (letter : ¬ IsHexDigit x) (noSign : x ≠ '+') : x ∉ text := by
  rcases parsed with twelve | signed
  · exact twelve.notMem letter
  · exact signed.notMem letter noSign

/-- All prefixes are stripped from what is parsed. -/
theorem pidDigits_eq {pid : String} {lower upper : ℕ} {text : List Char} (parsed : Parsed text)
    (split : pid.toList = marks lower upper ++ text) : pidDigits pid = text := by
  have noLower : stripStart "0x".toList ((List.replicate upper "0X".toList).flatten ++ text) =
      none := by
    cases upper with
    | zero => exact stripStart_of_notMem (parsed.notMem (by decide) (by decide))
    | succ upper => rfl
  have noUpper : stripStart "0X".toList text = none :=
    stripStart_of_notMem (parsed.notMem (by decide) (by decide))
  rw [pidDigits, split, marks, List.append_assoc, trimStartMatches_replicate (by decide),
    trimStartMatches_of_none noLower, trimStartMatches_replicate (by decide),
    trimStartMatches_of_none noUpper]

/-- Every text is some prefixes and the rest. -/
theorem exists_marks (pid : String) :
    ∃ lower upper, pid.toList = marks lower upper ++ pidDigits pid := by
  obtain ⟨lower, outer⟩ := eq_replicate_append_trimStartMatches "0x".toList pid.toList
  obtain ⟨upper, inner⟩ := eq_replicate_append_trimStartMatches "0X".toList
    (trimStartMatches "0x".toList pid.toList)
  refine ⟨lower, upper, ?_⟩
  rw [marks, pidDigits, List.append_assoc, ← inner]
  exact outer

/-! ## What the validator accepts -/

/-- What parses are hexadecimal digits, after a plus sign or not. -/
theorem isHexDigit_of_parses {text : List Char} (parses : (parseRadix 16 (2 ^ 64) text).isSome) :
    ∀ c ∈ (stripStart ['+'] text).getD text, IsHexDigit c := by
  rw [← digitsValue_isSome_iff]
  obtain ⟨value, parsed⟩ := Option.isSome_iff_exists.mp parses
  unfold parseRadix at parsed
  simp only at parsed
  split at parsed
  · cases parsed
  · exact Option.isSome_iff_exists.mpr ⟨value, (Option.filter_eq_some_iff.mp parsed).1⟩

/-- Digits that are not too many parse. -/
theorem parses_of_isHexDigit {text : List Char}
    (nonempty : (stripStart ['+'] text).getD text ≠ [])
    (few : ((stripStart ['+'] text).getD text).length ≤ 12)
    (hex : ∀ c ∈ (stripStart ['+'] text).getD text, IsHexDigit c) :
    (parseRadix 16 (2 ^ 64) text).isSome := by
  obtain ⟨value, valued⟩ := Option.isSome_iff_exists.mp ((digitsValue_isSome_iff _).mpr hex)
  have bound : value < 2 ^ 64 := (digitsValue_lt valued).trans_le <|
    (Nat.pow_le_pow_right (by decide) few).trans (by decide)
  unfold parseRadix
  simp only
  rw [if_neg nonempty, valued]
  exact Option.isSome_iff_exists.mpr
    ⟨value, Option.filter_eq_some_iff.mpr ⟨rfl, decide_eq_true bound⟩⟩

theorem parses_iff (text : List Char) :
    utf8Length text = 12 ∧ (parseRadix 16 (2 ^ 64) text).isSome ↔ Parsed text := by
  -- The parser takes a plus sign, which counts as one of the twelve bytes.
  cases signed : stripStart ['+'] text with
  | some digits =>
    have split : text = '+' :: digits := (stripStart_eq_some _ _ _).mp signed
    have length : utf8Length text = 1 + utf8Length digits := by
      rw [split, utf8Length, List.map_cons, List.sum_cons]
      rfl
    constructor
    · rintro ⟨twelve, parses⟩
      have hex := isHexDigit_of_parses parses
      rw [signed, Option.getD_some] at hex
      rw [length, utf8Length_of_isHexDigit hex] at twelve
      exact .inr ⟨digits, split, by omega, hex⟩
    · rintro (⟨-, hex⟩ | ⟨digits', split', eleven, hex⟩)
      · exact absurd (hex '+' (by simp [split])) (by decide)
      · obtain rfl : digits = digits' := (List.cons.inj (split.symm.trans split')).2
        refine ⟨by rw [length, utf8Length_of_isHexDigit hex, eleven], ?_⟩
        refine parses_of_isHexDigit ?_ ?_ ?_ <;> rw [signed, Option.getD_some]
        · exact List.ne_nil_of_length_pos (by omega)
        · omega
        · exact hex
  | none =>
    constructor
    · rintro ⟨twelve, parses⟩
      have hex := isHexDigit_of_parses parses
      rw [signed, Option.getD_none] at hex
      rw [utf8Length_of_isHexDigit hex] at twelve
      exact .inl ⟨twelve, hex⟩
    · rintro (⟨twelve, hex⟩ | ⟨digits, rfl, -⟩)
      · refine ⟨by rw [utf8Length_of_isHexDigit hex, twelve], ?_⟩
        refine parses_of_isHexDigit ?_ ?_ ?_ <;> rw [signed, Option.getD_none]
        · exact List.ne_nil_of_length_pos (by omega)
        · omega
        · exact hex
      · simp [stripStart] at signed

theorem validPid_iff (pid : String) : validPid pid ↔ Parsed (pidDigits pid) := by
  rw [← parses_iff, validPid, decide_eq_true_iff]

theorem length_marks (lower upper : ℕ) : (marks lower upper).length = 2 * (lower + upper) := by
  simp [marks, List.length_flatten]
  omega

theorem spellsPid_iff (pid : String) :
    SpellsPid pid ↔ ∃ lower upper text, pid.toList = marks lower upper ++ text ∧
      lower + upper < 2 ∧ TwelveDigits text := by
  constructor
  · rintro ⟨mark, known, digits, twelve, spelled⟩
    simp only [List.mem_cons, List.not_mem_nil, or_false] at known
    rcases known with rfl | rfl | rfl
    · exact ⟨0, 0, digits, spelled, by decide, twelve⟩
    · exact ⟨1, 0, digits, spelled, by decide, twelve⟩
    · exact ⟨0, 1, digits, spelled, by decide, twelve⟩
  · rintro ⟨lower, upper, text, split, few, twelve⟩
    obtain ⟨rfl, rfl⟩ | ⟨rfl, rfl⟩ | ⟨rfl, rfl⟩ :
        lower = 0 ∧ upper = 0 ∨ lower = 1 ∧ upper = 0 ∨ lower = 0 ∧ upper = 1 := by omega
    · exact ⟨"", by simp, text, twelve, split⟩
    · exact ⟨"0x", by simp, text, twelve, split⟩
    · exact ⟨"0X", by simp, text, twelve, split⟩

theorem validPid_of_split {pid : String} {lower upper : ℕ} {text : List Char}
    (split : pid.toList = marks lower upper ++ text) (parsed : Parsed text) : validPid pid := by
  rw [validPid_iff, pidDigits_eq parsed split]
  exact parsed

/-- A text is a spelling or a misspelling, not both. -/
theorem not_misspellsPid {pid : String} (spells : SpellsPid pid) : ¬ MisspellsPid pid := by
  obtain ⟨lower, upper, text, split, few, twelve⟩ := (spellsPid_iff pid).mp spells
  rintro ⟨lower', upper', text', split', wrong⟩
  have parsed' : Parsed text' := wrong.imp And.right id
  obtain rfl : text = text' :=
    (pidDigits_eq (.inl twelve) split).symm.trans (pidDigits_eq parsed' split')
  rcases wrong with ⟨many, -⟩ | signed
  · have lengths := congrArg List.length (split.symm.trans split')
    rw [List.length_append, List.length_append, length_marks, length_marks] at lengths
    omega
  · obtain ⟨digits, rfl, -⟩ := signed
    exact absurd (twelve.2 '+' (by simp)) (by decide)

/-- The validator takes a text for a spelling of a PID exactly if it is one, unless the text is a
misspelling. -/
theorem validPid_spells_iff (pid : String) :
    (validPid pid = true ↔ SpellsPid pid) ↔ ¬ MisspellsPid pid := by
  constructor
  · rintro exact misspells
    obtain ⟨lower, upper, text, split, wrong⟩ := misspells
    have valid := validPid_of_split split (wrong.imp And.right id)
    exact not_misspellsPid (exact.mp valid) ⟨lower, upper, text, split, wrong⟩
  · intro spelled
    constructor
    · intro valid
      obtain ⟨lower, upper, split⟩ := exists_marks pid
      rw [spellsPid_iff]
      rcases (validPid_iff pid).mp valid with twelve | signed
      · refine ⟨lower, upper, _, split, ?_, twelve⟩
        -- Twelve digits after two prefixes would be a misspelling.
        by_contra many
        exact spelled ⟨lower, upper, _, split, .inl ⟨Nat.le_of_not_lt many, twelve⟩⟩
      · exact absurd ⟨lower, upper, _, split, .inr signed⟩ spelled
    · intro spells
      obtain ⟨lower, upper, text, split, -, twelve⟩ := (spellsPid_iff pid).mp spells
      exact validPid_of_split split (.inl twelve)

/-! ## A configuration -/

/-- A collector with a PID. -/
def CollectorConfig.withPid (c : CollectorConfig) (bus pid : String) : CollectorConfig :=
  { c with protocol := .i3c bus (some pid) }

/-- A configuration one of whose collectors has a PID. -/
def Config.withPid (config : Config) (before after : List CollectorConfig) (c : CollectorConfig)
    (bus pid : String) : Config :=
  { config with collectors := before ++ c.withPid bus pid :: after }

theorem validateProtocol_withPid (c : CollectorConfig) (bus pid : String) :
    validateProtocol (c.withPid bus pid) = .ok () ↔
      bus ≠ "" ∧ c.slaveId = none ∧ validPid pid := by
  have protocol : (c.withPid bus pid).protocol = .i3c bus (some pid) := rfl
  have slave : (c.withPid bus pid).slaveId = c.slaveId := rfl
  simp only [validateProtocol, protocol, validateI3cModes, validatePid, then_eq_ok, bail_eq_ok,
    checkSome_eq_ok, slave]
  simp

/-- Where one PID is accepted, another one is accepted exactly if it is valid. -/
theorem validateCollector_withPid {c : CollectorConfig} {bus good : String}
    (valid : validateCollector (c.withPid bus good) = .ok ()) (pid : String) :
    validateCollector (c.withPid bus pid) = .ok () ↔ validPid pid := by
  rw [validateCollector_eq_ok, validateProtocol_withPid] at valid ⊢
  obtain ⟨⟨hasBus, noSlave, -⟩, others⟩ := valid
  constructor
  · rintro ⟨⟨-, -, validPid⟩, -⟩
    exact validPid
  · -- The other checks do not look at the PID.
    exact fun validPid => ⟨⟨hasBus, noSlave, validPid⟩, others⟩

/-- With everything else valid, `Config.validate` accepts a PID exactly if `validPid` does. -/
theorem validate_withPid {config : Config} {before after : List CollectorConfig}
    {c : CollectorConfig} {bus good : String}
    (valid : (config.withPid before after c bus good).validate = .ok ()) (pid : String) :
    (config.withPid before after c bus pid).validate = .ok () ↔ validPid pid := by
  rw [Config.validate_eq_ok] at valid ⊢
  obtain ⟨exporters, -, distinct, collectors⟩ := valid
  simp only [Config.withPid, List.forall_mem_append, List.forall_mem_cons] at collectors
  have single := validateCollector_withPid collectors.2.1 pid
  constructor
  · rintro ⟨-, -, -, all⟩
    exact single.mp (all _ (by simp [Config.withPid]))
  · intro validPid
    refine ⟨exporters, by simp [Config.withPid], ?_, ?_⟩
    · simpa [Config.withPid, CollectorConfig.withPid] using distinct
    · simp only [Config.withPid, List.forall_mem_append, List.forall_mem_cons]
      exact ⟨collectors.1, single.mpr validPid, collectors.2.2⟩

/-- **The validator accepts exactly the spellings of a PID, unless the text repeats a prefix or
has a sign**: for every text and everything else valid. -/
theorem acceptsSpellings_iff (config : Config) (before after : List CollectorConfig)
    (c : CollectorConfig) (bus : String)
    (othersValid : ∃ good, (config.withPid before after c bus good).validate = .ok ())
    (pid : String) :
    ((config.withPid before after c bus pid).validate = .ok () ↔ SpellsPid pid) ↔
      ¬ MisspellsPid pid := by
  obtain ⟨good, valid⟩ := othersValid
  rw [validate_withPid valid]
  exact validPid_spells_iff pid

namespace Samples

/-- An I3C collector without an address mode. -/
def i3cSensor : CollectorConfig where
  name := "i3c-sensor"
  protocol := .i3c "/dev/i3c-0"
  metrics := [{
    name := "temperature", metricType := .gauge, address := some 0x10, dataType := .u16 }]

/-- The configuration of the sensor with a PID. -/
def i3cConfig (pid : String) : Config :=
  (configOf i3cSensor).withPid [] [] i3cSensor "/dev/i3c-0" pid

end Samples

/-- A PID with its prefix twice is accepted. -/
theorem repeated_prefix_accepted :
    ¬ ∀ pid, (Samples.i3cConfig pid).validate = .ok () ↔ SpellsPid pid := by
  intro exact
  have accepted : (Samples.i3cConfig "0x0x0123456789AB").validate = .ok () := by decide
  obtain ⟨lower, upper, text, split, few, twelve⟩ :=
    (spellsPid_iff _).mp ((exact "0x0x0123456789AB").mp accepted)
  have lengths := congrArg List.length split
  rw [List.length_append, length_marks, twelve.1] at lengths
  have sixteen : "0x0x0123456789AB".toList.length = 16 := by decide
  omega

theorem acceptsSpellings_iff_repeated_prefix :
    ((Samples.i3cConfig "0x0x0123456789AB").validate = .ok () ↔ SpellsPid "0x0x0123456789AB") ↔
      ¬ MisspellsPid "0x0x0123456789AB" :=
  acceptsSpellings_iff (Samples.configOf Samples.i3cSensor) [] [] Samples.i3cSensor "/dev/i3c-0"
    ⟨"0x0123456789AB", by decide⟩ "0x0x0123456789AB"

end BusExporter
