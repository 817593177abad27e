import BusExporter.Config.Pid
import BusExporter.Reader.I3c

/-!
# Addresses in sysfs

The dynamic address of an I3C device is looked up in the directory of all devices,
by the PID in its `pid` file or by the class in its `dcr` file. PIDs are compared as
texts: a configured one has twelve digits, and the kernel prints none of the leading
zeros. A PID with a leading zero digit is therefore never found.

This is the look-up on Linux; elsewhere only static addresses are resolved.
-/

namespace BusExporter.I3c

open Foundation

/-! ## The look-up -/

/-- `from_str_radix` for an unsigned number below `bound`; the first thing that is wrong decides
the error. -/
def fromStrRadix (radix bound : ℕ) (text : List Char) : Except Error ℕ :=
  if text = [] then .error (.msg "cannot parse integer from empty string")
  else if text = ['+'] ∨ text = ['-'] then .error (.msg "invalid digit found in string")
  else ((stripStart ['+'] text).getD text).foldlM (fun value c =>
    match digitValue radix c with
    | none => .error (.msg "invalid digit found in string")
    | some d =>
      if value * radix + d < bound then .ok (value * radix + d)
      else .error (.msg "number too large to fit in target type")) 0

/-- The directory of a device; each file is read or not. -/
structure SysfsEntry where
  name : String
  pid : Except Error String
  dcr : Except Error String
  dynamicAddress : Except Error String

/-- The content of a `dynamic_address` file. -/
def parseAddress (text : String) : Except Error UInt8 :=
  (fromStrRadix 16 256 (trimStartMatches "0x".toList (trim text.toList))).map UInt8.ofNat

/-- A PID as it is compared: in lower case and without `0x`. -/
def normalizePid (pid : String) : List Char := removeAll "0x".toList (toLowercase pid)

/-- The PID in a `pid` file. -/
def devPid (content : String) : List Char := normalizePid (String.ofList (trim content.toList))

/-- The loop over the devices; one whose files cannot be read is passed over. -/
def findPid (pid : String) : List (Except Error SysfsEntry) → Except Error UInt8
  | [] => .error (.msg s!"no I3C device found with PID {pid}")
  | .error e :: _ => .error e
  | .ok entry :: entries =>
    match entry.pid with
    | .error _ => findPid pid entries
    | .ok content =>
      if devPid content = normalizePid pid then
        match entry.dynamicAddress with
        | .error _ => findPid pid entries
        | .ok text => parseAddress text
      else findPid pid entries

/-- The devices of a class. -/
def devicesOfClass (deviceClass : String) (entries : List SysfsEntry) : List SysfsEntry :=
  entries.filter fun entry =>
    match entry.dcr with
    | .error _ => false
    | .ok content => trim content.toList = deviceClass.toList

/-- `resolve_address_from_sysfs`, given what reading the directory returns. -/
def resolveAddressFromSysfs (readDir : Except Error (List (Except Error SysfsEntry)))
    (mode : AddressMode) : Except Error UInt8 := do
  let entries ← withContext readDir "enumerating I3C devices at /sys/bus/i3c/devices/"
  match mode with
  | .pid pid => findPid pid entries
  | .static addr => return addr
  | .deviceClass deviceClass instanceIndex =>
    let entries ← entries.mapM id
    let found := (devicesOfClass deviceClass entries).mergeSort fun e e' => e.name ≤ e'.name
    let device ← someOr found[instanceIndex.toNat]?
      s!"no I3C device found for class '{deviceClass}' instance {instanceIndex}"
    let text ← withContext device.dynamicAddress "reading dynamic_address"
    parseAddress text

/-! ## Devices with PIDs -/

/-- What the kernel prints for a PID: lower-case hexadecimal without leading zeros. -/
def pidFile (p : ℕ) : String := String.ofList (Nat.toDigits 16 p ++ ['\n'])

def SysfsEntry.HasPid (entry : SysfsEntry) (p : ℕ) : Prop := entry.pid = .ok (pidFile p)

/-- The `dynamic_address` file can be read and has an address in it, after `0x` or not. -/
def SysfsEntry.HasAddress (entry : SysfsEntry) (address : UInt8) : Prop :=
  ∃ mark ∈ ["", "0x"], ∃ digits, digits ≠ [] ∧ digitsValue 16 digits = some address.toNat ∧
    entry.dynamicAddress = .ok (String.ofList (mark.toList ++ digits ++ ['\n']))

/-- Every `pid` file that can be read has a PID in it, and no two devices have the same one. -/
structure Listing (entries : List SysfsEntry) : Prop where
  printed : ∀ entry ∈ entries, ∀ content, entry.pid = .ok content →
    ∃ p < 2 ^ 48, content = pidFile p
  distinct : entries.Pairwise fun entry entry' => ∀ p, entry.HasPid p → ¬ entry'.HasPid p

/-- A spelling of a number as a PID. -/
def SpellsNumber (pid : String) (p : ℕ) : Prop :=
  ∃ mark ∈ ["", "0x", "0X"], ∃ digits, TwelveDigits digits ∧ digitsValue 16 digits = some p ∧
    pid.toList = mark.toList ++ digits

/-- The look-up of a PID goes by its number. -/
structure FoundByNumber (pid : String) (p : ℕ) (entries : List SysfsEntry) : Prop where
  found : ∀ entry ∈ entries, entry.HasPid p → ∀ address, entry.HasAddress address →
    resolveAddressFromSysfs (.ok (entries.map .ok)) (.pid pid) = .ok address
  absent : (∀ entry ∈ entries, ¬ entry.HasPid p) →
    ∃ e, resolveAddressFromSysfs (.ok (entries.map .ok)) (.pid pid) = .error e

/-! ## Normal forms -/

theorem toLowercase_digits {digits : List Char} (hex : ∀ c ∈ digits, IsHexDigit c) :
    digits.flatMap lowercaseChar = digits.map Char.toLower := by
  rw [← List.flatMap_pure_eq_map]
  refine List.flatMap_congr fun c mem => ?_
  have digit := (isHexDigit_iff c).mp (hex c mem)
  have notKelvin : c ≠ '\u212A' := by
    rintro rfl
    revert digit
    decide
  have notDotted : c ≠ '\u0130' := by
    rintro rfl
    revert digit
    decide
  rw [lowercaseChar, if_neg notKelvin, if_neg notDotted]
  rfl

theorem isLowerHexDigit_map {digits : List Char} (hex : ∀ c ∈ digits, IsHexDigit c) :
    ∀ c ∈ digits.map Char.toLower, IsLowerHexDigit c := by
  intro c mem
  obtain ⟨digit, inDigits, rfl⟩ := List.mem_map.mp mem
  exact (digitValue_toLower (hex digit inDigits)).2

theorem x_notMem {digits : List Char} (lower : ∀ c ∈ digits, IsLowerHexDigit c) : 'x' ∉ digits :=
  fun mem => absurd (lower 'x' mem) (by decide)

/-- A configured PID is normalized to its digits in lower case. -/
theorem normalizePid_of_spells {pid : String} {p : ℕ} (spelled : SpellsNumber pid p) :
    ∃ digits, normalizePid pid = digits ∧ digits.length = 12 ∧
      (∀ c ∈ digits, IsLowerHexDigit c) ∧ digitsValue 16 digits = some p := by
  obtain ⟨mark, known, digits, ⟨twelve, hex⟩, valued, split⟩ := spelled
  have lower := isLowerHexDigit_map hex
  refine ⟨digits.map Char.toLower, ?_, by rw [List.length_map, twelve], lower,
    by rw [digitsValue_map_toLower hex, valued]⟩
  rw [normalizePid, toLowercase, split, List.flatMap_append, toLowercase_digits hex]
  simp only [List.mem_cons, List.not_mem_nil, or_false] at known
  rcases known with rfl | rfl | rfl
  · exact removeAll_of_notMem (by decide) (x_notMem lower)
  · exact removeAll_append (by decide) (x_notMem lower)
  · exact removeAll_append (by decide) (x_notMem lower)

/-- A printed PID is in normal form. -/
theorem devPid_pidFile (p : ℕ) : devPid (pidFile p) = Nat.toDigits 16 p := by
  have lower := isLowerHexDigit_toDigits p
  have hex : ∀ c ∈ Nat.toDigits 16 p, IsHexDigit c := fun c mem => .inl (lower c mem)
  have unchanged : (Nat.toDigits 16 p).map Char.toLower = Nat.toDigits 16 p :=
    (List.map_congr_left fun c mem => (lower c mem).toLower_eq).trans (List.map_id _)
  have text : (String.ofList (Nat.toDigits 16 p)).toList = Nat.toDigits 16 p :=
    String.toList_ofList
  rw [devPid, pidFile, String.toList_ofList,
    trim_newline fun c mem => (hex c mem).not_isWhiteSpace, normalizePid, toLowercase, text,
    toLowercase_digits hex, unchanged]
  exact removeAll_of_notMem (by decide) (x_notMem lower)

/-- The texts agree exactly for the same number, provided that it has no leading zero digit. -/
theorem devPid_eq_iff {pid : String} {p : ℕ} (spelled : SpellsNumber pid p) (q : ℕ) :
    devPid (pidFile q) = normalizePid pid ↔ q = p ∧ 16 ^ 11 ≤ p := by
  obtain ⟨digits, normal, twelve, lower, valued⟩ := normalizePid_of_spells spelled
  have printed := @digitsValue_toDigits 16 (by decide) (by decide) q
  have printedLower := isLowerHexDigit_toDigits q
  have bound : p < 16 ^ 12 := twelve ▸ digitsValue_lt valued
  have short := @Nat.length_toDigits_le_iff 16 q 11 (by decide) (by decide)
  have fits := @Nat.length_toDigits_le_iff 16 q 12 (by decide) (by decide)
  rw [devPid_pidFile, normal]
  constructor
  · rintro rfl
    obtain rfl : q = p := Option.some_inj.mp (printed.symm.trans valued)
    exact ⟨rfl, by omega⟩
  · rintro ⟨rfl, large⟩
    exact eq_of_digitsValue_eq printedLower lower (by omega) (printed.trans valued.symm)

/-! ## Addresses -/

/-- The digits of a number below the bound are summed up without an overflow. -/
theorem foldlM_digits {digits : List Char} {value bound : ℕ}
    (valued : digitsValue 16 digits = some value) (small : value < bound) :
    digits.foldlM (fun value c =>
      match digitValue 16 c with
      | none => .error (.msg "invalid digit found in string")
      | some d =>
        if value * 16 + d < bound then .ok (value * 16 + d)
        else .error (.msg "number too large to fit in target type")) 0 =
      (.ok value : Except Error ℕ) := by
  induction digits using List.reverseRecOn generalizing value with
  | nil =>
    obtain rfl : 0 = value := by simpa [digitsValue] using valued
    rfl
  | append_singleton digits c ih =>
    rw [digitsValue_concat, Option.bind_eq_some_iff] at valued
    obtain ⟨before, ofDigits, rest⟩ := valued
    obtain ⟨last, ofLast, rfl⟩ := Option.map_eq_some_iff.mp rest
    -- The number before the last digit is smaller still, so it is in bounds as well.
    rw [List.foldlM_append, ih ofDigits (by omega)]
    show (do
      let value ← (.ok before : Except Error ℕ)
      [c].foldlM _ value) = _
    simp only [List.foldlM_cons, List.foldlM_nil, ofLast, bind, Except.bind, if_pos small]
    rfl

theorem fromStrRadix_of_digits {digits : List Char} {value bound : ℕ} (nonempty : digits ≠ [])
    (valued : digitsValue 16 digits = some value) (small : value < bound) :
    fromStrRadix 16 bound digits = .ok value := by
  have hex : ∀ c ∈ digits, IsHexDigit c := by
    rw [← digitsValue_isSome_iff, valued]
    rfl
  have unsigned {sign : Char} (notDigit : ¬ IsHexDigit sign) : digits ≠ [sign] := by
    rintro rfl
    exact notDigit (hex sign (List.mem_singleton_self _))
  have noSign : stripStart ['+'] digits = none := by
    rw [stripStart_eq_none_iff]
    rintro ⟨rest, rfl⟩
    exact absurd (hex '+' (by simp)) (by decide)
  rw [fromStrRadix, if_neg nonempty,
    if_neg (not_or.mpr ⟨unsigned (by decide), unsigned (by decide)⟩), noSign]
  exact foldlM_digits valued small

theorem parseAddress_of_hasAddress {entry : SysfsEntry} {address : UInt8}
    (has : entry.HasAddress address) :
    ∃ text, entry.dynamicAddress = .ok text ∧ parseAddress text = .ok address := by
  obtain ⟨mark, known, digits, nonempty, valued, readable⟩ := has
  refine ⟨_, readable, ?_⟩
  have hex : ∀ c ∈ digits, IsHexDigit c := by
    rw [← digitsValue_isSome_iff, valued]
    rfl
  have noMark : trimStartMatches "0x".toList digits = digits := trimStartMatches_of_none <|
    stripStart_of_notMem (notMem_of_isHexDigit (by decide) hex)
  -- There is at most one prefix, since no digit is an x.
  have stripped : trimStartMatches "0x".toList (mark.toList ++ digits) = digits := by
    rcases List.mem_pair.mp known with rfl | rfl
    · exact noMark
    · rw [trimStartMatches_append (by decide), noMark]
  have visible : ∀ c ∈ mark.toList ++ digits, ¬ isWhiteSpace c := by
    rw [List.forall_mem_append]
    refine ⟨?_, fun c mem => (hex c mem).not_isWhiteSpace⟩
    rcases List.mem_pair.mp known with rfl | rfl <;> simp [isWhiteSpace]
  have text : (String.ofList (mark.toList ++ digits ++ ['\n'])).toList =
      mark.toList ++ digits ++ ['\n'] := String.toList_ofList
  rw [parseAddress, text, trim_newline visible, stripped,
    fromStrRadix_of_digits nonempty valued address.toNat_lt]
  exact congrArg Except.ok UInt8.ofNat_toNat

/-! ## The scan -/

/-- A scan that no device matches fails. -/
theorem findPid_of_none {pid : String} {entries : List SysfsEntry}
    (unmatched : ∀ entry ∈ entries, ∀ content, entry.pid = .ok content →
      devPid content ≠ normalizePid pid) :
    ∃ e, findPid pid (entries.map .ok) = .error e := by
  induction entries with
  | nil => exact ⟨_, rfl⟩
  | cons entry entries ih =>
    rw [List.forall_mem_cons] at unmatched
    rw [List.map_cons, findPid]
    cases read : entry.pid with
    | error e => exact ih unmatched.2
    | ok content =>
      simp only
      rw [if_neg (unmatched.1 content read)]
      exact ih unmatched.2

/-- A scan finds the first device that matches and has an address. -/
theorem findPid_of_match {pid : String} {before after : List SysfsEntry} {entry : SysfsEntry}
    {content text : String} (matching : entry.pid = .ok content)
    (same : devPid content = normalizePid pid) (readable : entry.dynamicAddress = .ok text)
    (earlier : ∀ entry ∈ before, ∀ content, entry.pid = .ok content →
      devPid content ≠ normalizePid pid) :
    findPid pid ((before ++ entry :: after).map .ok) = parseAddress text := by
  induction before with
  | nil =>
    rw [List.nil_append, List.map_cons, findPid, matching]
    simp only
    rw [if_pos same, readable]
  | cons first before ih =>
    rw [List.forall_mem_cons] at earlier
    rw [List.cons_append, List.map_cons, findPid]
    cases read : first.pid with
    | error e => exact ih earlier.2
    | ok content' =>
      simp only
      rw [if_neg (earlier.1 content' read)]
      exact ih earlier.2

theorem resolve_pid (entries : List SysfsEntry) (pid : String) :
    resolveAddressFromSysfs (.ok (entries.map .ok)) (.pid pid) =
      findPid pid (entries.map .ok) := rfl

/-! ## Every listing -/

section Listings

variable {pid : String} {p : ℕ} {entries : List SysfsEntry}

/-- Devices with other PIDs do not match. -/
theorem unmatched_of_not_hasPid (spelled : SpellsNumber pid p) (listing : Listing entries)
    {entry : SysfsEntry} (mem : entry ∈ entries) (other : ¬ (entry.HasPid p ∧ 16 ^ 11 ≤ p))
    {content : String} (read : entry.pid = .ok content) : devPid content ≠ normalizePid pid := by
  obtain ⟨q, -, rfl⟩ := listing.printed entry mem content read
  rw [Ne, devPid_eq_iff spelled]
  rintro ⟨rfl, large⟩
  exact other ⟨read, large⟩

/-- **A PID is looked up by its number exactly if its first digit is not a zero**, or if there is
nothing to be found: for every spelling and every listing. -/
theorem foundByNumber_iff (spelled : SpellsNumber pid p) (listing : Listing entries) :
    FoundByNumber pid p entries ↔ 16 ^ 11 ≤ p ∨
      ∀ entry ∈ entries, entry.HasPid p → ∀ address, ¬ entry.HasAddress address := by
  constructor
  · intro byNumber
    by_contra! listed
    obtain ⟨small, entry, mem, has, address, addressed⟩ := listed
    have found := byNumber.found entry mem has address addressed
    obtain ⟨e, failed⟩ := findPid_of_none fun entry mem content read =>
      unmatched_of_not_hasPid spelled listing mem (fun both => by omega) read
    rw [resolve_pid, failed] at found
    cases found
  · intro condition
    constructor
    · intro entry mem has address addressed
      rcases condition with large | unaddressed
      · obtain ⟨before, after, rfl⟩ := List.append_of_mem mem
        obtain ⟨text, readable, parsed⟩ := parseAddress_of_hasAddress addressed
        -- Without a leading zero the two texts are the same.
        have same := (devPid_eq_iff spelled p).mpr ⟨rfl, large⟩
        rw [resolve_pid, findPid_of_match has same readable, parsed]
        intro earlier inside content read
        refine unmatched_of_not_hasPid spelled listing (List.mem_append_left _ inside) ?_ read
        -- A device further up in the listing has another PID.
        rintro ⟨twin, -⟩
        have apart := (List.pairwise_append.mp listing.distinct).2.2
        exact apart earlier inside entry (by simp) p twin has
      · exact absurd addressed (unaddressed entry mem has address)
    · intro unlisted
      rw [resolve_pid]
      exact findPid_of_none fun entry mem content read =>
        unmatched_of_not_hasPid spelled listing mem (fun both => unlisted entry mem both.1) read

end Listings

/-- The device with the PID of the documentation. -/
def documentedDevice : SysfsEntry where
  name := "0-123456789ab"
  pid := .ok (pidFile 0x0123456789AB)
  dcr := .error (.msg "No such file or directory (os error 2)")
  dynamicAddress := .ok "08\n"

theorem spellsNumber_documented : SpellsNumber "0x0123456789AB" 0x0123456789AB :=
  have valued : digitsValue 16 "0123456789AB".toList = some 0x0123456789AB := by decide +kernel
  have twelve : TwelveDigits "0123456789AB".toList :=
    ⟨by decide, (digitsValue_isSome_iff _).mp (by rw [valued]; rfl)⟩
  ⟨"0x", by decide, _, twelve, valued, by decide⟩

theorem listing_documented : Listing [documentedDevice] where
  printed entry mem content read := by
    obtain rfl := List.mem_singleton.mp mem
    exact ⟨0x0123456789AB, by decide, (Except.ok.inj read).symm⟩
  distinct := List.pairwise_singleton _ _

theorem hasAddress_documented : documentedDevice.HasAddress 0x08 :=
  ⟨"", by decide, "08".toList, by decide, by decide, by decide⟩

/-- The PID of the documentation is spelled with a zero and printed without it. -/
theorem leading_zero_not_found :
    ¬ ∀ pid p entries, SpellsNumber pid p → Listing entries → FoundByNumber pid p entries := by
  intro byNumber
  have found := (byNumber _ _ _ spellsNumber_documented listing_documented).found documentedDevice
    (List.mem_singleton_self _) rfl 0x08 hasAddress_documented
  revert found
  decide +kernel

theorem foundByNumber_iff_documented :
    FoundByNumber "0x0123456789AB" 0x0123456789AB [documentedDevice] ↔
      16 ^ 11 ≤ 0x0123456789AB ∨ ∀ entry ∈ [documentedDevice], entry.HasPid 0x0123456789AB →
        ∀ address, ¬ entry.HasAddress address :=
  foundByNumber_iff spellsNumber_documented listing_documented

end BusExporter.I3c
