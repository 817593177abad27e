import BusExporter.Foundation.Document
import Mathlib.Data.List.Nodup

/-!
# Reading records

A parser delivers nodes, and a format says how a node is read: as what it is by itself, or
as what is asked for. A record is read from the entries of a map, field by field; a field
can be required, optional, or have a default, and what is unknown is refused or ignored.
A node reads as a document if each of its parts is read as the document has it, and then
the fields of a record are read as they were written.
-/

namespace BusExporter.Foundation

/-! ## Formats -/

/-- What a node is by itself. -/
inductive Any (ν : Type) where
  | null
  | bool (b : Bool)
  | unsigned (n : ℕ)
  | signed (i : ℤ)
  | float (x : Float)
  | string (s : String)
  | seq (items : List ν)
  | map (entries : List (String × ν))

/-- How nodes are read. A node may be read as something else than it is by itself, such as a
number as a string. -/
structure Format (ν : Type) where
  any : ν → Any ν
  /-- The node stands for a value that is not there. -/
  isNone : ν → Bool
  bool : ν → Option Bool
  unsigned : ν → Option ℕ
  float : ν → Option Float
  string : ν → Option String
  seq : ν → Option (List ν)
  map : ν → Option (List (String × ν))

variable {ν : Type} {α : Type}

/-! ## Fields -/

section Fields

/-- The entries of a map, if each key is known and none occurs twice. -/
def strictFields (known : List String) (entries : List (String × ν)) :
    Option (List (String × ν)) :=
  if (entries.map (·.1)).Nodup ∧ ∀ key ∈ entries.map (·.1), key ∈ known then some entries else none

/-- The entries of a map with known keys, if none of these occurs twice. -/
def knownFields (known : List String) (entries : List (String × ν)) :
    Option (List (String × ν)) :=
  let fields := entries.filter (·.1 ∈ known)
  if (fields.map (·.1)).Nodup then some fields else none

variable (fields : List (String × ν)) (key : String) (read : ν → Option α)

def requiredField : Option α := (fields.lookup key).bind read

/-- A field with a default for where it is missing. -/
def fieldOr (default : α) : Option α :=
  match fields.lookup key with
  | none => some default
  | some node => read node

/-- A field that may be missing, or null. -/
def optionField (isNone : ν → Bool) : Option (Option α) :=
  match fields.lookup key with
  | none => some none
  | some node => if isNone node then some none else (read node).map some

end Fields

/-! ## Two readers of one record

A field that is missing has its default at once, or is completed at the end. -/

section Completion

variable {β γ : Type} {fields : List (String × ν)} {key : String} {read : ν → Option α}
  {isNone : ν → Bool} {complete : β → Option γ}

theorem bind_complete {field : Option α} {rest : α → Option γ} {raw : α → Option β}
    (others : ∀ own, field = some own → rest own = (raw own).bind complete) :
    field.bind rest = (field.bind raw).bind complete := by
  cases field with
  | none => rfl
  | some own => exact others own rfl

theorem fieldOr_complete (present : ∀ node, fields.lookup key = some node → isNone node = false)
    {default : α} {rest : α → Option γ} {raw : Option α → Option β}
    (others : ∀ own, rest (own.getD default) = (raw own).bind complete) :
    (fieldOr fields key read default).bind rest =
      ((optionField fields key read isNone).bind raw).bind complete := by
  rw [fieldOr, optionField]
  cases entry : fields.lookup key with
  | none => exact others none
  | some node =>
    simp only [present node entry, Bool.false_eq_true, if_false]
    cases read node with
    | none => rfl
    | some own => exact others (some own)

/-- A required field is one that cannot be completed. -/
theorem requiredField_complete
    (present : ∀ node, fields.lookup key = some node → isNone node = false)
    {rest : α → Option γ} {raw : Option α → Option β}
    (missing : ∀ incomplete, raw none = some incomplete → complete incomplete = none)
    (others : ∀ own, rest own = (raw (some own)).bind complete) :
    (requiredField fields key read).bind rest =
      ((optionField fields key read isNone).bind raw).bind complete := by
  rw [requiredField, optionField]
  cases entry : fields.lookup key with
  | none => exact (Option.bind_eq_none_iff.mpr missing).symm
  | some node =>
    simp only [Option.bind_some, present node entry, Bool.false_eq_true, if_false]
    cases read node with
    | none => rfl
    | some own => exact others own

end Completion

/-- What was written under a key. -/
def Document.field (documents : List (String × Document)) (key : String) : Option Document :=
  documents.lookup key

namespace Document

@[simp]
theorem field_nil (key : String) : field [] key = none := rfl

@[simp]
theorem field_cons (other : String) (document : Document) (documents : List (String × Document))
    (key : String) :
    field ((other, document) :: documents) key =
      if key = other then some document else field documents key := by
  by_cases same : key = other
  · simp [field, same]
  · simp [field, List.lookup_cons, beq_false_of_ne same, same]

@[simp]
theorem field_append (documents documents' : List (String × Document)) (key : String) :
    field (documents ++ documents') key = (field documents key).or (field documents' key) := by
  induction documents with
  | nil => rfl
  | cons entry documents ih =>
    obtain ⟨other, document⟩ := entry
    by_cases same : key = other <;> simp [same, ih]

/-- What was written under known keys. -/
def restricted (known : List String) (documents : List (String × Document)) :
    List (String × Document) :=
  documents.filter (·.1 ∈ known)

@[simp]
theorem field_restricted (known : List String) (documents : List (String × Document))
    (key : String) :
    field (restricted known documents) key = if key ∈ known then field documents key else none := by
  rw [restricted]
  induction documents with
  | nil => simp
  | cons entry documents ih =>
    obtain ⟨other, document⟩ := entry
    by_cases same : key = other
    · subst same
      by_cases isKnown : key ∈ known <;> simp [isKnown, ih]
    · by_cases isKnown : other ∈ known <;> simp [isKnown, same, ih]

end Document

/-! ## Nodes and documents -/

namespace Format

variable (format : Format ν)

mutual

/-- A node is read as the document has it, whatever is asked for. -/
inductive Reads : ν → Document → Prop
  | bool {node : ν} {b : Bool} : format.any node = .bool b → format.isNone node = false →
    format.bool node = some b → Reads node (.bool b)
  | nat {node : ν} {n : ℕ} : format.any node = .unsigned n → format.isNone node = false →
    format.unsigned node = some n → Reads node (.nat n)
  | float {node : ν} {x : Float} : format.any node = .float x → format.isNone node = false →
    format.float node = some x → Reads node (.float x)
  | string {node : ν} {s : String} : format.any node = .string s → format.isNone node = false →
    format.string node = some s → Reads node (.string s)
  | seq {node : ν} {items : List ν} {documents : List Document} :
    format.any node = .seq items → format.isNone node = false →
    format.seq node = some items → ReadsItems items documents → Reads node (.seq documents)
  | map {node : ν} {entries : List (String × ν)} {documents : List (String × Document)} :
    format.any node = .map entries → format.isNone node = false →
    format.map node = some entries → ReadsEntries entries documents → Reads node (.map documents)

inductive ReadsItems : List ν → List Document → Prop
  | nil : ReadsItems [] []
  | cons {node : ν} {document : Document} {items : List ν} {documents : List Document} :
    Reads node document → ReadsItems items documents →
      ReadsItems (node :: items) (document :: documents)

inductive ReadsEntries : List (String × ν) → List (String × Document) → Prop
  | nil : ReadsEntries [] []
  | cons (key : String) {node : ν} {document : Document} {entries : List (String × ν)}
    {documents : List (String × Document)} : Reads node document →
      ReadsEntries entries documents →
        ReadsEntries ((key, node) :: entries) ((key, document) :: documents)

end

variable {format}

theorem Reads.present (node : ν) (document : Document) (reads : format.Reads node document) :
    format.isNone node = false := by
  cases reads <;> assumption

/-- Items that were written one by one are read one by one. -/
theorem ReadsItems.mapM {β : Type} {write : β → Document} {read : ν → Option α} {f : β → α}
    {values : List β} {items : List ν} (reads : format.ReadsItems items (values.map write))
    (each : ∀ value ∈ values, ∀ node, format.Reads node (write value) →
      read node = some (f value)) : items.mapM read = some (values.map f) := by
  induction values generalizing items with
  | nil =>
    cases reads
    rfl
  | cons value values ih =>
    rw [List.forall_mem_cons] at each
    cases reads with
    | cons readsNode readsRest =>
      rw [List.mapM_cons, each.1 _ readsNode, ih readsRest each.2]
      rfl

namespace ReadsEntries

variable {entries : List (String × ν)} {documents : List (String × Document)}

theorem keys (reads : format.ReadsEntries entries documents) :
    entries.map (·.1) = documents.map (·.1) := by
  induction documents generalizing entries with
  | nil =>
    cases reads
    rfl
  | cons document documents ih =>
    cases reads with
    | cons key readsNode readsRest => rw [List.map_cons, List.map_cons, ih readsRest]

/-- What is found under a key is read as what was written under it. -/
theorem lookup (reads : format.ReadsEntries entries documents) (key : String) :
    Option.Rel format.Reads (entries.lookup key) (Document.field documents key) := by
  induction documents generalizing entries with
  | nil =>
    cases reads
    exact .none
  | cons document documents ih =>
    cases reads with
    | cons other readsNode readsRest =>
      by_cases same : key = other
      · simpa [same] using Option.Rel.some readsNode
      · simpa [List.lookup_cons, beq_false_of_ne same, same] using ih readsRest

/-- Known keys in their order, each once or left out. -/
theorem strictFields (reads : format.ReadsEntries entries documents) {known : List String}
    (distinct : known.Nodup) (sublist : (documents.map (·.1)).Sublist known) :
    Foundation.strictFields known entries = some entries := by
  rw [Foundation.strictFields, reads.keys]
  exact if_pos ⟨distinct.sublist sublist, fun _ mem => sublist.subset mem⟩

/-- The known keys among more. -/
theorem filter (reads : format.ReadsEntries entries documents) (known : List String) :
    format.ReadsEntries (entries.filter (·.1 ∈ known)) (Document.restricted known documents) := by
  rw [Document.restricted]
  induction documents generalizing entries with
  | nil =>
    cases reads
    exact .nil
  | cons document documents ih =>
    cases reads with
    | cons key readsNode readsRest =>
      by_cases isKnown : key ∈ known
      · rw [List.filter_cons_of_pos (by simpa using isKnown),
          List.filter_cons_of_pos (by simpa using isKnown)]
        exact .cons key readsNode (ih readsRest)
      · rw [List.filter_cons_of_neg (by simpa using isKnown),
          List.filter_cons_of_neg (by simpa using isKnown)]
        exact ih readsRest

/-- Among distinct keys the known ones are distinct. -/
theorem knownFields (reads : format.ReadsEntries entries documents) (known : List String)
    (distinct : (documents.map (·.1)).Nodup) :
    ∃ fields, Foundation.knownFields known entries = some fields ∧
      format.ReadsEntries fields (Document.restricted known documents) := by
  refine ⟨_, if_pos ?_, reads.filter known⟩
  rw [← reads.keys] at distinct
  exact distinct.sublist (List.filter_sublist.map _)

/-! A field is read, and then the rest of the record. -/

variable {γ : Type} {key : String} {document : Document} {read : ν → Option α}
  {result : Option γ}

theorem required (reads : format.ReadsEntries entries documents) (value : α) {rest : α → Option γ}
    (written : Document.field documents key = some document)
    (isRead : ∀ node, format.Reads node document → read node = some value)
    (others : rest value = result) : (requiredField entries key read).bind rest = result := by
  have found := reads.lookup key
  rw [written] at found
  rw [requiredField]
  cases entry : entries.lookup key with
  | none =>
    rw [entry] at found
    cases found
  | some node =>
    rw [entry] at found
    cases found with
    | some readsNode => rw [Option.bind_some, isRead node readsNode, Option.bind_some, others]

theorem orDefault (reads : format.ReadsEntries entries documents) (value : α)
    {rest : α → Option γ} {default : α} (written : Document.field documents key = some document)
    (isRead : ∀ node, format.Reads node document → read node = some value)
    (others : rest value = result) : (fieldOr entries key read default).bind rest = result := by
  have found := reads.lookup key
  rw [written] at found
  rw [fieldOr]
  cases entry : entries.lookup key with
  | none =>
    rw [entry] at found
    cases found
  | some node =>
    rw [entry] at found
    cases found with
    | some readsNode => simp only [isRead node readsNode, Option.bind_some, others]

/-- A field that was written where it is set. -/
theorem optionalMap {β : Type} (reads : format.ReadsEntries entries documents) (set : Option β)
    {write : β → Document} {f : β → α} {isNone : ν → Bool} {rest : Option α → Option γ}
    (present : ∀ node document, format.Reads node document → isNone node = false)
    (written : Document.field documents key = set.map write)
    (isRead : ∀ value node, format.Reads node (write value) → read node = some (f value))
    (others : rest (set.map f) = result) :
    (optionField entries key read isNone).bind rest = result := by
  have found := reads.lookup key
  rw [written] at found
  rw [optionField]
  cases entry : entries.lookup key with
  | none =>
    rw [entry] at found
    cases set with
    | none => exact others
    | some value => cases found
  | some node =>
    rw [entry] at found
    cases set with
    | none => cases found
    | some value =>
      cases found with
      | some readsNode =>
        simp only [present node _ readsNode, Bool.false_eq_true, if_false, Option.map_some,
          isRead value node readsNode, Option.bind_some]
        exact others

theorem optional (reads : format.ReadsEntries entries documents) (set : Option α)
    {write : α → Document} {isNone : ν → Bool} {rest : Option α → Option γ}
    (present : ∀ node document, format.Reads node document → isNone node = false)
    (written : Document.field documents key = set.map write)
    (isRead : ∀ value node, format.Reads node (write value) → read node = some value)
    (others : rest set = result) : (optionField entries key read isNone).bind rest = result :=
  reads.optionalMap set present written isRead (f := id) (by rwa [Option.map_id])

/-- An optional field that is never written is not there. -/
theorem absent (reads : format.ReadsEntries entries documents) {isNone : ν → Bool}
    {rest : Option α → Option γ} (unwritten : Document.field documents key = none)
    (others : rest none = result) :
    (optionField entries key read isNone).bind rest = result := by
  have found := reads.lookup key
  rw [unwritten] at found
  rw [optionField]
  cases entry : entries.lookup key with
  | none => exact others
  | some node =>
    rw [entry] at found
    cases found

end ReadsEntries

end Format

/-! ## Documents as nodes -/

namespace Document

/-- A document is read as nothing but what it is. -/
def format : Format Document where
  any
    | bool b => .bool b
    | nat n => .unsigned n
    | float x => .float x
    | string s => .string s
    | seq items => .seq items
    | map entries => .map entries
  isNone _ := false
  bool
    | bool b => some b
    | _ => none
  unsigned
    | nat n => some n
    | _ => none
  float
    | float x => some x
    | _ => none
  string
    | string s => some s
    | _ => none
  seq
    | seq items => some items
    | _ => none
  map
    | map entries => some entries
    | _ => none

mutual

theorem reads : ∀ document : Document, format.Reads document document
  | bool _ => .bool rfl rfl rfl
  | nat _ => .nat rfl rfl rfl
  | float _ => .float rfl rfl rfl
  | string _ => .string rfl rfl rfl
  | seq items => .seq rfl rfl rfl (readsItems items)
  | map entries => .map rfl rfl rfl (readsEntries entries)

theorem readsItems : ∀ documents : List Document, format.ReadsItems documents documents
  | [] => .nil
  | document :: documents => .cons (reads document) (readsItems documents)

theorem readsEntries : ∀ documents : List (String × Document),
    format.ReadsEntries documents documents
  | [] => .nil
  | (key, document) :: documents => .cons key (reads document) (readsEntries documents)

end

end Document

end BusExporter.Foundation
