import Mathlib.Data.List.Nodup
import Mathlib.Data.List.Basic
import Mathlib.Data.List.Induction

/-!
# Maps in insertion order

A map that keeps its entries in the order in which their keys were first inserted.
The key of an entry is computed from its value; a value that is inserted under a
key that is there already takes the place of the old one.
-/

namespace BusExporter.Foundation

/-- Values with distinct keys, in the order of first insertion. -/
structure Indexed {α κ : Type} (key : α → κ) where
  values : List α
  distinct : (values.map key).Nodup

namespace Indexed

variable {α κ : Type} [DecidableEq κ] {key : α → κ}

def empty : Indexed key := ⟨[], List.nodup_nil⟩

/-- Put a value in place of the one with the same key, if there is one. -/
def replace (key : α → κ) (a : α) (values : List α) : List α :=
  values.map fun b => if key b = key a then a else b

theorem map_replace (a : α) (values : List α) :
    (replace key a values).map key = values.map key := by
  rw [replace, List.map_map]
  refine List.map_congr_left fun b _ => ?_
  by_cases same : key b = key a
  · simp [same]
  · simp [same]

/-- Insert a value: in place of the one with its key, or at the end. -/
def insert (map : Indexed key) (a : α) : Indexed key :=
  if present : key a ∈ map.values.map key then
    ⟨replace key a map.values, by rw [map_replace]; exact map.distinct⟩
  else
    ⟨map.values ++ [a], by
      rw [List.map_append, List.map_singleton]
      exact map.distinct.append (List.nodup_singleton _) (by simpa using present)⟩

@[simp]
theorem values_insert_of_mem (map : Indexed key) {a : α} (present : key a ∈ map.values.map key) :
    (map.insert a).values = replace key a map.values := by
  rw [insert, dif_pos present]

@[simp]
theorem values_insert_of_notMem (map : Indexed key) {a : α}
    (absent : key a ∉ map.values.map key) : (map.insert a).values = map.values ++ [a] := by
  rw [insert, dif_neg absent]

/-- Values with distinct keys are kept as they are. -/
theorem values_insertAll {values : List α} (distinct : (values.map key).Nodup) :
    (values.foldl insert (@empty _ _ key)).values = values := by
  induction values using List.reverseRecOn with
  | nil => rfl
  | append_singleton values a ih =>
    rw [List.map_append, List.map_singleton, List.nodup_append'] at distinct
    rw [List.foldl_concat, values_insert_of_notMem, ih distinct.1]
    rw [ih distinct.1]
    exact fun mem => distinct.2.2 mem (List.mem_singleton_self _)

end Indexed

/-! ## The last value of each key -/

/-- For every key of a list of values the last value that has it, in the order in which the keys
first occur. -/
structure LastWins {α κ : Type} [DecidableEq κ] (key : α → κ) (all kept : List α) : Prop where
  distinct : (kept.map key).Nodup
  keys : ∀ k, k ∈ kept.map key ↔ k ∈ all.map key
  ordered : (kept.map key).Pairwise fun k k' => (all.map key).idxOf k < (all.map key).idxOf k'
  last : ∀ a ∈ kept, ∃ earlier later, all = earlier ++ a :: later ∧ key a ∉ later.map key

namespace LastWins

variable {α κ : Type} [DecidableEq κ] {key : α → κ} {all kept : List α}

theorem nil : LastWins key [] [] := by
  constructor <;> simp

/-- Another value at the end leaves the order of the earlier keys as it is. -/
theorem ordered_concat (wins : LastWins key all kept) (a : α) :
    (kept.map key).Pairwise fun k k' =>
      ((all ++ [a]).map key).idxOf k < ((all ++ [a]).map key).idxOf k' := by
  refine wins.ordered.imp_of_mem fun {k k'} mem mem' before => ?_
  rw [List.map_append, List.idxOf_append_of_mem ((wins.keys k).mp mem),
    List.idxOf_append_of_mem ((wins.keys k').mp mem')]
  exact before

/-- A kept value with another key is still the last one of its key. -/
theorem last_concat (wins : LastWins key all kept) {a b : α} (mem : b ∈ kept)
    (other : key b ≠ key a) :
    ∃ earlier later, all ++ [a] = earlier ++ b :: later ∧ key b ∉ later.map key := by
  obtain ⟨earlier, later, split, isLast⟩ := wins.last b mem
  refine ⟨earlier, later ++ [a], by simp [split], ?_⟩
  rw [List.map_append, List.mem_append, not_or]
  exact ⟨isLast, by simpa using other⟩

theorem replace (wins : LastWins key all kept) {a : α} (present : key a ∈ kept.map key) :
    LastWins key (all ++ [a]) (Indexed.replace key a kept) := by
  constructor
  · rw [Indexed.map_replace]
    exact wins.distinct
  · intro k
    rw [Indexed.map_replace, wins.keys, List.map_append, List.mem_append]
    constructor
    · exact .inl
    · rintro (mem | mem)
      · exact mem
      · obtain rfl : k = key a := by simpa using mem
        exact (wins.keys _).mp present
  · rw [Indexed.map_replace]
    exact wins.ordered_concat a
  · intro b mem
    obtain ⟨b', mem', rfl⟩ := List.mem_map.mp mem
    by_cases same : key b' = key a
    · rw [if_pos same]
      exact ⟨all, [], rfl, by simp⟩
    · rw [if_neg same]
      exact wins.last_concat mem' same

theorem concat (wins : LastWins key all kept) {a : α} (absent : key a ∉ kept.map key) :
    LastWins key (all ++ [a]) (kept ++ [a]) := by
  have new : key a ∉ all.map key := fun mem => absent ((wins.keys _).mpr mem)
  constructor
  · rw [List.map_append, List.map_singleton]
    exact wins.distinct.append (List.nodup_singleton _) (by simpa using absent)
  · intro k
    rw [List.map_append, List.map_append, List.mem_append, List.mem_append, wins.keys]
  · have split : (kept ++ [a]).map key = kept.map key ++ [key a] := List.map_append
    rw [split, List.pairwise_append]
    refine ⟨wins.ordered_concat a, List.pairwise_singleton _ _, ?_⟩
    intro k mem k' mem'
    -- The new key is found at the very end.
    obtain rfl : k' = key a := by simpa using mem'
    -- Every other key occurs before the end.
    have inAll := (wins.keys k).mp mem
    rw [List.map_append, List.idxOf_append_of_mem inAll, List.idxOf_append_of_notMem new]
    exact Nat.lt_add_right _ (List.idxOf_lt_length_of_mem inAll)
  · intro b mem
    rcases List.mem_append.mp mem with mem | mem
    · refine wins.last_concat mem fun same => ?_
      exact absent (same ▸ List.mem_map_of_mem mem)
    · obtain rfl : b = a := by simpa using mem
      exact ⟨all, [], rfl, by simp⟩

/-- Inserting values in turn keeps the last one of each key. -/
theorem insertAll (values : List α) :
    LastWins key values (values.foldl Indexed.insert (@Indexed.empty _ _ key)).values := by
  induction values using List.reverseRecOn with
  | nil => exact nil
  | append_singleton values a ih =>
    rw [List.foldl_concat]
    by_cases present :
        key a ∈ (values.foldl Indexed.insert (@Indexed.empty _ _ key)).values.map key
    · rw [Indexed.values_insert_of_mem _ present]
      exact ih.replace present
    · rw [Indexed.values_insert_of_notMem _ present]
      exact ih.concat present

end LastWins

/-! ## The first value of each key -/

/-- For every key of a list of values the first value that has it. -/
structure FirstWins {α κ : Type} [DecidableEq κ] (key : α → κ) (all kept : List α) : Prop where
  distinct : (kept.map key).Nodup
  find : ∀ k, kept.find? (key · = k) = all.find? (key · = k)

namespace FirstWins

variable {α κ : Type} [DecidableEq κ] {key : α → κ} {all kept : List α}

theorem nil : FirstWins key [] [] := ⟨List.nodup_nil, fun _ => rfl⟩

theorem keys (wins : FirstWins key all kept) (k : κ) : k ∈ kept.map key ↔ k ∈ all.map key := by
  have found : (kept.find? (key · = k)).isSome ↔ (all.find? (key · = k)).isSome := by
    rw [wins.find]
  simpa only [List.find?_isSome, decide_eq_true_iff, ← List.mem_map] using found

/-- A value is kept if it is the first one of its key. -/
theorem mem_iff (wins : FirstWins key all kept) {a : α} :
    a ∈ kept ↔ all.find? (key · = key a) = some a := by
  rw [← wins.find]
  constructor
  · intro mem
    -- Some value of this key is kept; since keys are distinct, it is this one.
    have some_one : (kept.find? (key · = key a)).isSome := by
      rw [List.find?_isSome]
      exact ⟨a, mem, decide_eq_true rfl⟩
    obtain ⟨b, found⟩ := Option.isSome_iff_exists.mp some_one
    have same : key b = key a := by simpa using List.find?_some found
    rw [found, List.inj_on_of_nodup_map wins.distinct (List.mem_of_find?_eq_some found) mem same]
  · exact List.mem_of_find?_eq_some

/-- A value whose key is there already is dropped. -/
theorem skip (wins : FirstWins key all kept) {a : α} (present : key a ∈ kept.map key) :
    FirstWins key (all ++ [a]) kept where
  distinct := wins.distinct
  find k := by
    rw [wins.find, List.find?_append]
    cases found : all.find? (key · = k) with
    | some b => rfl
    | none =>
      have other : key a ≠ k := by
        rintro rfl
        -- The key is there already, so a look-up that finds nothing is for another one.
        obtain ⟨b, mem, same⟩ := List.mem_map.mp ((wins.keys _).mp present)
        exact absurd same (by simpa using List.find?_eq_none.mp found b mem)
      simp [other]

theorem concat (wins : FirstWins key all kept) {a : α} (absent : key a ∉ kept.map key) :
    FirstWins key (all ++ [a]) (kept ++ [a]) where
  distinct := by
    rw [List.map_append, List.map_singleton]
    exact wins.distinct.append (List.nodup_singleton _) (by simpa using absent)
  find k := by rw [List.find?_append, List.find?_append, wins.find]

end FirstWins

end BusExporter.Foundation
