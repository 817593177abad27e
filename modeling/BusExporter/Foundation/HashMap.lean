import BusExporter.Foundation.Duration

/-!
# Hash maps

A hash map with string keys is an association list without duplicate keys. The
order of its entries stands for the arbitrary order in which it is iterated.
-/

namespace BusExporter.Foundation

abbrev HashMap (α : Type) := AList fun _ : String => α

namespace HashMap

variable {α : Type}

/-- The keys and values, in the order of iteration. -/
def pairs (map : HashMap α) : List (String × α) := map.entries.map fun entry => (entry.1, entry.2)

/-- The values, in the order of iteration. -/
def values (map : HashMap α) : List α := map.pairs.map (·.2)

theorem map_fst_pairs (map : HashMap α) : map.pairs.map (·.1) = map.keys := by
  simp only [pairs, List.map_map]
  rfl

theorem nodup_pairs (map : HashMap α) : (map.pairs.map (·.1)).Nodup := by
  rw [map_fst_pairs]
  exact map.keys_nodup

/-- A name that no pair has is not found. -/
theorem lookup_eq_none {pairs : List (String × α)} {name : String}
    (absent : name ∉ pairs.map (·.1)) : pairs.lookup name = none := by
  rw [List.lookup_eq_none_iff]
  intro p mem
  have different := ne_of_mem_of_not_mem (List.mem_map_of_mem mem) absent
  simpa [bne_iff_ne] using different.symm

theorem lookup_pairs (map : HashMap α) (name : String) :
    map.pairs.lookup name = AList.lookup name map := by
  obtain ⟨entries, distinct⟩ := map
  simp only [pairs, AList.lookup]
  clear distinct
  induction entries with
  | nil => rfl
  | cons entry entries ih =>
    obtain ⟨key, value⟩ := entry
    by_cases same : name = key
    · subst same
      simp
    · rw [List.map_cons, List.lookup_cons, List.dlookup_cons_ne _ _ same, ih,
        beq_false_of_ne same]

theorem mem_pairs {map : HashMap α} {name : String} {value : α} :
    (name, value) ∈ map.pairs ↔ AList.lookup name map = some value := by
  rw [← Option.mem_def, AList.mem_lookup_iff, pairs, List.mem_map]
  constructor
  · rintro ⟨entry, mem, same⟩
    cases same
    exact mem
  · exact fun mem => ⟨⟨name, value⟩, mem, rfl⟩

/-- What holds of all entries still does after an insertion of an entry for which it holds. -/
theorem forall_insert {P : String → α → Prop} {map : HashMap α}
    (all : ∀ name value, AList.lookup name map = some value → P name value) {key : String}
    {new : α} (holds : P key new) :
    ∀ name value, AList.lookup name (map.insert key new) = some value → P name value := by
  intro name value found
  by_cases same : name = key
  · subst same
    rw [AList.lookup_insert, Option.some_inj] at found
    exact found ▸ holds
  · rw [AList.lookup_insert_ne same] at found
    exact all name value found

/-! ## Iteration orders -/

/-- Two maps hold the same entries, in whatever order. -/
def Same (map map' : HashMap α) : Prop :=
  ∀ name, AList.lookup name map = AList.lookup name map'

theorem Same.rfl {map : HashMap α} : Same map map := fun _ => Eq.refl _

/-- The pairs of a map in any order find what the map finds. -/
theorem lookup_of_perm {map : HashMap α} {pairs : List (String × α)} (perm : pairs.Perm map.pairs)
    (name : String) : pairs.lookup name = AList.lookup name map := by
  have distinct : (pairs.map (·.1)).Nodup := (perm.map _).nodup_iff.mpr map.nodup_pairs
  cases found : AList.lookup name map with
  | none =>
    apply lookup_eq_none
    rw [(perm.map _).mem_iff, map_fst_pairs, ← AList.mem_keys]
    exact AList.lookup_eq_none.mp found
  | some value =>
    obtain ⟨before, after, split⟩ := List.append_of_mem (perm.mem_iff.mpr (mem_pairs.mpr found))
    rw [split, List.map_append, List.nodup_append] at distinct
    have absent : name ∉ before.map (·.1) :=
      fun mem => distinct.2.2 name mem name (by simp) (Eq.refl _)
    rw [split, List.lookup_append, lookup_eq_none absent, List.lookup_cons_self, Option.none_or]

/-- Maps with the same entries list them in orders that are permutations of each other. -/
theorem Same.perm_pairs {map map' : HashMap α} (same : Same map map') :
    map.pairs.Perm map'.pairs := by
  apply List.Perm.map
  apply List.lookup_ext map.nodupKeys map'.nodupKeys
  intro name value
  exact iff_of_eq (congrArg (value ∈ ·) (same name))

/-- An order in which every map is iterated. -/
structure Iteration where
  order : ∀ {α : Type}, HashMap α → List (String × α)
  perm : ∀ {α : Type} (map : HashMap α), (order map).Perm map.pairs

namespace Iteration

/-- The order in which the maps keep their entries. -/
def kept : Iteration := ⟨pairs, fun _ => .refl _⟩

/-- The opposite order. -/
def reversed : Iteration := ⟨fun map => map.pairs.reverse, fun map => map.pairs.reverse_perm⟩

variable (iteration : Iteration)

theorem nodup_order (map : HashMap α) : ((iteration.order map).map (·.1)).Nodup :=
  ((iteration.perm map).map _).nodup_iff.mpr map.nodup_pairs

theorem lookup_order (map : HashMap α) (name : String) :
    (iteration.order map).lookup name = AList.lookup name map :=
  lookup_of_perm (iteration.perm map) name

/-- Two orders of maps with the same entries. -/
theorem perm_of_same (iteration' : Iteration) {map map' : HashMap α} (same : Same map map') :
    (iteration.order map).Perm (iteration'.order map') :=
  (iteration.perm map).trans (same.perm_pairs.trans (iteration'.perm map').symm)

end Iteration

/-- Looking every key up gives the pairs. -/
theorem filterMap_keys {β : Type} (map : HashMap α) (f : String → α → β) :
    (map.keys.filterMap fun name => (AList.lookup name map).map (f name)) =
      map.pairs.map fun pair => f pair.1 pair.2 := by
  rw [← map_fst_pairs, List.filterMap_map, ← List.filterMap_eq_map]
  refine List.filterMap_congr fun pair mem => ?_
  rw [Function.comp_apply, mem_pairs.mp (show (pair.1, pair.2) ∈ map.pairs from mem)]
  rfl

/-- Collect pairs into a map; of pairs with the same key the last one wins. -/
def collect (pairs : List (String × α)) : HashMap α :=
  pairs.foldl (fun map (key, value) => map.insert key value) ∅

/-- A collected value is the last one of its key. -/
theorem lookup_collect_eq_some {pairs : List (String × α)} {name : String} {value : α}
    (found : AList.lookup name (collect pairs) = some value) :
    ∃ earlier later, pairs = earlier ++ (name, value) :: later ∧ name ∉ later.map (·.1) := by
  unfold collect at found
  induction pairs using List.reverseRecOn with
  | nil => simp at found
  | append_singleton pairs pair ih =>
    obtain ⟨key, last⟩ := pair
    rw [List.foldl_append, List.foldl_cons, List.foldl_nil] at found
    by_cases same : name = key
    · subst same
      rw [AList.lookup_insert, Option.some_inj] at found
      exact ⟨pairs, [], by simp [found], by simp⟩
    · rw [AList.lookup_insert_ne same] at found
      obtain ⟨earlier, later, rfl, isLast⟩ := ih found
      refine ⟨earlier, later ++ [(key, last)], by simp, ?_⟩
      rw [List.map_append, List.mem_append, not_or]
      exact ⟨isLast, by simpa using same⟩

theorem mem_of_lookup_collect {pairs : List (String × α)} {name : String} {value : α}
    (found : AList.lookup name (collect pairs) = some value) : (name, value) ∈ pairs := by
  obtain ⟨earlier, later, rfl, -⟩ := lookup_collect_eq_some found
  simp

/-- The keys of a collected map are those of the pairs. -/
theorem mem_keys_collect {pairs : List (String × α)} {name : String} :
    name ∈ (collect pairs).keys ↔ name ∈ pairs.map (·.1) := by
  unfold collect
  induction pairs using List.reverseRecOn with
  | nil => simp
  | append_singleton pairs pair ih =>
    obtain ⟨key, last⟩ := pair
    rw [List.foldl_append, List.foldl_cons, List.foldl_nil, ← AList.mem_keys, AList.mem_insert,
      AList.mem_keys, ih, List.map_append, List.mem_append]
    simp [or_comm]

/-- A collected map has one entry for each key. -/
theorem length_pairs_collect (pairs : List (String × α)) :
    (collect pairs).pairs.length = (pairs.map (·.1)).dedup.length := by
  have same : List.Perm (collect pairs).keys (pairs.map (·.1)).dedup := by
    rw [List.perm_ext_iff_of_nodup (collect pairs).keys_nodup (List.nodup_dedup _)]
    intro name
    rw [mem_keys_collect, List.mem_dedup]
  rw [← same.length_eq, ← map_fst_pairs, List.length_map]

/-- The values under a name are the value that the map has under the name, if every value
carries its key as its name. -/
theorem filter_values {map : HashMap α} {nameOf : α → String}
    (keyed : ∀ name value, AList.lookup name map = some value → nameOf value = name)
    (name : String) :
    map.values.filter (nameOf · = name) = (AList.lookup name map).toList := by
  have named : ∀ pair ∈ map.pairs, nameOf pair.2 = pair.1 :=
    fun pair mem => keyed pair.1 pair.2 (mem_pairs.mp mem)
  have distinct := map.nodup_pairs
  rw [values, ← lookup_pairs]
  generalize map.pairs = pairs at named distinct
  induction pairs with
  | nil => rfl
  | cons pair pairs ih =>
    obtain ⟨key, value⟩ := pair
    rw [List.map_cons, List.nodup_cons] at distinct
    have rest := ih (fun p mem => named p (List.mem_cons_of_mem _ mem)) distinct.2
    have head : nameOf value = key := named (key, value) (by simp)
    by_cases same : key = name
    · subst same
      rw [lookup_eq_none distinct.1] at rest
      simp [head, rest]
    · rw [List.map_cons, List.filter_cons_of_neg (by simp [head, same]), rest,
        List.lookup_cons, beq_false_of_ne (Ne.symm same)]

/-! ## Maps as they were listed -/

/-- A map with its entries in the order in which they are listed; of entries with the same key
the last one wins. -/
def listed (pairs : List (String × α)) : HashMap α where
  entries := (collect pairs).entries.reverse
  nodupKeys := by
    rw [List.NodupKeys, List.keys, List.map_reverse, List.nodup_reverse]
    exact (collect pairs).nodupKeys

theorem entries_foldl_insert (pairs : List (String × α)) (map : HashMap α)
    (distinct : (pairs.map (·.1)).Nodup) (fresh : ∀ pair ∈ pairs, pair.1 ∉ map) :
    (pairs.foldl (fun map (key, value) => map.insert key value) map).entries =
      (pairs.map fun pair => ⟨pair.1, pair.2⟩).reverse ++ map.entries := by
  induction pairs generalizing map with
  | nil => rfl
  | cons pair pairs ih =>
    obtain ⟨key, value⟩ := pair
    rw [List.map_cons, List.nodup_cons] at distinct
    rw [List.forall_mem_cons] at fresh
    have unlisted : ∀ pair ∈ pairs, pair.1 ∉ map.insert key value := by
      intro pair mem
      rw [AList.mem_insert, not_or]
      exact ⟨fun same => distinct.1 (List.mem_map.mpr ⟨pair, mem, same⟩), fresh.2 pair mem⟩
    rw [List.foldl_cons, ih _ distinct.2 unlisted, AList.insert_of_notMem fresh.1,
      List.map_cons, List.reverse_cons, List.append_assoc]
    rfl

/-- The entries of a map, listed in their order, give the map. -/
theorem listed_pairs (map : HashMap α) : listed map.pairs = map := by
  have collected : (collect map.pairs).entries = map.entries.reverse := by
    rw [collect, entries_foldl_insert _ _ map.nodup_pairs (by simp)]
    simp [pairs, Function.comp_def]
  refine AList.ext (show (collect map.pairs).entries.reverse = map.entries from ?_)
  rw [collected, List.reverse_reverse]

end HashMap

end BusExporter.Foundation
