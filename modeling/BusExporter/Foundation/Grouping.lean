import BusExporter.Foundation.HashMap

/-!
# Grouping by a key

A list is grouped by a key of its elements in an ordered map: every key that
occurs has the elements with that key, in the order of the list. Flattened, the
groups are a rearrangement of the list.
-/

namespace BusExporter.Foundation

variable {α : Type} (key : α → String)

/-- Groups by key. -/
abbrev Groups (α : Type) := Std.ExtTreeMap String (List α)

/-- `entry(key).or_default().push(x)`. -/
def pushGroup (groups : Groups α) (x : α) : Groups α :=
  groups.insert (key x) ((groups[key x]?).getD [] ++ [x])

def groupBy (xs : List α) : Groups α := xs.foldl (pushGroup key) ∅

variable {key}

/-- A key's group consists of the elements with the key. -/
theorem getElem?_groupBy (xs : List α) (k : String) :
    (groupBy key xs)[k]? =
      if xs.filter (key · = k) = [] then none else some (xs.filter (key · = k)) := by
  induction xs using List.reverseRecOn with
  | nil => simp [groupBy]
  | append_singleton xs x ih =>
    rw [groupBy, List.foldl_append, List.foldl_cons, List.foldl_nil, ← groupBy, pushGroup,
      Std.ExtTreeMap.getElem?_insert]
    by_cases same : key x = k
    · subst same
      have found : (groupBy key xs)[key x]?.getD [] = xs.filter (key · = key x) := by
        rw [ih]
        split
        · rename_i empty
          exact empty.symm
        · rfl
      rw [found]
      simp
    · simp [same, ih]

theorem mem_toList_groupBy {xs : List α} {k : String} {group : List α} :
    (k, group) ∈ (groupBy key xs).toList ↔ group = xs.filter (key · = k) ∧ group ≠ [] := by
  rw [Std.ExtTreeMap.mem_toList_iff_getElem?_eq_some, getElem?_groupBy]
  split
  · rename_i empty
    simp only [reduceCtorEq, false_iff, not_and, not_not]
    exact fun same => same.trans empty
  · rename_i nonempty
    rw [Option.some_inj]
    constructor
    · rintro rfl
      exact ⟨rfl, nonempty⟩
    · exact fun ⟨same, _⟩ => same.symm

/-- The keys of the groups are distinct. -/
theorem nodup_keys_groupBy (xs : List α) : ((groupBy key xs).toList.map (·.1)).Nodup := by
  have distinct := (groupBy key xs).distinct_keys_toList
  rw [List.Nodup, List.pairwise_map]
  exact distinct.imp fun different same => different (by simp [same])

/-- Taking the elements with each of some distinct keys, among them all that occur, rearranges
the list. -/
theorem perm_flatMap_filter {keys : List String} {xs : List α} (distinct : keys.Nodup)
    (all : ∀ x ∈ xs, key x ∈ keys) : (keys.flatMap fun k => xs.filter (key · = k)).Perm xs := by
  induction keys generalizing xs with
  | nil =>
    cases xs with
    | nil => exact .refl _
    | cons x xs => exact absurd (all x (by simp)) (by simp)
  | cons k keys ih =>
    rw [List.nodup_cons] at distinct
    have rest : (keys.flatMap fun k' => xs.filter (key · = k')) =
        keys.flatMap fun k' => (xs.filter (key · ≠ k)).filter (key · = k') := by
      refine List.flatMap_congr fun k' mem => ?_
      rw [List.filter_filter]
      refine List.filter_congr fun x _ => ?_
      have different : k' ≠ k := ne_of_mem_of_not_mem mem distinct.1
      by_cases same : key x = k'
      · simp [same, different]
      · simp [same]
    rw [List.flatMap_cons, rest]
    have others : ∀ x ∈ xs.filter (key · ≠ k), key x ∈ keys := by
      intro x mem
      rw [List.mem_filter] at mem
      exact (List.mem_cons.mp (all x mem.1)).resolve_left (by simpa using mem.2)
    refine (List.Perm.append_left _ (ih distinct.2 others)).trans ?_
    simpa using List.filter_append_perm (key · = k) xs

/-- The groups are a rearrangement of the list. -/
theorem perm_groupBy (xs : List α) :
    ((groupBy key xs).toList.flatMap (·.2)).Perm xs := by
  have groups : (groupBy key xs).toList.flatMap (·.2) =
      ((groupBy key xs).toList.map (·.1)).flatMap fun k => xs.filter (key · = k) := by
    rw [List.flatMap_map]
    exact List.flatMap_congr fun entry mem => (mem_toList_groupBy.mp mem).1
  rw [groups]
  refine perm_flatMap_filter (nodup_keys_groupBy xs) fun x mem => ?_
  refine List.mem_map.mpr
    ⟨(key x, xs.filter (key · = key x)), mem_toList_groupBy.mpr ⟨rfl, ?_⟩, rfl⟩
  exact List.ne_nil_of_mem (List.mem_filter.mpr ⟨mem, by simp⟩)

end BusExporter.Foundation
