import BusExporter.Foundation.Duration

/-!
# Greedy grouping

A list is cut into consecutive groups by one pass that keeps a group open: the
next element joins the open group when it fits, and otherwise opens a new one.
The groups are the list again when they are put together, none of them is empty,
and every element of a group fitted the part of the group before it.
-/

namespace BusExporter.Foundation.Greedy

variable {α : Type*} (fits : List α → α → Prop) [∀ group x, Decidable (fits group x)]

/-- The groups of a list that continues an open group. -/
def groupsFrom (group : List α) : List α → List (List α)
  | [] => [group]
  | x :: xs =>
    if fits group x then groupsFrom (group ++ [x]) xs
    else group :: groupsFrom [x] xs

/-- The greedy groups of a list. -/
def groups : List α → List (List α)
  | [] => []
  | x :: xs => groupsFrom fits [x] xs

/-- A group that greedy grouping can build: one element, or a group and an element that fits. -/
inductive Grown : List α → Prop
  | single (x : α) : Grown [x]
  | snoc (group : List α) (x : α) : Grown group → fits group x → Grown (group ++ [x])

omit [∀ group x, Decidable (fits group x)] in
theorem Grown.ne_nil {group : List α} (grown : Grown fits group) : group ≠ [] := by
  cases grown <;> simp

theorem flatten_groupsFrom (group xs : List α) :
    (groupsFrom fits group xs).flatten = group ++ xs := by
  induction xs generalizing group with
  | nil => simp [groupsFrom]
  | cons x xs ih =>
    unfold groupsFrom
    split
    · rw [ih, List.append_assoc, List.singleton_append]
    · rw [List.flatten_cons, ih, List.singleton_append]

/-- Grouping loses, duplicates and reorders nothing. -/
@[simp]
theorem flatten_groups (xs : List α) : (groups fits xs).flatten = xs := by
  cases xs with
  | nil => rfl
  | cons x xs => exact flatten_groupsFrom fits [x] xs

theorem grown_of_mem_groupsFrom {group xs : List α} (open_grown : Grown fits group)
    {result : List α} (mem : result ∈ groupsFrom fits group xs) : Grown fits result := by
  induction xs generalizing group with
  | nil =>
    rw [groupsFrom, List.mem_singleton] at mem
    exact mem ▸ open_grown
  | cons x xs ih =>
    unfold groupsFrom at mem
    split at mem
    · rename_i joins
      exact ih (.snoc group x open_grown joins) mem
    · rcases List.mem_cons.mp mem with rfl | later
      · exact open_grown
      · exact ih (.single x) later

/-- Every group was built by adding elements that fitted. -/
theorem grown_of_mem_groups {xs group : List α} (mem : group ∈ groups fits xs) :
    Grown fits group := by
  cases xs with
  | nil => simp [groups] at mem
  | cons x xs => exact grown_of_mem_groupsFrom fits (.single x) mem

/-- Every element of a group is an element of the list. -/
theorem mem_of_mem_groups {xs group : List α} (mem : group ∈ groups fits xs) {x : α}
    (inGroup : x ∈ group) : x ∈ xs := by
  rw [← flatten_groups fits xs]
  exact List.mem_flatten_of_mem mem inGroup

/-- Every element of the list is in some group. -/
theorem exists_group_of_mem {xs : List α} {x : α} (mem : x ∈ xs) :
    ∃ group ∈ groups fits xs, x ∈ group := by
  rw [← flatten_groups fits xs] at mem
  exact List.mem_flatten.mp mem

/-- A group is a stretch of the list, so it inherits the list's order. -/
theorem sublist_of_mem_groups {xs group : List α} (mem : group ∈ groups fits xs) :
    group.Sublist xs := by
  have stretch := List.sublist_flatten_of_mem mem
  rwa [flatten_groups] at stretch

/-! ## Fewest groups -/

/-- Greedy grouping stays ahead of every other way of cutting the list into runs. `Ahead behind
group` relates the open group to the part before it that the other way has not covered yet; a
group that closes at an element closes there for the other way's run as well. -/
theorem length_groupsFrom_le (Admissible : List α → Prop) (Ahead : List α → List α → Prop)
    {xs : List α}
    (joins : ∀ run x later, Admissible (run ++ x :: later) → run ≠ [] → fits run x)
    (extend : ∀ {behind group x}, Ahead behind group → fits group x →
      Ahead behind (group ++ [x]))
    (close : ∀ {behind group x later}, (behind ++ group ++ x :: later) <:+ xs →
      Ahead behind group → ¬ fits group x →
        ¬ fits (behind ++ group) x ∧ ∀ rest, rest <:+ behind ++ group → Ahead rest [x])
    {behind group rest : List α} (nonempty : group ≠ [])
    (suffix : (behind ++ group ++ rest) <:+ xs) (ahead : Ahead behind group)
    {runs : List (List α)} (covers : runs.flatten = behind ++ group ++ rest)
    (admissible : ∀ run ∈ runs, Admissible run) :
    (groupsFrom fits group rest).length ≤ runs.length := by
  induction rest generalizing behind group runs with
  | nil =>
    have some_run : runs ≠ [] := by
      rintro rfl
      simp [nonempty] at covers
    exact List.length_pos_iff.mpr some_run
  | cons x rest ih =>
    unfold groupsFrom
    split
    · rename_i joined
      apply ih (by simp) _ (extend ahead joined) _ admissible
      · simpa using suffix
      · simpa using covers
    · rename_i closed
      obtain ⟨apart, next⟩ := close suffix ahead closed
      cases runs with
      | nil => simp at covers
      | cons run runs =>
        rw [List.flatten_cons] at covers
        -- The other way's first run cannot reach past the group, or `x` would fit it.
        have short : ∃ left, behind ++ group = run ++ left ∧ runs.flatten = left ++ x :: rest := by
          rcases List.append_eq_append_iff.mp covers with
            ⟨left, split, remaining⟩ | ⟨extra, split, remaining⟩
          · exact ⟨left, split, remaining⟩
          · cases extra with
            | nil => exact ⟨[], by simpa using split.symm, by simpa using remaining.symm⟩
            | cons y extra =>
              rw [List.cons_append, List.cons.injEq] at remaining
              have reaches := admissible run (by simp)
              rw [split, ← remaining.1] at reaches
              exact absurd (joins _ _ _ reaches (by simp [nonempty])) apart
        obtain ⟨left, split, remaining⟩ := short
        have fewer : (groupsFrom fits [x] rest).length ≤ runs.length := by
          apply ih (by simp) _ (next left ⟨run, split.symm⟩) _
            (fun run mem => admissible run (List.mem_cons_of_mem _ mem))
          · refine List.IsSuffix.trans ⟨run, ?_⟩ suffix
            simp [split]
          · simpa using remaining
        exact Nat.succ_le_succ fewer

/-- Greedy grouping needs no more groups than any other way of cutting the list into runs. -/
theorem length_groups_le (Admissible : List α → Prop) (Ahead : List α → List α → Prop)
    {xs : List α}
    (joins : ∀ run x later, Admissible (run ++ x :: later) → run ≠ [] → fits run x)
    (start : ∀ x, Ahead [] [x])
    (extend : ∀ {behind group x}, Ahead behind group → fits group x →
      Ahead behind (group ++ [x]))
    (close : ∀ {behind group x later}, (behind ++ group ++ x :: later) <:+ xs →
      Ahead behind group → ¬ fits group x →
        ¬ fits (behind ++ group) x ∧ ∀ rest, rest <:+ behind ++ group → Ahead rest [x])
    {runs : List (List α)} (covers : runs.flatten = xs)
    (admissible : ∀ run ∈ runs, Admissible run) :
    (groups fits xs).length ≤ runs.length := by
  cases xs with
  | nil => exact Nat.zero_le _
  | cons x xs =>
    have whole : ([] ++ [x] ++ xs) <:+ x :: xs := List.suffix_refl _
    exact length_groupsFrom_le fits Admissible Ahead joins extend close (by simp) whole (start x)
      covers admissible

theorem length_groupsFrom_le_length (group xs : List α) :
    (groupsFrom fits group xs).length ≤ xs.length + 1 := by
  induction xs generalizing group with
  | nil => exact le_rfl
  | cons x xs ih =>
    unfold groupsFrom
    split
    · exact (ih _).trans (Nat.le_succ _)
    · exact Nat.succ_le_succ (ih [x])

/-- There are no more groups than elements. -/
theorem length_groups_le_length (xs : List α) : (groups fits xs).length ≤ xs.length := by
  cases xs with
  | nil => exact le_rfl
  | cons x xs => exact length_groupsFrom_le_length fits [x] xs

/-- Where the list repeats no element's key, only one group holds a key. -/
theorem group_unique {κ : Type*} (key : α → κ) {xs : List α} (distinct : (xs.map key).Nodup)
    {first second : List α} (memFirst : first ∈ groups fits xs)
    (memSecond : second ∈ groups fits xs) {x y : α} (inFirst : x ∈ first) (inSecond : y ∈ second)
    (same : key x = key y) : first = second := by
  rw [← flatten_groups fits xs, List.map_flatten, List.nodup_flatten] at distinct
  have separate := List.pairwise_map.mp distinct.2
  have : Std.Symm fun a b : List α => (a.map key).Disjoint (b.map key) :=
    ⟨fun _ _ apart => List.Disjoint.symm apart⟩
  by_contra different
  have disjoint := separate.forall memFirst memSecond different
  exact disjoint (List.mem_map_of_mem inFirst) (same ▸ List.mem_map_of_mem inSecond)

end BusExporter.Foundation.Greedy
