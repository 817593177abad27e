import BusExporter.Config.Accepted
import BusExporter.Reader.Modbus.Groups
import Mathlib.Order.Bounds.Basic

/-!
# Coalescing cuts the items into as few reads as possible

A run of items can be fetched with one read when no item starts more than ten
registers past the ends before it and the run spans at most 125 registers. The
members of the ranges of `coalesce` are such runs, and no other way of cutting
the sorted items into such runs uses fewer of them.

The reason is that the first item of a new range ends beyond everything before
it: whichever limit closed the range before, no run that started earlier could
have taken the item in either.
-/

namespace BusExporter.Modbus

open Foundation

/-- The limits of one read: how far an item may start past the ends of the items before it,
and how many registers the run spans. -/
structure WithinLimits (run : List IndexedMetric) : Prop where
  gap : ∀ before item after, run = before ++ item :: after → before ≠ [] →
    item.addr.toNat ≤ lastStop before + maxCoalesceGap
  span : lastStop run ≤ firstAddr run + maxRegistersPerRead

/-- An item ends no earlier than it starts. -/
theorem addr_le_stop (item : IndexedMetric) : item.addr.toNat ≤ item.stop.toNat := by
  rw [IndexedMetric.stop, UInt16.toNat_saturatingAdd]
  have := item.addr.toNat_lt
  omega

/-- The end of a prefix is no larger than the end of the run. -/
theorem lastStop_append (before after : List IndexedMetric) :
    lastStop (before ++ after) = max (lastStop before) (lastStop after) := by
  induction after using List.reverseRecOn with
  | nil => simp [lastStop]
  | append_singleton after item ih =>
    rw [← List.append_assoc, lastStop_snoc, lastStop_snoc, ih, max_assoc]

theorem lastStop_singleton (item : IndexedMetric) : lastStop [item] = item.stop.toNat := by
  simp [lastStop]

theorem firstAddr_append {before : List IndexedMetric} (nonempty : before ≠ [])
    (after : List IndexedMetric) : firstAddr (before ++ after) = firstAddr before := by
  cases before with
  | nil => exact absurd rfl nonempty
  | cons first rest => rfl

/-! ## The ranges of `coalesce` are within the limits -/

/-- A group that greedy grouping builds is within the limits of one read. -/
theorem withinLimits_of_grown {group : List IndexedMetric}
    (grown : Greedy.Grown Joins group) (small : ∀ item ∈ group, item.count.toNat ≤ 4) :
    WithinLimits group := by
  refine ⟨?_, span_le grown small⟩
  clear small
  induction grown with
  | single first =>
    intro before item after split started
    have length := congrArg List.length split
    have := List.length_pos_iff.mpr started
    simp at length
    omega
  | snoc group last grown joins ih =>
    intro before item after split started
    cases after using List.reverseRecOn with
    | nil =>
      obtain ⟨rfl, same⟩ := List.append_inj' split rfl
      cases same
      exact joins.1
    | append_singleton after final =>
      rw [← List.cons_append, ← List.append_assoc] at split
      exact ih before item after (List.append_inj' split rfl).1 started

/-- An item of a run that is within the limits joins what comes before it. -/
theorem WithinLimits.joins {run : List IndexedMetric} {item : IndexedMetric}
    {later : List IndexedMetric} (within : WithinLimits (run ++ item :: later))
    (started : run ≠ []) : Joins run item := by
  constructor
  · exact within.gap run item later rfl started
  · have member : item.stop.toNat ≤ lastStop (run ++ item :: later) := stop_le_lastStop (by simp)
    have span := within.span
    rw [firstAddr_append started] at span
    exact member.trans span

/-! ## No partition has fewer runs -/

/-- What greedy grouping keeps: the open group is a group, and what comes before it and is not
covered by the other way's runs yet ends no later than the group. -/
structure Ahead (behind group : List IndexedMetric) : Prop where
  grown : Greedy.Grown Joins group
  ends : lastStop behind ≤ lastStop group

/-- Where a group closes, no longer run can go on, and the next item ends beyond both. -/
theorem Ahead.close {behind group : List IndexedMetric} {item : IndexedMetric}
    (ahead : Ahead behind group) (closed : ¬ Joins group item)
    (small : ∀ member ∈ group, member.count.toNat ≤ 4)
    (sorted : (behind ++ group).Pairwise fun a b => a.addr ≤ b.addr) :
    ¬ Joins (behind ++ group) item ∧ lastStop (behind ++ group) < item.stop.toNat := by
  have span := span_le ahead.grown small
  have starts := addr_le_stop item
  -- The longer run has the same end, and starts no later.
  have together : lastStop (behind ++ group) = lastStop group := by
    rw [lastStop_append]
    exact max_eq_right ahead.ends
  have earlier : firstAddr (behind ++ group) ≤ firstAddr group := by
    cases group with
    | nil => exact absurd rfl ahead.grown.ne_nil
    | cons first rest => exact firstAddr_le sorted (by simp)
  simp only [Joins, together] at closed ⊢
  omega

/-- Greedy grouping needs no more groups than any way of cutting sorted items into runs within
the limits. -/
theorem length_groups_le {items : List IndexedMetric}
    (sorted : items.Pairwise fun a b => a.addr ≤ b.addr)
    (small : ∀ item ∈ items, item.count.toNat ≤ 4) {runs : List (List IndexedMetric)}
    (covers : runs.flatten = items) (within : ∀ run ∈ runs, WithinLimits run) :
    (Greedy.groups Joins items).length ≤ runs.length := by
  apply Greedy.length_groups_le Joins WithinLimits Ahead _ _ _ _ covers within
  · exact fun run item later within started => within.joins started
  · exact fun item => ⟨.single item, by simp [lastStop]⟩
  · intro behind group item ahead joined
    refine ⟨.snoc group item ahead.grown joined, ?_⟩
    rw [lastStop_snoc]
    exact le_max_of_le_left ahead.ends
  · intro behind group item later suffix ahead closed
    have inList : ∀ member ∈ group, member ∈ items :=
      fun member mem => suffix.subset (by simp [mem])
    have before : (behind ++ group).Pairwise fun a b => a.addr ≤ b.addr :=
      (List.pairwise_append.mp (sorted.sublist suffix.sublist)).1
    obtain ⟨apart, beyond⟩ :=
      ahead.close closed (fun member mem => small member (inList member mem)) before
    refine ⟨apart, fun left isSuffix => ⟨.single item, ?_⟩⟩
    -- What is left of the part before ends no later than that part, so before the item's end.
    obtain ⟨covered, split⟩ := isSuffix
    rw [← split, lastStop_append] at beyond
    rw [lastStop_singleton]
    exact le_of_lt (lt_of_le_of_lt (le_max_right _ _) beyond)

/-- A range starts at the least address and ends at the greatest end of its members. -/
theorem extent_rangeOf {group : List IndexedMetric} (nonempty : group ≠ [])
    (sorted : group.Pairwise fun a b => a.addr ≤ b.addr) :
    IsLeast {addr | ∃ item ∈ group, item.addr.toNat = addr} (rangeOf group).start.toNat ∧
      IsGreatest {stop | ∃ item ∈ group, item.stop.toNat = stop} (rangeOf group).stop.toNat := by
  rw [rangeOf_start, rangeOf_stop]
  refine ⟨⟨?_, ?_⟩, ?_, ?_⟩
  · cases group with
    | nil => exact absurd rfl nonempty
    | cons first rest => exact ⟨first, by simp, rfl⟩
  · rintro addr ⟨item, mem, rfl⟩
    exact firstAddr_le sorted mem
  · clear sorted
    induction group using List.reverseRecOn with
    | nil => exact absurd rfl nonempty
    | append_singleton group last ih =>
      rw [lastStop_snoc]
      -- The greatest end is that of an earlier item or of the last one.
      rcases max_choice (lastStop group) last.stop.toNat with before | atLast
      · cases group with
        | nil => exact ⟨last, by simp, by simp [lastStop]⟩
        | cons first rest =>
          obtain ⟨item, mem, stop⟩ := ih (by simp)
          exact ⟨item, List.mem_append_left _ mem, stop.trans before.symm⟩
      · exact ⟨last, by simp, atLast.symm⟩
  · rintro stop ⟨item, mem, rfl⟩
    exact stop_le_lastStop mem

/-- Coalescing cuts sorted items into consecutive runs that one read can fetch each, and no
other way of cutting them uses fewer. -/
theorem coalesce_optimal (items : List IndexedMetric)
    (sorted : items.Pairwise fun a b => a.addr ≤ b.addr)
    (counts : ∀ item ∈ items, item.count = 1 ∨ item.count = 2 ∨ item.count = 4) :
    ((coalesce items).map (·.members)).flatten = items ∧
      (∀ range ∈ coalesce items, WithinLimits range.members ∧
        range.stop.toNat - range.start.toNat ≤ maxRegistersPerRead ∧
        IsLeast {addr | ∃ item ∈ range.members, item.addr.toNat = addr} range.start.toNat ∧
        IsGreatest {stop | ∃ item ∈ range.members, item.stop.toNat = stop} range.stop.toNat) ∧
      ∀ runs : List (List IndexedMetric), runs.flatten = items →
        (∀ run ∈ runs, WithinLimits run) → (coalesce items).length ≤ runs.length := by
  have small : ∀ item ∈ items, item.count.toNat ≤ 4 := by
    intro item mem
    rcases counts item mem with one | two | four
    · simp [one]
    · simp [two]
    · simp [four]
  rw [coalesce_eq]
  refine ⟨?_, ?_, ?_⟩
  · have members : (MergedRange.members ∘ rangeOf) = id := rfl
    rw [List.map_map, members, List.map_id, Greedy.flatten_groups]
  · intro range mem
    obtain ⟨group, isGroup, rfl⟩ := List.mem_map.mp mem
    -- A range is a stretch of the sorted items, built by joining one after another.
    have grown := Greedy.grown_of_mem_groups Joins isGroup
    have stretch := Greedy.sublist_of_mem_groups Joins isGroup
    have within := withinLimits_of_grown grown fun item mem => small item (stretch.subset mem)
    refine ⟨within, ?_, extent_rangeOf grown.ne_nil (sorted.sublist stretch)⟩
    rw [rangeOf_start, rangeOf_stop]
    exact Nat.sub_le_of_le_add (Nat.add_comm _ _ ▸ within.span)
  · intro runs covers within
    rw [List.length_map]
    exact length_groups_le sorted small covers within

/-- Three words, of which the first two are near enough for one read. -/
def scattered : List IndexedMetric :=
  itemsOf .holding [Samples.wordMetric "power" 0, Samples.wordMetric "energy" 8,
    Samples.wordMetric "runtime" 400]

theorem coalesce_optimal_scattered :
    (coalesce scattered).length = 2 ∧ ∀ runs : List (List IndexedMetric),
      runs.flatten = scattered → (∀ run ∈ runs, WithinLimits run) → 2 ≤ runs.length := by
  have optimal := coalesce_optimal scattered (by decide) (by decide)
  exact ⟨rfl, optimal.2.2⟩

end BusExporter.Modbus
