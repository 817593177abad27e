import BusExporter.Foundation.Greedy
import BusExporter.Reader.Modbus.Batch

/-!
# Coalescing as greedy grouping

What coalescing is for, in natural numbers: the items of one register type, in
address order, are cut into groups, an item joining the open group when it starts
at most ten registers past the group's end and ends at most 125 registers past
the group's start. `coalesce` computes the ranges of these groups.
-/

namespace BusExporter.Modbus

open Foundation

/-! ## Groups -/

/-- The address of a group's first item. -/
def firstAddr (group : List IndexedMetric) : ℕ := (group.head?.map (·.addr.toNat)).getD 0

/-- The largest end of a group's items. -/
def lastStop (group : List IndexedMetric) : ℕ :=
  group.foldl (fun stop item => max stop item.stop.toNat) 0

/-- An item joins a group when the gap and the merged length stay within their limits. -/
def Joins (group : List IndexedMetric) (item : IndexedMetric) : Prop :=
  item.addr.toNat ≤ lastStop group + maxCoalesceGap ∧
    item.stop.toNat ≤ firstAddr group + maxRegistersPerRead

instance (group : List IndexedMetric) (item : IndexedMetric) : Decidable (Joins group item) :=
  inferInstanceAs (Decidable (_ ∧ _))

/-- The range a group is read with. -/
def rangeOf (group : List IndexedMetric) : MergedRange where
  start := (group.head?.map (·.addr)).getD 0
  stop := group.foldl (fun stop item => max stop item.stop) 0
  members := group

@[simp]
theorem rangeOf_start (group : List IndexedMetric) :
    (rangeOf group).start.toNat = firstAddr group := by
  cases group <;> rfl

@[simp]
theorem rangeOf_stop (group : List IndexedMetric) :
    (rangeOf group).stop.toNat = lastStop group := by
  have step : ∀ stop : UInt16,
      (group.foldl (fun stop item => max stop item.stop) stop).toNat =
        group.foldl (fun stop item => max stop item.stop.toNat) stop.toNat := by
    induction group with
    | nil => exact fun _ => rfl
    | cons item group ih =>
      intro stop
      rw [List.foldl_cons, List.foldl_cons, ih, UInt16.toNat_max]
  exact step 0

@[simp]
theorem rangeOf_members (group : List IndexedMetric) : (rangeOf group).members = group := rfl

theorem rangeOf_singleton (item : IndexedMetric) :
    rangeOf [item] = ⟨item.addr, item.stop, [item]⟩ := by
  have stop : max 0 item.stop = item.stop := by
    rw [← UInt16.toNat_inj, UInt16.toNat_max, UInt16.toNat_zero, Nat.zero_max]
  simp [rangeOf, stop]

theorem rangeOf_snoc (group : List IndexedMetric) (nonempty : group ≠ []) (item : IndexedMetric) :
    rangeOf (group ++ [item]) =
      { rangeOf group with
        stop := max (rangeOf group).stop item.stop, members := group ++ [item] } := by
  cases group with
  | nil => exact absurd rfl nonempty
  | cons first rest => simp [rangeOf]

/-- An item is merged into a group's range exactly when it joins the group. -/
theorem merges_iff_joins (group : List IndexedMetric) (item : IndexedMetric) :
    ((item.addr.saturatingSub (rangeOf group).stop).toNat ≤ maxCoalesceGap ∧
        (item.stop.saturatingSub (rangeOf group).start).toNat ≤ maxRegistersPerRead) ↔
      Joins group item := by
  simp only [UInt16.toNat_saturatingSub, rangeOf_stop, rangeOf_start, Joins]
  omega

theorem coalesceFrom_eq (group : List IndexedMetric) (nonempty : group ≠ [])
    (items : List IndexedMetric) :
    coalesceFrom (rangeOf group) items = (Greedy.groupsFrom Joins group items).map rangeOf := by
  induction items generalizing group with
  | nil => rfl
  | cons item items ih =>
    unfold coalesceFrom Greedy.groupsFrom
    simp only [merges_iff_joins]
    split
    · rw [rangeOf_members, ← rangeOf_snoc group nonempty]
      exact ih _ (by simp)
    · rw [List.map_cons, ← rangeOf_singleton]
      exact congrArg _ (ih [item] (by simp))

/-- Coalescing is greedy grouping: one range for each group. -/
theorem coalesce_eq (items : List IndexedMetric) :
    coalesce items = (Greedy.groups Joins items).map rangeOf := by
  cases items with
  | nil => rfl
  | cons item items =>
    rw [coalesce, ← rangeOf_singleton]
    exact coalesceFrom_eq [item] (by simp) items

/-! ## The extent of a group -/

theorem lastStop_snoc (group : List IndexedMetric) (item : IndexedMetric) :
    lastStop (group ++ [item]) = max (lastStop group) item.stop.toNat := by
  simp [lastStop]

theorem firstAddr_snoc (group : List IndexedMetric) (nonempty : group ≠ [])
    (item : IndexedMetric) : firstAddr (group ++ [item]) = firstAddr group := by
  cases group with
  | nil => exact absurd rfl nonempty
  | cons first rest => rfl

/-- No member of a group ends after the group. -/
theorem stop_le_lastStop {group : List IndexedMetric} {item : IndexedMetric}
    (mem : item ∈ group) : item.stop.toNat ≤ lastStop group := by
  induction group using List.reverseRecOn with
  | nil => simp at mem
  | append_singleton group last ih =>
    rw [lastStop_snoc]
    rcases List.mem_append.mp mem with earlier | isLast
    · exact le_max_of_le_left (ih earlier)
    · rw [List.mem_singleton] at isLast
      exact le_max_of_le_right (isLast ▸ le_rfl)

/-- Ends saturate at the last 16-bit value. -/
theorem lastStop_le (group : List IndexedMetric) : lastStop group ≤ 65535 := by
  rw [← rangeOf_stop]
  have := (rangeOf group).stop.toNat_lt
  omega

/-- A group never spans more registers than one read may ask for. -/
theorem span_le {group : List IndexedMetric} (grown : Greedy.Grown Joins group)
    (small : ∀ item ∈ group, item.count.toNat ≤ 4) :
    lastStop group ≤ firstAddr group + maxRegistersPerRead := by
  induction grown with
  | single item =>
    have count := small item (by simp)
    simp [lastStop, firstAddr, IndexedMetric.stop, maxRegistersPerRead]
    omega
  | snoc group item grown joins ih =>
    rw [lastStop_snoc, firstAddr_snoc _ grown.ne_nil]
    exact max_le (ih fun member mem => small member (by simp [mem])) joins.2

/-- In address order, no member of a group starts before the group. -/
theorem firstAddr_le {group : List IndexedMetric}
    (sorted : group.Pairwise fun a b => a.addr ≤ b.addr) {item : IndexedMetric}
    (mem : item ∈ group) : firstAddr group ≤ item.addr.toNat := by
  cases group with
  | nil => simp at mem
  | cons first rest =>
    rcases List.mem_cons.mp mem with rfl | later
    · exact le_rfl
    · exact UInt16.le_iff_toNat_le.mp ((List.pairwise_cons.mp sorted).1 item later)

/-! ## The items of a register type -/

/-- A metric of a register type, as an item to read. -/
def itemOf (registerType : RegisterType) : MetricConfig × ℕ → Option IndexedMetric
  | (m, idx) =>
    m.address.bind fun addr =>
      if m.registerType.getD .holding = registerType then
        some ⟨idx, m, addr, m.dataType.registerCount⟩
      else none

/-- A coil or discrete input metric, with its index. -/
def bitOf : MetricConfig × ℕ → Option (ℕ × MetricConfig)
  | (m, idx) =>
    m.address.bind fun _ =>
      if m.registerType.getD .holding = .coil ∨ m.registerType.getD .holding = .discrete then
        some (idx, m)
      else none

theorem itemOf_eq_some {registerType : RegisterType} {m : MetricConfig} {idx : ℕ}
    {item : IndexedMetric} :
    itemOf registerType (m, idx) = some item ↔
      m.address = some item.addr ∧ m.registerType.getD .holding = registerType ∧
        item.idx = idx ∧ item.metric = m ∧ item.count = m.dataType.registerCount := by
  obtain ⟨itemIdx, metric, addr, count⟩ := item
  cases address : m.address with
  | none => simp [itemOf, address]
  | some present =>
    simp only [itemOf, address, Option.bind_some]
    split <;> simp_all
    tauto

theorem classify_foldl (pairs : List (MetricConfig × ℕ)) (sorted : Classified) :
    let result := pairs.foldl (fun sorted (m, idx) => classifyMetric sorted m idx) sorted
    result.results.length = sorted.results.length ∧
      result.holding = sorted.holding ++ pairs.filterMap (itemOf .holding) ∧
        result.input = sorted.input ++ pairs.filterMap (itemOf .input) ∧
          result.individual = sorted.individual ++ pairs.filterMap bitOf := by
  induction pairs generalizing sorted with
  | nil => simp
  | cons pair pairs ih =>
    obtain ⟨m, idx⟩ := pair
    -- One metric goes to one of the lists, or its slot gets an error.
    obtain ⟨length, holding, input, individual⟩ := ih (classifyMetric sorted m idx)
    simp only [List.foldl_cons]
    refine ⟨length.trans ?_, holding.trans ?_, input.trans ?_, individual.trans ?_⟩ <;>
      cases address : m.address <;>
        cases registerType : m.registerType.getD .holding <;>
          simp [classifyMetric, itemOf, bitOf, address, registerType]

/-- The items of a register type, in address order. -/
def itemsOf (registerType : RegisterType) (metrics : List MetricConfig) : List IndexedMetric :=
  sortByAddr (metrics.zipIdx.filterMap (itemOf registerType))

/-- The groups in which the metrics of a register type are read. -/
def readGroups (registerType : RegisterType) (metrics : List MetricConfig) :
    List (List IndexedMetric) :=
  Greedy.groups Joins (itemsOf registerType metrics)

theorem classify_holding (metrics : List MetricConfig) :
    coalesce (sortByAddr (classify metrics).holding) =
      (readGroups .holding metrics).map rangeOf := by
  rw [coalesce_eq, classify, (classify_foldl _ _).2.1]
  rfl

theorem classify_input (metrics : List MetricConfig) :
    coalesce (sortByAddr (classify metrics).input) = (readGroups .input metrics).map rangeOf := by
  rw [coalesce_eq, classify, (classify_foldl _ _).2.2.1]
  rfl

theorem classify_individual (metrics : List MetricConfig) :
    (classify metrics).individual = metrics.zipIdx.filterMap bitOf := by
  rw [classify, (classify_foldl _ _).2.2.2]
  rfl

theorem mem_itemsOf {registerType : RegisterType} {metrics : List MetricConfig}
    {item : IndexedMetric} :
    item ∈ itemsOf registerType metrics ↔
      metrics[item.idx]? = some item.metric ∧ item.metric.address = some item.addr ∧
        item.metric.registerType.getD .holding = registerType ∧
          item.count = item.metric.dataType.registerCount := by
  rw [itemsOf, sortByAddr, List.mem_insertionSort, List.mem_filterMap]
  constructor
  · rintro ⟨⟨m, idx⟩, mem, isItem⟩
    obtain ⟨address, typed, rfl, rfl, count⟩ := itemOf_eq_some.mp isItem
    exact ⟨List.mem_zipIdx_iff_getElem?.mp mem, address, typed, count⟩
  · rintro ⟨mem, address, typed, count⟩
    exact ⟨(item.metric, item.idx), List.mem_zipIdx_iff_getElem?.mpr mem,
      itemOf_eq_some.mpr ⟨address, typed, rfl, rfl, count⟩⟩

theorem itemsOf_sorted (registerType : RegisterType) (metrics : List MetricConfig) :
    (itemsOf registerType metrics).Pairwise fun a b => a.addr ≤ b.addr := by
  have : Std.Total fun a b : IndexedMetric => a.addr ≤ b.addr := ⟨fun _ _ => UInt16.le_total _ _⟩
  have : IsTrans IndexedMetric fun a b => a.addr ≤ b.addr := ⟨fun _ _ _ => UInt16.le_trans⟩
  exact List.pairwise_insertionSort _ _

/-- A metric with an address is read in some group of its register type. -/
theorem exists_item {metrics : List MetricConfig} {i : ℕ} {m : MetricConfig}
    (found : metrics[i]? = some m) (addressed : m.address.isSome) :
    ∃ group ∈ readGroups (m.registerType.getD .holding) metrics,
      ∃ item ∈ group, item.idx = i ∧ item.metric = m := by
  obtain ⟨addr, address⟩ := Option.isSome_iff_exists.mp addressed
  have mem : ⟨i, m, addr, m.dataType.registerCount⟩ ∈
      itemsOf (m.registerType.getD .holding) metrics :=
    mem_itemsOf.mpr ⟨found, address, rfl, rfl⟩
  obtain ⟨group, isGroup, inGroup⟩ := Greedy.exists_group_of_mem Joins mem
  exact ⟨group, isGroup, _, inGroup, rfl, rfl⟩

theorem mem_bits {metrics : List MetricConfig} {i : ℕ} {m : MetricConfig} :
    (i, m) ∈ metrics.zipIdx.filterMap bitOf ↔
      metrics[i]? = some m ∧ m.address.isSome ∧
        (m.registerType.getD .holding = .coil ∨ m.registerType.getD .holding = .discrete) := by
  have isBit : ∀ pair, bitOf pair = some (i, m) ↔ pair = (m, i) ∧ m.address.isSome ∧
      (m.registerType.getD .holding = .coil ∨ m.registerType.getD .holding = .discrete) := by
    rintro ⟨m', idx⟩
    cases address : m'.address <;> simp [bitOf, address]
    all_goals grind
  simp only [List.mem_filterMap, isBit]
  constructor
  · rintro ⟨pair, mem, rfl, addressed, bit⟩
    exact ⟨List.mem_zipIdx_iff_getElem?.mp mem, addressed, bit⟩
  · rintro ⟨found, addressed, bit⟩
    exact ⟨(m, i), List.mem_zipIdx_iff_getElem?.mpr found, rfl, addressed, bit⟩

/-- Every input index is the index of at most one item. -/
theorem itemsOf_idx_nodup (registerType : RegisterType) (metrics : List MetricConfig) :
    ((itemsOf registerType metrics).map (·.idx)).Nodup := by
  have sorted := List.perm_insertionSort (fun a b : IndexedMetric => a.addr ≤ b.addr)
    (metrics.zipIdx.filterMap (itemOf registerType))
  rw [itemsOf, sortByAddr, (sorted.map _).nodup_iff]
  -- The items are some of the metrics, with the indices that these have.
  have indices : ((metrics.zipIdx.filterMap (itemOf registerType)).map (·.idx)).Sublist
      (metrics.zipIdx.map (·.2)) := by
    generalize metrics.zipIdx = pairs
    induction pairs with
    | nil => simp
    | cons pair pairs ih =>
      cases found : itemOf registerType pair with
      | none => simpa [found] using ih.cons pair.2
      | some item =>
        have idx : item.idx = pair.2 := (itemOf_eq_some.mp found).2.2.1
        simpa [found, idx] using ih
  refine List.Nodup.sublist indices ?_
  rw [List.zipIdx_map_snd]
  exact List.nodup_range'

end BusExporter.Modbus
