import BusExporter.Foundation.Tally
import BusExporter.Reader.Modbus.Results

/-!
# What a batch read returns, and the calls it makes

A batch read answers every metric, whatever its reader does: each slot is filled,
and what it holds was produced for the slot's own metric. The count of read calls
is the number of calls that the reader got, at most two for each metric: one for
the range and one more when the range cannot be read.
-/

namespace BusExporter.Modbus

open Foundation

variable {σ : Type}

/-! ## Every slot is filled -/

/-- What the result of the metric at an index can be: the error for its missing address, its
slice of what the read of its range returned, or the outcome of reading it on its own. -/
inductive Produced (reader : ModbusReader σ) (metrics : List MetricConfig) (i : ℕ)
    (m : MetricConfig) : MetricResult → Prop
  | missing : m.address = none →
    Produced reader metrics i m (.error (.msg s!"metric '{m.name}' has no address"))
  | sliced {group : List IndexedMetric} {item : IndexedMetric} (s : σ) (regs : List UInt16) :
    group ∈ readGroups (m.registerType.getD .holding) metrics → item ∈ group → item.idx = i →
      ((reader.readGroup (m.registerType.getD .holding) group).run s).1 = .ok regs →
        Produced reader metrics i m (decodeMetric m regs (rangeOf group).start)
  | single (s : σ) : Produced reader metrics i m ((readSingle reader m).run s).1

variable (reader : ModbusReader σ) (metrics : List MetricConfig)

/-- Reading a metric on its own, as the step of a batch. -/
theorem ensures_single {i : ℕ} {m : MetricConfig} (found : metrics[i]? = some m) :
    Ensures (fun _ => True) (readSingle reader m) fun result _ =>
      (∃ m', metrics[i]? = some m' ∧ Produced reader metrics i m' result) ∧ True :=
  fun s _ => ⟨⟨m, found, .single s⟩, trivial⟩

/-- Every result was produced for the metric it is returned with. -/
theorem delivers_produced :
    Delivers reader metrics (fun _ => True) fun i result =>
      ∃ m, metrics[i]? = some m ∧ Produced reader metrics i m result where
  missing i m found missing := ⟨m, found, .missing missing⟩
  range _ _ _ _ _ _ := trivial
  sliced registerType isRegister group isGroup s regs _ read item inGroup := by
    obtain ⟨found, -, typed, -⟩ := mem_itemsOf.mp (Greedy.mem_of_mem_groups Joins isGroup inGroup)
    refine ⟨item.metric, found, ?_⟩
    rw [← typed] at isGroup read
    exact .sliced s regs isGroup inGroup rfl read
  fallback registerType isRegister group isGroup s e _ failed item inGroup := by
    have found := (mem_itemsOf.mp (Greedy.mem_of_mem_groups Joins isGroup inGroup)).1
    exact ensures_single reader metrics found
  bit i m mem := ensures_single reader metrics (mem_bits.mp mem).1

/-! ## The calls that are made -/

/-- A reader that counts its calls. -/
def counted (reader : ModbusReader σ) : ModbusReader (σ × ℕ) where
  readHoldingRegisters addr count := countCall (reader.readHoldingRegisters addr count)
  readInputRegisters addr count := countCall (reader.readInputRegisters addr count)
  readCoils addr count := countCall (reader.readCoils addr count)
  readDiscreteInputs addr count := countCall (reader.readDiscreteInputs addr count)

/-- A metric with an address is read with one call. -/
theorem tallies_readSingle {m : MetricConfig} (addressed : m.address.isSome) (before : ℕ) :
    Tallies (readSingle (counted reader) m) (readSingle reader m) before fun _ => before + 1 := by
  obtain ⟨addr, address⟩ := Option.isSome_iff_exists.mp addressed
  cases registerType : m.registerType.getD .holding with
  | holding | input | coil | discrete =>
    simp only [readSingle, address, registerType]
    exact (Tallies.call before _).bind fun _ => .pure rfl

theorem tallies_readIndividual {m : MetricConfig} (addressed : m.address.isSome)
    (st : BatchState) (i : ℕ) :
    Tallies (readIndividual (counted reader) st i m) (readIndividual reader st i m) st.readCount
      BatchState.readCount :=
  (tallies_readSingle reader addressed st.readCount).bind fun _ => .pure rfl

/-- The slices of a range cost no call. -/
theorem readCount_storeMembers (st : BatchState) (range : MergedRange) (regs : List UInt16) :
    (storeMembers st range regs).readCount = st.readCount := by
  unfold storeMembers
  induction range.members generalizing st with
  | nil => rfl
  | cons member members ih =>
    rw [List.foldl_cons, ih]
    rfl

theorem tallies_readRegisters (registerType : RegisterType) (start count : UInt16) (before : ℕ) :
    Tallies ((counted reader).readRegisters registerType start count)
      (reader.readRegisters registerType start count) before fun _ => before + 1 := by
  cases registerType <;> exact Tallies.call before _

/-- A range costs its read, and the reads of its members when it cannot be read. -/
theorem tallies_readRange (registerType : RegisterType) {range : MergedRange}
    (addressed : ∀ member ∈ range.members, member.metric.address.isSome) (st : BatchState) :
    Tallies (readRange (counted reader) ((counted reader).readRegisters registerType) st range)
      (readRange reader (reader.readRegisters registerType) st range) st.readCount
      BatchState.readCount := by
  refine (tallies_readRegisters reader registerType _ _ st.readCount).bind fun response => ?_
  cases response with
  | ok regs => exact .pure (readCount_storeMembers st.countRead range regs).symm
  | error e =>
    exact Tallies.foldlM BatchState.readCount
      (fun st member mem => tallies_readIndividual reader (addressed member mem) st member.idx)
      st.countRead

theorem tallies_readGroups {registerType : RegisterType} (st : BatchState) :
    Tallies
      (readRanges (counted reader) ((counted reader).readRegisters registerType) st
        ((readGroups registerType metrics).map rangeOf))
      (readRanges reader (reader.readRegisters registerType) st
        ((readGroups registerType metrics).map rangeOf)) st.readCount BatchState.readCount := by
  refine Tallies.foldlM BatchState.readCount (fun st range mem => ?_) st
  obtain ⟨group, isGroup, rfl⟩ := List.mem_map.mp mem
  refine tallies_readRange reader registerType (fun item inGroup => ?_) st
  have address := (mem_itemsOf.mp (Greedy.mem_of_mem_groups Joins isGroup inGroup)).2.1
  exact Option.isSome_of_eq_some address

/-- A batch read counts exactly the calls that its reader gets. -/
theorem tallies_batchSlots :
    Tallies (batchSlots (counted reader) metrics) (batchSlots reader metrics) 0
      BatchState.readCount := by
  rw [batchSlots_eq, batchSlots_eq]
  refine (tallies_readGroups reader metrics ⟨_, 0⟩).bind fun st => ?_
  refine (tallies_readGroups reader metrics st).bind fun st => ?_
  refine Tallies.foldlM BatchState.readCount (fun st pair mem => ?_) st
  exact tallies_readIndividual reader (mem_bits.mp mem).2.1 st pair.1

/-! ## How many they are -/

theorem readIndividual_cost (st : BatchState) (i : ℕ) (m : MetricConfig) :
    Always (readIndividual reader st i m) fun next => next.readCount ≤ st.readCount + 1 :=
  (Always.any _).bind fun _ _ => .pure le_rfl

theorem readRange_cost (registerType : RegisterType) (st : BatchState) (range : MergedRange) :
    Always (readRange reader (reader.readRegisters registerType) st range) fun next =>
      next.readCount ≤ st.readCount + (1 + range.members.length) := by
  refine (Always.any _).bind fun response _ => ?_
  -- A failed read of a range falls back to one read for each member.
  cases response with
  | ok regs =>
    refine .pure ?_
    rw [readCount_storeMembers]
    exact Nat.add_le_add_left (Nat.le_add_right 1 _) _
  | error e =>
    refine (Always.foldlM_le BatchState.readCount (fun _ => 1)
      (fun st member _ => readIndividual_cost reader st member.idx member.metric)
      st.countRead).mono fun next total => ?_
    simp only [List.map_const', List.sum_replicate, smul_eq_mul, mul_one,
      BatchState.countRead] at total
    omega

/-- The groups of a register type cost at most two calls for each of its items. -/
theorem readGroups_cost (registerType : RegisterType) (st : BatchState) :
    Always (readRanges reader (reader.readRegisters registerType) st
        ((readGroups registerType metrics).map rangeOf)) fun next =>
      next.readCount ≤ st.readCount + 2 * (itemsOf registerType metrics).length := by
  refine (Always.foldlM_le BatchState.readCount (1 + ·.members.length)
    (fun st range _ => readRange_cost reader registerType st range) st).mono fun next total => ?_
  -- There are no more groups than items, and each item is in one group.
  have groups := Greedy.length_groups_le_length Joins (itemsOf registerType metrics)
  have whole := congrArg List.length (Greedy.flatten_groups Joins (itemsOf registerType metrics))
  have split : (((readGroups registerType metrics).map rangeOf).map (1 + ·.members.length)).sum =
      (readGroups registerType metrics).length +
        (readGroups registerType metrics).flatten.length := by
    generalize readGroups registerType metrics = groups
    induction groups with
    | nil => rfl
    | cons group groups ih =>
      simp only [List.map_cons, List.sum_cons, ih, rangeOf_members, List.flatten_cons,
        List.length_append, List.length_cons]
      omega
  rw [split] at total
  unfold readGroups at total
  omega

/-- No metric is an item of both register types, or an item and a bit. -/
theorem length_items_le :
    (itemsOf .holding metrics).length + (itemsOf .input metrics).length +
      (metrics.zipIdx.filterMap bitOf).length ≤ metrics.length := by
  have indexed : metrics.zipIdx.length = metrics.length := List.length_zipIdx
  simp only [itemsOf, sortByAddr, List.length_insertionSort]
  rw [← indexed]
  generalize metrics.zipIdx = pairs
  induction pairs with
  | nil => exact le_rfl
  | cons pair pairs ih =>
    obtain ⟨m, idx⟩ := pair
    cases address : m.address <;> cases registerType : m.registerType.getD .holding <;>
      simp [itemOf, bitOf, address, registerType] <;> omega

/-- A batch read makes at most two calls for each metric. -/
theorem batchSlots_cost :
    Always (batchSlots reader metrics) fun st => st.readCount ≤ 2 * metrics.length := by
  have all := length_items_le metrics
  rw [batchSlots_eq]
  refine (readGroups_cost reader metrics .holding _).bind fun first holding => ?_
  refine (readGroups_cost reader metrics .input first).bind fun second input => ?_
  refine (Always.foldlM_le BatchState.readCount (fun _ => 1)
    (fun st pair _ => readIndividual_cost reader st pair.1 pair.2) second).mono fun last bits => ?_
  simp only [List.map_const', List.sum_replicate, smul_eq_mul, mul_one] at bits holding
  omega

/-! ## The whole batch -/

/-- A batch answers every metric: in order, with the contents of its slots, all of them filled
and each produced for its metric, at the cost of at most two calls a metric. -/
structure Complete (reader : ModbusReader σ) (metrics : List MetricConfig)
    (batch : BatchReadResult) (slots : BatchState) : Prop where
  inOrder : batch.results.map (·.1) = metrics
  isOutput : batch = batchOutput metrics slots
  filled : slots.results = batch.results.map fun pair => some pair.2
  produced : ∀ (i : ℕ) m, metrics[i]? = some m →
    ∃ result, batch.results[i]? = some (m, result) ∧ Produced reader metrics i m result
  atMostTwice : batch.readCount ≤ 2 * metrics.length

/-- Whatever its reader answers, a batch read is complete, and its count of read calls is the
number of calls that the reader gets. -/
theorem batchReadCoalesced_complete (s : σ) :
    Complete reader metrics ((batchReadCoalesced reader metrics).run s).1
        ((batchSlots reader metrics).run s).1 ∧
      (batchReadCoalesced (counted reader) metrics).run (s, 0) =
        (((batchReadCoalesced reader metrics).run s).1,
          (((batchReadCoalesced reader metrics).run s).2,
            ((batchReadCoalesced reader metrics).run s).1.readCount)) := by
  -- The output is what is left in the slots at the end.
  generalize isSlots : ((batchSlots reader metrics).run s).1 = slots
  have isOutput : ((batchReadCoalesced reader metrics).run s).1 = batchOutput metrics slots := by
    rw [← isSlots, batchReadCoalesced_eq]
    rfl
  have delivers := delivers_produced reader metrics
  obtain ⟨⟨inOrder, produced⟩, -⟩ := delivers.batchReadCoalesced s trivial
  obtain ⟨⟨length, filled⟩, -⟩ := delivers.batchSlots s trivial
  rw [isSlots] at length filled
  refine ⟨⟨inOrder, isOutput, ?_, ?_, ?_⟩, ?_⟩
  · -- A filled slot is what the output holds at its index.
    apply List.ext_getElem?
    intro i
    rw [isOutput]
    by_cases inside : i < metrics.length
    · obtain ⟨result, stored, -⟩ := filled i metrics[i] (List.getElem?_eq_getElem inside)
      rw [stored]
      simp [batchOutput, inside, slotResult, stored]
    · have outside : metrics.length ≤ i := Nat.le_of_not_lt inside
      rw [List.getElem?_eq_none (length ▸ outside)]
      simp [batchOutput, outside]
  · intro i m found
    obtain ⟨result, returned, m', found', isProduced⟩ := produced i m found
    rw [found, Option.some_inj] at found'
    subst found'
    exact ⟨result, returned, isProduced⟩
  · rw [isOutput, ← isSlots]
    exact batchSlots_cost reader metrics s
  · obtain ⟨calls, ran, balance⟩ := tallies_batchSlots reader metrics s 0
    rw [Nat.add_zero, Nat.zero_add, isSlots] at balance
    have count : (batchOutput metrics slots).readCount = calls := balance.symm
    rw [isOutput, count, batchReadCoalesced_eq, batchReadCoalesced_eq, StateT.run_bind, ran,
      isSlots]
    rfl

end BusExporter.Modbus
