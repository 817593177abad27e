import BusExporter.Foundation.Slots
import BusExporter.Reader.Basic
import BusExporter.Reader.Modbus.Groups

/-!
# The results of a batch read

One rule for everything a batch read returns. If the error for a missing address,
every slice of a range that was read, every single read after a range that was
not, and every read of a coil or a discrete input is good for its metric, then so
is every result of the batch, and the results stand in the order of the metrics.
-/

namespace BusExporter.Modbus

open Foundation

variable {σ : Type}

/-- The read call of a register type's ranges. -/
def ModbusReader.readRegisters (reader : ModbusReader σ) :
    RegisterType → UInt16 → UInt16 → StateM σ (Except Error (List UInt16))
  | .input => reader.readInputRegisters
  | _ => reader.readHoldingRegisters

/-- The read of a group's range. -/
def ModbusReader.readGroup (reader : ModbusReader σ) (registerType : RegisterType)
    (group : List IndexedMetric) : StateM σ (Except Error (List UInt16)) :=
  reader.readRegisters registerType (rangeOf group).start (rangeOf group).count

/-- The register types that are read in ranges. -/
def RegisterType.IsRegister (registerType : RegisterType) : Prop :=
  registerType = .holding ∨ registerType = .input

/-- A batch read up to its output: the slots, and the number of calls. -/
def batchSlots (reader : ModbusReader σ) (metrics : List MetricConfig) : StateM σ BatchState := do
  let sorted := classify metrics
  let st : BatchState := ⟨sorted.results, 0⟩
  let st ← readRanges reader reader.readHoldingRegisters st (coalesce (sortByAddr sorted.holding))
  let st ← readRanges reader reader.readInputRegisters st (coalesce (sortByAddr sorted.input))
  sorted.individual.foldlM (fun st (idx, m) => readIndividual reader st idx m) st

/-- The output of a batch read, from its slots. -/
def batchOutput (metrics : List MetricConfig) (st : BatchState) : BatchReadResult :=
  ⟨metrics.zipIdx.map fun (m, idx) => (m, slotResult st.results m idx), st.readCount⟩

theorem batchReadCoalesced_eq (reader : ModbusReader σ) (metrics : List MetricConfig) :
    batchReadCoalesced reader metrics =
      batchSlots reader metrics >>= fun st => pure (batchOutput metrics st) := by
  simp only [batchReadCoalesced, batchSlots, bind_assoc]
  rfl

/-- The slots of a batch read, in terms of the groups it reads. -/
theorem batchSlots_eq (reader : ModbusReader σ) (metrics : List MetricConfig) :
    batchSlots reader metrics =
      readRanges reader (reader.readRegisters .holding) ⟨(classify metrics).results, 0⟩
          ((readGroups .holding metrics).map rangeOf) >>= fun st =>
        readRanges reader (reader.readRegisters .input) st
            ((readGroups .input metrics).map rangeOf) >>= fun st =>
          (metrics.zipIdx.filterMap bitOf).foldlM
            (fun st (idx, m) => readIndividual reader st idx m) st := by
  simp only [batchSlots, classify_holding, classify_input, classify_individual]
  rfl

/-- Whatever a batch read puts into a slot is good for the slot's metric, and its calls keep
an invariant of the reader. -/
structure Delivers (reader : ModbusReader σ) (metrics : List MetricConfig) (kept : σ → Prop)
    (good : ℕ → MetricResult → Prop) : Prop where
  missing : ∀ (i : ℕ) m, metrics[i]? = some m → m.address = none →
    good i (.error (.msg s!"metric '{m.name}' has no address"))
  range : ∀ registerType, RegisterType.IsRegister registerType →
    ∀ group ∈ readGroups registerType metrics,
      Ensures kept (reader.readGroup registerType group) fun _ s => kept s
  sliced : ∀ registerType, RegisterType.IsRegister registerType →
    ∀ group ∈ readGroups registerType metrics, ∀ s regs, kept s →
      ((reader.readGroup registerType group).run s).1 = .ok regs →
        ∀ item ∈ group, good item.idx (decodeMetric item.metric regs (rangeOf group).start)
  fallback : ∀ registerType, RegisterType.IsRegister registerType →
    ∀ group ∈ readGroups registerType metrics, ∀ s e, kept s →
      ((reader.readGroup registerType group).run s).1 = .error e →
        ∀ item ∈ group, Ensures kept (readSingle reader item.metric) fun result s =>
          good item.idx result ∧ kept s
  bit : ∀ i m, (i, m) ∈ metrics.zipIdx.filterMap bitOf →
    Ensures kept (readSingle reader m) fun result s => good i result ∧ kept s

/-- The metrics at the indices in `done` have good results. -/
structure Progress (metrics : List MetricConfig) (good : ℕ → MetricResult → Prop) (done : Set ℕ)
    (results : List (Option MetricResult)) : Prop where
  length : results.length = metrics.length
  filled : Filled good done results

variable {reader : ModbusReader σ} {metrics : List MetricConfig} {kept : σ → Prop}
  {good : ℕ → MetricResult → Prop} {done : Set ℕ}

theorem Progress.set {results : List (Option MetricResult)}
    (progress : Progress metrics good done results) {i : ℕ} (inside : i < metrics.length)
    {result : MetricResult} (isGood : good i result) :
    Progress metrics good (done ∪ {i}) (results.set i (some result)) :=
  ⟨by rw [List.length_set, progress.length], progress.filled.set (progress.length ▸ inside) isGood⟩

theorem idx_lt {registerType : RegisterType} {group : List IndexedMetric}
    (mem : group ∈ readGroups registerType metrics) {item : IndexedMetric}
    (inGroup : item ∈ group) : item.idx < metrics.length := by
  have found := (mem_itemsOf.mp (Greedy.mem_of_mem_groups _ mem inGroup)).1
  exact (List.getElem?_eq_some_iff.mp found).1

/-- The one index of an item. -/
def slot (item : IndexedMetric) : Set ℕ := {item.idx}

/-- The indices of a group's items. -/
def indices (group : List IndexedMetric) : Set ℕ := {i | ∃ item ∈ group, i ∈ slot item}

/-- The one index of a coil or discrete input. -/
def bitSlot (pair : ℕ × MetricConfig) : Set ℕ := {pair.1}

/-- The index of a metric without an address. -/
def missingSlot (pair : MetricConfig × ℕ) : Set ℕ := {i | pair.1.address = none ∧ i = pair.2}

theorem readIndividual_progress {st : BatchState} {i : ℕ} {m : MetricConfig}
    (inside : i < metrics.length)
    (single : Ensures kept (readSingle reader m) fun result s => good i result ∧ kept s) :
    Ensures (fun s => Progress metrics good done st.results ∧ kept s) (readIndividual reader st i m)
      fun st s => Progress metrics good (done ∪ {i}) st.results ∧ kept s :=
  Ensures.assume fun progress => single.bind fun _ =>
    .pure fun _ ⟨isGood, keeps⟩ => ⟨progress.set inside isGood, keeps⟩

namespace Delivers

variable (delivers : Delivers reader metrics kept good)
include delivers

/-- Sorting the input fills the slots of the metrics without an address. -/
theorem classify_progress :
    Progress metrics good {i | ∃ pair ∈ metrics.zipIdx, i ∈ missingSlot pair}
      (classify metrics).results := by
  have start : Progress metrics good ∅
      (⟨List.replicate metrics.length none, [], [], []⟩ : Classified).results :=
    ⟨List.length_replicate, Filled.empty _ _⟩
  -- Only a metric without an address gets its result while the input is sorted.
  have body : ∀ (done : Set ℕ) (sorted : Classified),
      Progress metrics good done sorted.results → ∀ pair ∈ metrics.zipIdx,
        Progress metrics good (done ∪ missingSlot pair)
          (classifyMetric sorted pair.1 pair.2).results := by
    rintro done sorted progress ⟨m, idx⟩ mem
    have found := List.mem_zipIdx_iff_getElem?.mp mem
    cases address : m.address with
    | none =>
      have slot : missingSlot (m, idx) = {idx} := by simp [missingSlot, address]
      rw [slot]
      simp only [classifyMetric, address]
      exact progress.set (List.getElem?_eq_some_iff.mp found).1
        (delivers.missing idx m found address)
    | some addr =>
      have slot : missingSlot (m, idx) = ∅ := by simp [missingSlot, address]
      rw [slot, Set.union_empty]
      simp only [classifyMetric, address]
      cases m.registerType.getD .holding <;> exact progress
  have loop := Ensures.foldl missingSlot (fun done (sorted : Classified) =>
    Progress metrics good done sorted.results) body start
  rwa [Set.empty_union] at loop

theorem storeMembers_progress {registerType : RegisterType}
    (isRegister : RegisterType.IsRegister registerType) {group : List IndexedMetric}
    (mem : group ∈ readGroups registerType metrics) {s : σ} (keeps : kept s) {regs : List UInt16}
    (read : ((reader.readGroup registerType group).run s).1 = .ok regs) {st : BatchState}
    (progress : Progress metrics good done st.results) :
    Progress metrics good (done ∪ indices group)
      (storeMembers st (rangeOf group) regs).results := by
  refine Ensures.foldl slot (fun done (st : BatchState) => Progress metrics good done st.results)
    ?_ progress
  exact fun _ _ progress item inGroup => progress.set (idx_lt mem inGroup)
    (delivers.sliced registerType isRegister group mem s regs keeps read item inGroup)

theorem readMembers_progress {registerType : RegisterType}
    (isRegister : RegisterType.IsRegister registerType) {group : List IndexedMetric}
    (mem : group ∈ readGroups registerType metrics) {s : σ} (keeps : kept s) {e : Error}
    (unread : ((reader.readGroup registerType group).run s).1 = .error e) (st : BatchState) :
    Ensures (fun s => Progress metrics good done st.results ∧ kept s) (readMembers reader st group)
      fun st s => Progress metrics good (done ∪ indices group) st.results ∧ kept s :=
  Ensures.foldlM slot
    (fun done (st : BatchState) s => Progress metrics good done st.results ∧ kept s)
    (fun _ _ item inGroup => readIndividual_progress (idx_lt mem inGroup)
      (delivers.fallback registerType isRegister group mem s e keeps unread item inGroup))

/-- Reading a group's range fills the slots of its items, by slices or one by one. -/
theorem readRange_progress {registerType : RegisterType}
    (isRegister : RegisterType.IsRegister registerType) {group : List IndexedMetric}
    (mem : group ∈ readGroups registerType metrics) (st : BatchState) :
    Ensures (fun s => Progress metrics good done st.results ∧ kept s)
      (readRange reader (reader.readRegisters registerType) st (rangeOf group))
      fun st s => Progress metrics good (done ∪ indices group) st.results ∧ kept s := by
  refine Ensures.assume fun progress => ?_
  refine (delivers.range registerType isRegister group mem).occurs.bind fun response => ?_
  -- The response decides: slices of what was read, or single reads.
  rintro s ⟨keeps, before, kept_before, read⟩
  cases response with
  | ok regs =>
    exact ⟨delivers.storeMembers_progress isRegister mem kept_before read progress, keeps⟩
  | error e =>
    exact delivers.readMembers_progress isRegister mem kept_before read _ s ⟨progress, keeps⟩

theorem readRanges_progress {registerType : RegisterType}
    (isRegister : RegisterType.IsRegister registerType) (st : BatchState) :
    Ensures (fun s => Progress metrics good done st.results ∧ kept s)
      (readRanges reader (reader.readRegisters registerType) st
        ((readGroups registerType metrics).map rangeOf))
      fun st s => Progress metrics good
        (done ∪ {i | ∃ group ∈ readGroups registerType metrics, i ∈ indices group})
        st.results ∧ kept s := by
  rw [readRanges, List.foldlM_map]
  exact Ensures.foldlM indices
    (fun done (st : BatchState) s => Progress metrics good done st.results ∧ kept s)
    fun _ st _ mem => delivers.readRange_progress isRegister mem st

theorem readIndividuals_progress (st : BatchState) :
    Ensures (fun s => Progress metrics good done st.results ∧ kept s)
      ((metrics.zipIdx.filterMap bitOf).foldlM
        (fun st (idx, m) => readIndividual reader st idx m) st)
      fun st s => Progress metrics good
        (done ∪ {i | ∃ pair ∈ metrics.zipIdx.filterMap bitOf, i ∈ bitSlot pair})
        st.results ∧ kept s := by
  refine Ensures.foldlM bitSlot
    (fun done (st : BatchState) s => Progress metrics good done st.results ∧ kept s) ?_
  rintro done st ⟨i, m⟩ mem
  exact readIndividual_progress (List.getElem?_eq_some_iff.mp (mem_bits.mp mem).1).1
    (delivers.bit i m mem)

omit delivers in
/-- Every metric is without an address, in a range, or read on its own. -/
theorem mem_done {i : ℕ} {m : MetricConfig} (found : metrics[i]? = some m) :
    i ∈ {i | ∃ pair ∈ metrics.zipIdx, i ∈ missingSlot pair} ∪
        {i | ∃ group ∈ readGroups .holding metrics, i ∈ indices group} ∪
        {i | ∃ group ∈ readGroups .input metrics, i ∈ indices group} ∪
        {i | ∃ pair ∈ metrics.zipIdx.filterMap bitOf, i ∈ bitSlot pair} := by
  -- A metric with an address is in a group of its register type, or it is a bit.
  by_cases addressed : m.address.isSome
  · obtain ⟨group, isGroup, item, inGroup, rfl, -⟩ := exists_item found addressed
    cases registerType : m.registerType.getD .holding with
    | holding =>
      rw [registerType] at isGroup
      exact .inl (.inl (.inr ⟨group, isGroup, item, inGroup, rfl⟩))
    | input =>
      rw [registerType] at isGroup
      exact .inl (.inr ⟨group, isGroup, item, inGroup, rfl⟩)
    | coil => exact .inr ⟨(item.idx, m), mem_bits.mpr ⟨found, addressed, .inl registerType⟩, rfl⟩
    | discrete =>
      exact .inr ⟨(item.idx, m), mem_bits.mpr ⟨found, addressed, .inr registerType⟩, rfl⟩
  · rw [Option.not_isSome_iff_eq_none] at addressed
    exact .inl (.inl (.inl
      ⟨(m, i), List.mem_zipIdx_iff_getElem?.mpr found, addressed, rfl⟩))

/-- A batch read fills the slot of every metric with a good result. -/
theorem batchSlots :
    Ensures kept (batchSlots reader metrics) fun st s =>
      (st.results.length = metrics.length ∧
        ∀ (i : ℕ) m, metrics[i]? = some m →
          ∃ result, st.results[i]? = some (some result) ∧ good i result) ∧ kept s := by
  rw [batchSlots_eq]
  refine Ensures.strengthen ?_ fun s keeps => And.intro delivers.classify_progress keeps
  refine (delivers.readRanges_progress (.inl rfl) ⟨(classify metrics).results, 0⟩).bind fun st => ?_
  refine (delivers.readRanges_progress (.inr rfl) st).bind fun st => ?_
  refine (delivers.readIndividuals_progress st).mono ?_
  rintro st s ⟨progress, keeps⟩
  exact ⟨⟨progress.length, fun i m found => progress.filled i (mem_done found)⟩, keeps⟩

/-- A batch read returns the metrics in their order, every one with a good result. -/
theorem batchReadCoalesced :
    Ensures kept (batchReadCoalesced reader metrics) fun batch s =>
      (batch.results.map (·.1) = metrics ∧
        ∀ (i : ℕ) m, metrics[i]? = some m →
          ∃ result, batch.results[i]? = some (m, result) ∧ good i result) ∧ kept s := by
  rw [batchReadCoalesced_eq]
  refine delivers.batchSlots.bind fun st => .pure ?_
  rintro s ⟨⟨-, filled⟩, keeps⟩
  refine ⟨⟨by simp [batchOutput, Function.comp_def], fun i m found => ?_⟩, keeps⟩
  obtain ⟨result, stored, isGood⟩ := filled i m found
  exact ⟨result, by simp [batchOutput, found, slotResult, stored], isGood⟩

end Delivers

end BusExporter.Modbus
