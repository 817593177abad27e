import BusExporter.Config.Accepted
import BusExporter.Reader.Modbus.Device
import BusExporter.Reader.Modbus.Results

/-!
# Batch reads and single reads

A device is a fixed partial memory. Against it, what a batch read returns for a
metric is compared with what reading the metric on its own returns. They agree,
except where a range ends at the very last register: ends saturate at 65535, so
such a range is read one register short and the slice of its last metric falls
out of the buffer.
-/

namespace BusExporter.Modbus

open Foundation

/-! ## Reading one metric -/

/-- What reading a metric on its own yields. -/
def Memory.single (memory : Memory) (m : MetricConfig) : Option (Float × Float) := do
  let addr ← m.address
  match m.registerType.getD .holding with
  | .holding | .input =>
    let regs ← readCells (memory.registers (m.registerType.getD .holding)) maxRegistersPerRead
      addr m.dataType.registerCount
    (Decoder.decodeFor m regs).toOption
  | .coil =>
    let bits ← readCells memory.coil maxCoilsPerRead addr 1
    (decodeBit m "empty coil response" bits).toOption
  | .discrete =>
    let bits ← readCells memory.discrete maxCoilsPerRead addr 1
    (decodeBit m "empty discrete input response" bits).toOption

theorem toOption_bind {ε α β : Type} (first : Except ε α) (rest : α → Except ε β) :
    (first >>= rest).toOption = first.toOption.bind fun a => (rest a).toOption := by
  cases first <;> rfl

variable {σ : Type} {reader : ModbusReader σ} {memory : Memory}

theorem readSingle_toOption (serves : reader.Serves memory) (m : MetricConfig) :
    Always (readSingle reader m) (·.toOption = memory.single m) := by
  unfold readSingle Memory.single
  cases address : m.address with
  | none => exact .pure rfl
  | some addr =>
    cases registerType : m.registerType.getD .holding with
    | holding =>
      refine (serves.holding addr _).bind fun regs read => .pure ?_
      rw [toOption_bind, read]
      rfl
    | input =>
      refine (serves.input addr _).bind fun regs read => .pure ?_
      rw [toOption_bind, read]
      rfl
    | coil =>
      refine (serves.coil addr _).bind fun bits read => .pure ?_
      rw [toOption_bind, read]
      rfl
    | discrete =>
      refine (serves.discrete addr _).bind fun bits read => .pure ?_
      rw [toOption_bind, read]
      rfl

/-! ## Reading a group -/

/-- An item of the group ends at the last register, and the registers before that one
are read for the group. -/
def Short (cells : ℕ → Option UInt16) (group : List IndexedMetric) (item : IndexedMetric) : Prop :=
  item.addr.toNat + item.count.toNat = 65536 ∧ firstAddr group < 65535 ∧
    ∀ i, firstAddr group ≤ i → i < 65535 → (cells i).isSome

/-- What a group read yields for one of its items: nothing where the range was read short,
and else what reading the metric on its own yields. -/
def GroupResult (memory : Memory) (cells : ℕ → Option UInt16) (group : List IndexedMetric)
    (item : IndexedMetric) (result : Option (Float × Float)) : Prop :=
  (Short cells group item → result = none) ∧
    (¬ Short cells group item → result = memory.single item.metric)

/-- What a batch read relies on for an item of a validated collector's metrics. -/
structure Item (registerType : RegisterType) (item : IndexedMetric) : Prop where
  address : item.metric.address = some item.addr
  typed : item.metric.registerType.getD .holding = registerType
  count : item.count = item.metric.dataType.registerCount
  bounded : item.addr.toNat + item.count.toNat ≤ 65536

/-- A group of such items, in address order, as coalescing builds it. -/
structure Group (registerType : RegisterType) (group : List IndexedMetric) : Prop where
  grown : Greedy.Grown Joins group
  sorted : group.Pairwise fun a b => a.addr ≤ b.addr
  items : ∀ item ∈ group, Item registerType item

namespace Group

variable {registerType : RegisterType} {group : List IndexedMetric}

theorem span (isGroup : Group registerType group) :
    lastStop group ≤ firstAddr group + maxRegistersPerRead :=
  span_le isGroup.grown fun item mem => by
    rw [(isGroup.items item mem).count]
    exact item.metric.dataType.registerCount_mem.2

/-- An item's end is the group's end as far as 16 bits go, and lies within the group. -/
theorem stop_le (isGroup : Group registerType group) {item : IndexedMetric} (mem : item ∈ group) :
    firstAddr group ≤ item.addr.toNat ∧
      min (item.addr.toNat + item.count.toNat) 65535 ≤ lastStop group := by
  refine ⟨firstAddr_le isGroup.sorted mem, ?_⟩
  have stop := stop_le_lastStop mem
  rwa [IndexedMetric.stop, UInt16.toNat_saturatingAdd] at stop

theorem count_toNat (isGroup : Group registerType group) :
    (rangeOf group).count.toNat = lastStop group - firstAddr group := by
  obtain ⟨first, mem⟩ := List.exists_mem_of_ne_nil group isGroup.grown.ne_nil
  have bounds := isGroup.stop_le mem
  have ordered : (rangeOf group).start ≤ (rangeOf group).stop := by
    rw [UInt16.le_iff_toNat_le, rangeOf_start, rangeOf_stop]
    have := first.addr.toNat_lt
    omega
  rw [MergedRange.count, UInt16.toNat_sub_of_le _ _ ordered, rangeOf_start, rangeOf_stop]

/-- Where an item ends at the last register, the range is read short exactly when its
read succeeds. -/
theorem short_iff (isGroup : Group registerType group) (cells : ℕ → Option UInt16)
    {item : IndexedMetric} (mem : item ∈ group) :
    Short cells group item ↔
      item.addr.toNat + item.count.toNat = 65536 ∧
        (readCells cells maxRegistersPerRead (rangeOf group).start
          (rangeOf group).count).isSome := by
  have bounds := isGroup.stop_le mem
  have span := isGroup.span
  have last := lastStop_le group
  rw [isSome_readCells, isGroup.count_toNat, rangeOf_start]
  constructor
  · rintro ⟨atEnd, before, readable⟩
    exact ⟨atEnd, by omega, fun i first inside => readable i first (by omega)⟩
  · rintro ⟨atEnd, count, readable⟩
    exact ⟨atEnd, by omega, fun i first inside => readable i first (by omega)⟩

/-- Slicing an item out of the range's buffer. -/
theorem decodeMetric_result (isGroup : Group registerType group)
    (isRegister : registerType = .holding ∨ registerType = .input) {regs : List UInt16}
    (read : readCells (memory.registers registerType) maxRegistersPerRead (rangeOf group).start
      (rangeOf group).count = some regs)
    {item : IndexedMetric} (mem : item ∈ group) :
    GroupResult memory (memory.registers registerType) group item
      (decodeMetric item.metric regs (rangeOf group).start).toOption := by
  have isItem := isGroup.items item mem
  have bounds := isGroup.stop_le mem
  have span := isGroup.span
  have last := lastStop_le group
  have total := length_of_readCells read
  have count := item.metric.dataType.registerCount_mem
  rw [← isItem.count] at count
  have after : (rangeOf group).start ≤ item.addr := by
    rw [UInt16.le_iff_toNat_le, rangeOf_start]
    exact bounds.1
  rw [isGroup.count_toNat] at total
  rw [GroupResult, isGroup.short_iff _ mem, read]
  simp only [decodeMetric, isItem.address, if_neg (UInt16.not_lt.mpr after), rangeOf_start,
    ← isItem.count, total]
  constructor
  · rintro ⟨atEnd, -⟩
    rw [if_pos (by omega)]
    rfl
  · intro inside
    have fits : item.addr.toNat + item.count.toNat ≤ 65535 := by
      have := isItem.bounded
      simp at inside
      omega
    have stretch : item.addr.toNat + item.count.toNat ≤
        (rangeOf group).start.toNat + (rangeOf group).count.toNat := by
      rw [isGroup.count_toNat, rangeOf_start]
      omega
    -- The slice of the buffer is what reading the metric's own registers gives.
    have slice := readCells_slice read after stretch (by unfold maxRegistersPerRead; omega)
    rw [if_neg (by omega)]
    rw [isItem.count, rangeOf_start] at slice
    rcases isRegister with rfl | rfl <;>
      simp [Memory.single, isItem.address, isItem.typed, slice, isItem.count]

end Group

/-! ## Reading a batch -/

variable {metrics : List MetricConfig}

theorem group_of_mem (valid : ∀ m ∈ metrics, ModbusMetricValid m) {registerType : RegisterType}
    {group : List IndexedMetric} (mem : group ∈ readGroups registerType metrics) :
    Group registerType group where
  grown := Greedy.grown_of_mem_groups _ mem
  sorted := (itemsOf_sorted registerType metrics).sublist (Greedy.sublist_of_mem_groups _ mem)
  items item inGroup := by
    obtain ⟨found, address, typed, count⟩ :=
      mem_itemsOf.mp (Greedy.mem_of_mem_groups _ mem inGroup)
    obtain ⟨addr, hasAddr, bounded⟩ := (valid _ (List.mem_of_getElem? found)).addressed
    rw [address, Option.some_inj] at hasAddr
    exact ⟨address, typed, count, by rw [hasAddr, count]; exact bounded⟩

/-- What a batch read may return for the metric at an index. -/
def Settled (memory : Memory) (metrics : List MetricConfig) (i : ℕ) (result : MetricResult) :
    Prop :=
  ∃ registerType, ∃ group ∈ readGroups registerType metrics, ∃ item ∈ group, item.idx = i ∧
    GroupResult memory (memory.registers registerType) group item result.toOption

/-- Coils and discrete inputs have no range that could be read short. -/
theorem not_short_bits {registerType : RegisterType} (isBit : registerType ≠ .holding ∧
    registerType ≠ .input) (group : List IndexedMetric) (item : IndexedMetric) :
    ¬ Short (memory.registers registerType) group item := by
  rintro ⟨-, before, readable⟩
  have first := readable (firstAddr group) le_rfl before
  cases registerType <;> simp_all [Memory.registers]

theorem readGroup_toOption (serves : reader.Serves memory) {registerType : RegisterType}
    (isRegister : RegisterType.IsRegister registerType) (group : List IndexedMetric) (s : σ) :
    ((reader.readGroup registerType group).run s).1.toOption =
      readCells (memory.registers registerType) maxRegistersPerRead (rangeOf group).start
        (rangeOf group).count := by
  rcases isRegister with rfl | rfl
  · exact serves.holding _ _ s
  · exact serves.input _ _ s

/-- On a device with a fixed memory, a batch read settles every metric. -/
theorem delivers_settled (serves : reader.Serves memory)
    (valid : ∀ m ∈ metrics, ModbusMetricValid m) :
    Delivers reader metrics (fun _ => True) (Settled memory metrics) where
  missing i m found missing := by
    obtain ⟨addr, address, -⟩ := (valid m (List.mem_of_getElem? found)).addressed
    rw [missing] at address
    exact absurd address (by simp)
  range _ _ _ _ _ _ := trivial
  sliced registerType isRegister group mem s regs _ read item inGroup := by
    have cells := readGroup_toOption serves isRegister group s
    rw [read] at cells
    exact ⟨registerType, group, mem, item, inGroup, rfl,
      (group_of_mem valid mem).decodeMetric_result isRegister cells.symm inGroup⟩
  fallback registerType isRegister group mem s e _ unread item inGroup := by
    refine Always.ensures ((readSingle_toOption serves item.metric).mono fun result single =>
      ⟨registerType, group, mem, item, inGroup, rfl, fun short => ?_, fun _ => single⟩)
    -- A range that is read short was read, so this is not the fallback.
    have cells := readGroup_toOption serves isRegister group s
    have isRead := (((group_of_mem valid mem).short_iff _ inGroup).mp short).2
    rw [← cells, unread] at isRead
    simp [Except.toOption] at isRead
  bit i m mem := by
    obtain ⟨found, addressed, isBit⟩ := mem_bits.mp mem
    obtain ⟨group, isGroup, item, inGroup, idx, metric⟩ := exists_item found addressed
    refine Always.ensures ((readSingle_toOption serves m).mono fun result single =>
      ⟨_, group, isGroup, item, inGroup, idx, fun short => absurd short ?_, fun _ => ?_⟩)
    · exact not_short_bits (by rcases isBit with h | h <;> simp [h]) group item
    · rw [single, metric]

/-! ## Agreement -/

/-- A batch read from `s` returns for every metric what reading it on its own from `s'`
does: the same values, or a failure for a failure. -/
def AgreesAt (reader : ModbusReader σ) (metrics : List MetricConfig) (s s' : σ) : Prop :=
  ((batchReadCoalesced reader metrics).run s).1.results.map (fun (m, result) =>
      (m, result.toOption)) =
    metrics.map fun m => (m, ((readSingle reader m).run s').1.toOption)

instance (reader : ModbusReader σ) (metrics : List MetricConfig) (s s' : σ) :
    Decidable (AgreesAt reader metrics s s') :=
  inferInstanceAs (Decidable (_ = _))

/-- Some group of registers ends at the last register, starts before it, and is readable
from its start to its end. -/
def LosesLast (memory : Memory) (metrics : List MetricConfig) : Prop :=
  ∃ registerType, ∃ group ∈ readGroups registerType metrics,
    (∃ item ∈ group, item.addr.toNat + item.count.toNat = 65536) ∧ firstAddr group < 65535 ∧
      ∀ i, firstAddr group ≤ i → i < 65536 → (memory.registers registerType i).isSome

theorem agreesAt_iff (serves : reader.Serves memory)
    (valid : ∀ m ∈ metrics, ModbusMetricValid m) (s s' : σ) :
    AgreesAt reader metrics s s' ↔
      ∀ (i : ℕ) m, metrics[i]? = some m → ∀ result : Except Error (Float × Float),
        ((batchReadCoalesced reader metrics).run s).1.results[i]? = some (m, result) →
          result.toOption = memory.single m := by
  have single : ∀ m, ((readSingle reader m).run s').1.toOption = memory.single m :=
    fun m => readSingle_toOption serves m s'
  obtain ⟨⟨inputs, settled⟩, -⟩ := (delivers_settled serves valid).batchReadCoalesced s trivial
  simp only [AgreesAt, single]
  constructor
  · intro agrees i m found result stored
    -- The lists are compared slot by slot.
    have atIdx := congrArg (·[i]?) agrees
    simpa [found, stored] using atIdx
  · intro agrees
    refine List.ext_getElem? fun i => ?_
    rw [List.getElem?_map, List.getElem?_map]
    cases found : metrics[i]? with
    | none =>
      rw [← inputs, List.getElem?_map, Option.map_eq_none_iff] at found
      simp [found]
    | some m =>
      obtain ⟨result, stored, -⟩ := settled i m found
      simp [stored, agrees i m found result stored]

/-- A register metric of a group can be read on its own when its registers are readable. -/
theorem single_isSome {registerType : RegisterType} {item : IndexedMetric}
    (isRegister : registerType = .holding ∨ registerType = .input)
    (isItem : Item registerType item) :
    (memory.single item.metric).isSome ↔
      ∀ i, item.addr.toNat ≤ i → i < item.addr.toNat + item.count.toNat →
        (memory.registers registerType i).isSome := by
  have count := item.metric.dataType.registerCount_mem
  have bounds : 1 ≤ item.count.toNat ∧ item.count.toNat ≤ maxRegistersPerRead := by
    rw [isItem.count]
    unfold maxRegistersPerRead
    omega
  have readable : (readCells (memory.registers registerType) maxRegistersPerRead item.addr
      item.count).isSome ↔ _ := isSome_readCells
  rw [and_iff_right bounds] at readable
  rw [← readable]
  have reads : memory.single item.metric =
      (readCells (memory.registers registerType) maxRegistersPerRead item.addr item.count).bind
        fun regs => (Decoder.decodeFor item.metric regs).toOption := by
    rcases isRegister with rfl | rfl <;>
      simp [Memory.single, isItem.address, isItem.typed, isItem.count]
  rw [reads]
  cases read : readCells (memory.registers registerType) maxRegistersPerRead item.addr
      item.count with
  | none => simp
  | some regs =>
    obtain ⟨value, decoded⟩ := Decoder.decodeFor_isOk item.metric regs (by
      rw [length_of_readCells read, isItem.count])
    simp [decoded, Except.toOption]

/-- The last register is lost exactly where a short range hides a value that reading the
metric on its own finds. -/
theorem losesLast_iff (valid : ∀ m ∈ metrics, ModbusMetricValid m) :
    LosesLast memory metrics ↔
      ∃ registerType, ∃ group ∈ readGroups registerType metrics, ∃ item ∈ group,
        Short (memory.registers registerType) group item ∧
          (memory.single item.metric).isSome := by
  constructor
  · rintro ⟨registerType, group, isGroup, ⟨item, inGroup, atEnd⟩, before, readable⟩
    have short : Short (memory.registers registerType) group item :=
      ⟨atEnd, before, fun i first inside => readable i first (by omega)⟩
    have first := ((group_of_mem valid isGroup).stop_le inGroup).1
    refine ⟨registerType, group, isGroup, item, inGroup, short, ?_⟩
    rw [single_isSome _ ((group_of_mem valid isGroup).items item inGroup)]
    · exact fun i from_addr inside => readable i (by omega) (by omega)
    · by_contra bits
      exact not_short_bits (not_or.mp bits) group item short
  · rintro ⟨registerType, group, isGroup, item, inGroup, short, single⟩
    obtain ⟨atEnd, before, readable⟩ := id short
    refine ⟨registerType, group, isGroup, ⟨item, inGroup, atEnd⟩, before, fun i first inside => ?_⟩
    rw [single_isSome _ ((group_of_mem valid isGroup).items item inGroup)] at single
    · -- The range covers all registers but the last one, and the item covers that.
      rcases Nat.lt_or_ge i 65535 with earlier | last
      · exact readable i first earlier
      · have count := item.metric.dataType.registerCount_mem
        rw [← ((group_of_mem valid isGroup).items item inGroup).count] at count
        exact single i (by omega) (by omega)
    · by_contra bits
      exact not_short_bits (not_or.mp bits) group item short

/-- Two items of the same input index are the same item of the same group. -/
theorem item_unique {first second : RegisterType} {group other : List IndexedMetric}
    (isGroup : group ∈ readGroups first metrics) (isOther : other ∈ readGroups second metrics)
    {item twin : IndexedMetric} (inGroup : item ∈ group) (inOther : twin ∈ other)
    (same : item.idx = twin.idx) : first = second ∧ group = other ∧ item = twin := by
  obtain ⟨found, address, typed, count⟩ :=
    mem_itemsOf.mp (Greedy.mem_of_mem_groups _ isGroup inGroup)
  obtain ⟨found', address', typed', count'⟩ :=
    mem_itemsOf.mp (Greedy.mem_of_mem_groups _ isOther inOther)
  have metric : item.metric = twin.metric := by
    rw [same, found', Option.some_inj] at found
    exact found.symm
  obtain rfl : first = second := by rw [← typed, ← typed', metric]
  refine ⟨rfl, Greedy.group_unique Joins (·.idx) (itemsOf_idx_nodup first metrics) isGroup isOther
    inGroup inOther same, ?_⟩
  have addr : item.addr = twin.addr := by
    rw [metric, address', Option.some_inj] at address
    exact address.symm
  cases item
  cases twin
  simp_all

/-- Batch reading and single reading agree exactly on the inputs where no group loses the
last register. -/
theorem batch_agrees_iff {c : CollectorConfig} (valid : c.Validated)
    (modbus : c.protocol.isModbus = true) (serves : reader.Serves memory) (s s' : σ) :
    AgreesAt reader c.metrics s s' ↔ ¬ LosesLast memory c.metrics := by
  have metricsValid : ∀ m ∈ c.metrics, ModbusMetricValid m :=
    fun m mem => valid.modbusMetric modbus mem
  obtain ⟨⟨-, settled⟩, -⟩ :=
    (delivers_settled serves metricsValid).batchReadCoalesced s trivial
  rw [agreesAt_iff serves metricsValid, losesLast_iff metricsValid]
  constructor
  · rintro agrees ⟨registerType, group, isGroup, item, inGroup, short, single⟩
    have found := (mem_itemsOf.mp (Greedy.mem_of_mem_groups _ isGroup inGroup)).1
    obtain ⟨result, stored, other, group', isGroup', item', inGroup', idx, lost, -⟩ :=
      settled item.idx item.metric found
    -- The slot was settled by this very item of this very group.
    obtain ⟨rfl, rfl, rfl⟩ := item_unique isGroup isGroup' inGroup inGroup' idx.symm
    rw [← agrees item.idx item.metric found result stored, lost short] at single
    exact absurd single (by simp)
  · intro kept i m found result stored
    obtain ⟨result', stored', registerType, group, isGroup, item, inGroup, rfl, lost, same⟩ :=
      settled i m found
    rw [stored, Option.some_inj] at stored'
    obtain rfl : result = result' := congrArg Prod.snd stored'
    have metric := (mem_itemsOf.mp (Greedy.mem_of_mem_groups _ isGroup inGroup)).1
    rw [found, Option.some_inj] at metric
    by_cases short : Short (memory.registers registerType) group item
    · -- What a short range loses could not be read on its own either.
      have unreadable : ¬ (memory.single item.metric).isSome := fun single =>
        kept ⟨registerType, group, isGroup, item, inGroup, short, single⟩
      rw [lost short, metric]
      exact (Option.not_isSome_iff_eq_none.mp unreadable).symm
    · rw [same short, metric]

/-- A device on which every cell is readable. -/
def fullMemory : Memory where
  holding _ := some 1
  input _ := some 1
  coil _ := some true
  discrete _ := some true

/-- A collector whose one metric is in the last two registers. -/
def lastWord : CollectorConfig := Samples.plc [Samples.wordMetric "energy" 65534]

theorem lastWord_validated : lastWord.Validated := Samples.validated_of_configOf (by decide)

/-- A metric in the last two registers is lost in a batch, and read on its own. -/
theorem batch_disagrees_at_last_register :
    lastWord.Validated ∧ lastWord.protocol.isModbus = true ∧
      fullMemory.reader.Serves fullMemory ∧
        ¬ AgreesAt fullMemory.reader lastWord.metrics () () :=
  ⟨lastWord_validated, rfl, fullMemory.reader_serves, by decide⟩

theorem batch_agrees_iff_last_register :
    AgreesAt fullMemory.reader lastWord.metrics () () ↔
      ¬ LosesLast fullMemory lastWord.metrics :=
  batch_agrees_iff lastWord_validated rfl fullMemory.reader_serves () ()

end BusExporter.Modbus
