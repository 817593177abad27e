import BusExporter.Reader.Modbus.Agreement
import BusExporter.Reader.Modbus.Calls
import BusExporter.Reader.Modbus.Client

/-!
# How few calls a batch read can make

A group costs one call if its range is read, and one more for each of its members if
it is not. So a batch makes the fewest calls when every range is read that can be
read at all: a range that starts at the very last register has no length as far as 16
bits go, and is refused before it is sent. A device that answers every call with an
empty buffer gets just these calls, and leaves every metric with an error.
-/

namespace BusExporter.Modbus

open Foundation

variable {σ : Type}

/-! ## What a group costs -/

/-- The calls for a group, by the answer to the read of its range. -/
def callsFor (group : List IndexedMetric) (answer : Except Error (List UInt16)) : ℕ :=
  match answer with
  | .ok _ => 1
  | .error _ => 1 + group.length

/-- The calls for a group whose range is read, if it is not refused. -/
def fewestCalls (group : List IndexedMetric) : ℕ :=
  if (rangeOf group).count = 0 then 1 + group.length else 1

/-- The calls of a batch, with a cost for each group and one call for each bit. -/
def callsOf (cost : List IndexedMetric → ℕ) (metrics : List MetricConfig) : ℕ :=
  ((readGroups .holding metrics).map cost).sum + ((readGroups .input metrics).map cost).sum +
    (metrics.zipIdx.filterMap bitOf).length

/-- The calls of a batch all of whose ranges are read, as far as they are not refused. -/
def fewestRequests (metrics : List MetricConfig) : ℕ := callsOf fewestCalls metrics

/-- The cost of a group is within bounds whatever its reader answers, and its calls keep an
invariant of the reader. -/
structure CostsBetween (reader : ModbusReader σ) (metrics : List MetricConfig) (kept : σ → Prop)
    (low high : List IndexedMetric → ℕ) : Prop where
  single : ∀ m, Ensures kept (readSingle reader m) fun _ s => kept s
  range : ∀ registerType, RegisterType.IsRegister registerType →
    ∀ group ∈ readGroups registerType metrics,
      Ensures kept (reader.readGroup registerType group) fun answer s =>
        (low group ≤ callsFor group answer ∧ callsFor group answer ≤ high group) ∧ kept s

namespace CostsBetween

variable {reader : ModbusReader σ} {metrics : List MetricConfig} {kept : σ → Prop}
  {low high : List IndexedMetric → ℕ} (costs : CostsBetween reader metrics kept low high)
include costs

theorem readIndividual (st : BatchState) (i : ℕ) (m : MetricConfig) :
    Ensures kept (readIndividual reader st i m) fun next s =>
      (st.readCount + 1 ≤ next.readCount ∧ next.readCount ≤ st.readCount + 1) ∧ kept s :=
  (costs.single m).bind fun _ => .pure fun _ keeps => ⟨⟨le_rfl, le_rfl⟩, keeps⟩

theorem readMembers (st : BatchState) (members : List IndexedMetric) :
    Ensures kept (readMembers reader st members) fun next s =>
      next.readCount = st.readCount + members.length ∧ kept s := by
  refine (Ensures.foldlM_between BatchState.readCount (fun _ => 1) (fun _ => 1)
    (fun st member _ => costs.readIndividual st member.idx member.metric) st).mono ?_
  rintro next s ⟨⟨least, most⟩, keeps⟩
  simp only [List.map_const', List.sum_replicate, smul_eq_mul, mul_one] at least most
  exact ⟨by omega, keeps⟩

theorem readRange {registerType : RegisterType} (isRegister : RegisterType.IsRegister registerType)
    {group : List IndexedMetric} (mem : group ∈ readGroups registerType metrics)
    (st : BatchState) :
    Ensures kept (readRange reader (reader.readRegisters registerType) st (rangeOf group))
      fun next s => (st.readCount + low group ≤ next.readCount ∧
        next.readCount ≤ st.readCount + high group) ∧ kept s := by
  refine (costs.range registerType isRegister group mem).bind fun answer => ?_
  refine .assume fun bounds => ?_
  cases answer with
  | ok regs =>
    refine .pure fun s keeps => ⟨?_, keeps⟩
    rw [readCount_storeMembers]
    simpa [callsFor, BatchState.countRead] using bounds
  | error e =>
    -- The failed read of the range is counted before those of the members.
    refine (costs.readMembers st.countRead group).mono ?_
    rintro next s ⟨count, keeps⟩
    simp only [callsFor, BatchState.countRead] at bounds count
    exact ⟨by omega, keeps⟩

theorem readGroups {registerType : RegisterType} (isRegister : RegisterType.IsRegister registerType)
    (st : BatchState) :
    Ensures kept (readRanges reader (reader.readRegisters registerType) st
        ((readGroups registerType metrics).map rangeOf)) fun next s =>
      (st.readCount + ((Modbus.readGroups registerType metrics).map low).sum ≤ next.readCount ∧
        next.readCount ≤ st.readCount + ((Modbus.readGroups registerType metrics).map high).sum) ∧
          kept s := by
  rw [readRanges, List.foldlM_map]
  exact Ensures.foldlM_between BatchState.readCount low high
    (fun st group mem => costs.readRange isRegister mem st) st

/-- The calls of a batch are within the bounds for its groups. -/
theorem batchReadCoalesced :
    Ensures kept (batchReadCoalesced reader metrics) fun batch s =>
      (callsOf low metrics ≤ batch.readCount ∧ batch.readCount ≤ callsOf high metrics) ∧
        kept s := by
  rw [batchReadCoalesced_eq, batchSlots_eq]
  simp only [bind_assoc]
  refine (costs.readGroups (.inl rfl) _).bind fun first => .assume fun holding => ?_
  refine (costs.readGroups (.inr rfl) first).bind fun second => .assume fun input => ?_
  refine (Ensures.foldlM_between BatchState.readCount (fun _ => 1) (fun _ => 1)
    (fun st pair _ => costs.readIndividual st pair.1 pair.2) second).bind fun last => ?_
  refine .pure ?_
  rintro s ⟨⟨least, most⟩, keeps⟩
  simp only [List.map_const', List.sum_replicate, smul_eq_mul, mul_one] at least most holding
  simp only [callsOf, batchOutput]
  exact ⟨by omega, keeps⟩

end CostsBetween

/-! ## The bounds of a client -/

variable {κ : Type} {metrics : List MetricConfig}

theorem readGroup_count (registerType : RegisterType) (calls : ContextCalls κ)
    (group : List IndexedMetric) {e : Error}
    (refused : validateRegisterCount (rangeOf group).count = .error e) :
    Always ((ModbusMetricReader.reader calls).readGroup registerType group)
      fun answer => answer = .error e := by
  intro client
  unfold ModbusReader.readGroup
  cases registerType <;>
    simp only [ModbusReader.readRegisters, ModbusMetricReader.reader, ModbusMetricReader.call,
      StateT.run, refused]

/-- A call changes nothing but the context. -/
theorem call_metrics {α : Type} (configured : List MetricConfig)
    (validate : UInt16 → Except Error Unit) (name : String)
    (request : UInt16 → UInt16 → StateM κ (Response α)) (addr count : UInt16) :
    Ensures (fun client : ModbusMetricReader κ => client.metrics = configured)
      (ModbusMetricReader.call validate name request addr count)
      fun _ client => client.metrics = configured := by
  rintro client rfl
  unfold ModbusMetricReader.call
  simp only [StateT.run]
  split <;> rfl

theorem readSingle_metrics (configured : List MetricConfig) (calls : ContextCalls κ)
    (m : MetricConfig) :
    Ensures (fun client : ModbusMetricReader κ => client.metrics = configured)
      (readSingle (ModbusMetricReader.reader calls) m) fun _ client =>
        client.metrics = configured := by
  unfold readSingle
  cases m.address with
  | none => exact .pure fun _ same => same
  | some addr =>
    cases m.registerType.getD .holding <;>
      exact (call_metrics configured _ _ _ _ _).bind fun _ => .pure fun _ same => same

/-- A client costs a batch no less than the fewest calls, whatever its device does. -/
theorem costsBetween_reader (calls : ContextCalls κ) (configured metrics : List MetricConfig) :
    CostsBetween (ModbusMetricReader.reader calls) metrics (·.metrics = configured) fewestCalls
      fun group => 1 + group.length where
  single := readSingle_metrics configured calls
  range registerType _ group _ client same := by
    refine ⟨?_, ?_⟩
    · unfold fewestCalls
      split
      · rename_i empty
        -- No registers at all are refused before anything is sent.
        obtain ⟨e, refused⟩ : ∃ e, validateRegisterCount (rangeOf group).count = .error e :=
          ⟨_, if_pos (.inl empty)⟩
        rw [readGroup_count registerType calls group refused client]
        exact ⟨le_rfl, le_rfl⟩
      · unfold callsFor
        split
        · exact ⟨le_rfl, Nat.le_add_right 1 _⟩
        · exact ⟨Nat.le_add_right 1 _, le_rfl⟩
    · cases registerType <;> exact call_metrics configured _ _ _ _ _ client same

/-- Every metric with an address is an item of one register type or a bit. -/
theorem length_items_eq (addressed : ∀ m ∈ metrics, m.address.isSome) :
    metrics.length = (itemsOf .holding metrics).length + (itemsOf .input metrics).length +
      (metrics.zipIdx.filterMap bitOf).length := by
  have indexed : metrics.zipIdx.length = metrics.length := List.length_zipIdx
  have mem : ∀ pair ∈ metrics.zipIdx, pair.1.address.isSome :=
    fun pair mem => addressed pair.1 (List.fst_mem_of_mem_zipIdx mem)
  simp only [itemsOf, sortByAddr, List.length_insertionSort]
  rw [← indexed]
  generalize metrics.zipIdx = pairs at mem
  induction pairs with
  | nil => rfl
  | cons pair pairs ih =>
    obtain ⟨m, idx⟩ := pair
    obtain ⟨addr, address⟩ : ∃ addr, m.address = some addr :=
      Option.isSome_iff_exists.mp (mem (m, idx) (by simp))
    have rest := ih fun pair inside => mem pair (by simp [inside])
    cases registerType : m.registerType.getD .holding <;>
      simp [itemOf, bitOf, address, registerType] <;> omega

/-- Groups of one member each need a call for each metric. -/
theorem length_le_fewestRequests (valid : ∀ m ∈ metrics, ModbusMetricValid m)
    (alone : ∀ registerType, RegisterType.IsRegister registerType →
      ∀ group ∈ readGroups registerType metrics, group.length ≤ 1) :
    metrics.length ≤ fewestRequests metrics := by
  have split := @length_items_eq metrics fun m mem => by
    obtain ⟨addr, address, -⟩ := (valid m mem).addressed
    simp [address]
  have each : ∀ registerType, RegisterType.IsRegister registerType →
      (itemsOf registerType metrics).length ≤
        ((readGroups registerType metrics).map fewestCalls).sum := by
    intro registerType isRegister
    have whole := congrArg List.length
      (Greedy.flatten_groups Joins (itemsOf registerType metrics))
    rw [List.length_flatten] at whole
    rw [← whole]
    refine List.sum_le_sum fun group mem => (alone registerType isRegister group mem).trans ?_
    unfold fewestCalls
    split
    · exact Nat.le_add_right 1 _
    · exact Nat.le_refl 1
  have holding := each .holding (.inl rfl)
  have input := each .input (.inr rfl)
  rw [fewestRequests, callsOf]
  omega

/-! ## A device that answers with nothing -/

/-- A device that answers every call with an empty buffer. -/
def silent : ContextCalls κ where
  readHoldingRegisters _ _ := pure (.data [])
  readInputRegisters _ _ := pure (.data [])
  readCoils _ _ := pure (.data [])
  readDiscreteInputs _ _ := pure (.data [])

/-- The client has a context. -/
def Connected (client : ModbusMetricReader κ) : Prop := client.context.isSome

/-- A call that is not refused gets an empty buffer. -/
theorem call_silent {α : Type} (validate : UInt16 → Except Error Unit) (name : String)
    (addr count : UInt16) :
    Ensures (@Connected κ)
      (ModbusMetricReader.call validate name
        (fun _ _ => (pure (.data []) : StateM κ (Response α))) addr count)
      fun answer client => answer = (validate count).map (fun _ => []) ∧ Connected client := by
  intro client connected
  obtain ⟨context, held⟩ := Option.isSome_iff_exists.mp connected
  cases valid : validate count with
  | error e => simp [ModbusMetricReader.call, StateT.run, valid, Except.map, connected]
  | ok _ =>
    have answered : (ModbusMetricReader.call validate name
        (fun _ _ => (pure (.data []) : StateM κ (Response α))) addr count).run client =
          (.ok [], { client with context := some context }) := by
      simp only [ModbusMetricReader.call, StateT.run, valid, held]
      rfl
    rw [answered]
    exact ⟨rfl, rfl⟩

theorem readRegisters_silent (registerType : RegisterType) (addr count : UInt16) :
    Ensures (@Connected κ)
      ((ModbusMetricReader.reader silent).readRegisters registerType addr count)
      fun answer client =>
        answer = (validateRegisterCount count).map (fun _ => []) ∧ Connected client := by
  cases registerType <;> exact call_silent _ _ addr count

/-- Nothing can be decoded from an empty buffer. -/
theorem decodeFor_nil (m : MetricConfig) : (Decoder.decodeFor m []).toOption = none := by
  have needs := m.dataType.registerCount_mem.1
  unfold Decoder.decodeFor Decoder.decode
  rw [if_pos (by rw [Decoder.registersNeeded_mapDataType, List.length_nil]; omega)]
  rfl

theorem decodeMetric_nil (m : MetricConfig) (start : UInt16) :
    (decodeMetric m [] start).toOption = none := by
  have needs := m.dataType.registerCount_mem.1
  unfold decodeMetric
  cases m.address with
  | none => rfl
  | some addr =>
    simp only
    split
    · rfl
    · rw [if_pos (by rw [List.length_nil]; omega)]
      rfl

theorem readSingle_silent (m : MetricConfig) :
    Ensures (@Connected κ) (readSingle (ModbusMetricReader.reader silent) m)
      fun result client => result.toOption = none ∧ Connected client := by
  -- Refused or empty, the answer leaves nothing to decode.
  have decoded : ∀ {α : Type} {m : StateM (ModbusMetricReader κ) (Except Error (List α))}
      {checked : Except Error Unit} (decode : List α → MetricResult),
      (decode []).toOption = none →
      (Ensures Connected m fun answer client =>
        answer = checked.map (fun _ => []) ∧ Connected client) →
      Ensures Connected (m >>= fun values => pure (values >>= decode))
        fun result client => result.toOption = none ∧ Connected client := by
    intro α m checked decode empty answers
    refine answers.bind fun values => .pure ?_
    rintro client ⟨rfl, connected⟩
    refine ⟨?_, connected⟩
    cases checked with
    | error e => rfl
    | ok _ => exact empty
  unfold readSingle
  cases m.address with
  | none => exact .pure fun client connected => ⟨rfl, connected⟩
  | some addr =>
    cases m.registerType.getD .holding with
    | holding | input => exact decoded _ (decodeFor_nil m) (call_silent _ _ addr _)
    | coil | discrete => exact decoded _ rfl (call_silent _ _ addr 1)

/-- The range of a group asks for no more registers than one read may, so only a range of no
length is refused. -/
theorem validateRegisterCount_group {registerType : RegisterType} {group : List IndexedMetric}
    (isGroup : Group registerType group) (some_length : (rangeOf group).count ≠ 0) :
    validateRegisterCount (rangeOf group).count = .ok () := by
  have span := isGroup.span
  rw [validateRegisterCount, if_neg]
  rw [not_or, isGroup.count_toNat]
  exact ⟨some_length, by omega⟩

/-- A silent device gets the fewest calls. -/
theorem costsBetween_silent (valid : ∀ m ∈ metrics, ModbusMetricValid m) :
    CostsBetween (ModbusMetricReader.reader silent) metrics (@Connected κ) fewestCalls
      fewestCalls where
  single m := (readSingle_silent m).mono fun _ _ ⟨_, connected⟩ => connected
  range registerType _ group mem := by
    refine (readRegisters_silent registerType _ _).mono ?_
    rintro _ client ⟨rfl, connected⟩
    refine ⟨?_, connected⟩
    unfold fewestCalls
    split
    · rename_i empty
      obtain ⟨e, refused⟩ : ∃ e, validateRegisterCount (rangeOf group).count = .error e :=
        ⟨_, if_pos (.inl empty)⟩
      rw [refused]
      exact ⟨le_rfl, le_rfl⟩
    · rename_i some_length
      rw [validateRegisterCount_group (group_of_mem valid mem) some_length]
      exact ⟨le_rfl, le_rfl⟩

/-- A silent device leaves every metric with an error. -/
theorem delivers_silent (metrics : List MetricConfig) :
    Delivers (ModbusMetricReader.reader silent) metrics (@Connected κ)
      fun _ result => result.toOption = none where
  missing _ _ _ _ := rfl
  range registerType _ _ _ :=
    (readRegisters_silent registerType _ _).mono fun _ _ ⟨_, connected⟩ => connected
  sliced registerType _ group _ client regs connected read item _ := by
    have answer := (readRegisters_silent registerType (rangeOf group).start
      (rangeOf group).count client connected).1
    rw [ModbusReader.readGroup] at read
    rw [read] at answer
    obtain rfl : regs = [] := by
      cases checked : validateRegisterCount (rangeOf group).count with
      | error e => simp [checked, Except.map] at answer
      | ok _ => simpa [checked, Except.map] using answer
    exact decodeMetric_nil item.metric _
  fallback _ _ _ _ _ _ _ _ item _ := readSingle_silent item.metric
  bit _ m _ := readSingle_silent m

/-! ## A whole read -/

namespace ModbusMetricReader

/-- A read has a result for each name of a metric. -/
theorem read_length (calls : ContextCalls κ) (client : ModbusMetricReader κ) :
    ((read calls).run client).1.metrics.pairs.length =
      (client.metrics.map (·.name)).dedup.length := by
  have inOrder := (batchReadCoalesced_complete (reader calls) client.metrics client).1.inOrder
  generalize batched : ((batchReadCoalesced (reader calls) client.metrics).run client).1 = batch
  rw [batched] at inOrder
  have collected : ((read calls).run client).1.metrics =
      HashMap.collect (batch.results.map fun entry => (entry.1.name, entry.2)) := by
    rw [← batched]
    rfl
  rw [collected, HashMap.length_pairs_collect, ← inOrder, List.map_map, List.map_map]
  rfl

/-- A read makes no fewer calls than its metrics need, and leaves the metrics as they are. -/
theorem read_requests (calls : ContextCalls κ) (client : ModbusMetricReader κ) :
    fewestRequests client.metrics ≤ ((read calls).run client).1.ioCount ∧
      ((read calls).run client).2.metrics = client.metrics := by
  have costs := costsBetween_reader calls client.metrics client.metrics
  obtain ⟨bounds, same⟩ := costs.batchReadCoalesced client rfl
  exact ⟨bounds.1, same⟩

/-- On a silent device a read makes the fewest calls, and all its results are errors. -/
theorem read_silent {client : ModbusMetricReader κ} (connected : Connected client)
    (valid : ∀ m ∈ client.metrics, ModbusMetricValid m) :
    ((read silent).run client).1.ioCount = fewestRequests client.metrics ∧
      ((read silent).run client).2.isConnected = true ∧
        ∀ pair ∈ ((read silent).run client).1.metrics.pairs, pair.2.toOption = none ∧
          ∃ m ∈ client.metrics, m.name = pair.1 := by
  obtain ⟨bounds, -⟩ := (costsBetween_silent valid).batchReadCoalesced client connected
  obtain ⟨still, failures⟩ := read_delivers client (delivers_silent client.metrics) connected
  refine ⟨le_antisymm bounds.2 bounds.1, still, fun pair mem => ?_⟩
  obtain ⟨i, m, found, named, failed⟩ := failures pair mem
  exact ⟨failed, m, List.mem_of_getElem? found, named⟩

end ModbusMetricReader

end BusExporter.Modbus
