import BusExporter.Collector.ReadCounters
import BusExporter.Reader.Modbus.Instrumented
import BusExporter.Reader.Modbus.Partition

/-!
# The requests of a read

What a Modbus reader sends to its device. A request stays within what one read may ask
for and within the address space, and it keeps close to the configured metrics: a
register that belongs to none of them is only read along when a metric ends at most ten
registers before it. Coils and discrete inputs are read one by one.
-/

namespace BusExporter.Modbus

open Foundation

/-! ## Requests -/

/-- A read request, as the device gets it. -/
structure Request where
  table : RegisterType
  addr : UInt16
  count : UInt16
  deriving DecidableEq, Repr

/-- The most cells that one request asks for. -/
def cellLimit : RegisterType → ℕ
  | .holding | .input => maxRegistersPerRead
  | .coil | .discrete => 1

/-- How far past the end of a metric a cell can be that is read along. -/
def reach : RegisterType → ℕ
  | .holding | .input => maxCoalesceGap
  | .coil | .discrete => 0

/-- The cell belongs to a metric or lies shortly after one. -/
def Near (metrics : List MetricConfig) (table : RegisterType) (cell : ℕ) : Prop :=
  ∃ m ∈ metrics, m.registerType.getD .holding = table ∧ ∃ addr, m.address = some addr ∧
    addr.toNat ≤ cell ∧ cell < addr.toNat + m.dataType.registerCount.toNat + reach table

/-- A request that a reader of these metrics may send. -/
structure Request.Within (metrics : List MetricConfig) (request : Request) : Prop where
  some_cells : 1 ≤ request.count.toNat
  few_cells : request.count.toNat ≤ cellLimit request.table
  inside : request.addr.toNat + request.count.toNat ≤ 65536
  near : ∀ cell, request.addr.toNat ≤ cell → cell < request.addr.toNat + request.count.toNat →
    Near metrics request.table cell

variable {κ : Type}

/-- A call that leaves its request in the log. -/
def sent {α : Type} (table : RegisterType) (request : UInt16 → UInt16 → StateM κ (Response α))
    (addr count : UInt16) : StateM (κ × List Request) (Response α) := fun (context, log) =>
  let (response, context) := (request addr count).run context
  (response, (context, log ++ [⟨table, addr, count⟩]))

/-- Contexts that keep a log of what is sent over them, the first request first. -/
def ContextCalls.traced (calls : ContextCalls κ) : ContextCalls (κ × List Request) where
  readHoldingRegisters := sent .holding calls.readHoldingRegisters
  readInputRegisters := sent .input calls.readInputRegisters
  readCoils := sent .coil calls.readCoils
  readDiscreteInputs := sent .discrete calls.readDiscreteInputs

/-- The client with an empty log. -/
def ModbusMetricReader.unlogged (client : ModbusMetricReader κ) :
    ModbusMetricReader (κ × List Request) :=
  { client with context := client.context.map fun context => (context, []) }

def ModbusMetricReader.logOf (client : ModbusMetricReader (κ × List Request)) : List Request :=
  (client.context.map Prod.snd).getD []

/-- The requests that a read sends. -/
def requestsOf (calls : ContextCalls κ) (client : ModbusMetricReader κ) : List Request :=
  ((ModbusMetricReader.read calls.traced).run client.unlogged).2.logOf

/-- A read with a log returns what the read returns. -/
theorem read_unlogged (calls : ContextCalls κ) (client : ModbusMetricReader κ) :
    ((ModbusMetricReader.read calls.traced).run client.unlogged).1 =
      ((ModbusMetricReader.read calls).run client).1 := by
  have erases : ErasesCalls (fun _ => True) Prod.fst calls.traced calls :=
    ⟨fun _ _ _ _ => ⟨trivial, rfl⟩, fun _ _ _ _ => ⟨trivial, rfl⟩, fun _ _ _ _ => ⟨trivial, rfl⟩,
      fun _ _ _ _ => ⟨trivial, rfl⟩⟩
  have forgotten : client.unlogged.mapContext Prod.fst = client := by
    obtain ⟨line, slaveId, context, metrics⟩ := client
    cases context <;> rfl
  have same := ModbusMetricReader.read_erases erases client.unlogged fun _ _ => trivial
  rw [forgotten] at same
  exact same.symm

/-! ## What a range covers -/

variable {metrics : List MetricConfig} {group : List IndexedMetric}

/-- Some member of a group ends where the group does. -/
theorem exists_lastStop (nonempty : group ≠ []) :
    ∃ item ∈ group, item.stop.toNat = lastStop group := by
  induction group using List.reverseRecOn with
  | nil => exact absurd rfl nonempty
  | append_singleton group last ih =>
    rw [lastStop_snoc]
    rcases le_total (lastStop group) last.stop.toNat with shorter | longer
    · exact ⟨last, by simp, (max_eq_right shorter).symm⟩
    · by_cases empty : group = []
      · subst empty
        exact ⟨last, by simp, by simp [lastStop]⟩
      · obtain ⟨item, mem, ends⟩ := ih empty
        exact ⟨item, by simp [mem], ends.trans (max_eq_left longer).symm⟩

/-- Between the first and the last register of a group there is no long gap. -/
theorem near_of_grown (grown : Greedy.Grown Joins group) {cell : ℕ} (after : firstAddr group ≤ cell)
    (before : cell < lastStop group) :
    ∃ item ∈ group, item.addr.toNat ≤ cell ∧ cell < item.stop.toNat + maxCoalesceGap := by
  induction grown with
  | single item =>
    refine ⟨item, by simp, after, ?_⟩
    rw [lastStop_singleton] at before
    omega
  | snoc group item grown joins ih =>
    rw [firstAddr_snoc _ grown.ne_nil] at after
    rw [lastStop_snoc] at before
    by_cases earlier : cell < lastStop group
    · obtain ⟨member, mem, starts, ends⟩ := ih after earlier
      exact ⟨member, by simp [mem], starts, ends⟩
    · by_cases reached : item.addr.toNat ≤ cell
      · exact ⟨item, by simp, reached, by omega⟩
      · -- The cell is in the gap that the item has bridged.
        obtain ⟨member, mem, ends⟩ := exists_lastStop grown.ne_nil
        have starts := addr_le_stop member
        have bridged := joins.1
        exact ⟨member, by simp [mem], by omega, by omega⟩

/-- A range that is not refused is within the limits. -/
theorem within_rangeOf {registerType : RegisterType}
    (isRegister : RegisterType.IsRegister registerType)
    (mem : group ∈ readGroups registerType metrics) (isGroup : Group registerType group)
    (accepted : validateRegisterCount (rangeOf group).count = .ok ()) :
    Request.Within metrics ⟨registerType, (rangeOf group).start, (rangeOf group).count⟩ := by
  have count := isGroup.count_toNat
  have bounds : 1 ≤ (rangeOf group).count.toNat ∧
      (rangeOf group).count.toNat ≤ maxRegistersPerRead := by
    rw [validateRegisterCount] at accepted
    split at accepted
    · cases accepted
    · rename_i bounds
      rw [not_or, ← UInt16.toNat_inj, not_lt] at bounds
      exact ⟨Nat.one_le_iff_ne_zero.mpr bounds.1, bounds.2⟩
  have limits : cellLimit registerType = maxRegistersPerRead ∧
      reach registerType = maxCoalesceGap := by
    rcases isRegister with rfl | rfl <;> exact ⟨rfl, rfl⟩
  have last := lastStop_le group
  refine ⟨bounds.1, limits.1 ▸ bounds.2, ?_, fun cell after before => ?_⟩
  · simp only [rangeOf_start]
    omega
  · simp only [rangeOf_start] at after before
    obtain ⟨item, inGroup, starts, ends⟩ := near_of_grown isGroup.grown after (by omega)
    obtain ⟨found, address, typed, counted⟩ :=
      mem_itemsOf.mp (Greedy.mem_of_mem_groups _ mem inGroup)
    refine ⟨item.metric, List.mem_of_getElem? found, typed, item.addr, address, starts, ?_⟩
    rw [IndexedMetric.stop, UInt16.toNat_saturatingAdd, counted] at ends
    rw [limits.2]
    omega

/-- So is a metric that is read on its own. -/
theorem within_single {m : MetricConfig} (mem : m ∈ metrics) (valid : ModbusMetricValid m)
    {addr : UInt16} (address : m.address = some addr) (count : UInt16)
    (counted : count.toNat ≤ m.dataType.registerCount.toNat) (some_cells : 1 ≤ count.toNat)
    (few : count.toNat ≤ cellLimit (m.registerType.getD .holding)) :
    Request.Within metrics ⟨m.registerType.getD .holding, addr, count⟩ := by
  obtain ⟨addr', address', bound⟩ := valid.addressed
  cases address.symm.trans address'
  refine ⟨some_cells, few, ?_, fun cell after before => ?_⟩
  · dsimp only
    omega
  · dsimp only at after before
    exact ⟨m, mem, rfl, addr, address, after, by omega⟩

/-! ## What a read leaves in the log -/

/-- All that was sent so far may be sent. -/
def WithinSoFar (metrics : List MetricConfig) (client : ModbusMetricReader (κ × List Request)) :
    Prop :=
  ∀ request ∈ client.logOf, request.Within metrics

theorem call_within {α : Type} {table : RegisterType} {validate : UInt16 → Except Error Unit}
    {addr count : UInt16}
    (within : validate count = .ok () → Request.Within metrics ⟨table, addr, count⟩)
    (name : String) (request : UInt16 → UInt16 → StateM κ (Response α)) :
    Ensures (WithinSoFar metrics)
      (ModbusMetricReader.call validate name (sent table request) addr count)
      fun _ client => WithinSoFar metrics client := by
  intro client sofar
  cases valid : validate count with
  | error e =>
    simpa only [ModbusMetricReader.call, StateT.run, valid] using sofar
  | ok _ =>
    cases held : client.context with
    | none => simpa only [ModbusMetricReader.call, StateT.run, valid, held] using sofar
    | some context =>
      obtain ⟨context, log⟩ := context
      simp only [ModbusMetricReader.call, StateT.run, valid, held]
      intro logged mem
      rcases List.mem_append.mp mem with earlier | newest
      · exact sofar logged (by simpa [ModbusMetricReader.logOf, held] using earlier)
      · rw [List.mem_singleton.mp newest]
        exact within valid

theorem readSingle_within {m : MetricConfig} (mem : m ∈ metrics) (valid : ModbusMetricValid m)
    (calls : ContextCalls κ) :
    Ensures (WithinSoFar metrics) (readSingle (ModbusMetricReader.reader calls.traced) m)
      fun _ client => WithinSoFar metrics client := by
  obtain ⟨addr, address, -⟩ := valid.addressed
  have size := m.dataType.registerCount_mem
  unfold readSingle
  rw [address]
  have single := within_single mem valid address
  cases registerType : m.registerType.getD .holding <;> rw [registerType] at single
  case holding | input =>
    exact (call_within (fun _ => single _ le_rfl size.1 (size.2.trans (by decide))) _ _).bind
      fun _ => .pure fun _ => id
  case coil | discrete =>
    exact (call_within (fun _ => single 1 size.1 le_rfl le_rfl) _ _).bind fun _ => .pure fun _ => id

/-- A batch read sends only requests that it may send. -/
theorem delivers_within (valid : ∀ m ∈ metrics, ModbusMetricValid m) (calls : ContextCalls κ) :
    Delivers (ModbusMetricReader.reader calls.traced) metrics (WithinSoFar metrics)
      fun _ _ => True where
  missing _ _ _ _ := trivial
  range registerType isRegister group mem := by
    have within := within_rangeOf isRegister mem (group_of_mem valid mem)
    rcases isRegister with rfl | rfl <;> exact call_within within _ _
  sliced _ _ _ _ _ _ _ _ _ _ := trivial
  fallback _ _ group mem _ _ _ _ item inGroup := by
    have found := (mem_itemsOf.mp (Greedy.mem_of_mem_groups _ mem inGroup)).1
    have configured := List.mem_of_getElem? found
    exact (readSingle_within configured (valid _ configured) calls).mono
      fun _ _ within => ⟨trivial, within⟩
  bit i m mem := by
    have configured := List.mem_of_getElem? (mem_bits.mp mem).1
    exact (readSingle_within configured (valid _ configured) calls).mono
      fun _ _ within => ⟨trivial, within⟩

theorem requestsOf_within (calls : ContextCalls κ) (client : ModbusMetricReader κ)
    (valid : ∀ m ∈ client.metrics, ModbusMetricValid m) :
    ∀ request ∈ requestsOf calls client, request.Within client.metrics := by
  have start : WithinSoFar client.metrics client.unlogged := by
    intro request mem
    cases held : client.context <;>
      simp [ModbusMetricReader.logOf, ModbusMetricReader.unlogged, held] at mem
  have delivers : Delivers (ModbusMetricReader.reader calls.traced) client.unlogged.metrics
      (WithinSoFar client.metrics) fun _ _ => True := delivers_within valid calls
  exact (ModbusMetricReader.read_delivers client.unlogged delivers start).1

/-! ## Runs -/

open Collector

/-- In every state that a validated Modbus collector can reach, a read sends only requests of a
legal size, within the address space, and close to its metrics. -/
theorem sendsWithin {c : CollectorConfig} (valid : c.Validated)
    (modbus : c.protocol.isModbus = true) {calls : ContextCalls κ} {dead : κ → Bool}
    {internalMetrics : Bool} {line : Line} {slaveId : UInt8} {s : ModbusRun κ}
    {history : List ModbusEvent}
    (reaches : (ModbusRun.machine calls dead c internalMetrics line slaveId).Reaches s history) :
    ∀ request ∈ requestsOf calls s.reader, request.Within c.metrics := by
  have own := (readsOwn_of_reaches reaches).metrics
  have sends := requestsOf_within calls s.reader fun m mem => valid.modbusMetric modbus (own ▸ mem)
  rwa [own] at sends

/-- A connected meter with two words next to each other, one that is far off, and a coil. -/
def meter : CollectorConfig :=
  Samples.plc [Samples.wordMetric "flow" 100, Samples.wordMetric "level" 104,
    Samples.wordMetric "total" 65534,
    { name := "alarm", metricType := .gauge, registerType := some .coil, address := some 3,
      dataType := .bool }]

theorem meter_validated : meter.Validated := Samples.validated_of_configOf (by decide)

/-- The words next to each other are read at once. -/
theorem sendsWithin_meter :
    ∃ s : ModbusRun Unit, requestsOf silent s.reader =
        [⟨.holding, 100, 6⟩, ⟨.holding, 65534, 1⟩, ⟨.coil, 3, 1⟩] ∧
      ∀ request ∈ requestsOf silent s.reader, request.Within meter.metrics := by
  have reaches : (ModbusRun.machine silent (fun _ : Unit => false) meter true
      (.tcp "10.0.0.5:502") 1).Reaches _ _ := Machine.reaches_of_run
    [.connect ⟨fun _ => .ok ["10.0.0.5"], fun _ _ => .ok (), fun _ _ => .ok ()⟩] rfl
  exact ⟨_, by decide +kernel, sendsWithin meter_validated rfl reaches⟩

end BusExporter.Modbus
