import BusExporter.Config.Validate

/-!
# What an accepted configuration satisfies

The checks of `Config.validate`, read back as facts. A reader or an exporter
only ever sees collectors of an accepted configuration, so this module is the
only place where the validator is unfolded.
-/

namespace BusExporter

open Foundation

/-- A collector that a validated configuration contains. -/
def CollectorConfig.Validated (c : CollectorConfig) : Prop :=
  ∃ config : Config, config.validate = .ok () ∧ c ∈ config.collectors

/-! ## Collectors -/

theorem validateCollectors_eq_ok (seen : List String) (collectors : List CollectorConfig) :
    validateCollectors seen collectors = .ok () ↔
      (collectors.map (·.name)).Nodup ∧ (∀ c ∈ collectors, c.name ∉ seen) ∧
        ∀ c ∈ collectors, validateCollector c = .ok () := by
  induction collectors generalizing seen with
  | nil => simp [validateCollectors]
  | cons c collectors ih =>
    simp only [validateCollectors, then_eq_ok, bail_eq_ok, ih, List.map_cons, List.nodup_cons,
      List.mem_cons, forall_eq_or_imp, not_or, List.mem_map, not_exists, not_and]
    constructor
    · rintro ⟨unseen, valid, distinct, fresh, rest⟩
      exact ⟨⟨fun c' mem => (fresh c' mem).1, distinct⟩,
        ⟨unseen, fun c' mem => (fresh c' mem).2⟩, valid, rest⟩
    · rintro ⟨⟨different, distinct⟩, ⟨unseen, fresh⟩, valid, rest⟩
      exact ⟨unseen, valid, distinct,
        fun c' mem => ⟨different c' mem, fresh c' mem⟩, rest⟩

theorem Config.validate_eq_ok (config : Config) :
    config.validate = .ok () ↔
      validateExporters config.exporters = .ok () ∧ config.collectors ≠ [] ∧
        (config.collectors.map (·.name)).Nodup ∧
          ∀ c ∈ config.collectors, validateCollector c = .ok () := by
  simp [Config.validate, validateCollectors_eq_ok]

theorem validateCollector_eq_ok (c : CollectorConfig) :
    validateCollector c = .ok () ↔
      validateProtocol c = .ok () ∧ 1 ≤ Duration.asMillis c.pollingInterval ∧ c.metrics ≠ [] ∧
        (c.protocol.isModbus = true → c.initWrites = [] ∧ c.prePoll = []) ∧
          validateSteps c "init_writes" c.initWrites = .ok () ∧
            validateSteps c "pre_poll" c.prePoll = .ok () ∧
              ∀ m ∈ c.metrics, validateMetric c m = .ok () := by
  simp only [validateCollector, then_eq_ok, bail_eq_ok, forM_eq_ok, not_and, not_or, not_not,
    not_lt, ne_eq]

theorem CollectorConfig.Validated.validateCollector {c : CollectorConfig} (valid : c.Validated) :
    validateCollector c = .ok () := by
  obtain ⟨config, accepted, mem⟩ := valid
  exact ((config.validate_eq_ok).mp accepted).2.2.2 c mem

theorem CollectorConfig.Validated.metric {c : CollectorConfig} (valid : c.Validated)
    {m : MetricConfig} (mem : m ∈ c.metrics) : validateMetric c m = .ok () :=
  ((validateCollector_eq_ok c).mp valid.validateCollector).2.2.2.2.2.2 m mem

/-- Write steps are for I2C, SPI and I3C only. -/
theorem CollectorConfig.Validated.no_writes {c : CollectorConfig} (valid : c.Validated)
    (modbus : c.protocol.isModbus = true) : c.initWrites = [] ∧ c.prePoll = [] :=
  ((validateCollector_eq_ok c).mp valid.validateCollector).2.2.2.1 modbus

/-! ## Metrics -/

/-- What the validator asks of a Modbus metric. -/
structure ModbusMetricValid (m : MetricConfig) : Prop where
  addressed : ∃ addr, m.address = some addr ∧
    addr.toNat + m.dataType.registerCount.toNat ≤ 65536
  typed : ∃ registerType, m.registerType = some registerType ∧
    ((registerType = .coil ∨ registerType = .discrete) ↔ m.dataType = .bool)

/-- What the validator asks of an SPI metric: its response bound, in wrapping 16-bit arithmetic. -/
structure SpiMetricValid (m : MetricConfig) : Prop where
  command : m.command ≠ []
  bounded : m.responseOffset + UInt16.ofNat m.dataType.byteSize ≤ responseLength m

theorem CollectorConfig.Validated.modbusMetric {c : CollectorConfig} (valid : c.Validated)
    (modbus : c.protocol.isModbus = true) {m : MetricConfig} (mem : m ∈ c.metrics) :
    ModbusMetricValid m := by
  have accepted := valid.metric mem
  have notSpi : c.protocol.isSpi = false := by
    cases h : c.protocol <;> simp_all [Protocol.isModbus, Protocol.isSpi]
  simp only [validateMetric, validateAddressPresent, validateModbusMetric, validateModbusRange,
    then_eq_ok, bail_eq_ok, checkWhen_eq_ok, modbus, notSpi, true_imp_iff] at accepted
  obtain ⟨present, ⟨bits, registers, _, typed, _⟩, _, _, _, _, _, range⟩ := accepted
  obtain ⟨addr, hasAddr⟩ : ∃ addr, m.address = some addr := by
    cases h : m.address <;> simp_all
  obtain ⟨registerType, hasType⟩ : ∃ registerType, m.registerType = some registerType := by
    cases h : m.registerType <;> simp_all
  refine ⟨⟨addr, hasAddr, ?_⟩, ⟨registerType, hasType, ?_⟩⟩
  · simpa [hasAddr] using range
  · simp only [hasType, Option.getD_some] at bits registers
    constructor
    · intro bit
      by_contra other
      exact bits ⟨bit, other⟩
    · intro bool
      by_contra register
      exact registers ⟨bool, fun coil => register (.inl coil),
        fun discrete => register (.inr discrete)⟩

/-- The register checks of I2C and I3C. -/
theorem fitsByte_of_checks {c : CollectorConfig} {m : MetricConfig} {protocol : String}
    (present : validateAddressPresent c m = .ok ())
    (notSpi : c.protocol.isSpi = false)
    (register : validateRegisterMetric protocol c m = .ok ()) : m.FitsByte := by
  simp only [validateAddressPresent, validateRegisterMetric, validateRegisterAddress, then_eq_ok,
    bail_eq_ok, notSpi] at present register
  cases address : m.address with
  | none => simp [address] at present
  | some addr =>
    rw [address] at register
    exact ⟨addr, address, by simpa using register.1⟩

theorem CollectorConfig.Validated.fitsByte {c : CollectorConfig} (valid : c.Validated)
    (byRegister : c.protocol.isI2c = true ∨ c.protocol.isI3c = true) {m : MetricConfig}
    (mem : m ∈ c.metrics) : m.FitsByte := by
  have accepted := valid.metric mem
  have notSpi : c.protocol.isSpi = false := by
    cases h : c.protocol <;> simp_all [Protocol.isI2c, Protocol.isI3c, Protocol.isSpi]
  simp only [validateMetric, then_eq_ok, checkWhen_eq_ok] at accepted
  obtain ⟨present, -, i2c, -, i3c, -⟩ := accepted
  rcases byRegister with isI2c | isI3c
  · exact fitsByte_of_checks present notSpi (i2c isI2c)
  · exact fitsByte_of_checks present notSpi (i3c isI3c)

theorem CollectorConfig.Validated.spiMetric {c : CollectorConfig} (valid : c.Validated)
    (spi : c.protocol.isSpi = true) {m : MetricConfig} (mem : m ∈ c.metrics) :
    SpiMetricValid m := by
  have accepted := valid.metric mem
  simp only [validateMetric, then_eq_ok, checkWhen_eq_ok] at accepted
  obtain ⟨-, -, -, checked, -⟩ := accepted
  have checked := checked spi
  simp only [validateSpiMetric, then_eq_ok, bail_eq_ok] at checked
  exact ⟨checked.1, UInt16.not_lt.mp checked.2.2⟩

/-- An accepted I3C collector has a PID, an address, or a device class with an instance. -/
theorem CollectorConfig.Validated.i3cMode {c : CollectorConfig} (valid : c.Validated)
    {bus : String} {pid : Option String} {address : Option UInt8} {deviceClass : Option String}
    {instanceIndex : Option UInt8}
    (i3c : c.protocol = .i3c bus pid address deviceClass instanceIndex) :
    pid.isSome ∨ address.isSome ∨ deviceClass.isSome ∧ instanceIndex.isSome := by
  have protocol := ((validateCollector_eq_ok c).mp valid.validateCollector).1
  simp only [validateProtocol, i3c, validateI3cModes, then_eq_ok, bail_eq_ok, not_not] at protocol
  obtain ⟨-, -, count, paired, -⟩ := protocol
  cases pid <;> cases address <;> cases deviceClass <;> cases instanceIndex <;> simp_all

/-! ## Small validated collectors, for concrete runs -/

namespace Samples

/-- A configuration with one collector and the Prometheus exporter. -/
def configOf (c : CollectorConfig) : Config where
  exporters := { prometheus := some { enabled := true } }
  collectors := [c]

theorem validated_of_configOf {c : CollectorConfig} (valid : (configOf c).validate = .ok ()) :
    c.Validated :=
  ⟨configOf c, valid, List.mem_singleton_self _⟩

/-- A 32-bit holding register metric. -/
def wordMetric (name : String) (addr : UInt16) : MetricConfig where
  name := name
  metricType := .gauge
  registerType := some .holding
  address := some addr
  dataType := .u32

/-- A Modbus collector. -/
def plc (metrics : List MetricConfig) : CollectorConfig where
  name := "plc"
  protocol := .modbusTcp "10.0.0.5:502"
  slaveId := some 1
  metrics := metrics

/-- An I2C collector that writes a register when it connects and another before each read. -/
def sensor : CollectorConfig where
  name := "sensor"
  protocol := .i2c "/dev/i2c-1" 0x76
  initWrites := [{ address := some 0xF2, value := some (.single 1) }]
  prePoll := [{ address := some 0xF4, value := some (.single 0x25) }]
  metrics := [{
    name := "humidity", metricType := .gauge, address := some 0xFD, dataType := .u16 }]

theorem sensor_validated : sensor.Validated := validated_of_configOf (by decide)

end Samples

end BusExporter
