import BusExporter.Config.Basic

/-!
# Configuration validation

`Config.validate`, cut at its own section comments: exporters, then for each
collector the protocol, the write steps and the metrics. Every check keeps its
place and its message. The warnings printed for a byte order that has no effect
are left out, since they decide nothing.

`validate_eq_ok` states what an accepted configuration satisfies; the modules on
readers and exporters start from it and never unfold a check.
-/

namespace BusExporter

open Foundation

/-- `bail!(message)` when the condition holds. -/
def bail (condition : Prop) [Decidable condition] (message : String) : Except Error Unit :=
  bailIf condition (.msg message)

@[simp]
theorem bail_eq_ok (condition : Prop) [Decidable condition] (message : String) :
    bail condition message = .ok () ↔ ¬ condition :=
  bailIf_eq_ok condition _

/-! ## Exporters -/

def validateMqttEndpoint (endpoint : Option String) : Except Error Unit :=
  match endpoint with
  | none => .error (.msg "mqtt exporter is enabled but no endpoint is set")
  | some endpoint =>
    bail ((stripStart "mqtt://".toList endpoint.toList).isNone ∧
        (stripStart "mqtts://".toList endpoint.toList).isNone)
      "mqtt endpoint must start with mqtt:// or mqtts://"

def validateMqttTls (tls : MqttTlsConfig) : Except Error Unit :=
  bail (tls.clientCert.isSome ≠ tls.clientKey.isSome)
    "mqtt tls: client_cert and client_key must both be set for mutual TLS"

def validateMqtt (mqtt : MqttExporterConfig) : Except Error Unit := do
  checkWhen mqtt.enabled (validateMqttEndpoint mqtt.endpoint)
  bail (mqtt.qos > 2) s!"mqtt qos must be 0, 1, or 2, got {mqtt.qos}"
  checkSome mqtt.tls validateMqttTls

def validateOtlp (otlp : OtlpExporterConfig) : Except Error Unit :=
  bail (otlp.enabled ∧ otlp.endpoint.isNone)
    "otlp exporter is enabled but no endpoint is set"

def validateExporters (exporters : ExportersConfig) : Except Error Unit := do
  let otlpOn := exporters.otlp.any (·.enabled)
  let promOn := exporters.prometheus.any (·.enabled)
  let mqttOn := exporters.mqtt.any (·.enabled)
  bail (¬ otlpOn ∧ ¬ promOn ∧ ¬ mqttOn) "at least one exporter must be enabled"
  checkSome exporters.otlp validateOtlp
  checkSome exporters.mqtt validateMqtt

/-! ## Protocols -/

/-- The slave id check that both Modbus protocols make. -/
def validateSlaveId (c : CollectorConfig) : Except Error Unit :=
  match c.slaveId with
  | none => .error (.msg s!"collector '{c.name}': slave_id is required for Modbus protocols")
  | some id =>
    bail (id = 0 ∨ id > 247) s!"collector '{c.name}': slave_id must be 1-247, got {id}"

/-- `host:port` with a port that parses, split at the last colon. -/
def validTcpEndpoint (endpoint : String) : Bool :=
  (rsplitOnce ':' endpoint.toList).any fun (_, port) => (parseU16 port).isSome

/-- The PID without its prefixes: every leading `0x`, then every leading `0X`. -/
def pidDigits (pid : String) : List Char :=
  trimStartMatches "0X".toList (trimStartMatches "0x".toList pid.toList)

/-- Twelve bytes that parse as a hexadecimal `u64`. -/
def validPid (pid : String) : Bool :=
  utf8Length (pidDigits pid) = 12 ∧ (parseRadix 16 (2 ^ 64) (pidDigits pid)).isSome

def validateI3cAddress (c : CollectorConfig) (address : UInt8) : Except Error Unit :=
  bail (address < 0x08 ∨ address > 0x3D)
    s!"collector '{c.name}': I3C address must be 0x08-0x3D, got {hexPadded 4 address.toNat}"

def validatePid (c : CollectorConfig) (pid : String) : Except Error Unit :=
  bail (¬ validPid pid) s!"collector '{c.name}': PID must be a valid 48-bit hex string (e.g., \"0x0123456789AB\"), got \"{pid}\""

/-- The I3C address modes: exactly one of PID, static address, device class with instance. -/
def validateI3cModes (c : CollectorConfig) (pid : Option String) (address : Option UInt8)
    (deviceClass : Option String) (instanceIndex : Option UInt8) : Except Error Unit := do
  let modeCount := pid.isSome.toNat + address.isSome.toNat +
    (deviceClass.isSome || instanceIndex.isSome).toNat
  bail (modeCount ≠ 1) s!"collector '{c.name}': exactly one address mode must be set (pid, address, or device_class+instance)"
  bail (deviceClass.isSome ≠ instanceIndex.isSome)
    s!"collector '{c.name}': device_class requires instance (and vice versa)"
  checkSome address (validateI3cAddress c)
  checkSome pid (validatePid c)

def validateProtocol (c : CollectorConfig) : Except Error Unit :=
  match c.protocol with
  | .modbusTcp endpoint => do
    validateSlaveId c
    bail (¬ validTcpEndpoint endpoint) s!"collector '{c.name}': invalid TCP endpoint '{endpoint}' (expected host:port, e.g. 127.0.0.1:502)"
  | .modbusRtu _ _ dataBits stopBits _ => do
    validateSlaveId c
    bail (¬ (5 ≤ dataBits ∧ dataBits ≤ 8))
      s!"collector '{c.name}': data_bits must be 5-8, got {dataBits}"
    bail (¬ (1 ≤ stopBits ∧ stopBits ≤ 2))
      s!"collector '{c.name}': stop_bits must be 1-2, got {stopBits}"
  | .i2c bus address => do
    bail (bus = "") s!"collector '{c.name}': I2C bus path must not be empty"
    bail (address < 0x03 ∨ address > 0x77)
      s!"collector '{c.name}': I2C address must be 0x03-0x77, got {hexPadded 4 address.toNat}"
  | .spi device speedHz mode bitsPerWord => do
    bail (device = "") s!"collector '{c.name}': SPI device path must not be empty"
    bail (speedHz = 0) s!"collector '{c.name}': SPI speed_hz must be > 0"
    bail (mode > 3) s!"collector '{c.name}': SPI mode must be 0-3, got {mode}"
    bail (bitsPerWord = 0 ∨ bitsPerWord > 32)
      s!"collector '{c.name}': SPI bits_per_word must be 1-32, got {bitsPerWord}"
  | .i3c bus pid address deviceClass instanceIndex => do
    bail (bus = "") s!"collector '{c.name}': I3C bus path must not be empty"
    bail (c.slaveId.isSome) s!"collector '{c.name}': slave_id is not used for I3C protocol"
    validateI3cModes c pid address deviceClass instanceIndex

/-! ## Write steps -/

/-- The label that starts every message about a write step. -/
def stepLabel (c : CollectorConfig) (field : String) (idx : ℕ) : String :=
  s!"collector '{c.name}', {field}[{idx}]"

def validateSpiStep (label : String) (step : WriteStep) : Except Error Unit := do
  bail (step.address.isSome ∨ step.value.isSome)
    s!"{label}: address/value fields are not valid for SPI write steps (use command)"
  bail (step.command.isNone ∧ step.delay.isNone)
    s!"{label}: step must have at least one of command or delay"
  bail (step.command = some []) s!"{label}: command must contain at least one byte"

def validateRegisterStep (label : String) (step : WriteStep) : Except Error Unit := do
  bail (step.command.isSome)
    s!"{label}: command field is not valid for I2C/I3C write steps (use address/value)"
  bail (step.address.isSome ≠ step.value.isSome)
    s!"{label}: address and value must both be specified together"
  bail (step.address.isNone ∧ step.delay.isNone)
    s!"{label}: step must have at least one of address+value or delay"
  bail (step.value = some (.multi [])) s!"{label}: value must contain at least one byte"

def validateDelay (label : String) (delay : Duration) : Except Error Unit :=
  bail (delay > Duration.ofSecs 10)
    s!"{label}: delay must be ≤ 10s, got {Duration.debug delay}"

def validateStep (c : CollectorConfig) (field : String) (idx : ℕ) (step : WriteStep) :
    Except Error Unit := do
  let label := stepLabel c field idx
  checkWhen (c.protocol.isSpi = true) (validateSpiStep label step)
  checkWhen (c.protocol.isSpi = false) (validateRegisterStep label step)
  checkSome step.delay (validateDelay label)

def validateSteps (c : CollectorConfig) (field : String) (steps : List WriteStep) :
    Except Error Unit :=
  steps.zipIdx.forM fun (step, idx) => validateStep c field idx step

/-! ## Metrics -/

/-- The label that starts every message about a metric. -/
def metricLabel (c : CollectorConfig) (m : MetricConfig) : String :=
  s!"collector '{c.name}', metric '{m.name}'"

/-- The mid-endian check that I2C, SPI and I3C make, with the protocol's name in the message. -/
def validateByteOrder (label protocol : String) (m : MetricConfig) : Except Error Unit :=
  bail (m.byteOrder = .midBigEndian ∨ m.byteOrder = .midLittleEndian)
    s!"{label}: mid-endian byte order is not supported for {protocol} (Modbus-specific)"

/-- The register address check that I2C and I3C make, with the protocol's name in the message. -/
def validateRegisterAddress (label protocol : String) (m : MetricConfig) : Except Error Unit :=
  let address := (m.address.getD 0).toNat
  bail (address > 0xFF)
    s!"{label}: {protocol} register address {hexPadded 6 address} exceeds u8 range (max 0xFF)"

def validateAddressPresent (c : CollectorConfig) (m : MetricConfig) : Except Error Unit :=
  let protocol :=
    if c.protocol.isI2c then "I2C" else if c.protocol.isI3c then "I3C" else "Modbus"
  bail (¬ c.protocol.isSpi ∧ m.address.isNone)
    s!"{metricLabel c m}: address is required for {protocol} protocol"

def validateModbusMetric (c : CollectorConfig) (m : MetricConfig) : Except Error Unit := do
  let label := metricLabel c m
  let registerType := m.registerType.getD .holding
  bail ((registerType = .coil ∨ registerType = .discrete) ∧ m.dataType ≠ .bool)
    s!"{label}: coil/discrete register must use data_type bool"
  bail (m.dataType = .bool ∧ registerType ≠ .coil ∧ registerType ≠ .discrete)
    s!"{label}: bool data_type must use coil or discrete register"
  bail (m.metricType = .counter ∧ (registerType = .coil ∨ registerType = .discrete))
    s!"{label}: coil/discrete registers only support gauge metric type"
  bail (m.registerType.isNone) s!"{label}: register_type is required for Modbus protocols"
  bail (m.dataType = .u8) s!"{label}: data_type u8 is not supported for Modbus protocols (minimum register size is 16-bit)"

/-- The response length the validator and the reader both fall back to: the command's
length, cast to 16 bits. -/
def responseLength (m : MetricConfig) : UInt16 :=
  m.responseLength.getD (UInt16.ofNat m.command.length)

def validateSpiMetric (c : CollectorConfig) (m : MetricConfig) : Except Error Unit := do
  let label := metricLabel c m
  bail (m.command = []) s!"{label}: command is required for SPI metrics"
  validateByteOrder label "SPI" m
  let respLen := responseLength m
  let dataBytes := UInt16.ofNat m.dataType.byteSize
  -- The addition wraps around, as it does in a release build.
  bail (m.responseOffset + dataBytes > respLen) s!"{label}: response_offset ({m.responseOffset}) + data_type bytes ({dataBytes}) exceeds response_length ({respLen})"

/-- The checks that I2C and I3C metrics share, with the protocol's name in the messages. -/
def validateRegisterMetric (protocol : String) (c : CollectorConfig) (m : MetricConfig) :
    Except Error Unit := do
  validateRegisterAddress (metricLabel c m) protocol m
  validateByteOrder (metricLabel c m) protocol m

/-- The last register of a Modbus metric must be addressable. -/
def validateModbusRange (c : CollectorConfig) (m : MetricConfig) : Except Error Unit :=
  let address := m.address.getD 0
  let regCount := m.dataType.registerCount
  bail (address.toNat + regCount.toNat > 65536)
    s!"{metricLabel c m}: address {address} + {regCount} registers exceeds 65535"

def validateMetric (c : CollectorConfig) (m : MetricConfig) : Except Error Unit := do
  validateAddressPresent c m
  checkWhen c.protocol.isModbus (validateModbusMetric c m)
  checkWhen c.protocol.isI2c (validateRegisterMetric "I2C" c m)
  checkWhen c.protocol.isSpi (validateSpiMetric c m)
  checkWhen c.protocol.isI3c (validateRegisterMetric "I3C" c m)
  bail (m.metricType = .counter ∧ m.dataType = .bool)
    s!"{metricLabel c m}: counter metric type cannot be used with bool data_type"
  bail (m.scale == 0.0) s!"{metricLabel c m}: scale must not be 0.0"
  checkWhen c.protocol.isModbus (validateModbusRange c m)

/-! ## Collectors -/

def validateCollector (c : CollectorConfig) : Except Error Unit := do
  validateProtocol c
  bail (Duration.asMillis c.pollingInterval < 1)
    s!"collector '{c.name}': polling_interval must be at least 1ms, got {Duration.debug c.pollingInterval}"
  bail (c.metrics = []) s!"collector '{c.name}': at least one metric required"
  bail (c.protocol.isModbus ∧ (c.initWrites ≠ [] ∨ c.prePoll ≠ []))
    s!"collector '{c.name}': init_writes and pre_poll are not supported for Modbus protocols"
  validateSteps c "init_writes" c.initWrites
  validateSteps c "pre_poll" c.prePoll
  c.metrics.forM (validateMetric c)

/-- The loop over the collectors, with the names seen so far. -/
def validateCollectors (seen : List String) : List CollectorConfig → Except Error Unit
  | [] => .ok ()
  | c :: collectors => do
    bail (c.name ∈ seen) s!"duplicate collector name: {c.name}"
    validateCollector c
    validateCollectors (c.name :: seen) collectors

/-- `Config::validate`. -/
def Config.validate (config : Config) : Except Error Unit := do
  validateExporters config.exporters
  bail (config.collectors = []) "at least one collector must be defined"
  validateCollectors [] config.collectors

end BusExporter
