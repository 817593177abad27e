import BusExporter.Config.MetricsFiles
import BusExporter.Foundation.Records

/-!
# Reading a configuration

The derived deserializers: what each part of the configuration is read from. Every record
refuses fields that it does not know, apart from a protocol, which is tagged by its type and
ignores them. A protocol is buffered before it is read, so its fields are read as what
they are by themselves, and not as what is asked for.

The texts of the errors are those of the parser and are left out.
-/

namespace BusExporter

open Foundation

/-! ## Names of variants -/

def LogLevel.variants : List (String × LogLevel) :=
  [("trace", .trace), ("debug", .debug), ("info", .info), ("warn", .warn), ("error", .error)]

def LogOutput.variants : List (String × LogOutput) :=
  [("stdout", .stdout), ("stderr", .stderr), ("json", .json), ("syslog", .syslog)]

def SyslogFacility.variants : List (String × SyslogFacility) :=
  [("daemon", .daemon), ("local0", .local0), ("local1", .local1), ("local2", .local2),
    ("local3", .local3), ("local4", .local4), ("local5", .local5), ("local6", .local6),
    ("local7", .local7)]

def Parity.variants : List (String × Parity) := [("none", .none), ("even", .even), ("odd", .odd)]

def MetricType.variants : List (String × MetricType) :=
  [("counter", .counter), ("gauge", .gauge)]

def RegisterType.variants : List (String × RegisterType) :=
  [("holding", .holding), ("input", .input), ("coil", .coil), ("discrete", .discrete)]

def DataType.variants : List (String × DataType) :=
  [("u8", .u8), ("u16", .u16), ("i16", .i16), ("u32", .u32), ("i32", .i32), ("f32", .f32),
    ("u64", .u64), ("i64", .i64), ("f64", .f64), ("bool", .bool)]

def ByteOrder.variants : List (String × ByteOrder) :=
  [("big_endian", .bigEndian), ("little_endian", .littleEndian),
    ("mid_big_endian", .midBigEndian), ("mid_little_endian", .midLittleEndian)]

/-! ## Scalars -/

section Scalars

variable {ν : Type} (format : Format ν)

def boundedU8 (n : ℕ) : Option UInt8 := if n < 256 then some (.ofNat n) else none

def boundedU16 (n : ℕ) : Option UInt16 := if n < 65536 then some (.ofNat n) else none

def boundedU32 (n : ℕ) : Option UInt32 := if n < 4294967296 then some (.ofNat n) else none

def readU8 (node : ν) : Option UInt8 := (format.unsigned node).bind boundedU8

def readU16 (node : ν) : Option UInt16 := (format.unsigned node).bind boundedU16

def readBytes (node : ν) : Option (List UInt8) := (format.seq node).bind (·.mapM (readU8 format))

/-- The map is iterated in the order of its node, which stands for whatever order it has. -/
def readStrings (node : ν) : Option (HashMap String) := do
  let entries ← format.map node
  let pairs ← entries.mapM fun entry => (format.string entry.2).map (entry.1, ·)
  return HashMap.listed pairs

def readVariant {α : Type} (variants : List (String × α)) (node : ν) : Option α :=
  (format.string node).bind (List.lookup · variants)

def readList {α : Type} (read : ν → Option α) (node : ν) : Option (List α) :=
  (format.seq node).bind (·.mapM read)

/-- `ByteValueVisitor`. -/
def ByteValue.deserialize (node : ν) : Option ByteValue :=
  match format.any node with
  | .unsigned n => (boundedU8 n).map .single
  | .signed i => if 0 ≤ i then (boundedU8 i.toNat).map .single else none
  | .seq items => (items.mapM (readU8 format)).map .multi
  | _ => none

/-- A buffered string is one by itself. -/
def bufferedString (node : ν) : Option String :=
  match format.any node with
  | .string s => some s
  | _ => none

def bufferedUnsigned (node : ν) : Option ℕ :=
  match format.any node with
  | .unsigned n => some n
  | _ => none

def bufferedIsNone (node : ν) : Bool :=
  match format.any node with
  | .null => true
  | _ => false

def bufferedU8 (node : ν) : Option UInt8 := (bufferedUnsigned format node).bind boundedU8

def bufferedU32 (node : ν) : Option UInt32 := (bufferedUnsigned format node).bind boundedU32

def bufferedMap (node : ν) : Option (List (String × ν)) :=
  match format.any node with
  | .map entries => some entries
  | _ => none

/-- The fields of a record that refuses unknown ones. -/
def recordFields (known : List String) (node : ν) : Option (List (String × ν)) :=
  (format.map node).bind (strictFields known)

end Scalars

/-! ## Collectors -/

section

variable {ν : Type} (format : Format ν)

def MetricConfig.deserialize (node : ν) : Option MetricConfig := do
  let fields ← recordFields format ["name", "description", "type", "register_type", "address",
    "data_type", "byte_order", "scale", "offset", "unit", "command", "response_length",
    "response_offset"] node
  return {
    name := ← requiredField fields "name" format.string
    description := ← fieldOr fields "description" format.string ""
    metricType := ← requiredField fields "type" (readVariant format MetricType.variants)
    registerType := ← optionField fields "register_type"
      (readVariant format RegisterType.variants) format.isNone
    address := ← optionField fields "address" (readU16 format) format.isNone
    dataType := ← requiredField fields "data_type" (readVariant format DataType.variants)
    byteOrder := ← fieldOr fields "byte_order" (readVariant format ByteOrder.variants) .bigEndian
    scale := ← fieldOr fields "scale" format.float 1.0
    offset := ← fieldOr fields "offset" format.float 0.0
    unit := ← fieldOr fields "unit" format.string ""
    command := ← fieldOr fields "command" (readBytes format) []
    responseLength := ← optionField fields "response_length" (readU16 format) format.isNone
    responseOffset := ← fieldOr fields "response_offset" (readU16 format) 0 }

/-- The fields of each variant, by the tag. -/
def Protocol.variants : List (String × (List (String × ν) → Option Protocol)) :=
  [("modbus-tcp", fun entries => do
      let fields ← knownFields ["endpoint"] entries
      return .modbusTcp (← requiredField fields "endpoint" (bufferedString format))),
    ("modbus-rtu", fun entries => do
      let fields ← knownFields ["device", "bps", "data_bits", "stop_bits", "parity"] entries
      return .modbusRtu (← requiredField fields "device" (bufferedString format))
        (← fieldOr fields "bps" (bufferedU32 format) 9600)
        (← fieldOr fields "data_bits" (bufferedU8 format) 8)
        (← fieldOr fields "stop_bits" (bufferedU8 format) 1)
        (← fieldOr fields "parity"
          (fun node => (bufferedString format node).bind (List.lookup · Parity.variants)) .none)),
    ("i2c", fun entries => do
      let fields ← knownFields ["bus", "address"] entries
      return .i2c (← requiredField fields "bus" (bufferedString format))
        (← requiredField fields "address" (bufferedU8 format))),
    ("spi", fun entries => do
      let fields ← knownFields ["device", "speed_hz", "mode", "bits_per_word"] entries
      return .spi (← requiredField fields "device" (bufferedString format))
        (← fieldOr fields "speed_hz" (bufferedU32 format) 1000000)
        (← fieldOr fields "mode" (bufferedU8 format) 0)
        (← fieldOr fields "bits_per_word" (bufferedU8 format) 8)),
    ("i3c", fun entries => do
      let fields ← knownFields ["bus", "pid", "address", "device_class", "instance"] entries
      return .i3c (← requiredField fields "bus" (bufferedString format))
        (← optionField fields "pid" (bufferedString format) (bufferedIsNone format))
        (← optionField fields "address" (bufferedU8 format) (bufferedIsNone format))
        (← optionField fields "device_class" (bufferedString format) (bufferedIsNone format))
        (← optionField fields "instance" (bufferedU8 format) (bufferedIsNone format)))]

def Protocol.deserialize (node : ν) : Option Protocol := do
  let entries ← bufferedMap format node
  -- The tag is found wherever it stands, but only once.
  let tagged ← knownFields ["type"] entries
  let tag ← requiredField tagged "type" format.string
  let variant ← (Protocol.variants format).lookup tag
  variant entries

-- What a text such as `10s` stands for.
variable (parseDuration : String → Option Duration)

def readDuration (node : ν) : Option Duration := (format.string node).bind parseDuration

def WriteStep.deserialize (node : ν) : Option WriteStep := do
  let fields ← recordFields format ["address", "value", "command", "delay"] node
  return {
    address := ← optionField fields "address" (readU8 format) format.isNone
    value := ← optionField fields "value" (ByteValue.deserialize format) format.isNone
    command := ← optionField fields "command" (readBytes format) format.isNone
    delay := ← optionField fields "delay" (readDuration format parseDuration) format.isNone }

def CollectorConfig.deserialize (node : ν) : Option CollectorConfig := do
  let fields ← recordFields format ["name", "protocol", "slave_id", "polling_interval",
    "init_writes", "pre_poll", "labels", "metrics_files", "metrics"] node
  let step := WriteStep.deserialize format parseDuration
  return {
    name := ← requiredField fields "name" format.string
    protocol := ← requiredField fields "protocol" (Protocol.deserialize format)
    slaveId := ← optionField fields "slave_id" (readU8 format) format.isNone
    pollingInterval := ← fieldOr fields "polling_interval" (readDuration format parseDuration)
      (Duration.ofSecs 10)
    initWrites := ← fieldOr fields "init_writes" (readList format step) []
    prePoll := ← fieldOr fields "pre_poll" (readList format step) []
    labels := ← fieldOr fields "labels" (readStrings format) ∅
    metricsFiles := ← optionField fields "metrics_files" (readList format format.string)
      format.isNone
    metrics := ← fieldOr fields "metrics" (readList format (MetricConfig.deserialize format)) [] }

/-! ## Exporters -/

def LoggingConfig.deserialize (node : ν) : Option LoggingConfig := do
  let fields ← recordFields format ["level", "output", "syslog_facility"] node
  return {
    level := ← fieldOr fields "level" (readVariant format LogLevel.variants) .info
    output := ← fieldOr fields "output" (readVariant format LogOutput.variants) .syslog
    syslogFacility := ← fieldOr fields "syslog_facility"
      (readVariant format SyslogFacility.variants) .daemon }

def OtlpExporterConfig.deserialize (node : ν) : Option OtlpExporterConfig := do
  let fields ← recordFields format ["enabled", "endpoint", "timeout", "interval", "headers"] node
  return {
    enabled := ← fieldOr fields "enabled" format.bool false
    endpoint := ← optionField fields "endpoint" format.string format.isNone
    timeout := ← fieldOr fields "timeout" (readDuration format parseDuration) (Duration.ofSecs 10)
    interval := ← fieldOr fields "interval" (readDuration format parseDuration)
      (Duration.ofSecs 10)
    headers := ← fieldOr fields "headers" (readStrings format) ∅ }

def PrometheusExporterConfig.deserialize (node : ν) : Option PrometheusExporterConfig := do
  let fields ← recordFields format ["enabled", "listen", "path"] node
  return {
    enabled := ← fieldOr fields "enabled" format.bool false
    listen := ← fieldOr fields "listen" format.string "0.0.0.0:9090"
    path := ← fieldOr fields "path" format.string "/metrics" }

def MqttAuthConfig.deserialize (node : ν) : Option MqttAuthConfig := do
  let fields ← recordFields format ["username", "password"] node
  return {
    username := ← requiredField fields "username" format.string
    password := ← requiredField fields "password" format.string }

def MqttTlsConfig.deserialize (node : ν) : Option MqttTlsConfig := do
  let fields ← recordFields format ["ca_cert", "client_cert", "client_key", "insecure"] node
  return {
    caCert := ← optionField fields "ca_cert" format.string format.isNone
    clientCert := ← optionField fields "client_cert" format.string format.isNone
    clientKey := ← optionField fields "client_key" format.string format.isNone
    insecure := ← fieldOr fields "insecure" format.bool false }

def MqttExporterConfig.deserialize (node : ν) : Option MqttExporterConfig := do
  let fields ← recordFields format ["enabled", "endpoint", "client_id", "topic_prefix", "auth",
    "tls", "qos", "retain", "interval", "timeout"] node
  return {
    enabled := ← fieldOr fields "enabled" format.bool false
    endpoint := ← optionField fields "endpoint" format.string format.isNone
    clientId := ← optionField fields "client_id" format.string format.isNone
    topicPrefix := ← fieldOr fields "topic_prefix" format.string "modbus/metrics"
    auth := ← optionField fields "auth" (MqttAuthConfig.deserialize format) format.isNone
    tls := ← optionField fields "tls" (MqttTlsConfig.deserialize format) format.isNone
    qos := ← fieldOr fields "qos" (readU8 format) 1
    retain := ← fieldOr fields "retain" format.bool false
    interval := ← fieldOr fields "interval" (readDuration format parseDuration)
      (Duration.ofSecs 10)
    timeout := ← fieldOr fields "timeout" (readDuration format parseDuration)
      (Duration.ofSecs 5) }

def ExportersConfig.deserialize (node : ν) : Option ExportersConfig := do
  let fields ← recordFields format ["otlp", "prometheus", "mqtt"] node
  return {
    otlp := ← optionField fields "otlp" (OtlpExporterConfig.deserialize format parseDuration)
      format.isNone
    prometheus := ← optionField fields "prometheus" (PrometheusExporterConfig.deserialize format)
      format.isNone
    mqtt := ← optionField fields "mqtt" (MqttExporterConfig.deserialize format parseDuration)
      format.isNone }

def Config.deserialize (node : ν) : Option Config := do
  let fields ← recordFields format ["global_labels", "logging", "exporters", "collectors"] node
  return {
    globalLabels := ← fieldOr fields "global_labels" (readStrings format) ∅
    logging := ← fieldOr fields "logging" (LoggingConfig.deserialize format) {}
    exporters := ← requiredField fields "exporters"
      (ExportersConfig.deserialize format parseDuration)
    collectors := ← requiredField fields "collectors"
      (readList format (CollectorConfig.deserialize format parseDuration)) }

/-! ## Metrics files -/

def MetricDefaultsConfig.deserialize (node : ν) : Option MetricDefaultsConfig := do
  let fields ← recordFields format ["description", "type", "register_type", "data_type",
    "byte_order", "scale", "offset", "unit"] node
  return {
    description := ← optionField fields "description" format.string format.isNone
    metricType := ← optionField fields "type" (readVariant format MetricType.variants)
      format.isNone
    registerType := ← optionField fields "register_type"
      (readVariant format RegisterType.variants) format.isNone
    dataType := ← optionField fields "data_type" (readVariant format DataType.variants)
      format.isNone
    byteOrder := ← optionField fields "byte_order" (readVariant format ByteOrder.variants)
      format.isNone
    scale := ← optionField fields "scale" format.float format.isNone
    offset := ← optionField fields "offset" format.float format.isNone
    unit := ← optionField fields "unit" format.string format.isNone }

def RawMetricConfig.deserialize (node : ν) : Option RawMetricConfig := do
  let fields ← recordFields format ["name", "description", "type", "register_type", "address",
    "data_type", "byte_order", "scale", "offset", "unit", "command", "response_length",
    "response_offset"] node
  return {
    name := ← requiredField fields "name" format.string
    description := ← optionField fields "description" format.string format.isNone
    metricType := ← optionField fields "type" (readVariant format MetricType.variants)
      format.isNone
    registerType := ← optionField fields "register_type"
      (readVariant format RegisterType.variants) format.isNone
    address := ← optionField fields "address" (readU16 format) format.isNone
    dataType := ← optionField fields "data_type" (readVariant format DataType.variants)
      format.isNone
    byteOrder := ← optionField fields "byte_order" (readVariant format ByteOrder.variants)
      format.isNone
    scale := ← optionField fields "scale" format.float format.isNone
    offset := ← optionField fields "offset" format.float format.isNone
    unit := ← optionField fields "unit" format.string format.isNone
    command := ← fieldOr fields "command" (readBytes format) []
    responseLength := ← optionField fields "response_length" (readU16 format) format.isNone
    responseOffset := ← fieldOr fields "response_offset" (readU16 format) 0 }

def MetricsFileConfig.deserialize (node : ν) : Option MetricsFileConfig := do
  let fields ← recordFields format ["defaults", "metrics"] node
  return {
    defaults := ← optionField fields "defaults" (MetricDefaultsConfig.deserialize format)
      format.isNone
    metrics := ← requiredField fields "metrics"
      (readList format (RawMetricConfig.deserialize format)) }

end

/-! ## Texts -/

/-- The libraries that parse texts. What they say of a text that they refuse is up to them. -/
structure Parsers (ν : Type) where
  format : Format ν
  yaml : String → Option ν
  duration : String → Option Duration
  error : String → Error

namespace Parsers

variable {ν : Type} (parsers : Parsers ν)

def parse {α : Type} (deserialize : ν → Option α) (content : String) : Except Error α :=
  match (parsers.yaml content).bind deserialize with
  | some a => .ok a
  | none => .error (parsers.error content)

/-- A file system whose files are parsed. -/
def files (readToString : String → Except Error String) : Files where
  readToString := readToString
  parseConfig := parsers.parse (Config.deserialize parsers.format parsers.duration)
  parseMetricsFile := parsers.parse (MetricsFileConfig.deserialize parsers.format)

end Parsers

end BusExporter
