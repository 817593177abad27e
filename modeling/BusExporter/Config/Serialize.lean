import BusExporter.Config.Basic
import BusExporter.Foundation.Document

/-!
# Serialized configurations

The document that each part of the configuration is serialized to, with its fields in
the order of the source. A password is redacted. The headers of the OTLP exporter are
serialized as any other map of strings.
-/

namespace BusExporter

open Foundation

/-! ## Scalars -/

def serializeU8 (n : UInt8) : Document := .nat n.toNat

def serializeU16 (n : UInt16) : Document := .nat n.toNat

def serializeBytes (bytes : List UInt8) : Document := .seq (bytes.map serializeU8)

def serializeStrings (map : HashMap String) : Document :=
  .map (map.pairs.map fun (key, value) => (key, .string value))

/-- `serialize_redacted`. -/
def serializeRedacted (_value : String) : Document := .string "***"

/-- A field that is left out where it is not set. -/
def optionalField {α : Type} (key : String) (serialize : α → Document) :
    Option α → List (String × Document)
  | none => []
  | some value => [(key, serialize value)]

def LogLevel.serialize : LogLevel → Document
  | trace => .string "trace"
  | debug => .string "debug"
  | info => .string "info"
  | warn => .string "warn"
  | error => .string "error"

def LogOutput.serialize : LogOutput → Document
  | stdout => .string "stdout"
  | stderr => .string "stderr"
  | json => .string "json"
  | syslog => .string "syslog"

def SyslogFacility.serialize : SyslogFacility → Document
  | daemon => .string "daemon"
  | local0 => .string "local0"
  | local1 => .string "local1"
  | local2 => .string "local2"
  | local3 => .string "local3"
  | local4 => .string "local4"
  | local5 => .string "local5"
  | local6 => .string "local6"
  | local7 => .string "local7"

def Parity.serialize : Parity → Document
  | none => .string "none"
  | even => .string "even"
  | odd => .string "odd"

def MetricType.serialize : MetricType → Document
  | counter => .string "counter"
  | gauge => .string "gauge"

def RegisterType.serialize : RegisterType → Document
  | holding => .string "holding"
  | input => .string "input"
  | coil => .string "coil"
  | discrete => .string "discrete"

def DataType.serialize : DataType → Document
  | u8 => .string "u8"
  | u16 => .string "u16"
  | i16 => .string "i16"
  | u32 => .string "u32"
  | i32 => .string "i32"
  | f32 => .string "f32"
  | u64 => .string "u64"
  | i64 => .string "i64"
  | f64 => .string "f64"
  | bool => .string "bool"

def ByteOrder.serialize : ByteOrder → Document
  | bigEndian => .string "big_endian"
  | littleEndian => .string "little_endian"
  | midBigEndian => .string "mid_big_endian"
  | midLittleEndian => .string "mid_little_endian"

/-- The value itself, without a tag. -/
def ByteValue.serialize : ByteValue → Document
  | single byte => serializeU8 byte
  | multi bytes => serializeBytes bytes

/-! ## Collectors -/

def MetricConfig.serialize (m : MetricConfig) : Document :=
  .map <| [("name", .string m.name), ("description", .string m.description),
      ("type", m.metricType.serialize)] ++
    optionalField "register_type" RegisterType.serialize m.registerType ++
    optionalField "address" serializeU16 m.address ++
    [("data_type", m.dataType.serialize), ("byte_order", m.byteOrder.serialize),
      ("scale", .float m.scale), ("offset", .float m.offset), ("unit", .string m.unit),
      ("command", serializeBytes m.command)] ++
    optionalField "response_length" serializeU16 m.responseLength ++
    [("response_offset", serializeU16 m.responseOffset)]

/-- The variant is tagged by the field `type`. -/
def Protocol.serialize (protocol : Protocol) : Document :=
  .map <| ("type", .string protocol.toString) ::
    match protocol with
    | modbusTcp endpoint => [("endpoint", .string endpoint)]
    | modbusRtu device bps dataBits stopBits parity =>
      [("device", .string device), ("bps", .nat bps.toNat), ("data_bits", serializeU8 dataBits),
        ("stop_bits", serializeU8 stopBits), ("parity", parity.serialize)]
    | i2c bus address => [("bus", .string bus), ("address", serializeU8 address)]
    | spi device speedHz mode bitsPerWord =>
      [("device", .string device), ("speed_hz", .nat speedHz.toNat), ("mode", serializeU8 mode),
        ("bits_per_word", serializeU8 bitsPerWord)]
    | i3c bus pid address deviceClass instanceIndex =>
      [("bus", .string bus)] ++ optionalField "pid" .string pid ++
        optionalField "address" serializeU8 address ++
        optionalField "device_class" .string deviceClass ++
        optionalField "instance" serializeU8 instanceIndex

section

-- How a duration is written, such as `10s`.
variable (formatDuration : Duration → String)

def serializeDuration (d : Duration) : Document := .string (formatDuration d)

def WriteStep.serialize (step : WriteStep) : Document :=
  .map <| optionalField "address" serializeU8 step.address ++
    optionalField "value" ByteValue.serialize step.value ++
    optionalField "command" serializeBytes step.command ++
    optionalField "delay" (serializeDuration formatDuration) step.delay

/-- The metrics files are left out: their metrics are among the metrics. -/
def CollectorConfig.serialize (c : CollectorConfig) : Document :=
  .map <| [("name", .string c.name), ("protocol", c.protocol.serialize)] ++
    optionalField "slave_id" serializeU8 c.slaveId ++
    [("polling_interval", serializeDuration formatDuration c.pollingInterval),
      ("init_writes", .seq (c.initWrites.map (·.serialize formatDuration))),
      ("pre_poll", .seq (c.prePoll.map (·.serialize formatDuration))),
      ("labels", serializeStrings c.labels),
      ("metrics", .seq (c.metrics.map MetricConfig.serialize))]

/-! ## Exporters -/

def LoggingConfig.serialize (logging : LoggingConfig) : Document :=
  .map [("level", logging.level.serialize), ("output", logging.output.serialize),
    ("syslog_facility", logging.syslogFacility.serialize)]

def OtlpExporterConfig.serialize (otlp : OtlpExporterConfig) : Document :=
  .map <| [("enabled", .bool otlp.enabled)] ++ optionalField "endpoint" .string otlp.endpoint ++
    [("timeout", serializeDuration formatDuration otlp.timeout),
      ("interval", serializeDuration formatDuration otlp.interval),
      ("headers", serializeStrings otlp.headers)]

def PrometheusExporterConfig.serialize (prometheus : PrometheusExporterConfig) : Document :=
  .map [("enabled", .bool prometheus.enabled), ("listen", .string prometheus.listen),
    ("path", .string prometheus.path)]

def MqttAuthConfig.serialize (auth : MqttAuthConfig) : Document :=
  .map [("username", .string auth.username), ("password", serializeRedacted auth.password)]

def MqttTlsConfig.serialize (tls : MqttTlsConfig) : Document :=
  .map <| optionalField "ca_cert" .string tls.caCert ++
    optionalField "client_cert" .string tls.clientCert ++
    optionalField "client_key" .string tls.clientKey ++ [("insecure", .bool tls.insecure)]

def MqttExporterConfig.serialize (mqtt : MqttExporterConfig) : Document :=
  .map <| [("enabled", .bool mqtt.enabled)] ++ optionalField "endpoint" .string mqtt.endpoint ++
    optionalField "client_id" .string mqtt.clientId ++
    [("topic_prefix", .string mqtt.topicPrefix)] ++
    optionalField "auth" MqttAuthConfig.serialize mqtt.auth ++
    optionalField "tls" MqttTlsConfig.serialize mqtt.tls ++
    [("qos", serializeU8 mqtt.qos), ("retain", .bool mqtt.retain),
      ("interval", serializeDuration formatDuration mqtt.interval),
      ("timeout", serializeDuration formatDuration mqtt.timeout)]

def ExportersConfig.serialize (exporters : ExportersConfig) : Document :=
  .map <| optionalField "otlp" (OtlpExporterConfig.serialize formatDuration) exporters.otlp ++
    optionalField "prometheus" PrometheusExporterConfig.serialize exporters.prometheus ++
    optionalField "mqtt" (MqttExporterConfig.serialize formatDuration) exporters.mqtt

def Config.serialize (config : Config) : Document :=
  .map [("global_labels", serializeStrings config.globalLabels),
    ("logging", config.logging.serialize),
    ("exporters", config.exporters.serialize formatDuration),
    ("collectors", .seq (config.collectors.map (·.serialize formatDuration)))]

/-! ## Credentials -/

/-- The same but for the values of the headers. -/
structure OtlpExporterConfig.SameButHeaders (otlp otlp' : OtlpExporterConfig) : Prop where
  names : otlp.headers.keys = otlp'.headers.keys
  rest : { otlp with headers := otlp'.headers } = otlp'

def MqttExporterConfig.withoutPassword (mqtt : MqttExporterConfig) : MqttExporterConfig :=
  { mqtt with auth := mqtt.auth.map fun auth => { auth with password := "" } }

/-- The same but for the MQTT password and the values of the OTLP headers. Maps have to be iterated
alike to be the same here; equal maps of two processes may not be. -/
structure Config.SameButCredentials (config config' : Config) : Prop where
  otlp : Option.Rel OtlpExporterConfig.SameButHeaders config.exporters.otlp config'.exporters.otlp
  mqtt : config.exporters.mqtt.map (·.withoutPassword) =
    config'.exporters.mqtt.map (·.withoutPassword)
  rest : { config with
    exporters := { config.exporters with
      otlp := config'.exporters.otlp
      mqtt := config'.exporters.mqtt } } = config'

def Config.headers (config : Config) : Option (HashMap String) :=
  config.exporters.otlp.map (·.headers)

@[simp]
theorem serializeStrings_inj {map map' : HashMap String} :
    serializeStrings map = serializeStrings map' ↔ map = map' := by
  refine ⟨fun same => ?_, fun same => same ▸ rfl⟩
  rw [serializeStrings, serializeStrings, Document.map.injEq, HashMap.pairs, HashMap.pairs,
    List.map_map, List.map_map] at same
  refine AList.ext (List.map_injective_iff.mpr ?_ same)
  rintro ⟨key, value⟩ ⟨key', value'⟩ entries
  simp only [Function.comp_apply, Prod.mk.injEq, Document.string.injEq] at entries
  rw [entries.1, entries.2]

/-- Maps of strings with the same keys are serialized to alike documents. -/
theorem alike_serializeStrings {map map' : HashMap String} (keys : map.keys = map'.keys) :
    (serializeStrings map).Alike (serializeStrings map') := by
  rw [← HashMap.map_fst_pairs, ← HashMap.map_fst_pairs] at keys
  rw [serializeStrings, serializeStrings]
  generalize map.pairs = pairs, map'.pairs = pairs' at keys
  refine .map ?_
  induction pairs generalizing pairs' with
  | nil =>
    rw [List.map_nil, eq_comm, List.map_eq_nil_iff] at keys
    rw [keys]
    exact .nil
  | cons pair pairs ih =>
    cases pairs' with
    | nil => simp at keys
    | cons pair' pairs' =>
      obtain ⟨key, value⟩ := pair
      obtain ⟨key', value'⟩ := pair'
      rw [List.map_cons, List.map_cons, List.cons.injEq] at keys
      obtain ⟨rfl, rest⟩ := keys
      exact .cons key (.string value value') (ih pairs' rest)

/-- Whatever the password is, it is serialized in the same way. -/
theorem MqttExporterConfig.serialize_withoutPassword (mqtt : MqttExporterConfig) :
    mqtt.withoutPassword.serialize formatDuration = mqtt.serialize formatDuration := by
  obtain ⟨enabled, endpoint, clientId, topicPrefix, auth, tls, qos, retain, interval, timeout⟩ :=
    mqtt
  cases auth <;> rfl

theorem optionalField_mqtt (key : String) (mqtt : Option MqttExporterConfig) :
    optionalField key (MqttExporterConfig.serialize formatDuration) (mqtt.map (·.withoutPassword)) =
      optionalField key (MqttExporterConfig.serialize formatDuration) mqtt := by
  cases mqtt with
  | none => rfl
  | some mqtt => simp [optionalField, mqtt.serialize_withoutPassword]

theorem OtlpExporterConfig.SameButHeaders.alike {otlp otlp' : OtlpExporterConfig}
    (same : otlp.SameButHeaders otlp') :
    (otlp.serialize formatDuration).Alike (otlp'.serialize formatDuration) := by
  rw [← same.rest, OtlpExporterConfig.serialize, OtlpExporterConfig.serialize]
  refine .map ((Document.AlikeEntries.refl _).append ?_)
  exact .cons _ (.refl _) (.cons _ (.refl _) (.cons _ (alike_serializeStrings same.names) .nil))

theorem OtlpExporterConfig.SameButHeaders.serialize_eq_iff {otlp otlp' : OtlpExporterConfig}
    (same : otlp.SameButHeaders otlp') :
    otlp.serialize formatDuration = otlp'.serialize formatDuration ↔
      otlp.headers = otlp'.headers := by
  rw [← same.rest, OtlpExporterConfig.serialize, OtlpExporterConfig.serialize]
  simp

variable {config config' : Config}

/-- Serialized configurations that are the same but for credentials differ in the entry of the
OTLP exporter only. -/
theorem Config.SameButCredentials.serialize (same : config.SameButCredentials config') :
    ∃ labels logging exporters collectors, ∀ c ∈ [config, config'],
      c.serialize formatDuration =
        .map [("global_labels", labels), ("logging", logging),
          ("exporters", .map (optionalField "otlp" (OtlpExporterConfig.serialize formatDuration)
            c.exporters.otlp ++ exporters)),
          ("collectors", .seq collectors)] := by
  obtain ⟨labels, logging, ⟨otlp, prometheus, mqtt⟩, collectors⟩ := config
  obtain ⟨labels', logging', ⟨otlp', prometheus', mqtt'⟩, collectors'⟩ := config'
  have rest := same.rest
  have mqtts := same.mqtt
  simp only [Config.mk.injEq, ExportersConfig.mk.injEq, true_and, and_true] at rest mqtts
  obtain ⟨rfl, rfl, rfl, rfl⟩ := rest
  refine ⟨serializeStrings labels, logging.serialize,
    optionalField "prometheus" PrometheusExporterConfig.serialize prometheus ++
      optionalField "mqtt" (MqttExporterConfig.serialize formatDuration)
        (mqtt.map (·.withoutPassword)),
    collectors.map (·.serialize formatDuration), ?_⟩
  simp only [List.forall_mem_cons, List.not_mem_nil, false_imp_iff, implies_true, and_true,
    Config.serialize, ExportersConfig.serialize, List.append_assoc]
  refine ⟨?_, ?_⟩
  · rw [optionalField_mqtt]
  · rw [mqtts, optionalField_mqtt]

/-- Configurations that are the same but for credentials are serialized to alike documents. -/
theorem Config.SameButCredentials.alike (same : config.SameButCredentials config') :
    (config.serialize formatDuration).Alike (config'.serialize formatDuration) := by
  obtain ⟨labels, logging, exporters, collectors, documents⟩ := same.serialize formatDuration
  rw [documents config (by simp), documents config' (by simp)]
  refine .map (.cons _ (.refl _) (.cons _ (.refl _) (.cons _ (.map ?_) (.refl _))))
  refine .append ?_ (.refl _)
  have otlp := same.otlp
  generalize config.exporters.otlp = first, config'.exporters.otlp = second at otlp
  cases otlp with
  | none => exact .nil
  | some sameOtlp => exact .cons _ (sameOtlp.alike formatDuration) .nil

/-- They are serialized to the same document only if their headers have the same values. -/
theorem Config.SameButCredentials.serialize_eq_iff (same : config.SameButCredentials config') :
    config.serialize formatDuration = config'.serialize formatDuration ↔
      config.headers = config'.headers := by
  obtain ⟨labels, logging, exporters, collectors, documents⟩ := same.serialize formatDuration
  rw [documents config (by simp), documents config' (by simp), Config.headers, Config.headers]
  have otlp := same.otlp
  generalize config.exporters.otlp = first, config'.exporters.otlp = second at otlp
  cases otlp with
  | none => simp
  | some sameOtlp => simp [optionalField, sameOtlp.serialize_eq_iff formatDuration]

/-- A metric ends with its response offset. -/
theorem MetricConfig.endsPlain_serialize (m : MetricConfig) : m.serialize.endsPlain = true :=
  Document.entriesEndPlain_append _ (by simp)

theorem CollectorConfig.endsPlain_serialize (c : CollectorConfig) :
    (c.serialize formatDuration).endsPlain = true := by
  refine (Document.entriesEndPlain_append _ (by simp)).trans ?_
  refine Document.itemsEndPlain_of_forall fun item mem => ?_
  obtain ⟨m, -, rfl⟩ := List.mem_map.mp mem
  exact m.endsPlain_serialize

/-- A configuration ends with its metrics, and never with a string. -/
theorem Config.endsPlain_serialize (config : Config) :
    (config.serialize formatDuration).endsPlain = true := by
  refine Document.itemsEndPlain_of_forall fun item mem => ?_
  obtain ⟨c, -, rfl⟩ := List.mem_map.mp mem
  exact c.endsPlain_serialize formatDuration

end

end BusExporter
