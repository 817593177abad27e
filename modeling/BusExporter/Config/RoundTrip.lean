import BusExporter.Config.Deserialize
import BusExporter.Config.Serialize

/-!
# Reading back what was written

A configuration is read back from its document as it was, but for the password, which was
redacted, and the names of the metrics files, which were left out. Every part is: each
field is looked up under its key and read as it was written, and what was left out is
read as what it had been.
-/

namespace BusExporter

open Foundation

/-! ## Scalars -/

section Scalars

variable {ν : Type} {format : Format ν} {node : ν}

theorem boundedU8_toNat (n : UInt8) : boundedU8 n.toNat = some n := by
  rw [boundedU8, if_pos n.toNat_lt, UInt8.ofNat_toNat]

theorem boundedU16_toNat (n : UInt16) : boundedU16 n.toNat = some n := by
  rw [boundedU16, if_pos n.toNat_lt, UInt16.ofNat_toNat]

theorem boundedU32_toNat (n : UInt32) : boundedU32 n.toNat = some n := by
  rw [boundedU32, if_pos n.toNat_lt, UInt32.ofNat_toNat]

theorem string_of_reads {s : String} (reads : format.Reads node (.string s)) :
    format.string node = some s := by
  cases reads
  assumption

theorem bool_of_reads {b : Bool} (reads : format.Reads node (.bool b)) :
    format.bool node = some b := by
  cases reads
  assumption

theorem float_of_reads {x : Float} (reads : format.Reads node (.float x)) :
    format.float node = some x := by
  cases reads
  assumption

theorem readU8_of_reads {n : UInt8} (reads : format.Reads node (serializeU8 n)) :
    readU8 format node = some n := by
  cases reads with
  | nat any isNone unsigned => rw [readU8, unsigned, Option.bind_some, boundedU8_toNat]

theorem readU16_of_reads {n : UInt16} (reads : format.Reads node (serializeU16 n)) :
    readU16 format node = some n := by
  cases reads with
  | nat any isNone unsigned => rw [readU16, unsigned, Option.bind_some, boundedU16_toNat]

/-- A list is read back if each of its values is. -/
theorem readList_of_reads {α β : Type} {write : β → Document} {read : ν → Option α} {f : β → α}
    {values : List β} (reads : format.Reads node (.seq (values.map write)))
    (each : ∀ value ∈ values, ∀ node, format.Reads node (write value) →
      read node = some (f value)) : readList format read node = some (values.map f) := by
  cases reads with
  | seq any isNone seq items => rw [readList, seq, Option.bind_some, items.mapM each]

theorem readList_back {α : Type} {write : α → Document} {read : ν → Option α} {values : List α}
    (each : ∀ value ∈ values, ∀ node, format.Reads node (write value) → read node = some value)
    (reads : format.Reads node (.seq (values.map write))) :
    readList format read node = some values := by
  have back := readList_of_reads (f := id) reads each
  rwa [List.map_id] at back

theorem readBytes_of_reads {bytes : List UInt8} (reads : format.Reads node (serializeBytes bytes)) :
    readBytes format node = some bytes := by
  have read : readList format (readU8 format) node = some bytes :=
    readList_back (fun _ _ _ => readU8_of_reads) reads
  exact read

theorem mapM_of_readsEntries {pairs : List (String × String)} {entries : List (String × ν)}
    (reads : format.ReadsEntries entries (pairs.map fun (key, value) => (key, .string value))) :
    entries.mapM (fun entry => (format.string entry.2).map (entry.1, ·)) = some pairs := by
  induction pairs generalizing entries with
  | nil =>
    cases reads
    rfl
  | cons pair pairs ih =>
    cases reads with
    | cons key readsNode readsRest =>
      rw [List.mapM_cons, string_of_reads readsNode, ih readsRest]
      rfl

theorem readStrings_of_reads {map : HashMap String}
    (reads : format.Reads node (serializeStrings map)) : readStrings format node = some map := by
  cases reads with
  | map any isNone entriesRead readsEntries =>
    rw [readStrings, entriesRead, Option.bind_eq_bind, Option.bind_some,
      mapM_of_readsEntries readsEntries]
    exact congrArg some (HashMap.listed_pairs map)

/-- A variant is read back from its name. -/
theorem readVariant_of_reads {α : Type} {variants : List (String × α)} {name : String} {value : α}
    (named : variants.lookup name = some value) (reads : format.Reads node (.string name)) :
    readVariant format variants node = some value := by
  rw [readVariant, string_of_reads reads, Option.bind_some, named]

theorem LogLevel.deserialize_serialize {level : LogLevel}
    (reads : format.Reads node level.serialize) :
    readVariant format LogLevel.variants node = some level := by
  cases level <;> exact readVariant_of_reads rfl reads

theorem LogOutput.deserialize_serialize {output : LogOutput}
    (reads : format.Reads node output.serialize) :
    readVariant format LogOutput.variants node = some output := by
  cases output <;> exact readVariant_of_reads rfl reads

theorem SyslogFacility.deserialize_serialize {facility : SyslogFacility}
    (reads : format.Reads node facility.serialize) :
    readVariant format SyslogFacility.variants node = some facility := by
  cases facility <;> exact readVariant_of_reads rfl reads

theorem MetricType.deserialize_serialize {metricType : MetricType}
    (reads : format.Reads node metricType.serialize) :
    readVariant format MetricType.variants node = some metricType := by
  cases metricType <;> exact readVariant_of_reads rfl reads

theorem RegisterType.deserialize_serialize {registerType : RegisterType}
    (reads : format.Reads node registerType.serialize) :
    readVariant format RegisterType.variants node = some registerType := by
  cases registerType <;> exact readVariant_of_reads rfl reads

theorem DataType.deserialize_serialize {dataType : DataType}
    (reads : format.Reads node dataType.serialize) :
    readVariant format DataType.variants node = some dataType := by
  cases dataType <;> exact readVariant_of_reads rfl reads

theorem ByteOrder.deserialize_serialize {byteOrder : ByteOrder}
    (reads : format.Reads node byteOrder.serialize) :
    readVariant format ByteOrder.variants node = some byteOrder := by
  cases byteOrder <;> exact readVariant_of_reads rfl reads

theorem ByteValue.deserialize_serialize {value : ByteValue}
    (reads : format.Reads node value.serialize) :
    ByteValue.deserialize format node = some value := by
  unfold ByteValue.deserialize
  cases value with
  | single byte =>
    cases reads with
    | nat any isNone unsigned => simp only [any, boundedU8_toNat, Option.map_some]
  | multi bytes =>
    cases reads with
    | seq any isNone seq items =>
      have each : _ = some (bytes.map id) := items.mapM fun _ _ _ => readU8_of_reads
      simp only [any, each, List.map_id, Option.map_some]

/-! ## Buffered scalars -/

theorem bufferedString_of_reads {s : String} (reads : format.Reads node (.string s)) :
    bufferedString format node = some s := by
  cases reads with
  | string any isNone string => rw [bufferedString, any]

theorem bufferedU8_of_reads {n : UInt8} (reads : format.Reads node (serializeU8 n)) :
    bufferedU8 format node = some n := by
  cases reads with
  | nat any isNone unsigned =>
    rw [bufferedU8, bufferedUnsigned, any, Option.bind_some, boundedU8_toNat]

theorem bufferedU32_of_reads {n : UInt32} (reads : format.Reads node (.nat n.toNat)) :
    bufferedU32 format node = some n := by
  cases reads with
  | nat any isNone unsigned =>
    rw [bufferedU32, bufferedUnsigned, any, Option.bind_some, boundedU32_toNat]

end Scalars

/-! ## Records -/

section Fields

variable {α : Type} (key : String) (write : α → Document) (set : Option α)

@[simp]
theorem field_optionalField (other : String) :
    Document.field (optionalField key write set) other =
      if other = key then set.map write else none := by
  cases set <;> simp [optionalField]

/-- The key of an optional field may be left out. -/
theorem keys_optionalField {documents : List (String × Document)} {known : List String}
    (rest : (documents.map (·.1)).Sublist known) :
    ((optionalField key write set ++ documents).map (·.1)).Sublist (key :: known) := by
  cases set with
  | none => exact rest.cons key
  | some value => exact rest.cons_cons key

theorem keys_lastOptional :
    ((optionalField key write set).map (·.1)).Sublist [key] := by
  cases set with
  | none => exact List.nil_sublist _
  | some value => exact .refl _

theorem keys_field {document : Document} {documents : List (String × Document)}
    {known : List String} (rest : (documents.map (·.1)).Sublist known) :
    (((key, document) :: documents).map (·.1)).Sublist (key :: known) :=
  rest.cons_cons key

end Fields

section Records

variable {ν : Type} {format : Format ν} {node : ν}

/-- What is written of a record has known fields, each once, and they are read as written. -/
theorem recordFields_of_reads {documents : List (String × Document)}
    (reads : format.Reads node (.map documents)) (known : List String) (distinct : known.Nodup)
    (sublist : (documents.map (·.1)).Sublist known) :
    ∃ fields, recordFields format known node = some fields ∧
      format.ReadsEntries fields documents := by
  cases reads with
  | map any isNone entriesRead entries =>
    refine ⟨_, ?_, entries⟩
    rw [recordFields, entriesRead, Option.bind_some, entries.strictFields distinct sublist]

theorem MetricConfig.deserialize_serialize {m : MetricConfig}
    (reads : format.Reads node m.serialize) : MetricConfig.deserialize format node = some m := by
  obtain ⟨fields, found, entries⟩ := recordFields_of_reads reads
    ["name", "description", "type", "register_type", "address", "data_type", "byte_order", "scale",
      "offset", "unit", "command", "response_length", "response_offset"] (by decide) (by
      simp only [List.append_assoc, List.cons_append, List.nil_append]
      apply_rules [keys_optionalField, keys_field, List.Sublist.refl])
  rw [MetricConfig.deserialize, found]
  refine entries.required m.name (by simp) (fun _ => string_of_reads) ?_
  refine entries.orDefault m.description (by simp) (fun _ => string_of_reads) ?_
  refine entries.required m.metricType (by simp) (fun _ => MetricType.deserialize_serialize) ?_
  refine entries.optional m.registerType Format.Reads.present (by simp)
    (fun _ _ => RegisterType.deserialize_serialize) ?_
  refine entries.optional m.address Format.Reads.present (by simp) (fun _ _ => readU16_of_reads) ?_
  refine entries.required m.dataType (by simp) (fun _ => DataType.deserialize_serialize) ?_
  refine entries.orDefault m.byteOrder (by simp) (fun _ => ByteOrder.deserialize_serialize) ?_
  refine entries.orDefault m.scale (by simp) (fun _ => float_of_reads) ?_
  refine entries.orDefault m.offset (by simp) (fun _ => float_of_reads) ?_
  refine entries.orDefault m.unit (by simp) (fun _ => string_of_reads) ?_
  refine entries.orDefault m.command (by simp) (fun _ => readBytes_of_reads) ?_
  refine entries.optional m.responseLength Format.Reads.present (by simp)
    (fun _ _ => readU16_of_reads) ?_
  refine entries.orDefault m.responseOffset (by simp) (fun _ => readU16_of_reads) ?_
  rfl

theorem bufferedIsNone_of_reads (node : ν) (document : Document)
    (reads : format.Reads node document) : bufferedIsNone format node = false := by
  cases reads <;> simp only [bufferedIsNone, *]

theorem bufferedParity_of_reads {parity : Parity} (reads : format.Reads node parity.serialize) :
    (bufferedString format node).bind (List.lookup · Parity.variants) = some parity := by
  cases parity <;> exact congrArg (Option.bind · _) (bufferedString_of_reads reads)

/-- A protocol is read by the variant that its tag names. -/
theorem Protocol.deserialize_of_reads {tag : String} {documents : List (String × Document)}
    (reads : format.Reads node (.map (("type", .string tag) :: documents))) (known : List String)
    (distinct : ("type" :: known).Nodup) (sublist : (documents.map (·.1)).Sublist known)
    {variant : List (String × ν) → Option Protocol}
    (isVariant : (Protocol.variants format).lookup tag = some variant) {protocol : Protocol}
    (isRead : ∀ fields entries, knownFields known entries = some fields →
      format.ReadsEntries fields
        (Document.restricted known (("type", .string tag) :: documents)) →
      variant entries = some protocol) : Protocol.deserialize format node = some protocol := by
  cases reads with
  | map any isNone entriesRead entries =>
    rename_i buffered
    have keys : ((("type", Document.string tag) :: documents).map (·.1)).Nodup :=
      distinct.sublist (sublist.cons_cons "type")
    obtain ⟨tagged, isTagged, tagEntries⟩ := entries.knownFields ["type"] keys
    obtain ⟨fields, areFields, fieldEntries⟩ := entries.knownFields known keys
    simp only [Protocol.deserialize, bufferedMap, any, isTagged, Option.bind_eq_bind,
      Option.bind_some]
    refine tagEntries.required tag (by simp) (fun _ => string_of_reads) ?_
    rw [isVariant, Option.bind_some]
    exact isRead fields buffered areFields fieldEntries

theorem Protocol.deserialize_serialize {protocol : Protocol}
    (reads : format.Reads node protocol.serialize) :
    Protocol.deserialize format node = some protocol := by
  cases protocol with
  | modbusTcp endpoint =>
    refine Protocol.deserialize_of_reads reads ["endpoint"] (by decide) (.refl _) rfl
      fun fields entries areFields read => ?_
    rw [areFields]
    refine read.required endpoint (by simp) (fun _ => bufferedString_of_reads) ?_
    rfl
  | modbusRtu device bps dataBits stopBits parity =>
    refine Protocol.deserialize_of_reads reads
      ["device", "bps", "data_bits", "stop_bits", "parity"] (by decide) (.refl _) rfl
      fun fields entries areFields read => ?_
    rw [areFields]
    refine read.required device (by simp) (fun _ => bufferedString_of_reads) ?_
    refine read.orDefault bps (by simp) (fun _ => bufferedU32_of_reads) ?_
    refine read.orDefault dataBits (by simp) (fun _ => bufferedU8_of_reads) ?_
    refine read.orDefault stopBits (by simp) (fun _ => bufferedU8_of_reads) ?_
    refine read.orDefault parity (by simp) (fun _ => bufferedParity_of_reads) ?_
    rfl
  | i2c bus address =>
    refine Protocol.deserialize_of_reads reads ["bus", "address"] (by decide) (.refl _) rfl
      fun fields entries areFields read => ?_
    rw [areFields]
    refine read.required bus (by simp) (fun _ => bufferedString_of_reads) ?_
    refine read.required address (by simp) (fun _ => bufferedU8_of_reads) ?_
    rfl
  | spi device speedHz mode bitsPerWord =>
    refine Protocol.deserialize_of_reads reads ["device", "speed_hz", "mode", "bits_per_word"]
      (by decide) (.refl _) rfl fun fields entries areFields read => ?_
    rw [areFields]
    refine read.required device (by simp) (fun _ => bufferedString_of_reads) ?_
    refine read.orDefault speedHz (by simp) (fun _ => bufferedU32_of_reads) ?_
    refine read.orDefault mode (by simp) (fun _ => bufferedU8_of_reads) ?_
    refine read.orDefault bitsPerWord (by simp) (fun _ => bufferedU8_of_reads) ?_
    rfl
  | i3c bus pid address deviceClass instanceIndex =>
    have keys : (([("bus", Document.string bus)] ++ optionalField "pid" .string pid ++
        optionalField "address" serializeU8 address ++
        optionalField "device_class" .string deviceClass ++
        optionalField "instance" serializeU8 instanceIndex).map (·.1)).Sublist
          ["bus", "pid", "address", "device_class", "instance"] := by
      simp only [List.append_assoc, List.cons_append, List.nil_append]
      apply_rules [keys_optionalField, keys_field, keys_lastOptional]
    refine Protocol.deserialize_of_reads reads _ (by decide) keys rfl
      fun fields entries areFields read => ?_
    rw [areFields]
    refine read.required bus (by simp) (fun _ => bufferedString_of_reads) ?_
    refine read.optional pid bufferedIsNone_of_reads (by simp)
      (fun _ _ => bufferedString_of_reads) ?_
    refine read.optional address bufferedIsNone_of_reads (by simp)
      (fun _ _ => bufferedU8_of_reads) ?_
    refine read.optional deviceClass bufferedIsNone_of_reads (by simp)
      (fun _ _ => bufferedString_of_reads) ?_
    refine read.optional instanceIndex bufferedIsNone_of_reads (by simp)
      (fun _ _ => bufferedU8_of_reads) ?_
    rfl

end Records

section Durations

variable {ν : Type} {format : Format ν} {node : ν} {formatDuration : Duration → String}
  {parseDuration : String → Option Duration}
  (parses : ∀ d, parseDuration (formatDuration d) = some d)
include parses

theorem readDuration_of_reads {d : Duration}
    (reads : format.Reads node (serializeDuration formatDuration d)) :
    readDuration format parseDuration node = some d := by
  rw [readDuration, string_of_reads reads, Option.bind_some, parses]

theorem WriteStep.deserialize_serialize {step : WriteStep}
    (reads : format.Reads node (step.serialize formatDuration)) :
    WriteStep.deserialize format parseDuration node = some step := by
  obtain ⟨fields, found, entries⟩ := recordFields_of_reads reads
    ["address", "value", "command", "delay"] (by decide) (by
      simp only [List.append_assoc]
      apply_rules [keys_optionalField, keys_lastOptional])
  rw [WriteStep.deserialize, found]
  refine entries.optional step.address Format.Reads.present (by simp)
    (fun _ _ => readU8_of_reads) ?_
  refine entries.optional step.value Format.Reads.present (by simp)
    (fun _ _ => ByteValue.deserialize_serialize) ?_
  refine entries.optional step.command Format.Reads.present (by simp)
    (fun _ _ => readBytes_of_reads) ?_
  refine entries.optional step.delay Format.Reads.present (by simp)
    (fun _ _ => readDuration_of_reads parses) ?_
  rfl

/-- The collector without the names of its metrics files. -/
def CollectorConfig.inlined (c : CollectorConfig) : CollectorConfig :=
  { c with metricsFiles := none }

theorem CollectorConfig.deserialize_serialize {c : CollectorConfig}
    (reads : format.Reads node (c.serialize formatDuration)) :
    CollectorConfig.deserialize format parseDuration node = some c.inlined := by
  obtain ⟨fields, found, entries⟩ := recordFields_of_reads reads
    ["name", "protocol", "slave_id", "polling_interval", "init_writes", "pre_poll", "labels",
      "metrics_files", "metrics"] (by decide) (by
      simp only [List.cons_append, List.nil_append]
      -- The names of the metrics files are never written.
      exact keys_field _ (keys_field _ (keys_optionalField _ _ _ (keys_field _ (keys_field _
        (keys_field _ (keys_field _ (.cons _ (.refl _)))))))))
  rw [CollectorConfig.deserialize, found]
  refine entries.required c.name (by simp) (fun _ => string_of_reads) ?_
  refine entries.required c.protocol (by simp) (fun _ => Protocol.deserialize_serialize) ?_
  refine entries.optional c.slaveId Format.Reads.present (by simp) (fun _ _ => readU8_of_reads) ?_
  refine entries.orDefault c.pollingInterval (by simp) (fun _ => readDuration_of_reads parses) ?_
  refine entries.orDefault c.initWrites (by simp) (fun _ => readList_back fun _ _ _ =>
    WriteStep.deserialize_serialize parses) ?_
  refine entries.orDefault c.prePoll (by simp) (fun _ => readList_back fun _ _ _ =>
    WriteStep.deserialize_serialize parses) ?_
  refine entries.orDefault c.labels (by simp) (fun _ => readStrings_of_reads) ?_
  refine entries.absent (by simp) ?_
  refine entries.orDefault c.metrics (by simp) (fun _ => readList_back fun _ _ _ =>
    MetricConfig.deserialize_serialize) ?_
  rfl

/-! ## Exporters -/

omit parses in
theorem LoggingConfig.deserialize_serialize {logging : LoggingConfig}
    (reads : format.Reads node logging.serialize) :
    LoggingConfig.deserialize format node = some logging := by
  obtain ⟨fields, found, entries⟩ := recordFields_of_reads reads
    ["level", "output", "syslog_facility"] (by decide) (.refl _)
  rw [LoggingConfig.deserialize, found]
  refine entries.orDefault logging.level (by simp) (fun _ => LogLevel.deserialize_serialize) ?_
  refine entries.orDefault logging.output (by simp) (fun _ => LogOutput.deserialize_serialize) ?_
  refine entries.orDefault logging.syslogFacility (by simp)
    (fun _ => SyslogFacility.deserialize_serialize) ?_
  rfl

theorem OtlpExporterConfig.deserialize_serialize {otlp : OtlpExporterConfig}
    (reads : format.Reads node (otlp.serialize formatDuration)) :
    OtlpExporterConfig.deserialize format parseDuration node = some otlp := by
  obtain ⟨fields, found, entries⟩ := recordFields_of_reads reads
    ["enabled", "endpoint", "timeout", "interval", "headers"] (by decide)
    (keys_field _ (keys_optionalField _ _ _ (.refl _)))
  rw [OtlpExporterConfig.deserialize, found]
  refine entries.orDefault otlp.enabled (by simp) (fun _ => bool_of_reads) ?_
  refine entries.optional otlp.endpoint Format.Reads.present (by simp)
    (fun _ _ => string_of_reads) ?_
  refine entries.orDefault otlp.timeout (by simp) (fun _ => readDuration_of_reads parses) ?_
  refine entries.orDefault otlp.interval (by simp) (fun _ => readDuration_of_reads parses) ?_
  refine entries.orDefault otlp.headers (by simp) (fun _ => readStrings_of_reads) ?_
  rfl

omit parses in
theorem PrometheusExporterConfig.deserialize_serialize {prometheus : PrometheusExporterConfig}
    (reads : format.Reads node prometheus.serialize) :
    PrometheusExporterConfig.deserialize format node = some prometheus := by
  obtain ⟨fields, found, entries⟩ := recordFields_of_reads reads
    ["enabled", "listen", "path"] (by decide) (.refl _)
  rw [PrometheusExporterConfig.deserialize, found]
  refine entries.orDefault prometheus.enabled (by simp) (fun _ => bool_of_reads) ?_
  refine entries.orDefault prometheus.listen (by simp) (fun _ => string_of_reads) ?_
  refine entries.orDefault prometheus.path (by simp) (fun _ => string_of_reads) ?_
  rfl

/-- What is left of the credentials where they are shown. -/
def MqttAuthConfig.redacted (auth : MqttAuthConfig) : MqttAuthConfig :=
  { auth with password := "***" }

def MqttExporterConfig.redacted (mqtt : MqttExporterConfig) : MqttExporterConfig :=
  { mqtt with auth := mqtt.auth.map MqttAuthConfig.redacted }

def ExportersConfig.redacted (exporters : ExportersConfig) : ExportersConfig :=
  { exporters with mqtt := exporters.mqtt.map MqttExporterConfig.redacted }

/-- The configuration without the password and the names of the metrics files. -/
def Config.redacted (config : Config) : Config :=
  { config with
    exporters := config.exporters.redacted
    collectors := config.collectors.map CollectorConfig.inlined }

omit parses in
theorem MqttAuthConfig.deserialize_serialize {auth : MqttAuthConfig}
    (reads : format.Reads node auth.serialize) :
    MqttAuthConfig.deserialize format node = some auth.redacted := by
  obtain ⟨fields, found, entries⟩ := recordFields_of_reads reads
    ["username", "password"] (by decide) (.refl _)
  rw [MqttAuthConfig.deserialize, found]
  refine entries.required auth.username (by simp) (fun _ => string_of_reads) ?_
  refine entries.required "***" (by simp; rfl) (fun _ => string_of_reads) ?_
  rfl

omit parses in
theorem MqttTlsConfig.deserialize_serialize {tls : MqttTlsConfig}
    (reads : format.Reads node tls.serialize) :
    MqttTlsConfig.deserialize format node = some tls := by
  obtain ⟨fields, found, entries⟩ := recordFields_of_reads reads
    ["ca_cert", "client_cert", "client_key", "insecure"] (by decide) (by
      simp only [List.append_assoc]
      apply_rules [keys_optionalField, keys_field, List.Sublist.refl])
  rw [MqttTlsConfig.deserialize, found]
  refine entries.optional tls.caCert Format.Reads.present (by simp) (fun _ _ => string_of_reads) ?_
  refine entries.optional tls.clientCert Format.Reads.present (by simp)
    (fun _ _ => string_of_reads) ?_
  refine entries.optional tls.clientKey Format.Reads.present (by simp)
    (fun _ _ => string_of_reads) ?_
  refine entries.orDefault tls.insecure (by simp) (fun _ => bool_of_reads) ?_
  rfl

theorem MqttExporterConfig.deserialize_serialize {mqtt : MqttExporterConfig}
    (reads : format.Reads node (mqtt.serialize formatDuration)) :
    MqttExporterConfig.deserialize format parseDuration node = some mqtt.redacted := by
  obtain ⟨fields, found, entries⟩ := recordFields_of_reads reads
    ["enabled", "endpoint", "client_id", "topic_prefix", "auth", "tls", "qos", "retain", "interval",
      "timeout"] (by decide) (by
      simp only [List.append_assoc, List.cons_append, List.nil_append]
      apply_rules [keys_optionalField, keys_field, List.Sublist.refl])
  rw [MqttExporterConfig.deserialize, found]
  refine entries.orDefault mqtt.enabled (by simp) (fun _ => bool_of_reads) ?_
  refine entries.optional mqtt.endpoint Format.Reads.present (by simp)
    (fun _ _ => string_of_reads) ?_
  refine entries.optional mqtt.clientId Format.Reads.present (by simp)
    (fun _ _ => string_of_reads) ?_
  refine entries.orDefault mqtt.topicPrefix (by simp) (fun _ => string_of_reads) ?_
  refine entries.optionalMap (f := MqttAuthConfig.redacted) mqtt.auth Format.Reads.present (by simp)
    (fun _ _ => MqttAuthConfig.deserialize_serialize) ?_
  refine entries.optional mqtt.tls Format.Reads.present (by simp)
    (fun _ _ => MqttTlsConfig.deserialize_serialize) ?_
  refine entries.orDefault mqtt.qos (by simp) (fun _ => readU8_of_reads) ?_
  refine entries.orDefault mqtt.retain (by simp) (fun _ => bool_of_reads) ?_
  refine entries.orDefault mqtt.interval (by simp) (fun _ => readDuration_of_reads parses) ?_
  refine entries.orDefault mqtt.timeout (by simp) (fun _ => readDuration_of_reads parses) ?_
  rfl

theorem ExportersConfig.deserialize_serialize {exporters : ExportersConfig}
    (reads : format.Reads node (exporters.serialize formatDuration)) :
    ExportersConfig.deserialize format parseDuration node = some exporters.redacted := by
  obtain ⟨fields, found, entries⟩ := recordFields_of_reads reads
    ["otlp", "prometheus", "mqtt"] (by decide) (by
      simp only [List.append_assoc]
      apply_rules [keys_optionalField, keys_lastOptional])
  rw [ExportersConfig.deserialize, found]
  refine entries.optional exporters.otlp Format.Reads.present (by simp)
    (fun _ _ => OtlpExporterConfig.deserialize_serialize parses) ?_
  refine entries.optional exporters.prometheus Format.Reads.present (by simp)
    (fun _ _ => PrometheusExporterConfig.deserialize_serialize) ?_
  refine entries.optionalMap (f := MqttExporterConfig.redacted) exporters.mqtt
    Format.Reads.present (by simp)
    (fun _ _ => MqttExporterConfig.deserialize_serialize parses) ?_
  rfl

theorem Config.deserialize_redacted {config : Config}
    (reads : format.Reads node (config.serialize formatDuration)) :
    Config.deserialize format parseDuration node = some config.redacted := by
  obtain ⟨fields, found, entries⟩ := recordFields_of_reads reads
    ["global_labels", "logging", "exporters", "collectors"] (by decide) (.refl _)
  rw [Config.deserialize, found]
  refine entries.orDefault config.globalLabels (by simp) (fun _ => readStrings_of_reads) ?_
  refine entries.orDefault config.logging (by simp)
    (fun _ => LoggingConfig.deserialize_serialize) ?_
  refine entries.required config.exporters.redacted (by simp)
    (fun _ => ExportersConfig.deserialize_serialize parses) ?_
  refine entries.required (config.collectors.map CollectorConfig.inlined) (by simp)
    (fun _ read => readList_of_reads read fun _ _ _ =>
      CollectorConfig.deserialize_serialize parses) ?_
  rfl

end Durations

end BusExporter
