import BusExporter.Config.Accepted
import BusExporter.Config.Deserialize
import BusExporter.Config.MergedMetrics
import BusExporter.Config.RoundTrip

/-!
# Splitting a configuration

A metric can be written inline or in a metrics file, and is read by two deserializers, one
with the defaults of the fields and one that leaves them to the file. They agree on every
metric without null fields, so the inline metrics of a collector can be moved to a metrics
file of their own: what is loaded, and whether it is valid, stays the same.
-/

namespace BusExporter

open Foundation

variable {ν : Type} {format : Format ν}

/-- No field of a record is null. -/
def NoNulls (format : Format ν) (node : ν) : Prop :=
  ∀ entries, format.map node = some entries → ∀ entry ∈ entries, format.isNone entry.2 = false

theorem NoNulls.present {node : ν} (noNulls : NoNulls format node) {known : List String}
    {fields : List (String × ν)} (found : recordFields format known node = some fields)
    (key : String) (value : ν) (entry : fields.lookup key = some value) :
    format.isNone value = false := by
  obtain ⟨entries, isMap, known⟩ := Option.bind_eq_some_iff.mp found
  rw [strictFields, Option.ite_none_right_eq_some] at known
  obtain rfl : entries = fields := Option.some.inj known.2
  obtain ⟨before, after, split, -⟩ := List.lookup_eq_some_iff.mp entry
  exact noNulls entries isMap (key, value) (by simp [split])

/-- An inline metric is read as one of a file without defaults. -/
theorem MetricConfig.deserialize_eq {node : ν} (noNulls : NoNulls format node)
    (collectorName filePath : String) :
    MetricConfig.deserialize format node = (RawMetricConfig.deserialize format node).bind
      fun raw => (raw.intoMetric none collectorName filePath).toOption := by
  rw [MetricConfig.deserialize, RawMetricConfig.deserialize]
  refine bind_complete fun fields found => ?_
  have present := noNulls.present found
  refine bind_complete fun name _ => ?_
  refine fieldOr_complete (present "description") fun description => ?_
  refine requiredField_complete (present "type") ?_ fun metricType => ?_
  · intro untyped made
    simp only [Option.bind_eq_bind, Option.bind_eq_some_iff] at made
    obtain ⟨_, -, _, -, _, -, _, -, _, -, _, -, _, -, _, -, _, -, _, -, made⟩ := made
    cases made
    rfl
  refine bind_complete fun registerType _ => bind_complete fun address _ => ?_
  refine requiredField_complete (present "data_type") ?_ fun dataType => ?_
  · intro untyped made
    simp only [Option.bind_eq_bind, Option.bind_eq_some_iff] at made
    obtain ⟨_, -, _, -, _, -, _, -, _, -, _, -, _, -, made⟩ := made
    cases made
    rfl
  refine fieldOr_complete (present "byte_order") fun byteOrder => ?_
  refine fieldOr_complete (present "scale") fun scale => ?_
  refine fieldOr_complete (present "offset") fun offset => ?_
  refine fieldOr_complete (present "unit") fun unit => ?_
  refine bind_complete fun command _ => bind_complete fun responseLength _ =>
    bind_complete fun responseOffset _ => ?_
  simp [RawMetricConfig.intoMetric, orDefault, someOr, bind, Except.bind, pure, Except.pure,
    Except.toOption]

theorem completes_of_deserialize {node : ν} {m : MetricConfig} (noNulls : NoNulls format node)
    (inline : MetricConfig.deserialize format node = some m) :
    ∃ raw, RawMetricConfig.deserialize format node = some raw ∧ Completes none raw m := by
  rw [MetricConfig.deserialize_eq noNulls "" "", Option.bind_eq_some_iff] at inline
  obtain ⟨raw, isRaw, completed⟩ := inline
  refine ⟨raw, isRaw, ?_⟩
  cases made : raw.intoMetric none "" "" with
  | error e =>
    rw [made] at completed
    cases completed
  | ok m' =>
    rw [made] at completed
    cases completed
    exact intoMetric_eq_ok.mp made

/-- The same nodes give the same metrics inline and in a file without defaults. -/
theorem readList_metrics {node : ν} {metrics : List MetricConfig}
    (noNulls : ∀ items, format.seq node = some items → ∀ item ∈ items, NoNulls format item)
    (inline : readList format (MetricConfig.deserialize format) node = some metrics) :
    ∃ raws, readList format (RawMetricConfig.deserialize format) node = some raws ∧
      List.Forall₂ (Completes none) raws metrics := by
  obtain ⟨items, isSeq, read⟩ := Option.bind_eq_some_iff.mp inline
  rw [readList, isSeq, Option.bind_some]
  replace noNulls := noNulls items isSeq
  clear inline isSeq
  induction items generalizing metrics with
  | nil =>
    cases read
    exact ⟨[], rfl, .nil⟩
  | cons item items ih =>
    rw [List.forall_mem_cons] at noNulls
    simp only [List.mapM_cons, Option.bind_eq_bind, Option.bind_eq_some_iff, Option.pure_def,
      Option.some.injEq] at read
    obtain ⟨m, first, metrics', others, rfl⟩ := read
    obtain ⟨raw, isRaw, completes⟩ := completes_of_deserialize noNulls.1 first
    obtain ⟨raws, areRaws, complete⟩ := ih others noNulls.2
    exact ⟨raw :: raws, by simp [List.mapM_cons, isRaw, areRaws], .cons completes complete⟩

/-! ## Moving metrics -/

section Moving

variable {parsers : Parsers ν} {readToString : String → Except Error String} {configDir : String}

/-- The text of a metrics file has these metrics and nothing else, at a node that reads as the
metrics of a collector, too. -/
structure HoldsMetrics (parsers : Parsers ν) (readToString : String → Except Error String)
    (path : String) (metrics : List MetricConfig) (content : String) (file node : ν) : Prop where
  text : readToString path = .ok content
  parsed : parsers.yaml content = some file
  onlyMetrics : parsers.format.map file = some [("metrics", node)]
  inline : readList parsers.format (MetricConfig.deserialize parsers.format) node = some metrics
  nonempty : metrics ≠ []
  noNulls : ∀ items, parsers.format.seq node = some items → ∀ item ∈ items,
    NoNulls parsers.format item

/-- A collector is kept, or its inline metrics are moved to a file that comes last. -/
inductive SplitsTo (parsers : Parsers ν) (readToString : String → Except Error String)
    (configDir : String) : CollectorConfig → CollectorConfig → Prop
  | keep (c : CollectorConfig) : SplitsTo parsers readToString configDir c c
  | move {c : CollectorConfig} {path content : String} {file node : ν} :
    HoldsMetrics parsers readToString (joinPath configDir path) c.metrics content file node →
    SplitsTo parsers readToString configDir c
      { c with metricsFiles := some (c.metricsFiles.getD [] ++ [path]), metrics := [] }

theorem givesMetrics_of_holds {path content : String} {metrics : List MetricConfig}
    {file node : ν} (holds : HoldsMetrics parsers readToString path metrics content file node) :
    GivesMetrics (parsers.files readToString) path metrics := by
  obtain ⟨raws, areRaws, complete⟩ := readList_metrics holds.noNulls holds.inline
  have parsed : (parsers.files readToString).parseMetricsFile content =
      .ok { metrics := raws } := by
    have read : MetricsFileConfig.deserialize parsers.format file =
        some { metrics := raws } := by
      simp [MetricsFileConfig.deserialize, recordFields, holds.onlyMetrics, strictFields,
        optionField, requiredField, List.lookup_cons, areRaws]
    simp only [Parsers.files, Parsers.parse, holds.parsed, Option.bind_some, read]
  refine ⟨{ metrics := raws }, ⟨content, holds.text, parsed⟩, ?_, complete⟩
  rintro rfl
  exact holds.nonempty (List.forall₂_nil_left_iff.mp complete)

theorem CollectorConfig.resolveMetricsFiles_split {c c' : CollectorConfig}
    (splits : SplitsTo parsers readToString configDir c c') :
    (c'.resolveMetricsFiles (parsers.files readToString) configDir).map CollectorConfig.inlined =
      (c.resolveMetricsFiles (parsers.files readToString) configDir).map
        CollectorConfig.inlined := by
  cases splits with
  | keep => rfl
  | move holds =>
    rename_i path content file node
    rw [CollectorConfig.resolveMetricsFiles, CollectorConfig.resolveMetricsFiles]
    simp only [Option.getD_some, List.foldlM_append, List.foldlM_cons, List.foldlM_nil]
    cases (c.metricsFiles.getD []).foldlM (fun merged path =>
        mergeFile (parsers.files readToString) c.name (joinPath configDir path) merged)
      Indexed.empty with
    | error e => rfl
    | ok merged =>
      have last := (mergeFile_eq_ok c.name (joinPath configDir path) merged _).mpr
        ⟨_, givesMetrics_of_holds holds, rfl⟩
      simp only [bind, Except.bind, last]
      rfl

/-! ## Configurations -/

/-- The configuration without the names of the metrics files. -/
def Config.inlined (config : Config) : Config :=
  { config with collectors := config.collectors.map CollectorConfig.inlined }

theorem validateCollectors_inlined (seen : List String) (collectors : List CollectorConfig) :
    validateCollectors seen (collectors.map CollectorConfig.inlined) =
      validateCollectors seen collectors := by
  induction collectors generalizing seen with
  | nil => rfl
  | cons c collectors ih =>
    rw [List.map_cons, validateCollectors, ih]
    rfl

theorem Config.validate_inlined (config : Config) : config.inlined.validate = config.validate := by
  rw [Config.validate, Config.validate, Config.inlined]
  simp only [List.map_eq_nil_iff, validateCollectors_inlined]

/-- What a configuration is read and parsed to. -/
def ReadsConfig (files : Files) (path : String) (config : Config) : Prop :=
  ∃ content, files.readToString path = .ok content ∧ files.parseConfig content = .ok config

theorem Config.loadForPull_eq {files : Files} {path : String} {config : Config}
    (reads : ReadsConfig files path config) :
    Config.loadForPull files path =
      (config.collectors.mapM
          (CollectorConfig.resolveMetricsFiles files (parentDir path))).map
        fun collectors => { config with collectors := collectors } := by
  obtain ⟨content, text, parsed⟩ := reads
  rw [Config.loadForPull, text]
  simp only [withContext, Except.mapError, bind, Except.bind, parsed]
  cases config.collectors.mapM (CollectorConfig.resolveMetricsFiles files (parentDir path)) <;> rfl

/-- The daemon's configuration is determined by what is loaded but for the names of the files. -/
theorem Config.load_inlined {files : Files} {path path' : String}
    (same : (Config.loadForPull files path').map Config.inlined =
      (Config.loadForPull files path).map Config.inlined) :
    (Config.load files path').map Config.inlined = (Config.load files path).map Config.inlined := by
  have loads (path : String) : (Config.load files path).map Config.inlined =
      (do
        let config ← (Config.loadForPull files path).map Config.inlined
        config.validate
        return config) := by
    rw [Config.load_eq]
    cases Config.loadForPull files path with
    | error e => rfl
    | ok config =>
      simp only [Except.map, bind, Except.bind, Config.validate_inlined]
      cases config.validate <;> rfl
  rw [loads, loads, same]

/-- Two configurations next to each other that differ in where their metrics are written load as
the same but for the names of the metrics files, or fail with the same error. -/
theorem loadsAlike {path path' : String} {config config' : Config}
    (reads : ReadsConfig (parsers.files readToString) path config)
    (reads' : ReadsConfig (parsers.files readToString) path' config')
    (directory : parentDir path' = parentDir path)
    (rest : { config with collectors := config'.collectors } = config')
    (splits : List.Forall₂ (SplitsTo parsers readToString (parentDir path)) config.collectors
      config'.collectors) :
    (Config.loadForPull (parsers.files readToString) path').map Config.inlined =
        (Config.loadForPull (parsers.files readToString) path).map Config.inlined ∧
      (Config.load (parsers.files readToString) path').map Config.inlined =
        (Config.load (parsers.files readToString) path).map Config.inlined := by
  have collectors := map_mapM_congr
    (fun _ _ splits => CollectorConfig.resolveMetricsFiles_split splits) splits
  have loaded : (Config.loadForPull (parsers.files readToString) path').map Config.inlined =
      (Config.loadForPull (parsers.files readToString) path).map Config.inlined := by
    have assemble (config : Config) (resolved : Except Error (List CollectorConfig)) :
        (resolved.map fun collectors => { config with collectors := collectors }).map
            Config.inlined =
          (resolved.map (List.map CollectorConfig.inlined)).map
            fun collectors => { config with collectors := collectors } := by
      cases resolved <;> rfl
    rw [Config.loadForPull_eq reads, Config.loadForPull_eq reads', directory, assemble, assemble,
      collectors]
    -- The rest of the two configurations is the same.
    rw [← rest]
  exact ⟨loaded, Config.load_inlined loaded⟩

end Moving

/-! ## A split configuration -/

namespace Samples

def powerText (indent : String) : String :=
  "metrics:\n" ++ String.join (["- name: power", "  type: gauge", "  register_type: holding",
    "  address: 16", "  data_type: u32"].map fun line => indent ++ line ++ "\n")

def powerDocument : Document :=
  .seq [.map [("name", .string "power"), ("type", .string "gauge"),
    ("register_type", .string "holding"), ("address", .nat 16), ("data_type", .string "u32")]]

/-- The text of a configuration up to the metrics. -/
def siteText : String :=
  "exporters:\n  prometheus:\n    enabled: true\ncollectors:\n- name: plc\n  protocol:\n" ++
    "    type: modbus-tcp\n    endpoint: 10.0.0.5:502\n  slave_id: 1\n  "

def siteDocument (metrics : String × Document) : Document :=
  .map [("exporters", .map [("prometheus", .map [("enabled", .bool true)])]),
    ("collectors", .seq [.map [("name", .string "plc"),
      ("protocol", .map [("type", .string "modbus-tcp"), ("endpoint", .string "10.0.0.5:502")]),
      ("slave_id", .nat 1), metrics]])]

def inlineText : String := siteText ++ powerText "  "

def splitText : String := siteText ++ "metrics_files:\n  - power.yaml\n"

/-- A parser that knows three texts. -/
def siteYaml (text : String) : Option Document :=
  if text = inlineText then some (siteDocument ("metrics", powerDocument))
  else if text = splitText then
    some (siteDocument ("metrics_files", .seq [.string "power.yaml"]))
  else if text = powerText "" then some (.map [("metrics", powerDocument)])
  else none

def siteParsers : Parsers Document where
  format := Document.format
  yaml := siteYaml
  duration _ := none
  error _ := .msg "unknown text"

def siteFiles (path : String) : Except Error String :=
  if path = "inline.yaml" then .ok inlineText
  else if path = "split.yaml" then .ok splitText
  else .ok (powerText "")

/-- The meter with its metrics inline, or in a file. -/
def site (metricsFiles : Option (List String)) (metrics : List MetricConfig) : Config :=
  configOf { plc metrics with metricsFiles := metricsFiles }

theorem parse_of_reads {content : String} {document : Document} {config : Config}
    (parsed : siteYaml content = some document)
    (read : Config.deserialize Document.format (fun _ => none) document = some config) :
    (siteParsers.files siteFiles).parseConfig content = .ok config := by
  simp only [siteParsers, Parsers.files, Parsers.parse, parsed, Option.bind_some, read]

set_option maxRecDepth 4000 in
theorem reads_inline : ReadsConfig (siteParsers.files siteFiles) "inline.yaml"
    (site none [wordMetric "power" 16]) := by
  exact ⟨inlineText, rfl, parse_of_reads (if_pos rfl) rfl⟩

set_option maxRecDepth 4000 in
theorem reads_split : ReadsConfig (siteParsers.files siteFiles) "split.yaml"
    (site (some ["power.yaml"]) []) := by
  have parsed : siteYaml splitText =
      some (siteDocument ("metrics_files", .seq [.string "power.yaml"])) := by
    rw [siteYaml, if_neg (by decide), if_pos rfl]
  exact ⟨splitText, rfl, parse_of_reads parsed rfl⟩

theorem holds_power : HoldsMetrics siteParsers siteFiles "power.yaml" [wordMetric "power" 16]
    (powerText "") (.map [("metrics", powerDocument)]) powerDocument where
  text := rfl
  parsed := by
    show siteYaml (powerText "") = _
    rw [siteYaml, if_neg (by decide), if_neg (by decide), if_pos rfl]
  onlyMetrics := rfl
  inline := rfl
  nonempty := by simp
  noNulls _ _ _ _ _ _ _ _ := rfl

/-- Both configurations load, and the metrics of the meter are the same. -/
theorem loadsAlike_site :
    (Config.load (siteParsers.files siteFiles) "split.yaml").map Config.inlined =
      .ok (site none [wordMetric "power" 16]) := by
  have alike := loadsAlike reads_inline reads_split rfl rfl (.cons (.move holds_power) .nil)
  refine alike.2.trans ?_
  have loaded : Config.loadForPull (siteParsers.files siteFiles) "inline.yaml" =
      .ok (site none [wordMetric "power" 16]) := Config.loadForPull_eq reads_inline
  rw [Config.load_eq, loaded]
  have valid : (site none [wordMetric "power" 16]).validate = .ok () := by decide
  simp only [bind, Except.bind, valid]
  rfl

end Samples

end BusExporter
