import BusExporter.Config.Validate
import BusExporter.Foundation.Indexed

/-!
# Metrics files

A collector's metrics are merged from its metrics files, in their order, and its
inline metrics. A metric that comes later takes the place of an earlier one of the
same name. What the files contain, and how YAML is parsed, is up to the outside
world.
-/

namespace BusExporter

open Foundation

/-- Default values applied to all metrics in a metrics file. -/
structure MetricDefaultsConfig where
  description : Option String := none
  metricType : Option MetricType := none
  registerType : Option RegisterType := none
  dataType : Option DataType := none
  byteOrder : Option ByteOrder := none
  scale : Option Float := none
  offset : Option Float := none
  unit : Option String := none

/-- A metric with all optional fields, as a metrics file has it. -/
structure RawMetricConfig where
  name : String
  description : Option String := none
  metricType : Option MetricType := none
  registerType : Option RegisterType := none
  address : Option UInt16 := none
  dataType : Option DataType := none
  byteOrder : Option ByteOrder := none
  scale : Option Float := none
  offset : Option Float := none
  unit : Option String := none
  command : List UInt8 := []
  responseLength : Option UInt16 := none
  responseOffset : UInt16 := 0

structure MetricsFileConfig where
  defaults : Option MetricDefaultsConfig := none
  metrics : List RawMetricConfig

/-- A metric's own value, or else its file's default. -/
def orDefault {α : Type} (own : Option α) (defaults : Option MetricDefaultsConfig)
    (field : MetricDefaultsConfig → Option α) : Option α :=
  own.or (defaults.bind field)

/-- Apply defaults and convert to a full metric. -/
def RawMetricConfig.intoMetric (raw : RawMetricConfig) (defaults : Option MetricDefaultsConfig)
    (collectorName filePath : String) : Except Error MetricConfig := do
  let label := s!"collector '{collectorName}': metric '{raw.name}' in '{filePath}'"
  let metricType ← someOr (orDefault raw.metricType defaults (·.metricType))
    s!"{label}: missing required field 'type'"
  let dataType ← someOr (orDefault raw.dataType defaults (·.dataType))
    s!"{label}: missing required field 'data_type'"
  return {
    name := raw.name
    description := (orDefault raw.description defaults (·.description)).getD ""
    metricType := metricType
    registerType := orDefault raw.registerType defaults (·.registerType)
    address := raw.address
    dataType := dataType
    byteOrder := (orDefault raw.byteOrder defaults (·.byteOrder)).getD .bigEndian
    scale := (orDefault raw.scale defaults (·.scale)).getD 1.0
    offset := (orDefault raw.offset defaults (·.offset)).getD 0.0
    unit := (orDefault raw.unit defaults (·.unit)).getD ""
    command := raw.command
    responseLength := raw.responseLength
    responseOffset := raw.responseOffset }

/-! ## Files -/

/-- The file system, and what its files parse to. -/
structure Files where
  readToString : String → Except Error String
  parseConfig : String → Except Error Config
  parseMetricsFile : String → Except Error MetricsFileConfig

/-- `Path::join`: an absolute path replaces the directory. -/
def joinPath (dir path : String) : String :=
  if (stripStart ['/'] path.toList).isSome ∨ dir = "" then path
  else if dir.toList.getLast? = some '/' then dir ++ path
  else dir ++ "/" ++ path

/-- `Path::parent` of a path to a file. -/
def parentDir (path : String) : String :=
  match rsplitOnce '/' path.toList with
  | none => ""
  | some ([], _) => "/"
  | some (dir, _) => String.ofList dir

/-- Merged metrics, by name. -/
abbrev MergedMetrics := Indexed MetricConfig.name

variable (files : Files)

/-- Read and parse a metrics file; it must contain a metric. -/
def readMetricsFile (collectorName filePath : String) : Except Error MetricsFileConfig := do
  let content ← withContext (files.readToString filePath)
    s!"collector '{collectorName}': reading metrics file '{filePath}'"
  let metricsFile ← withContext (files.parseMetricsFile content)
    s!"collector '{collectorName}': parsing metrics file '{filePath}'"
  if metricsFile.metrics.isEmpty then
    .error (.msg s!"collector '{collectorName}': metrics file '{filePath}' contains no metrics")
  else return metricsFile

/-- Merge the metrics of one file into those of the files before it. -/
def mergeFile (collectorName filePath : String) (merged : MergedMetrics) :
    Except Error MergedMetrics := do
  let metricsFile ← readMetricsFile files collectorName filePath
  metricsFile.metrics.foldlM (fun merged raw => do
    let metric ← raw.intoMetric metricsFile.defaults collectorName filePath
    return merged.insert metric) merged

/-- Load and merge metrics from the metrics files and the inline metrics. -/
def CollectorConfig.resolveMetricsFiles (configDir : String) (c : CollectorConfig) :
    Except Error CollectorConfig := do
  let merged ← (c.metricsFiles.getD []).foldlM
    (fun merged path => mergeFile files c.name (joinPath configDir path) merged) Indexed.empty
  -- Inline metrics have the highest priority.
  let merged := c.metrics.foldl (·.insert ·) merged
  return { c with metrics := merged.values }

/-- `resolve_metrics_files` on the collector itself: the inline metrics are taken out of it only
after all the files are merged. -/
def resolveInPlace (configDir : String) : ExceptT Error (StateM CollectorConfig) Unit := do
  let c ← get
  let merged ← MonadExcept.ofExcept ((c.metricsFiles.getD []).foldlM
    (fun merged path => mergeFile files c.name (joinPath configDir path) merged) Indexed.empty)
  let inlineMetrics ← modifyGet fun c => (c.metrics, { c with metrics := [] })
  let merged := inlineMetrics.foldl (·.insert ·) merged
  modify fun c => { c with metrics := merged.values }

/-- Load a configuration without validation, for the pull and watch commands. -/
def Config.loadForPull (path : String) : Except Error Config := do
  let content ← withContext (files.readToString path) s!"reading {path}"
  let config ← withContext (files.parseConfig content) "parsing config YAML"
  let collectors ← config.collectors.mapM (·.resolveMetricsFiles files (parentDir path))
  return { config with collectors := collectors }

/-- Load a configuration and validate it, for the run command. -/
def Config.load (path : String) : Except Error Config := do
  let content ← withContext (files.readToString path) s!"reading {path}"
  let config ← withContext (files.parseConfig content) "parsing config YAML"
  let collectors ← config.collectors.mapM (·.resolveMetricsFiles files (parentDir path))
  let config := { config with collectors := collectors }
  config.validate
  return config

theorem Config.load_eq (path : String) :
    Config.load files path = (do
      let config ← Config.loadForPull files path
      config.validate
      return config) := by
  simp only [Config.load, Config.loadForPull, bind_assoc, pure_bind]

/-! ## Merged metrics -/

section Merged

variable {files}

/-- Merged metrics have distinct names. -/
theorem CollectorConfig.distinct_of_resolve {configDir : String} {c resolved : CollectorConfig}
    (loaded : c.resolveMetricsFiles files configDir = .ok resolved) :
    (resolved.metrics.map (·.name)).Nodup := by
  obtain ⟨merged, -, done⟩ := (bind_eq_ok _ _ _).mp loaded
  cases done
  exact (c.metrics.foldl (·.insert ·) merged).distinct

theorem Config.distinct_of_loadForPull {path : String} {config : Config}
    (loaded : Config.loadForPull files path = .ok config) {c : CollectorConfig}
    (mem : c ∈ config.collectors) : (c.metrics.map (·.name)).Nodup := by
  obtain ⟨content, -, parsed⟩ := (bind_eq_ok _ _ _).mp loaded
  obtain ⟨config', -, rest⟩ := (bind_eq_ok _ _ _).mp parsed
  obtain ⟨collectors, traversed, done⟩ := (bind_eq_ok _ _ _).mp rest
  cases done
  obtain ⟨original, -, resolved⟩ := mem_of_mapM_eq_ok traversed mem
  exact CollectorConfig.distinct_of_resolve resolved

end Merged

end BusExporter
