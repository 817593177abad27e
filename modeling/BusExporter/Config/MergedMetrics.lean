import BusExporter.Config.MetricsFiles

/-!
# Merged metrics

A collector's metrics occur in its metrics files, in their order, and then inline.
What is merged from them has one metric for each name that occurs, the last one of
this name, in the order in which the names first occur. A metric that is replaced
leaves nothing behind: the fields of a metric in a file come from the metric itself,
from the defaults of its own file, or from the schema.
-/

namespace BusExporter

open Foundation

/-- An occurrence of a metric, in a metrics file or inline. -/
inductive Occurrence where
  | inFile (file : MetricsFileConfig) (raw : RawMetricConfig)
  | inline (metric : MetricConfig)

def Occurrence.name : Occurrence → String
  | .inFile _ raw => raw.name
  | .inline metric => metric.name

/-- All occurrences, in the order of the files and then inline. -/
def occurrences (loaded : List MetricsFileConfig) (inline : List MetricConfig) :
    List Occurrence :=
  loaded.flatMap (fun file => file.metrics.map (.inFile file)) ++ inline.map .inline

/-- A metric with nothing but the fields it must have. -/
def MetricConfig.bare (m : MetricConfig) : MetricConfig :=
  { name := m.name, metricType := m.metricType, dataType := m.dataType }

/-- A metric has what a metrics file says: each field is its own value, else the default of the
file, else that of the schema. -/
structure Completes (defaults : Option MetricDefaultsConfig) (raw : RawMetricConfig)
    (m : MetricConfig) : Prop where
  name : m.name = raw.name
  metricType : orDefault raw.metricType defaults (·.metricType) = some m.metricType
  dataType : orDefault raw.dataType defaults (·.dataType) = some m.dataType
  description : m.description =
    (orDefault raw.description defaults (·.description)).getD m.bare.description
  registerType : m.registerType = orDefault raw.registerType defaults (·.registerType)
  byteOrder : m.byteOrder = (orDefault raw.byteOrder defaults (·.byteOrder)).getD m.bare.byteOrder
  scale : m.scale = (orDefault raw.scale defaults (·.scale)).getD m.bare.scale
  offset : m.offset = (orDefault raw.offset defaults (·.offset)).getD m.bare.offset
  unit : m.unit = (orDefault raw.unit defaults (·.unit)).getD m.bare.unit
  -- A file has no defaults for the rest.
  address : m.address = raw.address
  command : m.command = raw.command
  responseLength : m.responseLength = raw.responseLength
  responseOffset : m.responseOffset = raw.responseOffset

/-- The metric that an occurrence stands for. -/
def Occurrence.Gives : Occurrence → MetricConfig → Prop
  | .inFile file raw, m => Completes file.defaults raw m
  | .inline metric, m => m = metric

theorem Occurrence.Gives.name {o : Occurrence} {m : MetricConfig} (gives : o.Gives m) :
    o.name = m.name := by
  cases o with
  | inFile file raw => exact (Completes.name gives).symm
  | inline metric => exact congrArg MetricConfig.name (Eq.symm gives)

/-- The last occurrence of every name, in the order of the first ones. -/
structure MergesLastWins (all : List Occurrence) (metrics : List MetricConfig) : Prop where
  distinct : (metrics.map (·.name)).Nodup
  names : ∀ name, name ∈ metrics.map (·.name) ↔ name ∈ all.map (·.name)
  ordered : (metrics.map (·.name)).Pairwise fun name name' =>
    (all.map (·.name)).idxOf name < (all.map (·.name)).idxOf name'
  last : ∀ m ∈ metrics, ∃ earlier o later, all = earlier ++ o :: later ∧ o.Gives m ∧
    ∀ o' ∈ later, o'.name ≠ m.name

variable (files : Files)

/-- What a metrics file is read and parsed to. -/
def Loads (path : String) (file : MetricsFileConfig) : Prop :=
  ∃ content, files.readToString path = .ok content ∧ files.parseMetricsFile content = .ok file

/-- A metrics file that cannot be merged. -/
inductive Unusable (path : String) : Prop
  | unreadable (e : Error) : files.readToString path = .error e → Unusable path
  | unparsable (content : String) (e : Error) : files.readToString path = .ok content →
    files.parseMetricsFile content = .error e → Unusable path
  | empty (file : MetricsFileConfig) : Loads files path file → file.metrics = [] → Unusable path
  | lacksField (file : MetricsFileConfig) (raw : RawMetricConfig) : Loads files path file →
    raw ∈ file.metrics →
    orDefault raw.metricType file.defaults (·.metricType) = none ∨
      orDefault raw.dataType file.defaults (·.dataType) = none → Unusable path

/-- What `resolve_metrics_files` does to a collector. -/
structure ResolvesFiles (configDir : String) (c : CollectorConfig)
    (result : Except Error Unit × CollectorConfig) : Prop where
  merges : result.1 = .ok () → ∃ metrics loaded, result.2 = { c with metrics := metrics } ∧
    List.Forall₂ (fun path file => Loads files (joinPath configDir path) file)
      (c.metricsFiles.getD []) loaded ∧
    MergesLastWins (occurrences loaded c.metrics) metrics
  fails : (∃ e, result.1 = .error e) ↔
    ∃ path ∈ c.metricsFiles.getD [], Unusable files (joinPath configDir path)
  unchanged : ∀ e, result.1 = .error e → result.2 = c

/-! ## One metric and one file -/

variable {files}

theorem intoMetric_eq_ok {raw : RawMetricConfig} {defaults : Option MetricDefaultsConfig}
    {collectorName filePath : String} {m : MetricConfig} :
    raw.intoMetric defaults collectorName filePath = .ok m ↔ Completes defaults raw m := by
  unfold RawMetricConfig.intoMetric
  simp only [bind_eq_ok, someOr_eq_ok]
  constructor
  · rintro ⟨metricType, typed, dataType, decodable, made⟩
    cases made
    exact ⟨rfl, typed, decodable, rfl, rfl, rfl, rfl, rfl, rfl, rfl, rfl, rfl, rfl⟩
  · intro completes
    refine ⟨_, completes.metricType, _, completes.dataType, ?_⟩
    obtain ⟨name, -, -, description, registerType, byteOrder, scale, offset, unit, address,
      command, responseLength, responseOffset⟩ := completes
    cases m
    simp_all [pure, Except.pure, MetricConfig.bare]

/-- A metric that has a type and a data type can be completed. -/
theorem exists_completes {defaults : Option MetricDefaultsConfig} {raw : RawMetricConfig}
    (complete : ¬ (orDefault raw.metricType defaults (·.metricType) = none ∨
      orDefault raw.dataType defaults (·.dataType) = none)) : ∃ m, Completes defaults raw m := by
  rw [not_or, ← ne_eq, ← ne_eq, Option.ne_none_iff_exists', Option.ne_none_iff_exists'] at complete
  obtain ⟨⟨metricType, typed⟩, dataType, decodable⟩ := complete
  have made : ∃ m, raw.intoMetric defaults "" "" = .ok m := by
    unfold RawMetricConfig.intoMetric
    simp only [typed, decodable]
    exact ⟨_, rfl⟩
  obtain ⟨m, made⟩ := made
  exact ⟨m, intoMetric_eq_ok.mp made⟩

theorem readMetricsFile_eq_ok {collectorName path : String} {file : MetricsFileConfig} :
    readMetricsFile files collectorName path = .ok file ↔
      Loads files path file ∧ file.metrics ≠ [] := by
  unfold readMetricsFile Loads
  simp only [bind_eq_ok, withContext_eq_ok]
  constructor
  · rintro ⟨content, read, file', parsed, checked⟩
    split at checked
    · cases checked
    · cases checked
      exact ⟨⟨content, read, parsed⟩, by simp_all⟩
  · rintro ⟨⟨content, read, parsed⟩, nonempty⟩
    refine ⟨content, read, file, parsed, ?_⟩
    rw [if_neg (by simpa using nonempty)]
    rfl

/-- The metrics that a file at a path gives. -/
def GivesMetrics (files : Files) (path : String) (metrics : List MetricConfig) : Prop :=
  ∃ file, Loads files path file ∧ file.metrics ≠ [] ∧
    List.Forall₂ (Completes file.defaults) file.metrics metrics

theorem mergeFile_eq_ok (collectorName path : String) (merged merged' : MergedMetrics) :
    mergeFile files collectorName path merged = .ok merged' ↔
      ∃ metrics, GivesMetrics files path metrics ∧
        merged' = metrics.foldl Indexed.insert merged := by
  -- The loop over a file inserts the completed metrics one by one.
  have insertOne (file : MetricsFileConfig) (raw : RawMetricConfig)
      (merged merged' : MergedMetrics) :
      (do let metric ← raw.intoMetric file.defaults collectorName path
          return merged.insert metric : Except Error MergedMetrics) = .ok merged' ↔
        ∃ m, Completes file.defaults raw m ∧ merged' = merged.insert m := by
    simp only [bind_eq_ok, intoMetric_eq_ok, pure, Except.pure, Except.ok.injEq]
    exact exists_congr fun m => and_congr_right fun _ => eq_comm
  unfold mergeFile GivesMetrics
  simp only [bind_eq_ok, readMetricsFile_eq_ok, foldlM_eq_ok_iff (insertOne _)]
  constructor
  · rintro ⟨file, ⟨loads, nonempty⟩, metrics, completed, rfl⟩
    exact ⟨metrics, ⟨file, loads, nonempty, completed⟩, rfl⟩
  · rintro ⟨metrics, ⟨file, loads, nonempty, completed⟩, rfl⟩
    exact ⟨file, ⟨loads, nonempty⟩, metrics, completed, rfl⟩

/-- A file gives metrics unless it is unusable. -/
theorem givesMetrics_iff_usable (path : String) :
    (∃ metrics, GivesMetrics files path metrics) ↔ ¬ Unusable files path := by
  constructor
  · rintro ⟨metrics, file, ⟨content, read, parsed⟩, nonempty, completed⟩ unusable
    cases unusable with
    | unreadable e failed => simp [read] at failed
    | unparsable content' e read' failed =>
      obtain rfl : content = content' := by simpa [read] using read'
      simp [parsed] at failed
    | empty file' loads none =>
      obtain ⟨content', read', parsed'⟩ := loads
      obtain rfl : content = content' := by simpa [read] using read'
      obtain rfl : file = file' := by simpa [parsed] using parsed'
      exact nonempty none
    | lacksField file' raw loads mem lacks =>
      obtain ⟨content', read', parsed'⟩ := loads
      obtain rfl : content = content' := by simpa [read] using read'
      obtain rfl : file = file' := by simpa [parsed] using parsed'
      obtain ⟨m, completes⟩ := (exists_forall₂_iff _ _).mp ⟨metrics, completed⟩ raw mem
      rcases lacks with lacks | lacks
      · exact absurd completes.metricType (by simp [lacks])
      · exact absurd completes.dataType (by simp [lacks])
  · intro usable
    cases read : files.readToString path with
    | error e => exact absurd (.unreadable e read) usable
    | ok content =>
      cases parsed : files.parseMetricsFile content with
      | error e => exact absurd (.unparsable content e read parsed) usable
      | ok file =>
        have loads : Loads files path file := ⟨content, read, parsed⟩
        have nonempty : file.metrics ≠ [] := fun none => usable (.empty file loads none)
        obtain ⟨metrics, completed⟩ :=
          (exists_forall₂_iff (Completes file.defaults) file.metrics).mpr fun raw mem =>
            exists_completes fun lacks => usable (.lacksField file raw loads mem lacks)
        exact ⟨metrics, file, loads, nonempty, completed⟩

/-! ## A collector -/

/-- All the metrics of the files, and the inline ones, are inserted in turn. -/
theorem resolveMetricsFiles_eq_ok {configDir : String} {c c' : CollectorConfig} :
    c.resolveMetricsFiles files configDir = .ok c' ↔
      ∃ perFile, List.Forall₂ (fun path => GivesMetrics files (joinPath configDir path))
          (c.metricsFiles.getD []) perFile ∧
        c' = { c with metrics :=
          ((perFile.flatten ++ c.metrics).foldl Indexed.insert
            (@Indexed.empty _ _ MetricConfig.name)).values } := by
  unfold CollectorConfig.resolveMetricsFiles
  simp only [bind_eq_ok,
    foldlM_eq_ok_iff fun path => mergeFile_eq_ok c.name (joinPath configDir path),
    List.foldl_append, List.foldl_flatten, pure, Except.pure, Except.ok.injEq]
  constructor
  · rintro ⟨merged, ⟨perFile, given, rfl⟩, rfl⟩
    exact ⟨perFile, given, rfl⟩
  · rintro ⟨perFile, given, rfl⟩
    exact ⟨_, ⟨perFile, given, rfl⟩, rfl⟩

/-- Resolving in place is resolving a copy, which replaces the collector on success. -/
theorem resolveInPlace_run (configDir : String) (c : CollectorConfig) :
    (resolveInPlace files configDir).run.run c =
      match c.resolveMetricsFiles files configDir with
      | .ok c' => (.ok (), c')
      | .error e => (.error e, c) := by
  -- The inline metrics are taken out of the collector, then put back with the merged ones.
  have inline (merging : Except Error MergedMetrics) :
      (do let merged ← MonadExcept.ofExcept merging
          let inlineMetrics ← modifyGet fun c => (c.metrics, { c with metrics := [] })
          modify fun c => { c with metrics := (inlineMetrics.foldl (·.insert ·) merged).values } :
        ExceptT Error (StateM CollectorConfig) Unit).run.run c =
      match merging with
      | .ok merged => (.ok (), { c with metrics := (c.metrics.foldl (·.insert ·) merged).values })
      | .error e => (.error e, c) := by
    cases merging <;> rfl
  refine (inline _).trans ?_
  unfold CollectorConfig.resolveMetricsFiles
  cases (c.metricsFiles.getD []).foldlM
    (fun merged path => mergeFile files c.name (joinPath configDir path) merged) Indexed.empty <;>
    rfl

/-- The occurrences in the files give the metrics of the files. -/
theorem gives_occurrences {configDir : String} {paths : List String}
    {perFile : List (List MetricConfig)}
    (given : List.Forall₂ (fun path => GivesMetrics files (joinPath configDir path)) paths perFile)
    (inline : List MetricConfig) :
    ∃ loaded, List.Forall₂ (fun path => Loads files (joinPath configDir path)) paths loaded ∧
      List.Forall₂ Occurrence.Gives (occurrences loaded inline) (perFile.flatten ++ inline) := by
  induction given with
  | nil =>
    refine ⟨[], .nil, ?_⟩
    show List.Forall₂ _ (inline.map Occurrence.inline) inline
    rw [List.forall₂_map_left_iff, List.forall₂_same]
    exact fun _ _ => rfl
  | cons gives _ ih =>
    obtain ⟨file, loads, -, completed⟩ := gives
    obtain ⟨loaded, loadsRest, givesRest⟩ := ih
    refine ⟨file :: loaded, .cons loads loadsRest, ?_⟩
    rw [occurrences, List.flatMap_cons, List.flatten_cons, List.append_assoc, List.append_assoc]
    refine List.rel_append ?_ givesRest
    rw [List.forall₂_map_left_iff]
    exact completed

/-- Occurrences have the names of what they give. -/
theorem names_of_gives {all : List Occurrence} {given : List MetricConfig}
    (gives : List.Forall₂ Occurrence.Gives all given) :
    all.map (·.name) = given.map (·.name) := by
  induction gives with
  | nil => rfl
  | cons gives _ ih => rw [List.map_cons, List.map_cons, gives.name, ih]

/-- The last one of each name among the metrics is the last occurrence of this name. -/
theorem mergesLastWins_of_gives {all : List Occurrence} {given metrics : List MetricConfig}
    (gives : List.Forall₂ Occurrence.Gives all given)
    (wins : LastWins MetricConfig.name given metrics) : MergesLastWins all metrics := by
  have names := names_of_gives gives
  constructor
  · exact wins.distinct
  · intro name
    rw [names]
    exact wins.keys name
  · rw [names]
    exact wins.ordered
  · intro m mem
    obtain ⟨earlier, later, rfl, isLast⟩ := wins.last m mem
    -- The occurrences split where the metrics do, as each metric has one occurrence.
    obtain ⟨o, later', ofLast, ofLater, dropped⟩ :=
      List.forall₂_cons_right_iff.mp (List.forall₂_drop_append all earlier (m :: later) gives)
    refine ⟨all.take earlier.length, o, later', ?_, ofLast, ?_⟩
    · rw [← dropped, List.take_append_drop]
    · intro o' mem' same
      apply isLast
      rw [← names_of_gives ofLater, ← same]
      exact List.mem_map_of_mem mem'

end BusExporter
