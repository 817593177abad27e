import BusExporter.Commands.ShowConfig
import BusExporter.Config.Accepted
import BusExporter.Config.RoundTrip
import BusExporter.Foundation.Hex

/-!
# Loading what was shown

The configuration that `show-config` prints can be saved to a file, and loads again: as the
collectors that were shown, with their metrics inline, and without the password. Where the
configuration that was shown is valid, the daemon loads what was saved.
-/

namespace BusExporter

open Foundation

/-! ## Parts of a configuration -/

/-- The collector with some of its metrics, and without the names of its metrics files. -/
structure CollectorConfig.PartOf (part c : CollectorConfig) : Prop where
  metrics : part.metrics.Sublist c.metrics
  nonempty : part.metrics ≠ []
  rest : { c with metrics := part.metrics, metricsFiles := part.metricsFiles } = part

namespace CollectorConfig.PartOf

variable {part c : CollectorConfig}

theorem inlined (isPart : part.PartOf c) : part.inlined.PartOf c where
  metrics := isPart.metrics
  nonempty := isPart.nonempty
  rest := by rw [← isPart.rest, CollectorConfig.inlined]

theorem name (isPart : part.PartOf c) : part.name = c.name := by
  rw [← isPart.rest]

/-- What a collector is checked for, a part of it passes. -/
theorem validateCollector (isPart : part.PartOf c) (valid : validateCollector c = .ok ()) :
    BusExporter.validateCollector part = .ok () := by
  obtain ⟨metrics, nonempty, rest⟩ := isPart
  rw [validateCollector_eq_ok] at valid ⊢
  obtain ⟨protocol, interval, -, writes, initWrites, prePoll, valid⟩ := valid
  rw [← rest]
  exact ⟨protocol, interval, nonempty, writes, initWrites, prePoll,
    fun m mem => valid m (metrics.subset mem)⟩

end CollectorConfig.PartOf

theorem validateExporters_redacted (exporters : ExportersConfig) :
    validateExporters exporters.redacted = validateExporters exporters := by
  obtain ⟨otlp, prometheus, mqtt⟩ := exporters
  cases mqtt <;> rfl

/-- A valid configuration is valid with parts of some of its collectors. -/
theorem Config.validate_parts {config shown : Config} (valid : config.validate = .ok ())
    (exporters : shown.exporters = config.exporters.redacted) (nonempty : shown.collectors ≠ [])
    (names : (shown.collectors.map (·.name)).Sublist (config.collectors.map (·.name)))
    (parts : ∀ part ∈ shown.collectors, ∃ c ∈ config.collectors, part.PartOf c) :
    shown.validate = .ok () := by
  rw [Config.validate_eq_ok] at valid ⊢
  obtain ⟨validExporters, -, distinct, validCollectors⟩ := valid
  refine ⟨?_, nonempty, distinct.sublist names, fun part mem => ?_⟩
  · rw [exporters, validateExporters_redacted, validExporters]
  · obtain ⟨whole, memWhole, isPart⟩ := parts part mem
    exact isPart.validateCollector (validCollectors whole memWhole)

/-! ## Metrics that are all inline -/

theorem CollectorConfig.resolveMetricsFiles_inlined (files : Files) (configDir : String)
    {c : CollectorConfig} (distinct : (c.metrics.map (·.name)).Nodup) :
    c.inlined.resolveMetricsFiles files configDir = .ok c.inlined := by
  show Except.ok { c.inlined with
    metrics := (c.metrics.foldl Indexed.insert (@Indexed.empty _ _ MetricConfig.name)).values } = _
  rw [Indexed.values_insertAll distinct]
  rfl

theorem mapM_resolve_inlined (files : Files) (configDir : String)
    {collectors : List CollectorConfig}
    (distinct : ∀ c ∈ collectors, (c.metrics.map (·.name)).Nodup) :
    (collectors.map CollectorConfig.inlined).mapM (·.resolveMetricsFiles files configDir) =
      .ok (collectors.map CollectorConfig.inlined) := by
  induction collectors with
  | nil => rfl
  | cons c collectors ih =>
    rw [List.forall_mem_cons] at distinct
    rw [List.map_cons, List.mapM_cons,
      CollectorConfig.resolveMetricsFiles_inlined files configDir distinct.1, ih distinct.2]
    rfl

/-! ## What is shown -/

namespace Commands

variable {collectorRe metricRe : Option Matcher}

theorem partOf_filterCollector {c part : CollectorConfig}
    (filtered : filterCollector collectorRe metricRe c = some part) : part.PartOf c := by
  unfold filterCollector at filtered
  rw [Option.ite_none_left_eq_some] at filtered
  obtain ⟨-, filtered⟩ := filtered
  cases metricRe with
  | none =>
    obtain ⟨nonempty, made⟩ := Option.ite_none_left_eq_some.mp filtered
    cases made
    exact ⟨.refl _, by simpa using nonempty, rfl⟩
  | some re =>
    obtain ⟨nonempty, made⟩ := Option.ite_none_left_eq_some.mp filtered
    cases made
    exact ⟨List.filter_sublist, by simpa using nonempty, rfl⟩

theorem names_filterCollectors (collectors : List CollectorConfig) :
    ((collectors.filterMap (filterCollector collectorRe metricRe)).map (·.name)).Sublist
      (collectors.map (·.name)) := by
  induction collectors with
  | nil => exact .refl _
  | cons c collectors ih =>
    cases filtered : filterCollector collectorRe metricRe c with
    | none =>
      rw [List.filterMap_cons_none filtered]
      exact ih.cons _
    | some part =>
      rw [List.filterMap_cons_some filtered, List.map_cons, List.map_cons,
        (partOf_filterCollector filtered).name]
      exact ih.cons_cons _

variable {compile : String → Except String Matcher} {collectors filtered : List CollectorConfig}
  {collectorFilter metricFilter : Option String}

/-- The collectors that match are parts of the collectors, in their order. -/
theorem filterCollectors_eq_ok
    (matched : filterCollectors compile collectors collectorFilter metricFilter = .ok filtered) :
    (∀ part ∈ filtered, ∃ c ∈ collectors, part.PartOf c) ∧
      (filtered.map (·.name)).Sublist (collectors.map (·.name)) := by
  obtain ⟨collectorRe, -, rest⟩ := (bind_eq_ok _ _ _).mp matched
  obtain ⟨metricRe, -, done⟩ := (bind_eq_ok _ _ _).mp rest
  cases done
  refine ⟨fun part mem => ?_, names_filterCollectors collectors⟩
  obtain ⟨c, mem, filtered⟩ := List.mem_filterMap.mp mem
  exact ⟨c, mem, partOf_filterCollector filtered⟩

/-- What the libraries promise about a configuration: its YAML ends with one line break, after
the last scalar, and is parsed as it was printed, and so are durations. -/
structure ReadsBack {ν : Type} (printers : Printers) (parsers : Parsers ν) (config : Config) :
    Prop where
  yamlEnd : ∃ body last, (printers.yaml (config.serialize printers.duration)).toList =
    body ++ [last, '\n'] ∧ ¬ isWhiteSpace last
  yaml : ∃ node, parsers.yaml (printers.yaml (config.serialize printers.duration)) = some node ∧
    parsers.format.Reads node (config.serialize printers.duration)
  duration : ∀ d, parsers.duration (printers.duration d) = some d

variable {ν : Type} {printers : Printers} {parsers : Parsers ν} {config : Config}

/-- Trimming the YAML and printing it as a line changes nothing. -/
theorem printedText_yaml (readsBack : ReadsBack printers parsers config) :
    printedText printers .yaml (config.serialize printers.duration) ++ "\n" =
      printers.yaml (config.serialize printers.duration) := by
  obtain ⟨body, last, text, visible⟩ := readsBack.yamlEnd
  rw [printedText, text, trimEnd_newline visible, ← String.toList_inj, text]
  simp

/-- The text of a configuration is read as the configuration without the password. -/
theorem parse_printed (readsBack : ReadsBack printers parsers config) :
    parsers.parse (Config.deserialize parsers.format parsers.duration)
      (printers.yaml (config.serialize printers.duration)) = .ok config.redacted := by
  obtain ⟨node, parsed, reads⟩ := readsBack.yaml
  rw [Parsers.parse, parsed, Option.bind_some,
    Config.deserialize_redacted readsBack.duration reads]

/-- The text of a configuration whose metrics have distinct names is loaded from a file. -/
theorem loadForPull_printed (readsBack : ReadsBack printers parsers config)
    (distinct : ∀ c ∈ config.collectors, (c.metrics.map (·.name)).Nodup)
    {readToString : String → Except Error String} {path : String}
    (saved : readToString path = .ok (printers.yaml (config.serialize printers.duration))) :
    Config.loadForPull (parsers.files readToString) path = .ok config.redacted := by
  refine (bind_eq_ok _ _ _).mpr ⟨_, withContext_eq_ok.mpr saved, ?_⟩
  refine (bind_eq_ok _ _ _).mpr ⟨_, withContext_eq_ok.mpr (parse_printed readsBack), ?_⟩
  exact (bind_eq_ok _ _ _).mpr ⟨_, mapM_resolve_inlined _ _ distinct, rfl⟩

/-- The collectors that were shown are loaded from where the text was saved, by the daemon too
if the whole configuration is valid and one of its collectors was shown. What is loaded has the
entries of its maps in the order in which they were shown. -/
theorem reloads {environment : Environment} {configPath : Option String}
    (loaded : loadConfig environment configPath = .ok config)
    (matched : filterCollectors compile config.collectors collectorFilter metricFilter =
      .ok filtered)
    (readsBack : ReadsBack printers parsers { config with collectors := filtered }) :
    ∃ shown, showConfigCommand printers compile environment configPath collectorFilter
        metricFilter .yaml = .ok shown ∧
      ∀ readToString path, readToString path = .ok shown.text →
        Config.loadForPull (parsers.files readToString) path =
            .ok (Config.redacted { config with collectors := filtered }) ∧
          (config.validate = .ok () → filtered ≠ [] →
            Config.load (parsers.files readToString) path =
              .ok (Config.redacted { config with collectors := filtered })) := by
  obtain ⟨parts, names⟩ := filterCollectors_eq_ok matched
  have text := printedText_yaml readsBack
  have distinct : ∀ part ∈ filtered, (part.metrics.map (·.name)).Nodup := by
    intro part mem
    obtain ⟨path, -, loaded⟩ := (bind_eq_ok _ _ _).mp loaded
    obtain ⟨c, memWhole, isPart⟩ := parts part mem
    exact (Config.distinct_of_loadForPull loaded memWhole).sublist (isPart.metrics.map _)
  rw [showConfigCommand, loaded]
  simp only [bind, Except.bind, showConfig, matched, pure, Except.pure]
  refine ⟨_, rfl, fun readToString path saved => ?_⟩
  rw [text] at saved
  have reloaded := loadForPull_printed readsBack distinct saved
  refine ⟨reloaded, fun valid nonempty => ?_⟩
  have validParts : (Config.redacted { config with collectors := filtered }).validate = .ok () := by
    refine Config.validate_parts valid rfl (by simpa [Config.redacted] using nonempty) ?_ ?_
    · rw [Config.redacted, List.map_map]
      exact names
    · rintro _ mem
      obtain ⟨part, memPart, rfl⟩ := List.mem_map.mp mem
      obtain ⟨c, memWhole, isPart⟩ := parts part memPart
      exact ⟨c, memWhole, isPart.inlined⟩
  rw [Config.load_eq, reloaded]
  simp only [bind, Except.bind, validParts, pure, Except.pure]

/-! ## A meter -/

/-- Whole seconds, or else nanoseconds. -/
def printDuration (d : Duration) : String :=
  if d % 1000000000 = 0 then (d / 1000000000).repr ++ "s" else d.repr ++ "ns"

/-- The unit comes first. -/
def parseReversed : List Char → Option Duration
  | 's' :: 'n' :: digits => digitsValue 10 digits.reverse
  | 's' :: digits => (digitsValue 10 digits.reverse).map Duration.ofSecs
  | _ => none

def parseDuration (text : String) : Option Duration := parseReversed text.toList.reverse

theorem parseReversed_secs {digits : List Char} (number : IsDigits digits) :
    parseReversed ('s' :: digits.reverse) = (digitsValue 10 digits).map Duration.ofSecs := by
  unfold parseReversed
  split
  · rename_i rest text
    -- The letter would be a digit.
    have letter : 'n' ∈ digits := by
      rw [← List.mem_reverse, (List.cons_eq_cons.mp text).2]
      exact List.mem_cons_self
    exact absurd (number.2 _ letter) (by decide)
  · rename_i rest _ text
    rw [← (List.cons_eq_cons.mp text).2, List.reverse_reverse]
  · rename_i other
    exact absurd rfl (other _)

theorem parse_printDuration (d : Duration) : parseDuration (printDuration d) = some d := by
  have value (n : ℕ) : digitsValue 10 (Nat.toDigits 10 n) = some n :=
    digitsValue_toDigits (by decide) (by decide) n
  rw [printDuration, parseDuration]
  split_ifs with whole
  · rw [String.toList_append, Nat.toList_repr, List.reverse_append]
    refine (parseReversed_secs (isDigits_toDigits _)).trans ?_
    rw [value, Option.map_some, Duration.ofSecs,
      Nat.div_mul_cancel (Nat.dvd_of_mod_eq_zero whole)]
  · rw [String.toList_append, Nat.toList_repr, List.reverse_append]
    show digitsValue 10 (Nat.toDigits 10 d).reverse.reverse = _
    rw [List.reverse_reverse, value]

def meterPrinters : Printers := { samplePrinters with duration := printDuration }

def meterCollector (metricsFiles : Option (List String)) (metrics : List MetricConfig) :
    CollectorConfig where
  name := "meter"
  protocol := .modbusTcp "10.0.0.5:502"
  slaveId := some 1
  labels := AList.insert "site" "north" ∅
  metricsFiles := metricsFiles
  metrics := metrics

/-- Metrics are published to a broker that asks for a password. -/
def meterConfig (collector : CollectorConfig) : Config where
  exporters := { mqtt := some {
    enabled := true
    endpoint := some "mqtt://broker:1883"
    auth := some ⟨"exporter", "secret"⟩ } }
  collectors := [collector]

/-- A configuration with a metrics file. -/
def meterEnvironment : Environment where
  files := {
    readToString := fun _ => .ok ""
    parseConfig := fun _ => .ok (meterConfig (meterCollector (some ["meter.yaml"])
      [Samples.wordMetric "energy" 18]))
    parseMetricsFile := fun _ => .ok {
      defaults := some { metricType := some .gauge, registerType := some .holding }
      metrics := [{ name := "power", address := some 16, dataType := some .u32 }] } }
  fileExists path := path = "config.yaml"
  home := "/root"

/-- What is loaded of the meter, and what a filter leaves of it. -/
def loadedMeter (metrics : List MetricConfig) : Config :=
  meterConfig (meterCollector (some ["meter.yaml"]) metrics)

/-- A parser that knows one document. -/
def parsersOf (document : Document) : Parsers Document where
  format := Document.format
  yaml text := if text = meterPrinters.yaml document then some document else none
  duration := parseDuration
  error _ := .msg "unknown text"

theorem readsBack_of_known (config : Config) :
    ReadsBack meterPrinters (parsersOf (config.serialize meterPrinters.duration)) config where
  yamlEnd := samplePrinters_readable.yamlEnd _ (Config.endsPlain_serialize _ _)
  yaml := ⟨_, if_pos rfl, Document.reads _⟩
  duration := parse_printDuration

def meterParsers : Parsers Document :=
  parsersOf ((loadedMeter [Samples.wordMetric "power" 16]).serialize meterPrinters.duration)

theorem meter_loaded : loadConfig meterEnvironment (some "config.yaml") =
    .ok (loadedMeter [Samples.wordMetric "power" 16, Samples.wordMetric "energy" 18]) := rfl

theorem meter_matched : filterCollectors literalFilter
      (loadedMeter [Samples.wordMetric "power" 16, Samples.wordMetric "energy" 18]).collectors none
      (some "power") = .ok (loadedMeter [Samples.wordMetric "power" 16]).collectors := rfl

/-- A metric of a metrics file is shown, and the daemon loads it inline. -/
theorem reloads_meter :
    ∃ shown, showConfigCommand meterPrinters literalFilter meterEnvironment (some "config.yaml")
        none (some "power") .yaml = .ok shown ∧
      Config.load (meterParsers.files fun _ => .ok shown.text) "saved.yaml" =
        .ok (loadedMeter [Samples.wordMetric "power" 16]).redacted := by
  obtain ⟨shown, printed, reloaded⟩ :=
    reloads meter_loaded meter_matched (readsBack_of_known (loadedMeter _))
  exact ⟨shown, printed, (reloaded _ "saved.yaml" rfl).2 (by decide) (by decide)⟩

end Commands

end BusExporter
