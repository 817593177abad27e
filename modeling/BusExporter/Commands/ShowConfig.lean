import BusExporter.Commands.Filter
import BusExporter.Config.MetricsFiles
import BusExporter.Config.Serialize
import BusExporter.Foundation.DocumentText

/-!
# Showing the configuration

`show-config` prints the loaded configuration. The MQTT password is redacted in it, and
the headers of the OTLP exporter, which authorize the exporter as a password does, are
printed as they are. How a document is written as YAML or as JSON is up to the outside
world; the order in which a map is printed is the order of its entries.
-/

namespace BusExporter.Commands

open Foundation

/-! ## The command -/

/-- What the command finds around it. -/
structure Environment where
  files : Files
  fileExists : String → Bool
  /-- The variable `HOME`, or nothing. -/
  home : String

/-- Default search paths for the configuration, in the order of their priority. -/
def configSearchPaths : List String :=
  ["./config.yaml", "~/.config/bus-exporter/config.yaml", "/etc/bus-exporter/config.yaml"]

/-- `pattern.replace('~', &home)`. -/
def replaceTilde (home pattern : String) : String :=
  String.ofList (pattern.toList.flatMap fun c => if c = '~' then home.toList else [c])

section

variable (environment : Environment)

/-- The configuration file: the given one, or the first of the search paths that exists. -/
def findConfigFile (explicit : Option String) : Except Error String :=
  match explicit with
  | some p =>
    if environment.fileExists p then .ok p
    else .error (.msg s!"specified config file not found: {p}")
  | none =>
    let searched := configSearchPaths.map (replaceTilde environment.home)
    match searched.find? environment.fileExists with
    | some path => .ok path
    | none =>
      .error (.msg ("no config file found; searched:\n" ++ "\n".intercalate searched))

def loadConfig (configPath : Option String) : Except Error Config := do
  let path ← findConfigFile environment configPath
  Config.loadForPull environment.files path

end

inductive OutputFormat where
  | yaml
  | json
  deriving DecidableEq, Repr

/-- How documents and durations are written. -/
structure Printers where
  yaml : Document → String
  json : Document → String
  duration : Duration → String

/-- What is printed to the standard error and to the standard output. -/
structure Output where
  warning : Option String
  text : String
  deriving DecidableEq

section

variable (printers : Printers) (compile : String → Except String Matcher)

/-- What `println!` is given. -/
def printedText (format : OutputFormat) (document : Document) : String :=
  match format with
  | .yaml => String.ofList (trimEnd (printers.yaml document).toList)
  | .json => printers.json document

/-- What the command makes of a loaded configuration. -/
def showConfig (cfg : Config) (collectorFilter metricFilter : Option String)
    (format : OutputFormat) : Except Error Output := do
  let filtered ← filterCollectors compile cfg.collectors collectorFilter metricFilter
  let warning :=
    if filtered.isEmpty ∧ (collectorFilter.isSome ∨ metricFilter.isSome) then
      some "warning: no collectors matched the filter"
    else none
  let document := { cfg with collectors := filtered }.serialize printers.duration
  return ⟨warning, printedText printers format document ++ "\n"⟩

def showConfigCommand (environment : Environment)
    (configPath collectorFilter metricFilter : Option String) (format : OutputFormat) :
    Except Error Output := do
  let cfg ← loadConfig environment configPath
  showConfig printers compile cfg collectorFilter metricFilter format

end

/-! ## What printing shows -/

/-- What is printed can be read: documents that differ in strings are printed differently, and
YAML ends with one line break, after the last scalar. -/
structure Printers.Readable (printers : Printers) : Prop where
  json : ∀ d d' : Document, d.Alike d' → printers.json d = printers.json d' → d = d'
  yaml : ∀ d d' : Document, d.Alike d' → printers.yaml d = printers.yaml d' → d = d'
  yamlEnd : ∀ d, d.endsPlain = true →
    ∃ body last, (printers.yaml d).toList = body ++ [last, '\n'] ∧ ¬ isWhiteSpace last

/-- The filter of an option is no regular expression. -/
def InvalidFilter (compile : String → Except String Matcher) (filter : Option String) : Prop :=
  ∃ pattern e, filter = some pattern ∧ compile pattern = .error e

variable {printers : Printers} {compile : String → Except String Matcher}

theorem compileFilter_eq_error_iff (option : String) (filter : Option String) :
    (∃ e, compileFilter compile option filter = .error e) ↔ InvalidFilter compile filter := by
  cases filter with
  | none => simp [compileFilter, InvalidFilter]
  | some pattern =>
    cases compiled : compile pattern <;> simp [compileFilter, InvalidFilter, compiled]

/-- Filtering fails exactly when one of the filters is invalid. -/
theorem filterCollectors_eq_error_iff (collectors : List CollectorConfig)
    (collectorFilter metricFilter : Option String) :
    (∃ e, filterCollectors compile collectors collectorFilter metricFilter = .error e) ↔
      InvalidFilter compile collectorFilter ∨ InvalidFilter compile metricFilter := by
  rw [← compileFilter_eq_error_iff "--collector", ← compileFilter_eq_error_iff "--metric",
    filterCollectors]
  cases compileFilter compile "--collector" collectorFilter with
  | error e => exact ⟨fun _ => .inl ⟨e, rfl⟩, fun _ => ⟨e, rfl⟩⟩
  | ok collectorRe =>
    cases compileFilter compile "--metric" metricFilter with
    | error e => exact ⟨fun _ => .inr ⟨e, rfl⟩, fun _ => ⟨e, rfl⟩⟩
    | ok metricRe => simp [bind, Except.bind, pure, Except.pure]

/-- Trimming a YAML text loses nothing that a string of the document could have made. -/
theorem Printers.Readable.trimmed (readable : printers.Readable) {d d' : Document}
    (plain : d.endsPlain = true) (plain' : d'.endsPlain = true) (alike : d.Alike d')
    (same : trimEnd (printers.yaml d).toList = trimEnd (printers.yaml d').toList) : d = d' := by
  obtain ⟨body, last, text, visible⟩ := readable.yamlEnd d plain
  obtain ⟨body', last', text', visible'⟩ := readable.yamlEnd d' plain'
  rw [text, text', trimEnd_newline visible, trimEnd_newline visible'] at same
  refine readable.yaml d d' alike (String.toList_inj.mp ?_)
  have split : ∀ (xs : List Char) (x : Char), xs ++ [x, '\n'] = xs ++ [x] ++ ['\n'] := by simp
  rw [text, text', split, split, same]

/-- Alike documents are printed in the same way only if they are the same. -/
theorem Printers.Readable.printedText_eq_iff (readable : printers.Readable) (format : OutputFormat)
    {d d' : Document} (plain : d.endsPlain = true) (plain' : d'.endsPlain = true)
    (alike : d.Alike d') :
    printedText printers format d = printedText printers format d' ↔ d = d' := by
  refine ⟨fun same => ?_, fun same => same ▸ rfl⟩
  cases format with
  | json => exact readable.json d d' alike same
  | yaml => exact readable.trimmed plain plain' alike (String.ofList_injective same)

variable {config config' : Config}

/-- Filtering the collectors brings in no difference but for credentials. -/
theorem withCollectors_sameButCredentials (same : config.SameButCredentials config')
    (collectors : List CollectorConfig) :
    Config.SameButCredentials { config with collectors := collectors }
      { config' with collectors := collectors } where
  otlp := same.otlp
  mqtt := same.mqtt
  rest := by rw [← same.rest]

theorem showConfig_eq_iff (readable : printers.Readable)
    (same : config.SameButCredentials config') (collectorFilter metricFilter : Option String)
    (format : OutputFormat) :
    showConfig printers compile config collectorFilter metricFilter format =
        showConfig printers compile config' collectorFilter metricFilter format ↔
      (InvalidFilter compile collectorFilter ∨ InvalidFilter compile metricFilter) ∨
        config.headers = config'.headers := by
  have collectors : config.collectors = config'.collectors := by rw [← same.rest]
  rw [← filterCollectors_eq_error_iff config.collectors, showConfig, showConfig, collectors]
  cases filterCollectors compile config'.collectors collectorFilter metricFilter with
  | error e => simp [bind, Except.bind]
  | ok filtered =>
    have sameFiltered := withCollectors_sameButCredentials same filtered
    have text := readable.printedText_eq_iff format
      (Config.endsPlain_serialize printers.duration _)
      (Config.endsPlain_serialize printers.duration _)
      (sameFiltered.alike printers.duration)
    rw [sameFiltered.serialize_eq_iff printers.duration] at text
    simp only [bind, Except.bind, pure, Except.pure, Except.ok.injEq, Output.mk.injEq, true_and,
      String.append_left_inj, reduceCtorEq, exists_false, false_or]
    exact text

/-- Two configurations that differ in credentials only are shown alike exactly when the headers
have the same values, or a filter is invalid and nothing is shown. -/
theorem showConfigCommand_eq_iff (readable : printers.Readable)
    {environment environment' : Environment} {configPath configPath' : Option String}
    (loaded : loadConfig environment configPath = .ok config)
    (loaded' : loadConfig environment' configPath' = .ok config')
    (same : config.SameButCredentials config') (collectorFilter metricFilter : Option String)
    (format : OutputFormat) :
    showConfigCommand printers compile environment configPath collectorFilter metricFilter format =
        showConfigCommand printers compile environment' configPath' collectorFilter metricFilter
          format ↔
      (InvalidFilter compile collectorFilter ∨ InvalidFilter compile metricFilter) ∨
        config.headers = config'.headers := by
  rw [showConfigCommand, showConfigCommand, loaded, loaded']
  exact showConfig_eq_iff readable same collectorFilter metricFilter format

/-! ## A token in a header -/

/-- Block YAML, indented JSON, and durations in whole seconds. -/
def samplePrinters : Printers where
  yaml d := String.ofList d.yaml
  json d := String.ofList (d.json 0)
  duration d := (d / 1000000000).repr ++ "s"

theorem samplePrinters_readable : samplePrinters.Readable where
  json _ _ alike same :=
    (alike.eq_of_json (congrArg (· ++ []) (String.ofList_injective same))).1
  yaml _ _ alike same := alike.eq_of_yaml (String.ofList_injective same)
  yamlEnd d plain := by
    rw [samplePrinters, String.toList_ofList]
    exact d.endsVisibly_yaml plain

/-- A filter is found in a text as it is. -/
def literalFilter (pattern : String) : Except String Matcher :=
  .ok fun text => containsText pattern.toList text.toList

def tokenConfig (token password : String) : Config where
  exporters := {
    otlp := some {
      enabled := true
      endpoint := some "http://collector:4317"
      headers := AList.insert "authorization" ("Bearer " ++ token) ∅ }
    mqtt := some { auth := some ⟨"exporter", password⟩ } }
  collectors := [{
    name := "plc"
    protocol := .modbusTcp "plc.local:502"
    slaveId := some 1
    metrics := [{
      name := "power", metricType := .gauge, registerType := some .holding, address := some 16
      dataType := .u32 }] }]

/-- A file system with one configuration. -/
def tokenEnvironment (token password : String) : Environment where
  files := {
    readToString := fun _ => .ok ""
    parseConfig := fun _ => .ok (tokenConfig token password)
    parseMetricsFile := fun _ => .error (.msg "no such file") }
  fileExists path := path = "config.yaml"
  home := "/root"

theorem tokenConfig_loaded (token password : String) :
    loadConfig (tokenEnvironment token password) (some "config.yaml") =
      .ok (tokenConfig token password) := rfl

theorem tokenConfig_same (token token' password password' : String) :
    (tokenConfig token password).SameButCredentials (tokenConfig token' password') where
  otlp := .some ⟨rfl, rfl⟩
  mqtt := rfl
  rest := rfl

def shown (token password : String) (format : OutputFormat) : Except Error Output :=
  showConfigCommand samplePrinters literalFilter (tokenEnvironment token password)
    (some "config.yaml") none none format

/-- The password cannot be told from what is shown. -/
theorem showConfigCommand_eq_iff_password :
    shown "alpha" "secret" .yaml = shown "alpha" "hunter2" .yaml :=
  (showConfigCommand_eq_iff samplePrinters_readable (tokenConfig_loaded "alpha" "secret")
    (tokenConfig_loaded "alpha" "hunter2") (tokenConfig_same ..) none none .yaml).mpr (.inr rfl)

/-- The token in the header can. -/
theorem token_is_shown :
    (tokenConfig "alpha" "secret").SameButCredentials (tokenConfig "beta" "secret") ∧
      loadConfig (tokenEnvironment "alpha" "secret") (some "config.yaml") =
        .ok (tokenConfig "alpha" "secret") ∧
      loadConfig (tokenEnvironment "beta" "secret") (some "config.yaml") =
        .ok (tokenConfig "beta" "secret") ∧
      shown "alpha" "secret" .yaml ≠ shown "beta" "secret" .yaml := by
  have same := tokenConfig_same "alpha" "beta" "secret" "secret"
  refine ⟨same, rfl, rfl, ?_⟩
  change showConfig samplePrinters literalFilter (tokenConfig "alpha" "secret") none none .yaml ≠
    showConfig samplePrinters literalFilter (tokenConfig "beta" "secret") none none .yaml
  rw [Ne, showConfig_eq_iff samplePrinters_readable same]
  intro headers
  simp only [InvalidFilter, reduceCtorEq, false_and, exists_false, false_or] at headers
  have values := congrArg (Option.map HashMap.pairs) headers
  revert values
  decide

example : samplePrinters.yaml (OtlpExporterConfig.serialize samplePrinters.duration
      { headers := AList.insert "authorization" "Bearer alpha" ∅ }) =
    "enabled: false\ntimeout: 10s\ninterval: 10s\nheaders:\n  authorization: Bearer alpha\n" := by
  decide +kernel

end BusExporter.Commands
