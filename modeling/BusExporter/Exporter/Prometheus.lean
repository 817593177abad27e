import BusExporter.Foundation.Grouping
import BusExporter.InternalMetrics

/-!
# The Prometheus exporter

The body of a scrape: the values of the store, grouped by the family names they
are exported under, and after them the internal metrics. The source pushes whole
lines onto a text; here a renderer returns the lines that it pushes, and the body
is their text.
-/

namespace BusExporter.Prometheus

open Foundation Metrics

/-! ## Names -/

def isAsciiAlphanumericOrUnderscore (c : Char) : Bool := c.isAlphanum || c = '_'

/-- Sanitise a string so that it is a name: a character that may not occur becomes an underscore,
and an underscore is put before a leading digit and in the place of an empty string. -/
def sanitizeName (s : String) : String :=
  let out := s.toList.map fun c => if isAsciiAlphanumericOrUnderscore c then c else '_'
  match out with
  | [] => "_"
  | c :: _ => String.ofList (if c.isDigit then '_' :: out else out)

/-- The fully-qualified metric name: `bus_{name}[_{unit}]`. -/
def buildMetricName (name unit : String) : String :=
  if unit = "" then "bus_" ++ sanitizeName name
  else "bus_" ++ sanitizeName name ++ "_" ++ sanitizeName unit

/-! ## Rendering -/

/-- `replace`, for a pattern of one character. -/
def replaceChar (pattern : Char) (replacement : List Char) (s : String) : String :=
  String.ofList (s.toList.flatMap fun c => if c = pattern then replacement else [c])

/-- The label value between the quotes. -/
def escaped (v : String) : String :=
  replaceChar '\n' ['\\', 'n'] (replaceChar '"' ['\\', '"'] (replaceChar '\\' ['\\', '\\'] v))

/-- The description in a line of metadata. -/
def escapedDesc (description : String) : String :=
  replaceChar '\n' ['\\', 'n'] (replaceChar '\\' ['\\', '\\'] description)

/-- A single metric value line with labels, in the order of their keys. -/
def formatMetricLine (fqname : String) (labels : Labels) (value : Float) : BodyLine :=
  .sample fqname (labels.toList.map fun label => (sanitizeName label.1, escaped label.2))
    (displayFloat value)

def typeStr : Metrics.MetricType → String
  | .gauge => "gauge"
  | .counter => "counter"

/-- The name of the family that a value belongs to. -/
def fqname (m : MetricValue) : String := buildMetricName m.name m.unit

/-- The lines of a family; its first value has the description and the type. -/
def familyLines : String × List MetricValue → List BodyLine
  | (_, []) => []
  | (fqname, first :: values) =>
    .help fqname (escapedDesc first.description) :: .type fqname (typeStr first.metricType) ::
      (first :: values).map fun m => formatMetricLine fqname m.labels m.value

/-- Render all values of the store. -/
def renderMetrics (store : MetricStore) : List BodyLine :=
  (groupBy fqname store.allMetricsFlat).toList.flatMap familyLines

/-- Render values in the order in which the store lists them. -/
def renderValues (values : List MetricValue) : List BodyLine :=
  (groupBy fqname values).toList.flatMap familyLines

theorem renderMetrics_eq (store : MetricStore) :
    renderMetrics store = renderValues store.allMetricsFlat := rfl

/-! ## The handler -/

structure PrometheusState where
  store : MetricStore
  internalMetrics : Option InternalMetrics

structure Response where
  status : ℕ
  contentType : String
  body : String

/-- Count a scrape. -/
def countScrape (im : InternalMetrics) : InternalMetrics :=
  { im with prometheusScrapesTotal := im.prometheusScrapesTotal + 1 }

/-- The lines of the body. -/
def metricsLines (state : PrometheusState) (uptime : Duration) : List BodyLine :=
  renderMetrics state.store ++
    match state.internalMetrics with
    | none => []
    | some im => .blank :: im.renderPrometheus uptime

/-- The handler of the metrics path: the scrape is counted before the body is rendered. -/
def metricsHandler (uptime : Duration) : StateM PrometheusState Response := do
  modify fun state => { state with internalMetrics := state.internalMetrics.map countScrape }
  let state ← get
  return {
    status := 200
    contentType := "text/plain; version=0.0.4; charset=utf-8"
    body := bodyText (metricsLines state uptime) }

end BusExporter.Prometheus
