import BusExporter.Foundation.Exposition
import BusExporter.Metrics

/-!
# Internal metrics

Counters about the exporter itself, one record for each collector that has
started a poll cycle, and the lines that they are exported as. The atomic counters
are natural numbers, and a body is rendered from one state of them.
-/

namespace BusExporter

open Foundation

structure CollectorStats where
  pollsTotal : ℕ := 0
  pollsSuccess : ℕ := 0
  pollsError : ℕ := 0
  readRequests : ℕ := 0
  readErrors : ℕ := 0
  lastPollDurationSecs : Float := 0.0
  deriving DecidableEq

namespace CollectorStats

def setPollDuration (stats : CollectorStats) (elapsed : Duration) : CollectorStats :=
  { stats with lastPollDurationSecs := Duration.asSecsF64 elapsed }

end CollectorStats

structure InternalMetrics where
  collectorsTotal : ℕ := 0
  collectorStats : HashMap CollectorStats := ∅
  otlpExportsTotal : ℕ := 0
  otlpErrorsTotal : ℕ := 0
  prometheusScrapesTotal : ℕ := 0
  deriving DecidableEq

namespace InternalMetrics

/-- Get or create the stats of a collector. -/
def getOrCreateCollector (im : InternalMetrics) (name : String) :
    CollectorStats × InternalMetrics :=
  let stats := (im.collectorStats.lookup name).getD {}
  (stats, { im with collectorStats := im.collectorStats.insert name stats })

/-- Update the stats of a collector, which are created if need be. -/
def updateCollector (im : InternalMetrics) (name : String)
    (update : CollectorStats → CollectorStats) : InternalMetrics :=
  let (stats, im) := im.getOrCreateCollector name
  { im with collectorStats := im.collectorStats.insert name (update stats) }

/-! ## The exposition -/

/-- A family that has a sample for each collector. -/
structure CollectorFamily where
  name : String
  description : String
  kind : String
  value : CollectorStats → String

def collectorFamilies : List CollectorFamily := [
  ⟨"bus_exporter_polls_total", "Total poll cycles per collector", "counter",
    fun s => s.pollsTotal.repr⟩,
  ⟨"bus_exporter_polls_success_total", "Successful poll cycles per collector", "counter",
    fun s => s.pollsSuccess.repr⟩,
  ⟨"bus_exporter_polls_error_total", "Poll cycles with errors per collector", "counter",
    fun s => s.pollsError.repr⟩,
  ⟨"bus_exporter_modbus_requests_total", "Total read requests per collector", "counter",
    fun s => s.readRequests.repr⟩,
  ⟨"bus_exporter_modbus_errors_total", "Failed read requests per collector", "counter",
    fun s => s.readErrors.repr⟩,
  ⟨"bus_exporter_poll_duration_seconds", "Duration of the last poll cycle in seconds", "gauge",
    fun s => displayFixed 6 s.lastPollDurationSecs⟩]

/-- A family with one sample, without labels. -/
def singleLines (name description kind value : String) : List BodyLine :=
  [.help name description, .type name kind, .sample name [] value]

/-- The collectors with stats, by name. -/
def collectors (im : InternalMetrics) : List String :=
  im.collectorStats.keys.insertionSort (· ≤ ·)

/-- The sample of a collector, with its name as it is between the quotes. -/
def collectorLine (im : InternalMetrics) (family : CollectorFamily) (c : String) :
    Option BodyLine :=
  (im.collectorStats.lookup c).map fun s =>
    .sample family.name [("collector", c)] (family.value s)

def collectorLines (im : InternalMetrics) (family : CollectorFamily) : List BodyLine :=
  .help family.name family.description :: .type family.name family.kind ::
    im.collectors.filterMap (im.collectorLine family)

/-- Render the internal metrics; `uptime` is the time since the start. -/
def renderPrometheus (im : InternalMetrics) (uptime : Duration) : List BodyLine :=
  singleLines "bus_exporter_collectors_total" "Total number of configured collectors" "gauge"
      im.collectorsTotal.repr ++
    singleLines "bus_exporter_uptime_seconds" "Seconds since exporter started" "gauge"
      (displayFixed 1 (Duration.asSecsF64 uptime)) ++
    (if im.collectors.isEmpty then [] else collectorFamilies.flatMap im.collectorLines) ++
    singleLines "bus_exporter_otlp_exports_total" "Total OTLP export attempts" "counter"
      im.otlpExportsTotal.repr ++
    singleLines "bus_exporter_otlp_errors_total" "Failed OTLP exports" "counter"
      im.otlpErrorsTotal.repr ++
    singleLines "bus_exporter_prometheus_scrapes_total" "Total Prometheus scrape requests" "counter"
      im.prometheusScrapesTotal.repr

/-! ## The values -/

/-- An internal metric, which has no unit. -/
def metricValue (name : String) (value : Float) (metricType : Metrics.MetricType)
    (labels : Metrics.Labels) (description : String) : Metrics.MetricValue where
  name := name
  value := value
  metricType := metricType
  labels := labels
  description := description
  unit := ""

/-- The values of a collector, labelled with its name. -/
def collectorValues : String × CollectorStats → List Metrics.MetricValue
  | (c, s) =>
    let labels : Metrics.Labels := (∅ : Metrics.Labels).insert "collector" c
    let counter (name : String) (value : ℕ) (description : String) : Metrics.MetricValue :=
      metricValue name (Float.ofNat value) .counter labels description
    [counter "bus_exporter_polls_total" s.pollsTotal "Total poll cycles per collector",
      counter "bus_exporter_polls_success_total" s.pollsSuccess
        "Successful poll cycles per collector",
      counter "bus_exporter_polls_error_total" s.pollsError
        "Poll cycles with errors per collector",
      counter "bus_exporter_modbus_requests_total" s.readRequests
        "Total read requests per collector",
      counter "bus_exporter_modbus_errors_total" s.readErrors
        "Failed read requests per collector",
      metricValue "bus_exporter_poll_duration_seconds" s.lastPollDurationSecs .gauge labels
        "Duration of the last poll cycle in seconds"]

/-- All internal metrics; `uptime` is the time since the start. -/
def toMetricValues (im : InternalMetrics) (uptime : Duration) : List Metrics.MetricValue :=
  [metricValue "bus_exporter_collectors_total" (Float.ofNat im.collectorsTotal) .gauge ∅
      "Total number of configured collectors",
    metricValue "bus_exporter_uptime_seconds" (Duration.asSecsF64 uptime) .gauge ∅
      "Seconds since exporter started"] ++
  im.collectorStats.pairs.flatMap collectorValues ++
  [metricValue "bus_exporter_otlp_exports_total" (Float.ofNat im.otlpExportsTotal) .counter ∅
      "Total OTLP export attempts",
    metricValue "bus_exporter_otlp_errors_total" (Float.ofNat im.otlpErrorsTotal) .counter ∅
      "Failed OTLP exports",
    metricValue "bus_exporter_prometheus_scrapes_total" (Float.ofNat im.prometheusScrapesTotal)
      .counter ∅ "Total Prometheus scrape requests"]

end InternalMetrics

end BusExporter
