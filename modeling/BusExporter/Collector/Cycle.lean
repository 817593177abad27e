import BusExporter.InternalMetrics
import BusExporter.Reader.Basic

/-!
# One poll cycle's bookkeeping

What a collector computes from the results of a read: the fresh values, the
error counts, and the snapshot that it publishes. The loops go over hash maps in
some order, here the order of the map's entries.
-/

namespace BusExporter.Collector

open Foundation Metrics

/-- The values of a cycle, by metric name. -/
abbrev Cache := HashMap MetricValue

/-- The number of failures of each metric. -/
abbrev ErrorCounts := HashMap ℕ

/-- `map_metric_type`. -/
def mapMetricType : BusExporter.MetricType → Metrics.MetricType
  | .gauge => .gauge
  | .counter => .counter

/-- The value of a metric that was read. -/
def freshValue (cfg : MetricConfig) (scaled : Float) : MetricValue where
  name := cfg.name
  value := scaled
  metricType := mapMetricType cfg.metricType
  labels := ∅
  description := cfg.description
  unit := cfg.unit

/-! ## The results of a read -/

/-- What the loop over the results keeps track of. -/
structure Reading where
  localCache : Cache
  errorCounts : ErrorCounts
  readErrors : ℕ
  connectionError : Bool
  pollHadError : Bool

namespace Reading

def start (errorCounts : ErrorCounts) : Reading := ⟨∅, errorCounts, 0, false, false⟩

def succeed (reading : Reading) (cfg : MetricConfig) (scaled : Float) : Reading :=
  { reading with localCache := reading.localCache.insert cfg.name (freshValue cfg scaled) }

/-- A failure that ends the loop, since the connection is gone. -/
def lose (reading : Reading) : Reading :=
  { reading with
    readErrors := reading.readErrors + 1
    connectionError := true
    pollHadError := true }

/-- A failure of one metric on a connection that is still up. -/
def fail (reading : Reading) (name : String) : Reading :=
  { reading with
    errorCounts := reading.errorCounts.insert name ((reading.errorCounts.lookup name).getD 0 + 1)
    readErrors := reading.readErrors + 1
    pollHadError := true }

end Reading

/-- `collector.metrics.iter().find(|m| m.name == name)`. -/
def findMetric (metrics : List MetricConfig) (name : String) : Option MetricConfig :=
  metrics.find? (·.name = name)

/-- The loop over the results: names that are not configured are skipped, and a failure on a
lost connection ends it. -/
def readLoop (metrics : List MetricConfig) (connected : Bool) (reading : Reading) :
    List (String × MetricResult) → Reading
  | [] => reading
  | (name, result) :: results =>
    match findMetric metrics name, result with
    | none, _ => readLoop metrics connected reading results
    | some cfg, .ok (_, scaled) => readLoop metrics connected (reading.succeed cfg scaled) results
    | some _, .error _ =>
      if connected then readLoop metrics connected (reading.fail name) results else reading.lose

/-! ## The snapshot -/

/-- Carry a value of the previous cycle forward, unless this cycle has one. -/
def carryForward (localCache : Cache) : String × MetricValue → Cache
  | (name, prev) => if name ∈ localCache then localCache else localCache.insert name prev

/-- The name of a metric's error counter. -/
def errorsName (metricName : String) : String := metricName ++ "_errors"

/-- The value of an error counter that is not in the cache yet. -/
def errorValue (metricName : String) (count : ℕ) : MetricValue where
  name := errorsName metricName
  value := (UInt64.ofNat count).toFloat
  metricType := .counter
  labels := ∅
  description := s!"Error count for metric {metricName}"
  unit := ""

/-- Put an error count into the cache: a new counter, or a new value of the entry under
the counter's name. -/
def countErrors (localCache : Cache) : String × ℕ → Cache
  | (metricName, count) =>
    match localCache.lookup (errorsName metricName) with
    | none => localCache.insert (errorsName metricName) (errorValue metricName count)
    | some m =>
      localCache.insert (errorsName metricName) { m with value := (UInt64.ofNat count).toFloat }

/-- The cache that a cycle publishes and keeps for the next one. -/
def mergeSnapshot (localCache prevCache : Cache) (errorCounts : ErrorCounts) : Cache :=
  errorCounts.pairs.foldl countErrors (prevCache.pairs.foldl carryForward localCache)

end BusExporter.Collector
