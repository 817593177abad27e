import BusExporter.Config.Basic

/-!
# Metric values and the store

A collector publishes its snapshot under its name, and exporters only read. The
hash maps of the source are association lists, whose order stands for the
arbitrary order of iteration; the ordered label maps are tree maps. The
timestamp of a value is left out, since no exporter reads it.
-/

namespace BusExporter.Metrics

open Foundation

inductive MetricType where
  | gauge
  | counter
  deriving DecidableEq, Repr

/-- Labels, in key order. -/
abbrev Labels := Std.ExtTreeMap String String

structure MetricValue where
  name : String
  value : Float
  metricType : MetricType
  labels : Labels
  description : String
  unit : String
  deriving DecidableEq

/-- The entries of one label map put over another. -/
def overlay (base upper : Labels) : Labels :=
  upper.toList.foldl (fun labels (k, v) => labels.insert k v) base

/-- The labels of every value of a collector: global, then collector, then its name. -/
def baseLabels (collectorName : String) (globalLabels collectorLabels : Labels) : Labels :=
  (overlay globalLabels collectorLabels).insert "collector" collectorName

/-- A value with its final labels: the base labels, its own and its unit. -/
def labelled (base : Labels) (m : MetricValue) : MetricValue :=
  let own := overlay base m.labels
  { m with labels := if m.unit = "" then own else own.insert "unit" m.unit }

/-- The latest snapshot of every collector. -/
abbrev MetricStore := HashMap (List MetricValue)

namespace MetricStore

/-- Replace a collector's snapshot. Of values that share a name the last one wins. -/
def publish (store : MetricStore) (collectorName : String) (metrics : List MetricValue)
    (globalLabels collectorLabels : Labels) : MetricStore :=
  let base := baseLabels collectorName globalLabels collectorLabels
  let deduped : HashMap MetricValue :=
    metrics.foldl (fun deduped m => deduped.insert m.name (labelled base m)) ∅
  store.insert collectorName deduped.values

def allMetrics (store : MetricStore) : List (List MetricValue) :=
  store.values

def allMetricsFlat (store : MetricStore) : List MetricValue :=
  store.allMetrics.flatten

def metricsFor (store : MetricStore) (collectorName : String) : List MetricValue :=
  (store.lookup collectorName).getD []

def removeCollector (store : MetricStore) (collectorName : String) : MetricStore :=
  store.erase collectorName

end MetricStore

end BusExporter.Metrics
