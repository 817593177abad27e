import BusExporter.InternalMetrics
import Mathlib.Data.Finset.Insert

/-!
# The OTLP push loop

Every tick registers an instrument for each metric name that was not seen before
and shares the snapshot with the callbacks, which report the values of their name
whenever the SDK collects. The SDK is a parameter: the names it accepts are those
of its own rule, and it makes an instrument a no-op if its unit is too long or not
ASCII.
-/

namespace BusExporter.Otlp

open Foundation Metrics

/-! ## Instruments -/

/-- An observable instrument, as it is built. -/
structure Instrument where
  name : String
  kind : Metrics.MetricType
  description : String
  unit : String
  deriving DecidableEq

/-- The SDK's rule for units. -/
def UnitAllowed (unit : String) : Prop := unit.length ≤ 63 ∧ ∀ c ∈ unit.toList, c.val < 128

instance (unit : String) : Decidable (UnitAllowed unit) := inferInstanceAs (Decidable (_ ∧ _))

/-- What the SDK accepts: its rule for names, next to the one for units. -/
structure Sdk where
  -- The rule for names depends on the version and the features of the SDK.
  allowsName : String → Bool

/-- An instrument whose name or unit the SDK rejects does nothing. -/
def Sdk.isLive (sdk : Sdk) (instrument : Instrument) : Bool :=
  sdk.allowsName instrument.name && decide (UnitAllowed instrument.unit)

/-- A reported value. -/
structure Observation where
  name : String
  kind : Metrics.MetricType
  value : Float
  attributes : Labels
  deriving DecidableEq

/-- The instruments of a meter, with the names they were registered under and the values that
their callbacks share. -/
structure Scope where
  instruments : List Instrument := []
  registered : Finset String := ∅
  shared : List MetricValue := []

/-- The instrument that is built for a metric. -/
def instrumentOf (m : MetricValue) : Instrument := ⟨m.name, m.metricType, m.description, m.unit⟩

namespace Scope

variable (scope : Scope)

def registerObservable (m : MetricValue) : Scope :=
  { scope with instruments := scope.instruments ++ [instrumentOf m] }

/-- Register an instrument if the name of the metric is new. -/
def registerNew (m : MetricValue) : Scope :=
  -- Only the name counts: the type of a later value under it is not looked at.
  if m.name ∈ scope.registered then scope
  else { scope.registerObservable m with registered := insert m.name scope.registered }

def registerNewInstruments (metrics : List MetricValue) : Scope :=
  metrics.foldl registerNew scope

/-- The callback of an instrument: every shared value with its name. -/
def observe (instrument : Instrument) : List Observation :=
  (scope.shared.filter (·.name = instrument.name)).map fun v =>
    ⟨instrument.name, instrument.kind, v.value, v.labels⟩

/-- What the SDK gets when it collects. -/
def collect (sdk : Sdk) : List Observation :=
  (scope.instruments.filter sdk.isLive).flatMap scope.observe

/-- Register what is new, then share the values. -/
def update (metrics : List MetricValue) : Scope :=
  { scope.registerNewInstruments metrics with shared := metrics }

end Scope

/-! ## The loop -/

/-- The scopes of the two meters. -/
structure State where
  metrics : Scope := {}
  internal : Scope := {}

/-- What the loop reads in an iteration: the snapshot of the store and, if they are collected, the
internal metrics and the time since the start. -/
structure Reading where
  metrics : List MetricValue
  internalMetrics : Option (InternalMetrics × Duration)

/-- Count an export. -/
def countExport (im : InternalMetrics) : InternalMetrics :=
  { im with otlpExportsTotal := im.otlpExportsTotal + 1 }

namespace State

variable (s : State)

def update (metrics : List MetricValue) (internalMetrics : Option (InternalMetrics × Duration)) :
    State where
  metrics := s.metrics.update metrics
  internal :=
    match internalMetrics with
    -- Without internal metrics the second meter keeps what it shared last.
    | none => s.internal
    | some (im, uptime) => s.internal.update (im.toMetricValues uptime)

/-- An iteration of the loop: nothing happens if there is nothing to export. -/
def tick (reading : Reading) : State :=
  -- The callbacks then still share the values of an earlier tick.
  if reading.metrics.isEmpty ∧ reading.internalMetrics.isNone then s
  else s.update reading.metrics (reading.internalMetrics.map fun (im, uptime) =>
    (countExport im, uptime))

/-- The final flush, which is not counted. -/
def flush (reading : Reading) : State := s.update reading.metrics reading.internalMetrics

end State

/-- The state after some ticks. -/
def afterTicks (ticks : List Reading) : State := ticks.foldl State.tick {}

end BusExporter.Otlp
