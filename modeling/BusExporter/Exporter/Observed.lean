import BusExporter.Collector.Published
import BusExporter.Exporter.Otlp
import BusExporter.Foundation.Grouping
import BusExporter.Foundation.Indexed
import BusExporter.Metrics.LastPublish

/-!
# What the SDK observes

The instrument of a name is the one of the first value that was ever seen under it.
So a value is observed as what it is if this first value had its type, and if the
SDK accepts the instrument that was built for it.
-/

namespace BusExporter.Otlp

open Foundation Metrics Collector

/-! ## What has to be observed -/

/-- The observation of a metric by an instrument of its own kind. -/
def own (m : MetricValue) : Observation := ⟨m.name, m.metricType, m.value, m.labels⟩

/-- An observation of a metric, of whatever kind. -/
def Observation.IsOf (o : Observation) (m : MetricValue) : Prop :=
  o.name = m.name ∧ o.value = m.value ∧ o.attributes = m.labels

instance (o : Observation) (m : MetricValue) : Decidable (o.IsOf m) :=
  inferInstanceAs (Decidable (_ ∧ _))

/-- Every metric of the snapshot is observed exactly once, by an instrument of its own kind. -/
def ExportsOnce (snapshot : List MetricValue) (observations : List Observation) : Prop :=
  (observations.filter fun o => ∃ m ∈ snapshot, o.IsOf m).Perm (snapshot.map own)

/-- The metrics of the snapshots, in the order in which they are seen. -/
def seen (ticks : List Reading) : List MetricValue := ticks.flatMap (·.metrics)

/-- The first value that is seen under a name gets a live instrument, and all values under this
name have its type. -/
def FirstSightFits (sdk : Sdk) (seen : List MetricValue) : Prop :=
  ∀ m ∈ seen, ∀ first, seen.find? (·.name = m.name) = some first →
    sdk.isLive (instrumentOf first) ∧ first.metricType = m.metricType

/-! ## Scopes -/

/-- The instruments of a scope are those of the values that were seen first, and its names are
theirs. -/
structure ScopeInv (seen : List MetricValue) (scope : Scope) : Prop where
  wins : FirstWins Instrument.name (seen.map instrumentOf) scope.instruments
  registered : ∀ name, name ∈ scope.registered ↔ name ∈ scope.instruments.map (·.name)

namespace ScopeInv

variable {seen : List MetricValue} {scope : Scope}

theorem init : ScopeInv [] {} := ⟨.nil, by simp⟩

theorem registerNew (inv : ScopeInv seen scope) (m : MetricValue) :
    ScopeInv (seen ++ [m]) (scope.registerNew m) := by
  unfold Scope.registerNew
  by_cases known : m.name ∈ scope.registered
  · rw [if_pos known]
    refine ⟨?_, inv.registered⟩
    rw [List.map_append]
    -- The name has its instrument already; `registered` and `instruments` stay as they are.
    exact inv.wins.skip ((inv.registered _).mp known)
  · rw [if_neg known]
    constructor
    · rw [List.map_append]
      -- A new name: its instrument goes to the end, behind those of all names seen so far.
      exact inv.wins.concat fun mem => known ((inv.registered _).mpr mem)
    · intro name
      simp only [Scope.registerObservable, Finset.mem_insert, inv.registered, List.map_append,
        List.mem_append, List.map_singleton, List.mem_singleton, instrumentOf]
      exact or_comm

theorem registerNewInstruments (inv : ScopeInv seen scope) (metrics : List MetricValue) :
    ScopeInv (seen ++ metrics) (scope.registerNewInstruments metrics) := by
  induction metrics generalizing seen scope with
  | nil => simpa [Scope.registerNewInstruments] using inv
  | cons m metrics ih => simpa [Scope.registerNewInstruments] using ih (inv.registerNew m)

theorem update (inv : ScopeInv seen scope) (metrics : List MetricValue) :
    ScopeInv (seen ++ metrics) (scope.update metrics) :=
  ⟨(inv.registerNewInstruments metrics).wins, (inv.registerNewInstruments metrics).registered⟩

/-- The instrument of a name is that of the value that was seen first under it. -/
theorem mem_instruments (inv : ScopeInv seen scope) {instrument : Instrument} :
    instrument ∈ scope.instruments ↔
      ∃ first, seen.find? (·.name = instrument.name) = some first ∧
        instrumentOf first = instrument := by
  rw [inv.wins.mem_iff, List.find?_map, Option.map_eq_some_iff]
  rfl

end ScopeInv

/-- What is observed if all instruments fit. -/
theorem perm_collect {sdk : Sdk} {seen : List MetricValue} {scope : Scope}
    (inv : ScopeInv seen scope) (fits : FirstSightFits sdk seen)
    (sharedSeen : ∀ m ∈ scope.shared, m ∈ seen) :
    (scope.collect sdk).Perm (scope.shared.map own) := by
  -- No instrument is a no-op, since the first value of its name fits.
  have live : scope.instruments.filter sdk.isLive = scope.instruments := by
    rw [List.filter_eq_self]
    intro instrument mem
    obtain ⟨first, found, rfl⟩ := inv.mem_instruments.mp mem
    exact (fits first (List.mem_of_find?_eq_some found) first found).1
  -- So each value is observed by an instrument of its own type, grouped by name.
  have observed : scope.collect sdk =
      ((scope.instruments.map (·.name)).flatMap fun name =>
        scope.shared.filter (·.name = name)).map own := by
    rw [Scope.collect, live, List.flatMap_map, List.map_flatMap]
    refine List.flatMap_congr fun instrument mem => List.map_congr_left fun v inside => ?_
    obtain ⟨first, found, rfl⟩ := inv.mem_instruments.mp mem
    rw [List.mem_filter, decide_eq_true_iff] at inside
    have sameType := (fits v (sharedSeen v inside.1) first (by rw [inside.2]; exact found)).2
    rw [own, instrumentOf, sameType, inside.2]
    rfl
  rw [observed]
  -- The names are distinct and cover the snapshot: each value is in exactly one group.
  refine (perm_flatMap_filter inv.wins.distinct fun m mem => ?_).map _
  rw [inv.wins.keys, List.map_map]
  exact List.mem_map.mpr ⟨m, sharedSeen m mem, rfl⟩

/-- A metric that is observed as what it is has an instrument that fits. -/
theorem fits_of_observed {sdk : Sdk} {seen : List MetricValue} {scope : Scope}
    (inv : ScopeInv seen scope) {m first : MetricValue}
    (found : seen.find? (·.name = m.name) = some first) (observed : own m ∈ scope.collect sdk) :
    sdk.isLive (instrumentOf first) ∧ first.metricType = m.metricType := by
  obtain ⟨instrument, mem, inside⟩ := List.mem_flatMap.mp observed
  rw [List.mem_filter] at mem
  obtain ⟨v, -, same⟩ := List.mem_map.mp inside
  obtain ⟨first', found', rfl⟩ := inv.mem_instruments.mp mem.1
  have sameName : first'.name = m.name := congrArg Observation.name same
  -- An observation carries the kind of the instrument, which is that of the first value.
  have sameFirst : first' = first := by
    change seen.find? (·.name = first'.name) = some first' at found'
    rw [sameName, found, Option.some_inj] at found'
    exact found'.symm
  subst sameFirst
  exact ⟨mem.2, congrArg Observation.kind same⟩

/-- All observations of shared values are observations of the snapshot. -/
theorem exportsOnce_of_perm {snapshot : List MetricValue} {observations : List Observation}
    (perm : observations.Perm (snapshot.map own)) : ExportsOnce snapshot observations := by
  have all : observations.filter (fun o => ∃ m ∈ snapshot, o.IsOf m) = observations := by
    rw [List.filter_eq_self]
    intro o mem
    obtain ⟨m, inside, rfl⟩ := List.mem_map.mp (perm.mem_iff.mp mem)
    exact decide_eq_true ⟨m, inside, rfl, rfl, rfl⟩
  rw [ExportsOnce, all]
  exact perm

theorem ExportsOnce.observed {snapshot : List MetricValue} {observations : List Observation}
    (exports : ExportsOnce snapshot observations) {m : MetricValue} (mem : m ∈ snapshot) :
    own m ∈ observations :=
  (List.mem_filter.mp (exports.mem_iff.mpr (List.mem_map_of_mem mem))).1

/-! ## Runs -/

/-- At each collection after a tick every metric of the current snapshot is exported once. -/
def ExportsEvery (sdk : Sdk) (ticks : List Reading) : Prop :=
  ∀ earlier reading later, ticks = earlier ++ reading :: later →
    ExportsOnce reading.metrics ((afterTicks (earlier ++ [reading])).metrics.collect sdk)

@[simp]
theorem seen_append (ticks ticks' : List Reading) :
    seen (ticks ++ ticks') = seen ticks ++ seen ticks' :=
  List.flatMap_append

@[simp]
theorem seen_singleton (reading : Reading) : seen [reading] = reading.metrics := by
  simp [seen]

/-- Later snapshots do not change what was seen first. -/
theorem find?_seen_append {earlier later : List MetricValue} {name : String}
    (known : ∃ m ∈ earlier, m.name = name) :
    (earlier ++ later).find? (·.name = name) = earlier.find? (·.name = name) := by
  obtain ⟨first, found⟩ : ∃ first, earlier.find? (·.name = name) = some first := by
    rw [← Option.isSome_iff_exists, List.find?_isSome]
    simpa using known
  rw [List.find?_append, found, Option.some_or]

theorem FirstSightFits.of_append {sdk : Sdk} {earlier later : List MetricValue}
    (fits : FirstSightFits sdk (earlier ++ later)) : FirstSightFits sdk earlier := by
  intro m mem first found
  refine fits m (List.mem_append_left _ mem) first ?_
  rw [find?_seen_append ⟨m, mem, rfl⟩]
  exact found

/-- A scope keeps track of what the ticks have seen and shares some of it. -/
structure Tracks (seen : List MetricValue) (scope : Scope) : Prop where
  inv : ScopeInv seen scope
  sharedSeen : ∀ m ∈ scope.shared, m ∈ seen

namespace Tracks

variable {seen : List MetricValue} {scope : Scope}

theorem init : Tracks [] {} := ⟨.init, by simp⟩

theorem update (tracks : Tracks seen scope) (metrics : List MetricValue) :
    Tracks (seen ++ metrics) (scope.update metrics) :=
  ⟨tracks.inv.update metrics, fun _ mem => List.mem_append_right _ mem⟩

/-- After an update, everything that fits is exported. -/
theorem exportsOnce_update (tracks : Tracks seen scope) {sdk : Sdk} (metrics : List MetricValue)
    (fits : FirstSightFits sdk (seen ++ metrics)) :
    ExportsOnce metrics ((scope.update metrics).collect sdk) := by
  have updated := tracks.update metrics
  exact exportsOnce_of_perm (perm_collect updated.inv fits updated.sharedSeen)

end Tracks

theorem tracks_tick {ticks : List MetricValue} {s : State} (tracks : Tracks ticks s.metrics)
    (reading : Reading) : Tracks (ticks ++ reading.metrics) (s.tick reading).metrics := by
  unfold State.tick
  split
  · -- An idle tick leaves the scope as it is, and it has not seen anything new.
    rename_i idle
    rw [List.isEmpty_iff.mp idle.1, List.append_nil]
    exact tracks
  · exact tracks.update reading.metrics

theorem tracks_afterTicks (ticks : List Reading) :
    Tracks (seen ticks) (afterTicks ticks).metrics := by
  induction ticks using List.reverseRecOn with
  | nil => exact .init
  | append_singleton ticks reading ih =>
    rw [afterTicks, List.foldl_concat, ← afterTicks, seen_append, seen_singleton]
    exact tracks_tick ih reading

/-- A tick exports its snapshot if everything fits: an empty one is skipped, but then there is
nothing to export. -/
theorem exportsOnce_tick {sdk : Sdk} {ticks : List Reading} {reading : Reading}
    (fits : FirstSightFits sdk (seen (ticks ++ [reading]))) :
    ExportsOnce reading.metrics ((afterTicks (ticks ++ [reading])).metrics.collect sdk) := by
  rw [seen_append, seen_singleton] at fits
  rw [afterTicks, List.foldl_concat, ← afterTicks, State.tick]
  split
  · rename_i idle
    rw [List.isEmpty_iff.mp idle.1]
    simp [ExportsOnce]
  · exact (tracks_afterTicks ticks).exportsOnce_update reading.metrics fits

/-- The snapshot that is flushed on shutdown is exported under the same condition. -/
theorem exportsOnce_flush {sdk : Sdk} (ticks : List Reading) (reading : Reading)
    (fits : FirstSightFits sdk (seen (ticks ++ [reading]))) :
    ExportsOnce reading.metrics (((afterTicks ticks).flush reading).metrics.collect sdk) := by
  rw [seen_append, seen_singleton] at fits
  exact (tracks_afterTicks ticks).exportsOnce_update reading.metrics fits

theorem fits_of_exportsEvery {sdk : Sdk} {ticks : List Reading} (exports : ExportsEvery sdk ticks) :
    FirstSightFits sdk (seen ticks) := by
  intro m mem first found
  obtain ⟨reading, inside, current⟩ := List.mem_flatMap.mp mem
  obtain ⟨earlier, later, rfl⟩ := List.append_of_mem inside
  have known : m ∈ seen (earlier ++ [reading]) := by
    rw [seen_append, seen_singleton]
    exact List.mem_append_right _ current
  -- What comes later does not change which value was the first one of this name.
  have split : earlier ++ reading :: later = earlier ++ [reading] ++ later := by simp
  rw [split, seen_append, find?_seen_append ⟨m, known, rfl⟩] at found
  have exported := exports earlier reading later rfl
  exact fits_of_observed (tracks_afterTicks _).inv found (exported.observed current)

/-- **Every stored metric is exported once and as what it is exactly if what was first seen under
its name fits**: for every sequence of snapshots and every rule of the SDK for names. -/
theorem exportsEvery_iff (sdk : Sdk) (ticks : List Reading) :
    ExportsEvery sdk ticks ↔ FirstSightFits sdk (seen ticks) := by
  refine ⟨fits_of_exportsEvery, ?_⟩
  rintro fits earlier reading later rfl
  have all : FirstSightFits sdk (seen (earlier ++ [reading]) ++ seen later) := by
    rw [← seen_append]
    simpa using fits
  exact exportsOnce_tick all.of_append

/-! ## Internal metrics -/

/-- The type of an internal metric goes with its name. -/
def internalKind (name : String) : Metrics.MetricType :=
  if name ∈ ["bus_exporter_collectors_total", "bus_exporter_uptime_seconds",
      "bus_exporter_poll_duration_seconds"] then .gauge
  else .counter

theorem collectorValues_fit {entry : String × CollectorStats} {m : MetricValue}
    (mem : m ∈ InternalMetrics.collectorValues entry) :
    m.unit = "" ∧ m.metricType = internalKind m.name := by
  simp only [InternalMetrics.collectorValues, InternalMetrics.metricValue, List.mem_cons,
    List.not_mem_nil, or_false] at mem
  rcases mem with rfl | rfl | rfl | rfl | rfl | rfl <;> simp [internalKind]

theorem toMetricValues_fit {im : InternalMetrics} {uptime : Duration} {m : MetricValue}
    (mem : m ∈ im.toMetricValues uptime) : m.unit = "" ∧ m.metricType = internalKind m.name := by
  simp only [InternalMetrics.toMetricValues, List.mem_append, List.mem_flatMap] at mem
  -- The values before, of and after the collectors, in the order of the source.
  rcases mem with (mem | ⟨entry, -, mem⟩) | mem
  · simp only [InternalMetrics.metricValue, List.mem_cons, List.not_mem_nil, or_false] at mem
    rcases mem with rfl | rfl <;> simp [internalKind]
  · exact collectorValues_fit mem
  · simp only [InternalMetrics.metricValue, List.mem_cons, List.not_mem_nil, or_false] at mem
    rcases mem with rfl | rfl | rfl <;> simp [internalKind]

/-- The internal values that an iteration of the loop exports. -/
def internalValues (reading : Reading) : List MetricValue :=
  match reading.internalMetrics with
  | none => []
  | some (im, uptime) => (countExport im).toMetricValues uptime

theorem tracks_internal_tick {seen : List MetricValue} {s : State} (tracks : Tracks seen s.internal)
    (reading : Reading) : Tracks (seen ++ internalValues reading) (s.tick reading).internal := by
  unfold State.tick internalValues
  cases reading.internalMetrics with
  | none =>
    rw [List.append_nil]
    split
    · exact tracks
    · exact tracks
  | some internal =>
    simp only [Option.isNone_some, Bool.false_eq_true, and_false, if_false]
    exact tracks.update _

theorem tracks_internal (ticks : List Reading) :
    Tracks (ticks.flatMap internalValues) (afterTicks ticks).internal := by
  induction ticks using List.reverseRecOn with
  | nil => exact .init
  | append_singleton ticks reading ih =>
    rw [afterTicks, List.foldl_concat, ← afterTicks, List.flatMap_append, List.flatMap_singleton]
    exact tracks_internal_tick ih reading

theorem fit_of_mem_internalValues {reading : Reading} {m : MetricValue}
    (mem : m ∈ internalValues reading) : m.unit = "" ∧ m.metricType = internalKind m.name := by
  unfold internalValues at mem
  cases stats : reading.internalMetrics with
  | none =>
    rw [stats] at mem
    cases mem
  | some internal =>
    rw [stats] at mem
    exact toMetricValues_fit mem

theorem fits_internal {sdk : Sdk} {ticks : List Reading}
    (accepts : ∀ reading ∈ ticks, ∀ m ∈ internalValues reading, sdk.allowsName m.name) :
    FirstSightFits sdk (ticks.flatMap internalValues) := by
  intro m mem first found
  obtain ⟨reading, inside, value⟩ := List.mem_flatMap.mp mem
  obtain ⟨reading', inside', value'⟩ := List.mem_flatMap.mp (List.mem_of_find?_eq_some found)
  have sameName : first.name = m.name := by simpa using List.find?_some found
  -- The name decides the type, so the first value under it has the type of all others.
  obtain ⟨noUnit, kind⟩ := fit_of_mem_internalValues value'
  constructor
  · have allowed := accepts reading' inside' first value'
    simp [Sdk.isLive, instrumentOf, allowed, noUnit, UnitAllowed]
  · rw [kind, sameName, (fit_of_mem_internalValues value).2]

/-- The internal metrics are always exported, each with its own type, by an SDK that accepts their
names. -/
theorem internal_exportsOnce {sdk : Sdk} {ticks : List Reading} {reading : Reading}
    {im : InternalMetrics} {uptime : Duration}
    (collected : reading.internalMetrics = some (im, uptime))
    (accepts : ∀ r ∈ ticks ++ [reading], ∀ m ∈ internalValues r, sdk.allowsName m.name) :
    ExportsOnce ((countExport im).toMetricValues uptime)
      ((afterTicks (ticks ++ [reading])).internal.collect sdk) := by
  have fits := fits_internal accepts
  have values : internalValues reading = (countExport im).toMetricValues uptime := by
    rw [internalValues, collected]
  rw [List.flatMap_append, List.flatMap_singleton, values] at fits
  rw [afterTicks, List.foldl_concat, ← afterTicks, State.tick, collected]
  simp only [Option.isNone_some, Bool.false_eq_true, and_false, if_false]
  exact (tracks_internal ticks).exportsOnce_update _ fits

/-! ## A counter that is observed as a gauge -/

/-- A gauge of one collector and a counter of another, with the same name. -/
def boiler : CollectorConfig := Samples.plc [Samples.wordMetric "flow" 0]

def meter : CollectorConfig where
  name := "meter"
  protocol := .modbusTcp "10.0.0.6:502"
  slaveId := some 1
  metrics := [{ Samples.wordMetric "flow" 0 with metricType := .counter }]

def sharedName : Config := { Samples.configOf boiler with collectors := [boiler, meter] }

def sharedNameStore : MetricStore :=
  ((∅ : MetricStore).publish "plc" (firstSnapshot boiler) ∅ ∅).publish "meter"
    (firstSnapshot meter) ∅ ∅

theorem publishable_sharedName : Publishable sharedName sharedNameStore := by
  have ofBoiler : Publishable sharedName
      ((∅ : MetricStore).publish "plc" (firstSnapshot boiler) ∅ ∅) :=
    Publishable.empty.publishFirst boiler (List.mem_cons_self ..) rfl
  exact ofBoiler.publishFirst meter (List.mem_cons_of_mem _ (List.mem_singleton_self _)) rfl

/-- The counter has no instrument of its own. -/
theorem counter_observed_as_gauge :
    sharedName.validate = .ok () ∧ Publishable sharedName sharedNameStore ∧
      ¬ ExportsEvery ⟨fun _ => true⟩ [⟨sharedNameStore.allMetricsFlatIn .reversed, none⟩] := by
  refine ⟨by decide, publishable_sharedName, fun exports => ?_⟩
  -- The counter comes after the gauge here, so the instrument of the name is a gauge.
  obtain ⟨m, mem, first, inside, found, different⟩ :
      ∃ m ∈ sharedNameStore.allMetricsFlatIn .reversed,
        ∃ first ∈ sharedNameStore.allMetricsFlatIn .reversed,
          (sharedNameStore.allMetricsFlatIn .reversed).find? (·.name = m.name) = some first ∧
            first.metricType ≠ m.metricType := by
    decide +kernel
  refine different (fits_of_exportsEvery exports m ?_ first ?_).2
  · simpa using mem
  · simpa using found

end BusExporter.Otlp
