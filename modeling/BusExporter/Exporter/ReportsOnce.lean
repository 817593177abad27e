import BusExporter.Collector.Published
import BusExporter.Exporter.WellFormed

/-!
# Nothing is reported twice

The names and label keys of the store are unique, but the exporter maps them to
names of the exposition format, and different texts can end up as the same name.
The condition that rules this out is stated on the values of the store: their
labels as they were published, and the family names they get.
-/

namespace BusExporter.Prometheus

open Foundation Metrics Collector

/-! ## What is reported once -/

/-- The family that a line belongs to. -/
def familyOf : BodyLine → Option String
  | .blank => none
  | .help name _ => some name
  | .type name _ => some name
  | .sample name _ _ => some name

/-- The family that a line declares the type of. -/
def typeName : BodyLine → Option String
  | .type name _ => some name
  | _ => none

/-- The labels of a line, with their values as they stand between the quotes. -/
def lineLabels : BodyLine → List (String × String)
  | .sample _ labels _ => labels
  | _ => []

/-- The same set of labels. -/
def SameLabels (labels labels' : List (String × String)) : Prop :=
  ∀ label, label ∈ labels ↔ label ∈ labels'

/-- Two lines are samples of the same family with the same labels. -/
def Clash (line line' : BodyLine) : Prop :=
  familyOf line = familyOf line' ∧ SameLabels (lineLabels line) (lineLabels line')

/-- Every family has one line with its type, no sample repeats a label name, and no two samples
have the same name and the same labels. -/
structure ReportsOnce (lines : List BodyLine) : Prop where
  families : ∀ line ∈ lines, ∀ name ∈ familyOf line, (lines.filterMap typeName).count name = 1
  labels : ∀ line ∈ lines, ((lineLabels line).map (·.1)).Nodup
  samples : (lines.filter (·.isSample)).Pairwise fun line line' => ¬ Clash line line'

/-- The families of the internal metrics. -/
def internalFamilies (im : InternalMetrics) : List String :=
  ["bus_exporter_collectors_total", "bus_exporter_uptime_seconds"] ++
    (if im.collectors.isEmpty then [] else InternalMetrics.collectorFamilies.map (·.name)) ++
    ["bus_exporter_otlp_exports_total", "bus_exporter_otlp_errors_total",
      "bus_exporter_prometheus_scrapes_total"]

/-- Nothing of the store collides: the label keys of a value have different names, two values of
a collector with the same labels have different families, and no value is in an internal family. -/
structure KeptApart (state : PrometheusState) : Prop where
  keys : ∀ m ∈ state.store.allMetricsFlat, ∀ k ∈ m.labels, ∀ k' ∈ m.labels,
    sanitizeName k = sanitizeName k' → k = k'
  values : ∀ entry ∈ state.store.pairs, entry.2.Pairwise fun m m' =>
    m.labels = m'.labels → fqname m ≠ fqname m'
  families : ∀ im, state.internalMetrics = some im →
    ∀ m ∈ state.store.allMetricsFlat, fqname m ∉ internalFamilies im

/-! ## Sanitized keys -/

/-- A name without an underscore is the sanitized form of itself only. -/
theorem eq_of_sanitizeName {k name : String} (same : sanitizeName k = name)
    (noUnderscore : '_' ∉ name.toList) : k = name := by
  subst same
  unfold sanitizeName at noUnderscore ⊢
  simp only at noUnderscore ⊢
  generalize sanitized : (k.toList.map fun c =>
    if isAsciiAlphanumericOrUnderscore c then c else '_') = out at noUnderscore ⊢
  cases out with
  | nil => simp at noUnderscore
  | cons c out =>
    by_cases digit : c.isDigit
    · simp [digit] at noUnderscore
    · simp only [digit, Bool.false_eq_true, if_false, String.toList_ofList] at noUnderscore ⊢
      have unchanged : k.toList = c :: out := by
        rw [← sanitized]
        refine (List.map_id' _).symm.trans (List.map_congr_left fun d mem => ?_)
        split
        · rfl
        · rename_i forbidden
          -- A character that is not allowed would have become an underscore.
          refine absurd ?_ noUnderscore
          rw [← sanitized]
          exact List.mem_map.mpr ⟨d, mem, if_neg forbidden⟩
      rw [← unchanged, String.ofList_toList]

/-- The value under a key that is its own only sanitized form can be read off the labels. -/
theorem getElem?_of_mem_labels {m : MetricValue} {name value : String}
    (noUnderscore : '_' ∉ name.toList)
    (mem : (name, escape value) ∈ lineLabels (deviceSample m).line) :
    m.labels[name]? = some value := by
  simp only [lineLabels, Sample.line, deviceSample, List.map_map, List.mem_map] at mem
  obtain ⟨⟨k, v⟩, stored, same⟩ := mem
  simp only [Function.comp_apply, Prod.mk.injEq] at same
  obtain rfl := eq_of_sanitizeName same.1 noUnderscore
  rw [← escape_injective same.2]
  exact Std.ExtTreeMap.mem_toList_iff_getElem?_eq_some.mp stored

theorem mem_labels_of_getElem? {m : MetricValue} {name value : String}
    (fixed : sanitizeName name = name) (found : m.labels[name]? = some value) :
    (name, escape value) ∈ lineLabels (deviceSample m).line := by
  simp only [lineLabels, Sample.line, deviceSample, List.map_map, List.mem_map]
  exact ⟨(name, value), Std.ExtTreeMap.mem_toList_iff_getElem?_eq_some.mpr found,
    by simp [fixed]⟩

/-! ## Families -/

theorem typeName_familyLines {name : String} {values : List MetricValue}
    (some_value : values ≠ []) :
    (familyLines (name, values)).filterMap typeName = [name] := by
  cases values with
  | nil => exact absurd rfl some_value
  | cons first values =>
    have samples : ((first :: values).map fun m =>
        formatMetricLine name m.labels m.value).filterMap typeName = [] := by
      rw [List.filterMap_map, List.filterMap_eq_nil_iff]
      exact fun _ _ => rfl
    rw [familyLines, List.filterMap_cons, List.filterMap_cons, samples]
    rfl

/-- The families of the store are declared once each. -/
theorem typeNames_renderMetrics (store : MetricStore) :
    (renderMetrics store).filterMap typeName =
      (groupBy fqname store.allMetricsFlat).toList.map (·.1) := by
  rw [renderMetrics, List.filterMap_flatMap, List.map_eq_flatMap]
  refine List.flatMap_congr fun group mem => ?_
  exact typeName_familyLines (mem_toList_groupBy.mp mem).2

theorem mem_families_iff {store : MetricStore} {name : String} :
    name ∈ (renderMetrics store).filterMap typeName ↔
      ∃ m ∈ store.allMetricsFlat, fqname m = name := by
  rw [typeNames_renderMetrics, List.mem_map]
  constructor
  · rintro ⟨⟨k, group⟩, grouped, rfl⟩
    obtain ⟨same, nonempty⟩ := mem_toList_groupBy.mp grouped
    obtain ⟨m, inside⟩ := List.exists_mem_of_ne_nil group nonempty
    rw [same, List.mem_filter] at inside
    exact ⟨m, inside.1, by simpa using inside.2⟩
  · rintro ⟨m, mem, rfl⟩
    refine ⟨(fqname m, store.allMetricsFlat.filter (fqname · = fqname m)),
      mem_toList_groupBy.mpr ⟨rfl, ?_⟩, rfl⟩
    exact List.ne_nil_of_mem (List.mem_filter.mpr ⟨mem, by simp⟩)

theorem typeNames_collectorLines (im : InternalMetrics) (family : InternalMetrics.CollectorFamily) :
    (im.collectorLines family).filterMap typeName = [family.name] := by
  have samples : (im.collectors.filterMap (im.collectorLine family)).filterMap typeName = [] := by
    rw [List.filterMap_filterMap, List.filterMap_eq_nil_iff]
    intro c _
    unfold InternalMetrics.collectorLine
    cases im.collectorStats.lookup c <;> rfl
  rw [InternalMetrics.collectorLines, List.filterMap_cons, List.filterMap_cons, samples]
  rfl

theorem typeNames_renderPrometheus (im : InternalMetrics) (uptime : Duration) :
    (im.renderPrometheus uptime).filterMap typeName = internalFamilies im := by
  have families : (InternalMetrics.collectorFamilies.flatMap im.collectorLines).filterMap typeName =
      InternalMetrics.collectorFamilies.map (·.name) := by
    rw [List.filterMap_flatMap, List.map_eq_flatMap]
    exact List.flatMap_congr fun family _ => typeNames_collectorLines im family
  simp only [InternalMetrics.renderPrometheus, InternalMetrics.singleLines, List.filterMap_append,
    internalFamilies]
  split
  · rfl
  · rw [families]
    rfl

/-- Every line belongs to a family that is declared. -/
theorem declared_renderMetrics {store : MetricStore} {line : BodyLine}
    (mem : line ∈ renderMetrics store) {name : String} (family : name ∈ familyOf line) :
    name ∈ (renderMetrics store).filterMap typeName := by
  obtain ⟨⟨key, values⟩, grouped, inside⟩ := List.mem_flatMap.mp mem
  have named := fqname_of_mem_group grouped
  have nonempty := (mem_toList_groupBy.mp grouped).2
  have sameName : name = key := by
    cases values with
    | nil => exact absurd rfl nonempty
    | cons first values =>
      simp only [familyLines, List.mem_cons, List.mem_map] at inside
      rcases inside with rfl | rfl | ⟨m, -, rfl⟩ <;> exact (Option.some_inj.mp family).symm
  rw [typeNames_renderMetrics, sameName]
  exact List.mem_map.mpr ⟨_, grouped, rfl⟩

theorem declared_singleLines {name description kind value : String} {line : BodyLine}
    (mem : line ∈ InternalMetrics.singleLines name description kind value) {family : String}
    (belongs : family ∈ familyOf line) : family = name := by
  simp only [InternalMetrics.singleLines, List.mem_cons, List.not_mem_nil, or_false] at mem
  rcases mem with rfl | rfl | rfl <;> exact (Option.some_inj.mp belongs).symm

theorem declared_renderPrometheus {im : InternalMetrics} {uptime : Duration} {line : BodyLine}
    (mem : line ∈ im.renderPrometheus uptime) {name : String} (family : name ∈ familyOf line) :
    name ∈ internalFamilies im := by
  simp only [InternalMetrics.renderPrometheus, List.mem_append] at mem
  rcases mem with ((((mem | mem) | mem) | mem) | mem) | mem
  · simp [internalFamilies, declared_singleLines mem family]
  · simp [internalFamilies, declared_singleLines mem family]
  · by_cases empty : im.collectors.isEmpty
    · simp [empty] at mem
    · rw [if_neg empty] at mem
      obtain ⟨known, inFamilies, mem⟩ := List.mem_flatMap.mp mem
      have sameName : name = known.name := by
        rcases List.mem_cons.mp mem with rfl | mem
        · exact (Option.some_inj.mp family).symm
        · rcases List.mem_cons.mp mem with rfl | mem
          · exact (Option.some_inj.mp family).symm
          · obtain ⟨c, -, found⟩ := List.mem_filterMap.mp mem
            obtain ⟨s, -, rfl⟩ := Option.map_eq_some_iff.mp found
            exact (Option.some_inj.mp family).symm
      rw [internalFamilies, if_neg empty, sameName]
      simp only [List.mem_append, List.mem_map]
      exact .inl (.inr ⟨known, inFamilies, rfl⟩)
  · simp [internalFamilies, declared_singleLines mem family]
  · simp [internalFamilies, declared_singleLines mem family]
  · simp [internalFamilies, declared_singleLines mem family]

theorem nodup_internalFamilies (im : InternalMetrics) : (internalFamilies im).Nodup := by
  unfold internalFamilies
  split <;> decide

theorem familyOf_of_typeName {line : BodyLine} {name : String}
    (declares : typeName line = some name) :
    familyOf line = some name := by
  cases line with
  | type family kind => exact declares
  | _ => cases declares

/-- Each family is declared once exactly if no value of the store is in an internal family. -/
theorem families_iff (state : PrometheusState) (uptime : Duration) :
    (∀ line ∈ metricsLines state uptime, ∀ name ∈ familyOf line,
        ((metricsLines state uptime).filterMap typeName).count name = 1) ↔
      ∀ im, state.internalMetrics = some im →
        ∀ m ∈ state.store.allMetricsFlat, fqname m ∉ internalFamilies im := by
  have device : ((renderMetrics state.store).filterMap typeName).Nodup := by
    rw [typeNames_renderMetrics]
    exact nodup_keys_groupBy _
  unfold metricsLines
  cases state.internalMetrics with
  | none =>
    simp only [List.append_nil, reduceCtorEq, false_imp_iff, implies_true, iff_true]
    exact fun line mem name family =>
      List.count_eq_one_of_mem device (declared_renderMetrics mem family)
  | some im =>
    have names : (renderMetrics state.store ++ .blank :: im.renderPrometheus uptime).filterMap
        typeName = (renderMetrics state.store).filterMap typeName ++ internalFamilies im := by
      rw [List.filterMap_append, ← typeNames_renderPrometheus im uptime]
      rfl
    simp only [names, Option.some_inj, forall_eq']
    constructor
    · intro once m mem internal
      have declared := mem_families_iff.mpr ⟨m, mem, rfl⟩
      obtain ⟨line, inside, declares⟩ := List.mem_filterMap.mp declared
      have count := once line (by simp [inside]) (fqname m) (familyOf_of_typeName declares)
      have before := List.count_pos_iff.mpr declared
      have after := List.count_pos_iff.mpr internal
      rw [List.count_append] at count
      omega
    · intro apart line mem name family
      refine List.count_eq_one_of_mem ?_ ?_
      · refine List.nodup_append.mpr ⟨device, nodup_internalFamilies im, ?_⟩
        rintro name declared _ internal rfl
        obtain ⟨m, inside, rfl⟩ := mem_families_iff.mp declared
        exact apart m inside internal
      · rcases List.mem_append.mp mem with ofStore | own
        · exact List.mem_append_left _ (declared_renderMetrics ofStore family)
        · refine List.mem_append_right _ ?_
          rcases List.mem_cons.mp own with rfl | own
          · cases family
          · exact declared_renderPrometheus own family

/-! ## Labels -/

theorem map_fst_lineLabels (m : MetricValue) :
    (lineLabels (deviceSample m).line).map (·.1) = m.labels.keys.map sanitizeName := by
  rw [← Std.ExtTreeMap.map_fst_toList_eq_keys]
  simp only [lineLabels, Sample.line, deviceSample, List.map_map]
  rfl

theorem nodup_lineLabels_iff (m : MetricValue) :
    ((lineLabels (deviceSample m).line).map (·.1)).Nodup ↔
      ∀ k ∈ m.labels, ∀ k' ∈ m.labels, sanitizeName k = sanitizeName k' → k = k' := by
  have distinct : m.labels.keys.Nodup := Std.ExtTreeMap.nodup_keys
  rw [map_fst_lineLabels, List.nodup_map_iff_inj_on distinct]
  simp only [Std.ExtTreeMap.mem_keys]

/-- The internal samples have at most one label. -/
theorem labels_ownSamples {state : PrometheusState} {uptime : Duration} {sample : Sample}
    (mem : sample ∈ ownSamples state uptime) :
    sample.labels = [] ∨ ∃ c, sample.labels = [("collector", c)] := by
  obtain ⟨im, -, internal⟩ := mem_ownSamples.mp mem
  simp only [internalSamples, List.mem_append, List.mem_flatMap, List.mem_map] at internal
  rcases internal with (single | ⟨family, -, entry, -, rfl⟩) | single
  · rcases List.mem_pair.mp single with rfl | rfl <;> exact .inl rfl
  · exact .inr ⟨entry.1, rfl⟩
  · simp only [List.mem_cons, List.not_mem_nil, or_false] at single
    rcases single with rfl | rfl | rfl <;> exact .inl rfl

theorem labels_iff (state : PrometheusState) (uptime : Duration) :
    (∀ line ∈ metricsLines state uptime, ((lineLabels line).map (·.1)).Nodup) ↔
      ∀ m ∈ state.store.allMetricsFlat, ∀ k ∈ m.labels, ∀ k' ∈ m.labels,
        sanitizeName k = sanitizeName k' → k = k' := by
  have samples := perm_metricsLines state uptime
  constructor
  · intro distinct m mem
    have reported : (deviceSample m).line ∈ (metricsLines state uptime).filter (·.isSample) :=
      samples.mem_iff.mpr
        (List.mem_append_left _ (List.mem_map_of_mem (List.mem_map_of_mem mem)))
    exact (nodup_lineLabels_iff m).mp (distinct _ (List.mem_filter.mp reported).1)
  · intro apart line mem
    cases isSample : line.isSample with
    | false =>
      cases line with
      | sample name labels value => cases isSample
      | _ => exact List.nodup_nil
    | true =>
      have inside := samples.mem_iff.mp (List.mem_filter.mpr ⟨mem, isSample⟩)
      rcases List.mem_append.mp inside with ofStore | own
      · obtain ⟨_, known, rfl⟩ := List.mem_map.mp ofStore
        obtain ⟨m, stored, rfl⟩ := List.mem_map.mp known
        exact (nodup_lineLabels_iff m).mpr (apart m stored)
      · obtain ⟨sample, known, rfl⟩ := List.mem_map.mp own
        rcases labels_ownSamples known with none_there | ⟨c, one⟩
        · simp [Sample.written, lineLabels, none_there]
        · simp [Sample.written, lineLabels, one]

/-! ## Samples -/

theorem Clash.symm {line line' : BodyLine} (clash : Clash line line') : Clash line' line :=
  ⟨clash.1.symm, fun label => (clash.2 label).symm⟩

/-- The values of different collectors have different labels, even after sanitizing. -/
theorem not_sameLabels_of_ne {name name' : String} {values values' : List MetricValue}
    (base : SameBase name values) (base' : SameBase name' values') (different : name ≠ name')
    {m m' : MetricValue} (mem : m ∈ values) (mem' : m' ∈ values') :
    ¬ SameLabels (lineLabels (deviceSample m).line) (lineLabels (deviceSample m').line) := by
  intro same
  have label := mem_labels_of_getElem? (by decide +kernel) (collector_label base mem)
  have found := getElem?_of_mem_labels (by simp) ((same _).mp label)
  rw [collector_label base' mem', Option.some_inj] at found
  exact different found.symm

/-- A value's unit is the value of its unit label. -/
theorem unit_label {base : Labels} {m : MetricValue}
    (labels : m.labels = if m.unit = "" then base else base.insert "unit" m.unit)
    (hasUnit : m.unit ≠ "") : m.labels["unit"]? = some m.unit := by
  rw [labels, if_neg hasUnit, Std.ExtTreeMap.getElem?_insert_self]

/-- The values of one collector have the same labels after sanitizing only if they had the same
before. -/
theorem sameLabels_iff {collectorName : String} {values : List MetricValue}
    (same : SameBase collectorName values) {m m' : MetricValue} (mem : m ∈ values)
    (mem' : m' ∈ values) :
    SameLabels (lineLabels (deviceSample m).line) (lineLabels (deviceSample m').line) ↔
      m.labels = m'.labels := by
  obtain ⟨base, -, labels⟩ := same
  -- A unit label of one value is one of the other value, too.
  have transfer : ∀ {m m' : MetricValue}, m ∈ values → m' ∈ values → m.unit ≠ "" →
      SameLabels (lineLabels (deviceSample m).line) (lineLabels (deviceSample m').line) →
        m'.labels["unit"]? = some m.unit := by
    intro m m' mem mem' hasUnit same
    have label := mem_labels_of_getElem? (by decide +kernel) (unit_label (labels m mem) hasUnit)
    exact getElem?_of_mem_labels (by simp) ((same _).mp label)
  -- Where it is the base's, putting it over the base changes nothing.
  have absorbed : ∀ {m m' : MetricValue}, m ∈ values → m' ∈ values → m.unit ≠ "" → m'.unit = "" →
      m'.labels["unit"]? = some m.unit → m.labels = m'.labels := by
    intro m m' mem mem' hasUnit noUnit found
    rw [labels m' mem', if_pos noUnit] at found
    rw [labels m mem, labels m' mem', if_neg hasUnit, if_pos noUnit]
    refine Std.ExtTreeMap.ext_getElem? fun k => ?_
    rw [Std.ExtTreeMap.getElem?_insert]
    split
    · rename_i isUnit
      rw [← Std.LawfulEqOrd.eq_of_compare isUnit, found]
    · rfl
  constructor
  · intro same
    by_cases hasUnit : m.unit = ""
    · by_cases hasUnit' : m'.unit = ""
      · rw [labels m mem, labels m' mem', if_pos hasUnit, if_pos hasUnit']
      · have found := transfer mem' mem hasUnit' fun label => (same label).symm
        exact (absorbed mem' mem hasUnit' hasUnit found).symm
    · have found := transfer mem mem' hasUnit same
      by_cases hasUnit' : m'.unit = ""
      · exact absorbed mem mem' hasUnit hasUnit' found
      · rw [unit_label (labels m' mem') hasUnit', Option.some_inj] at found
        rw [labels m mem, labels m' mem', found]
  · intro equal label
    simp only [lineLabels, Sample.line, deviceSample, equal]

/-- The samples of a publishable store do not clash exactly if no two values of a collector with
the same labels have the same family. -/
theorem pairwise_deviceSamples {config : Config} {store : MetricStore}
    (publishable : Publishable config store) :
    (((store.allMetricsFlat.map deviceSample).map Sample.line).Pairwise fun line line' =>
        ¬ Clash line line') ↔
      ∀ entry ∈ store.pairs, entry.2.Pairwise fun m m' =>
        m.labels = m'.labels → fqname m ≠ fqname m' := by
  have bases := sameBase_of_publishable publishable
  have flat : store.allMetricsFlat = (store.pairs.map (·.2)).flatten := rfl
  rw [flat, List.pairwise_map, List.pairwise_map, List.pairwise_flatten, List.pairwise_map]
  have apart : store.pairs.Pairwise fun entry entry' => ∀ m ∈ entry.2, ∀ m' ∈ entry'.2,
      ¬ Clash (deviceSample m).line (deviceSample m').line := by
    have names := List.pairwise_map.mp store.nodup_pairs
    refine names.imp_of_mem fun {entry entry'} mem mem' different m inside m' inside' clash => ?_
    exact not_sameLabels_of_ne (bases entry mem) (bases entry' mem') different inside inside'
      clash.2
  constructor
  · rintro ⟨within, -⟩ entry mem
    refine (within entry.2 (List.mem_map_of_mem mem)).imp_of_mem ?_
    intro m m' inside inside' unclashing equal family
    have same := (sameLabels_iff (bases entry mem) inside inside').mpr equal
    exact unclashing ⟨congrArg some family, same⟩
  · intro within
    refine ⟨fun values mem => ?_, apart⟩
    obtain ⟨entry, stored, rfl⟩ := List.mem_map.mp mem
    refine (within entry stored).imp_of_mem ?_
    intro m m' inside inside' different clash
    refine different ?_ (Option.some_inj.mp clash.1)
    exact (sameLabels_iff (bases entry stored) inside inside').mp clash.2

/-- The name and the labels of a sample. -/
def sampleKey (sample : Sample) : String × List (String × String) := (sample.name, sample.labels)

theorem sampleKey_collectorFamilies (pairs : List (String × CollectorStats)) :
    (InternalMetrics.collectorFamilies.flatMap fun family => pairs.map fun entry =>
        (⟨family.name, [("collector", entry.1)], family.value entry.2⟩ : Sample)).map sampleKey =
      InternalMetrics.collectorFamilies.flatMap fun family =>
        (pairs.map (·.1)).map fun c => (family.name, [("collector", c)]) := by
  rw [List.map_flatMap]
  refine List.flatMap_congr fun family _ => ?_
  rw [List.map_map, List.map_map]
  rfl

theorem nodup_sampleKey (im : InternalMetrics) (uptime : Duration) :
    ((internalSamples im uptime).map sampleKey).Nodup := by
  have families : (InternalMetrics.collectorFamilies.flatMap fun family =>
      (im.collectorStats.pairs.map (·.1)).map fun c =>
        (family.name, [("collector", c)])).Nodup := by
    refine List.nodup_flatMap.mpr ⟨fun family _ => ?_, ?_⟩
    · refine im.collectorStats.nodup_pairs.map fun c c' same => ?_
      simpa using same
    · have names : InternalMetrics.collectorFamilies.Pairwise fun f f' => f.name ≠ f'.name := by
        decide
      refine names.imp fun {f f'} different => ?_
      simp only [Function.onFun, List.disjoint_left, List.mem_map]
      rintro _ ⟨c, -, rfl⟩ ⟨c', -, same⟩
      exact different (Prod.mk.inj same).1.symm
  rw [internalSamples, List.map_append, List.map_append, sampleKey_collectorFamilies]
  refine List.nodup_append.mpr ⟨List.nodup_append.mpr ⟨by simp [sampleKey], families, ?_⟩,
    by simp [sampleKey], ?_⟩
  · rintro key own _ inFamily rfl
    obtain ⟨family, known, inside⟩ := List.mem_flatMap.mp inFamily
    obtain ⟨c, -, rfl⟩ := List.mem_map.mp inside
    simp [sampleKey] at own
  · rintro key before _ own rfl
    rcases List.mem_append.mp before with before | inFamily
    · revert own
      simp only [List.map_cons, List.map_nil, List.mem_cons, List.not_mem_nil, or_false,
        sampleKey] at before ⊢
      rcases before with rfl | rfl <;> decide
    · obtain ⟨family, known, inside⟩ := List.mem_flatMap.mp inFamily
      obtain ⟨c, -, rfl⟩ := List.mem_map.mp inside
      simp [sampleKey] at own

/-- The internal samples do not clash. -/
theorem pairwise_ownSamples (state : PrometheusState) (uptime : Duration) :
    ((ownSamples state uptime).map Sample.written).Pairwise fun line line' =>
      ¬ Clash line line' := by
  have keys : ((ownSamples state uptime).map sampleKey).Nodup := by
    unfold ownSamples
    cases state.internalMetrics with
    | none => exact List.nodup_nil
    | some im => exact nodup_sampleKey im uptime
  rw [List.pairwise_map]
  refine (List.pairwise_map.mp keys).imp_of_mem ?_
  rintro sample sample' mem mem' different ⟨family, same⟩
  refine different (Prod.ext (Option.some_inj.mp family) ?_)
  change SameLabels sample.labels sample'.labels at same
  change sample.labels = sample'.labels
  rcases labels_ownSamples mem with none_there | ⟨c, one⟩ <;>
    rcases labels_ownSamples mem' with none_there' | ⟨c', one'⟩
  · rw [none_there, none_there']
  · rw [none_there, one'] at same
    exact absurd ((same _).mpr (List.mem_singleton_self _)) (by simp)
  · rw [one, none_there'] at same
    exact absurd ((same _).mp (List.mem_singleton_self _)) (by simp)
  · rw [one, one'] at same
    rw [one, one', List.mem_singleton.mp ((same _).mp (List.mem_singleton_self _))]

/-- The lines of a state whose store can be published report everything once exactly if nothing
in the state collides. -/
theorem reportsOnce_metricsLines {config : Config} (state : PrometheusState)
    (publishable : Publishable config state.store) (uptime : Duration) :
    ReportsOnce (metricsLines state uptime) ↔ KeptApart state := by
  have samples := (perm_metricsLines state uptime).pairwise_iff
    fun {line line'} (unclashing : ¬ Clash line line') clash => unclashing clash.symm
  rw [List.pairwise_append, pairwise_deviceSamples publishable] at samples
  constructor
  · intro once
    exact ⟨(labels_iff state uptime).mp once.labels, (samples.mp once.samples).1,
      (families_iff state uptime).mp once.families⟩
  · intro apart
    refine ⟨(families_iff state uptime).mpr apart.families,
      (labels_iff state uptime).mpr apart.keys,
      samples.mpr ⟨apart.values, pairwise_ownSamples state uptime, ?_⟩⟩
    -- A value of the store and an internal sample are in different families.
    rintro _ ofStore _ own ⟨family, -⟩
    obtain ⟨_, known, rfl⟩ := List.mem_map.mp ofStore
    obtain ⟨m, stored, rfl⟩ := List.mem_map.mp known
    obtain ⟨sample, reported, rfl⟩ := List.mem_map.mp own
    obtain ⟨im, collected, internal⟩ := mem_ownSamples.mp reported
    refine apart.families im collected m stored ?_
    have written : sample.written ∈ im.renderPrometheus uptime := by
      have inside := (perm_renderPrometheus im uptime).mem_iff.mpr (List.mem_map_of_mem internal)
      exact (List.mem_filter.mp inside).1
    refine declared_renderPrometheus written ?_
    exact Option.mem_def.mpr family.symm

theorem keptApart_counted (state : PrometheusState) :
    KeptApart (counted state) ↔ KeptApart state := by
  have families : (∀ im, (counted state).internalMetrics = some im →
      ∀ m ∈ state.store.allMetricsFlat, fqname m ∉ internalFamilies im) ↔
        ∀ im, state.internalMetrics = some im →
          ∀ m ∈ state.store.allMetricsFlat, fqname m ∉ internalFamilies im := by
    unfold counted
    cases state.internalMetrics with
    | none => simp
    | some im =>
      simp only [Option.map_some, Option.some_inj, forall_eq']
      rfl
  exact ⟨fun apart => ⟨apart.keys, apart.values, families.mp apart.families⟩,
    fun apart => ⟨apart.keys, apart.values, families.mpr apart.families⟩⟩

/-- For every store that the collectors of a configuration can publish and all internal metrics,
the body of a scrape consists of lines that report everything once if and only if nothing in the
store collides. -/
theorem reportsOnce_iff (config : Config) (uptime : Duration) (state : PrometheusState)
    (publishable : Publishable config state.store) :
    ((metricsHandler uptime).run state).1.body =
        bodyText (metricsLines (counted state) uptime) ∧
      (ReportsOnce (metricsLines (counted state) uptime) ↔ KeptApart state) :=
  ⟨rfl, (reportsOnce_metricsLines (counted state) publishable uptime).trans
    (keptApart_counted state)⟩

/-- Two metrics whose names are the same after sanitizing. -/
def colliding : CollectorConfig :=
  Samples.plc [Samples.wordMetric "flow-in" 0, Samples.wordMetric "flow_in" 2]

def collidingTask : Task := ⟨colliding, false, true⟩

def collidingRead : ReadResults where
  metrics := ((∅ : HashMap MetricResult).insert "flow-in" (.ok (1.0, 1.0))).insert
    "flow_in" (.ok (2.0, 2.0))
  ioCount := 1

/-- What the first cycle publishes. -/
def collidingSnapshot : List MetricValue :=
  (collidingTask.snapshot Task.initial collidingRead true).values

def collidingState : PrometheusState where
  store := (∅ : MetricStore).publish "plc" collidingSnapshot ∅ ∅
  internalMetrics := none

theorem publishable_colliding :
    Publishable (Samples.configOf colliding) collidingState.store := by
  have reaches : collidingTask.machine.Reaches _ _ := Machine.reaches_of_run
    [.connected (.ok ()), .proceed, .readDone collidingRead true (Duration.ofSecs 10)] rfl
  have configured : collidingTask.collector ∈ (Samples.configOf colliding).collectors :=
    List.mem_singleton_self _
  exact .publish .empty configured reaches (List.mem_cons_self ..)

/-- Two metrics of a validated collector become the same sample. -/
theorem sanitized_names_clash :
    (Samples.configOf colliding).validate = .ok () ∧
      Publishable (Samples.configOf colliding) collidingState.store ∧
        ¬ ReportsOnce (metricsLines (counted collidingState) 0) := by
  refine ⟨by decide, publishable_colliding, fun once => ?_⟩
  have apart := (reportsOnce_metricsLines (counted collidingState) publishable_colliding 0).mp once
  have values := apart.values
  revert values
  decide +kernel

theorem reportsOnce_iff_colliding :
    ((metricsHandler 0).run collidingState).1.body =
        bodyText (metricsLines (counted collidingState) 0) ∧
      (ReportsOnce (metricsLines (counted collidingState) 0) ↔ KeptApart collidingState) :=
  reportsOnce_iff (Samples.configOf colliding) 0 collidingState publishable_colliding

end BusExporter.Prometheus
