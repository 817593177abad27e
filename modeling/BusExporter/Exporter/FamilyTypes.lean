import BusExporter.Exporter.ReportsOnce
import BusExporter.Metrics.LastPublish

/-!
# The types of families

A family of samples has one line with its type, the type of the first value that is
found in it. Values of different metrics can end up in one family, of one collector
or of several, and the others are then declared with a type that need not be theirs.
-/

namespace BusExporter.Prometheus

open Foundation Metrics Collector

/-- `render_metrics`, with the order in which the store lists the collectors. -/
def renderMetricsIn (iteration : HashMap.Iteration) (store : MetricStore) : List BodyLine :=
  renderValues (store.allMetricsFlatIn iteration)

/-- The sample line of a value. -/
def sampleLine (m : MetricValue) : BodyLine := formatMetricLine (fqname m) m.labels m.value

/-- Every value has one sample line, after a line that declares its family with its own type. -/
structure DeclaredWithOwnType (values : List MetricValue) (lines : List BodyLine) : Prop where
  once : (lines.filter (·.isSample)).Perm (values.map sampleLine)
  declared : ∀ m ∈ values, ∃ before after, lines = before ++ sampleLine m :: after ∧
    .type (fqname m) (typeStr m.metricType) ∈ before

/-- Values in the same family have the same type. -/
def TypesAgree (values : List MetricValue) : Prop :=
  ∀ m ∈ values, ∀ m' ∈ values, fqname m = fqname m' → m.metricType = m'.metricType

variable {values : List MetricValue}

theorem typeStr_injective {kind kind' : Metrics.MetricType} (same : typeStr kind = typeStr kind') :
    kind = kind' := by
  cases kind <;> cases kind' <;> first | rfl | exact absurd same (by decide)

/-- A declared type is that of the first value of its family. -/
theorem eq_of_declared {name kind : String} (mem : .type name kind ∈ renderValues values) :
    ∃ first rest, values.filter (fqname · = name) = first :: rest ∧
      kind = typeStr first.metricType := by
  obtain ⟨⟨key, group⟩, grouped, inside⟩ := List.mem_flatMap.mp mem
  obtain ⟨same, nonempty⟩ := mem_toList_groupBy.mp grouped
  -- The family has a line only if there is a value in it; the first one gives the type.
  cases group with
  | nil => exact absurd rfl nonempty
  | cons first rest =>
    simp only [familyLines, List.mem_cons, List.mem_map, reduceCtorEq, false_or,
      BodyLine.type.injEq, formatMetricLine, and_false, exists_false, or_false] at inside
    obtain ⟨rfl, rfl⟩ := inside
    exact ⟨first, rest, same.symm, rfl⟩

/-- Each value comes after the line that declares its family. -/
theorem declared_before {m : MetricValue} (mem : m ∈ values) :
    ∃ first ∈ values, fqname first = fqname m ∧ ∃ before after,
      renderValues values = before ++ sampleLine m :: after ∧
        .type (fqname m) (typeStr first.metricType) ∈ before := by
  have grouped : (fqname m, values.filter (fqname · = fqname m)) ∈
      (groupBy fqname values).toList :=
    mem_toList_groupBy.mpr ⟨rfl, List.ne_nil_of_mem (List.mem_filter.mpr ⟨mem, by simp⟩)⟩
  -- The family of `m` stands between two runs of families, and `m` between two runs of it.
  obtain ⟨groups, groups', split⟩ := List.append_of_mem grouped
  have inGroup : m ∈ values.filter (fqname · = fqname m) := List.mem_filter.mpr ⟨mem, by simp⟩
  cases group : values.filter (fqname · = fqname m) with
  | nil =>
    rw [group] at inGroup
    cases inGroup
  | cons first rest =>
    have ofFirst : first ∈ values.filter (fqname · = fqname m) := by simp [group]
    rw [List.mem_filter, decide_eq_true_iff] at ofFirst
    obtain ⟨earlier, later, members⟩ := List.append_of_mem inGroup
    let line (m' : MetricValue) := formatMetricLine (fqname m) m'.labels m'.value
    refine ⟨first, ofFirst.1, ofFirst.2,
      groups.flatMap familyLines ++ .help (fqname m) (escapedDesc first.description) ::
        .type (fqname m) (typeStr first.metricType) :: earlier.map line,
      later.map line ++ groups'.flatMap familyLines, ?_, by simp⟩
    have family : familyLines (fqname m, first :: rest) =
        .help (fqname m) (escapedDesc first.description) ::
          .type (fqname m) (typeStr first.metricType) :: (earlier ++ m :: later).map line := by
      rw [← members, group]
      rfl
    rw [renderValues, split, List.flatMap_append, List.flatMap_cons, group, family]
    simp [line, sampleLine]

/-- A family is declared with one type only. -/
theorem typesAgree_of_declared (own : DeclaredWithOwnType values (renderValues values)) :
    TypesAgree values := by
  intro m mem m' mem' sameFamily
  obtain ⟨before, after, lines, declares⟩ := own.declared m mem
  obtain ⟨before', after', lines', declares'⟩ := own.declared m' mem'
  -- Both lines are about the same family, which has the type of its first value.
  have inLines : .type (fqname m) (typeStr m.metricType) ∈ renderValues values :=
    lines ▸ List.mem_append_left _ declares
  have inLines' : .type (fqname m') (typeStr m'.metricType) ∈ renderValues values :=
    lines' ▸ List.mem_append_left _ declares'
  obtain ⟨first, rest, group, kind⟩ := eq_of_declared inLines
  obtain ⟨first', rest', group', kind'⟩ := eq_of_declared inLines'
  rw [← sameFamily, group] at group'
  obtain ⟨rfl, -⟩ := List.cons.inj group'
  exact typeStr_injective (kind.trans kind'.symm)

/-- **Every sample is declared with its own type exactly if the values of each family have the same
type**: for every store and every order in which it is iterated. -/
theorem declaredWithOwnType_iff (store : MetricStore) (iteration : HashMap.Iteration) :
    DeclaredWithOwnType (store.allMetricsFlatIn iteration) (renderMetricsIn iteration store) ↔
      TypesAgree (store.allMetricsFlatIn iteration) := by
  constructor
  · exact typesAgree_of_declared
  · intro agree
    refine ⟨?_, fun m mem => ?_⟩
    · have samples := perm_renderValues (store.allMetricsFlatIn iteration)
      rw [List.map_map] at samples
      exact samples.trans (.of_eq (List.map_congr_left fun m _ => (formatMetricLine_eq m).symm))
    · -- The family is declared with the type of its first value, which is that of `m`.
      obtain ⟨first, inside, sameFamily, before, after, lines, declares⟩ := declared_before mem
      rw [agree first inside m mem sameFamily] at declares
      exact ⟨before, after, lines, declares⟩

/-! ## A gauge in the family of a counter -/

/-- A gauge and a counter whose names are the same after sanitizing. -/
def mixed : CollectorConfig :=
  Samples.plc [Samples.wordMetric "flow-in" 0,
    { Samples.wordMetric "flow_in" 2 with metricType := .counter }]

/-- The store after the first cycle. -/
def mixedStore : MetricStore := (∅ : MetricStore).publish "plc" (firstSnapshot mixed) ∅ ∅

theorem publishable_mixed : Publishable (Samples.configOf mixed) mixedStore :=
  Publishable.empty.publishFirst mixed (List.mem_singleton_self _) rfl

/-- The gauge has no line that declares it as one. -/
theorem gauge_declared_as_counter :
    (Samples.configOf mixed).validate = .ok () ∧
      Publishable (Samples.configOf mixed) mixedStore ∧
        ¬ DeclaredWithOwnType (mixedStore.allMetricsFlatIn .kept)
          (renderMetricsIn .kept mixedStore) := by
  refine ⟨by decide, publishable_mixed, fun own => ?_⟩
  obtain ⟨m, mem, m', mem', sameFamily, different⟩ :
      ∃ m ∈ mixedStore.allMetricsFlatIn .kept, ∃ m' ∈ mixedStore.allMetricsFlatIn .kept,
        fqname m = fqname m' ∧ m.metricType ≠ m'.metricType := by
    -- Both are in the family "bus_flow_in", and the counter comes first.
    decide +kernel
  exact different (typesAgree_of_declared own m mem m' mem' sameFamily)

end BusExporter.Prometheus
