import BusExporter.Config.Accepted
import BusExporter.Exporter.Prometheus

/-!
# Well-formed bodies

Names are sanitized and label values of the store are escaped, so the lines that
the store is rendered as are well formed whatever its texts are. The internal
metrics put the name of a collector between quotes as it is. A body is therefore
well formed exactly when there is nothing to escape in those names.
-/

namespace BusExporter.Prometheus

open Foundation Metrics

/-! ## Names -/

theorem isName_of_chars {name : String} (first : Char) (rest : List Char)
    (chars : name.toList = first :: rest) (start : first.isAlpha ∨ first = '_')
    (others : ∀ c ∈ rest, isAsciiAlphanumericOrUnderscore c) : IsName name := by
  refine isName_iff.mpr ⟨first, rest, chars, start, fun c mem => ?_⟩
  have allowed := others c mem
  simpa [isAsciiAlphanumericOrUnderscore] using allowed

/-- Sanitized characters may occur in a name. -/
theorem isAllowed_of_mem_map {chars : List Char} {c : Char}
    (mem : c ∈ chars.map fun c => if isAsciiAlphanumericOrUnderscore c then c else '_') :
    isAsciiAlphanumericOrUnderscore c := by
  obtain ⟨original, -, rfl⟩ := List.mem_map.mp mem
  split
  · assumption
  · rfl

theorem toList_sanitizeName (s : String) :
    (sanitizeName s).toList ≠ [] ∧
      (∀ c ∈ (sanitizeName s).toList, isAsciiAlphanumericOrUnderscore c) ∧
        IsName (sanitizeName s) := by
  unfold sanitizeName
  simp only
  -- What is prepended keeps the name from being empty and from starting with a digit.
  generalize sanitized : (s.toList.map fun c =>
    if isAsciiAlphanumericOrUnderscore c then c else '_') = out
  have allowed : ∀ c ∈ out, isAsciiAlphanumericOrUnderscore c := by
    rw [← sanitized]
    exact fun c mem => isAllowed_of_mem_map mem
  cases out with
  | nil =>
    refine ⟨by simp, by simp [isAsciiAlphanumericOrUnderscore], ?_⟩
    exact isName_of_chars '_' [] rfl (.inr rfl) (by simp)
  | cons c out =>
    rw [List.forall_mem_cons] at allowed
    by_cases digit : c.isDigit
    · simp only [digit, if_true, String.toList_ofList]
      refine ⟨by simp, ?_, ?_⟩
      · simp only [List.forall_mem_cons]
        exact ⟨rfl, allowed.1, allowed.2⟩
      · exact isName_of_chars _ _ String.toList_ofList (.inr rfl)
          (List.forall_mem_cons.mpr allowed)
    · simp only [digit, String.toList_ofList]
      refine ⟨by simp, List.forall_mem_cons.mpr allowed, ?_⟩
      refine isName_of_chars _ _ String.toList_ofList ?_ allowed.2
      have start := allowed.1
      simpa [isAsciiAlphanumericOrUnderscore, Char.isAlphanum, digit] using start

theorem isName_sanitizeName (s : String) : IsName (sanitizeName s) := (toList_sanitizeName s).2.2

/-- A name with a name's characters after it is a name. -/
theorem isName_append {name : String} (isName : IsName name) (rest : String)
    (allowed : ∀ c ∈ rest.toList, isAsciiAlphanumericOrUnderscore c) : IsName (name ++ rest) := by
  obtain ⟨first, others, chars, start, inside⟩ := isName_iff.mp isName
  refine isName_of_chars first (others ++ rest.toList) ?_ start fun c mem => ?_
  · rw [String.toList_append, chars]
    rfl
  · rcases List.mem_append.mp mem with before | after
    · simpa [isAsciiAlphanumericOrUnderscore] using inside c before
    · exact allowed c after

theorem isName_bus : IsName "bus_" :=
  isName_of_chars 'b' ['u', 's', '_'] rfl (.inl (by decide))
    (by simp [isAsciiAlphanumericOrUnderscore])

theorem isName_buildMetricName (name unit : String) : IsName (buildMetricName name unit) := by
  have named := isName_append isName_bus _ (toList_sanitizeName name).2.1
  unfold buildMetricName
  split
  · exact named
  · have joined := isName_append named "_" (by simp [isAsciiAlphanumericOrUnderscore])
    exact isName_append joined _ (toList_sanitizeName unit).2.1

/-! ## Texts -/

/-- The three replacements, one after the other, escape each character once. -/
theorem escaped_eq_escape (v : String) : escaped v = escape v := by
  simp only [escaped, replaceChar, escape, String.toList_ofList, List.flatMap_assoc]
  congr 1
  refine List.flatMap_congr fun c _ => ?_
  unfold escapeChar
  by_cases backslash : c = '\\'
  · simp [backslash]
  · by_cases quote : c = '"'
    · simp [quote]
    · by_cases newline : c = '\n' <;> simp [backslash, quote, newline]

theorem newline_not_mem_escapedDesc (description : String) :
    '\n' ∉ (escapedDesc description).toList := by
  unfold escapedDesc
  generalize replaceChar '\\' ['\\', '\\'] description = s
  rw [replaceChar, String.toList_ofList, List.mem_flatMap]
  rintro ⟨c, -, mem⟩
  by_cases newline : c = '\n'
  · simp [newline] at mem
  · rw [if_neg newline, List.mem_singleton] at mem
    exact newline mem.symm

/-- The labels as the line has them, before they are escaped. -/
def sanitizedLabels (labels : Labels) : List (String × String) :=
  labels.toList.map fun label => (sanitizeName label.1, label.2)

theorem formatMetricLine_eq_line (fqname : String) (labels : Labels) (value : Float) :
    formatMetricLine fqname labels value =
      Sample.line ⟨fqname, sanitizedLabels labels, displayFloat value⟩ := by
  simp only [formatMetricLine, Sample.line, sanitizedLabels, List.map_map, escaped_eq_escape]
  rfl

/-! ## The store -/

/-- The sample that a value of the store is reported as. -/
def deviceSample (m : MetricValue) : Sample where
  name := fqname m
  labels := m.labels.toList.map fun label => (sanitizeName label.1, label.2)
  value := displayFloat m.value

theorem formatMetricLine_eq (m : MetricValue) :
    formatMetricLine (fqname m) m.labels m.value = (deviceSample m).line :=
  formatMetricLine_eq_line ..

theorem wellFormed_deviceSample (m : MetricValue) : (deviceSample m).line.WellFormed := by
  refine ⟨isName_buildMetricName .., fun label mem => ?_, isNumber_displayFloat _⟩
  simp only [deviceSample, List.map_map, List.mem_map] at mem
  obtain ⟨original, -, rfl⟩ := mem
  exact ⟨isName_sanitizeName _, original.2, rfl⟩

/-- The lines of a family whose values all have its name. -/
theorem familyLines_eq {name : String} {values : List MetricValue}
    (named : ∀ m ∈ values, fqname m = name) :
    ∃ metadata : List BodyLine, (∀ line ∈ metadata, line.isSample = false ∧ line.WellFormed) ∧
      familyLines (name, values) = metadata ++ values.map fun m => (deviceSample m).line := by
  cases values with
  | nil => exact ⟨[], by simp, rfl⟩
  | cons first values =>
    obtain rfl := named first (by simp)
    refine ⟨[.help (fqname first) (escapedDesc first.description),
      .type (fqname first) (typeStr first.metricType)], ?_, ?_⟩
    · intro line mem
      rcases List.mem_pair.mp mem with rfl | rfl
      · exact ⟨rfl, isName_buildMetricName .., newline_not_mem_escapedDesc _⟩
      · refine ⟨rfl, isName_buildMetricName .., ?_⟩
        cases first.metricType with
        | gauge => exact .inl rfl
        | counter => exact .inr rfl
    · have lines :
          (first :: values).map (fun m => formatMetricLine (fqname first) m.labels m.value) =
            (first :: values).map fun m => (deviceSample m).line := by
        refine List.map_congr_left fun m mem => ?_
        rw [← formatMetricLine_eq, named m mem]
      rw [familyLines, lines]
      rfl

/-- The values of a group have the group's name. -/
theorem fqname_of_mem_group {values : List MetricValue} {group : String × List MetricValue}
    (grouped : group ∈ (groupBy fqname values).toList) : ∀ m ∈ group.2, fqname m = group.1 := by
  intro m mem
  rw [(mem_toList_groupBy.mp grouped).1, List.mem_filter] at mem
  simpa using mem.2

theorem filter_familyLines {name : String} {values : List MetricValue}
    (named : ∀ m ∈ values, fqname m = name) :
    (familyLines (name, values)).filter (·.isSample) =
      values.map fun m => (deviceSample m).line := by
  obtain ⟨metadata, isMetadata, lines⟩ := familyLines_eq named
  have none_left : metadata.filter (·.isSample) = [] :=
    List.filter_eq_nil_iff.mpr fun line mem => by simp [(isMetadata line mem).1]
  rw [lines, List.filter_append, none_left, List.nil_append, List.filter_eq_self]
  intro line mem
  obtain ⟨m, -, rfl⟩ := List.mem_map.mp mem
  rfl

/-- The samples are the values, one each. -/
theorem perm_renderValues (values : List MetricValue) :
    ((renderValues values).filter (·.isSample)).Perm
      ((values.map deviceSample).map Sample.line) := by
  have samples : (renderValues values).filter (·.isSample) =
      ((groupBy fqname values).toList.flatMap (·.2)).map fun m => (deviceSample m).line := by
    rw [renderValues, List.filter_flatMap, List.map_flatMap]
    exact List.flatMap_congr fun group mem => filter_familyLines (fqname_of_mem_group mem)
  rw [samples, List.map_map]
  exact (perm_groupBy values).map _

theorem perm_renderMetrics (store : MetricStore) :
    ((renderMetrics store).filter (·.isSample)).Perm
      ((store.allMetricsFlat.map deviceSample).map Sample.line) := by
  rw [renderMetrics_eq]
  exact perm_renderValues store.allMetricsFlat

theorem wellFormed_renderMetrics (store : MetricStore) :
    ∀ line ∈ renderMetrics store, line.WellFormed := by
  intro line mem
  obtain ⟨group, grouped, inside⟩ := List.mem_flatMap.mp mem
  obtain ⟨metadata, isMetadata, lines⟩ := familyLines_eq (fqname_of_mem_group grouped)
  rw [lines] at inside
  rcases List.mem_append.mp inside with before | sample
  · exact (isMetadata line before).2
  · obtain ⟨m, -, rfl⟩ := List.mem_map.mp sample
    exact wellFormed_deviceSample m

/-! ## The internal metrics -/

/-- The internal samples, with the names of the collectors as label values. -/
def internalSamples (im : InternalMetrics) (uptime : Duration) : List Sample :=
  [⟨"bus_exporter_collectors_total", [], im.collectorsTotal.repr⟩,
    ⟨"bus_exporter_uptime_seconds", [], displayFixed 1 (Duration.asSecsF64 uptime)⟩] ++
  (InternalMetrics.collectorFamilies.flatMap fun family =>
    im.collectorStats.pairs.map fun entry =>
      ⟨family.name, [("collector", entry.1)], family.value entry.2⟩) ++
  [⟨"bus_exporter_otlp_exports_total", [], im.otlpExportsTotal.repr⟩,
    ⟨"bus_exporter_otlp_errors_total", [], im.otlpErrorsTotal.repr⟩,
    ⟨"bus_exporter_prometheus_scrapes_total", [], im.prometheusScrapesTotal.repr⟩]

theorem wellFormed_collectorFamily :
    ∀ family ∈ InternalMetrics.collectorFamilies, IsName family.name ∧
      '\n' ∉ family.description.toList ∧ (family.kind = "gauge" ∨ family.kind = "counter") := by
  decide +kernel

theorem isNumber_collectorFamily :
    ∀ family ∈ InternalMetrics.collectorFamilies, ∀ s, IsNumber (family.value s).toList := by
  simp only [InternalMetrics.collectorFamilies, List.forall_mem_cons]
  exact ⟨fun s => isNumber_repr _, fun s => isNumber_repr _, fun s => isNumber_repr _,
    fun s => isNumber_repr _, fun s => isNumber_repr _, fun s => isNumber_displayFixed 6 _, by simp⟩

theorem wellFormed_singleLines {name description kind value : String} (isName : IsName name)
    (unbroken : '\n' ∉ description.toList) (known : kind = "gauge" ∨ kind = "counter")
    (isNumber : IsNumber value.toList) :
    ∀ line ∈ InternalMetrics.singleLines name description kind value, line.WellFormed := by
  simp only [InternalMetrics.singleLines, List.forall_mem_cons]
  exact ⟨⟨isName, unbroken⟩, ⟨isName, known⟩, ⟨isName, by simp, isNumber⟩, by simp⟩

theorem filter_singleLines (name description kind value : String) :
    (InternalMetrics.singleLines name description kind value).filter (·.isSample) =
      [Sample.written ⟨name, [], value⟩] :=
  rfl

theorem filter_collectorLines (im : InternalMetrics) (family : InternalMetrics.CollectorFamily) :
    (im.collectorLines family).filter (·.isSample) =
      im.collectors.filterMap (im.collectorLine family) := by
  have samples : (im.collectors.filterMap (im.collectorLine family)).filter (·.isSample) =
      im.collectors.filterMap (im.collectorLine family) := by
    refine List.filter_eq_self.mpr fun line mem => ?_
    obtain ⟨c, -, found⟩ := List.mem_filterMap.mp mem
    obtain ⟨s, -, rfl⟩ := Option.map_eq_some_iff.mp found
    rfl
  exact samples

/-- Every collector has a sample of each family, whatever the order. -/
theorem perm_collectorLines (im : InternalMetrics) (family : InternalMetrics.CollectorFamily) :
    (im.collectors.filterMap (im.collectorLine family)).Perm
      (im.collectorStats.pairs.map fun entry =>
        Sample.written ⟨family.name, [("collector", entry.1)], family.value entry.2⟩) := by
  have sorted := (List.perm_insertionSort (· ≤ ·) im.collectorStats.keys).filterMap
    (im.collectorLine family)
  refine sorted.trans (.of_eq ?_)
  exact HashMap.filterMap_keys im.collectorStats fun c s =>
    BodyLine.sample family.name [("collector", c)] (family.value s)

theorem pairs_eq_nil {im : InternalMetrics} (empty : im.collectors.isEmpty = true) :
    im.collectorStats.pairs = [] := by
  have sorted := List.perm_insertionSort (· ≤ ·) im.collectorStats.keys
  change im.collectors.Perm _ at sorted
  rw [List.isEmpty_iff.mp empty, List.nil_perm, ← HashMap.map_fst_pairs] at sorted
  exact List.map_eq_nil_iff.mp sorted

/-- The internal metrics are the internal samples, as they are. -/
theorem perm_renderPrometheus (im : InternalMetrics) (uptime : Duration) :
    ((im.renderPrometheus uptime).filter (·.isSample)).Perm
      ((internalSamples im uptime).map Sample.written) := by
  -- Without collectors there are no families and no stats either.
  have families : ((if im.collectors.isEmpty then []
      else InternalMetrics.collectorFamilies.flatMap im.collectorLines).filter (·.isSample)).Perm
        ((InternalMetrics.collectorFamilies.flatMap fun family =>
          im.collectorStats.pairs.map fun entry =>
            (⟨family.name, [("collector", entry.1)], family.value entry.2⟩ : Sample)).map
              Sample.written) := by
    split
    · rename_i empty
      simp [pairs_eq_nil empty]
    · rw [List.filter_flatMap, List.map_flatMap]
      refine List.Perm.flatMap_left _ fun family _ => ?_
      rw [filter_collectorLines, List.map_map]
      exact perm_collectorLines im family
  simp only [InternalMetrics.renderPrometheus, List.filter_append, filter_singleLines,
    internalSamples, List.map_append, List.map_cons, List.map_nil, List.append_assoc,
    List.cons_append, List.nil_append]
  exact ((families.append_right _).cons _).cons _

theorem wellFormed_metadata_collectorLines (im : InternalMetrics)
    {family : InternalMetrics.CollectorFamily} (known : family ∈ InternalMetrics.collectorFamilies)
    {line : BodyLine} (mem : line ∈ im.collectorLines family) (metadata : line.isSample = false) :
    line.WellFormed := by
  obtain ⟨isName, unbroken, kind⟩ := wellFormed_collectorFamily family known
  rcases List.mem_cons.mp mem with rfl | mem
  · exact ⟨isName, unbroken⟩
  · rcases List.mem_cons.mp mem with rfl | mem
    · exact ⟨isName, kind⟩
    · obtain ⟨c, -, found⟩ := List.mem_filterMap.mp mem
      obtain ⟨s, -, rfl⟩ := Option.map_eq_some_iff.mp found
      cases metadata

theorem wellFormed_metadata_renderPrometheus (im : InternalMetrics) (uptime : Duration)
    {line : BodyLine} (mem : line ∈ im.renderPrometheus uptime) (metadata : line.isSample = false) :
    line.WellFormed := by
  simp only [InternalMetrics.renderPrometheus, List.mem_append] at mem
  rcases mem with ((((mem | mem) | mem) | mem) | mem) | mem
  · exact wellFormed_singleLines (by decide) (by simp) (.inl rfl) (isNumber_repr _) line mem
  · exact wellFormed_singleLines (by decide) (by simp) (.inl rfl) (isNumber_displayFixed 1 _)
      line mem
  · split at mem
    · cases mem
    · obtain ⟨family, known, mem⟩ := List.mem_flatMap.mp mem
      exact wellFormed_metadata_collectorLines im known mem metadata
  · exact wellFormed_singleLines (by decide) (by simp) (.inr rfl) (isNumber_repr _) line mem
  · exact wellFormed_singleLines (by decide) (by simp) (.inr rfl) (isNumber_repr _) line mem
  · exact wellFormed_singleLines (by decide) (by simp) (.inr rfl) (isNumber_repr _) line mem

/-- The labels of the internal samples are the names of the collectors. -/
theorem plain_internalSamples {im : InternalMetrics} (uptime : Duration) :
    (∀ sample ∈ internalSamples im uptime, ∀ label ∈ sample.labels, Plain label.2) ↔
      ∀ c ∈ im.collectorStats, Plain c := by
  constructor
  · intro plain c mem
    obtain ⟨s, found⟩ := Option.isSome_iff_exists.mp (AList.lookup_isSome.mpr mem)
    have first := plain ⟨"bus_exporter_polls_total", [("collector", c)], s.pollsTotal.repr⟩ ?_
      ("collector", c) (by simp)
    · exact first
    · simp only [internalSamples, List.mem_append, List.mem_flatMap, List.mem_map]
      refine .inl (.inr ⟨_, List.mem_cons_self .., (c, s), HashMap.mem_pairs.mpr found, rfl⟩)
  · intro plain sample mem label inside
    simp only [internalSamples, List.mem_append, List.mem_flatMap, List.mem_map] at mem
    rcases mem with (mem | ⟨family, -, entry, stored, rfl⟩) | mem
    · rcases List.mem_pair.mp mem with rfl | rfl <;> cases inside
    · rw [List.mem_singleton.mp inside]
      exact plain entry.1 (AList.lookup_isSome.mp (by simp [HashMap.mem_pairs.mp stored]))
    · simp only [List.mem_cons, List.not_mem_nil, or_false] at mem
      rcases mem with rfl | rfl | rfl <;> cases inside

/-! ## The body -/

/-- The samples of the internal metrics, where they are collected. -/
def ownSamples (state : PrometheusState) (uptime : Duration) : List Sample :=
  match state.internalMetrics with
  | none => []
  | some im => internalSamples im uptime

theorem mem_ownSamples {state : PrometheusState} {uptime : Duration} {sample : Sample} :
    sample ∈ ownSamples state uptime ↔
      ∃ im, state.internalMetrics = some im ∧ sample ∈ internalSamples im uptime := by
  unfold ownSamples
  cases state.internalMetrics with
  | none => simp
  | some im => simp

/-- What a body should report: the values of the store and the internal metrics. -/
def samplesOf (state : PrometheusState) (uptime : Duration) : List Sample :=
  state.store.allMetricsFlat.map deviceSample ++ ownSamples state uptime

theorem wellFormed_internalSamples (im : InternalMetrics) (uptime : Duration) :
    ∀ sample ∈ internalSamples im uptime, sample.line.WellFormed := by
  intro sample mem
  simp only [internalSamples, List.mem_append, List.mem_flatMap, List.mem_map] at mem
  -- All but the samples of collectors have no labels.
  have unlabelled : ∀ {name value : String}, IsName name → IsNumber value.toList →
      (Sample.line ⟨name, [], value⟩).WellFormed :=
    fun isName isNumber => ⟨isName, by simp, isNumber⟩
  rcases mem with (mem | ⟨family, known, entry, -, rfl⟩) | mem
  · rcases List.mem_pair.mp mem with rfl | rfl
    · exact unlabelled (by decide) (isNumber_repr _)
    · exact unlabelled (by decide) (isNumber_displayFixed 1 _)
  · refine ⟨(wellFormed_collectorFamily family known).1, fun label mem => ?_,
      isNumber_collectorFamily family known _⟩
    rw [List.map_singleton, List.mem_singleton] at mem
    subst mem
    exact ⟨show IsName "collector" by decide, _, rfl⟩
  · simp only [List.mem_cons, List.not_mem_nil, or_false] at mem
    rcases mem with rfl | rfl | rfl
    · exact unlabelled (by decide) (isNumber_repr _)
    · exact unlabelled (by decide) (isNumber_repr _)
    · exact unlabelled (by decide) (isNumber_repr _)

/-- The samples of a body: the store's are escaped, and the internal ones are not. -/
theorem perm_metricsLines (state : PrometheusState) (uptime : Duration) :
    ((metricsLines state uptime).filter (·.isSample)).Perm
      ((state.store.allMetricsFlat.map deviceSample).map Sample.line ++
        (ownSamples state uptime).map Sample.written) := by
  unfold metricsLines ownSamples
  cases state.internalMetrics with
  | none => simpa using perm_renderMetrics state.store
  | some im =>
    rw [List.filter_append]
    exact (perm_renderMetrics state.store).append (perm_renderPrometheus im uptime)

/-- The body of a state reports its samples exactly if the collectors' names need no escape. -/
theorem reports_metricsLines (state : PrometheusState) (uptime : Duration) :
    Reports (bodyText (metricsLines state uptime)) (samplesOf state uptime) ↔
      ∀ im, state.internalMetrics = some im → ∀ c ∈ im.collectorStats, Plain c := by
  -- Only the label values of the internal samples are not escaped.
  have metadata : ∀ line ∈ metricsLines state uptime, line.isSample = false → line.WellFormed := by
    intro line mem isMetadata
    rcases List.mem_append.mp mem with ofStore | own
    · exact wellFormed_renderMetrics state.store line ofStore
    · cases collected : state.internalMetrics with
      | none =>
        rw [collected] at own
        cases own
      | some im =>
        rw [collected] at own
        rcases List.mem_cons.mp own with rfl | own
        · trivial
        · exact wellFormed_metadata_renderPrometheus im uptime own isMetadata
  have wellFormed : ∀ sample ∈ samplesOf state uptime, sample.line.WellFormed := by
    intro sample mem
    rcases List.mem_append.mp mem with ofStore | own
    · obtain ⟨m, -, rfl⟩ := List.mem_map.mp ofStore
      exact wellFormed_deviceSample m
    · obtain ⟨im, -, internal⟩ := mem_ownSamples.mp own
      exact wellFormed_internalSamples im uptime sample internal
  rw [samplesOf, reports_iff metadata (perm_metricsLines state uptime) wellFormed, ownSamples]
  cases state.internalMetrics with
  | none => simp
  | some im =>
    simp only [plain_internalSamples]
    simp

/-- The state that a body is rendered from: the scrape is counted in it. -/
def counted (state : PrometheusState) : PrometheusState :=
  { state with internalMetrics := state.internalMetrics.map countScrape }

theorem run_metricsHandler (uptime : Duration) (state : PrometheusState) :
    ((metricsHandler uptime).run state).2 = counted state ∧
      ((metricsHandler uptime).run state).1.body = bodyText (metricsLines (counted state) uptime) :=
  ⟨rfl, rfl⟩

theorem plain_counted (state : PrometheusState) :
    (∀ im, (counted state).internalMetrics = some im → ∀ c ∈ im.collectorStats, Plain c) ↔
      ∀ im, state.internalMetrics = some im → ∀ c ∈ im.collectorStats, Plain c := by
  unfold counted
  cases state.internalMetrics with
  | none => simp
  | some im => simp [countScrape]

/-- The body of a scrape is well formed and reports the values of the store and the internal
metrics, their label values escaped, if and only if no collector with internal metrics has a
backslash, a quote or a line break in its name. -/
theorem wellFormedBody_iff (uptime : Duration) (state : PrometheusState) :
    Reports ((metricsHandler uptime).run state).1.body
        (samplesOf ((metricsHandler uptime).run state).2 uptime) ↔
      ∀ im, state.internalMetrics = some im → ∀ c ∈ im.collectorStats, Plain c := by
  obtain ⟨after, body⟩ := run_metricsHandler uptime state
  rw [body, after, reports_metricsLines, plain_counted]

/-- A collector with quotes in its name. -/
def quoted : CollectorConfig := { Samples.sensor with name := "plant \"A\"" }

/-- The state after its first poll has started. -/
def quotedState : PrometheusState where
  store := ∅
  internalMetrics := some (({ collectorsTotal := 1 } : InternalMetrics).updateCollector quoted.name
    fun stats => { stats with pollsTotal := stats.pollsTotal + 1 })

/-- A validated collector whose name makes the body malformed. -/
theorem malformed_quoted_name :
    quoted.Validated ∧ ¬ Reports ((metricsHandler 0).run quotedState).1.body
      (samplesOf ((metricsHandler 0).run quotedState).2 0) := by
  refine ⟨Samples.validated_of_configOf (by decide), fun reports => ?_⟩
  obtain ⟨after, body⟩ := run_metricsHandler 0 quotedState
  rw [body, after, reports_metricsLines, plain_counted] at reports
  have plain := reports _ rfl quoted.name (by decide) '"' (by decide +kernel)
  exact plain.2.1 rfl

end BusExporter.Prometheus
