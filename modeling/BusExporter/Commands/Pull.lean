import BusExporter.Commands.CollectOnce
import BusExporter.Commands.Filter

/-!
# The pull command

A pull reports every metric of the collectors that match the filters once: with its
value if its own read succeeded, and with an error otherwise. Its counters add up, and
its exit code says whether any entry has an error. This holds whatever comes of the
single collectors.
-/

namespace BusExporter.Commands

open Foundation

variable {σ : Type}

/-! ## The command -/

/-- The document that is printed. -/
structure PullOutput where
  report : Report
  totalCollectors : ℕ
  deriving DecidableEq

/-- `run_pull`: what is printed, and the exit code. -/
def runPull (compile : String → Except String Matcher)
    (attempts : CollectorConfig → Call σ Attempt) (config : Config)
    (collectorFilter metricFilter : Option String) : Call σ (Except Error (PullOutput × ℤ)) := do
  match filterCollectors compile config.collectors collectorFilter metricFilter with
  | .error e => return .error e
  | .ok filteredCollectors =>
    if filteredCollectors.isEmpty then
      return .error (.msg "no collectors/metrics match the given filters")
    else
      let report ← collectWith attempts filteredCollectors
      return .ok (⟨report, filteredCollectors.length⟩, if report.failed > 0 then 2 else 0)

/-! ## What a report has to say -/

/-- What came of a metric: nothing, if its collector was not read or the results leave it out. -/
def ownResult (outcome : Attempt) (m : MetricConfig) : Option MetricResult :=
  match outcome with
  | .createFailed _ | .connectFailed _ => none
  | .read results => results.metrics.lookup m.name

/-- The entry has the values and no error exactly if the metric's own result is a value, which
the document writes as `number` says. -/
structure ReportsMetric (number : Float → Option Float) (outcome : Attempt) (m : MetricConfig)
    (entry : MetricEntry) : Prop where
  named : entry.name = m.name
  values : ∀ rawValue scaledValue, ownResult outcome m = some (.ok (rawValue, scaledValue)) →
    entry.value = number scaledValue ∧ entry.rawValue = number rawValue
  nulls : (¬ ∃ value, ownResult outcome m = some (.ok value)) →
    entry.value = none ∧ entry.rawValue = none
  errorIff : entry.error = none ↔ ∃ value, ownResult outcome m = some (.ok value)

/-- One entry for each metric, in order. -/
structure ReportsCollector (number : Float → Option Float)
    (attempted : CollectorConfig × Attempt) (entry : CollectorEntry) : Prop where
  named : entry.name = attempted.1.name
  protocol : entry.protocol = attempted.1.protocol.toString
  metrics : List.Forall₂ (ReportsMetric number attempted.2) attempted.1.metrics entry.metrics

/-- One entry for each collector, in order, and counters that add up. -/
structure ReportsAll (number : Float → Option Float) (collectors : List CollectorConfig)
    (outcomes : List Attempt) (report : Report) : Prop where
  everyCollector : outcomes.length = collectors.length
  entries : List.Forall₂ (ReportsCollector number) (collectors.zip outcomes) report.collectors
  total : report.totalMetrics = (collectors.map (·.metrics.length)).sum
  balanced : report.totalMetrics = report.successful + report.failed

/-! ## Counters -/

/-- The counters count these entries. -/
structure Totals.Count (totals : Totals) (entries : List MetricEntry) : Prop where
  total : totals.totalMetrics = entries.length
  successful : totals.successful = entries.countP (·.error.isNone)
  failed : totals.failed = entries.countP (·.error.isSome)

section Counters

variable {totals : Totals} {before : List MetricEntry} {loop : MetricsLoop}

theorem Totals.Count.balanced {entries : List MetricEntry} (count : totals.Count entries) :
    totals.totalMetrics = totals.successful + totals.failed := by
  have split := List.length_eq_countP_add_countP (fun entry : MetricEntry => entry.error.isNone)
    (l := entries)
  have negated : (fun entry : MetricEntry => decide ¬ entry.error.isNone = true) =
      fun entry => entry.error.isSome := by
    funext entry
    cases entry.error <;> rfl
  rw [count.total, count.successful, count.failed, split, negated]

theorem count_fail {entry : MetricEntry} (count : loop.Count (before ++ loop.metricsJson))
    (failed : entry.error.isSome) :
    (loop.fail entry).Count (before ++ (loop.fail entry).metricsJson) := by
  obtain ⟨total, successful, failures⟩ := count
  have unsuccessful : entry.error.isNone = false := by
    cases h : entry.error <;> simp [h] at failed ⊢
  constructor <;> simp [MetricsLoop.fail, ← List.append_assoc, *]

theorem count_succeed {entry : MetricEntry} (count : loop.Count (before ++ loop.metricsJson))
    (succeeded : entry.error = none) :
    (loop.succeed entry).Count (before ++ (loop.succeed entry).metricsJson) := by
  obtain ⟨total, successful, failures⟩ := count
  constructor <;> simp [MetricsLoop.succeed, ← List.append_assoc, *]

theorem count_readStep (results : ReadResults) (m : MetricConfig)
    (count : loop.Count (before ++ loop.metricsJson)) :
    (loop.readStep results m).Count (before ++ (loop.readStep results m).metricsJson) := by
  unfold MetricsLoop.readStep
  cases results.metrics.lookup m.name with
  | none => exact count_fail count rfl
  | some result =>
    cases result with
    | error e => exact count_fail count rfl
    | ok value => exact count_succeed count rfl

theorem count_foldl {step : MetricsLoop → MetricConfig → MetricsLoop}
    (counts : ∀ loop m, loop.Count (before ++ loop.metricsJson) →
      (step loop m).Count (before ++ (step loop m).metricsJson))
    (metrics : List MetricConfig) (count : loop.Count (before ++ loop.metricsJson)) :
    (metrics.foldl step loop).Count (before ++ (metrics.foldl step loop).metricsJson) := by
  induction metrics generalizing loop with
  | nil => exact count
  | cons m metrics ih => exact ih (counts loop m count)

/-- However the body is left, every metric has been counted once. -/
theorem count_run (metrics : List MetricConfig) (outcome : Attempt)
    (count : loop.Count (before ++ loop.metricsJson)) :
    (loop.run metrics outcome).Count (before ++ (loop.run metrics outcome).metricsJson) := by
  cases outcome with
  | createFailed e | connectFailed e =>
    exact count_foldl (fun _ _ count => count_fail count rfl) metrics count
  | read results => exact count_foldl (fun _ => count_readStep results) metrics count

end Counters

/-- The counters of a report count all its entries. -/
def Report.Counts (report : Report) : Prop :=
  report.toTotals.Count (report.collectors.flatMap (·.metrics))

theorem counts_record {report : Report} (counts : report.Counts) (c : CollectorConfig)
    (outcome : Attempt) : (report.record c outcome).Counts := by
  have start : Totals.Count report.toTotals (report.collectors.flatMap (·.metrics) ++ []) := by
    rwa [List.append_nil]
  have counted := @count_run _ ⟨report.toTotals, []⟩ c.metrics outcome start
  rw [Report.Counts, Report.record]
  simpa using counted

theorem Report.Counts.failed_pos_iff {report : Report} (counts : report.Counts) :
    0 < report.failed ↔ ∃ c ∈ report.collectors, ∃ entry ∈ c.metrics, entry.error.isSome := by
  rw [counts.failed, List.countP_pos_iff]
  constructor
  · rintro ⟨entry, mem, failed⟩
    obtain ⟨c, inside, mem⟩ := List.mem_flatMap.mp mem
    exact ⟨c, inside, entry, mem, failed⟩
  · rintro ⟨c, inside, entry, mem, failed⟩
    exact ⟨entry, List.mem_flatMap.mpr ⟨c, inside, mem⟩, failed⟩

/-! ## What is reported -/

section Reported

variable {attempts : CollectorConfig → Call σ Attempt}

theorem counts_recordAll (all : List (CollectorConfig × Attempt)) {report : Report}
    (counts : report.Counts) : (recordAll all report).Counts := by
  unfold recordAll
  induction all generalizing report with
  | nil => exact counts
  | cons attempted all ih => exact ih (counts_record counts attempted.1 attempted.2)

theorem reportsMetric_failedEntry {outcome : Attempt} {m : MetricConfig} (error : String)
    (failed : ¬ ∃ value, ownResult outcome m = some (.ok value)) :
    ReportsMetric jsonNumber outcome m (failedEntry error m) where
  named := rfl
  values rawValue scaledValue own := absurd ⟨_, own⟩ failed
  nulls _ := ⟨rfl, rfl⟩
  errorIff := iff_of_false (by simp [failedEntry]) failed

theorem reportsMetric_entryOf (results : ReadResults) (m : MetricConfig) :
    ReportsMetric jsonNumber (.read results) m (entryOf results m) := by
  unfold entryOf
  cases found : results.metrics.lookup m.name with
  | none => exact reportsMetric_failedEntry _ (by simp [ownResult, found])
  | some result =>
    cases result with
    | error e => exact reportsMetric_failedEntry _ (by simp [ownResult, found])
    | ok value =>
      have own : ownResult (.read results) m = some (.ok value) := found
      refine ⟨rfl, fun rawValue scaledValue same => ?_, fun none => absurd ⟨value, own⟩ none,
        iff_of_true rfl ⟨value, own⟩⟩
      obtain rfl : value = (rawValue, scaledValue) := by simpa [own] using same
      exact ⟨rfl, rfl⟩

theorem reportsCollector_collectorEntry (c : CollectorConfig) (outcome : Attempt) :
    ReportsCollector jsonNumber (c, outcome) (collectorEntry c outcome) := by
  refine ⟨rfl, rfl, ?_⟩
  cases outcome with
  | createFailed e | connectFailed e =>
    exact List.forall₂_map_right_iff.mpr
      (List.forall₂_same.mpr fun m _ => reportsMetric_failedEntry _ (by simp [ownResult]))
  | read results =>
    exact List.forall₂_map_right_iff.mpr
      (List.forall₂_same.mpr fun m _ => reportsMetric_entryOf results m)

/-- A collect reports what came of every attempt, and its counters count all entries. -/
theorem reportsAll_of_ran {collectors : List CollectorConfig} {report : Report} {s s' : σ}
    (ran : (collectWith attempts collectors).run s = .ok (report, s')) :
    report.Counts ∧ ∃ outcomes, Attempted attempts collectors s outcomes s' ∧
      ReportsAll jsonNumber collectors outcomes report := by
  obtain ⟨outcomes, attempted, length, rfl⟩ := attempted_of_ran ran
  have start : Report.empty.Counts := ⟨rfl, rfl, rfl⟩
  have counts := counts_recordAll (collectors.zip outcomes) start
  have entries : (recordAll (collectors.zip outcomes) .empty).collectors = _ :=
    recordAll_collectors (collectors.zip outcomes) .empty
  refine ⟨counts, outcomes, attempted, length, ?_, ?_, counts.balanced⟩
  · rw [entries]
    exact List.forall₂_map_right_iff.mpr
      (List.forall₂_same.mpr fun attempted _ => reportsCollector_collectorEntry _ _)
  · have lengths : ∀ attempted : CollectorConfig × Attempt,
        (collectorEntry attempted.1 attempted.2).metrics.length = attempted.1.metrics.length :=
      fun attempted => (reportsCollector_collectorEntry _ _).metrics.length_eq.symm
    -- Pairing the collectors with their outcomes leaves out none of them.
    have firsts : (collectors.zip outcomes).map Prod.fst = collectors :=
      List.map_fst_zip (by omega)
    rw [counts.total, entries, Report.empty, List.nil_append, List.length_flatMap, List.map_map]
    conv_rhs => rw [← firsts, List.map_map]
    exact congrArg List.sum (List.map_congr_left fun attempted _ => lengths attempted)

/-- The exit code of a pull that prints a report tells whether an entry has an error. -/
theorem exitCode_iff {compile : String → Except String Matcher} {config : Config}
    {collectorFilter metricFilter : Option String} {s s' : σ} {output : PullOutput} {code : ℤ}
    (ran : (runPull compile attempts config collectorFilter metricFilter).run s =
      .ok (.ok (output, code), s')) :
    code = 2 ↔ ∃ c ∈ output.report.collectors, ∃ entry ∈ c.metrics, entry.error ≠ none := by
  unfold runPull at ran
  cases filtered : filterCollectors compile config.collectors collectorFilter metricFilter with
  | error e =>
    rw [filtered] at ran
    cases ran
  | ok collectors =>
    rw [filtered] at ran
    simp only at ran
    split_ifs at ran with isEmpty
    · cases ran
    · obtain ⟨report, between, collected, printed⟩ := run_bind_eq_ok.mp ran
      obtain ⟨same, rfl⟩ := run_pure_eq_ok.mp printed
      cases same
      obtain ⟨counts, -⟩ := reportsAll_of_ran collected
      simp only [ne_eq, ← Option.isSome_iff_ne_none, ← counts.failed_pos_iff]
      split_ifs with failed
      · simp [failed]
      · simp [failed]

end Reported

/-! ## Accounting for every metric -/

/-- What a single-shot collection promises, with the numbers of the document as `number` says:
it reports if its attempts come back, every report has every metric of every collector once, and
the exit code tells of errors. -/
structure PullAccounts (number : Float → Option Float)
    (attempts : CollectorConfig → Call σ Attempt) : Prop where
  returns : ∀ collectors : List CollectorConfig,
    (∀ c ∈ collectors, Returns (attempts c) fun _ => True) →
      Returns (collectWith attempts collectors) fun report =>
        ∃ outcomes, ReportsAll number collectors outcomes report
  reports : ∀ (collectors : List CollectorConfig) (s s' : σ) (report : Report),
    (∀ c ∈ collectors, (c.metrics.map (·.name)).Nodup) →
    (collectWith attempts collectors).run s = .ok (report, s') →
      ∃ outcomes, Attempted attempts collectors s outcomes s' ∧
        ReportsAll number collectors outcomes report
  exitCode : ∀ (compile : String → Except String Matcher) (config : Config)
    (collectorFilter metricFilter : Option String) (s s' : σ) (output : PullOutput) (code : ℤ),
    (runPull compile attempts config collectorFilter metricFilter).run s =
        .ok (.ok (output, code), s') →
      (code = 2 ↔ ∃ c ∈ output.report.collectors, ∃ entry ∈ c.metrics, entry.error ≠ none)

/-- **Single-shot collection accounts for every metric exactly once**, whatever comes of the
collectors, with every finite number as it is. -/
theorem pullAccounts (attempts : CollectorConfig → Call σ Attempt) :
    PullAccounts jsonNumber attempts where
  returns collectors all s := by
    obtain ⟨report, s', ran, -⟩ :=
      @collect_returns _ attempts (fun _ _ => True) collectors all .empty s
    obtain ⟨-, outcomes, -, reported⟩ := reportsAll_of_ran ran
    exact ⟨report, s', ran, outcomes, reported⟩
  reports _ _ _ _ _ ran := (reportsAll_of_ran ran).2
  exitCode _ _ _ _ _ _ _ _ ran := exitCode_iff ran

/-- A double that is not a number. -/
def notANumber : Float := Float.ofBits 0x7FF8000000000000

/-- Every read finds that the metric's registers hold no number. -/
def readsNotANumber : CollectorConfig → Call Unit Attempt := fun _ =>
  return .read ⟨AList.singleton "flow" (.ok (notANumber, notANumber)), 1⟩

/-- A value that is not a number is reported as null, although it was read. -/
theorem not_a_number_is_null : ¬ PullAccounts some readsNotANumber := by
  intro accounts
  obtain ⟨outcomes, attempted, all⟩ :=
    accounts.reports [Samples.plc [Samples.wordMetric "flow" 0]] () () _ (by decide) rfl
  cases attempted with
  | cons first rest =>
    cases first
    obtain ⟨collector, -⟩ := List.forall₂_cons.mp all.entries
    obtain ⟨entry, -⟩ := List.forall₂_cons.mp collector.metrics
    have printed : jsonNumber notANumber = some notANumber :=
      (entry.values notANumber notANumber rfl).1
    have null : jsonNumber notANumber = none := by decide +kernel
    rw [null] at printed
    cases printed

end BusExporter.Commands
