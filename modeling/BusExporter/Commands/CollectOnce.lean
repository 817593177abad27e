import BusExporter.Config.MetricsFiles
import BusExporter.Reader.Safety

/-!
# Collecting once

What the pull and watch commands do with a configuration that was never validated:
create, connect and read each collector once, and report every metric.
-/

namespace BusExporter.Commands

open Foundation

/-- A metric of the report, with JSON's `null` as `none`. -/
structure MetricEntry where
  name : String
  value : Option Float
  rawValue : Option Float
  error : Option String
  deriving DecidableEq

/-- A floating-point number in JSON, which has only the finite ones. -/
def jsonNumber (x : Float) : Option Float := if x.isFinite then some x else none

def failedEntry (error : String) (m : MetricConfig) : MetricEntry :=
  ⟨m.name, none, none, some error⟩

structure CollectorEntry where
  name : String
  protocol : String
  metrics : List MetricEntry
  deriving DecidableEq

/-- The counters. -/
structure Totals where
  totalMetrics : ℕ
  successful : ℕ
  failed : ℕ
  deriving DecidableEq

/-- What the loops over the metrics of a collector carry along. -/
structure MetricsLoop extends Totals where
  metricsJson : List MetricEntry

namespace MetricsLoop

variable (loop : MetricsLoop)

def fail (entry : MetricEntry) : MetricsLoop where
  totalMetrics := loop.totalMetrics + 1
  successful := loop.successful
  failed := loop.failed + 1
  metricsJson := loop.metricsJson ++ [entry]

def succeed (entry : MetricEntry) : MetricsLoop where
  totalMetrics := loop.totalMetrics + 1
  successful := loop.successful + 1
  failed := loop.failed
  metricsJson := loop.metricsJson ++ [entry]

/-- A metric of a collector that could not be created or connected. -/
def failStep (error : String) (m : MetricConfig) : MetricsLoop :=
  loop.fail (failedEntry error m)

/-- A metric of a collector that was read. -/
def readStep (results : ReadResults) (m : MetricConfig) : MetricsLoop :=
  match results.metrics.lookup m.name with
  | some (.ok (rawValue, scaledValue)) =>
    loop.succeed ⟨m.name, jsonNumber scaledValue, jsonNumber rawValue, none⟩
  | some (.error e) => loop.fail (failedEntry e.display m)
  -- A cancelled read leaves metrics out.
  | none => loop.fail (failedEntry "metric not in results" m)

/-- The loops over the metrics, one for each way to leave the body of the outer loop. -/
def run (metrics : List MetricConfig) : Attempt → MetricsLoop
  | .createFailed e =>
    metrics.foldl (failStep · s!"collector create failed: {e.display}") loop
  | .connectFailed e => metrics.foldl (failStep · s!"connect failed: {e.display}") loop
  | .read results => metrics.foldl (readStep · results) loop

end MetricsLoop

structure Report extends Totals where
  collectors : List CollectorEntry
  deriving DecidableEq

namespace Report

def empty : Report := ⟨⟨0, 0, 0⟩, []⟩

/-- Append a collector, and count its metrics. -/
def record (report : Report) (c : CollectorConfig) (outcome : Attempt) : Report :=
  let loop := MetricsLoop.run ⟨report.toTotals, []⟩ c.metrics outcome
  ⟨loop.toTotals, report.collectors ++ [⟨c.name, c.protocol.toString, loop.metricsJson⟩]⟩

end Report

variable {σ κ : Type}

section

variable (attempts : CollectorConfig → Call σ Attempt)

def collectOne (report : Report) (c : CollectorConfig) : Call σ Report := do
  let outcome ← attempts c
  return report.record c outcome

/-- `collect_once`, over what comes of creating, connecting and reading a collector. -/
def collectWith (collectors : List CollectorConfig) : Call σ Report :=
  collectors.foldlM (collectOne attempts) Report.empty

end

/-- `collect_once` on the readers of this program. -/
def collectOnce (world : World σ κ) (collectors : List CollectorConfig) : Call σ Report :=
  collectWith (attempt world) collectors

/-! ## Entries -/

/-- What is reported of a metric after a read. -/
def entryOf (results : ReadResults) (m : MetricConfig) : MetricEntry :=
  match results.metrics.lookup m.name with
  | some (.ok (rawValue, scaledValue)) =>
    ⟨m.name, jsonNumber scaledValue, jsonNumber rawValue, none⟩
  | some (.error e) => failedEntry e.display m
  | none => failedEntry "metric not in results" m

def metricEntries (metrics : List MetricConfig) : Attempt → List MetricEntry
  | .createFailed e => metrics.map (failedEntry s!"collector create failed: {e.display}")
  | .connectFailed e => metrics.map (failedEntry s!"connect failed: {e.display}")
  | .read results => metrics.map (entryOf results)

def collectorEntry (c : CollectorConfig) (outcome : Attempt) : CollectorEntry :=
  ⟨c.name, c.protocol.toString, metricEntries c.metrics outcome⟩

/-- A loop that appends one entry for each metric appends the entries of all of them. -/
theorem metricsJson_foldl {step : MetricsLoop → MetricConfig → MetricsLoop}
    {entry : MetricConfig → MetricEntry}
    (appends : ∀ loop m, (step loop m).metricsJson = loop.metricsJson ++ [entry m])
    (metrics : List MetricConfig) (loop : MetricsLoop) :
    (metrics.foldl step loop).metricsJson = loop.metricsJson ++ metrics.map entry := by
  induction metrics generalizing loop with
  | nil => simp
  | cons m metrics ih => simp [ih, appends]

theorem readStep_metricsJson (results : ReadResults) (loop : MetricsLoop) (m : MetricConfig) :
    (loop.readStep results m).metricsJson = loop.metricsJson ++ [entryOf results m] := by
  unfold MetricsLoop.readStep entryOf
  cases results.metrics.lookup m.name with
  | none => rfl
  | some result => cases result <;> rfl

theorem run_metricsJson (loop : MetricsLoop) (metrics : List MetricConfig) (outcome : Attempt) :
    (loop.run metrics outcome).metricsJson = loop.metricsJson ++ metricEntries metrics outcome := by
  cases outcome with
  | createFailed e | connectFailed e => exact metricsJson_foldl (fun _ _ => rfl) metrics loop
  | read results => exact metricsJson_foldl (readStep_metricsJson results) metrics loop

theorem record_collectors (report : Report) (c : CollectorConfig) (outcome : Attempt) :
    (report.record c outcome).collectors = report.collectors ++ [collectorEntry c outcome] := by
  simp [Report.record, run_metricsJson, collectorEntry]

/-! ## What is reported -/

variable {world : World σ κ}

/-- Record the outcomes of attempts, one after the other. -/
def recordAll (all : List (CollectorConfig × Attempt)) (report : Report) : Report :=
  all.foldl (fun report attempted => report.record attempted.1 attempted.2) report

/-- The outcomes of attempting the collectors, one after the other. -/
inductive Attempted (attempts : CollectorConfig → Call σ Attempt) :
    List CollectorConfig → σ → List Attempt → σ → Prop
  | nil (s : σ) : Attempted attempts [] s [] s
  | cons {c : CollectorConfig} {collectors : List CollectorConfig} {outcome : Attempt}
      {outcomes : List Attempt} {s between s' : σ}
      (first : (attempts c).run s = .ok (outcome, between))
      (rest : Attempted attempts collectors between outcomes s') :
      Attempted attempts (c :: collectors) s (outcome :: outcomes) s'

theorem recordAll_collectors (all : List (CollectorConfig × Attempt)) (report : Report) :
    (recordAll all report).collectors =
      report.collectors ++ all.map fun attempted => collectorEntry attempted.1 attempted.2 := by
  unfold recordAll
  induction all generalizing report with
  | nil => simp
  | cons attempted all ih => simp [ih, record_collectors]

/-- A report relates to the collectors as their outcomes do. -/
theorem forall₂_recordAll_iff {R : CollectorConfig → CollectorEntry → Prop}
    {collectors : List CollectorConfig} {outcomes : List Attempt}
    (length : outcomes.length = collectors.length) :
    List.Forall₂ R collectors (recordAll (collectors.zip outcomes) .empty).collectors ↔
      List.Forall₂ (fun c outcome => R c (collectorEntry c outcome)) collectors outcomes := by
  rw [recordAll_collectors, Report.empty, List.nil_append]
  induction collectors generalizing outcomes with
  | nil => simp [List.length_eq_zero_iff.mp length]
  | cons c collectors ih =>
    cases outcomes with
    | nil => cases length
    | cons outcome outcomes =>
      rw [List.zip_cons_cons, List.map_cons, List.forall₂_cons, List.forall₂_cons]
      exact and_congr_right' (ih (Nat.succ.inj length))

/-- A collect that comes back records the outcomes of attempting every collector. -/
theorem attempted_of_ran {attempts : CollectorConfig → Call σ Attempt}
    {collectors : List CollectorConfig} {report final : Report} {s s' : σ}
    (ran : (collectors.foldlM (collectOne attempts) report).run s = .ok (final, s')) :
    ∃ outcomes, Attempted attempts collectors s outcomes s' ∧ outcomes.length = collectors.length ∧
      final = recordAll (collectors.zip outcomes) report := by
  induction collectors generalizing report s with
  | nil =>
    obtain ⟨rfl, rfl⟩ := run_pure_eq_ok.mp ran
    exact ⟨[], .nil _, rfl, rfl⟩
  | cons c collectors ih =>
    rw [List.foldlM_cons] at ran
    obtain ⟨next, s₁, one, rest⟩ := run_bind_eq_ok.mp ran
    obtain ⟨outcome, s₂, attempted, recorded⟩ := run_bind_eq_ok.mp one
    obtain ⟨rfl, rfl⟩ := run_pure_eq_ok.mp recorded
    obtain ⟨outcomes, others, length, rfl⟩ := ih rest
    exact ⟨outcome :: outcomes, .cons attempted others, by simp [length], rfl⟩

theorem Attempted.forall₂ {attempts : CollectorConfig → Call σ Attempt}
    {collectors : List CollectorConfig} {outcomes : List Attempt} {s s' : σ}
    (attempted : Attempted attempts collectors s outcomes s') :
    List.Forall₂ (fun c outcome => ∃ before after,
      (attempts c).run before = .ok (outcome, after)) collectors outcomes := by
  induction attempted with
  | nil s => exact .nil
  | cons first rest ih => exact .cons ⟨_, _, first⟩ ih

/-- If every attempt comes back, so does the collect, and records good outcomes only. -/
theorem collect_returns {attempts : CollectorConfig → Call σ Attempt}
    {good : CollectorConfig → Attempt → Prop} {collectors : List CollectorConfig}
    (returns : ∀ c ∈ collectors, Returns (attempts c) (good c)) (report : Report) :
    Returns (collectors.foldlM (collectOne attempts) report) fun final =>
      ∃ outcomes, List.Forall₂ good collectors outcomes ∧
        final = recordAll (collectors.zip outcomes) report := by
  induction collectors generalizing report with
  | nil => exact .pure ⟨[], .nil, rfl⟩
  | cons c collectors ih =>
    have one : Returns (collectOne attempts report c) fun next =>
        ∃ outcome, good c outcome ∧ next = report.record c outcome :=
      (returns c (List.mem_cons_self ..)).bind fun outcome isGood => .pure ⟨outcome, isGood, rfl⟩
    rw [List.foldlM_cons]
    refine one.bind ?_
    rintro _ ⟨outcome, isGood, rfl⟩
    refine (ih (fun c mem => returns c (List.mem_cons_of_mem _ mem)) _).mono ?_
    rintro _ ⟨outcomes, areGood, rfl⟩
    exact ⟨outcome :: outcomes, .cons isGood areGood, rfl⟩

/-! ## Reports that account for what was read -/

/-- A metric that is reported as successful was read from the address in the configuration. -/
def AccountsFor (world : World σ κ) (c : CollectorConfig) (m : MetricConfig)
    (entry : MetricEntry) : Prop :=
  entry.name = m.name ∧ (entry.error = none → ∃ rawValue scaledValue,
    entry.value = jsonNumber scaledValue ∧ entry.rawValue = jsonNumber rawValue ∧
      ReadFrom world c m (rawValue, scaledValue))

/-- The report has every collector and every metric in order, and accounts for each. -/
def Accounts (world : World σ κ) (c : CollectorConfig) (entry : CollectorEntry) : Prop :=
  entry.name = c.name ∧ List.Forall₂ (AccountsFor world c) c.metrics entry.metrics

/-- On devices that return as many bytes as they should, a collect comes back, and its report
accounts for every metric. -/
def PullsSafely (collectors : List CollectorConfig) : Prop :=
  ∀ (σ κ : Type) (world : World σ κ), world.Exact →
    Returns (collectOnce world collectors) fun report =>
      List.Forall₂ (Accounts world) collectors report.collectors

/-! ## Sound collectors -/

theorem failedEntry_accounts {c : CollectorConfig} {m : MetricConfig} (error : String) :
    AccountsFor world c m (failedEntry error m) :=
  ⟨rfl, fun succeeded => nomatch succeeded⟩

/-- With distinct names, the result under a metric's name is the metric's own. -/
theorem entryOf_accounts {c : CollectorConfig} (distinct : (c.metrics.map (·.name)).Nodup)
    {results : ReadResults}
    (sourced : Reader.AllGood (Sourced world c) c.metrics results.metrics) {m : MetricConfig}
    (mem : m ∈ c.metrics) : AccountsFor world c m (entryOf results m) := by
  unfold entryOf
  cases found : results.metrics.lookup m.name with
  | none => exact failedEntry_accounts _
  | some result =>
    cases result with
    | error e => exact failedEntry_accounts _
    | ok value =>
      obtain ⟨m', mem', named, good⟩ := sourced m.name _ found
      -- The result was stored under the name of some metric, which only this one has.
      obtain rfl : m' = m := List.inj_on_of_nodup_map distinct mem' mem named
      exact ⟨rfl, fun _ => ⟨value.1, value.2, rfl, rfl, good value rfl⟩⟩

theorem collectorEntry_accounts {c : CollectorConfig}
    (distinct : (c.metrics.map (·.name)).Nodup) {outcome : Attempt}
    (sourced : outcome.Sourced world c) : Accounts world c (collectorEntry c outcome) := by
  refine ⟨rfl, ?_⟩
  cases outcome with
  | createFailed e | connectFailed e =>
    exact List.forall₂_map_right_iff.mpr (List.forall₂_same.mpr fun _ _ => failedEntry_accounts _)
  | read results =>
    exact List.forall₂_map_right_iff.mpr
      (List.forall₂_same.mpr fun _ mem => entryOf_accounts distinct sourced mem)

theorem pullsSafely_of_sound {collectors : List CollectorConfig}
    (distinct : ∀ c ∈ collectors, (c.metrics.map (·.name)).Nodup)
    (sound : ∀ c ∈ collectors, c.Sound) : PullsSafely collectors := by
  intro σ κ world exact
  have attempts : ∀ c ∈ collectors, Returns (attempt world c) fun outcome =>
      c ∈ collectors ∧ outcome.Sourced world c :=
    fun c mem => (attempt_returns (sound c mem) exact).mono fun outcome sourced => ⟨mem, sourced⟩
  refine (collect_returns attempts _).mono ?_
  rintro _ ⟨outcomes, sourced, rfl⟩
  refine (forall₂_recordAll_iff sourced.length_eq.symm).mpr (sourced.imp ?_)
  rintro c outcome ⟨mem, sourced⟩
  exact collectorEntry_accounts (distinct c mem) sourced

end BusExporter.Commands
