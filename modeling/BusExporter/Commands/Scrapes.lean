import BusExporter.Collector.DeviceValues
import BusExporter.Commands.Cuts
import BusExporter.Exporter.WellFormed
import BusExporter.Foundation.Scan

/-!
# What a scrape reports

The handler of a scrape goes through the store entry by entry, and the collectors go on
publishing meanwhile. The snapshots that it meets need not belong to one moment; but
each one is whole, stands in the body once, and was its collector's last at some moment
of the scrape. What a sample says, the collector has read itself for that metric, or it
is the count of one of its errors, and it stands under that collector's labels.
-/

namespace BusExporter.RunCommand

open Foundation Metrics Collector Prometheus

/-! ## Going through the store -/

variable {daemon : Daemon} {s₀ s : State} {begun history : List Event} {seen : MetricStore}

/-- `all_metrics_flat` in the middle of a run of the daemon, with the entries that it has met. -/
abbrev Daemon.Scan (daemon : Daemon) (s₀ : State) (begun : List Event) :
    State → List Event → MetricStore → Prop :=
  daemon.machine.Scan State.store s₀ begun

/-- A collector's entry stays in the store. -/
theorem stored_of_suffix (earlier : daemon.machine.Reaches s₀ begun)
    (reaches : daemon.machine.Reaches s history) (grown : begun <:+ history) :
    ∀ name ∈ s₀.store, name ∈ s.store := by
  intro name stored
  have before := (daemonInv_of_reaches earlier).store
  have now := (daemonInv_of_reaches reaches).store
  obtain ⟨task, mem, rfl⟩ := before.only name stored
  obtain ⟨index, at_index⟩ := List.mem_iff_getElem?.mp mem
  rw [← AList.lookup_isSome, before.latest index task at_index, Option.isSome_map] at stored
  rw [← AList.lookup_isSome, now.latest index task at_index, Option.isSome_map]
  obtain ⟨events, rfl⟩ := grown
  rw [lastPublish, List.findSome?_append, Option.isSome_or]
  exact Bool.or_eq_true_iff.mpr (.inr stored)

/-- A scan that has met all entries has of every collector the snapshot of some moment. -/
theorem holdsAt_of_scan (scan : daemon.Scan s₀ begun s history seen)
    (covers : Machine.Covers s₀.store seen) :
    ∃ moments : ℕ → List Event,
      (∀ index, daemon.machine.Between begun history (moments index)) ∧
        HoldsAt daemon moments seen := by
  have moment_of : ∀ index, ∃ moment, daemon.machine.Between begun history moment ∧
      ∀ task, daemon.tasks[index]? = some task → seen.lookup task.collector.name =
        (lastPublish index moment).map (daemon.merged task) := by
    intro index
    cases at_index : daemon.tasks[index]? with
    | none => exact ⟨begun, ⟨List.suffix_rfl, scan.grown, s₀, scan.begins⟩, by simp⟩
    | some task =>
      obtain ⟨moment, had⟩ := scan.hadAt covers task.collector.name
      refine ⟨moment, had.between, fun _ same => ?_⟩
      cases same
      obtain ⟨-, -, s', reaches, stored⟩ := had
      rw [← stored, (daemonInv_of_reaches reaches).store.latest index task at_index]
  choose moments at_moments using moment_of
  refine ⟨moments, fun index => (at_moments index).1,
    fun index task at_index => (at_moments index).2 task at_index, fun name met => ?_⟩
  obtain ⟨snapshot, found⟩ := Option.isSome_iff_exists.mp (AList.lookup_isSome.mpr met)
  obtain ⟨moment, -, -, s', reaches, had⟩ := scan.hadAt_of_met found
  exact (daemonInv_of_reaches reaches).store.only name
    (AList.lookup_isSome.mp (by rw [had, Option.isSome_some]))

/-! ## What was read -/

/-- A read of the collector that returned the value for the metric. -/
def ReadBy (history : List Event) (index : ℕ) (name : String) (value : Float) : Prop :=
  ∃ results isConnected raw, .collector index (.readDone results isConnected) ∈ history ∧
    (name, .ok (raw, value)) ∈ results.metrics.pairs

/-- A value of a snapshot that a collector has published, under the collector's labels: the
collector had read it itself for this metric, or it says how often a metric had failed. -/
def Daemon.Shown (daemon : Daemon) (history : List Event) (m : MetricValue) : Prop :=
  ∃ (index : ℕ) (task : Task), daemon.tasks[index]? = some task ∧
    ∃ snapshot earlier, .publish snapshot :: earlier <:+
        ownEvents (history.filterMap (Event.ofCollector index)) ∧
      ∃ original ∈ snapshot, Publishes task.collector.metrics original ∧
        Sourced (ReadBy history index) task.collector.metrics earlier original ∧
          m = labelled (baseLabels task.collector.name (labelsOf daemon.config.globalLabels)
            (labelsOf task.collector.labels)) original

/-- The signal that the main task sends is no failure. -/
theorem failures_ownEvents (metrics : List MetricConfig) (name : String)
    (events : List Collector.Event) :
    failures metrics name (ownEvents events) = failures metrics name events := by
  rw [failures, ownEvents, List.countP_filter]
  refine List.countP_congr fun event _ => ?_
  cases event <;> simp [Fails]

/-- The collector's run on its own has the reads that it has in the daemon. -/
theorem readsGood_of_alone {own : List Collector.Event} {index : ℕ}
    (same : ownEvents own = ownEvents (history.filterMap (Event.ofCollector index)))
    {results : ReadResults} {isConnected : Bool}
    (read : .readDone results isConnected ∈ own) : ReadsGood (ReadBy history index) results := by
  have recorded : .readDone results isConnected ∈ ownEvents own :=
    List.mem_filter.mpr ⟨read, rfl⟩
  rw [same] at recorded
  obtain ⟨event, mem, isOwn⟩ := List.mem_filterMap.mp (List.mem_of_mem_filter recorded)
  have isRead : event = .collector index (.readDone results isConnected) := by
    cases event with
    | collector i event =>
      rw [Event.ofCollector, Option.ite_none_right_eq_some, Option.some.injEq] at isOwn
      rw [isOwn.1, isOwn.2]
    | _ => cases isOwn
  rintro ⟨name, result⟩ stored ⟨raw, value⟩ isOk
  cases isOk
  exact ⟨results, isConnected, raw, isRead ▸ mem, stored⟩

theorem shown_of_mem_latest (reaches : daemon.machine.Reaches s history) {index : ℕ} {task : Task}
    (at_index : daemon.tasks[index]? = some task) {m : MetricValue}
    (mem : m ∈ daemon.latest history (task, index)) : daemon.Shown history m := by
  obtain ⟨metrics, published, original, inside, rfl⟩ := mem_latest mem
  obtain ⟨state, own, alone, same, recorded⟩ := publishes_alone (daemonInv_of_reaches reaches)
    (runAlone_of_reaches reaches) at_index List.suffix_rfl published
  obtain ⟨newest, earlier, rfl⟩ := List.append_of_mem recorded
  have sourced := (sourced_of_reaches alone fun results isConnected read =>
    readsGood_of_alone same read).published newest _ earlier rfl metrics rfl original inside
  refine ⟨index, task, at_index, metrics, ownEvents earlier, ?_, original, inside,
    publishes_of_reaches alone recorded original inside, ?_, rfl⟩
  · rw [← same, ownEvents_append]
    exact List.suffix_append ..
  · simpa only [Sourced, failures_ownEvents] using sourced

/-! ## The body -/

/-- The body reports of each collector, whole and once, a snapshot that was its last one at some
moment of the scrape, and the internal metrics. -/
def Serves (daemon : Daemon) (begun history : List Event) (uptime : Duration)
    (state : PrometheusState) : Prop :=
  ∃ moments : ℕ → List Event,
    (∀ index, daemon.machine.Between begun history (moments index)) ∧
    (∀ entry ∈ daemon.tasks.zipIdx, ∀ m ∈ daemon.latest (moments entry.2) entry,
      daemon.Shown (moments entry.2) m) ∧
    Reports ((metricsHandler uptime).run state).1.body
      ((daemon.tasks.zipIdx.flatMap fun entry =>
          daemon.latest (moments entry.2) entry).map deviceSample ++
        ownSamples ((metricsHandler uptime).run state).2 uptime)

/-- A scrape that goes through the store while the daemon runs can be completed wherever it is, with
no other task taking a step, and then it serves snapshots of all collectors. Every value that it
shows had been read by the collector itself for the metric, or is one of its error counts. -/
theorem servesSnapshots (scan : daemon.Scan s₀ begun s history seen) (uptime : Duration)
    (internalMetrics : Option InternalMetrics)
    (plain : ∀ im, internalMetrics = some im → ∀ c ∈ im.collectorStats, Plain c) :
    (∃ seen', daemon.Scan s₀ begun s history seen' ∧ Machine.Covers s₀.store seen') ∧
      (Machine.Covers s₀.store seen →
        Serves daemon begun history uptime ⟨seen, internalMetrics⟩) := by
  refine ⟨scan.completes (stored_of_suffix scan.begins scan.reaches scan.grown), fun covers => ?_⟩
  obtain ⟨moments, during, holds⟩ := holdsAt_of_scan scan covers
  refine ⟨moments, during, fun entry mem m inside => ?_, ?_⟩
  · obtain ⟨-, -, s', reaches⟩ := during entry.2
    exact shown_of_mem_latest reaches (List.mem_zipIdx_iff_getElem?.mp mem) inside
  · obtain ⟨after, body⟩ := run_metricsHandler uptime ⟨seen, internalMetrics⟩
    have reports := (reports_metricsLines (counted ⟨seen, internalMetrics⟩) uptime).mpr
      ((plain_counted ⟨seen, internalMetrics⟩).mpr plain)
    rw [body, after]
    exact reports.perm ((holds.perm_allMetricsFlat.map deviceSample).append_right _)

/-- The sensor publishes its first snapshot between the start of a scrape and its end. -/
theorem servesSnapshots_lateRead :
    ∃ s₀ begun s history seen, sensorDaemon.Scan s₀ begun s history seen ∧ s₀.store = ∅ ∧
      seen.allMetricsFlat.length = 1 ∧
        Serves sensorDaemon begun history 0 ⟨seen, some {}⟩ := by
  have reaches : sensorDaemon.machine.Reaches _ _ := Machine.reaches_of_run interruptedRead rfl
  have started : sensorDaemon.Scan _ _ _ _ ∅ := .start reaches
  have published := started.step
    (show sensorDaemon.machine.step _ (.collector 0 (.readDone
      ⟨AList.singleton "humidity" (.ok (40.0, 40.0)), 1⟩ true 0)) = some (_, _) from rfl)
  have scan := published.meet (show "sensor" ∉ (∅ : MetricStore) by decide) rfl
  exact ⟨_, _, _, _, _, scan, rfl, by decide +kernel,
    (servesSnapshots scan 0 (some {}) (fun im same => by cases same; simp)).2
      fun name mem => absurd mem (AList.notMem_empty name)⟩

end BusExporter.RunCommand
