import BusExporter.Collector.Processing
import BusExporter.Collector.Transition

/-!
# Error counters

A snapshot holds, for every metric that has failed on a live connection, an entry
that counts these failures. The count lives outside the snapshots and only grows,
and every cycle writes it over whatever stands under the counter's name: an entry
that was carried forward, or the value of a device metric of that name. Different
metrics have different counter names, so no counter is written over another one.
-/

namespace BusExporter.Collector

open Foundation Metrics

/-! ## Failures -/

/-- A read in which a configured metric failed while the connection stayed up. -/
def Fails (metrics : List MetricConfig) (name : String) : Event → Bool
  | .readDone results true => failedIn metrics name (results.metrics.lookup name)
  | _ => false

/-- How often a metric has failed on a live connection so far. -/
def failures (metrics : List MetricConfig) (name : String) (history : List Event) : ℕ :=
  history.countP (Fails metrics name)

/-- A snapshot holds a count under the name of a metric's error counter, and nothing else. -/
structure HoldsCounter (snapshot : List MetricValue) (name : String) (count : ℕ) : Prop where
  present : ∃ entry ∈ snapshot, entry.name = errorsName name
  exact : ∀ entry ∈ snapshot, entry.name = errorsName name → entry.value = counterValue count

/-! ## Runs -/

/-- What every run keeps: the counts are the failures so far, and every snapshot held them. -/
structure CountersInv (metrics : List MetricConfig) (s : State) (history : List Event) : Prop where
  counted : ∀ name, (s.errorCounts.lookup name).getD 0 = failures metrics name history
  keyed : Keyed s.prevCache
  published : Throughout
    (fun event earlier => ∀ snapshot, event = .publish snapshot → ∀ name,
      0 < failures metrics name earlier →
        HoldsCounter snapshot name (failures metrics name earlier))
    history

namespace CountersInv

variable {task : Task} {s s' : State} {history : List Event}

theorem init (metrics : List MetricConfig) : CountersInv metrics Task.initial [] where
  counted _ := rfl
  keyed := by simp [Task.initial, Keyed]
  published := throughout_nil _

variable {metrics : List MetricConfig}

/-- Events that end no read and publish nothing leave the counts as they are. -/
theorem pushAll (inv : CountersInv metrics s history) (events : List Event)
    (quiet : ∀ event ∈ events, (∀ name, Fails metrics name event = false) ∧
      ∀ snapshot, event ≠ .publish snapshot)
    (counts : s'.errorCounts = s.errorCounts) (cache : s'.prevCache = s.prevCache) :
    CountersInv metrics s' (events.reverse ++ history) where
  counted name := by
    have silent : events.countP (Fails metrics name) = 0 :=
      List.countP_eq_zero.mpr fun event mem => by simp [(quiet event mem).1 name]
    rw [counts, inv.counted, failures, failures, List.countP_append, List.countP_reverse, silent,
      Nat.zero_add]
  keyed := by
    rw [cache]
    exact inv.keyed
  published := inv.published.append fun event mem _ snapshot isPublish =>
    absurd isPublish ((quiet event (List.mem_reverse.mp mem)).2 snapshot)

/-- Processing a read's results counts the failures among them. -/
theorem counted_reading (inv : CountersInv task.collector.metrics s history)
    (results : ReadResults) (isConnected : Bool) (name : String) :
    ((task.reading s results isConnected).errorCounts.lookup name).getD 0 =
      failures task.collector.metrics name (.readDone results isConnected :: history) := by
  rw [failures, List.countP_cons, ← failures, ← inv.counted name, Task.reading]
  cases isConnected with
  -- A lost connection ends the loop before its failure is counted.
  | false => simp [errorCounts_readLoop_lost, Fails, Reading.start]
  | true =>
    rw [errorCounts_readLoop _ _ results.metrics.nodup_pairs, HashMap.lookup_pairs]
    simp only [Fails, Reading.start]
    split <;> simp [*]

theorem keyed_snapshot (inv : CountersInv task.collector.metrics s history)
    (results : ReadResults) (isConnected : Bool) : Keyed (task.snapshot s results isConnected) := by
  apply keyed_countErrors
  apply keyed_carryForward
  · apply keyed_readLoop
    simp [Reading.start, Keyed]
  · rintro ⟨key, value⟩ stored
    -- What is carried forward has its name from the snapshot before.
    exact inv.keyed key value (HashMap.mem_pairs.mp stored)

/-- A completed cycle's snapshot holds every counter that is not zero. -/
theorem holdsCounter (inv : CountersInv task.collector.metrics s history)
    (results : ReadResults) (isConnected : Bool) (name : String)
    (failed : 0 < failures task.collector.metrics name (.readDone results isConnected :: history)) :
    HoldsCounter (task.snapshot s results isConnected).values name
      (failures task.collector.metrics name (.readDone results isConnected :: history)) := by
  have counted := inv.counted_reading results isConnected name
  rw [← counted] at failed ⊢
  obtain ⟨count, stored⟩ : ∃ count,
      (task.reading s results isConnected).errorCounts.lookup name = some count := by
    cases found : (task.reading s results isConnected).errorCounts.lookup name with
    | none => simp [found] at failed
    | some count => exact ⟨count, rfl⟩
  rw [stored, Option.getD_some]
  obtain ⟨entry, written, value⟩ : ∃ entry,
      (task.snapshot s results isConnected).lookup (errorsName name) = some entry ∧
        entry.value = counterValue count :=
    ⟨_, lookup_errorsName _ _ (HashMap.nodup_pairs _) (HashMap.mem_pairs.mpr stored),
      counted_value _ name count⟩
  have keyed := inv.keyed_snapshot results isConnected
  -- The keys are distinct, so nothing else has the name of the counter.
  have only := HashMap.filter_values keyed (errorsName name)
  rw [written, Option.toList_some] at only
  constructor
  · have mem : entry ∈ (task.snapshot s results isConnected).values :=
      List.mem_of_mem_filter (only ▸ List.mem_singleton_self entry)
    exact ⟨entry, mem, keyed _ _ written⟩
  · intro other mem named
    have same : other ∈ [entry] := only ▸ List.mem_filter.mpr ⟨mem, by simpa using named⟩
    rw [List.mem_singleton.mp same, value]

/-- A read returns and its failures are counted. -/
theorem read (inv : CountersInv task.collector.metrics s history) (results : ReadResults)
    (isConnected : Bool)
    (counts : s'.errorCounts = (task.reading s results isConnected).errorCounts)
    (cache : s'.prevCache = s.prevCache) :
    CountersInv task.collector.metrics s' (.readDone results isConnected :: history) where
  counted name := by
    rw [counts]
    exact inv.counted_reading results isConnected name
  keyed := by
    rw [cache]
    exact inv.keyed
  published := by
    rw [throughout_cons]
    exact ⟨fun snapshot isPublish => (by cases isPublish), inv.published⟩

/-- A completed cycle publishes the counts and keeps the snapshot. -/
theorem publish (inv : CountersInv task.collector.metrics s history) (results : ReadResults)
    (isConnected : Bool)
    (counts : s'.errorCounts = (task.reading s results isConnected).errorCounts)
    (cache : s'.prevCache = task.snapshot s results isConnected) :
    CountersInv task.collector.metrics s'
      (.publish (task.snapshot s results isConnected).values ::
        .readDone results isConnected :: history) where
  counted name := by
    rw [counts]
    exact inv.counted_reading results isConnected name
  keyed := by
    rw [cache]
    exact inv.keyed_snapshot results isConnected
  published := by
    rw [throughout_cons, throughout_cons]
    refine ⟨?_, fun snapshot isPublish => (by cases isPublish), inv.published⟩
    intro snapshot isPublish name failed
    cases isPublish
    exact inv.holdsCounter results isConnected name failed

end CountersInv

theorem countersInv_of_transition {task : Task} {s s' : State} {events history : List Event}
    (inv : CountersInv task.collector.metrics s history)
    (transition : Transition task s s' events) :
    CountersInv task.collector.metrics s' (events.reverse ++ history) := by
  cases transition with
  | completedEarly results isConnected elapsed rest at_read kept =>
    have published : CountersInv task.collector.metrics
        (task.completed s results isConnected elapsed .sleeping) _ :=
      inv.publish results isConnected rfl rfl
    exact published.pushAll [.sleep rest] (by simp [Fails]) rfl rfl
  | completedLate results isConnected elapsed at_read kept =>
    exact inv.publish results isConnected rfl rfl
  | lost results isConnected elapsed at_read gone =>
    have counted : CountersInv task.collector.metrics (task.readState s results isConnected) _ :=
      inv.read results isConnected rfl rfl
    exact counted.pushAll [.disconnect, .backoff s.backoff] (by simp [Fails]) rfl rfl
  -- No other step returns from a read or publishes.
  | _ => exact inv.pushAll _ (by simp [Fails]) rfl rfl

theorem countersInv_of_reaches {task : Task} {s : State} {history : List Event}
    (reaches : task.machine.Reaches s history) :
    CountersInv task.collector.metrics s history :=
  reaches.invariant (CountersInv task.collector.metrics) (.init _)
    fun _ inv stepped => countersInv_of_transition inv (transition_of_step stepped)

/-- The failures of a metric only grow. -/
theorem failures_mono (metrics : List MetricConfig) (name : String) (later earlier : List Event) :
    failures metrics name earlier ≤ failures metrics name (later ++ earlier) := by
  rw [failures, failures, List.countP_append]
  exact Nat.le_add_left _ _

/-- Every snapshot holds the exact counters of the metrics that have failed before it, and a
later snapshot counts no less than an earlier one. -/
structure CountsFailures (metrics : List MetricConfig) (history : List Event) : Prop where
  exact : Throughout
    (fun event earlier => ∀ snapshot, event = .publish snapshot → ∀ name,
      0 < failures metrics name earlier →
        HoldsCounter snapshot name (failures metrics name earlier))
    history
  grows : ∀ name newest later between earlier oldest,
    history = newest ++ .publish later :: (between ++ .publish earlier :: oldest) →
      0 < failures metrics name oldest → ∃ count count', count ≤ count' ∧
        HoldsCounter earlier name count ∧ HoldsCounter later name count'

/-- In every run, the error counters are exact and only grow. -/
theorem error_counters_exact {task : Task} {s : State} {history : List Event}
    (reaches : task.machine.Reaches s history) :
    CountsFailures task.collector.metrics history where
  exact := (countersInv_of_reaches reaches).published
  grows name newest later between earlier oldest split failed := by
    have published := (countersInv_of_reaches reaches).published
    have more : failures task.collector.metrics name oldest ≤
        failures task.collector.metrics name (between ++ .publish earlier :: oldest) := by
      rw [List.append_cons]
      exact failures_mono task.collector.metrics name _ oldest
    refine ⟨_, _, more, ?_, ?_⟩
    · exact published (newest ++ .publish later :: between) _ oldest (by simp [split]) earlier rfl
        name failed
    · exact published newest _ _ split later rfl name (failed.trans_le more)

/-- The humidity cannot be read. -/
def failedHumidity : ReadResults :=
  ⟨AList.singleton "humidity" (.error (.msg "no acknowledgement")), 1⟩

theorem error_counters_exact_sensor :
    ∃ s history, sensorTask.machine.Reaches s history ∧
      failures sensorTask.collector.metrics "humidity" history = 1 ∧
      CountsFailures sensorTask.collector.metrics history := by
  have reaches : sensorTask.machine.Reaches _ _ := Machine.reaches_of_run
    [.connected (.ok ()), .wrote (.ok ()) 0, .proceed, .wrote (.ok ()) 0,
      .readDone failedHumidity true 0] rfl
  exact ⟨_, _, reaches, rfl, error_counters_exact reaches⟩

end BusExporter.Collector
