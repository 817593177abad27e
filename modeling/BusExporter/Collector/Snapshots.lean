import BusExporter.Collector.Processing
import BusExporter.Collector.Transition

/-!
# Published snapshots

A snapshot is meant to hold, for every configured metric, the value of the last
published cycle in which the metric was read, and nothing before there is one.
The error counters share the snapshot's name space with the metrics, so this holds
in all runs exactly when no configured name is another one's counter name.
-/

namespace BusExporter.Collector

open Foundation Metrics

/-! ## What a snapshot should hold -/

/-- The value of a metric in the last published cycle in which it was read. -/
def lastRead (name : String) : List Event → Option Float
  | .publish _ :: .readDone results _ :: earlier =>
    (readValue (results.metrics.lookup name)).or (lastRead name earlier)
  | _ :: earlier => lastRead name earlier
  | [] => none

/-- The values that a snapshot holds under a metric's name. -/
def valuesOf (name : String) (snapshot : List MetricValue) : List Float :=
  (snapshot.filter (·.name = name)).map (·.value)

/-- Every published snapshot holds for each configured metric its last value, if it has one. -/
def PublishesLastReads (metrics : List MetricConfig) (history : List Event) : Prop :=
  Throughout
    (fun event earlier => ∀ snapshot, event = .publish snapshot →
      ∀ m ∈ metrics, valuesOf m.name snapshot = (lastRead m.name (event :: earlier)).toList)
    history

/-- No configured metric has the name of another one's error counter. -/
def CountersApart (metrics : List MetricConfig) : Prop :=
  ∀ m ∈ metrics, ∀ k ∈ metrics, m.name ≠ errorsName k.name

theorem lastRead_cons {name : String} {event : Event} {history : List Event}
    (noPublish : ∀ snapshot, event ≠ .publish snapshot) :
    lastRead name (event :: history) = lastRead name history := by
  cases event with
  | publish snapshot => exact absurd rfl (noPublish snapshot)
  | _ => rfl

/-! ## Runs -/

/-- What a run without clashing names keeps: the carried cache holds the last value of every
configured metric. -/
structure SnapshotInv (metrics : List MetricConfig) (s : State) (history : List Event) :
    Prop where
  published : PublishesLastReads metrics history
  cached : ∀ m ∈ metrics,
    (s.prevCache.lookup m.name).map (·.value) = lastRead m.name history
  keyed : Keyed s.prevCache
  counts : CountsConfigured metrics s.errorCounts

namespace SnapshotInv

variable {task : Task} {s s' : State} {history : List Event}

theorem init (metrics : List MetricConfig) : SnapshotInv metrics Task.initial [] where
  published := throughout_nil _
  cached _ _ := rfl
  keyed := by simp [Task.initial, Keyed]
  counts := by simp [Task.initial, CountsConfigured]

variable {metrics : List MetricConfig}

/-- An event other than a publication leaves the values where they are. -/
theorem push (inv : SnapshotInv metrics s history) (event : Event)
    (noPublish : ∀ snapshot, event ≠ .publish snapshot) :
    SnapshotInv metrics s (event :: history) where
  published := by
    rw [PublishesLastReads, throughout_cons]
    exact ⟨fun snapshot isPublish => absurd isPublish (noPublish snapshot), inv.published⟩
  cached m mem := by
    rw [lastRead_cons noPublish]
    exact inv.cached m mem
  keyed := inv.keyed
  counts := inv.counts

theorem pushAll (inv : SnapshotInv metrics s history) (events : List Event)
    (noPublish : ∀ event ∈ events, ∀ snapshot, event ≠ .publish snapshot) :
    SnapshotInv metrics s (events.reverse ++ history) := by
  induction events generalizing history with
  | nil => exact inv
  | cons event events ih =>
    rw [List.forall_mem_cons] at noPublish
    rw [List.reverse_cons, List.append_assoc]
    exact ih (inv.push event noPublish.1) noPublish.2

/-- The task moves on with its cache as it is. -/
theorem move (inv : SnapshotInv metrics s history) (cache : s'.prevCache = s.prevCache)
    (counts : CountsConfigured metrics s'.errorCounts) : SnapshotInv metrics s' history where
  published := inv.published
  cached := by
    rw [cache]
    exact inv.cached
  keyed := by
    rw [cache]
    exact inv.keyed
  counts := counts

/-- In a completed cycle a configured metric's entry has the value that was read, or else the
one that was carried. -/
theorem lookup_snapshot (inv : SnapshotInv task.collector.metrics s history)
    (distinct : (task.collector.metrics.map (·.name)).Nodup)
    (apart : CountersApart task.collector.metrics) {results : ReadResults} {isConnected : Bool}
    (kept : (task.reading s results isConnected).connectionError = false)
    {m : MetricConfig} (mem : m ∈ task.collector.metrics) :
    ((task.snapshot s results isConnected).lookup m.name).map (·.value) =
      (readValue (results.metrics.lookup m.name)).or (lastRead m.name history) := by
  have counts : CountsConfigured task.collector.metrics
      (task.reading s results isConnected).errorCounts :=
    countsConfigured_readLoop isConnected _ _ inv.counts
  -- No error counter is put under the name of a configured metric.
  have clear : ∀ entry ∈ (task.reading s results isConnected).errorCounts.pairs,
      m.name ≠ errorsName entry.1 := by
    rintro ⟨key, count⟩ stored
    have present : key ∈ (task.reading s results isConnected).errorCounts :=
      AList.lookup_isSome.mp (by simp [HashMap.mem_pairs.mp stored])
    obtain ⟨k, configured, rfl⟩ := counts key present
    exact apart m mem k configured
  -- What was read is in the local cache, and what was not is missing from it.
  have fresh : (task.reading s results isConnected).localCache.lookup m.name =
      (readValue (results.metrics.lookup m.name)).map (freshValue m) := by
    have loop := lookup_readLoop (findMetric_of_mem distinct mem) results.metrics.pairs
      results.metrics.nodup_pairs (Reading.start s.errorCounts) kept
    rw [HashMap.lookup_pairs] at loop
    exact loop.trans (by simp [Reading.start])
  rw [Task.snapshot, mergeSnapshot, lookup_countErrors _ _ clear, lookup_carryForward, fresh,
    HashMap.lookup_pairs, ← inv.cached m mem]
  -- A fresh value hides the carried one.
  cases readValue (results.metrics.lookup m.name) <;> simp [freshValue]

theorem keyed_snapshot (inv : SnapshotInv task.collector.metrics s history)
    (results : ReadResults) (isConnected : Bool) :
    Keyed (task.snapshot s results isConnected) := by
  refine keyed_countErrors _ _ (keyed_carryForward _ _ ?_ ?_)
  · exact keyed_readLoop _ _ _ _ (by simp [Reading.start, Keyed])
  · rintro ⟨key, value⟩ stored
    exact inv.keyed key value (HashMap.mem_pairs.mp stored)

/-- A completed cycle publishes the last values and carries them on. -/
theorem publish (inv : SnapshotInv task.collector.metrics s history)
    (distinct : (task.collector.metrics.map (·.name)).Nodup)
    (apart : CountersApart task.collector.metrics) {results : ReadResults} {isConnected : Bool}
    (kept : (task.reading s results isConnected).connectionError = false)
    (cache : s'.prevCache = task.snapshot s results isConnected)
    (counts : s'.errorCounts = (task.reading s results isConnected).errorCounts) :
    SnapshotInv task.collector.metrics s'
      (.publish (task.snapshot s results isConnected).values ::
        .readDone results isConnected :: history) where
  published := by
    rw [PublishesLastReads, throughout_cons]
    refine ⟨fun snapshot isPublish m mem => ?_,
      (inv.push (.readDone results isConnected) (by simp)).published⟩
    cases isPublish
    rw [valuesOf, HashMap.filter_values (inv.keyed_snapshot results isConnected), lastRead,
      ← inv.lookup_snapshot distinct apart kept mem]
    cases (task.snapshot s results isConnected).lookup m.name <;> rfl
  cached m mem := by
    rw [cache, lastRead]
    exact inv.lookup_snapshot distinct apart kept mem
  keyed := by
    rw [cache]
    exact inv.keyed_snapshot results isConnected
  counts := by
    rw [counts]
    exact countsConfigured_readLoop isConnected _ _ inv.counts

end SnapshotInv

theorem snapshotInv_of_transition {task : Task} {s s' : State} {events history : List Event}
    (distinct : (task.collector.metrics.map (·.name)).Nodup)
    (apart : CountersApart task.collector.metrics)
    (inv : SnapshotInv task.collector.metrics s history)
    (transition : Transition task s s' events) :
    SnapshotInv task.collector.metrics s' (events.reverse ++ history) := by
  -- Only completed cycles publish; every other step leaves the cache as it is.
  cases transition with
  | completedEarly results isConnected elapsed rest at_read kept =>
    exact (inv.publish distinct apart kept rfl rfl).push (.sleep rest) (by simp)
  | completedLate results isConnected elapsed at_read kept =>
    exact inv.publish distinct apart kept rfl rfl
  | lost results isConnected elapsed at_read gone =>
    exact (inv.pushAll [.readDone results isConnected, .disconnect, .backoff s.backoff]
      (by simp)).move rfl (countsConfigured_readLoop isConnected _ _ inv.counts)
  | _ => exact (inv.pushAll _ (by simp)).move rfl inv.counts

/-! ## The first cycle -/

/-- Nothing was read or signalled so far. -/
structure Blank (s : State) (history : List Event) : Prop where
  prevCache : s.prevCache = ∅
  errorCounts : s.errorCounts = ∅
  shutdown : s.shutdown = false
  unread : ∀ name, lastRead name history = none

theorem Blank.push {s : State} {history : List Event} (blank : Blank s history) (event : Event)
    (noPublish : ∀ snapshot, event ≠ .publish snapshot) : Blank s (event :: history) :=
  ⟨blank.prevCache, blank.errorCounts, blank.shutdown, fun name => by
    rw [lastRead_cons noPublish, blank.unread name]⟩

/-- Every task can reach its first cycle. -/
theorem exists_cycleStart (task : Task) :
    ∃ s history, task.machine.Reaches s history ∧ s.location = .cycleStart ∧ Blank s history := by
  have connected : ∃ s history, task.machine.Reaches s history ∧
      s.location = task.afterConnect .initWriting ∧ Blank s history :=
    ⟨_, _, Machine.Reaches.init.next (.connected (.ok ())) rfl, rfl, rfl, rfl, rfl, fun _ => rfl⟩
  obtain ⟨s, history, reaches, at_location, blank⟩ := connected
  unfold Task.afterConnect at at_location
  -- With `init_writes` the cycles start once these have been written.
  split at at_location
  · have stepped : task.machine.step s (.wrote (.ok ()) 0) =
        some ({ s with location := .cycleStart }, [.executeWrites .initWrites true]) := by
      simp [Task.machine, Task.step, at_location]
    have blank' := blank.push (.executeWrites .initWrites true) (by simp)
    exact ⟨_, _, reaches.next _ stepped, rfl, blank'.prevCache, blank'.errorCounts,
      blank'.shutdown, blank'.unread⟩
  · exact ⟨s, history, reaches, at_location, blank⟩

/-- Every task can reach its first read. -/
theorem exists_reading (task : Task) :
    ∃ s history, task.machine.Reaches s history ∧ s.location = .reading ∧ Blank s history := by
  obtain ⟨s, history, reaches, at_start, blank⟩ := exists_cycleStart task
  -- A cycle executes `pre_poll` first, if there is one.
  cases executes : task.executes .prePoll with
  | false =>
    have stepped : task.machine.step s .proceed =
        some ({ s.countPoll task with location := .reading }, [.read]) := by
      simp [Task.machine, Task.step, at_start, Task.startCycle, State.countPoll, blank.shutdown,
        executes]
    have blank' := blank.push .read (by simp)
    exact ⟨_, _, reaches.next _ stepped, rfl, blank'.prevCache, blank'.errorCounts,
      blank'.shutdown, blank'.unread⟩
  | true =>
    have stepped : task.machine.step s .proceed =
        some ({ s.countPoll task with location := .prePolling }, []) := by
      simp [Task.machine, Task.step, at_start, Task.startCycle, State.countPoll, blank.shutdown,
        executes]
    have polled : task.machine.step { s.countPoll task with location := .prePolling }
        (.wrote (.ok ()) 0) =
          some ({ s.countPoll task with location := .reading, prePollConsecutiveFailures := 0 },
            [.executeWrites .prePoll true, .read]) := rfl
    have blank' := (blank.push (.executeWrites .prePoll true) (by simp)).push .read (by simp)
    exact ⟨_, _, (reaches.next _ stepped).next _ polled, rfl, blank'.prevCache,
      blank'.errorCounts, blank'.shutdown, blank'.unread⟩

/-- The result of a read in which one metric failed. -/
def failedRead (name : String) : ReadResults :=
  ⟨(∅ : HashMap MetricResult).insert name (.error (.msg "timeout")), 1⟩

theorem readValue_failedRead (failed name : String) :
    readValue ((failedRead failed).metrics.lookup name) = none := by
  by_cases same : name = failed
  · rw [same, failedRead, AList.lookup_insert]
    rfl
  · rw [failedRead, AList.lookup_insert_ne same, AList.lookup_empty]
    rfl

/-- The first failure of a configured metric is processed as such. -/
theorem reading_failedRead {task : Task} {k : MetricConfig} (s : State)
    (configured : k ∈ task.collector.metrics) :
    task.reading s (failedRead k.name) true = (Reading.start s.errorCounts).fail k.name := by
  have pairs : (failedRead k.name).metrics.pairs = [(k.name, .error (.msg "timeout"))] := rfl
  rw [Task.reading, pairs]
  cases found : findMetric task.collector.metrics k.name with
  | none =>
    have unnamed := List.find?_eq_none.mp found k configured
    simp at unnamed
  | some cfg => simp [readLoop, found]

/-- It publishes its counter, and nothing else if nothing was published before. -/
theorem snapshot_failedRead {task : Task} {k : MetricConfig} {s : State} {history : List Event}
    (configured : k ∈ task.collector.metrics) (blank : Blank s history) :
    task.snapshot s (failedRead k.name) true =
      (∅ : Cache).insert (errorsName k.name) (errorValue k.name 1) := by
  rw [Task.snapshot, reading_failedRead s configured, blank.prevCache, blank.errorCounts]
  rfl

/-- Where a configured metric has the name of another one's counter, the first failure of the
other one puts a value under its name. -/
theorem exists_unread_value {task : Task} {m k : MetricConfig}
    (configured : k ∈ task.collector.metrics) (clash : m.name = errorsName k.name) :
    ∃ s snapshot earlier, task.machine.Reaches s (.publish snapshot :: earlier) ∧
      valuesOf m.name snapshot ≠ [] ∧ lastRead m.name (.publish snapshot :: earlier) = none := by
  obtain ⟨s, history, reaches, at_read, blank⟩ := exists_reading task
  -- The reader still says that it is connected, so the failure is only counted.
  have kept : (task.reading s (failedRead k.name) true).connectionError = false := by
    rw [reading_failedRead s configured]
    rfl
  have stepped : task.machine.step s
      (.readDone (failedRead k.name) true task.collector.pollingInterval) =
        some (task.completed s (failedRead k.name) true task.collector.pollingInterval .overrun,
          [.readDone (failedRead k.name) true,
            .publish (task.snapshot s (failedRead k.name) true).values]) := by
    rw [Task.reading] at kept
    simp only [Task.machine, Task.step, at_read, Task.readReturned, kept, Bool.false_eq_true,
      if_false, Task.completeCycle, State.sleepOr, lt_irrefl]
    rfl
  refine ⟨_, _, _, reaches.next _ stepped, ?_, ?_⟩
  · rw [snapshot_failedRead configured blank, valuesOf, clash]
    simp [HashMap.values, HashMap.pairs, errorValue]
  · have unread : (readValue ((failedRead k.name).metrics.lookup m.name)).or
        (lastRead m.name history) = none := by
      rw [readValue_failedRead, blank.unread]
      rfl
    exact unread

/-- In every run of a task with distinctly named metrics, every snapshot holds the last values,
exactly if no configured metric has the name of another one's error counter. -/
theorem publishesLastReads_iff (task : Task)
    (distinct : (task.collector.metrics.map (·.name)).Nodup) :
    (∀ s history, task.machine.Reaches s history →
        PublishesLastReads task.collector.metrics history) ↔
      CountersApart task.collector.metrics := by
  constructor
  · -- The counter of the other metric would be published as a value that was never read.
    intro published m mem k configured clash
    obtain ⟨s, snapshot, earlier, reaches, held, unread⟩ := exists_unread_value configured clash
    have values := published s _ reaches [] _ _ rfl snapshot rfl m mem
    rw [unread] at values
    exact held values
  · intro apart s history reaches
    exact (reaches.invariant (SnapshotInv task.collector.metrics) (.init _) fun _ inv stepped =>
      snapshotInv_of_transition distinct apart inv (transition_of_step stepped)).published

/-- A collector of a metric and of another one with the name of its counter. -/
def clashing : CollectorConfig :=
  Samples.plc [Samples.wordMetric "flow" 0, Samples.wordMetric "flow_errors" 2]

theorem clashing_validated : clashing.Validated := Samples.validated_of_configOf (by decide)

def clashingTask : Task := ⟨clashing, false, true⟩

/-- `flow` cannot be read, and `flow_errors` reads 7. -/
def clashingRead : ReadResults where
  metrics := ((∅ : HashMap MetricResult).insert "flow" (.error (.msg "timeout"))).insert
    "flow_errors" (.ok (7.0, 7.0))
  ioCount := 2

/-- The value read for a metric is overwritten by the error count of another one. -/
theorem snapshot_overwrites :
    clashing.Validated ∧ (clashing.metrics.map (·.name)).Nodup ∧
      ∃ s history, clashingTask.machine.Reaches s history ∧
        ¬ PublishesLastReads clashing.metrics history := by
  refine ⟨clashing_validated, by decide, _, _, Machine.reaches_of_run
    [.connected (.ok ()), .proceed, .readDone clashingRead true (Duration.ofSecs 10)] rfl, ?_⟩
  intro published
  have values := published [] _ _ rfl _ rfl (Samples.wordMetric "flow_errors" 2) (by simp [clashing,
    Samples.plc])
  revert values
  decide

theorem publishesLastReads_iff_clashing :
    (∀ s history, clashingTask.machine.Reaches s history →
        PublishesLastReads clashing.metrics history) ↔ CountersApart clashing.metrics :=
  publishesLastReads_iff clashingTask (by decide)

end BusExporter.Collector
