import BusExporter.Collector.Processing
import BusExporter.Collector.Transition

/-!
# Poll cycles in any iteration order

The three maps of a cycle, the results of the read, the previous cache and the
error counts, are iterated in an arbitrary order. The loop over the results may be
broken off, and the loops that merge a snapshot may write over each other's entries;
the cycle comes to the same all the same. What the loop had collected when it was
broken off does depend on the order, and is thrown away.
-/

namespace BusExporter.Collector

open Foundation Metrics

/-! ## A cycle in a given order -/

section InOrder

variable (iteration : HashMap.Iteration) (task : Task)

/-- Merge a snapshot in a given order. -/
def mergeSnapshotIn (localCache prevCache : Cache) (errorCounts : ErrorCounts) : Cache :=
  (iteration.order errorCounts).foldl countErrors
    ((iteration.order prevCache).foldl carryForward localCache)

def Task.completeCycleIn (s : State) (reading : Reading) (elapsed : Duration) :
    State × List Event :=
  let s := s.recordPoll task reading.pollHadError elapsed
  let cache := mergeSnapshotIn iteration reading.localCache s.prevCache s.errorCounts
  let s := { s with backoff := initialBackoff, prevCache := cache }
  let (s', events) := s.sleepOr task elapsed .overrun
  (s', .publish ((iteration.order cache).map (·.2)) :: events)

/-- The loop over the results in a given order. -/
def Task.readingIn (s : State) (results : ReadResults) (isConnected : Bool) : Reading :=
  readLoop task.collector.metrics isConnected (Reading.start s.errorCounts)
    (iteration.order results.metrics)

/-- The read has returned; all maps are iterated in a given order. -/
def Task.readReturnedIn (s : State) (results : ReadResults) (isConnected : Bool)
    (elapsed : Duration) : State × List Event :=
  let reading := task.readingIn iteration s results isConnected
  let s := { s with errorCounts := reading.errorCounts }
  let s := s.countReads task results.ioCount reading.readErrors
  let (s', events) :=
    if reading.connectionError then (s.recordPollError task elapsed).enterReconnect
    else task.completeCycleIn iteration s reading elapsed
  (s', .readDone results isConnected :: events)

/-- The task's own order is one of the orders. -/
theorem readReturned_eq (s : State) (results : ReadResults) (isConnected : Bool)
    (elapsed : Duration) :
    task.readReturned s results isConnected elapsed =
      task.readReturnedIn .kept s results isConnected elapsed := rfl

end InOrder

/-! ## Same up to order -/

/-- Two states that differ in the order of their maps only. -/
structure State.Same (s s' : State) : Prop where
  location : s.location = s'.location
  shutdown : s.shutdown = s'.shutdown
  changed : s.changed = s'.changed
  backoff : s.backoff = s'.backoff
  prevCache : HashMap.Same s.prevCache s'.prevCache
  errorCounts : HashMap.Same s.errorCounts s'.errorCounts
  prePollConsecutiveFailures : s.prePollConsecutiveFailures = s'.prePollConsecutiveFailures
  stats : s.stats = s'.stats

theorem State.Same.refl (s : State) : s.Same s :=
  ⟨rfl, rfl, rfl, rfl, .rfl, .rfl, rfl, rfl⟩

/-- Two events that differ in the order of a map or of a snapshot only. -/
inductive Event.Same : Event → Event → Prop
  | rfl (event : Event) : Same event event
  | readDone {results results' : ReadResults} (isConnected : Bool) :
    HashMap.Same results.metrics results'.metrics → results.ioCount = results'.ioCount →
      Same (.readDone results isConnected) (.readDone results' isConnected)
  | publish {snapshot snapshot' : List MetricValue} : snapshot.Perm snapshot' →
      Same (.publish snapshot) (.publish snapshot')

/-- Two outcomes of the loop over the results; what was collected up to a lost connection may
differ. -/
structure Reading.Same (reading reading' : Reading) : Prop where
  localCache : reading.connectionError = false →
    HashMap.Same reading.localCache reading'.localCache
  errorCounts : HashMap.Same reading.errorCounts reading'.errorCounts
  readErrors : reading.readErrors = reading'.readErrors
  connectionError : reading.connectionError = reading'.connectionError
  pollHadError : reading.pollHadError = reading'.pollHadError

variable (iteration iteration' : HashMap.Iteration) {task : Task} {s s' : State}

/-- The loop over the results comes to the same in any two orders. -/
theorem readingIn_same (same : s.Same s') {results results' : ReadResults}
    (sameResults : HashMap.Same results.metrics results'.metrics) (isConnected : Bool) :
    (task.readingIn iteration s results isConnected).Same
      (task.readingIn iteration' s' results' isConnected) := by
  have perm := iteration.perm_of_same iteration' sameResults
  have lookup : ∀ name, (iteration.order results.metrics).lookup name =
      (iteration'.order results'.metrics).lookup name := by
    intro name
    rw [iteration.lookup_order, iteration'.lookup_order, sameResults name]
  -- Whether the connection is lost depends on which results there are, not on their order.
  have gone : (task.readingIn iteration s results isConnected).connectionError =
      (task.readingIn iteration' s' results' isConnected).connectionError := by
    rw [Task.readingIn, Task.readingIn, connectionError_readLoop, connectionError_readLoop,
      perm.any_eq]
    rfl
  refine ⟨fun kept name => ?_, fun name => ?_, ?_, gone, ?_⟩
  · have kept' := kept
    rw [gone] at kept'
    unfold Task.readingIn at kept kept' ⊢
    cases found : findMetric task.collector.metrics name with
    | none =>
      rw [lookup_readLoop_unconfigured found, lookup_readLoop_unconfigured found]
      rfl
    | some cfg =>
      rw [lookup_readLoop found _ (iteration.nodup_order _) _ kept,
        lookup_readLoop found _ (iteration'.nodup_order _) _ kept', lookup]
      rfl
  · unfold Task.readingIn
    cases isConnected with
    | false =>
      rw [errorCounts_readLoop_lost, errorCounts_readLoop_lost]
      exact same.errorCounts name
    | true =>
      rw [errorCounts_readLoop _ _ (iteration.nodup_order _),
        errorCounts_readLoop _ _ (iteration'.nodup_order _), lookup]
      simp only [Reading.start, same.errorCounts name]
  · rw [Task.readingIn, Task.readingIn, readErrors_readLoop, readErrors_readLoop, perm.any_eq,
      perm.countP_eq]
    rfl
  · rw [Task.readingIn, Task.readingIn, pollHadError_readLoop, pollHadError_readLoop, perm.any_eq]
    rfl

/-- Merging comes to the same in any two orders. -/
theorem mergeSnapshotIn_same {localCache localCache' prevCache prevCache' : Cache}
    {errorCounts errorCounts' : ErrorCounts} (sameLocal : HashMap.Same localCache localCache')
    (samePrev : HashMap.Same prevCache prevCache')
    (sameCounts : HashMap.Same errorCounts errorCounts') :
    HashMap.Same (mergeSnapshotIn iteration localCache prevCache errorCounts)
      (mergeSnapshotIn iteration' localCache' prevCache' errorCounts') := by
  have carried : ∀ name,
      ((iteration.order prevCache).foldl carryForward localCache).lookup name =
        ((iteration'.order prevCache').foldl carryForward localCache').lookup name := by
    intro name
    rw [lookup_carryForward, lookup_carryForward, iteration.lookup_order,
      iteration'.lookup_order, sameLocal name, samePrev name]
  have perm := iteration.perm_of_same iteration' sameCounts
  intro name
  unfold mergeSnapshotIn
  -- Under a counter's name there is what its own count leaves, elsewhere what was carried.
  by_cases counter : ∃ entry ∈ iteration.order errorCounts, name = errorsName entry.1
  · obtain ⟨⟨metricName, count⟩, mem, rfl⟩ := counter
    rw [lookup_errorsName _ _ (iteration.nodup_order _) mem,
      lookup_errorsName _ _ (iteration'.nodup_order _) (perm.mem_iff.mp mem), carried]
  · have apart : ∀ entry ∈ iteration.order errorCounts, name ≠ errorsName entry.1 :=
      fun entry mem same => counter ⟨entry, mem, same⟩
    rw [lookup_countErrors _ _ apart,
      lookup_countErrors _ _ fun entry mem => apart entry (perm.mem_iff.mpr mem), carried]

/-! ## A cycle in any two orders -/

/-- Two reactions that differ in the order of their maps and snapshots only. -/
structure SameReaction (reaction reaction' : State × List Event) : Prop where
  state : reaction.1.Same reaction'.1
  events : List.Forall₂ Event.Same reaction.2 reaction'.2

/-- An update of the internal metrics, and everything else stays the same. -/
theorem State.Same.updateStats (same : s.Same s') (task : Task)
    (update : CollectorStats → CollectorStats) :
    (s.updateStats task update).Same (s'.updateStats task update) where
  location := same.location
  shutdown := same.shutdown
  changed := same.changed
  backoff := same.backoff
  prevCache := same.prevCache
  errorCounts := same.errorCounts
  prePollConsecutiveFailures := same.prePollConsecutiveFailures
  stats := by simp only [State.updateStats, same.stats]

theorem State.Same.enterReconnect (same : s.Same s') :
    SameReaction s.enterReconnect s'.enterReconnect where
  state := { same with location := rfl }
  events := by
    simp only [State.enterReconnect, same.backoff]
    exact .cons (.rfl _) (.cons (.rfl _) .nil)

theorem State.Same.sleepOr (same : s.Same s') (task : Task) (elapsed : Duration)
    (late : Location) :
    SameReaction (s.sleepOr task elapsed late) (s'.sleepOr task elapsed late) := by
  unfold State.sleepOr
  split
  · exact ⟨{ same with location := rfl }, .cons (.rfl _) .nil⟩
  · exact ⟨{ same with location := rfl }, .nil⟩

/-- A completed cycle comes to the same in any two orders. -/
theorem completeCycleIn_same (same : s.Same s') {reading reading' : Reading}
    (sameReading : reading.Same reading') (kept : reading.connectionError = false)
    (elapsed : Duration) :
    SameReaction (task.completeCycleIn iteration s reading elapsed)
      (task.completeCycleIn iteration' s' reading' elapsed) := by
  have merged := mergeSnapshotIn_same iteration iteration' (sameReading.localCache kept)
    same.prevCache same.errorCounts
  have recorded : (s.recordPoll task reading.pollHadError elapsed).Same
      (s'.recordPoll task reading'.pollHadError elapsed) := by
    rw [sameReading.pollHadError]
    exact same.updateStats task _
  have cached : State.Same
      { s.recordPoll task reading.pollHadError elapsed with
        backoff := initialBackoff
        prevCache := mergeSnapshotIn iteration reading.localCache s.prevCache s.errorCounts }
      { s'.recordPoll task reading'.pollHadError elapsed with
        backoff := initialBackoff
        prevCache := mergeSnapshotIn iteration' reading'.localCache s'.prevCache s'.errorCounts } :=
    { recorded with backoff := rfl, prevCache := merged }
  obtain ⟨state, events⟩ := cached.sleepOr task elapsed .overrun
  constructor
  · exact state
  · apply List.Forall₂.cons _ events
    exact .publish ((iteration.perm_of_same iteration' merged).map _)

/-- Whatever the order in which the results, the previous cache and the error counts are
iterated, a cycle publishes the same snapshot or decides to reconnect, and leaves the same
cache, error counts and internal metrics. -/
theorem readReturnedIn_same (task : Task) {s s' : State} (same : s.Same s')
    {results results' : ReadResults} (sameResults : HashMap.Same results.metrics results'.metrics)
    (sameCount : results.ioCount = results'.ioCount) (isConnected : Bool) (elapsed : Duration) :
    SameReaction (task.readReturnedIn iteration s results isConnected elapsed)
      (task.readReturnedIn iteration' s' results' isConnected elapsed) := by
  have sameReading : (task.readingIn iteration s results isConnected).Same
      (task.readingIn iteration' s' results' isConnected) :=
    readingIn_same iteration iteration' same sameResults isConnected
  have counted : State.Same
      { s with errorCounts := (task.readingIn iteration s results isConnected).errorCounts }
      { s' with errorCounts := (task.readingIn iteration' s' results' isConnected).errorCounts } :=
    { same with errorCounts := sameReading.errorCounts }
  have requested := counted.updateStats task fun stats =>
    { stats with
      readRequests := stats.readRequests + results.ioCount
      readErrors :=
        stats.readErrors + (task.readingIn iteration s results isConnected).readErrors }
  have done : Event.Same (.readDone results isConnected) (.readDone results' isConnected) :=
    .readDone isConnected sameResults sameCount
  unfold Task.readReturnedIn
  -- A lost connection publishes nothing and drops the rest of the results.
  cases gone : (task.readingIn iteration s results isConnected).connectionError with
  | true =>
    have gone' := sameReading.connectionError ▸ gone
    simp only [gone, gone', if_true, ← sameCount, ← sameReading.readErrors]
    obtain ⟨state, events⟩ := (requested.updateStats task _).enterReconnect
    exact ⟨state, .cons done events⟩
  | false =>
    have kept' := sameReading.connectionError ▸ gone
    simp only [gone, kept', Bool.false_eq_true, if_false, ← sameCount, ← sameReading.readErrors]
    obtain ⟨state, events⟩ :=
      completeCycleIn_same iteration iteration' requested sameReading gone elapsed
    exact ⟨state, .cons done events⟩

/-- A task of two metrics. -/
def meterTask : Task :=
  ⟨Samples.plc [Samples.wordMetric "flow" 0, Samples.wordMetric "level" 2], false, true⟩

/-- `flow` reads 3, and `level` finds the connection lost. -/
def halfRead : ReadResults where
  metrics := ((∅ : HashMap MetricResult).insert "flow" (.ok (3.0, 3.0))).insert "level"
    (.error (.msg "broken pipe"))
  ioCount := 2

/-- Only one of the two orders gets to the value of `flow` before the loop is broken off. -/
theorem readReturnedIn_same_halfRead :
    (meterTask.readingIn .kept Task.initial halfRead false).localCache.keys = [] ∧
      (meterTask.readingIn .reversed Task.initial halfRead false).localCache.keys = ["flow"] ∧
      SameReaction (meterTask.readReturnedIn .kept Task.initial halfRead false 0)
        (meterTask.readReturnedIn .reversed Task.initial halfRead false 0) :=
  ⟨rfl, rfl, readReturnedIn_same .kept .reversed meterTask (.refl _) .rfl rfl false 0⟩

end BusExporter.Collector
