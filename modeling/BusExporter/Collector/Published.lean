import BusExporter.Collector.Snapshots

/-!
# What the store can contain

A collector's snapshots hold values of its configured metrics and of their error
counters, without labels of their own. The store puts the same base labels on all
values of a collector, among them its name, and on a value with a unit that unit.
-/

namespace BusExporter.Collector

open Foundation Metrics

/-! ## Snapshots -/

/-- The value of a configured metric or of its error counter. -/
def Publishes (metrics : List MetricConfig) (m : MetricValue) : Prop :=
  ∃ cfg ∈ metrics, (∃ scaled, m = freshValue cfg scaled) ∨
    ∃ count, m = errorValue cfg.name count

theorem Publishes.labels {metrics : List MetricConfig} {m : MetricValue}
    (publishes : Publishes metrics m) : m.labels = ∅ := by
  obtain ⟨cfg, -, ⟨scaled, rfl⟩ | ⟨count, rfl⟩⟩ := publishes
  · rfl
  · rfl

/-- Every value of a cache is one that the collector publishes. -/
def AllPublished (metrics : List MetricConfig) (cache : Cache) : Prop :=
  ∀ name value, cache.lookup name = some value → Publishes metrics value

section Loops

variable {metrics : List MetricConfig}

theorem AllPublished.insert {cache : Cache} (all : AllPublished metrics cache) {name : String}
    {value : MetricValue} (publishes : Publishes metrics value) :
    AllPublished metrics (cache.insert name value) :=
  @HashMap.forall_insert _ (fun _ value => Publishes metrics value) _ all _ _ publishes

theorem allPublished_readLoop (isConnected : Bool) (results : List (String × MetricResult))
    (reading : Reading) (all : AllPublished metrics reading.localCache) :
    AllPublished metrics (readLoop metrics isConnected reading results).localCache := by
  induction results generalizing reading with
  | nil => exact all
  | cons head results ih =>
    obtain ⟨key, result⟩ := head
    unfold readLoop
    cases found : findMetric metrics key with
    | none => exact ih reading all
    | some cfg =>
      cases result with
      | ok values => exact ih _ (all.insert ⟨cfg, (findMetric_some found).1, .inl ⟨_, rfl⟩⟩)
      | error e =>
        cases isConnected with
        -- A lost connection ends the loop with what was read so far.
        | false => exact all
        | true => exact ih _ all

theorem allPublished_carryForward (prev : List (String × MetricValue)) (cache : Cache)
    (all : AllPublished metrics cache) (carried : ∀ entry ∈ prev, Publishes metrics entry.2) :
    AllPublished metrics (prev.foldl carryForward cache) := by
  induction prev generalizing cache with
  | nil => exact all
  | cons entry prev ih =>
    obtain ⟨key, value⟩ := entry
    rw [List.forall_mem_cons] at carried
    refine ih _ ?_ carried.2
    -- A name that was read in this cycle keeps the new value.
    rw [carryForward]
    split
    · exact all
    · exact all.insert carried.1

theorem allPublished_countErrors (errors : List (String × ℕ)) (cache : Cache)
    (all : AllPublished metrics cache)
    (configured : ∀ entry ∈ errors, ∃ cfg ∈ metrics, cfg.name = entry.1) :
    AllPublished metrics (errors.foldl countErrors cache) := by
  induction errors generalizing cache with
  | nil => exact all
  | cons entry errors ih =>
    obtain ⟨key, count⟩ := entry
    rw [List.forall_mem_cons] at configured
    refine ih _ ?_ configured.2
    obtain ⟨cfg, mem, rfl⟩ := configured.1
    rw [countErrors]
    split
    · exact all.insert ⟨cfg, mem, .inr ⟨count, rfl⟩⟩
    · rename_i m present
      -- Only the value of an entry that is there already changes.
      obtain ⟨owner, known, ⟨scaled, rfl⟩ | ⟨old, rfl⟩⟩ := all _ m present
      · exact all.insert ⟨owner, known, .inl ⟨_, rfl⟩⟩
      · exact all.insert ⟨owner, known, .inr ⟨count, rfl⟩⟩

end Loops

/-- What a run keeps: its cache and its snapshots hold published values only. -/
structure PublishedInv (metrics : List MetricConfig) (s : State) (history : List Event) :
    Prop where
  cached : AllPublished metrics s.prevCache
  counts : CountsConfigured metrics s.errorCounts
  published : ∀ snapshot, .publish snapshot ∈ history → ∀ m ∈ snapshot, Publishes metrics m

namespace PublishedInv

variable {task : Task} {s s' : State} {history : List Event}

/-- A step without a publication. -/
theorem move {metrics : List MetricConfig} (inv : PublishedInv metrics s history)
    {events : List Event} (noPublish : ∀ snapshot, .publish snapshot ∉ events)
    (cache : s'.prevCache = s.prevCache) (counts : CountsConfigured metrics s'.errorCounts) :
    PublishedInv metrics s' (events.reverse ++ history) where
  cached := by
    rw [cache]
    exact inv.cached
  counts := counts
  published snapshot mem := by
    rcases List.mem_append.mp mem with now | earlier
    · exact absurd (List.mem_reverse.mp now) (noPublish snapshot)
    · exact inv.published snapshot earlier

theorem allPublished_snapshot (inv : PublishedInv task.collector.metrics s history)
    (results : ReadResults) (isConnected : Bool) :
    AllPublished task.collector.metrics (task.snapshot s results isConnected) := by
  have counts : CountsConfigured task.collector.metrics
      (task.reading s results isConnected).errorCounts :=
    countsConfigured_readLoop isConnected _ _ inv.counts
  refine allPublished_countErrors _ _ (allPublished_carryForward _ _ ?_ ?_) ?_
  · exact allPublished_readLoop _ _ _ (by simp [Reading.start, AllPublished])
  · rintro ⟨key, value⟩ stored
    exact inv.cached key value (HashMap.mem_pairs.mp stored)
  · rintro ⟨key, count⟩ stored
    exact counts key (AList.lookup_isSome.mp (by simp [HashMap.mem_pairs.mp stored]))

/-- A completed cycle publishes the cache that it keeps. -/
theorem publish (inv : PublishedInv task.collector.metrics s history) {results : ReadResults}
    {isConnected : Bool} {events : List Event}
    (published : ∀ snapshot, .publish snapshot ∈ events →
      snapshot = (task.snapshot s results isConnected).values)
    (cache : s'.prevCache = task.snapshot s results isConnected)
    (counts : s'.errorCounts = (task.reading s results isConnected).errorCounts) :
    PublishedInv task.collector.metrics s' (events.reverse ++ history) where
  cached := by
    rw [cache]
    exact inv.allPublished_snapshot results isConnected
  counts := by
    rw [counts]
    exact countsConfigured_readLoop isConnected _ _ inv.counts
  published snapshot mem := by
    rcases List.mem_append.mp mem with now | earlier
    · rw [published snapshot (List.mem_reverse.mp now)]
      intro m inside
      obtain ⟨⟨key, value⟩, stored, rfl⟩ := List.mem_map.mp inside
      exact inv.allPublished_snapshot results isConnected key value (HashMap.mem_pairs.mp stored)
    · exact inv.published snapshot earlier

theorem init (metrics : List MetricConfig) : PublishedInv metrics Task.initial [] where
  cached := by simp [Task.initial, AllPublished]
  counts := by simp [Task.initial, CountsConfigured]
  published := by simp

theorem step {events : List Event} (inv : PublishedInv task.collector.metrics s history)
    (transition : Transition task s s' events) :
    PublishedInv task.collector.metrics s' (events.reverse ++ history) := by
  cases transition with
  | completedEarly results isConnected elapsed rest at_read kept =>
    exact inv.publish (by simp) rfl rfl
  | completedLate results isConnected elapsed at_read kept =>
    exact inv.publish (by simp) rfl rfl
  | lost results isConnected elapsed at_read gone =>
    exact inv.move (by simp) rfl (countsConfigured_readLoop isConnected _ _ inv.counts)
  | _ => exact inv.move (by simp) rfl inv.counts

end PublishedInv

/-- Every run publishes values of configured metrics and of their error counters only. -/
theorem publishes_of_reaches {task : Task} {s : State} {history : List Event}
    (reaches : task.machine.Reaches s history) {snapshot : List MetricValue}
    (published : .publish snapshot ∈ history) :
    ∀ m ∈ snapshot, Publishes task.collector.metrics m :=
  (reaches.invariant (PublishedInv task.collector.metrics) (.init _) fun _ inv stepped =>
    inv.step (transition_of_step stepped)).published snapshot published

/-! ## The store -/

/-- `into_iter().collect()` of configured labels. -/
def labelsOf (labels : HashMap String) : Labels :=
  labels.pairs.foldl (fun labels pair => labels.insert pair.1 pair.2) ∅

/-- A store after any publications by tasks of a configuration's collectors. -/
inductive Publishable (config : Config) : MetricStore → Prop
  | empty : Publishable config ∅
  | publish {store : MetricStore} {task : Task} {s : State} {history : List Event}
      {snapshot : List MetricValue} : Publishable config store →
    task.collector ∈ config.collectors → task.machine.Reaches s history →
    .publish snapshot ∈ history →
    Publishable config (store.publish task.collector.name snapshot (labelsOf config.globalLabels)
      (labelsOf task.collector.labels))

/-- All values of a collector have the same labels, apart from their units. -/
def SameBase (collectorName : String) (values : List MetricValue) : Prop :=
  ∃ base : Labels, base["collector"]? = some collectorName ∧
    ∀ m ∈ values, m.labels = if m.unit = "" then base else base.insert "unit" m.unit

theorem collector_label {collectorName : String} {values : List MetricValue}
    (same : SameBase collectorName values) {m : MetricValue} (mem : m ∈ values) :
    m.labels["collector"]? = some collectorName := by
  obtain ⟨base, collector, labels⟩ := same
  rw [labels m mem]
  split
  · exact collector
  · rw [Std.ExtTreeMap.getElem?_insert, if_neg (by decide)]
    exact collector

theorem overlay_empty (base : Labels) : overlay base ∅ = base := by
  rfl

/-- The values of a published snapshot are its values with their labels. -/
theorem mem_published {base : Labels} {metrics : List MetricValue} {m : MetricValue}
    (mem : m ∈ HashMap.values (metrics.foldl
      (fun deduped m => deduped.insert m.name (labelled base m)) (∅ : HashMap MetricValue))) :
    ∃ original ∈ metrics, m = labelled base original := by
  have collected : metrics.foldl
      (fun deduped m => deduped.insert m.name (labelled base m)) (∅ : HashMap MetricValue) =
        HashMap.collect (metrics.map fun m => (m.name, labelled base m)) := by
    rw [HashMap.collect, List.foldl_map]
  rw [collected] at mem
  obtain ⟨⟨key, value⟩, stored, rfl⟩ := List.mem_map.mp mem
  have origin := HashMap.mem_of_lookup_collect (HashMap.mem_pairs.mp stored)
  obtain ⟨original, inside, same⟩ := List.mem_map.mp origin
  cases same
  exact ⟨original, inside, rfl⟩

theorem sameBase_of_publishable {config : Config} {store : MetricStore}
    (publishable : Publishable config store) :
    ∀ entry ∈ store.pairs, SameBase entry.1 entry.2 := by
  induction publishable with
  | empty => simp [HashMap.pairs]
  | @publish store task s history snapshot earlier configured reaches published ih =>
    rintro ⟨name, values⟩ stored
    have found := HashMap.mem_pairs.mp stored
    by_cases same : name = task.collector.name
    · subst same
      rw [MetricStore.publish, AList.lookup_insert, Option.some_inj] at found
      refine ⟨baseLabels task.collector.name (labelsOf config.globalLabels)
        (labelsOf task.collector.labels), by simp [baseLabels], fun m mem => ?_⟩
      rw [← found] at mem
      -- The values of the new snapshot all lie on the base labels of its own collector.
      obtain ⟨original, inside, rfl⟩ := mem_published mem
      have unlabelled := (publishes_of_reaches reaches published original inside).labels
      simp only [labelled, unlabelled, overlay_empty]
    · rw [MetricStore.publish, AList.lookup_insert_ne same] at found
      exact ih (name, values) (HashMap.mem_pairs.mpr found)

/-! ## The first cycle, for concrete runs -/

/-- A read that returns the same values for every metric. -/
def readAll (collector : CollectorConfig) : ReadResults where
  metrics := HashMap.collect (collector.metrics.map fun m => (m.name, .ok (1.0, 1.0)))
  ioCount := 1

/-- What the cycle with this read publishes, if it is the first one. -/
def firstSnapshot (collector : CollectorConfig) : List MetricValue :=
  ((⟨collector, false, true⟩ : Task).snapshot Task.initial (readAll collector) true).values

/-- The first snapshot can be published. -/
theorem Publishable.publishFirst {config : Config} {store : MetricStore}
    (earlier : Publishable config store) (collector : CollectorConfig)
    (configured : collector ∈ config.collectors) {s : State} {history : List Event}
    (ran : (⟨collector, false, true⟩ : Task).machine.runFrom Task.initial []
      [.connected (.ok ()), .proceed,
        .readDone (readAll collector) true collector.pollingInterval] =
        some (s, .publish (firstSnapshot collector) :: history)) :
    Publishable config (store.publish collector.name (firstSnapshot collector)
      (labelsOf config.globalLabels) (labelsOf collector.labels)) :=
  .publish earlier configured (Machine.reaches_of_run _ ran) (List.mem_cons_self ..)

end BusExporter.Collector
