import BusExporter.Collector.ErrorCounters
import BusExporter.Collector.Published
import BusExporter.Collector.ReadCounters
import BusExporter.Reader.Modbus.Changing

/-!
# Published values and the device

A device whose memory changes while it is polled. Ranges are read at once and cut
into metrics, values are carried from cycle to cycle, and contexts come and go;
still, what a Modbus collector publishes for a metric is what the metric's own
registers held, all of them in one and the same state of the device, when a read of
the run met it. The only other values are those of the error counters, which say how
often a metric had failed by then.
-/

namespace BusExporter

open Foundation

/-! ## From reads to snapshots -/

namespace Collector

open Metrics

section Sourced

variable (good : String → Float → Prop)

/-- The value is good under its name, or it says how often a metric has failed. -/
def Sourced (metrics : List MetricConfig) (history : List Event) (m : MetricValue) : Prop :=
  good m.name m.value ∨ ∃ cfg ∈ metrics, m.name = errorsName cfg.name ∧
    m.value = counterValue (failures metrics cfg.name history)

/-- Every value is good under its key, if the key is not that of a counter. -/
def GoodButCounters (errorCounts : ErrorCounts) (cache : Cache) : Prop :=
  ∀ name value, cache.lookup name = some value →
    good name value.value ∨ ∃ failed ∈ errorCounts, name = errorsName failed

/-- What was read for a name is good under it. -/
def ReadsGood (results : ReadResults) : Prop :=
  ∀ pair ∈ results.metrics.pairs, ∀ value, pair.2 = .ok value → good pair.1 value.2

end Sourced

variable {good : String → Float → Prop} {metrics : List MetricConfig} {errorCounts : ErrorCounts}

theorem GoodButCounters.insert {cache : Cache} (all : GoodButCounters good errorCounts cache)
    {name : String} {value : MetricValue}
    (sourced : good name value.value ∨ ∃ failed ∈ errorCounts, name = errorsName failed) :
    GoodButCounters good errorCounts (cache.insert name value) :=
  @HashMap.forall_insert _ (fun name (value : MetricValue) => good name value.value ∨
    ∃ failed ∈ errorCounts, name = errorsName failed) _ all _ _ sourced

theorem GoodButCounters.mono {cache : Cache} (all : GoodButCounters good errorCounts cache)
    {errorCounts' : ErrorCounts} (grown : ∀ name ∈ errorCounts, name ∈ errorCounts') :
    GoodButCounters good errorCounts' cache := by
  intro name value stored
  refine (all name value stored).imp_right ?_
  rintro ⟨failed, mem, named⟩
  exact ⟨failed, grown failed mem, named⟩

theorem goodButCounters_readLoop (isConnected : Bool) (results : List (String × MetricResult))
    (goodResults : ∀ pair ∈ results, ∀ value, pair.2 = .ok value → good pair.1 value.2)
    (reading : Reading) (all : GoodButCounters good errorCounts reading.localCache) :
    GoodButCounters good errorCounts
      (readLoop metrics isConnected reading results).localCache := by
  induction results generalizing reading with
  | nil => exact all
  | cons head results ih =>
    obtain ⟨key, result⟩ := head
    rw [List.forall_mem_cons] at goodResults
    unfold readLoop
    cases found : findMetric metrics key with
    | none => exact ih goodResults.2 reading all
    | some cfg =>
      cases result with
      | ok values =>
        -- The value is stored under the name that it was read for.
        obtain rfl : cfg.name = key := (findMetric_some found).2
        exact ih goodResults.2 _ (all.insert (.inl (goodResults.1 values rfl)))
      | error e =>
        cases isConnected with
        | false => exact all
        | true => exact ih goodResults.2 _ all

theorem goodButCounters_carryForward (prev : List (String × MetricValue)) (cache : Cache)
    (all : GoodButCounters good errorCounts cache)
    (carried : ∀ entry ∈ prev, good entry.1 entry.2.value ∨
      ∃ failed ∈ errorCounts, entry.1 = errorsName failed) :
    GoodButCounters good errorCounts (prev.foldl carryForward cache) := by
  induction prev generalizing cache with
  | nil => exact all
  | cons entry prev ih =>
    obtain ⟨key, value⟩ := entry
    rw [List.forall_mem_cons] at carried
    refine ih _ ?_ carried.2
    rw [carryForward]
    split
    · exact all
    · exact all.insert carried.1

/-- A metric that has failed once keeps its counter. -/
theorem mem_errorCounts_reading {task : Task} {s : State} {name : String}
    (mem : name ∈ s.errorCounts) (results : ReadResults) (isConnected : Bool) :
    name ∈ (task.reading s results isConnected).errorCounts := by
  rw [← AList.lookup_isSome] at mem ⊢
  cases isConnected with
  | false => rwa [Task.reading, errorCounts_readLoop_lost]
  | true =>
    rw [Task.reading, errorCounts_readLoop _ _ (HashMap.nodup_pairs _)]
    split
    · rfl
    · exact mem

/-- What a run keeps as long as its reads are good. -/
structure SourcedInv (good : String → Float → Prop) (metrics : List MetricConfig) (s : State)
    (history : List Event) : Prop where
  cached : GoodButCounters good s.errorCounts s.prevCache
  counts : CountsConfigured metrics s.errorCounts
  published : Throughout (fun event earlier => ∀ snapshot, event = .publish snapshot →
    ∀ m ∈ snapshot, Sourced good metrics earlier m) history

namespace SourcedInv

variable {task : Task} {s s' : State} {history : List Event}

theorem init (metrics : List MetricConfig) : SourcedInv good metrics Task.initial [] where
  cached := by simp [Task.initial, GoodButCounters]
  counts := by simp [Task.initial, CountsConfigured]
  published := throughout_nil _

/-- A step without a publication. -/
theorem move (inv : SourcedInv good metrics s history) {events : List Event}
    (noPublish : ∀ snapshot, .publish snapshot ∉ events) (cache : s'.prevCache = s.prevCache)
    (counts : CountsConfigured metrics s'.errorCounts)
    (grown : ∀ name ∈ s.errorCounts, name ∈ s'.errorCounts) :
    SourcedInv good metrics s' (events.reverse ++ history) where
  cached := by
    rw [cache]
    exact inv.cached.mono grown
  counts := counts
  published := inv.published.append fun event mem _ snapshot isPublish =>
    absurd (isPublish ▸ List.mem_reverse.mp mem) (noPublish snapshot)

/-- In the snapshot of a good read a value is good, or its counter has been written over it. -/
theorem snapshot_sourced (inv : SourcedInv good task.collector.metrics s history)
    (counters : CountersInv task.collector.metrics s history) {results : ReadResults}
    (goodResults : ReadsGood good results) (isConnected : Bool) {name : String}
    {value : MetricValue}
    (stored : (task.snapshot s results isConnected).lookup name = some value) :
    good name value.value ∨ ∃ failed ∈ (task.reading s results isConnected).errorCounts,
      name = errorsName failed ∧ value.value = counterValue
        (failures task.collector.metrics failed (.readDone results isConnected :: history)) := by
  have merged : GoodButCounters good (task.reading s results isConnected).errorCounts
      (s.prevCache.pairs.foldl carryForward
        (task.reading s results isConnected).localCache) := by
    refine goodButCounters_carryForward _ _ ?_ ?_
    · exact goodButCounters_readLoop _ _ goodResults _ (by simp [Reading.start, GoodButCounters])
    · rintro ⟨key, value⟩ stored
      exact inv.cached.mono (fun _ mem => mem_errorCounts_reading mem results isConnected) key value
        (HashMap.mem_pairs.mp stored)
  by_cases isCounter : ∃ failed ∈ (task.reading s results isConnected).errorCounts,
      name = errorsName failed
  · obtain ⟨failed, mem, rfl⟩ := isCounter
    obtain ⟨count, found⟩ := Option.isSome_iff_exists.mp (AList.lookup_isSome.mpr mem)
    have written := lookup_errorsName _ (s.prevCache.pairs.foldl carryForward
      (task.reading s results isConnected).localCache) (HashMap.nodup_pairs _)
      (HashMap.mem_pairs.mpr found)
    obtain rfl := Option.some_inj.mp (stored.symm.trans written)
    refine .inr ⟨failed, mem, rfl, ?_⟩
    rw [counted_value, ← counters.counted_reading results isConnected failed, found,
      Option.getD_some]
  · have apart : ∀ entry ∈ (task.reading s results isConnected).errorCounts.pairs,
        name ≠ errorsName entry.1 := by
      rintro ⟨failed, count⟩ mem named
      have known := AList.lookup_isSome.mp (Option.isSome_of_mem (HashMap.mem_pairs.mp mem))
      exact isCounter ⟨failed, known, named⟩
    have same := lookup_countErrors (task.reading s results isConnected).errorCounts.pairs
      (s.prevCache.pairs.foldl carryForward (task.reading s results isConnected).localCache) apart
    exact .inl ((merged name value (same.symm.trans stored)).resolve_right isCounter)

/-- A completed cycle whose read was good. -/
theorem publish (inv : SourcedInv good task.collector.metrics s history)
    (counters : CountersInv task.collector.metrics s history) {results : ReadResults}
    (goodResults : ReadsGood good results) {isConnected : Bool}
    (cache : s'.prevCache = task.snapshot s results isConnected)
    (counts : s'.errorCounts = (task.reading s results isConnected).errorCounts) :
    SourcedInv good task.collector.metrics s'
      (.publish (task.snapshot s results isConnected).values ::
        .readDone results isConnected :: history) := by
  have configured : CountsConfigured task.collector.metrics
      (task.reading s results isConnected).errorCounts :=
    countsConfigured_readLoop isConnected _ _ inv.counts
  refine ⟨?_, counts ▸ configured, ?_⟩
  · rw [cache, counts]
    intro name value stored
    refine (inv.snapshot_sourced counters goodResults isConnected stored).imp_right ?_
    rintro ⟨failed, mem, named, -⟩
    exact ⟨failed, mem, named⟩
  · rw [throughout_cons, throughout_cons]
    refine ⟨?_, fun snapshot isPublish => (by cases isPublish), inv.published⟩
    intro snapshot isPublish m inside
    cases isPublish
    obtain ⟨⟨key, value⟩, stored, rfl⟩ := List.mem_map.mp inside
    have stored := HashMap.mem_pairs.mp stored
    obtain rfl : value.name = key := counters.keyed_snapshot results isConnected key value stored
    refine (inv.snapshot_sourced counters goodResults isConnected stored).imp_right ?_
    rintro ⟨failed, mem, named, counted⟩
    obtain ⟨cfg, inMetrics, rfl⟩ := configured failed mem
    exact ⟨cfg, inMetrics, named, counted⟩

theorem step {events : List Event} (inv : SourcedInv good task.collector.metrics s history)
    (counters : CountersInv task.collector.metrics s history)
    (transition : Transition task s s' events)
    (reads : ∀ results isConnected, .readDone results isConnected ∈ events →
      ReadsGood good results) :
    SourcedInv good task.collector.metrics s' (events.reverse ++ history) := by
  cases transition with
  | completedEarly results isConnected elapsed rest at_read kept =>
    have published : SourcedInv good task.collector.metrics
        (task.completed s results isConnected elapsed .sleeping) _ :=
      inv.publish counters (reads results isConnected (by simp)) rfl rfl
    exact @move _ _ _ _ _ published [.sleep rest] (by simp) rfl published.counts fun _ => id
  | completedLate results isConnected elapsed at_read kept =>
    exact inv.publish counters (reads results isConnected (by simp)) rfl rfl
  | lost results isConnected elapsed at_read gone =>
    exact inv.move (by simp) rfl (countsConfigured_readLoop isConnected _ _ inv.counts)
      fun _ mem => mem_errorCounts_reading mem results isConnected
  | _ => exact inv.move (by simp) rfl inv.counts fun _ => id

end SourcedInv

/-- If all reads of a run were good, so is all that it publishes, but for the counts. -/
theorem sourced_of_reaches {task : Task} {s : State} {history : List Event}
    (reaches : task.machine.Reaches s history)
    (reads : ∀ results isConnected, .readDone results isConnected ∈ history →
      ReadsGood good results) : SourcedInv good task.collector.metrics s history := by
  refine reaches.invariant
    (fun s history => (∀ results isConnected, .readDone results isConnected ∈ history →
      ReadsGood good results) → SourcedInv good task.collector.metrics s history)
    (fun _ => .init _) (fun earlier inv stepped reads => ?_) reads
  refine (inv fun results isConnected mem => ?_).step (countersInv_of_reaches earlier)
    (transition_of_step stepped) fun results isConnected mem => ?_
  · exact reads results isConnected (List.mem_append_right _ mem)
  · exact reads results isConnected (List.mem_append_left _ (List.mem_reverse.mpr mem))

/-! ## Modbus runs -/

open Modbus

variable {κ : Type}

/-- A read of the run finds the device in this state. -/
def Meets (calls : ContextCalls κ) (steps : List (ModbusRun κ × ModbusInput κ)) (context : κ) :
    Prop :=
  ∃ s elapsed, (s, .read elapsed) ∈ steps ∧ context ∈ contextsOf calls s.reader

/-- In some state of the device that was met, reading a metric of this name on its own yields the
value. -/
def HeldBy (memory : κ → Memory) (met : κ → Prop) (metrics : List MetricConfig) (name : String)
    (value : Float) : Prop :=
  ∃ m ∈ metrics, m.name = name ∧ ∃ context raw, met context ∧
    (memory context).single m = some (raw, value)

section

variable {calls : ContextCalls κ} {memory : κ → Memory} {dead : κ → Bool} {c : CollectorConfig}
  {internalMetrics : Bool} {line : Line} {slaveId : UInt8} {s : ModbusRun κ}
  {steps : List (ModbusRun κ × ModbusInput κ)} {history : List ModbusEvent}

/-- Only a read makes results known, its own. -/
theorem read_of_step {task : Task} {input : ModbusInput κ} {next : ModbusRun κ × List ModbusEvent}
    (stepped : s.step calls dead task input = some next) {results : ReadResults}
    {isConnected : Bool} (mem : .task (.readDone results isConnected) ∈ next.2) :
    (∃ elapsed, input = .read elapsed) ∧
      ((ModbusMetricReader.read calls).run s.reader).1 = results := by
  cases input with
  | task input =>
    obtain ⟨notAnswer, advanced⟩ := Option.ite_none_left_eq_some.mp stepped
    obtain ⟨reaction, reacted, rfl⟩ := Option.map_eq_some_iff.mp advanced
    obtain ⟨elapsed, rfl⟩ := input_of_readDone reacted (mem_of_advance (by simp) mem)
    exact absurd rfl notAnswer
  | connect network =>
    obtain ⟨reaction, reacted, rfl⟩ := Option.map_eq_some_iff.mp stepped
    obtain ⟨elapsed, isRead⟩ := input_of_readDone reacted (mem_of_advance (by simp) mem)
    cases isRead
  | read elapsed =>
    obtain ⟨reaction, reacted, rfl⟩ := Option.map_eq_some_iff.mp stepped
    obtain ⟨_, isRead⟩ := input_of_readDone reacted (mem_of_advance (by simp) mem)
    cases isRead
    exact ⟨⟨elapsed, rfl⟩, rfl⟩
  | drift context =>
    obtain ⟨-, advanced⟩ := Option.ite_none_left_eq_some.mp stepped
    obtain rfl := Option.some_inj.mp advanced
    exact absurd (mem_of_advance (by simp) mem) (by simp)

/-- Every result that a run knows of, one of its reads has returned. -/
theorem read_of_run
    (run : (ModbusRun.machine calls dead c internalMetrics line slaveId).Run steps s history)
    {results : ReadResults} {isConnected : Bool}
    (mem : .task (.readDone results isConnected) ∈ history) :
    ∃ s elapsed, (s, .read elapsed) ∈ steps ∧ s.reader.metrics = c.metrics ∧
      ((ModbusMetricReader.read calls).run s.reader).1 = results := by
  induction run with
  | init => cases mem
  | step earlier stepped ih =>
    rcases List.mem_append.mp mem with now | before
    · obtain ⟨⟨elapsed, rfl⟩, returned⟩ := read_of_step stepped (List.mem_reverse.mp now)
      exact ⟨_, elapsed, List.mem_cons_self .., (readsOwn_of_reaches earlier.reaches).metrics,
        returned⟩
    · obtain ⟨s, elapsed, made, returned⟩ := ih before
      exact ⟨s, elapsed, List.mem_cons_of_mem _ made, returned⟩

/-- The reads of a run return what the device held when they met it. -/
theorem readsGood_of_run (answers : calls.Answers memory)
    (run : (ModbusRun.machine calls dead c internalMetrics line slaveId).Run steps s history)
    {results : ReadResults} {isConnected : Bool}
    (mem : .task (.readDone results isConnected) ∈ history) :
    ReadsGood (HeldBy memory (Meets calls steps) c.metrics) results := by
  obtain ⟨s, elapsed, made, own, rfl⟩ := read_of_run run mem
  rintro ⟨name, result⟩ stored value isOk
  obtain ⟨m, configured, named, single⟩ :=
    ModbusMetricReader.read_single answers s.reader name result (HashMap.mem_pairs.mp stored)
  obtain ⟨context, met, held⟩ := single value isOk
  exact ⟨m, own ▸ configured, named, context, value.1, ⟨s, elapsed, made, met⟩, held⟩

/-- Every value in every snapshot of a Modbus collector's run is what the metric's own registers
held in some state of the device that a read has met, or how often a metric had failed. -/
theorem publishesHeld (answers : calls.Answers memory)
    (run : (ModbusRun.machine calls dead c internalMetrics line slaveId).Run steps s history) :
    Throughout (fun event earlier => ∀ snapshot, event = .task (.publish snapshot) →
      ∀ m ∈ snapshot, Sourced (HeldBy memory (Meets calls steps) c.metrics) c.metrics
        (earlier.filterMap ModbusEvent.ofTask) m) history := by
  have mem_task : ∀ {event : Event},
      event ∈ history.filterMap ModbusEvent.ofTask → .task event ∈ history := by
    intro event mem
    obtain ⟨whole, mem, isTask⟩ := List.mem_filterMap.mp mem
    cases whole <;> simp_all [ModbusEvent.ofTask]
  have sourced := sourced_of_reaches (task_of_reaches run.reaches) fun results isConnected mem =>
    readsGood_of_run answers run (mem_task mem)
  rintro later event earlier split snapshot rfl m inside
  have own : history.filterMap ModbusEvent.ofTask = later.filterMap ModbusEvent.ofTask ++
      .publish snapshot :: earlier.filterMap ModbusEvent.ofTask := by
    rw [split, List.filterMap_append]
    rfl
  exact sourced.published _ _ _ own snapshot rfl m inside

end

/-- All registers of this device count its calls. -/
def callCounter (calls : ℕ) : Memory where
  holding _ := some (.ofNat calls)
  input _ := some (.ofNat calls)
  coil _ := some true
  discrete _ := some true

/-- A collector of two words that are read at once, and a distant one. -/
def wordReader : CollectorConfig :=
  Samples.plc [Samples.wordMetric "flow" 100, Samples.wordMetric "level" 104,
    Samples.wordMetric "total" 4000]

/-- The device when the task connects. -/
def counterNetwork : Network ℕ :=
  ⟨fun _ => .ok ["10.0.0.5"], fun _ _ => .ok 0, fun _ _ => .ok 0⟩

def ModbusEvent.isPublish : ModbusEvent → Bool
  | task (.publish _) => true
  | _ => false

/-- Two cycles on the counting device. -/
theorem publishesHeld_callCounter :
    ∃ (steps : List (ModbusRun ℕ × ModbusInput ℕ)) (history : List ModbusEvent),
      history.countP (·.isPublish) = 2 ∧
        Throughout (fun event earlier => ∀ snapshot, event = .task (.publish snapshot) →
          ∀ m ∈ snapshot, Sourced
            (HeldBy callCounter (Meets (changing callCounter (· + 1)) steps) wordReader.metrics)
            wordReader.metrics (earlier.filterMap ModbusEvent.ofTask) m) history := by
  have start : (ModbusRun.machine (changing callCounter (· + 1)) (fun _ => false) wordReader true
      (.tcp "10.0.0.5:502") 1).Run [] _ [] := .init
  have connected := start.next (.connect counterNetwork) rfl
  have started := connected.next (.task .proceed) rfl
  have read := started.next (.read 0) rfl
  have waited := read.next (.task .elapsed) rfl
  have restarted := waited.next (.task .proceed) rfl
  have readAgain := restarted.next (.read 0) rfl
  exact ⟨_, _, by decide +kernel, publishesHeld (changing_answers callCounter (· + 1)) readAgain⟩

end Collector

end BusExporter
