import BusExporter.Collector.ModbusRun
import BusExporter.Collector.PollCounters
import BusExporter.Reader.Modbus.Requests

/-!
# Read errors and read requests

The counters of a collector are the totals of the reads that have returned: the calls
that were made, and the failures among the results. Of a Modbus collector the calls
are counted for each range and the failures for each metric, so one call can fail for
several metrics: the errors stay within the requests on every device exactly if no
fewer calls are needed than there are metrics.
-/

namespace BusExporter.Collector

open Foundation Modbus

/-! ## What the counters count -/

/-- The calls of a read that has returned. -/
def Event.requests : Event → ℕ
  | .readDone results _ => results.ioCount
  | _ => 0

/-- The failures that are counted of a read that has returned. -/
def Event.failures (metrics : List MetricConfig) : Event → ℕ
  | .readDone results isConnected =>
    if isConnected then results.metrics.pairs.countP (isFailure metrics)
    else (results.metrics.pairs.any (isFailure metrics)).toNat
  | _ => 0

/-- The counters of a task are the totals over its history. -/
structure CountsReads (task : Task) (s : State) (history : List Event) : Prop where
  requests : s.polls.readRequests = (history.map Event.requests).sum
  errors : s.polls.readErrors = (history.map (Event.failures task.collector.metrics)).sum

section Totals

variable {task : Task} {s s' : State} {events : List Event}

theorem readErrors_reading (s : State) (results : ReadResults) (isConnected : Bool) :
    (task.reading s results isConnected).readErrors =
      Event.failures task.collector.metrics (.readDone results isConnected) := by
  rw [Task.reading, readErrors_readLoop, Reading.start, Nat.zero_add, Event.failures]

/-- A step adds the totals over its events. -/
theorem Transition.countsReads (internal : task.internalMetrics = true)
    (transition : Transition task s s' events) :
    s'.polls.readRequests = s.polls.readRequests + (events.map Event.requests).sum ∧
      s'.polls.readErrors =
        s.polls.readErrors + (events.map (Event.failures task.collector.metrics)).sum := by
  cases transition with
  | leftAtStart at_start set =>
    rw [polls_countPoll internal]
    exact ⟨rfl, rfl⟩
  | prePollStarted at_start unset executes | readStarted at_start unset executes =>
    rw [polls_countPoll internal]
    exact ⟨rfl, rfl⟩
  | escalated elapsed at_prePoll | skippedEarly elapsed rest at_prePoll
  | skippedLate elapsed at_prePoll =>
    rw [polls_failedPrePoll internal]
    exact ⟨rfl, rfl⟩
  | lost results isConnected elapsed at_read gone =>
    rw [polls_recordPollError internal, polls_readState internal, readErrors_reading]
    exact ⟨rfl, rfl⟩
  | completedEarly results isConnected elapsed rest at_read kept
  | completedLate results isConnected elapsed at_read kept =>
    rw [polls_completed internal, polls_readState internal, readErrors_reading]
    -- The outcome of the cycle does not concern the read counters.
    dsimp only
    split <;> exact ⟨rfl, rfl⟩
  | _ => exact ⟨rfl, rfl⟩

theorem countsReads_of_reaches (internal : task.internalMetrics = true) {history : List Event}
    (reaches : task.machine.Reaches s history) : CountsReads task s history := by
  refine reaches.invariant (CountsReads task) ⟨rfl, rfl⟩ fun _ inv stepped => ?_
  obtain ⟨requests, errors⟩ := (transition_of_step stepped).countsReads internal
  constructor
  · rw [requests, inv.requests, List.map_append, List.sum_append, List.map_reverse,
      List.sum_reverse, Nat.add_comm]
  · rw [errors, inv.errors, List.map_append, List.sum_append, List.map_reverse,
      List.sum_reverse, Nat.add_comm]

/-- A task that collects no internal metrics has no counters. -/
theorem stats_of_reaches (external : task.internalMetrics = false) {history : List Event}
    (reaches : task.machine.Reaches s history) : s.stats = none := by
  refine reaches.invariant (fun s _ => s.stats = none) rfl fun _ inv stepped => ?_
  have kept : ∀ {s s' : State} {events : List Event}, Transition task s s' events →
      s'.stats = s.stats := by
    intro s s' events transition
    cases transition <;>
      simp [State.countPoll, State.updateStats, Task.failedPrePoll, State.recordPollError,
        Task.completed, State.recordPoll, Task.readState, State.countReads, external]
  rw [kept (transition_of_step stepped), inv]

section

variable (results : ReadResults) (isConnected : Bool)

theorem readDone_notMem_sleepOr (s : State) (elapsed : Duration) (late : Location) :
    .readDone results isConnected ∉ (s.sleepOr task elapsed late).2 := by
  unfold State.sleepOr
  split <;> simp

theorem readDone_notMem_prePollFailed (s : State) (elapsed : Duration) :
    .readDone results isConnected ∉ (task.prePollFailed s elapsed).2 := by
  unfold Task.prePollFailed
  dsimp only
  split
  · simp [State.enterReconnect]
  · simp [readDone_notMem_sleepOr]

theorem readDone_notMem_startCycle (s : State) :
    .readDone results isConnected ∉ (task.startCycle s).2 := by
  unfold Task.startCycle
  dsimp only
  split
  · simp [State.leave]
  · split <;> simp

/-- The rest of the reaction to a read reconnects, or publishes and sleeps. -/
theorem readDone_mem_readReturned (s : State) (results' : ReadResults) (isConnected' : Bool)
    (elapsed : Duration)
    (mem : .readDone results isConnected ∈
      (task.readReturned s results' isConnected' elapsed).2) :
    results = results' ∧ isConnected = isConnected' := by
  unfold Task.readReturned at mem
  dsimp only at mem
  split at mem
  · simpa [State.enterReconnect] using mem
  · simpa [Task.completeCycle, readDone_notMem_sleepOr] using mem

end

/-- A read is reported by the step that gets its results. -/
theorem input_of_readDone {input : Input} (stepped : task.step s input = some (s', events))
    {results : ReadResults} {isConnected : Bool} (mem : .readDone results isConnected ∈ events) :
    ∃ elapsed, input = .readDone results isConnected elapsed := by
  unfold Task.step at stepped
  cases input with
  | signal | close =>
    cases stepped
    simp at mem
  | connected result =>
    cases result <;> cases at_location : s.location <;> rw [at_location] at stepped <;>
      cases stepped <;> simp [State.enterReconnect] at mem
  | wrote result elapsed =>
    cases at_location : s.location with
    | prePolling =>
      cases result <;> rw [at_location] at stepped <;> simp only [Option.some.injEq] at stepped
      · rw [show events = _ from (congrArg Prod.snd stepped).symm] at mem
        exact absurd mem (readDone_notMem_prePollFailed _ _ _ _)
      · rw [show events = _ from (congrArg Prod.snd stepped).symm] at mem
        simp at mem
    | _ =>
      cases result <;> rw [at_location] at stepped <;> cases stepped <;>
        simp [State.enterReconnect] at mem
  | readDone results' isConnected' elapsed =>
    cases at_location : s.location <;> rw [at_location] at stepped <;>
      simp only [Option.some.injEq, reduceCtorEq] at stepped
    rw [show events = _ from (congrArg Prod.snd stepped).symm] at mem
    obtain ⟨rfl, rfl⟩ := readDone_mem_readReturned _ _ _ _ _ _ mem
    exact ⟨elapsed, rfl⟩
  | elapsed =>
    cases at_location : s.location <;> rw [at_location] at stepped <;> cases stepped <;>
      simp at mem
  | changed =>
    cases at_location : s.location <;> rw [at_location] at stepped <;>
      grind [State.leave]
  | proceed =>
    cases at_location : s.location <;> rw [at_location] at stepped <;>
      simp only [Option.some.injEq, reduceCtorEq] at stepped
    · rw [show events = _ from (congrArg Prod.snd stepped).symm] at mem
      exact absurd mem (readDone_notMem_startCycle _ _ _)
    · grind [State.leave]

end Totals

/-! ## The task of a Modbus run -/

/-- The event of the task. -/
def ModbusEvent.ofTask : ModbusEvent → Option Event
  | task event => some event
  | polled _ | died => none

variable {κ : Type} {calls : ContextCalls κ} {dead : κ → Bool} {c : CollectorConfig}
  {internalMetrics : Bool} {line : Line} {slaveId : UInt8} {s : ModbusRun κ}
  {history : List ModbusEvent}

theorem ofTask_advance (s : ModbusRun κ) (reader : ModbusMetricReader κ)
    {polls : List ModbusEvent} (silent : polls.filterMap ModbusEvent.ofTask = [])
    (reaction : State × List Event) :
    ((s.advance dead reader polls reaction).1.task,
      (s.advance dead reader polls reaction).2.filterMap ModbusEvent.ofTask) = reaction := by
  refine Prod.ext rfl ?_
  have own : (reaction.2.map ModbusEvent.task).filterMap ModbusEvent.ofTask = reaction.2 := by
    rw [List.filterMap_map]
    exact List.filterMap_some
  have death : ∀ (died : Prop) [Decidable died],
      (if died then [ModbusEvent.died] else []).filterMap ModbusEvent.ofTask = [] := by
    intro died _
    split <;> rfl
  simp only [ModbusRun.advance, List.filterMap_append, own, silent, death, List.nil_append,
    List.append_nil]

/-- The task's events of a reaction are the task's own. -/
theorem mem_of_advance {reader : ModbusMetricReader κ} {polls : List ModbusEvent}
    (silent : ∀ event, .task event ∉ polls) {reaction : State × List Event} {event : Event}
    (mem : .task event ∈ (s.advance dead reader polls reaction).2) : event ∈ reaction.2 := by
  have death : ∀ (died : Prop) [Decidable died],
      ModbusEvent.task event ∉ (if died then [ModbusEvent.died] else []) := by
    intro died _
    split <;> simp
  simpa [ModbusRun.advance, death, silent] using mem

/-- In a step of a Modbus run the task reacts to some input, or the transport changes. -/
theorem task_of_transition {task : Task} {next : ModbusRun κ × List ModbusEvent}
    (transition : s.Transition calls dead task next) :
    (∃ input, task.step s.task input =
        some (next.1.task, next.2.filterMap ModbusEvent.ofTask)) ∨
      next.1.task = s.task ∧ next.2.filterMap ModbusEvent.ofTask = [] := by
  cases transition with
  | task notAnswer reacted =>
    rw [ofTask_advance s s.reader rfl]
    exact .inl ⟨_, reacted⟩
  | connect network reacted =>
    rw [ofTask_advance s _ rfl]
    exact .inl ⟨_, reacted⟩
  | read answered reacted =>
    rw [ofTask_advance s _ rfl]
    exact .inl ⟨_, reacted⟩
  | drift context held inherits =>
    exact .inr (Prod.ext_iff.mp (ofTask_advance s _ rfl (s.task, [])))

/-- The task of a Modbus run runs as it would with any reader. -/
theorem task_of_reaches
    (reaches : (ModbusRun.machine calls dead c internalMetrics line slaveId).Reaches s history) :
    (modbusTask c internalMetrics).machine.Reaches s.task
      (history.filterMap ModbusEvent.ofTask) :=
  reaches.part ModbusRun.task ModbusEvent.ofTask rfl fun stepped =>
    task_of_transition (ModbusRun.transition_of_step stepped)

/-! ## The reads of a Modbus run -/

/-- Every read that has returned was a read of the collector's metrics. -/
structure ReadsOwn (calls : ContextCalls κ) (c : CollectorConfig) (s : ModbusRun κ)
    (history : List ModbusEvent) : Prop where
  metrics : s.reader.metrics = c.metrics
  reads : ∀ results isConnected, .task (.readDone results isConnected) ∈ history →
    ∃ client : ModbusMetricReader κ, client.metrics = c.metrics ∧
      ((ModbusMetricReader.read calls).run client).1 = results

theorem ReadsOwn.advance (inv : ReadsOwn calls c s history) {reader : ModbusMetricReader κ}
    (same : reader.metrics = c.metrics) {polls : List ModbusEvent}
    (silent : ∀ event, .task event ∉ polls) {reaction : State × List Event}
    (reads : ∀ results isConnected, .readDone results isConnected ∈ reaction.2 →
      ∃ client : ModbusMetricReader κ, client.metrics = c.metrics ∧
        ((ModbusMetricReader.read calls).run client).1 = results) :
    ReadsOwn calls c (s.advance dead reader polls reaction).1
      ((s.advance dead reader polls reaction).2.reverse ++ history) where
  metrics := by
    simp only [ModbusRun.advance]
    split
    · exact same
    · exact same
  reads results isConnected mem := by
    rcases List.mem_append.mp mem with now | earlier
    · exact reads results isConnected (mem_of_advance silent (List.mem_reverse.mp now))
    · exact inv.reads results isConnected earlier

theorem connect_metrics (reader : ModbusMetricReader κ) (network : Network κ) :
    (reader.connect network).2.metrics = reader.metrics := by
  unfold ModbusMetricReader.connect
  dsimp only
  split <;> split <;> rfl

theorem readsOwn_of_transition (inv : ReadsOwn calls c s history) {task : Task}
    {next : ModbusRun κ × List ModbusEvent} (transition : s.Transition calls dead task next) :
    ReadsOwn calls c next.1 (next.2.reverse ++ history) := by
  cases transition with
  | task notAnswer reacted =>
    refine inv.advance inv.metrics (by simp) fun results isConnected mem => ?_
    obtain ⟨elapsed, rfl⟩ := input_of_readDone reacted mem
    exact absurd rfl notAnswer
  | connect network reacted =>
    refine inv.advance ((connect_metrics s.reader network).trans inv.metrics) (by simp)
      fun results isConnected mem => ?_
    obtain ⟨elapsed, isRead⟩ := input_of_readDone reacted mem
    cases isRead
  | read answered reacted =>
    have same := (ModbusMetricReader.read_requests calls s.reader).2
    rw [answered] at same
    refine inv.advance (same.trans inv.metrics) (by simp) fun results isConnected mem => ?_
    -- The results are those that the reader has just returned.
    obtain ⟨elapsed, isRead⟩ := input_of_readDone reacted mem
    cases isRead
    exact ⟨s.reader, inv.metrics, congrArg Prod.fst answered⟩
  | drift context held inherits =>
    have same : { s.reader with context := some context }.metrics = c.metrics := inv.metrics
    exact inv.advance same (by simp) (by simp)

theorem readsOwn_of_reaches
    (reaches : (ModbusRun.machine calls dead c internalMetrics line slaveId).Reaches s history) :
    ReadsOwn calls c s history :=
  reaches.invariant (ReadsOwn calls c) ⟨rfl, by simp⟩ fun _ inv stepped =>
    readsOwn_of_transition inv (ModbusRun.transition_of_step stepped)

/-! ## Errors within requests -/

/-- The names of the metrics, each once. -/
def metricNames (metrics : List MetricConfig) : List String := (metrics.map (·.name)).dedup

/-- Between the cycles of every run on every device, no more errors have been counted than
requests. -/
def ErrorsWithinRequests (c : CollectorConfig) (line : Line) (slaveId : UInt8) : Prop :=
  ∀ (κ : Type) (calls : ContextCalls κ) (dead : κ → Bool) (internalMetrics : Bool)
    (s : ModbusRun κ) (history : List ModbusEvent),
    (ModbusRun.machine calls dead c internalMetrics line slaveId).Reaches s history →
      ¬ s.task.location.InCycle → s.task.polls.readErrors ≤ s.task.polls.readRequests

/-- At most one failure is counted for each result. -/
theorem failures_le_length (metrics : List MetricConfig) (results : ReadResults)
    (isConnected : Bool) :
    Event.failures metrics (.readDone results isConnected) ≤ results.metrics.pairs.length := by
  simp only [Event.failures]
  split
  · exact List.countP_le_length
  · cases some_failure : results.metrics.pairs.any (isFailure metrics) with
    | false => exact Nat.zero_le _
    | true =>
      obtain ⟨pair, mem, -⟩ := List.any_eq_true.mp some_failure
      exact List.length_pos_of_mem mem

/-- Where a batch needs a call for each metric, no read has more failures than calls. -/
theorem errors_le_requests (enough : (metricNames c.metrics).length ≤ fewestRequests c.metrics)
    (reaches : (ModbusRun.machine calls dead c internalMetrics line slaveId).Reaches s history) :
    s.task.polls.readErrors ≤ s.task.polls.readRequests := by
  have task := task_of_reaches reaches
  cases internal : internalMetrics with
  | false =>
    have none := stats_of_reaches internal task
    rw [State.polls, none]
    exact Nat.le_refl _
  | true =>
    have counts := countsReads_of_reaches internal task
    rw [counts.errors, counts.requests]
    refine List.sum_le_sum fun event mem => ?_
    cases event with
    | readDone results isConnected =>
      obtain ⟨event, inHistory, own⟩ := List.mem_filterMap.mp mem
      obtain rfl : event = .task (.readDone results isConnected) := by
        cases event <;> simp [ModbusEvent.ofTask] at own
        rw [own]
      obtain ⟨client, same, rfl⟩ := (readsOwn_of_reaches reaches).reads _ _ inHistory
      calc Event.failures c.metrics (.readDone _ isConnected)
          ≤ _ := failures_le_length c.metrics _ isConnected
        _ = (metricNames c.metrics).length := by
          rw [ModbusMetricReader.read_length, same, metricNames]
        _ ≤ fewestRequests c.metrics := enough
        _ ≤ _ := by
          rw [← same]
          exact (ModbusMetricReader.read_requests calls client).1
    | _ => exact Nat.le_refl _

/-! ## A silent device -/

/-- A network on which every connection is opened. -/
def openNetwork : Network Unit where
  lookupHost endpoint := .ok [endpoint]
  connectSlave _ _ := .ok ()
  attachSerial _ _ := .ok ()

theorem establish_openNetwork (line : Line) (slaveId : UInt8) :
    line.establish openNetwork slaveId = .ok () := by
  cases line <;> rfl

/-- After a read its cycle is over, and its totals have been counted. -/
theorem readReturned_counts {task : Task} (internal : task.internalMetrics = true) {s : State}
    (at_read : s.location = .reading) (results : ReadResults) (isConnected : Bool)
    (elapsed : Duration) :
    ¬ (task.readReturned s results isConnected elapsed).1.location.InCycle ∧
      (task.readReturned s results isConnected elapsed).1.polls.readRequests =
        s.polls.readRequests + results.ioCount ∧
      (task.readReturned s results isConnected elapsed).1.polls.readErrors =
        s.polls.readErrors +
          Event.failures task.collector.metrics (.readDone results isConnected) := by
  have transition : Transition task s _ _ :=
    transition_readReturned at_read results isConnected elapsed
  obtain ⟨requests, errors⟩ := transition.countsReads internal
  rw [requests, errors]
  unfold Task.readReturned
  dsimp only
  split
  · simp [State.enterReconnect, Location.InCycle, Event.requests, Event.failures]
  · simp only [Task.completeCycle, State.sleepOr]
    split <;> simp [Location.InCycle, Event.requests, Event.failures]

/-- If all results are errors of configured metrics, a connected task counts each. -/
theorem failures_of_errors {metrics : List MetricConfig} {results : ReadResults}
    (failed : ∀ pair ∈ results.metrics.pairs, pair.2.toOption = none ∧
      ∃ m ∈ metrics, m.name = pair.1) :
    Event.failures metrics (.readDone results true) = results.metrics.pairs.length := by
  simp only [Event.failures, if_true]
  rw [List.countP_eq_length]
  intro pair mem
  obtain ⟨isError, m, configured, named⟩ := failed pair mem
  obtain ⟨name, result⟩ := pair
  cases result with
  | ok value => simp [Except.toOption] at isError
  | error e =>
    have found : (findMetric metrics name).isSome := by
      rw [findMetric, List.find?_isSome]
      exact ⟨m, configured, by simpa using named⟩
    exact found

/-- One cycle on a silent device. -/
theorem exists_silent_cycle (valid : ∀ m ∈ c.metrics, ModbusMetricValid m) (line : Line)
    (slaveId : UInt8) :
    ∃ s history,
      (ModbusRun.machine silent (fun _ : Unit => false) c true line slaveId).Reaches s history ∧
        ¬ s.task.location.InCycle ∧ s.task.polls.readRequests = fewestRequests c.metrics ∧
          s.task.polls.readErrors = (metricNames c.metrics).length := by
  let machine := ModbusRun.machine silent (fun _ : Unit => false) c true line slaveId
  let reader : ModbusMetricReader Unit := ⟨line, slaveId, some (), c.metrics⟩
  let start : ModbusRun Unit :=
    ⟨{ Task.initial with location := .cycleStart, backoff := initialBackoff }, reader⟩
  let reading : ModbusRun Unit :=
    ⟨{ start.task.countPoll (modbusTask c true) with location := .reading }, reader⟩
  have connected : machine.step machine.init (.connect openNetwork) =
      some (start, [.task (.connect true)]) := by
    have opened : machine.init.reader.connect openNetwork = (.ok (), reader) :=
      ModbusMetricReader.connect_ok (establish_openNetwork line slaveId)
    show (Task.step _ _ (.connected (machine.init.reader.connect openNetwork).1)).map _ = _
    rw [opened]
    rfl
  have started : machine.step start (.task .proceed) = some (reading, [.task .read]) := rfl
  have reaches := (Machine.Reaches.init.next _ connected).next _ started
  -- The device is silent, so every metric has an error and the fewest calls are made.
  obtain ⟨ioCount, held, failed⟩ :=
    ModbusMetricReader.read_silent (rfl : Connected reader) valid
  have length := ModbusMetricReader.read_length silent reader
  have failures := failures_of_errors failed
  generalize answered : (ModbusMetricReader.read silent).run reader = answer at *
  have stepped : machine.step reading (.read 0) =
      some (reading.advance (fun _ => false) answer.2 [.polled false]
        ((modbusTask c true).readReturned reading.task answer.1 true 0)) := by
    have reacts : machine.step reading (.read 0) =
        ((modbusTask c true).step reading.task
          (.readDone answer.1 answer.2.isConnected 0)).map
            (reading.advance (fun _ => false) answer.2 [.polled false]) := by
      rw [← answered]
      rfl
    rw [reacts, held]
    rfl
  obtain ⟨idle, requests, errors⟩ := @readReturned_counts (modbusTask c true) rfl reading.task rfl
    answer.1 true 0
  refine ⟨_, _, reaches.next _ stepped, idle, ?_, ?_⟩
  · exact requests.trans (by rw [ioCount]; exact Nat.zero_add _)
  · refine errors.trans ?_
    rw [show (modbusTask c true).collector.metrics = c.metrics from rfl, failures, length]
    exact Nat.zero_add _

/-- **The errors stay within the requests** on every device and in every run exactly if a batch
whose ranges are all read makes a call for each name of a metric. -/
theorem errorsWithinRequests_iff (validated : c.Validated)
    (isModbus : c.protocol.isModbus = true) (line : Line) (slaveId : UInt8) :
    ErrorsWithinRequests c line slaveId ↔
      (metricNames c.metrics).length ≤ fewestRequests c.metrics := by
  constructor
  · intro within
    obtain ⟨s, history, reaches, idle, requests, errors⟩ :=
      exists_silent_cycle (fun m mem => validated.modbusMetric isModbus mem) line slaveId
    have bound := within Unit silent _ true s history reaches idle
    rwa [requests, errors] at bound
  · intro enough κ calls dead internalMetrics s history reaches _
    exact errors_le_requests enough reaches

/-- Where no two metrics share a range, the errors stay within the requests. -/
theorem errorsWithinRequests_of_alone (validated : c.Validated)
    (isModbus : c.protocol.isModbus = true)
    (alone : ∀ registerType, RegisterType.IsRegister registerType →
      ∀ group ∈ readGroups registerType c.metrics, group.length ≤ 1)
    (line : Line) (slaveId : UInt8) : ErrorsWithinRequests c line slaveId := by
  intro κ calls dead internalMetrics s history reaches _
  refine errors_le_requests ?_ reaches
  calc (metricNames c.metrics).length
      ≤ (c.metrics.map (·.name)).length := (List.dedup_sublist _).length_le
    _ = c.metrics.length := List.length_map _
    _ ≤ fewestRequests c.metrics :=
      length_le_fewestRequests (fun m mem => validated.modbusMetric isModbus mem) alone

/-- Two metrics in adjacent registers, which are read with one call. -/
def adjacent : CollectorConfig :=
  Samples.plc [Samples.wordMetric "energy" 0, Samples.wordMetric "power" 2]

theorem adjacent_validated : adjacent.Validated := Samples.validated_of_configOf (by decide)

/-- A call that is answered with an empty buffer counts as two errors. -/
theorem errors_exceed_requests :
    adjacent.Validated ∧ ¬ ErrorsWithinRequests adjacent (.tcp "10.0.0.5:502") 1 := by
  refine ⟨adjacent_validated, fun within => ?_⟩
  obtain ⟨s, history, reaches, idle, requests, errors⟩ :=
    exists_silent_cycle (fun m mem => adjacent_validated.modbusMetric rfl mem)
      (.tcp "10.0.0.5:502") 1
  have bound := within Unit silent _ true s history reaches idle
  have one : fewestRequests adjacent.metrics = 1 := by decide +kernel
  have two : (metricNames adjacent.metrics).length = 2 := by decide
  rw [requests, errors, one, two] at bound
  exact absurd bound (by decide)

theorem errorsWithinRequests_iff_adjacent :
    ErrorsWithinRequests adjacent (.tcp "10.0.0.5:502") 1 ↔
      (metricNames adjacent.metrics).length ≤ fewestRequests adjacent.metrics :=
  errorsWithinRequests_iff adjacent_validated rfl _ _

end BusExporter.Collector
