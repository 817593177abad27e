import BusExporter.Collector.Machine

/-!
# What one step can do

Every reaction of a collector task, as a relation between the states before and
after it and the events it emits. Invariants of runs are proved by cases on it,
and no proof unfolds the step function again.
-/

namespace BusExporter.Collector

open Foundation Metrics

/-! ## Updates of the internal metrics leave the rest alone -/

namespace State

variable (task : Task) (s : State) (update : CollectorStats → CollectorStats)

@[simp]
theorem updateStats_location : (s.updateStats task update).location = s.location := rfl

@[simp]
theorem updateStats_shutdown : (s.updateStats task update).shutdown = s.shutdown := rfl

@[simp]
theorem updateStats_changed : (s.updateStats task update).changed = s.changed := rfl

@[simp]
theorem updateStats_backoff : (s.updateStats task update).backoff = s.backoff := rfl

@[simp]
theorem updateStats_prevCache : (s.updateStats task update).prevCache = s.prevCache := rfl

@[simp]
theorem updateStats_errorCounts : (s.updateStats task update).errorCounts = s.errorCounts := rfl

@[simp]
theorem updateStats_prePollConsecutiveFailures :
    (s.updateStats task update).prePollConsecutiveFailures = s.prePollConsecutiveFailures := rfl

end State

/-! ## Transitions -/

/-- Where a task goes on after a successful connect. -/
def Task.afterConnect (task : Task) (writing : Location) : Location :=
  if task.executes .initWrites then writing else .cycleStart

/-- The results of a read, processed in a state. -/
def Task.reading (task : Task) (s : State) (results : ReadResults)
    (isConnected : Bool) : Reading :=
  readLoop task.collector.metrics isConnected (Reading.start s.errorCounts)
    results.metrics.pairs

/-- The state after a read's results are processed. -/
def Task.readState (task : Task) (s : State) (results : ReadResults)
    (isConnected : Bool) : State :=
  let reading := task.reading s results isConnected
  { s with errorCounts := reading.errorCounts }.countReads task results.ioCount reading.readErrors

/-- The cache that a completed cycle publishes and keeps. -/
def Task.snapshot (task : Task) (s : State) (results : ReadResults)
    (isConnected : Bool) : Cache :=
  let reading := task.reading s results isConnected
  mergeSnapshot reading.localCache s.prevCache reading.errorCounts

/-- The state of a completed cycle, on its way to a location. -/
def Task.completed (task : Task) (s : State) (results : ReadResults)
    (isConnected : Bool) (elapsed : Duration) (location : Location) : State :=
  { (task.readState s results isConnected).recordPoll task
      (task.reading s results isConnected).pollHadError elapsed with
    location := location
    backoff := initialBackoff
    prevCache := task.snapshot s results isConnected }

/-- The state after a failure of `pre_poll`, on its way to a location. -/
def Task.failedPrePoll (task : Task) (s : State) (elapsed : Duration) (location : Location) :
    State :=
  { { s with
      prePollConsecutiveFailures := s.prePollConsecutiveFailures + 1 }.recordPollError task
        elapsed with
    location := location }

section Fields

variable (task : Task) (s : State) (results : ReadResults) (isConnected : Bool)
  (elapsed : Duration) (location : Location)

@[simp]
theorem Task.completed_location :
    (task.completed s results isConnected elapsed location).location = location := rfl

@[simp]
theorem Task.completed_shutdown :
    (task.completed s results isConnected elapsed location).shutdown = s.shutdown := rfl

@[simp]
theorem Task.readState_shutdown :
    (task.readState s results isConnected).shutdown = s.shutdown := rfl

@[simp]
theorem Task.failedPrePoll_location :
    (task.failedPrePoll s elapsed location).location = location := rfl

@[simp]
theorem Task.failedPrePoll_shutdown :
    (task.failedPrePoll s elapsed location).shutdown = s.shutdown := rfl

end Fields

/-- One step of a collector task. -/
inductive Transition (task : Task) (s : State) : State → List Event → Prop
  | signal : Transition task s { s with shutdown := true, changed := true } [.signal]
  | close : Transition task s { s with changed := true } []
  | connected : s.location = .connecting →
    Transition task s
      { s with location := task.afterConnect .initWriting, backoff := initialBackoff }
      [.connect true]
  | connectFailed : s.location = .connecting →
    Transition task s { s with location := .initialWait false }
      [.connect false, .backoff s.backoff]
  | initWriteFailed : s.location = .initWriting →
    Transition task s { s with location := .initialWait true }
      [.executeWrites .initWrites false, .disconnect, .backoff s.backoff]
  | initialWaited (disconnected : Bool) : s.location = .initialWait disconnected →
    Transition task s { s with location := .connecting, backoff := nextBackoff s.backoff } []
  | leftDisconnected : s.location = .initialWait true → s.changed = true →
    Transition task s { s with location := .returned } [.returned]
  | left : (s.location = .initialWait false ∨ s.location = .reconnectWait ∨
      s.location = .sleeping) → s.changed = true →
    Transition task s { s with location := .returned } [.disconnect, .returned]
  | written : (s.location = .initWriting ∨ s.location = .reconnectWriting) →
    Transition task s { s with location := .cycleStart } [.executeWrites .initWrites true]
  | leftAtStart : s.location = .cycleStart → s.shutdown = true →
    Transition task s { s.countPoll task with location := .returned } [.disconnect, .returned]
  | prePollStarted : s.location = .cycleStart → s.shutdown = false →
    task.executes .prePoll = true →
    Transition task s { s.countPoll task with location := .prePolling } []
  | readStarted : s.location = .cycleStart → s.shutdown = false →
    task.executes .prePoll = false →
    Transition task s { s.countPoll task with location := .reading } [.read]
  | prePolled : s.location = .prePolling →
    Transition task s { s with location := .reading, prePollConsecutiveFailures := 0 }
      [.executeWrites .prePoll true, .read]
  | escalated (elapsed : Duration) : s.location = .prePolling →
    3 ≤ s.prePollConsecutiveFailures + 1 →
    Transition task s (task.failedPrePoll s elapsed .reconnectWait)
      [.executeWrites .prePoll false, .disconnect, .backoff s.backoff]
  | skippedEarly (elapsed rest : Duration) : s.location = .prePolling →
    s.prePollConsecutiveFailures + 1 < 3 →
    Transition task s (task.failedPrePoll s elapsed .sleeping)
      [.executeWrites .prePoll false, .sleep rest]
  | skippedLate (elapsed : Duration) : s.location = .prePolling →
    s.prePollConsecutiveFailures + 1 < 3 →
    Transition task s (task.failedPrePoll s elapsed .cycleStart)
      [.executeWrites .prePoll false]
  | lost (results : ReadResults) (isConnected : Bool)
      (elapsed : Duration) : s.location = .reading →
    (task.reading s results isConnected).connectionError = true →
    Transition task s
      { (task.readState s results isConnected).recordPollError task elapsed with
        location := .reconnectWait }
      [.readDone results isConnected, .disconnect, .backoff s.backoff]
  | completedEarly (results : ReadResults) (isConnected : Bool)
      (elapsed rest : Duration) : s.location = .reading →
    (task.reading s results isConnected).connectionError = false →
    Transition task s (task.completed s results isConnected elapsed .sleeping)
      [.readDone results isConnected, .publish (task.snapshot s results isConnected).values,
        .sleep rest]
  | completedLate (results : ReadResults) (isConnected : Bool)
      (elapsed : Duration) : s.location = .reading →
    (task.reading s results isConnected).connectionError = false →
    Transition task s (task.completed s results isConnected elapsed .overrun)
      [.readDone results isConnected, .publish (task.snapshot s results isConnected).values]
  | reconnectWaited : s.location = .reconnectWait →
    Transition task s { s with location := .reconnecting, backoff := nextBackoff s.backoff } []
  | reconnected : s.location = .reconnecting →
    Transition task s
      { s with
        location := task.afterConnect .reconnectWriting
        backoff := initialBackoff
        prePollConsecutiveFailures := 0 }
      [.connect true]
  | reconnectFailed : s.location = .reconnecting →
    Transition task s { s with location := .reconnectWait }
      [.connect false, .disconnect, .backoff s.backoff]
  | rewriteFailed : s.location = .reconnectWriting →
    Transition task s { s with location := .reconnectWait }
      [.executeWrites .initWrites false, .disconnect, .backoff s.backoff]
  | slept : s.location = .sleeping ∨ s.location = .overrun ∧ s.shutdown = false →
    Transition task s { s with location := .cycleStart } []
  | leftLate : s.location = .overrun → s.shutdown = true →
    Transition task s { s with location := .returned } [.disconnect, .returned]

section Steps

variable {task : Task} {s : State}

theorem transition_startCycle (at_start : s.location = .cycleStart) :
    Transition task s (task.startCycle s).1 (task.startCycle s).2 := by
  unfold Task.startCycle
  cases shutdown : s.shutdown with
  | true =>
    rw [if_pos (by exact shutdown)]
    exact .leftAtStart at_start shutdown
  | false =>
    rw [if_neg (by simp [State.countPoll, shutdown])]
    cases executes : task.executes .prePoll with
    | true => exact .prePollStarted at_start shutdown executes
    | false => exact .readStarted at_start shutdown executes

theorem transition_prePollFailed (at_prePoll : s.location = .prePolling) (elapsed : Duration) :
    Transition task s (task.prePollFailed s elapsed).1 (task.prePollFailed s elapsed).2 := by
  unfold Task.prePollFailed
  by_cases third : s.prePollConsecutiveFailures + 1 ≥ 3
  · simp only [if_pos third]
    exact .escalated elapsed at_prePoll third
  · simp only [if_neg third, State.sleepOr]
    split
    · exact .skippedEarly elapsed _ at_prePoll (Nat.lt_of_not_le third)
    · exact .skippedLate elapsed at_prePoll (Nat.lt_of_not_le third)

theorem transition_readReturned (at_read : s.location = .reading)
    (results : ReadResults) (isConnected : Bool)
    (elapsed : Duration) :
    Transition task s (task.readReturned s results isConnected elapsed).1
      (task.readReturned s results isConnected elapsed).2 := by
  unfold Task.readReturned
  cases gone : (task.reading s results isConnected).connectionError with
  | true =>
    rw [Task.reading] at gone
    simp only [gone, if_true]
    exact .lost results isConnected elapsed at_read gone
  | false =>
    rw [Task.reading] at gone
    simp only [gone, Bool.false_eq_true, if_false, Task.completeCycle, State.sleepOr]
    split
    · exact .completedEarly results isConnected elapsed _ at_read gone
    · exact .completedLate results isConnected elapsed at_read gone

/-- A reaction to an input is one of the steps. -/
theorem transition_of_step {s' : State} {input : Input} {events : List Event}
    (stepped : task.step s input = some (s', events)) : Transition task s s' events := by
  unfold Task.step at stepped
  -- The location decides which inputs can come at all.
  cases input with
  | signal =>
    cases stepped
    exact .signal
  | close =>
    cases stepped
    exact .close
  | connected result =>
    cases result <;> cases at_location : s.location <;> rw [at_location] at stepped <;>
      cases stepped
    · exact .connectFailed at_location
    · exact .reconnectFailed at_location
    · exact .connected at_location
    · exact .reconnected at_location
  | wrote result elapsed =>
    cases result <;> cases at_location : s.location <;> rw [at_location] at stepped <;>
      cases stepped
    · exact .initWriteFailed at_location
    · exact transition_prePollFailed at_location elapsed
    · exact .rewriteFailed at_location
    · exact .written (.inl at_location)
    · exact .prePolled at_location
    · exact .written (.inr at_location)
  | readDone results isConnected elapsed =>
    cases at_location : s.location <;> rw [at_location] at stepped <;> cases stepped
    exact transition_readReturned at_location results isConnected elapsed
  | elapsed =>
    cases at_location : s.location <;> rw [at_location] at stepped <;> cases stepped
    · exact .initialWaited _ at_location
    · exact .reconnectWaited at_location
    · exact .slept (.inl at_location)
  | changed =>
    cases at_location : s.location <;> rw [at_location] at stepped <;>
      simp only [reduceCtorEq, Option.ite_none_right_eq_some] at stepped
    · obtain ⟨changed, stepped⟩ := stepped
      rename_i disconnected
      cases disconnected <;> cases stepped
      · exact .left (.inl at_location) changed
      · exact .leftDisconnected at_location changed
    · obtain ⟨changed, stepped⟩ := stepped
      cases stepped
      exact .left (.inr (.inl at_location)) changed
    · obtain ⟨changed, stepped⟩ := stepped
      cases stepped
      exact .left (.inr (.inr at_location)) changed
  | proceed =>
    cases at_location : s.location <;> rw [at_location] at stepped <;>
      simp only [reduceCtorEq] at stepped
    · have started : Transition task s (task.startCycle s).1 (task.startCycle s).2 :=
        transition_startCycle at_location
      rwa [Option.some_inj.mp stepped] at started
    · split at stepped <;> rename_i shutdown <;> cases stepped
      · exact .leftLate at_location shutdown
      · exact .slept (.inr ⟨at_location, by simpa using shutdown⟩)

end Steps

end BusExporter.Collector
