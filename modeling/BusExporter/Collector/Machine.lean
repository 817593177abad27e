import BusExporter.Collector.Cycle
import BusExporter.Config.Accepted
import BusExporter.Foundation.Machine

/-!
# The collector task

`run_collector` as a machine. A location is a point where the task waits: for a
call of the reader or the writer, for a timer or the shutdown channel, or, at the
start of a cycle and after a late one, for its own next step, so that a shutdown
can be signalled in between. An input is what the task waits for; it also carries
the clock reading that decides a branch, which stands for the readings next to it.

The cancellation token is left out: it is cancelled only just before the task
returns, so no read ever sees it cancelled.
-/

namespace BusExporter.Collector

open Foundation Metrics

def maxBackoff : Duration := Duration.ofSecs 60

def initialBackoff : Duration := Duration.ofSecs 1

/-- `(backoff * 2).min(MAX_BACKOFF)`. -/
def nextBackoff (backoff : Duration) : Duration := min (backoff * 2) maxBackoff

/-- What a collector task is started with. -/
structure Task where
  collector : CollectorConfig
  /-- Whether there is a writer. -/
  writer : Bool
  /-- Whether internal metrics are collected. -/
  internalMetrics : Bool

/-- The two lists of write steps of a collector. -/
inductive StepList where
  | initWrites
  | prePoll
  deriving DecidableEq, Repr

def StepList.steps (c : CollectorConfig) : StepList → List WriteStep
  | initWrites => c.initWrites
  | prePoll => c.prePoll

/-- A list of write steps is executed when there is a writer and a step. -/
def Task.executes (task : Task) (list : StepList) : Bool :=
  task.writer && !(list.steps task.collector).isEmpty

inductive Location where
  /-- The first connect, and every retry of it. -/
  | connecting
  /-- The `init_writes` after the first connect. -/
  | initWriting
  /-- The back-off of the initial loop, before or after a disconnect. -/
  | initialWait (disconnected : Bool)
  | cycleStart
  | prePolling
  | reading
  | reconnectWait
  | reconnecting
  /-- The `init_writes` after a reconnect. -/
  | reconnectWriting
  | sleeping
  /-- After a cycle that took longer than the interval. -/
  | overrun
  | returned
  deriving DecidableEq, Repr

structure State where
  location : Location
  /-- The value in the shutdown channel. -/
  shutdown : Bool
  /-- Whether `changed()` is ready: a value was sent, or the sender is gone. -/
  changed : Bool
  backoff : Duration
  prevCache : Cache
  errorCounts : ErrorCounts
  prePollConsecutiveFailures : ℕ
  /-- The collector's internal metrics, from its first cycle on. -/
  stats : Option CollectorStats
  deriving DecidableEq

inductive Input where
  /-- `shutdown_tx.send(true)`. -/
  | signal
  /-- The sender is dropped. -/
  | close
  | connected (result : Except Error Unit)
  /-- `execute_writes` returns; the time since the start of the cycle. -/
  | wrote (result : Except Error Unit) (elapsed : Duration)
  /-- `read` returns; whether the reader is connected then, and the time since the start. -/
  | readDone (results : ReadResults) (isConnected : Bool) (elapsed : Duration)
  /-- The timer of a `select!` fires. -/
  | elapsed
  /-- `shutdown_rx.changed()` wins a `select!`. -/
  | changed
  /-- The task runs on. -/
  | proceed

inductive Event where
  | signal
  | connect (ok : Bool)
  | disconnect
  | executeWrites (list : StepList) (ok : Bool)
  /-- `read` is called. -/
  | read
  /-- `read` has returned. -/
  | readDone (results : ReadResults) (isConnected : Bool)
  /-- A wait before a new connection attempt begins. -/
  | backoff (duration : Duration)
  | sleep (duration : Duration)
  /-- A snapshot is handed to the store. -/
  | publish (metrics : List MetricValue)
  | returned
  deriving DecidableEq

namespace State

variable (task : Task) (s : State)

/-- Update the collector's internal metrics, where they are collected. -/
def updateStats (update : CollectorStats → CollectorStats) : State :=
  { s with stats := if task.internalMetrics then some (update (s.stats.getD {})) else s.stats }

/-- Count a cycle that starts. -/
def countPoll : State :=
  s.updateStats task fun stats => { stats with pollsTotal := stats.pollsTotal + 1 }

/-- Count the calls of a read and its failures. -/
def countReads (ioCount readErrors : ℕ) : State :=
  s.updateStats task fun stats =>
    { stats with
      readRequests := stats.readRequests + ioCount
      readErrors := stats.readErrors + readErrors }

/-- The poll duration and the outcome of a completed cycle. -/
def recordPoll (hadError : Bool) (elapsed : Duration) : State :=
  s.updateStats task fun stats =>
    -- A cycle counts as an error also if only one of its metrics failed.
    if hadError then { stats.setPollDuration elapsed with pollsError := stats.pollsError + 1 }
    else { stats.setPollDuration elapsed with pollsSuccess := stats.pollsSuccess + 1 }

/-- The poll duration and the error of a cycle that was not completed. -/
def recordPollError (elapsed : Duration) : State :=
  s.updateStats task fun stats =>
    { stats.setPollDuration elapsed with pollsError := stats.pollsError + 1 }

/-- Wait for the rest of the interval, or go on at once. -/
def sleepOr (elapsed : Duration) (late : Location) : State × List Event :=
  if elapsed < task.collector.pollingInterval then
    ({ s with location := .sleeping }, [.sleep (task.collector.pollingInterval - elapsed)])
  else ({ s with location := late }, [])

/-- The head of the reconnect loop: disconnect and wait. -/
def enterReconnect : State × List Event :=
  ({ s with location := .reconnectWait }, [.disconnect, .backoff s.backoff])

/-- Disconnect and return. -/
def leave : State × List Event :=
  ({ s with location := .returned }, [.disconnect, .returned])

end State

namespace Task

variable (task : Task)

/-- A connect has succeeded: execute `init_writes` next, or start the cycles. -/
def connected (s : State) (writing : Location) : State × List Event :=
  ({ s with
      location := if task.executes .initWrites then writing else .cycleStart
      backoff := initialBackoff }, [.connect true])

/-- The top of the poll loop, up to the first call of the writer or the reader. -/
def startCycle (s : State) : State × List Event :=
  -- A cycle that only finds the shutdown flag set is counted as well.
  let s := s.countPoll task
  if s.shutdown then s.leave
  else if task.executes .prePoll then ({ s with location := .prePolling }, [])
  else ({ s with location := .reading }, [.read])

/-- The third failure of `pre_poll` in a row reconnects, an earlier one skips the cycle. -/
def prePollFailed (s : State) (elapsed : Duration) : State × List Event :=
  let s := { s with prePollConsecutiveFailures := s.prePollConsecutiveFailures + 1 }
  let failed := s.recordPollError task elapsed
  let (s', events) :=
    -- The counter is not reset here, but with the next connect.
    if s.prePollConsecutiveFailures ≥ 3 then failed.enterReconnect
    else failed.sleepOr task elapsed .cycleStart
  (s', .executeWrites .prePoll false :: events)

/-- A completed cycle: publish the snapshot and keep it. -/
def completeCycle (s : State) (reading : Reading) (elapsed : Duration) : State × List Event :=
  let s := s.recordPoll task reading.pollHadError elapsed
  -- What was not read in this cycle keeps its value of the last one.
  let cache := mergeSnapshot reading.localCache s.prevCache s.errorCounts
  let s := { s with backoff := initialBackoff, prevCache := cache }
  let (s', events) := s.sleepOr task elapsed .overrun
  (s', .publish cache.values :: events)

/-- The read has returned: a lost connection reconnects, anything else completes the cycle. -/
def readReturned (s : State) (results : ReadResults) (isConnected : Bool) (elapsed : Duration) :
    State × List Event :=
  let reading := readLoop task.collector.metrics isConnected (Reading.start s.errorCounts)
    results.metrics.pairs
  -- The counts of a cycle that is cut short are kept too.
  let s := { s with errorCounts := reading.errorCounts }
  let s := s.countReads task results.ioCount reading.readErrors
  let (s', events) :=
    if reading.connectionError then (s.recordPollError task elapsed).enterReconnect
    else task.completeCycle s reading elapsed
  (s', .readDone results isConnected :: events)

/-- The task's reaction to an input. -/
def step (s : State) (input : Input) : Option (State × List Event) :=
  match input, s.location with
  -- The channel can change at any time, and no task reacts before it waits.
  | .signal, _ => some ({ s with shutdown := true, changed := true }, [.signal])
  | .close, _ => some ({ s with changed := true }, [])
  | .connected (.ok _), .connecting => some (task.connected s .initWriting)
  | .connected (.error _), .connecting =>
    some ({ s with location := .initialWait false }, [.connect false, .backoff s.backoff])
  | .wrote (.ok _) _, .initWriting =>
    some ({ s with location := .cycleStart }, [.executeWrites .initWrites true])
  | .wrote (.error _) _, .initWriting =>
    some ({ s with location := .initialWait true },
      [.executeWrites .initWrites false, .disconnect, .backoff s.backoff])
  | .elapsed, .initialWait _ =>
    some ({ s with location := .connecting, backoff := nextBackoff s.backoff }, [])
  | .changed, .initialWait disconnected =>
    if s.changed then
      -- After failed `init_writes` the reader is disconnected already.
      if disconnected then some ({ s with location := .returned }, [.returned]) else some s.leave
    else none
  | .proceed, .cycleStart => some (task.startCycle s)
  | .wrote (.ok _) _, .prePolling =>
    some ({ s with location := .reading, prePollConsecutiveFailures := 0 },
      [.executeWrites .prePoll true, .read])
  | .wrote (.error _) elapsed, .prePolling => some (task.prePollFailed s elapsed)
  | .readDone results isConnected elapsed, .reading =>
    some (task.readReturned s results isConnected elapsed)
  | .elapsed, .reconnectWait =>
    some ({ s with location := .reconnecting, backoff := nextBackoff s.backoff }, [])
  | .connected (.ok _), .reconnecting =>
    some (task.connected { s with prePollConsecutiveFailures := 0 } .reconnectWriting)
  | .connected (.error _), .reconnecting =>
    some (s.enterReconnect.1, .connect false :: s.enterReconnect.2)
  | .wrote (.ok _) _, .reconnectWriting =>
    some ({ s with location := .cycleStart }, [.executeWrites .initWrites true])
  | .wrote (.error _) _, .reconnectWriting =>
    some (s.enterReconnect.1, .executeWrites .initWrites false :: s.enterReconnect.2)
  | .elapsed, .sleeping => some ({ s with location := .cycleStart }, [])
  -- A dropped sender ends these waits as a signal does.
  | .changed, .reconnectWait | .changed, .sleeping => if s.changed then some s.leave else none
  | .proceed, .overrun =>
    -- A late cycle looks at the flag itself, and a dropped sender does not count.
    if s.shutdown then some s.leave else some ({ s with location := .cycleStart }, [])
  | _, _ => none

/-- The state in which the task starts. -/
def initial : State where
  location := .connecting
  shutdown := false
  changed := false
  backoff := initialBackoff
  prevCache := ∅
  errorCounts := ∅
  prePollConsecutiveFailures := 0
  stats := none

/-- `run_collector`. -/
def machine : Machine State Input Event := ⟨initial, task.step⟩

end Task

/-- The task of the sample sensor, with its writer. -/
def sensorTask : Task := ⟨Samples.sensor, true, true⟩

end BusExporter.Collector
