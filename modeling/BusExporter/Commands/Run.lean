import BusExporter.Collector.Published
import BusExporter.Collector.Shutdown
import BusExporter.Config.Accepted
import BusExporter.Reader.Factory

/-!
# The daemon

`run_command` from its start to its end: a task for each collector, the OTLP
exporter, and the main task with its shutdown sequence. Each is a sequence of steps
of its own, and a run takes them in any order. The tasks share the store, the
cancellation token and the shutdown channel.

The main task cancels the exporters before it signals the collectors. The OTLP
exporter may be switched off, and it returns at once if its provider cannot be built.
A collector's task may panic, in a reader or a writer; its handle is joined all the
same. The other exporters and the internal metrics are left out; neither changes the
store.
-/

namespace BusExporter.RunCommand

open Foundation Metrics Collector

/-! ## The collectors -/

/-- The task that `CollectorEngine::spawn` starts for a collector; none if its reader or its
writer cannot be created. -/
def spawnTask (opened openedForWriter : CollectorConfig → Except Error Unit)
    (collector : CollectorConfig) : Except Panic (Option Task) := do
  match ← Factory.create (opened collector) collector with
  | .error _ => return none
  | .ok _ =>
    match ← Factory.createWriter (openedForWriter collector) collector with
    | .error _ => return none
    | .ok writer => return some ⟨collector, writer.isSome, true⟩

/-- `CollectorEngine::spawn`. -/
def spawn (opened openedForWriter : CollectorConfig → Except Error Unit) :
    List CollectorConfig → Except Panic (List Task)
  | [] => return []
  | collector :: collectors => do
    let task ← spawnTask opened openedForWriter collector
    let tasks ← spawn opened openedForWriter collectors
    return task.toList ++ tasks

/-- A configuration that was loaded, with the tasks of its collectors. -/
structure Daemon where
  config : Config
  tasks : List Task
  validated : config.validate = .ok ()
  spawned : ∃ opened openedForWriter, spawn opened openedForWriter config.collectors = .ok tasks

/-- The OTLP exporter is enabled. -/
def Daemon.exports (daemon : Daemon) : Bool := daemon.config.exporters.otlp.any (·.enabled)

/-! ## The state -/

/-- A collector's task and its state, the last one if it has panicked. -/
structure Running where
  task : Task
  state : Collector.State
  panicked : Bool

/-- The task's handle can be joined. -/
def Running.Ended (c : Running) : Prop := c.panicked = true ∨ c.state.location = .returned

instance (c : Running) : Decidable c.Ended := inferInstanceAs (Decidable (_ ∨ _))

/-- Where `run_command` is. -/
inductive MainLocation where
  /-- Waiting for SIGINT or SIGTERM. -/
  | serving
  /-- The exporters are cancelled. -/
  | cancelled
  /-- The collectors are told to shut down, and waited for. -/
  | joining
  /-- Waiting for the exporters. -/
  | awaiting
  | complete
  deriving DecidableEq

/-- Where the OTLP exporter is. -/
inductive ExporterLocation where
  /-- There is none, or it has returned without a provider. -/
  | absent
  /-- Spawned, and about to build its provider. -/
  | starting
  /-- In the `select!` of its loop. -/
  | waiting
  /-- Out of the loop, before its final snapshot. -/
  | flushing
  | stopped
  deriving DecidableEq

/-- There is no handle of the exporter, or it can be joined. -/
def ExporterLocation.ended : ExporterLocation → Bool
  | absent | stopped => true
  | _ => false

structure State where
  collectors : List Running
  store : MetricStore
  main : MainLocation
  cancelled : Bool
  exporter : ExporterLocation
  /-- The values that the instruments report. -/
  sharedMetrics : List MetricValue

inductive Input where
  /-- What a collector's task waits for. -/
  | collector (index : ℕ) (input : Collector.Input)
  /-- A collector's task panics. -/
  | panic (index : ℕ)
  /-- SIGINT or SIGTERM arrives, and the exporters are cancelled. -/
  | interrupt
  /-- The collectors are told to shut down. -/
  | shutdown
  /-- The handles of all collectors are joined. -/
  | joined
  /-- The shutdown timeout has elapsed. -/
  | timeout
  /-- The exporters have returned. -/
  | finish
  /-- `build_meter_provider` succeeds or fails. -/
  | provider (built : Bool)
  /-- The exporter's interval has elapsed. -/
  | tick
  /-- The exporter sees that it is cancelled. -/
  | stop
  /-- The exporter takes its final snapshot and shuts its provider down. -/
  | flush

inductive Event where
  | collector (index : ℕ) (event : Collector.Event)
  | cancel
  | timedOut
  /-- The exporter has its provider. -/
  | started
  /-- The values of an interval. -/
  | update (values : List MetricValue)
  /-- The values of the final flush. -/
  | flush (values : List MetricValue)
  deriving DecidableEq

namespace State

variable (daemon : Daemon) (s : State)

/-- What an event of a collector does to the store. -/
def storeAfter (task : Task) (store : MetricStore) : Collector.Event → MetricStore
  | .publish metrics =>
    store.publish task.collector.name metrics (labelsOf daemon.config.globalLabels)
      (labelsOf task.collector.labels)
  | _ => store

/-- A collector's task goes on. -/
def collectorStep (index : ℕ) (input : Collector.Input) : Option (State × List Event) := do
  let c ← s.collectors[index]?
  guard (¬ c.panicked)
  let (next, events) ← c.task.step c.state input
  return ({ s with
    collectors := s.collectors.set index { c with state := next }
    store := events.foldl (storeAfter daemon c.task) s.store }, events.map (.collector index))

/-- A collector's task ends with a panic. -/
def panic (index : ℕ) : Option (State × List Event) := do
  let c ← s.collectors[index]?
  guard (¬ c.Ended)
  return ({ s with collectors := s.collectors.set index { c with panicked := true } }, [])

/-- `shutdown_tx` is dropped at the end of `CollectorEngine::shutdown`. -/
def dropSender : State :=
  { s with
    collectors := s.collectors.map fun c => { c with state := { c.state with changed := true } }
    main := .awaiting }

def step (s : State) (input : Input) : Option (State × List Event) :=
  match input with
  -- Only the main task has the sender of the shutdown channel.
  | .collector _ .signal | .collector _ .close => none
  | .collector index input => s.collectorStep daemon index input
  | .panic index => s.panic index
  | .interrupt =>
    if s.main = .serving then some ({ s with main := .cancelled, cancelled := true }, [.cancel])
    else none
  | .shutdown =>
    if s.main = .cancelled then
      some ({ s with
        collectors := s.collectors.map fun c => { c with state := c.state.signalled }
        main := .joining }, [])
    else none
  | .joined =>
    if s.main = .joining ∧ ∀ c ∈ s.collectors, c.Ended then
      some (s.dropSender, [])
    else none
  -- A collector that has not returned by then runs on without being waited for.
  | .timeout => if s.main = .joining then some (s.dropSender, [.timedOut]) else none
  | .finish =>
    if s.main = .awaiting ∧ s.exporter.ended then some ({ s with main := .complete }, [])
    else none
  | .provider built =>
    if s.exporter = .starting then
      some (if built then ({ s with exporter := .waiting }, [.started])
        else ({ s with exporter := .absent }, []))
    else none
  | .tick =>
    if s.exporter = .waiting then
      let metrics := s.store.allMetricsFlat
      some ({ s with sharedMetrics := metrics }, [.update metrics])
    else none
  | .stop =>
    -- The tick of a cancelled exporter can still win the `select!`.
    if s.exporter = .waiting ∧ s.cancelled then some ({ s with exporter := .flushing }, [])
    else none
  | .flush =>
    if s.exporter = .flushing then
      let metrics := s.store.allMetricsFlat
      some ({ s with sharedMetrics := metrics, exporter := .stopped }, [.flush metrics])
    else none

end State

/-- The state in which all tasks are spawned. -/
def Daemon.initial (daemon : Daemon) : State where
  collectors := daemon.tasks.map (⟨·, Task.initial, false⟩)
  store := ∅
  main := .serving
  cancelled := false
  exporter := if daemon.exports then .starting else .absent
  sharedMetrics := []

/-- `run_command`. -/
def Daemon.machine (daemon : Daemon) : Machine State Input Event :=
  ⟨daemon.initial, State.step daemon⟩

end BusExporter.RunCommand
