import BusExporter.Collector.Ways
import BusExporter.Commands.Run

/-!
# The final flush

The OTLP exporter takes its final snapshot of the store when it is cancelled, and
the main task cancels it before it tells the collectors to shut down. So the
snapshot holds every collector's last values exactly if, at that moment, no
collector can publish any more: each of them has returned or panicked, or it has been
told to shut down and is not in the middle of a cycle.
-/

namespace BusExporter.RunCommand

open Foundation Metrics Collector

/-! ## The tasks of a daemon -/

theorem collector_of_spawnTask {opened openedForWriter : CollectorConfig → Except Error Unit}
    {collector : CollectorConfig} {task : Task}
    (spawned : spawnTask opened openedForWriter collector = .ok (some task)) :
    task.collector = collector := by
  simp only [spawnTask, bind_eq_ok] at spawned
  obtain ⟨reader, -, spawned⟩ := spawned
  cases reader with
  | error e => cases spawned
  | ok _ =>
    rw [bind_eq_ok] at spawned
    obtain ⟨writer, -, spawned⟩ := spawned
    cases writer <;> cases spawned
    rfl

/-- The tasks are those of some of the collectors, in their order. -/
theorem sublist_of_spawn {opened openedForWriter : CollectorConfig → Except Error Unit}
    {collectors : List CollectorConfig} {tasks : List Task}
    (spawned : spawn opened openedForWriter collectors = .ok tasks) :
    (tasks.map (·.collector)).Sublist collectors := by
  induction collectors generalizing tasks with
  | nil =>
    cases spawned
    exact .slnil
  | cons collector collectors ih =>
    simp only [spawn, bind_eq_ok] at spawned
    obtain ⟨task, first, rest, others, spawned⟩ := spawned
    cases spawned
    cases task with
    | none => exact (ih others).cons _
    | some task =>
      rw [Option.toList_some, List.singleton_append, List.map_cons, collector_of_spawnTask first]
      exact (ih others).cons_cons _

/-- The collectors of a loaded configuration have distinct names, and so have its tasks. -/
theorem Daemon.distinct (daemon : Daemon) : (daemon.tasks.map (·.collector.name)).Nodup := by
  obtain ⟨opened, openedForWriter, spawned⟩ := daemon.spawned
  have distinct := ((daemon.config.validate_eq_ok).mp daemon.validated).2.2.1
  have sublist := (sublist_of_spawn spawned).map (·.name)
  rw [List.map_map] at sublist
  exact sublist.nodup distinct

/-- Each name belongs to one task. -/
theorem Daemon.index_eq (daemon : Daemon) {index other : ℕ} {task task' : Task}
    (at_index : daemon.tasks[index]? = some task) (at_other : daemon.tasks[other]? = some task')
    (same : task.collector.name = task'.collector.name) : index = other := by
  have inside : index < (daemon.tasks.map (·.collector.name)).length := by
    rw [List.length_map]
    exact (List.getElem?_eq_some_iff.mp at_index).1
  apply (List.getElem?_inj inside daemon.distinct).mp
  rw [List.getElem?_map, List.getElem?_map, at_index, at_other, Option.map_some, Option.map_some,
    same]

/-! ## The store -/

/-- The snapshot that a collector hands to the store in an event. -/
def publishedBy (index : ℕ) : Event → Option (List MetricValue)
  | .collector i (.publish metrics) => if i = index then some metrics else none
  | _ => none

/-- A collector's last snapshot. -/
def lastPublish (index : ℕ) (history : List Event) : Option (List MetricValue) :=
  history.findSome? (publishedBy index)

/-- What the store makes of a collector's snapshot. -/
def Daemon.merged (daemon : Daemon) (task : Task) (metrics : List MetricValue) :
    List MetricValue :=
  (State.storeAfter daemon task ∅ (.publish metrics)).metricsFor task.collector.name

variable {daemon : Daemon}

/-- The store holds every collector's last snapshot, and nothing else. -/
structure HoldsLatest (daemon : Daemon) (history : List Event) (store : MetricStore) : Prop where
  latest : ∀ (index : ℕ) (task : Task), daemon.tasks[index]? = some task →
    store.lookup task.collector.name = (lastPublish index history).map (daemon.merged task)
  only : ∀ name ∈ store, ∃ task ∈ daemon.tasks, task.collector.name = name

theorem holdsLatest_empty (daemon : Daemon) : HoldsLatest daemon [] ∅ where
  latest _ _ _ := rfl
  only name mem := by simp at mem

/-- An event that publishes nothing. -/
def Event.quiet (event : Event) : Prop := ∀ index, publishedBy index event = none

/-- Events that publish nothing leave the last snapshots as they are. -/
theorem HoldsLatest.append_quiet {history : List Event} {store : MetricStore}
    (holds : HoldsLatest daemon history store) {events : List Event}
    (quiet : ∀ event ∈ events, event.quiet) : HoldsLatest daemon (events ++ history) store where
  latest index task at_index := by
    have unseen : lastPublish index events = none :=
      List.findSome?_eq_none_iff.mpr fun event mem => quiet event mem index
    rw [lastPublish] at unseen
    rw [holds.latest index task at_index, lastPublish, lastPublish, List.findSome?_append, unseen,
      Option.none_or]
  only := holds.only

theorem HoldsLatest.cons_quiet {history : List Event} {store : MetricStore}
    (holds : HoldsLatest daemon history store) {event : Event} (quiet : event.quiet) :
    HoldsLatest daemon (event :: history) store :=
  have appended : HoldsLatest daemon ([event] ++ history) store :=
    holds.append_quiet (by simpa using quiet)
  appended

theorem lookup_storeAfter (daemon : Daemon) (task : Task) (store : MetricStore)
    (metrics : List MetricValue) :
    (State.storeAfter daemon task store (.publish metrics)).lookup task.collector.name =
      some (daemon.merged task metrics) := by
  rw [Daemon.merged, MetricStore.metricsFor, State.storeAfter, State.storeAfter,
    MetricStore.publish, MetricStore.publish, AList.lookup_insert, AList.lookup_insert,
    Option.getD_some]

/-- A collector's event, and what it does to the store. -/
theorem HoldsLatest.collector {history : List Event} {store : MetricStore}
    (holds : HoldsLatest daemon history store) {index : ℕ} {task : Task}
    (at_index : daemon.tasks[index]? = some task) (event : Collector.Event) :
    HoldsLatest daemon (.collector index event :: history)
      (State.storeAfter daemon task store event) := by
  cases event with
  | publish metrics =>
    constructor
    · intro other task' at_other
      -- A snapshot replaces what the store has of its own collector, and only that.
      by_cases same : index = other
      · subst same
        rw [at_index] at at_other
        cases at_other
        rw [lookup_storeAfter]
        simp [lastPublish, publishedBy]
      · -- Two tasks with one name would overwrite each other; validation excludes that.
        have apart : task'.collector.name ≠ task.collector.name :=
          fun sameName => same (daemon.index_eq at_index at_other sameName.symm)
        rw [State.storeAfter, MetricStore.publish, AList.lookup_insert_ne apart,
          holds.latest other task' at_other]
        simp [lastPublish, publishedBy, same]
    · intro name mem
      rcases (AList.mem_insert _).mp mem with rfl | before
      · exact ⟨task, List.mem_of_getElem? at_index, rfl⟩
      · exact holds.only name before
  | _ => exact holds.cons_quiet fun _ => rfl

/-- The events of one step of a collector, and what they do to the store. -/
theorem HoldsLatest.collectorStep {history : List Event} {store : MetricStore}
    (holds : HoldsLatest daemon history store) {index : ℕ} {task : Task}
    (at_index : daemon.tasks[index]? = some task) (events : List Collector.Event) :
    HoldsLatest daemon ((events.map (.collector index)).reverse ++ history)
      (events.foldl (State.storeAfter daemon task) store) := by
  induction events generalizing history store with
  | nil => exact holds
  | cons event events ih =>
    rw [List.map_cons, List.reverse_cons, List.append_assoc]
    exact ih (holds.collector at_index event)

/-! ## What one step can do -/

inductive Transition (daemon : Daemon) (s : State) : State → List Event → Prop
  | collector {index : ℕ} {c : Running} {next : Collector.State}
      {events : List Collector.Event} : s.collectors[index]? = some c → c.panicked = false →
    Collector.Transition c.task c.state next events →
    Transition daemon s
      { s with
        collectors := s.collectors.set index { c with state := next }
        store := events.foldl (State.storeAfter daemon c.task) s.store }
      (events.map (.collector index))
  | panicked {index : ℕ} {c : Running} : s.collectors[index]? = some c → ¬ c.Ended →
    Transition daemon s
      { s with collectors := s.collectors.set index { c with panicked := true } } []
  | interrupt : s.main = .serving →
    Transition daemon s { s with main := .cancelled, cancelled := true } [.cancel]
  | shutdown : s.main = .cancelled →
    Transition daemon s
      { s with
        collectors := s.collectors.map fun c => { c with state := c.state.signalled }
        main := .joining } []
  | joined : s.main = .joining → (∀ c ∈ s.collectors, c.Ended) →
    Transition daemon s s.dropSender []
  | timedOut : s.main = .joining → Transition daemon s s.dropSender [.timedOut]
  | finished : s.main = .awaiting → s.exporter.ended = true →
    Transition daemon s { s with main := .complete } []
  | started : s.exporter = .starting →
    Transition daemon s { s with exporter := .waiting } [.started]
  | unstarted : s.exporter = .starting → Transition daemon s { s with exporter := .absent } []
  | ticked : s.exporter = .waiting →
    Transition daemon s { s with sharedMetrics := s.store.allMetricsFlat }
      [.update s.store.allMetricsFlat]
  | stopped : s.exporter = .waiting → s.cancelled = true →
    Transition daemon s { s with exporter := .flushing } []
  | flushed : s.exporter = .flushing →
    Transition daemon s { s with sharedMetrics := s.store.allMetricsFlat, exporter := .stopped }
      [.flush s.store.allMetricsFlat]

section Steps

variable {s s' : State} {events : List Event}

theorem transition_of_collectorStep {index : ℕ} {input : Collector.Input}
    (stepped : s.collectorStep daemon index input = some (s', events)) :
    Transition daemon s s' events := by
  simp only [State.collectorStep, Option.bind_eq_bind, Option.bind_eq_some_iff] at stepped
  obtain ⟨c, at_index, ⟨⟩, alive, ⟨next, own⟩, ran, stepped⟩ := stepped
  cases stepped
  exact .collector at_index (by simpa using alive) (Collector.transition_of_step ran)

theorem transition_of_panic {index : ℕ} (stepped : s.panic index = some (s', events)) :
    Transition daemon s s' events := by
  simp only [State.panic, Option.bind_eq_bind, Option.bind_eq_some_iff] at stepped
  obtain ⟨c, at_index, ⟨⟩, running, stepped⟩ := stepped
  cases stepped
  exact .panicked at_index (by simpa using running)

/-- A reaction to an input is one of the steps. -/
theorem transition_of_step {input : Input} (stepped : s.step daemon input = some (s', events)) :
    Transition daemon s s' events := by
  unfold State.step at stepped
  cases input with
  | collector index input =>
    cases input with
    | signal | close => cases stepped
    | _ => exact transition_of_collectorStep stepped
  | panic index => exact transition_of_panic stepped
  | interrupt =>
    obtain ⟨at_main, stepped⟩ := Option.ite_none_right_eq_some.mp stepped
    cases stepped
    exact .interrupt at_main
  | shutdown =>
    obtain ⟨at_main, stepped⟩ := Option.ite_none_right_eq_some.mp stepped
    cases stepped
    exact .shutdown at_main
  | joined =>
    obtain ⟨⟨at_main, returned⟩, stepped⟩ := Option.ite_none_right_eq_some.mp stepped
    cases stepped
    exact .joined at_main returned
  | timeout =>
    obtain ⟨at_main, stepped⟩ := Option.ite_none_right_eq_some.mp stepped
    cases stepped
    exact .timedOut at_main
  | finish =>
    obtain ⟨⟨at_main, ended⟩, stepped⟩ := Option.ite_none_right_eq_some.mp stepped
    cases stepped
    exact .finished at_main ended
  | provider built =>
    obtain ⟨starting, stepped⟩ := Option.ite_none_right_eq_some.mp stepped
    cases built with
    | true =>
      cases stepped
      exact .started starting
    | false =>
      cases stepped
      exact .unstarted starting
  | tick =>
    obtain ⟨waiting, stepped⟩ := Option.ite_none_right_eq_some.mp stepped
    cases stepped
    exact .ticked waiting
  | stop =>
    obtain ⟨⟨waiting, cancelled⟩, stepped⟩ := Option.ite_none_right_eq_some.mp stepped
    cases stepped
    exact .stopped waiting cancelled
  | flush =>
    obtain ⟨flushing, stepped⟩ := Option.ite_none_right_eq_some.mp stepped
    cases stepped
    exact .flushed flushing

end Steps

/-! ## Every run -/

/-- What every run keeps. -/
structure DaemonInv (daemon : Daemon) (s : State) (history : List Event) : Prop where
  tasks : ∀ index : ℕ, s.collectors[index]?.map (·.task) = daemon.tasks[index]?
  store : HoldsLatest daemon history s.store
  unflushed : s.exporter ≠ .stopped → ∀ values, .flush values ∉ history
  signalled : s.main = .joining →
    ∀ c ∈ s.collectors, c.state.shutdown = true ∧ c.state.changed = true
  joined : s.main = .awaiting ∨ s.main = .complete →
    .timedOut ∈ history ∨ ∀ c ∈ s.collectors, c.Ended

theorem daemonInv_initial (daemon : Daemon) : DaemonInv daemon daemon.initial [] where
  tasks index := by simp [Daemon.initial, Function.comp_def]
  store := holdsLatest_empty daemon
  unflushed _ _ := List.not_mem_nil
  signalled at_main := by cases at_main
  joined at_main := by rcases at_main with at_main | at_main <;> cases at_main

section Runs

variable {s s' : State} {history events : List Event}

/-- What is known of a collector after another one, or it itself, has gone on. -/
theorem forall_mem_set {collectors : List Running} {index : ℕ} {c c' : Running}
    {good : Running → Prop} (at_index : collectors[index]? = some c) (kept : good c → good c')
    (all : ∀ c ∈ collectors, good c) : ∀ c ∈ collectors.set index c', good c := by
  intro other mem
  rcases List.mem_or_eq_of_mem_set mem with before | rfl
  · exact all other before
  · exact kept (all c (List.mem_of_getElem? at_index))

/-- A collector that goes on keeps its task. -/
theorem tasks_set {collectors : List Running} {index : ℕ} {c : Running}
    (at_index : collectors[index]? = some c) (c' : Running) (same : c'.task = c.task) (other : ℕ) :
    (collectors.set index c')[other]?.map (·.task) = collectors[other]?.map (·.task) := by
  rw [List.getElem?_set]
  by_cases here : index = other
  · subst here
    rw [if_pos rfl, if_pos (List.getElem?_eq_some_iff.mp at_index).1, at_index, Option.map_some,
      Option.map_some, same]
  · rw [if_neg here]

theorem daemonInv_of_transition (inv : DaemonInv daemon s history)
    (transition : Transition daemon s s' events) :
    DaemonInv daemon s' (events.reverse ++ history) := by
  cases transition with
  | collector at_index alive ran =>
    rename_i index c next own
    have task := inv.tasks index
    rw [at_index, Option.map_some] at task
    constructor
    · exact fun other =>
        (tasks_set at_index { c with state := next } rfl other).trans (inv.tasks other)
    · exact inv.store.collectorStep task.symm own
    · intro running values flushed
      rcases List.mem_append.mp flushed with new | old
      · simp at new
      · exact inv.unflushed running values old
    · intro at_main
      exact forall_mem_set at_index
        (fun flags => ⟨ran.flags.1 flags.1, ran.flags.2 flags.2⟩) (inv.signalled at_main)
    · intro at_main
      rcases inv.joined at_main with late | returned
      · exact .inl (List.mem_append_right _ late)
      · refine .inr (forall_mem_set at_index (fun ended => .inr ?_) returned)
        rcases ended with panicked | done
        · simp [alive] at panicked
        · exact (ran.returned done).1
  | panicked at_index running =>
    rename_i index c
    refine ⟨fun other => ?_, inv.store, inv.unflushed, fun at_main => ?_, fun at_main => ?_⟩
    · exact (tasks_set at_index { c with panicked := true } rfl other).trans (inv.tasks other)
    · exact forall_mem_set at_index id (inv.signalled at_main)
    · exact (inv.joined at_main).imp_right (forall_mem_set at_index fun _ => .inl rfl)
  | interrupt at_main =>
    exact ⟨inv.tasks, inv.store.cons_quiet fun _ => rfl, fun running values => by
      simpa using inv.unflushed running values, by simp, by simp⟩
  | shutdown at_main =>
    refine ⟨fun index => ?_, inv.store, inv.unflushed, ?_, by simp⟩
    · rw [← inv.tasks index]
      simp [Function.comp_def]
    · simp [State.signalled]
  | joined at_main returned =>
    refine ⟨fun index => ?_, inv.store, inv.unflushed, by simp [State.dropSender], ?_⟩
    · rw [← inv.tasks index]
      simp [State.dropSender, Function.comp_def]
    · intro _
      right
      simpa [State.dropSender, Running.Ended] using returned
  | timedOut at_main =>
    refine ⟨fun index => ?_, inv.store.cons_quiet fun _ => rfl, fun running values => ?_,
      by simp [State.dropSender], fun _ => .inl (by simp)⟩
    · rw [← inv.tasks index]
      simp [State.dropSender, Function.comp_def]
    · simpa using inv.unflushed running values
  | finished at_main ended =>
    exact ⟨inv.tasks, inv.store, inv.unflushed, by simp, fun _ => inv.joined (.inl at_main)⟩
  | started starting =>
    exact ⟨inv.tasks, inv.store.cons_quiet fun _ => rfl, fun _ values => by
      simpa using inv.unflushed (by simp [starting]) values, inv.signalled, fun at_main => by
        simpa using inv.joined at_main⟩
  | unstarted starting =>
    exact ⟨inv.tasks, inv.store, fun _ => inv.unflushed (by simp [starting]), inv.signalled,
      inv.joined⟩
  | ticked waiting =>
    exact ⟨inv.tasks, inv.store.cons_quiet fun _ => rfl, fun running values => by
      simpa using inv.unflushed running values, inv.signalled, fun at_main => by
        simpa using inv.joined at_main⟩
  | stopped waiting cancelled =>
    exact ⟨inv.tasks, inv.store, fun _ => inv.unflushed (by simp [waiting]), inv.signalled,
      inv.joined⟩
  | flushed flushing =>
    exact ⟨inv.tasks, inv.store.cons_quiet fun _ => rfl, by simp, inv.signalled, fun at_main => by
        simpa using inv.joined at_main⟩

theorem daemonInv_of_reaches (reaches : daemon.machine.Reaches s history) :
    DaemonInv daemon s history :=
  reaches.invariant (DaemonInv daemon) (daemonInv_initial daemon) fun _ inv stepped =>
    daemonInv_of_transition inv (transition_of_step stepped)

/-! ## After the flush -/

/-- A collector hands a snapshot to the store. -/
def Event.isPublish : Event → Bool
  | .collector _ event => event.isPublish
  | _ => false

theorem Event.quiet_of_isPublish {event : Event} (silent : event.isPublish = false) :
    event.quiet := by
  intro index
  cases event with
  | collector i event => cases event <;> first | rfl | cases silent
  | _ => rfl

/-- No collector publishes after the final flush, and the values of the flush are the last
snapshots of all collectors. -/
structure FlushesLast (daemon : Daemon) (history : List Event) : Prop where
  last : Throughout
    (fun event earlier => event.isPublish = true → ∀ values, .flush values ∉ earlier) history
  latest : ∀ values, .flush values ∈ history →
    ∃ store, HoldsLatest daemon history store ∧ values = store.allMetricsFlat

/-- Events that publish nothing and are no flush do no harm. -/
theorem FlushesLast.append (flushes : FlushesLast daemon history)
    (silent : ∀ event ∈ events, event.isPublish = false)
    (unflushed : ∀ values, .flush values ∉ events) : FlushesLast daemon (events ++ history) where
  last := flushes.last.append fun event mem _ isPublish => by simp [silent event mem] at isPublish
  latest values flushed := by
    rcases List.mem_append.mp flushed with new | old
    · exact absurd new (unflushed values)
    · obtain ⟨store, holds, same⟩ := flushes.latest values old
      exact ⟨store, holds.append_quiet fun event mem => Event.quiet_of_isPublish (silent event mem),
        same⟩

/-- The collector has panicked, or has nothing to publish any more. -/
def Running.Quiet (c : Running) : Prop := c.panicked = true ∨ c.state.Quiet

/-- The exporter has flushed, and no collector can publish any more. -/
structure Settled (daemon : Daemon) (s : State) (history : List Event) : Prop where
  stopped : s.exporter = .stopped
  quiet : ∀ c ∈ s.collectors, c.Quiet
  flushes : FlushesLast daemon history

theorem settled_of_transition (settled : Settled daemon s history)
    (transition : Transition daemon s s' events) :
    Settled daemon s' (events.reverse ++ history) := by
  have stopped := settled.stopped
  cases transition with
  | collector at_index alive ran =>
    rename_i index c next own
    -- A quiet collector goes on, but publishes nothing and stays quiet.
    have quiet := (settled.quiet c (List.mem_of_getElem? at_index)).resolve_left (by simp [alive])
    obtain ⟨still, silent⟩ := ran.quiet quiet
    refine ⟨stopped, ?_, ?_⟩
    · exact forall_mem_set at_index (fun _ => .inr still) settled.quiet
    · apply settled.flushes.append
      · simpa [Event.isPublish] using List.countP_eq_zero.mp silent
      · simp
  | panicked at_index running =>
    exact ⟨stopped, forall_mem_set at_index (fun _ => .inl rfl) settled.quiet, settled.flushes⟩
  | interrupt | finished =>
    exact ⟨stopped, settled.quiet,
      settled.flushes.append (by simp [Event.isPublish]) (by simp)⟩
  | shutdown =>
    refine ⟨stopped, ?_, settled.flushes⟩
    intro c mem
    -- A signal only makes a collector more quiet.
    obtain ⟨before, inside, rfl⟩ := List.mem_map.mp mem
    exact (settled.quiet before inside).imp_right (·.signalled)
  | joined =>
    refine ⟨stopped, ?_, settled.flushes⟩
    intro c mem
    obtain ⟨before, inside, rfl⟩ := List.mem_map.mp mem
    exact settled.quiet before inside
  | timedOut =>
    refine ⟨stopped, ?_, settled.flushes.append (by simp [Event.isPublish]) (by simp)⟩
    intro c mem
    obtain ⟨before, inside, rfl⟩ := List.mem_map.mp mem
    exact settled.quiet before inside
  -- The exporter has stopped, so none of its own steps is left.
  | started waiting | unstarted waiting | ticked waiting | stopped waiting | flushed waiting =>
    rw [stopped] at waiting
    cases waiting

/-- The final flush, when no collector can publish any more. -/
theorem settled_flush (inv : DaemonInv daemon s history) (flushing : s.exporter = .flushing)
    (quiet : ∀ c ∈ s.collectors, c.Quiet) :
    Settled daemon { s with sharedMetrics := s.store.allMetricsFlat, exporter := .stopped }
      (.flush s.store.allMetricsFlat :: history) where
  stopped := rfl
  quiet := quiet
  flushes := by
    have unflushed := inv.unflushed (by simp [flushing])
    constructor
    · rw [throughout_cons]
      refine ⟨fun isPublish => (by cases isPublish), ?_⟩
      intro later event earlier split _ values flushed
      apply unflushed values
      rw [split]
      exact List.mem_append_right _ (List.mem_cons_of_mem _ flushed)
    · intro values flushed
      rcases List.mem_cons.mp flushed with same | old
      · cases same
        exact ⟨s.store, inv.store.cons_quiet fun _ => rfl, rfl⟩
      · exact absurd old (unflushed values)

/-! ## Before the flush -/

theorem step_collector {index : ℕ} {input : Collector.Input} (own : input.own = true) :
    s.step daemon (.collector index input) = s.collectorStep daemon index input := by
  cases input <;> first | rfl | cases own

/-- One collector and the store have changed. -/
def State.withCollector (s : State) (index : ℕ) (c : Running) (store : MetricStore) : State :=
  { s with collectors := s.collectors.set index c, store := store }

theorem collectorStep_of_step {index : ℕ} {task : Task} {c next : Collector.State}
    {input : Collector.Input} {own : List Collector.Event}
    (at_index : s.collectors[index]? = some ⟨task, c, false⟩)
    (stepped : task.step c input = some (next, own)) :
    s.collectorStep daemon index input =
      some (s.withCollector index ⟨task, next, false⟩
          (own.foldl (State.storeAfter daemon task) s.store),
        own.map (.collector index)) := by
  simp only [State.collectorStep, at_index, stepped, Option.bind_eq_bind, Option.bind_some]
  rfl

/-- What a collector can do on its own, it can do while everything else stands still. -/
theorem leads_of_goes {task : Task} {c c' : Collector.State} (goes : Goes task c c') {index : ℕ}
    (history : List Event) (at_index : s.collectors[index]? = some ⟨task, c, false⟩) :
    ∃ (store : MetricStore) (own : List Collector.Event),
      daemon.machine.Leads s history (s.withCollector index ⟨task, c', false⟩ store)
        (own.map (.collector index) ++ history) := by
  induction goes generalizing s history with
  | refl c =>
    refine ⟨s.store, [], ?_⟩
    obtain ⟨inside, same⟩ := List.getElem?_eq_some_iff.mp at_index
    rw [State.withCollector, ← same, List.set_getElem_self]
    exact .refl s history
  | step input own stepped goes ih =>
    rename_i c c₁ c₂ events
    have inside := (List.getElem?_eq_some_iff.mp at_index).1
    have moved : s.step daemon (.collector index input) = _ :=
      (step_collector own).trans (collectorStep_of_step at_index stepped)
    -- What the store holds meanwhile does not matter.
    generalize events.foldl (State.storeAfter daemon task) s.store = stored at moved
    obtain ⟨store, later, leads⟩ := ih (s := s.withCollector index ⟨task, c₁, false⟩ stored)
      ((events.map (.collector index)).reverse ++ history) (by simp [State.withCollector, inside])
    refine ⟨store, later ++ events.reverse, ?_⟩
    have led : daemon.machine.Leads s history _ _ := .step (.collector index input) moved leads
    simpa [State.withCollector] using led

theorem daemonInv_of_leads {history' : List Event} (inv : DaemonInv daemon s history)
    (leads : daemon.machine.Leads s history s' history') : DaemonInv daemon s' history' := by
  obtain ⟨inputs, ran⟩ := leads
  exact Machine.invariant_runFrom (DaemonInv daemon)
    (fun inv stepped => daemonInv_of_transition inv (transition_of_step stepped)) inv ran

/-- A part of a run in which the exporter stands still and no time runs out. -/
structure Meanwhile (daemon : Daemon) (s : State) (history : List Event) (s' : State)
    (history' : List Event) : Prop where
  leads : daemon.machine.Leads s history s' history'
  exporter : s'.exporter = s.exporter
  inTime : .timedOut ∉ history → .timedOut ∉ history'

theorem Meanwhile.trans {s'' : State} {history' history'' : List Event}
    (first : Meanwhile daemon s history s' history')
    (second : Meanwhile daemon s' history' s'' history'') :
    Meanwhile daemon s history s'' history'' where
  leads := first.leads.trans second.leads
  exporter := second.exporter.trans first.exporter
  inTime := second.inTime ∘ first.inTime

theorem Meanwhile.refl (s : State) (history : List Event) : Meanwhile daemon s history s history :=
  ⟨.refl s history, rfl, id⟩

theorem meanwhile_of_goes {task : Task} {c c' : Collector.State} (goes : Goes task c c')
    {index : ℕ} (history : List Event) (at_index : s.collectors[index]? = some ⟨task, c, false⟩) :
    ∃ (store : MetricStore) (own : List Collector.Event),
      Meanwhile daemon s history (s.withCollector index ⟨task, c', false⟩ store)
        (own.map (.collector index) ++ history) := by
  obtain ⟨store, own, leads⟩ := @leads_of_goes daemon _ _ _ _ goes _ history at_index
  exact ⟨store, own, leads, rfl, by simp⟩

/-- A collector publishes after a flush. -/
def PublishesLate (history : List Event) : Prop :=
  ∃ later event earlier values, history = later ++ event :: earlier ∧
    event.isPublish = true ∧ .flush values ∈ earlier

/-- A collector that is not quiet can publish after the flush. -/
theorem exists_publishesLate {index : ℕ} {c : Running} (at_index : s.collectors[index]? = some c)
    (loud : ¬ c.Quiet) {values : List MetricValue} (flushed : .flush values ∈ history) :
    ∃ s' history', Meanwhile daemon s history s' history' ∧ s'.main = s.main ∧
      PublishesLate history' := by
  obtain ⟨task, state, panicked⟩ := c
  obtain ⟨alive, loud⟩ := not_or.mp loud
  obtain rfl : panicked = false := eq_false_of_ne_true alive
  -- The collector goes on to its read, which returns and is published.
  have reach : CanReach task .reading state := canRead_of_not_quiet loud
  obtain ⟨reading, goes, at_read⟩ := reach
  obtain ⟨next, events, metrics, stepped, published⟩ := @publishes_of_reading task reading at_read
  obtain ⟨store, own, read⟩ := @meanwhile_of_goes daemon _ _ _ _ goes _ history at_index
  have inside := (List.getElem?_eq_some_iff.mp at_index).1
  have there : (s.withCollector index ⟨task, reading, false⟩ store).collectors[index]? =
      some ⟨task, reading, false⟩ := by simp [State.withCollector, inside]
  have done : State.collectorStep daemon _ index _ = some _ := collectorStep_of_step there stepped
  have finished : Meanwhile daemon _ _ _ ((events.map (.collector index)).reverse ++
      (own.map (.collector index) ++ history)) :=
    ⟨.step (.collector index (.readDone ⟨∅, 0⟩ true 0)) done (.refl _ _), rfl, by simp⟩
  refine ⟨_, _, read.trans finished, rfl, ?_⟩
  have late : .collector index (.publish metrics) ∈ (events.map (Event.collector index)).reverse :=
    List.mem_reverse.mpr (List.mem_map_of_mem published)
  obtain ⟨later, earlier, split⟩ := List.append_of_mem late
  refine ⟨later, .collector index (.publish metrics),
    earlier ++ (own.map (.collector index) ++ history), values, ?_, rfl, ?_⟩
  · rw [split, List.append_assoc, List.cons_append]
  · exact List.mem_append_right _ (List.mem_append_right _ flushed)

/-- The main task comes to wait for the collectors. -/
theorem meanwhile_joining (s : State) (history : List Event)
    (running : s.main ≠ .awaiting ∧ s.main ≠ .complete) :
    ∃ s' history', Meanwhile daemon s history s' history' ∧ s'.main = .joining := by
  have signalled : ∀ {s : State} (history : List Event), s.main = .cancelled →
      ∃ s', Meanwhile daemon s history s' history ∧ s'.main = .joining := by
    intro s history at_main
    exact ⟨_, ⟨.step .shutdown (if_pos at_main) (.refl _ _), rfl, id⟩, rfl⟩
  cases at_main : s.main with
  | serving =>
    have cancelled : Meanwhile daemon s history
        { s with main := .cancelled, cancelled := true } (.cancel :: history) :=
      ⟨.step .interrupt (if_pos at_main) (.refl _ _), rfl, by simp⟩
    obtain ⟨s', joining, at_joining⟩ :=
      @signalled { s with main := .cancelled, cancelled := true } (.cancel :: history) rfl
    exact ⟨s', _, cancelled.trans joining, at_joining⟩
  | cancelled =>
    obtain ⟨s', joining, at_joining⟩ := signalled history at_main
    exact ⟨s', _, joining, at_joining⟩
  | joining => exact ⟨s, history, .refl s history, at_main⟩
  | awaiting => exact absurd at_main running.1
  | complete => exact absurd at_main running.2

/-- The first so many collectors return, one after another, but for those that panicked. -/
theorem meanwhile_returned (inv : DaemonInv daemon s history) (at_main : s.main = .joining)
    (count : ℕ) :
    ∃ s' history', Meanwhile daemon s history s' history' ∧ s'.main = .joining ∧
      ∀ (index : ℕ) (c : Running), index < count → s'.collectors[index]? = some c →
        c.Ended := by
  induction count with
  | zero => exact ⟨s, history, .refl s history, at_main, by simp⟩
  | succ count ih =>
    obtain ⟨s₁, history₁, before, at_main₁, returned⟩ := ih
    -- What holds of the collectors before this one, and of it, holds of one more.
    have upTo : ∀ {s₂ : State}, (∀ (index : ℕ) (c : Running), index < count →
          s₂.collectors[index]? = some c → c.Ended) →
        (∀ c, s₂.collectors[count]? = some c → c.Ended) →
        ∀ (index : ℕ) (c : Running), index < count + 1 → s₂.collectors[index]? = some c →
          c.Ended := by
      intro s₂ earlier this index c bound at_c
      rcases Nat.lt_succ_iff_lt_or_eq.mp bound with before | rfl
      · exact earlier index c before at_c
      · exact this c at_c
    cases at_index : s₁.collectors[count]? with
    | none => exact ⟨s₁, history₁, before, at_main₁, upTo returned (by simp [at_index])⟩
    | some c =>
      obtain ⟨task, state, panicked⟩ := c
      cases panicked with
      | true =>
        refine ⟨s₁, history₁, before, at_main₁, upTo returned fun c at_c => .inl ?_⟩
        rw [at_index, Option.some_inj] at at_c
        rw [← at_c]
      | false =>
        -- While the main task waits, all collectors are told, so each can return by itself.
        have told := (daemonInv_of_leads inv before.leads).signalled at_main₁ _
          (List.mem_of_getElem? at_index)
        have reach : CanReach task .returned state := canReturn told.1 told.2
        obtain ⟨last, goes, at_last⟩ := reach
        obtain ⟨store, own, returns⟩ :=
          @meanwhile_of_goes daemon _ _ _ _ goes _ history₁ at_index
        refine ⟨_, _, before.trans returns, at_main₁, upTo ?_ ?_⟩
        · intro index c bound at_c
          rw [State.withCollector, List.getElem?_set_ne (by omega)] at at_c
          exact returned index c bound at_c
        · intro c at_c
          rw [State.withCollector, List.getElem?_set_self'] at at_c
          obtain ⟨-, -, rfl⟩ := Option.map_eq_some_iff.mp at_c
          exact .inr at_last

/-- The main task can come to its end in time. -/
theorem exists_complete (inv : DaemonInv daemon s history) (ended : s.exporter.ended = true)
    (running : s.main ≠ .awaiting ∧ s.main ≠ .complete) :
    ∃ s' history', Meanwhile daemon s history s' history' ∧ s'.main = .complete := by
  obtain ⟨s₁, history₁, joining, at_joining⟩ := @meanwhile_joining daemon s history running
  obtain ⟨s₂, history₂, returning, at_main, returned⟩ := meanwhile_returned
    (daemonInv_of_leads inv joining.leads) at_joining daemon.tasks.length
  have waited := joining.trans returning
  have tasks := (daemonInv_of_leads inv waited.leads).tasks
  have all : ∀ c ∈ s₂.collectors, c.Ended := by
    intro c mem
    obtain ⟨index, at_index⟩ := List.mem_iff_getElem?.mp mem
    have task := tasks index
    rw [at_index, Option.map_some] at task
    exact returned index c (List.getElem?_eq_some_iff.mp task.symm).1 at_index
  have joined : Meanwhile daemon s₂ history₂ s₂.dropSender history₂ :=
    ⟨.step .joined (if_pos ⟨at_main, all⟩) (.refl _ _), rfl, id⟩
  have still : s₂.dropSender.exporter.ended = true := by
    rwa [(waited.trans joined).exporter]
  have finished : Meanwhile daemon s₂.dropSender history₂
      { s₂.dropSender with main := .complete } history₂ :=
    ⟨.step .finish (if_pos ⟨rfl, still⟩) (.refl _ _), rfl, id⟩
  exact ⟨_, _, (waited.trans joined).trans finished, rfl⟩

theorem PublishesLate.of_suffix {history' : List Event} (late : PublishesLate history)
    (grown : history <:+ history') : PublishesLate history' := by
  obtain ⟨later, event, earlier, values, split, isPublish, flushed⟩ := late
  obtain ⟨new, whole⟩ := grown
  refine ⟨new ++ later, event, earlier, values, ?_, isPublish, flushed⟩
  rw [← whole, split, List.append_assoc]

theorem not_flushesLast (late : PublishesLate history) : ¬ FlushesLast daemon history := by
  obtain ⟨later, event, earlier, values, split, isPublish, flushed⟩ := late
  exact fun flushes => flushes.last later event earlier split isPublish values flushed

/-- Every run that flushes in a state and ends in time flushes the last values, exactly if no
collector can publish any more in that state. -/
theorem flushesLast_iff (daemon : Daemon) (reaches : daemon.machine.Reaches s history)
    (flushing : s.exporter = .flushing) (inTime : .timedOut ∉ history) :
    (∀ inputs s' history',
        daemon.machine.runFrom s history (.flush :: inputs) = some (s', history') →
          s'.main = .complete → .timedOut ∉ history' → FlushesLast daemon history') ↔
      ∀ c ∈ s.collectors, c.Quiet := by
  have inv := daemonInv_of_reaches reaches
  have flushed : daemon.machine.step s .flush = some (_, _) := if_pos flushing
  constructor
  · intro always c mem
    by_contra loud
    obtain ⟨index, at_index⟩ := List.mem_iff_getElem?.mp mem
    -- Were the main task past its wait, all collectors would have ended.
    have running : s.main ≠ .awaiting ∧ s.main ≠ .complete := by
      rw [← not_or]
      intro past
      rcases inv.joined past with late | ended
      · exact inTime late
      · exact loud ((ended c mem).imp_right .inl)
    have first : daemon.machine.Leads s history _ _ := .step .flush flushed (.refl _ _)
    have inv₁ := daemonInv_of_leads inv first
    obtain ⟨s₂, history₂, publishes, same, late⟩ :=
      @exists_publishesLate daemon
        { s with sharedMetrics := s.store.allMetricsFlat, exporter := .stopped }
        (.flush s.store.allMetricsFlat :: history) index c at_index loud _ (.head _)
    obtain ⟨s₃, history₃, completes, complete⟩ := exists_complete
      (daemonInv_of_leads inv₁ publishes.leads) (by rw [publishes.exporter]; rfl) (same ▸ running)
    obtain ⟨inputs, ran⟩ := (publishes.trans completes).leads
    have whole : daemon.machine.runFrom s history (.flush :: inputs) = some (s₃, history₃) := by
      rw [Machine.runFrom, flushed, Option.bind_some]
      exact ran
    have inTime₃ := (publishes.trans completes).inTime (by simpa using inTime)
    exact not_flushesLast (late.of_suffix completes.leads.suffix)
      (always inputs s₃ history₃ whole complete inTime₃)
  · intro quiet inputs s' history' ran _ _
    rw [Machine.runFrom, flushed, Option.bind_some] at ran
    -- From a flush in a quiet state on, every further step keeps the run settled.
    have start := settled_flush inv flushing quiet
    exact (Machine.invariant_runFrom (Settled daemon)
      (fun settled stepped => settled_of_transition settled (transition_of_step stepped))
      start ran).flushes

end Runs

/-! ## A shutdown in the middle of a read -/

/-- The daemon of the sample sensor. -/
def sensorDaemon : Daemon where
  config :=
    { exporters := { otlp := some { enabled := true, endpoint := some "http://10.0.0.9:4318" } }
      collectors := [Samples.sensor] }
  tasks := [sensorTask]
  validated := by decide
  spawned := ⟨fun _ => .ok (), fun _ => .ok (), rfl⟩

/-- The sensor is being read when the signal arrives, and the exporter is about to flush. -/
def interruptedRead : List Input :=
  [.provider true, .collector 0 (.connected (.ok ())), .collector 0 (.wrote (.ok ()) 0),
    .collector 0 .proceed, .collector 0 (.wrote (.ok ()) 0), .interrupt, .stop]

/-- The read returns after the flush, and then the collector does. -/
def lateRead : List Input :=
  [.flush, .shutdown,
    .collector 0 (.readDone ⟨AList.singleton "humidity" (.ok (40.0, 40.0)), 1⟩ true 0),
    .collector 0 .changed, .joined, .finish]

theorem flushesLast_iff_sensor :
    ∃ s history, sensorDaemon.machine.Reaches s history ∧
      ((∀ inputs s' history',
          sensorDaemon.machine.runFrom s history (.flush :: inputs) = some (s', history') →
            s'.main = .complete → .timedOut ∉ history' → FlushesLast sensorDaemon history') ↔
        ∀ c ∈ s.collectors, c.Quiet) := by
  have reaches : sensorDaemon.machine.Reaches _ _ := Machine.reaches_of_run interruptedRead rfl
  exact ⟨_, _, reaches, flushesLast_iff sensorDaemon reaches rfl (by decide)⟩

/-- All collectors return in time, and one of them has published after the flush. -/
theorem flush_misses_lateRead :
    ¬ ∀ (daemon : Daemon) (s : State) (history : List Event), daemon.machine.Reaches s history →
      s.main = .complete → .timedOut ∉ history → FlushesLast daemon history := by
  intro flushes
  have reaches : sensorDaemon.machine.Reaches _ _ :=
    Machine.reaches_of_run (interruptedRead ++ lateRead) rfl
  apply not_flushesLast _ (flushes sensorDaemon _ _ reaches rfl (by decide))
  exact ⟨[_, _, _], _, _, _, rfl, rfl, .tail _ (.head _)⟩

end BusExporter.RunCommand
