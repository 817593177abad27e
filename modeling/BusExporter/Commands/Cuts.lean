import BusExporter.Commands.FinalFlush
import BusExporter.Metrics.LastPublish

/-!
# What the exporter is given

The collectors publish whenever they are ready, and the exporter takes its values at
ticks of its own. Whatever the order, each collector runs as it would alone, and the
exporter is given a cut through the collectors: of each one the last snapshot that it
published so far, whole and once, and nothing else.
-/

namespace BusExporter.RunCommand

open Foundation Metrics Collector

/-! ## The collectors -/

/-- A collector's event. -/
def Event.ofCollector (index : ℕ) : Event → Option Collector.Event
  | .collector i event => if i = index then some event else none
  | _ => none

/-- The events of a collector's own, without the signal that the main task sends. -/
def ownEvents (events : List Collector.Event) : List Collector.Event :=
  events.filter (· ≠ .signal)

theorem ownEvents_append (events events' : List Collector.Event) :
    ownEvents (events ++ events') = ownEvents events ++ ownEvents events' :=
  List.filter_append ..

/-- Every collector is where some run of it alone would be, with the same events. -/
def RunAlone (s : State) (history : List Event) : Prop :=
  ∀ (index : ℕ) (c : Running), s.collectors[index]? = some c →
    ∃ own, c.task.machine.Reaches c.state own ∧
      ownEvents own = ownEvents (history.filterMap (Event.ofCollector index))

section Collectors

variable {daemon : Daemon} {s s' : State} {events history : List Event}

theorem filterMap_ofCollector (index other : ℕ) (events : List Collector.Event) :
    (events.map (Event.collector other)).filterMap (Event.ofCollector index) =
      if other = index then events else [] := by
  rw [List.filterMap_map]
  split
  · rename_i same
    have own : Event.ofCollector index ∘ Event.collector other = some := by
      funext event
      exact if_pos same
    rw [own, List.filterMap_some]
  · rename_i apart
    have foreign : Event.ofCollector index ∘ Event.collector other = fun _ => none := by
      funext event
      exact if_neg apart
    rw [foreign, List.filterMap_none]

/-- Events of no collector change nothing for any of them. -/
theorem RunAlone.append (alone : RunAlone s history) (same : s'.collectors = s.collectors)
    (foreign : ∀ event ∈ events, ∀ index, event.ofCollector index = none) :
    RunAlone s' (events.reverse ++ history) := by
  intro index c at_index
  rw [same] at at_index
  obtain ⟨own, reaches, events'⟩ := alone index c at_index
  refine ⟨own, reaches, ?_⟩
  have silent : events.reverse.filterMap (Event.ofCollector index) = [] :=
    List.filterMap_eq_nil_iff.mpr fun event mem => foreign event (List.mem_reverse.mp mem) index
  rw [List.filterMap_append, silent, List.nil_append, events']

/-- One collector takes a step of its own. -/
theorem RunAlone.collectorStep (alone : RunAlone s history) {index : ℕ} {input : Collector.Input}
    (stepped : s.collectorStep daemon index input = some (s', events)) :
    RunAlone s' (events.reverse ++ history) := by
  simp only [State.collectorStep, Option.bind_eq_bind, Option.bind_eq_some_iff] at stepped
  obtain ⟨c, at_index, ⟨⟩, -, ⟨next, own⟩, ran, stepped⟩ := stepped
  cases stepped
  intro other c' at_other
  rw [List.filterMap_append, ← List.map_reverse, filterMap_ofCollector, ownEvents_append]
  rw [List.getElem?_set] at at_other
  by_cases same : index = other
  · subst same
    rw [if_pos rfl, Option.ite_none_right_eq_some] at at_other
    obtain ⟨-, isNext⟩ := at_other
    cases isNext
    obtain ⟨earlier, reaches, events'⟩ := alone index c at_index
    exact ⟨_, reaches.next input ran, by rw [if_pos rfl, ownEvents_append, events']⟩
  · rw [if_neg same] at at_other
    rw [if_neg same]
    exact alone other c' at_other

/-- A collector that panics stays where it was. -/
theorem RunAlone.panic (alone : RunAlone s history) {index : ℕ}
    (stepped : s.panic index = some (s', events)) : RunAlone s' (events.reverse ++ history) := by
  simp only [State.panic, Option.bind_eq_bind, Option.bind_eq_some_iff] at stepped
  obtain ⟨c, at_index, ⟨⟩, -, stepped⟩ := stepped
  cases stepped
  intro other c' at_other
  rw [List.getElem?_set] at at_other
  by_cases same : index = other
  · subst same
    rw [if_pos rfl, Option.ite_none_right_eq_some] at at_other
    obtain ⟨-, panicked⟩ := at_other
    cases panicked
    exact alone index c at_index
  · rw [if_neg same] at at_other
    exact alone other c' at_other

/-- What the main task does to the shutdown channel, every collector could meet alone. -/
theorem RunAlone.mapStates (alone : RunAlone s history) {change : Collector.State → Collector.State}
    (input : Collector.Input) (told : List Collector.Event)
    (reacts : ∀ (task : Task) (state : Collector.State),
      task.step state input = some (change state, told))
    (silent : ownEvents told.reverse = [])
    (changed : s'.collectors = s.collectors.map fun c => { c with state := change c.state }) :
    RunAlone s' history := by
  intro index c at_index
  rw [changed, List.getElem?_map, Option.map_eq_some_iff] at at_index
  obtain ⟨before, at_before, rfl⟩ := at_index
  obtain ⟨own, reaches, events'⟩ := alone index before at_before
  exact ⟨_, reaches.next input (reacts before.task before.state), by
    rw [ownEvents_append, silent, List.nil_append, events']⟩

theorem RunAlone.step (alone : RunAlone s history) {input : Input}
    (stepped : s.step daemon input = some (s', events)) :
    RunAlone s' (events.reverse ++ history) := by
  have dropped : RunAlone s.dropSender history :=
    alone.mapStates .close [] (fun _ _ => rfl) rfl rfl
  unfold State.step at stepped
  cases input with
  | collector index input =>
    cases input with
    | signal | close => cases stepped
    | _ => exact alone.collectorStep stepped
  | panic index => exact alone.panic stepped
  | provider built =>
    obtain ⟨-, stepped⟩ := Option.ite_none_right_eq_some.mp stepped
    cases built <;> cases stepped <;> exact alone.append rfl (by simp [Event.ofCollector])
  | shutdown =>
    obtain ⟨-, stepped⟩ := Option.ite_none_right_eq_some.mp stepped
    cases stepped
    exact alone.mapStates .signal [.signal] (fun _ _ => rfl) rfl rfl
  | joined | timeout =>
    obtain ⟨-, stepped⟩ := Option.ite_none_right_eq_some.mp stepped
    cases stepped
    exact dropped.append rfl (by simp [Event.ofCollector])
  | interrupt | finish | tick | stop | flush =>
    obtain ⟨-, stepped⟩ := Option.ite_none_right_eq_some.mp stepped
    cases stepped
    exact alone.append rfl (by simp [Event.ofCollector])

/-- Each collector of the daemon runs as it would alone. -/
theorem runAlone_of_reaches (reaches : daemon.machine.Reaches s history) :
    RunAlone s history := by
  refine reaches.invariant RunAlone (fun index c at_index => ?_) fun _ alone stepped =>
    alone.step stepped
  obtain ⟨task, -, rfl⟩ : ∃ task, daemon.tasks[index]? = some task ∧
      (⟨task, Task.initial, false⟩ : Running) = c := by
    simpa [Daemon.machine, Daemon.initial] using at_index
  exact ⟨[], .init, rfl⟩

end Collectors

/-! ## Cuts -/

variable {daemon : Daemon}

/-- The labelled values of a collector's last snapshot, if it has published one. -/
def Daemon.latest (daemon : Daemon) (history : List Event) (entry : Task × ℕ) : List MetricValue :=
  ((lastPublish entry.2 history).map (daemon.merged entry.1)).getD []

/-- The values are those of the last snapshots of all collectors, each of them once. -/
def IsCut (daemon : Daemon) (history : List Event) (values : List MetricValue) : Prop :=
  values.Perm (daemon.tasks.zipIdx.flatMap (daemon.latest history))

/-- The store holds of every collector the snapshot that was the last one at some moment, each at
one of its own, and nothing else. -/
structure HoldsAt (daemon : Daemon) (moments : ℕ → List Event) (store : MetricStore) : Prop where
  latest : ∀ (index : ℕ) (task : Task), daemon.tasks[index]? = some task →
    store.lookup task.collector.name = (lastPublish index (moments index)).map (daemon.merged task)
  only : ∀ name ∈ store, ∃ task ∈ daemon.tasks, task.collector.name = name

theorem HoldsLatest.holdsAt {history : List Event} {store : MetricStore}
    (holds : HoldsLatest daemon history store) : HoldsAt daemon (fun _ => history) store :=
  ⟨holds.latest, holds.only⟩

/-- The keys of a store with snapshots are names of its tasks. -/
theorem HoldsAt.perm_keys {moments : ℕ → List Event} {store : MetricStore}
    (holds : HoldsAt daemon moments store) :
    ((daemon.tasks.map (·.collector.name)).filter (· ∈ store)).Perm (store.pairs.map (·.1)) := by
  apply (List.perm_ext_iff_of_nodup (daemon.distinct.filter _) store.nodup_pairs).mpr
  intro name
  rw [List.mem_filter, decide_eq_true_iff, HashMap.map_fst_pairs, AList.mem_keys]
  refine ⟨fun both => both.2, fun stored => ⟨?_, stored⟩⟩
  obtain ⟨task, mem, named⟩ := holds.only name stored
  exact List.mem_map.mpr ⟨task, mem, named⟩

theorem flatMap_filter_of_nil {α β : Type} {p : α → Bool} {f : α → List β} {xs : List α}
    (outside : ∀ x ∈ xs, p x = false → f x = []) : (xs.filter p).flatMap f = xs.flatMap f := by
  induction xs with
  | nil => rfl
  | cons x xs ih =>
    rw [List.forall_mem_cons] at outside
    cases inside : p x with
    | true =>
      rw [List.filter_cons_of_pos inside, List.flatMap_cons, List.flatMap_cons, ih outside.2]
    | false =>
      rw [List.filter_cons_of_neg (by simp [inside]), List.flatMap_cons, outside.1 inside,
        ih outside.2, List.nil_append]

/-- The values of such a store are those of the snapshots, each of them once. -/
theorem HoldsAt.perm_allMetricsFlat {moments : ℕ → List Event} {store : MetricStore}
    (holds : HoldsAt daemon moments store) :
    store.allMetricsFlat.Perm
      (daemon.tasks.zipIdx.flatMap fun entry => daemon.latest (moments entry.2) entry) := by
  have byName : (daemon.tasks.zipIdx.flatMap fun entry => daemon.latest (moments entry.2) entry) =
      (daemon.tasks.map (·.collector.name)).flatMap store.metricsFor := by
    calc (daemon.tasks.zipIdx.flatMap fun entry => daemon.latest (moments entry.2) entry)
        = daemon.tasks.zipIdx.flatMap fun entry => store.metricsFor entry.1.collector.name :=
          List.flatMap_congr fun entry mem => by
            have at_index := List.mem_zipIdx_iff_getElem?.mp mem
            rw [MetricStore.metricsFor, holds.latest entry.2 entry.1 at_index, Daemon.latest]
      _ = (daemon.tasks.zipIdx.map (·.1)).flatMap fun task =>
            store.metricsFor task.collector.name := by rw [List.flatMap_map]
      _ = (daemon.tasks.map (·.collector.name)).flatMap store.metricsFor := by
          rw [List.zipIdx_map_fst, List.flatMap_map]
  -- A name that is not in the store has no values.
  have stored :
      ((daemon.tasks.map (·.collector.name)).filter (· ∈ store)).flatMap store.metricsFor =
        (daemon.tasks.map (·.collector.name)).flatMap store.metricsFor := by
    refine flatMap_filter_of_nil fun name _ absent => ?_
    rw [MetricStore.metricsFor, AList.lookup_eq_none.mpr (of_decide_eq_false absent)]
    rfl
  have listed : store.allMetricsFlat = (store.pairs.map (·.1)).flatMap store.metricsFor :=
    allMetricsFlatIn_eq_flatMap store .kept
  rw [byName, ← stored, listed]
  exact (holds.perm_keys.flatMap_right _).symm

/-- All values of a store that holds the last snapshots are a cut. -/
theorem isCut_of_holdsLatest {history : List Event} {store : MetricStore}
    (holds : HoldsLatest daemon history store) : IsCut daemon history store.allMetricsFlat :=
  holds.holdsAt.perm_allMetricsFlat

/-- A value of a collector's last snapshot is one that it published, under its labels. -/
theorem mem_latest {history : List Event} {task : Task} {index : ℕ} {m : MetricValue}
    (mem : m ∈ daemon.latest history (task, index)) :
    ∃ metrics, lastPublish index history = some metrics ∧ ∃ original ∈ metrics,
      m = labelled (baseLabels task.collector.name (labelsOf daemon.config.globalLabels)
        (labelsOf task.collector.labels)) original := by
  cases published : lastPublish index history with
  | none => simp [Daemon.latest, published] at mem
  | some metrics =>
    simp only [Daemon.latest, published, Option.map_some, Option.getD_some, Daemon.merged,
      MetricStore.metricsFor, State.storeAfter, MetricStore.publish, AList.lookup_insert] at mem
    exact ⟨metrics, rfl, mem_published mem⟩

/-! ## What the exporter is given -/

/-- The values that an event gives to the exporter. -/
def Event.exported : Event → Option (List MetricValue)
  | .update values | .flush values => some values
  | _ => none

/-- The exporter is given cuts only, and what it shares is the last one of them. -/
structure ExportsCuts (daemon : Daemon) (s : State) (history : List Event) : Prop where
  cuts : Throughout (fun event earlier => ∀ values, event.exported = some values →
    IsCut daemon earlier values) history
  shared : s.sharedMetrics = (history.findSome? Event.exported).getD []

section Runs

variable {s s' : State} {events history : List Event}

/-- A step that gives the exporter nothing. -/
theorem ExportsCuts.append (cuts : ExportsCuts daemon s history)
    (silent : ∀ event ∈ events, event.exported = none)
    (same : s'.sharedMetrics = s.sharedMetrics) :
    ExportsCuts daemon s' (events.reverse ++ history) where
  cuts := cuts.cuts.append fun event mem past values given => by
    rw [silent event (List.mem_reverse.mp mem)] at given
    cases given
  shared := by
    have none_given : events.reverse.findSome? Event.exported = none :=
      List.findSome?_eq_none_iff.mpr fun event mem => silent event (List.mem_reverse.mp mem)
    rw [same, cuts.shared, List.findSome?_append, none_given, Option.none_or]

/-- The exporter takes the values of the store. -/
theorem ExportsCuts.take (cuts : ExportsCuts daemon s history) {event : Event}
    (given : event.exported = some s.store.allMetricsFlat)
    (holds : HoldsLatest daemon history s.store)
    (shared : s'.sharedMetrics = s.store.allMetricsFlat) :
    ExportsCuts daemon s' (event :: history) where
  cuts := by
    rw [throughout_cons]
    refine ⟨fun values isGiven => ?_, cuts.cuts⟩
    cases given.symm.trans isGiven
    exact isCut_of_holdsLatest holds
  shared := by rw [shared, List.findSome?_cons, given, Option.getD_some]

theorem exportsCuts_of_transition (cuts : ExportsCuts daemon s history)
    (holds : HoldsLatest daemon history s.store) (transition : Transition daemon s s' events) :
    ExportsCuts daemon s' (events.reverse ++ history) := by
  cases transition with
  | collector at_index ran => exact cuts.append (by simp [Event.exported]) rfl
  | ticked waiting => exact cuts.take rfl holds rfl
  | flushed flushing => exact cuts.take rfl holds rfl
  | _ => exact cuts.append (by simp [Event.exported]) rfl

/-- A value of one of the daemon's metrics or error counters, with the labels of its collector. -/
def Daemon.Known (daemon : Daemon) (m : MetricValue) : Prop :=
  ∃ task ∈ daemon.tasks, ∃ original, Publishes task.collector.metrics original ∧
    m = labelled (baseLabels task.collector.name (labelsOf daemon.config.globalLabels)
      (labelsOf task.collector.labels)) original

/-- A collector's last snapshot is one that it publishes when it runs alone. -/
theorem publishes_alone (inv : DaemonInv daemon s history) (alone : RunAlone s history)
    {index : ℕ} {task : Task} (at_index : daemon.tasks[index]? = some task)
    {earlier : List Event} (before : earlier <:+ history) {metrics : List MetricValue}
    (published : lastPublish index earlier = some metrics) :
    ∃ state own, task.machine.Reaches state own ∧
      ownEvents own = ownEvents (history.filterMap (Event.ofCollector index)) ∧
        .publish metrics ∈ own := by
  obtain ⟨event, mem, isPublish⟩ := List.exists_of_findSome?_eq_some published
  have own : event.ofCollector index = some (.publish metrics) := by
    cases event with
    | collector i event =>
      cases event with
      | publish values =>
        simp only [publishedBy, Option.ite_none_right_eq_some, Option.some.injEq] at isPublish
        rw [Event.ofCollector, if_pos isPublish.1, isPublish.2]
      | _ => cases isPublish
    | _ => cases isPublish
  have running := inv.tasks index
  rw [at_index, Option.map_eq_some_iff] at running
  obtain ⟨c, at_c, rfl⟩ := running
  obtain ⟨events, reaches, same⟩ := alone index c at_c
  have recorded : .publish metrics ∈ ownEvents (history.filterMap (Event.ofCollector index)) :=
    List.mem_filter.mpr ⟨List.mem_filterMap.mpr ⟨event, before.subset mem, own⟩, rfl⟩
  rw [← same] at recorded
  exact ⟨c.state, events, reaches, same, List.mem_of_mem_filter recorded⟩

/-- All values of a cut are known. -/
theorem known_of_isCut (inv : DaemonInv daemon s history) (alone : RunAlone s history)
    {earlier : List Event} (before : earlier <:+ history) {values : List MetricValue}
    (cut : IsCut daemon earlier values) : ∀ m ∈ values, daemon.Known m := by
  intro m mem
  obtain ⟨⟨task, index⟩, inTasks, inside⟩ := List.mem_flatMap.mp (cut.mem_iff.mp mem)
  obtain ⟨metrics, published, original, configured, rfl⟩ := mem_latest inside
  obtain ⟨state, own, reaches, -, recorded⟩ :=
    publishes_alone inv alone (List.mem_zipIdx_iff_getElem?.mp inTasks) before published
  exact ⟨task, List.mem_of_getElem? (List.mem_zipIdx_iff_getElem?.mp inTasks), original,
    publishes_of_reaches reaches recorded original configured, rfl⟩

/-- In every run of the daemon each collector runs as it would alone, and the exporter is given
cuts through the collectors: the last snapshot of each one, with values of its own metrics. -/
theorem givesCuts (reaches : daemon.machine.Reaches s history) :
    RunAlone s history ∧ ExportsCuts daemon s history ∧
      ∀ event ∈ history, ∀ values, event.exported = some values → ∀ m ∈ values, daemon.Known m := by
  have alone := runAlone_of_reaches reaches
  have inv := daemonInv_of_reaches reaches
  have exported : ExportsCuts daemon s history :=
    reaches.invariant (ExportsCuts daemon) ⟨throughout_nil _, rfl⟩ fun earlier cuts stepped =>
      exportsCuts_of_transition cuts (daemonInv_of_reaches earlier).store
        (transition_of_step stepped)
  refine ⟨alone, exported, fun event mem values given => ?_⟩
  obtain ⟨later, earlier, split⟩ := List.append_of_mem mem
  refine known_of_isCut inv alone ?_
    (exported.cuts later event earlier split values given)
  rw [split]
  exact (List.suffix_cons event earlier).trans (List.suffix_append ..)

/-- A tick in the middle of the run, and the final flush. -/
theorem givesCuts_sensor :
    ∃ s history, sensorDaemon.machine.Reaches s history ∧
      history.countP (·.exported.isSome) = 2 ∧ RunAlone s history ∧
        ExportsCuts sensorDaemon s history ∧
          ∀ event ∈ history, ∀ values, event.exported = some values →
            ∀ m ∈ values, sensorDaemon.Known m := by
  have reaches : sensorDaemon.machine.Reaches _ _ :=
    Machine.reaches_of_run
      (.provider true :: .tick :: interruptedRead.tail ++ lateRead) rfl
  exact ⟨_, _, reaches, by decide +kernel, givesCuts reaches⟩

end Runs

end BusExporter.RunCommand
