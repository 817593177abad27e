import BusExporter.Collector.Transition
import BusExporter.Reader.Factory

/-!
# The lifecycle of the reader

Every read of a collector task is prepared: the reader is connected, the
`init_writes` have been executed since it connected, and the `pre_poll` writes
since the previous read. When the task returns, it has disconnected the reader.
-/

namespace BusExporter.Collector

open Foundation Metrics

/-- The reader is connected: the last successful connect was not followed by a disconnect. -/
def Connected (history : List Event) : Prop :=
  Since (· = .connect true) (· = .disconnect) history

/-- The `init_writes` were all executed since the last successful connect. -/
def InitWritten (history : List Event) : Prop :=
  Since (· = .executeWrites .initWrites true) (· = .connect true) history

/-- The `pre_poll` writes were all executed since the previous read. -/
def PrePolled (history : List Event) : Prop :=
  Since (· = .executeWrites .prePoll true) (· = .read) history

/-- The last connect or disconnect call was a disconnect. -/
def Disconnected (history : List Event) : Prop :=
  Since (· = .disconnect) (fun event => ∃ ok, event = .connect ok) history

/-- What has to hold before a read of a task. -/
structure Prepared (task : Task) (history : List Event) : Prop where
  connected : Connected history
  initWritten : task.executes .initWrites = true → InitWritten history
  prePolled : task.executes .prePoll = true → PrePolled history

/-- Every read was prepared. -/
def ReadsPrepared (task : Task) (history : List Event) : Prop :=
  Throughout (fun event earlier => event = .read → Prepared task earlier) history

/-- The reader is connected and initialized. -/
structure Ready (task : Task) (history : List Event) : Prop where
  connected : Connected history
  initWritten : task.executes .initWrites = true → InitWritten history

/-- What is known of the reader at each location. -/
def AtLocation (task : Task) (history : List Event) : Location → Prop
  | .connecting | .initialWait false | .reconnecting => True
  | .initialWait true | .reconnectWait | .returned => Disconnected history
  | .initWriting | .reconnectWriting => Connected history
  | .cycleStart | .prePolling | .reading | .sleeping | .overrun => Ready task history

structure LifecycleInv (task : Task) (s : State) (history : List Event) : Prop where
  prepared : ReadsPrepared task history
  located : AtLocation task history s.location

/-- After a successful connect the reader is connected, and ready if there is nothing to write. -/
theorem atLocation_afterConnect (task : Task) (history : List Event) {writing : Location}
    (isWriting : writing = .initWriting ∨ writing = .reconnectWriting) :
    AtLocation task (.connect true :: history) (task.afterConnect writing) := by
  have connected : Connected (.connect true :: history) := .inl rfl
  unfold Task.afterConnect
  cases executes : task.executes .initWrites with
  | true => rcases isWriting with rfl | rfl <;> exact connected
  | false => exact ⟨connected, by simp [executes]⟩

theorem ReadsPrepared.push {task : Task} {history : List Event}
    (prepared : ReadsPrepared task history) {event : Event} (noRead : event ≠ .read) :
    ReadsPrepared task (event :: history) := by
  rw [ReadsPrepared, throughout_cons]
  exact ⟨fun isRead => absurd isRead noRead, prepared⟩

/-- An event that neither connects nor disconnects. -/
def Event.neutral : Event → Bool
  | connect _ | disconnect => false
  | _ => true

theorem Event.ne_disconnect {event : Event} (neutral : event.neutral = true) :
    event ≠ .disconnect := by
  rintro rfl
  cases neutral

theorem Event.ne_connect {event : Event} (neutral : event.neutral = true) (ok : Bool) :
    event ≠ .connect ok := by
  rintro rfl
  cases neutral

section Push

variable {task : Task} {history : List Event} {event : Event}

theorem Ready.push (ready : Ready task history) (neutral : event.neutral = true) :
    Ready task (event :: history) where
  connected := .inr ⟨Event.ne_disconnect neutral, ready.connected⟩
  initWritten executes := .inr ⟨Event.ne_connect neutral true, ready.initWritten executes⟩

theorem AtLocation.push {location : Location} (located : AtLocation task history location)
    (neutral : event.neutral = true) : AtLocation task (event :: history) location := by
  have disconnected : Disconnected history → Disconnected (event :: history) :=
    fun down => .inr ⟨fun ⟨ok, isConnect⟩ => Event.ne_connect neutral ok isConnect, down⟩
  have connected : Connected history → Connected (event :: history) :=
    fun up => .inr ⟨Event.ne_disconnect neutral, up⟩
  cases location with
  | connecting | reconnecting => trivial
  | initialWait done =>
    cases done with
    | false => trivial
    | true => exact disconnected located
  | reconnectWait | returned => exact disconnected located
  | initWriting | reconnectWriting => exact connected located
  | cycleStart | prePolling | reading | sleeping | overrun => exact Ready.push located neutral

/-- Only neutral events have followed a disconnect. -/
theorem disconnected_cons (event : Event) (neutral : event.neutral = true) :
    Disconnected (event :: .disconnect :: history) :=
  .inr ⟨fun ⟨ok, isConnect⟩ => Event.ne_connect neutral ok isConnect, .inl rfl⟩

/-- A connected reader is ready once the `init_writes` are executed. -/
theorem ready_of_written (connected : Connected history) :
    Ready task (.executeWrites .initWrites true :: history) where
  connected := .inr ⟨by simp, connected⟩
  initWritten _ := .inl rfl

end Push

namespace LifecycleInv

variable {task : Task} {s s' : State} {history : List Event}

theorem init (task : Task) : LifecycleInv task Task.initial [] where
  prepared := throughout_nil _
  located := trivial

theorem push (inv : LifecycleInv task s history) (event : Event) (neutral : event.neutral = true)
    (noRead : event ≠ .read) : LifecycleInv task s (event :: history) where
  prepared := inv.prepared.push noRead
  located := inv.located.push neutral

/-- A read that is prepared. -/
theorem read (inv : LifecycleInv task s history) (ready : Ready task history)
    (prePolled : task.executes .prePoll = true → PrePolled history)
    (atRead : s'.location = .reading) : LifecycleInv task s' (.read :: history) where
  prepared := by
    rw [ReadsPrepared, throughout_cons]
    exact ⟨fun _ => ⟨ready.connected, ready.initWritten, prePolled⟩, inv.prepared⟩
  located := by
    rw [atRead]
    exact ready.push rfl

end LifecycleInv

theorem lifecycleInv_of_transition {task : Task} {s s' : State} {events history : List Event}
    (inv : LifecycleInv task s history) (transition : Transition task s s' events) :
    LifecycleInv task s' (events.reverse ++ history) := by
  have located := inv.located
  -- Each step either keeps the reader ready, or disconnects before it goes on.
  cases transition with
  | signal => exact ⟨inv.prepared.push (by simp), located.push rfl⟩
  | close => exact ⟨inv.prepared, located⟩
  | connected at_connect =>
    exact ⟨inv.prepared.push (by simp), atLocation_afterConnect task history (.inl rfl)⟩
  | connectFailed at_connect =>
    exact ⟨(inv.prepared.push (by simp)).push (by simp), trivial⟩
  | initWriteFailed at_write =>
    exact ⟨((inv.prepared.push (by simp)).push (by simp)).push (by simp),
      disconnected_cons _ rfl⟩
  | initialWaited disconnected at_wait => exact ⟨inv.prepared, trivial⟩
  | leftDisconnected at_wait changed =>
    rw [at_wait] at located
    have down : AtLocation task history .returned := located
    exact ⟨inv.prepared.push (by simp), down.push rfl⟩
  | left at_wait changed =>
    exact ⟨(inv.prepared.push (by simp)).push (by simp), disconnected_cons _ rfl⟩
  | written at_write =>
    refine ⟨inv.prepared.push (by simp), ready_of_written ?_⟩
    rcases at_write with at_write | at_write <;> rwa [at_write] at located
  | leftAtStart at_start shutdown =>
    exact ⟨(inv.prepared.push (by simp)).push (by simp), disconnected_cons _ rfl⟩
  | prePollStarted at_start shutdown executes =>
    rw [at_start] at located
    exact ⟨inv.prepared, located⟩
  | readStarted at_start shutdown executes =>
    rw [at_start] at located
    exact inv.read located (by simp [executes]) rfl
  | prePolled at_prePoll =>
    rw [at_prePoll] at located
    exact (inv.push (.executeWrites .prePoll true) rfl (by simp)).read
      (Ready.push located rfl) (fun _ => .inl rfl) rfl
  | escalated elapsed at_prePoll third =>
    exact ⟨((inv.prepared.push (by simp)).push (by simp)).push (by simp),
      disconnected_cons _ rfl⟩
  | skippedEarly elapsed rest at_prePoll early =>
    rw [at_prePoll] at located
    exact ⟨(inv.prepared.push (by simp)).push (by simp), (Ready.push located rfl).push rfl⟩
  | skippedLate elapsed at_prePoll early =>
    rw [at_prePoll] at located
    exact ⟨inv.prepared.push (by simp), Ready.push located rfl⟩
  | lost results isConnected elapsed at_read gone =>
    exact ⟨((inv.prepared.push (by simp)).push (by simp)).push (by simp),
      disconnected_cons _ rfl⟩
  | completedEarly results isConnected elapsed rest at_read kept =>
    rw [at_read] at located
    exact ⟨((inv.prepared.push (by simp)).push (by simp)).push (by simp),
      ((Ready.push located rfl).push rfl).push rfl⟩
  | completedLate results isConnected elapsed at_read kept =>
    rw [at_read] at located
    exact ⟨(inv.prepared.push (by simp)).push (by simp), (Ready.push located rfl).push rfl⟩
  | reconnectWaited at_wait => exact ⟨inv.prepared, trivial⟩
  | reconnected at_reconnect =>
    exact ⟨inv.prepared.push (by simp), atLocation_afterConnect task history (.inr rfl)⟩
  | reconnectFailed at_reconnect =>
    exact ⟨((inv.prepared.push (by simp)).push (by simp)).push (by simp),
      disconnected_cons _ rfl⟩
  | rewriteFailed at_write =>
    exact ⟨((inv.prepared.push (by simp)).push (by simp)).push (by simp),
      disconnected_cons _ rfl⟩
  | slept at_sleep =>
    refine ⟨inv.prepared, ?_⟩
    rcases at_sleep with at_sleep | ⟨at_overrun, -⟩
    · rwa [at_sleep] at located
    · rwa [at_overrun] at located
  | leftLate at_overrun shutdown =>
    exact ⟨(inv.prepared.push (by simp)).push (by simp), disconnected_cons _ rfl⟩

/-- In every run, every read is prepared, and a task that has returned has disconnected. -/
theorem lifecycleInv_of_reaches {task : Task} {s : State} {history : List Event}
    (reaches : task.machine.Reaches s history) : LifecycleInv task s history :=
  reaches.invariant (LifecycleInv task) (.init task) fun _ inv stepped =>
    lifecycleInv_of_transition inv (transition_of_step stepped)

/-! ## Validated collectors -/

/-- The engine has created the task's writer. -/
def Task.Spawned (task : Task) : Prop :=
  ∃ opened writer, Factory.createWriter opened task.collector = .ok (.ok writer) ∧
    task.writer = writer.isSome

/-- A validated collector's write steps are executed whenever there are any. -/
theorem executes_of_spawned {task : Task} (valid : task.collector.Validated)
    (spawned : task.Spawned) {list : StepList} (steps : list.steps task.collector ≠ []) :
    task.executes list = true := by
  obtain ⟨opened, writer, created, isWriter⟩ := spawned
  -- A writer is created for any steps at all, and Modbus collectors have none.
  have some_steps : task.collector.initWrites ≠ [] ∨ task.collector.prePoll ≠ [] := by
    cases list
    · exact .inl steps
    · exact .inr steps
  have notModbus : task.collector.protocol.isModbus = false := by
    by_contra modbus
    have none := valid.no_writes (by simpa using modbus)
    rcases some_steps with some | some
    · exact some none.1
    · exact some none.2
  have present := Factory.createWriter_isSome created some_steps notModbus
  simp [Task.executes, isWriter, present, steps]

/-- What a task owes to its reader and its device: each read comes after a connect that was
not followed by a disconnect, after all the `init_writes` since that connect and all the
`pre_poll` writes since the previous read, if there are any; and a task that has returned has
disconnected last. -/
structure KeepsLifecycle (c : CollectorConfig) (s : State) (history : List Event) : Prop where
  connected : Throughout (fun event earlier => event = .read → Connected earlier) history
  initWritten : c.initWrites ≠ [] →
    Throughout (fun event earlier => event = .read → InitWritten earlier) history
  prePolled : c.prePoll ≠ [] →
    Throughout (fun event earlier => event = .read → PrePolled earlier) history
  disconnected : s.location = .returned → Disconnected history

/-- Every run of a validated collector's task keeps the lifecycle. -/
theorem lifecycle {task : Task} (valid : task.collector.Validated) (spawned : task.Spawned)
    {s : State} {history : List Event} (reaches : task.machine.Reaches s history) :
    KeepsLifecycle task.collector s history := by
  have inv := lifecycleInv_of_reaches reaches
  constructor
  · exact fun later event earlier split isRead =>
      (inv.prepared later event earlier split isRead).connected
  · exact fun steps later event earlier split isRead =>
      (inv.prepared later event earlier split isRead).initWritten
        (executes_of_spawned valid spawned steps)
  · exact fun steps later event earlier split isRead =>
      (inv.prepared later event earlier split isRead).prePolled
        (executes_of_spawned valid spawned steps)
  · intro returned
    have located := inv.located
    rwa [returned] at located

/-- The sensor connects, writes, polls and returns when it is told to. -/
def sensorInputs : List Input :=
  [.connected (.ok ()), .wrote (.ok ()) 0, .proceed, .wrote (.ok ()) 0, .signal,
    .readDone ⟨AList.singleton "humidity" (.ok (40.0, 40.0)), 1⟩ true 0, .changed]

theorem lifecycle_sensor :
    ∃ s history, sensorTask.machine.runFrom Task.initial [] sensorInputs = some (s, history) ∧
      s.location = .returned ∧ .read ∈ history ∧ KeepsLifecycle Samples.sensor s history := by
  have spawned : sensorTask.Spawned := ⟨.ok (), _, rfl, rfl⟩
  exact ⟨_, _, rfl, rfl, by decide,
    lifecycle Samples.sensor_validated spawned (Machine.reaches_of_run sensorInputs rfl)⟩

end BusExporter.Collector
