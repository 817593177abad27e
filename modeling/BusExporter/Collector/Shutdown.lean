import BusExporter.Collector.Transition

/-!
# Prompt shutdown

Once the shutdown flag is set, a collector starts at most one more read and
publishes at most once more. Every cycle begins with a look at the flag, so only
a cycle that is under way can still read, and only a read that is under way or
follows from it can still be published; whether a wait ends with its timer or
with the signal makes no difference.

The flag can be set between two steps, and while a step runs; then the step's
remaining events come after it.
-/

namespace BusExporter.Collector

open Foundation Metrics

def Event.isRead : Event → Bool
  | read => true
  | _ => false

def Event.isPublish : Event → Bool
  | publish _ => true
  | _ => false

/-- The reads that a cycle under way can still start. -/
def Location.readsLeft (location : Location) : ℕ :=
  if location = prePolling then 1 else 0

/-- The snapshots that a cycle under way can still publish. -/
def Location.publishesLeft (location : Location) : ℕ :=
  if location = prePolling ∨ location = reading then 1 else 0

/-- The shutdown flag is set and sent. -/
def State.signalled (s : State) : State := { s with shutdown := true, changed := true }

/-- A moment of a run: the state that is being entered, and the events of the step under way
that are still to come. Between two steps there are none. -/
inductive Moment (task : Task) : State → List Event → Prop
  | between {s : State} {history : List Event} : task.machine.Reaches s history → Moment task s []
  | during {s s' : State} {history : List Event} {input : Input} (done rest : List Event) :
    task.machine.Reaches s history → task.machine.step s input = some (s', done ++ rest) →
      Moment task s' rest

/-- The reads and the snapshots among some events, with those that may follow at a location. -/
structure Within (events : List Event) (location : Location) (reads publishes : ℕ) : Prop where
  reads : events.countP Event.isRead + location.readsLeft ≤ reads
  publishes : events.countP Event.isPublish + location.publishesLeft ≤ publishes

variable {task : Task} {s s' : State} {events : List Event}

/-- A connection that was just made has no cycle under way. -/
theorem left_afterConnect (task : Task) {writing : Location}
    (idle : writing = .initWriting ∨ writing = .reconnectWriting) :
    (task.afterConnect writing).readsLeft = 0 ∧
      (task.afterConnect writing).publishesLeft = 0 := by
  unfold Task.afterConnect
  split
  · rcases idle with rfl | rfl <;> exact ⟨rfl, rfl⟩
  · exact ⟨rfl, rfl⟩

/-- No step does more than one cycle may do, and with the flag set none does more than the
cycle under way may still do. -/
theorem Transition.spends (transition : Transition task s s' events) :
    Within events s'.location 1 1 ∧
      (s.shutdown = true → s'.shutdown = true ∧
        Within events s'.location s.location.readsLeft s.location.publishesLeft) := by
  have connected := left_afterConnect task (.inl rfl)
  have reconnected := left_afterConnect task (.inr rfl)
  have reads : s.location.readsLeft ≤ 1 := by unfold Location.readsLeft; split <;> decide
  have publishes : s.location.publishesLeft ≤ 1 := by
    unfold Location.publishesLeft
    split <;> decide
  cases transition with
  | signal | close =>
    exact ⟨⟨by simpa [Event.isRead] using reads, by simpa [Event.isPublish] using publishes⟩,
      fun set => ⟨by simp [set], by simp [Event.isRead], by simp [Event.isPublish]⟩⟩
  | connected | reconnected =>
    refine ⟨⟨?_, ?_⟩, fun set => ⟨set, ?_, ?_⟩⟩ <;>
      simp [Event.isRead, Event.isPublish, connected, reconnected]
  -- A cycle starts only with the flag unset.
  | prePollStarted _ unset _ | readStarted _ unset _ =>
    refine ⟨⟨?_, ?_⟩, fun set => ?_⟩
    · simp [Event.isRead, Location.readsLeft]
    · simp [Event.isPublish, Location.publishesLeft]
    · rw [unset] at set
      exact absurd set Bool.false_ne_true
  | prePolled at_prePoll =>
    refine ⟨⟨?_, ?_⟩, fun set => ⟨set, ?_, ?_⟩⟩ <;>
      simp [Event.isRead, Event.isPublish, Location.readsLeft, Location.publishesLeft, at_prePoll]
  | completedEarly _ _ _ _ at_read | completedLate _ _ _ at_read =>
    refine ⟨⟨?_, ?_⟩, fun set => ⟨set, ?_, ?_⟩⟩ <;>
      simp [List.countP_cons, Event.isRead, Event.isPublish, Location.readsLeft,
        Location.publishesLeft, at_read]
  -- No other step reads or publishes, and none of them leads into a cycle.
  | _ =>
    refine ⟨⟨?_, ?_⟩, fun set => ⟨set, ?_, ?_⟩⟩ <;>
      simp [Event.isRead, Event.isPublish, Location.readsLeft, Location.publishesLeft]

/-- A flag that is up stays up. -/
theorem Transition.flags (transition : Transition task s s' events) :
    (s.shutdown = true → s'.shutdown = true) ∧ (s.changed = true → s'.changed = true) := by
  constructor
  · exact fun set => (transition.spends.2 set).1
  · intro changed
    cases transition <;> first | exact changed | rfl

/-- The task can publish nothing more. -/
def State.Quiet (s : State) : Prop :=
  s.location = .returned ∨ s.shutdown = true ∧ s.location.publishesLeft = 0

theorem State.Quiet.signalled (quiet : s.Quiet) : s.signalled.Quiet :=
  quiet.imp_right fun told => ⟨rfl, told.2⟩

theorem Transition.returned (transition : Transition task s s' events)
    (returned : s.location = .returned) :
    s'.location = .returned ∧ events.countP Event.isPublish = 0 := by
  cases transition <;> first
    | exact ⟨returned, rfl⟩
    | simp [returned] at *

/-- A task that can publish nothing more publishes nothing more. -/
theorem Transition.quiet (transition : Transition task s s' events) (quiet : s.Quiet) :
    s'.Quiet ∧ events.countP Event.isPublish = 0 := by
  -- A task that has returned makes no step but for the channel.
  rcases quiet with returned | ⟨set, none_left⟩
  · obtain ⟨stays, silent⟩ := transition.returned returned
    exact ⟨.inl stays, silent⟩
  · obtain ⟨set', within⟩ := transition.spends.2 set
    have publishes := within.publishes
    exact ⟨.inr ⟨set', by omega⟩, by omega⟩

/-- Wherever a run is, its next reads and snapshots are at most one, with the flag set. -/
theorem Moment.within {rest : List Event} (moment : Moment task s rest) :
    Within rest s.location 1 1 := by
  cases moment with
  | between reaches =>
    constructor
    · unfold Location.readsLeft
      split <;> simp
    · unfold Location.publishesLeft
      split <;> simp
  | during done rest reaches stepped =>
    obtain ⟨reads, publishes⟩ := (transition_of_step stepped).spends.1
    rw [List.countP_append] at reads publishes
    exact ⟨by omega, by omega⟩

/-- From any moment on at which the shutdown flag is set, a collector starts at most one read
and publishes at most one snapshot. -/
theorem shutdown_stops_polling {rest : List Event} (moment : Moment task s rest)
    (inputs : List Input) {later : List Event}
    (ran : task.machine.runFrom s.signalled rest.reverse inputs = some (s', later)) :
    later.countP Event.isRead ≤ 1 ∧ later.countP Event.isPublish ≤ 1 := by
  have start := moment.within
  have spends : ∀ {s s' input events}, s.shutdown = true →
      task.machine.step s input = some (s', events) → s'.shutdown = true ∧
        Within events s'.location s.location.readsLeft s.location.publishesLeft :=
    fun set stepped => (transition_of_step stepped).spends.2 set
  constructor
  · -- Each read is paid for by what the location still allows, which never grows.
    have reads := Machine.countP_runFrom_le Event.isRead (·.location.readsLeft)
      (·.shutdown = true)
      (fun set stepped => ⟨(spends set stepped).1, (spends set stepped).2.reads⟩) rfl ran
    have now := start.reads
    rw [List.countP_reverse] at reads
    exact (Nat.le_of_add_right_le reads).trans now
  · have publishes := Machine.countP_runFrom_le Event.isPublish (·.location.publishesLeft)
      (·.shutdown = true)
      (fun set stepped => ⟨(spends set stepped).1, (spends set stepped).2.publishes⟩) rfl ran
    have now := start.publishes
    rw [List.countP_reverse] at publishes
    exact (Nat.le_of_add_right_le publishes).trans now

/-- The sensor connects, writes, and starts a cycle. -/
def polling : List Input := [.connected (.ok ()), .wrote (.ok ()) 0, .proceed]

/-- It reads once more and returns. -/
def lastPoll : List Input :=
  [.wrote (.ok ()) 0, .readDone ⟨AList.singleton "humidity" (.ok (40.0, 40.0)), 1⟩ true 0, .changed]

theorem shutdown_stops_sensor :
    ∃ s history s' later, sensorTask.machine.runFrom Task.initial [] polling = some (s, history) ∧
      sensorTask.machine.runFrom s.signalled [] lastPoll = some (s', later) ∧
      s'.location = .returned ∧
      later.countP Event.isRead ≤ 1 ∧ later.countP Event.isPublish ≤ 1 := by
  have polled : sensorTask.machine.Reaches _ _ := Machine.reaches_of_run polling rfl
  exact ⟨_, _, _, _, rfl, rfl, rfl, shutdown_stops_polling (.between polled) lastPoll rfl⟩

end BusExporter.Collector
