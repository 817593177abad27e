import BusExporter.Collector.Transition

/-!
# Failures of `pre_poll`

The counter of a collector is the number of `pre_poll` failures in a row: since the
last success, and since the reader was last connected and initialized. The third
one in a row reconnects, and the earlier ones skip their cycle.

A connect resets the counter before its `init_writes` are executed. Should these
fail, the counter is ahead of the count; there is no cycle before the next connect
and its `init_writes` have both succeeded, and then the two agree again.
-/

namespace BusExporter.Collector

open Foundation Metrics

variable (task : Task)

/-- The last event of a completed connect: the `init_writes`, if there are any. -/
def CompletesConnect (event : Event) : Prop :=
  if task.executes .initWrites then event = .executeWrites .initWrites true
  else event = .connect true

instance (event : Event) : Decidable (CompletesConnect task event) :=
  inferInstanceAs (Decidable (if task.executes .initWrites = true
    then event = .executeWrites .initWrites true else event = .connect true))

/-- A success that ends a row of failures. -/
def EndsRow (event : Event) : Prop :=
  event = .executeWrites .prePoll true ∨ CompletesConnect task event

instance (event : Event) : Decidable (EndsRow task event) :=
  inferInstanceAs (Decidable (event = .executeWrites .prePoll true ∨ CompletesConnect task event))

/-- The executions of `pre_poll` that have failed in a row so far. -/
def failuresInRow : List Event → ℕ
  | [] => 0
  | event :: earlier =>
    if EndsRow task event then 0
    else if event = .executeWrites .prePoll false then failuresInRow earlier + 1
    else failuresInRow earlier

variable {task} {s s' : State} {history events : List Event}

/-- An event that neither ends nor extends a row of failures. -/
def Event.besideRow (task : Task) (event : Event) : Prop :=
  ¬ EndsRow task event ∧ event ≠ .executeWrites .prePoll false

@[simp]
theorem failuresInRow_cons_of_beside {event : Event} (beside : event.besideRow task) :
    failuresInRow task (event :: history) = failuresInRow task history := by
  rw [failuresInRow, if_neg beside.1, if_neg beside.2]

theorem failuresInRow_append (beside : ∀ event ∈ events, event.besideRow task) :
    failuresInRow task (events ++ history) = failuresInRow task history := by
  induction events with
  | nil => rfl
  | cons event events ih =>
    rw [List.forall_mem_cons] at beside
    rw [List.cons_append, failuresInRow_cons_of_beside beside.1, ih beside.2]

theorem failuresInRow_of_endsRow {event : Event} (ends : EndsRow task event) :
    failuresInRow task (event :: history) = 0 := by
  rw [failuresInRow, if_pos ends]

theorem failuresInRow_failed :
    failuresInRow task (.executeWrites .prePoll false :: history) =
      failuresInRow task history + 1 := by
  have extends_row : ¬ EndsRow task (.executeWrites .prePoll false) := by
    unfold EndsRow CompletesConnect
    split <;> simp
  rw [failuresInRow, if_neg extends_row, if_pos rfl]

/-- Nothing but a connect, an execution of writes or its result bears on a row. -/
theorem besideRow_of_ne {event : Event} (noConnect : event ≠ .connect true)
    (noWrites : ∀ list ok, event ≠ .executeWrites list ok) : event.besideRow task := by
  refine ⟨?_, noWrites _ _⟩
  -- Both ways of ending a row are among the excluded events.
  rintro (polled | completes)
  · exact noWrites _ _ polled
  · unfold CompletesConnect at completes
    split at completes
    · exact noWrites _ _ completes
    · exact noConnect completes

theorem besideRow_initWrites_failed :
    Event.besideRow task (.executeWrites .initWrites false) := by
  constructor
  · unfold EndsRow CompletesConnect
    split <;> simp
  · simp

/-- A connect completes exactly if no `init_writes` have to follow. -/
theorem endsRow_connect_iff : EndsRow task (.connect true) ↔ task.executes .initWrites = false := by
  unfold EndsRow CompletesConnect
  split <;> simp_all

theorem endsRow_written (executes : task.executes .initWrites = true) :
    EndsRow task (.executeWrites .initWrites true) := by
  right
  rw [CompletesConnect, if_pos executes]

/-! ## Every run -/

/-- The counter at each location. -/
def CounterAt (task : Task) (history : List Event) (counter : ℕ) : Location → Prop
  | .connecting | .initialWait _ => counter = 0 ∧ failuresInRow task history = 0
  | .initWriting =>
    task.executes .initWrites = true ∧ counter = 0 ∧ failuresInRow task history = 0
  | .cycleStart | .prePolling | .reading | .sleeping | .overrun =>
    counter = failuresInRow task history ∧ counter ≤ 2
  | .reconnectWriting => task.executes .initWrites = true ∧ counter = 0
  | .reconnectWait | .reconnecting | .returned => True

/-- An event beside the row leaves what is known of the counter as it is. -/
theorem CounterAt.cons {counter : ℕ} {location : Location}
    (known : CounterAt task history counter location) {event : Event}
    (beside : event.besideRow task) : CounterAt task (event :: history) counter location := by
  unfold CounterAt
  rw [failuresInRow_cons_of_beside beside]
  exact known

/-- Executed `init_writes` complete a connect. -/
theorem counterAt_written {counter : ℕ} (zero : counter = 0)
    (executes : task.executes .initWrites = true) :
    CounterAt task (.executeWrites .initWrites true :: history) counter .cycleStart :=
  ⟨zero.trans (failuresInRow_of_endsRow (endsRow_written executes)).symm, by simp [zero]⟩

/-- A connect, after which the `init_writes` follow or the cycles start. -/
theorem counterAt_afterConnect (history : List Event) {writing : Location}
    (atWriting : task.executes .initWrites = true →
      CounterAt task (.connect true :: history) 0 writing) :
    CounterAt task (.connect true :: history) 0 (task.afterConnect writing) := by
  unfold Task.afterConnect
  cases executes : task.executes .initWrites with
  | true => exact atWriting executes
  | false =>
    have completes : failuresInRow task (.connect true :: history) = 0 :=
      failuresInRow_of_endsRow (endsRow_connect_iff.mpr executes)
    exact ⟨completes.symm, Nat.zero_le 2⟩

theorem counterAt_of_transition
    (known : CounterAt task history s.prePollConsecutiveFailures s.location)
    (transition : Transition task s s' events) :
    CounterAt task (events.reverse ++ history) s'.prePollConsecutiveFailures s'.location := by
  have read : Event.besideRow task .read := besideRow_of_ne (by simp) (by simp)
  have sleep (rest : Duration) : Event.besideRow task (.sleep rest) :=
    besideRow_of_ne (by simp) (by simp)
  have readDone (results : ReadResults) (isConnected : Bool) :
      Event.besideRow task (.readDone results isConnected) := besideRow_of_ne (by simp) (by simp)
  have publish (snapshot : List MetricValue) : Event.besideRow task (.publish snapshot) :=
    besideRow_of_ne (by simp) (by simp)
  have failed : Event.besideRow task (.connect false) := besideRow_of_ne (by simp) (by simp)
  have backoff (duration : Duration) : Event.besideRow task (.backoff duration) :=
    besideRow_of_ne (by simp) (by simp)
  have disconnect : Event.besideRow task .disconnect := besideRow_of_ne (by simp) (by simp)
  cases transition with
  | signal => exact known.cons (besideRow_of_ne (by simp) (by simp))
  | close => exact known
  | connected at_location =>
    rw [at_location] at known
    obtain ⟨zero, none_failed⟩ := known
    show CounterAt task _ s.prePollConsecutiveFailures _
    rw [zero]
    apply counterAt_afterConnect
    intro executes
    have beside : Event.besideRow task (.connect true) :=
      ⟨by rw [endsRow_connect_iff, executes]; simp, by simp⟩
    exact ⟨executes, rfl, (failuresInRow_cons_of_beside beside).trans none_failed⟩
  | connectFailed at_location =>
    rw [at_location] at known
    have waiting : CounterAt task history s.prePollConsecutiveFailures (.initialWait false) := known
    exact (waiting.cons failed).cons (backoff _)
  | initWriteFailed at_location =>
    rw [at_location] at known
    have waiting : CounterAt task history s.prePollConsecutiveFailures (.initialWait true) :=
      known.2
    exact ((waiting.cons besideRow_initWrites_failed).cons disconnect).cons (backoff _)
  | initialWaited disconnected at_location =>
    rw [at_location] at known
    exact known
  | written at_location =>
    rcases at_location with at_location | at_location <;> rw [at_location] at known
    · exact counterAt_written known.2.1 known.1
    · exact counterAt_written known.2 known.1
  | prePollStarted at_start =>
    rw [at_start] at known
    exact known
  | readStarted at_start =>
    rw [at_start] at known
    have reading : CounterAt task history s.prePollConsecutiveFailures .reading := known
    exact reading.cons read
  | prePolled at_prePoll =>
    have row : failuresInRow task (.executeWrites .prePoll true :: history) = 0 :=
      failuresInRow_of_endsRow (.inl rfl)
    -- A success resets both the counter and the row.
    have reading : CounterAt task (.executeWrites .prePoll true :: history) 0 .reading :=
      ⟨row.symm, Nat.zero_le 2⟩
    exact reading.cons read
  | skippedEarly elapsed rest at_prePoll early =>
    rw [at_prePoll] at known
    have row : s.prePollConsecutiveFailures + 1 =
        failuresInRow task (.executeWrites .prePoll false :: history) := by
      rw [failuresInRow_failed, known.1]
    -- The failure is the first or the second one, so that the cycle is only skipped.
    have skipped : CounterAt task (.executeWrites .prePoll false :: history)
        (s.prePollConsecutiveFailures + 1) .sleeping := ⟨row, Nat.le_of_lt_succ early⟩
    exact skipped.cons (sleep rest)
  | skippedLate elapsed at_prePoll early =>
    rw [at_prePoll] at known
    have row : s.prePollConsecutiveFailures + 1 =
        failuresInRow task (.executeWrites .prePoll false :: history) := by
      rw [failuresInRow_failed, known.1]
    exact ⟨row, Nat.le_of_lt_succ early⟩
  | completedEarly results isConnected elapsed rest at_read =>
    rw [at_read] at known
    have slept : CounterAt task history s.prePollConsecutiveFailures .sleeping := known
    exact ((slept.cons (readDone _ _)).cons (publish _)).cons (sleep rest)
  | completedLate results isConnected elapsed at_read =>
    rw [at_read] at known
    have late : CounterAt task history s.prePollConsecutiveFailures .overrun := known
    exact (late.cons (readDone _ _)).cons (publish _)
  | reconnected at_location =>
    apply counterAt_afterConnect
    exact fun executes => ⟨executes, rfl⟩
  | slept at_location =>
    rcases at_location with at_location | ⟨at_location, -⟩ <;> rw [at_location] at known <;>
      exact known
  -- Nothing is known of the counter while a connection is being restored, or after the end.
  | _ => trivial

theorem counterAt_of_reaches (reaches : task.machine.Reaches s history) :
    CounterAt task history s.prePollConsecutiveFailures s.location := by
  have initial : CounterAt task [] Task.initial.prePollConsecutiveFailures
      Task.initial.location := ⟨rfl, rfl⟩
  exact reaches.invariant
    (fun s history => CounterAt task history s.prePollConsecutiveFailures s.location) initial
    fun _ known stepped => counterAt_of_transition known (transition_of_step stepped)

/-- A failed `pre_poll` ends its cycle, and nothing else changes. -/
structure SkipsCycle (s s' : State) (events : List Event) : Prop where
  ends : events = [.executeWrites .prePoll false] ∧ s'.location = .cycleStart ∨
    ∃ rest, events = [.executeWrites .prePoll false, .sleep rest] ∧ s'.location = .sleeping
  backoff : s'.backoff = s.backoff
  prevCache : s'.prevCache = s.prevCache
  errorCounts : s'.errorCounts = s.errorCounts

/-- What a step from the `pre_poll` writes does: it reconnects exactly if it is the third failure
in a row, and a failure that is not only skips the cycle. -/
structure Escalates (task : Task) (s : State) (history : List Event) (s' : State)
    (events : List Event) : Prop where
  reconnects : s'.location = .reconnectWait ↔
    .executeWrites .prePoll false ∈ events ∧ failuresInRow task (events.reverse ++ history) = 3
  skips : .executeWrites .prePoll false ∈ events →
    failuresInRow task (events.reverse ++ history) ≠ 3 → SkipsCycle s s' events

/-- What a collector does about `pre_poll` failures, at any moment of a run. -/
structure HandlesPrePoll (task : Task) (s : State) (history : List Event) : Prop where
  counter : s.location = .cycleStart →
    s.prePollConsecutiveFailures = failuresInRow task history ∧ s.prePollConsecutiveFailures ≤ 2
  escalates : s.location = .prePolling → ∀ input s' events,
    task.step s input = some (s', events) → Escalates task s history s' events

/-- A failure and the events that follow it in its step. -/
theorem failuresInRow_failedStep (task : Task) (history later : List Event)
    (beside : ∀ event ∈ later, event.besideRow task) :
    failuresInRow task ((.executeWrites .prePoll false :: later).reverse ++ history) =
      failuresInRow task history + 1 := by
  have laterBeside : ∀ event ∈ later.reverse, event.besideRow task :=
    fun event mem => beside event (List.mem_reverse.mp mem)
  rw [List.reverse_cons, List.append_assoc, failuresInRow_append laterBeside,
    List.singleton_append, failuresInRow_failed]

theorem escalates_of_transition
    (known : s.prePollConsecutiveFailures = failuresInRow task history ∧
      s.prePollConsecutiveFailures ≤ 2)
    (at_prePoll : s.location = .prePolling) (transition : Transition task s s' events) :
    Escalates task s history s' events := by
  have sleep (rest : Duration) : Event.besideRow task (.sleep rest) :=
    besideRow_of_ne (by simp) (by simp)
  have backoff (duration : Duration) : Event.besideRow task (.backoff duration) :=
    besideRow_of_ne (by simp) (by simp)
  have disconnect : Event.besideRow task .disconnect := besideRow_of_ne (by simp) (by simp)
  cases transition with
  | signal | close =>
    constructor
    · simp [at_prePoll]
    · simp
  | prePolled =>
    constructor
    · simp
    · simp
  | escalated elapsed _ third =>
    have row := failuresInRow_failedStep task history [.disconnect, .backoff s.backoff]
      (by simp [disconnect, backoff])
    constructor
    · refine iff_of_true rfl ⟨.head _, ?_⟩
      rw [row]
      omega
    · intro _ notThird
      rw [row] at notThird
      omega
  | skippedEarly elapsed rest _ early =>
    have row := failuresInRow_failedStep task history [.sleep rest] (by simp [sleep])
    constructor
    · refine iff_of_false (by simp) ?_
      rintro ⟨-, isThird⟩
      rw [row] at isThird
      omega
    · intro _ _
      exact ⟨.inr ⟨rest, rfl, rfl⟩, rfl, rfl, rfl⟩
  | skippedLate elapsed _ early =>
    have row := failuresInRow_failedStep task history [] (by simp)
    constructor
    · refine iff_of_false (by simp) ?_
      rintro ⟨-, isThird⟩
      rw [row] at isThird
      omega
    · intro _ _
      exact ⟨.inl ⟨rfl, rfl⟩, rfl, rfl, rfl⟩
  -- No other step starts from the `pre_poll` writes.
  | left at_location | written at_location | slept at_location => simp [at_prePoll] at at_location
  | initialWaited _ at_location => simp [at_prePoll] at at_location
  | completedLate _ _ _ at_location => simp [at_prePoll] at at_location
  | completedEarly _ _ _ _ at_location => simp [at_prePoll] at at_location
  | lost _ _ _ at_location => simp [at_prePoll] at at_location
  | _ at_location => simp [at_prePoll] at at_location

/-- **The third failure of `pre_poll` in a row reconnects, and the earlier ones skip their
cycle**: at any moment of any run. -/
theorem handlesPrePoll_of_reaches (task : Task) (s : State) (history : List Event)
    (reaches : task.machine.Reaches s history) : HandlesPrePoll task s history := by
  have known := counterAt_of_reaches reaches
  constructor
  · intro at_start
    rw [at_start] at known
    exact known
  · intro at_prePoll input s' events stepped
    rw [at_prePoll] at known
    exact escalates_of_transition known at_prePoll (transition_of_step stepped)

/-- The sensor connects, and `pre_poll` fails in two cycles and is executed a third time. -/
def failingPrePoll : List Input :=
  [.connected (.ok ()), .wrote (.ok ()) 0,
    .proceed, .wrote (.error (.msg "NACK")) 0, .elapsed,
    .proceed, .wrote (.error (.msg "NACK")) 0, .elapsed, .proceed]

theorem handlesPrePoll_sensor :
    ∃ s history, sensorTask.machine.Reaches s history ∧ s.location = .prePolling ∧
      failuresInRow sensorTask history = 2 ∧ HandlesPrePoll sensorTask s history := by
  have polled : sensorTask.machine.Reaches _ _ := Machine.reaches_of_run failingPrePoll rfl
  exact ⟨_, _, polled, rfl, by decide, handlesPrePoll_of_reaches _ _ _ polled⟩

end BusExporter.Collector
