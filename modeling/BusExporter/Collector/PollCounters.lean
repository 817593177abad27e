import BusExporter.Collector.Processing
import BusExporter.Collector.Transition

/-!
# Do the poll counters balance?

A cycle is counted when it starts, and its outcome when it ends: with a completed
read, a lost connection or a failed `pre_poll`. So outside a cycle the cycles
that were started are the successful and the failed ones, with one exception: a
cycle that finds the shutdown flag set is counted and then has no outcome.
-/

namespace BusExporter.Collector

open Foundation Metrics

/-! ## Cycles -/

/-- A poll cycle is under way: counted, and without an outcome yet. -/
def Location.InCycle (location : Location) : Prop := location = prePolling ∨ location = reading

instance (location : Location) : Decidable location.InCycle :=
  inferInstanceAs (Decidable (_ ∨ _))

/-- The collector's counters; those of a collector that has none yet are zero. -/
def State.polls (s : State) : CollectorStats := s.stats.getD {}

/-- A read has returned, and no configured metric's result is an error. -/
def Task.succeeded (task : Task) : Event → Bool
  | .readDone results _ => !results.metrics.pairs.any (isFailure task.collector.metrics)
  | _ => false

/-- A cycle starts, and finds the shutdown flag set. -/
def StartsFlagged : State × Input → Prop
  | (s, .proceed) => s.location = .cycleStart ∧ s.shutdown = true
  | _ => False

instance : DecidablePred StartsFlagged := fun step => by
  obtain ⟨s, input⟩ := step
  cases input <;> unfold StartsFlagged <;> infer_instance

variable {task : Task} {s s' : State} {events : List Event}

theorem State.polls_updateStats (internal : task.internalMetrics = true)
    (update : CollectorStats → CollectorStats) :
    (s.updateStats task update).polls = update s.polls := by
  simp [State.polls, State.updateStats, internal]

/-- A read's counters do not concern the cycles. -/
theorem polls_readState (internal : task.internalMetrics = true) (results : ReadResults)
    (isConnected : Bool) :
    (task.readState s results isConnected).polls =
      { s.polls with
        readRequests := s.polls.readRequests + results.ioCount
        readErrors := s.polls.readErrors + (task.reading s results isConnected).readErrors } :=
  State.polls_updateStats internal _

theorem polls_countPoll (internal : task.internalMetrics = true) (location : Location) :
    ({ s.countPoll task with location := location } : State).polls =
      { s.polls with pollsTotal := s.polls.pollsTotal + 1 } :=
  State.polls_updateStats internal fun stats => { stats with pollsTotal := stats.pollsTotal + 1 }

theorem polls_recordPollError (internal : task.internalMetrics = true) (elapsed : Duration)
    (location : Location) :
    ({ s.recordPollError task elapsed with location := location } : State).polls =
      { s.polls.setPollDuration elapsed with pollsError := s.polls.pollsError + 1 } :=
  State.polls_updateStats internal fun stats =>
    { stats.setPollDuration elapsed with pollsError := stats.pollsError + 1 }

theorem polls_failedPrePoll (internal : task.internalMetrics = true) (elapsed : Duration)
    (location : Location) :
    (task.failedPrePoll s elapsed location).polls =
      { s.polls.setPollDuration elapsed with pollsError := s.polls.pollsError + 1 } :=
  polls_recordPollError internal elapsed location

theorem polls_completed (internal : task.internalMetrics = true) (results : ReadResults)
    (isConnected : Bool) (elapsed : Duration) (location : Location) :
    (task.completed s results isConnected elapsed location).polls =
      let stats := (task.readState s results isConnected).polls
      if (task.reading s results isConnected).pollHadError then
        { stats.setPollDuration elapsed with pollsError := stats.pollsError + 1 }
      else { stats.setPollDuration elapsed with pollsSuccess := stats.pollsSuccess + 1 } :=
  State.polls_updateStats internal fun stats =>
    if (task.reading s results isConnected).pollHadError then
      { stats.setPollDuration elapsed with pollsError := stats.pollsError + 1 }
    else { stats.setPollDuration elapsed with pollsSuccess := stats.pollsSuccess + 1 }

/-- The cycles under way: one or none. -/
def Location.open (location : Location) : ℕ := if location.InCycle then 1 else 0

theorem open_afterConnect (task : Task) {writing : Location} (idle : writing.open = 0) :
    (task.afterConnect writing).open = 0 := by
  unfold Task.afterConnect
  split
  · exact idle
  · rfl

/-- A task that leaves at the start of a cycle has counted it. -/
def Abandons (s : State) (events : List Event) : Prop :=
  s.location = .cycleStart ∧ .returned ∈ events

instance (s : State) (events : List Event) : Decidable (Abandons s events) :=
  inferInstanceAs (Decidable (_ ∧ _))

/-- What a step adds to the counters: the cycles that are counted are those with an outcome,
those under way, and those that the step abandons. -/
structure Tallied (task : Task) (s s' : State) (events : List Event) : Prop where
  balance : s'.polls.pollsTotal +
      (s.polls.pollsSuccess + s.polls.pollsError + s.location.open) =
    s.polls.pollsTotal +
      (s'.polls.pollsSuccess + s'.polls.pollsError + s'.location.open) +
        if Abandons s events then 1 else 0
  succeeded : s'.polls.pollsSuccess = s.polls.pollsSuccess + events.countP task.succeeded

/-- A step outside the cycles leaves the counters alone. -/
theorem tallied_of_idle (same : s'.polls = s.polls) (before : s.location.open = 0)
    (after : s'.location.open = 0) (stays : ¬ Abandons s events)
    (silent : events.countP task.succeeded = 0) : Tallied task s s' events :=
  ⟨by simp [same, before, after, stays], by rw [same, silent, Nat.add_zero]⟩

theorem Transition.tallied (internal : task.internalMetrics = true)
    (transition : Transition task s s' events) : Tallied task s s' events := by
  cases transition with
  | signal | close => exact ⟨by simp [State.polls, Abandons], by simp [State.polls, Task.succeeded]⟩
  | connected at_location =>
    exact tallied_of_idle rfl (by rw [at_location]; rfl) (open_afterConnect task rfl)
      (by simp [Abandons]) (by simp [Task.succeeded])
  | reconnected at_location =>
    exact tallied_of_idle rfl (by rw [at_location]; rfl) (open_afterConnect task rfl)
      (by simp [Abandons]) (by simp [Task.succeeded])
  -- The one step that counts a cycle and neither enters it nor gives it an outcome.
  | leftAtStart at_start set =>
    constructor
    · rw [polls_countPoll internal, at_start]
      simp [Abandons, at_start, Location.open, Location.InCycle]
      omega
    · rw [polls_countPoll internal]
      simp [Task.succeeded]
  | prePollStarted at_start unset executes | readStarted at_start unset executes =>
    constructor
    · rw [polls_countPoll internal, at_start]
      simp [Abandons, at_start, Location.open, Location.InCycle]
      omega
    · rw [polls_countPoll internal]
      simp [Task.succeeded]
  | prePolled at_prePoll =>
    refine ⟨?_, by simp [State.polls, Task.succeeded]⟩
    simp [State.polls, Abandons, at_prePoll, Location.open, Location.InCycle]
  | escalated elapsed at_prePoll | skippedEarly elapsed rest at_prePoll
  | skippedLate elapsed at_prePoll =>
    constructor
    · rw [polls_failedPrePoll internal, at_prePoll]
      simp [Abandons, at_prePoll, Location.open, Location.InCycle, CollectorStats.setPollDuration]
      omega
    · rw [polls_failedPrePoll internal]
      simp [Task.succeeded, CollectorStats.setPollDuration]
  | lost results isConnected elapsed at_read gone =>
    -- A read is lost only over a failed metric, so it is not among the successes.
    have failed : results.metrics.pairs.any (isFailure task.collector.metrics) = true := by
      rw [Task.reading, connectionError_readLoop] at gone
      simp only [Reading.start, Bool.false_or, Bool.and_eq_true] at gone
      exact gone.2
    constructor
    · rw [polls_recordPollError internal, polls_readState internal, at_read]
      simp [Abandons, at_read, Location.open, Location.InCycle, CollectorStats.setPollDuration]
      omega
    · rw [polls_recordPollError internal, polls_readState internal]
      simp [Task.succeeded, CollectorStats.setPollDuration, failed]
  | completedEarly results isConnected elapsed rest at_read kept
  | completedLate results isConnected elapsed at_read kept =>
    -- The outcome that is counted is read off the results, as `succeeded` does.
    have hadError : (task.reading s results isConnected).pollHadError =
        results.metrics.pairs.any (isFailure task.collector.metrics) := by
      rw [Task.reading, pollHadError_readLoop]
      rfl
    constructor
    · rw [polls_completed internal, polls_readState internal, at_read]
      simp only [Abandons, at_read, Location.open, Location.InCycle,
        CollectorStats.setPollDuration, Task.completed_location]
      split <;> simp <;> omega
    · rw [polls_completed internal, polls_readState internal, hadError]
      simp only [CollectorStats.setPollDuration]
      split <;> simp [Task.succeeded, *]
  | left at_location | written at_location | slept at_location =>
    refine tallied_of_idle rfl ?_ rfl ?_ ?_
    · grind [Location.open, Location.InCycle]
    · grind [Abandons]
    · simp [Task.succeeded]
  | initialWaited _ at_location | connectFailed at_location | initWriteFailed at_location
  | leftDisconnected at_location | reconnectWaited at_location | reconnectFailed at_location
  | rewriteFailed at_location | leftLate at_location =>
    exact tallied_of_idle rfl (by rw [at_location]; rfl) rfl (by simp [Abandons, at_location])
      (by simp [Task.succeeded])

/-- A task leaves at the start of a cycle exactly when the cycle starts with the flag set. -/
theorem abandons_iff {input : Input} (stepped : task.step s input = some (s', events)) :
    Abandons s events ↔ StartsFlagged (s, input) := by
  constructor
  · rintro ⟨at_start, left⟩
    cases input with
    -- Only the start of a cycle can return from there, and only with the flag set.
    | proceed =>
      refine ⟨at_start, ?_⟩
      simp only [Task.step, at_start, Option.some_inj] at stepped
      cases set : s.shutdown with
      | true => rfl
      | false =>
        have started : (task.startCycle s).2 = events := congrArg Prod.snd stepped
        rw [← started] at left
        unfold Task.startCycle at left
        rw [if_neg (by simp [State.countPoll, set])] at left
        split at left <;> simp at left
    | signal | close =>
      cases stepped
      simp at left
    | _ => simp [Task.step, at_start] at stepped
  · intro flagged
    cases input with
    | proceed =>
      obtain ⟨at_start, set⟩ := flagged
      simp only [Task.step, at_start, Option.some_inj] at stepped
      have started : (task.startCycle s).2 = events := congrArg Prod.snd stepped
      refine ⟨at_start, ?_⟩
      rw [← started, Task.startCycle, if_pos (by exact set)]
      simp [State.leave]
    | _ => exact flagged.elim

/-- The counters of a run: what was counted is what has an outcome, what is under way and what
was abandoned, and the successes are the reads that brought no error. -/
theorem polls_of_run (internal : task.internalMetrics = true) {steps : List (State × Input)}
    {history : List Event} (run : task.machine.Run steps s history) :
    s.polls.pollsTotal = s.polls.pollsSuccess + s.polls.pollsError + s.location.open +
        steps.countP (fun step => decide (StartsFlagged step)) ∧
      s.polls.pollsSuccess = history.countP task.succeeded := by
  induction run with
  | init => exact ⟨rfl, rfl⟩
  | step run stepped ih =>
    rename_i input _
    obtain ⟨balance, succeeded⟩ := (transition_of_step stepped).tallied internal
    rw [List.countP_append, List.countP_reverse, List.countP_cons]
    simp only [abandons_iff stepped] at balance
    simp only [decide_eq_true_eq]
    omega

/-- Outside a cycle the counters balance, and the successes are the reads that brought no
error, exactly when no cycle of the run was started with the shutdown flag set. -/
theorem polls_balance_iff (internal : task.internalMetrics = true)
    {steps : List (State × Input)} {history : List Event}
    (run : task.machine.Run steps s history) (outside : ¬ s.location.InCycle) :
    (s.polls.pollsTotal = s.polls.pollsSuccess + s.polls.pollsError ∧
        s.polls.pollsSuccess = history.countP task.succeeded) ↔
      ∀ step ∈ steps, ¬ StartsFlagged step := by
  obtain ⟨total, success⟩ := polls_of_run internal run
  have idle : s.location.open = 0 := if_neg outside
  -- The balance is off by the number of flagged starts, so it holds exactly if there is none.
  have none_flagged : steps.countP (fun step => decide (StartsFlagged step)) = 0 ↔
      ∀ step ∈ steps, ¬ StartsFlagged step := by
    simp [List.countP_eq_zero]
  rw [← none_flagged]
  omega

/-- The sensor connects, polls once and sleeps. -/
theorem polls_balance_iff_sensor :
    ∃ steps s history, sensorTask.machine.Run steps s history ∧ s.location = .sleeping ∧
      ((s.polls.pollsTotal = s.polls.pollsSuccess + s.polls.pollsError ∧
        s.polls.pollsSuccess = history.countP sensorTask.succeeded) ↔
          ∀ step ∈ steps, ¬ StartsFlagged step) := by
  have start : sensorTask.machine.Run [] sensorTask.machine.init [] := .init
  have connected := start.next (.connected (.ok ())) rfl
  have written := connected.next (.wrote (.ok ()) 0) rfl
  have started := written.next .proceed rfl
  have prePolled := started.next (.wrote (.ok ()) 0) rfl
  have polled := prePolled.next (.readDone ⟨∅, 1⟩ true 0) rfl
  exact ⟨_, _, _, polled, rfl, polls_balance_iff rfl polled (by decide)⟩

/-- A signal during `init_writes` leaves the sensor with one cycle counted and no outcome. -/
theorem polls_unbalanced_by_shutdown :
    ¬ ∀ steps s history, sensorTask.machine.Run steps s history → ¬ s.location.InCycle →
      s.polls.pollsTotal = s.polls.pollsSuccess + s.polls.pollsError ∧
        s.polls.pollsSuccess = history.countP sensorTask.succeeded := by
  intro balance
  have start : sensorTask.machine.Run [] sensorTask.machine.init [] := .init
  have connected := start.next (.connected (.ok ())) rfl
  have signalled := connected.next .signal rfl
  have written := signalled.next (.wrote (.ok ()) 0) rfl
  -- The flag is only looked at after the cycle was counted.
  have left := written.next .proceed rfl
  have counted := (balance _ _ _ left (by decide)).1
  exact absurd counted (by decide)

end BusExporter.Collector
