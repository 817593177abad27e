import BusExporter.Collector.Shutdown

/-!
# Where a task can get

A task that has not been told to shut down can come to a read from everywhere, if
its device lets it, and a task in the middle of a cycle can do so even after it was
told. A task that was told can always come to its end.
-/

namespace BusExporter.Collector

open Foundation

/-- An input that does not come from the other end of the shutdown channel. -/
def Input.own : Input → Bool
  | signal | close => false
  | _ => true

/-- Some inputs of its own bring a task from one state to another. -/
inductive Goes (task : Task) : State → State → Prop
  | refl (s : State) : Goes task s s
  | step {s s' s'' : State} (input : Input) {events : List Event} : input.own = true →
    task.step s input = some (s', events) → Goes task s' s'' → Goes task s s''

/-- The task can come to a location. -/
def CanReach (task : Task) (location : Location) (s : State) : Prop :=
  ∃ s', Goes task s s' ∧ s'.location = location

variable {task : Task} {s s' : State} {location : Location}

theorem CanReach.here (at_location : s.location = location) : CanReach task location s :=
  ⟨s, .refl s, at_location⟩

theorem CanReach.step (reach : CanReach task location s') (input : Input) (own : input.own = true)
    {events : List Event} (stepped : task.step s input = some (s', events)) :
    CanReach task location s := by
  obtain ⟨last, goes, at_location⟩ := reach
  exact ⟨last, .step input own stepped goes, at_location⟩

/-! ## To a read -/

theorem canRead_of_prePolling (at_prePoll : s.location = .prePolling) :
    CanReach task .reading s := by
  have read : CanReach task .reading
      { s with location := .reading, prePollConsecutiveFailures := 0 } := .here rfl
  apply read.step (.wrote (.ok ()) 0) rfl
  unfold Task.step
  simp only [at_prePoll]
  rfl

theorem canRead_of_cycleStart (at_start : s.location = .cycleStart) (unset : s.shutdown = false) :
    CanReach task .reading s := by
  have started : CanReach task .reading (task.startCycle s).1 := by
    rw [Task.startCycle, if_neg (by simp [State.countPoll, unset])]
    split
    · exact canRead_of_prePolling rfl
    · exact .here rfl
  apply started.step .proceed rfl
  unfold Task.step
  simp only [at_start]
  rfl

/-- The `init_writes` succeed, or there are none. -/
theorem canRead_of_afterConnect {writing : Location}
    (at_location : s.location = task.afterConnect writing)
    (isWriting : writing = .initWriting ∨ writing = .reconnectWriting)
    (unset : s.shutdown = false) : CanReach task .reading s := by
  have started : CanReach task .reading { s with location := .cycleStart } :=
    canRead_of_cycleStart rfl unset
  unfold Task.afterConnect at at_location
  split at at_location
  · apply started.step (.wrote (.ok ()) 0) rfl
    rcases isWriting with rfl | rfl <;> simp only [Task.step, at_location] <;> rfl
  · exact canRead_of_cycleStart at_location unset

theorem canRead_of_connecting (at_location : s.location = .connecting)
    (unset : s.shutdown = false) : CanReach task .reading s := by
  have connected : CanReach task .reading (task.connected s .initWriting).1 :=
    canRead_of_afterConnect rfl (.inl rfl) unset
  apply connected.step (.connected (.ok ())) rfl
  unfold Task.step
  simp only [at_location]
  rfl

theorem canRead_of_reconnecting (at_location : s.location = .reconnecting)
    (unset : s.shutdown = false) : CanReach task .reading s := by
  have connected : CanReach task .reading
      (task.connected { s with prePollConsecutiveFailures := 0 } .reconnectWriting).1 :=
    canRead_of_afterConnect rfl (.inr rfl) unset
  apply connected.step (.connected (.ok ())) rfl
  unfold Task.step
  simp only [at_location]
  rfl

/-- A task that is not told to shut down can come to a read from everywhere. -/
theorem canRead (unset : s.shutdown = false) (running : s.location ≠ .returned) :
    CanReach task .reading s := by
  -- Every wait and every write can end well, and then a cycle starts.
  have next : CanReach task .reading { s with location := .cycleStart } :=
    canRead_of_cycleStart rfl unset
  cases at_location : s.location with
  | connecting => exact canRead_of_connecting at_location unset
  | reconnecting => exact canRead_of_reconnecting at_location unset
  | cycleStart => exact canRead_of_cycleStart at_location unset
  | prePolling => exact canRead_of_prePolling at_location
  | reading => exact .here at_location
  | initialWait disconnected =>
    have retried : CanReach task .reading
        { s with location := .connecting, backoff := nextBackoff s.backoff } :=
      canRead_of_connecting rfl unset
    apply retried.step .elapsed rfl
    unfold Task.step
    simp only [at_location]
    rfl
  | reconnectWait =>
    have retried : CanReach task .reading
        { s with location := .reconnecting, backoff := nextBackoff s.backoff } :=
      canRead_of_reconnecting rfl unset
    apply retried.step .elapsed rfl
    unfold Task.step
    simp only [at_location]
    rfl
  | initWriting | reconnectWriting =>
    apply next.step (.wrote (.ok ()) 0) rfl
    unfold Task.step
    simp only [at_location]
    rfl
  | sleeping =>
    apply next.step .elapsed rfl
    unfold Task.step
    simp only [at_location]
    rfl
  | overrun =>
    apply next.step .proceed rfl
    unfold Task.step
    simp only [at_location, unset, Bool.false_eq_true, if_false]
    rfl
  | returned => exact absurd at_location running

/-- A task that can still publish can come to a read. -/
theorem canRead_of_not_quiet (loud : ¬ s.Quiet) : CanReach task .reading s := by
  unfold State.Quiet at loud
  rw [not_or, not_and_or] at loud
  obtain ⟨running, unset | under_way⟩ := loud
  · exact canRead (by simpa using unset) running
  · unfold Location.publishesLeft at under_way
    split at under_way
    · rename_i in_cycle
      rcases in_cycle with at_prePoll | at_read
      · exact canRead_of_prePolling at_prePoll
      · exact .here at_read
    · exact absurd rfl under_way

theorem step_readDone (at_read : s.location = .reading) (results : ReadResults)
    (isConnected : Bool) (elapsed : Duration) :
    task.step s (.readDone results isConnected elapsed) =
      some ((task.readReturned s results isConnected elapsed).1,
        (task.readReturned s results isConnected elapsed).2) := by
  unfold Task.step
  simp only [at_read]

/-- A read that brings no error is published. -/
theorem publishes_of_reading (at_read : s.location = .reading) :
    ∃ s' events metrics,
      task.step s (.readDone ⟨∅, 0⟩ true 0) = some (s', events) ∧ .publish metrics ∈ events := by
  refine ⟨_, _, (task.snapshot s ⟨∅, 0⟩ true).values, step_readDone at_read _ _ _, ?_⟩
  have kept : (task.reading s ⟨∅, 0⟩ true).connectionError = false := rfl
  rw [Task.reading] at kept
  simp only [Task.readReturned, kept, Bool.false_eq_true, if_false, Task.completeCycle]
  exact List.mem_cons_of_mem _ (.head _)

/-! ## To the end -/

theorem canReturn_of_wait (at_wait : s.location = .reconnectWait ∨ s.location = .sleeping)
    (changed : s.changed = true) : CanReach task .returned s := by
  have left : CanReach task .returned s.leave.1 := .here rfl
  apply left.step .changed rfl
  rcases at_wait with at_wait | at_wait <;>
    simp only [Task.step, at_wait, changed, if_true] <;> rfl

theorem canReturn_of_initialWait {disconnected : Bool}
    (at_wait : s.location = .initialWait disconnected) (changed : s.changed = true) :
    CanReach task .returned s := by
  cases disconnected with
  | false =>
    have left : CanReach task .returned s.leave.1 := .here rfl
    apply left.step .changed rfl
    unfold Task.step
    simp only [at_wait, changed, if_true, Bool.false_eq_true, if_false]
    rfl
  | true =>
    have left : CanReach task .returned { s with location := .returned } := .here rfl
    apply left.step .changed rfl
    unfold Task.step
    simp only [at_wait, changed, if_true]
    rfl

theorem canReturn_of_overrun (at_overrun : s.location = .overrun) (set : s.shutdown = true) :
    CanReach task .returned s := by
  have left : CanReach task .returned s.leave.1 := .here rfl
  apply left.step .proceed rfl
  unfold Task.step
  simp only [at_overrun, set, if_true]
  rfl

/-- The read returns, and its cycle ends with a wait or late. -/
theorem canReturn_of_reading (at_read : s.location = .reading) (set : s.shutdown = true)
    (changed : s.changed = true) : CanReach task .returned s := by
  have done : CanReach task .returned (task.readReturned s ⟨∅, 0⟩ true 0).1 := by
    have kept : (task.reading s ⟨∅, 0⟩ true).connectionError = false := rfl
    rw [Task.reading] at kept
    simp only [Task.readReturned, kept, Bool.false_eq_true, if_false, Task.completeCycle,
      State.sleepOr]
    split
    · exact canReturn_of_wait (.inr rfl) changed
    · exact canReturn_of_overrun rfl set
  exact done.step (.readDone ⟨∅, 0⟩ true 0) rfl (step_readDone at_read ⟨∅, 0⟩ true 0)

/-- A task that was told to shut down can come to its end from everywhere. -/
theorem canReturn (set : s.shutdown = true) (changed : s.changed = true) :
    CanReach task .returned s := by
  -- Every place either notices the shutdown or can come to one that does.
  cases at_location : s.location with
  | connecting =>
    have waiting : CanReach task .returned { s with location := .initialWait false } :=
      canReturn_of_initialWait rfl changed
    apply waiting.step (.connected (.error (.msg ""))) rfl
    unfold Task.step
    simp only [at_location]
    rfl
  | initWriting =>
    have waiting : CanReach task .returned { s with location := .initialWait true } :=
      canReturn_of_initialWait rfl changed
    apply waiting.step (.wrote (.error (.msg "")) 0) rfl
    unfold Task.step
    simp only [at_location]
    rfl
  | initialWait disconnected => exact canReturn_of_initialWait at_location changed
  | cycleStart =>
    have left : CanReach task .returned (task.startCycle s).1 := by
      rw [Task.startCycle, if_pos (by exact set)]
      exact .here rfl
    apply left.step .proceed rfl
    unfold Task.step
    simp only [at_location]
    rfl
  | prePolling =>
    have read : CanReach task .returned
        { s with location := .reading, prePollConsecutiveFailures := 0 } :=
      canReturn_of_reading rfl set changed
    apply read.step (.wrote (.ok ()) 0) rfl
    unfold Task.step
    simp only [at_location]
    rfl
  | reading => exact canReturn_of_reading at_location set changed
  | reconnectWait => exact canReturn_of_wait (.inl at_location) changed
  | reconnecting =>
    have waiting : CanReach task .returned s.enterReconnect.1 :=
      canReturn_of_wait (.inl rfl) changed
    apply waiting.step (.connected (.error (.msg ""))) rfl
    unfold Task.step
    simp only [at_location]
    rfl
  | reconnectWriting =>
    have waiting : CanReach task .returned s.enterReconnect.1 :=
      canReturn_of_wait (.inl rfl) changed
    apply waiting.step (.wrote (.error (.msg "")) 0) rfl
    unfold Task.step
    simp only [at_location]
    rfl
  | sleeping => exact canReturn_of_wait (.inr at_location) changed
  | overrun => exact canReturn_of_overrun at_location set
  | returned => exact .here at_location

end BusExporter.Collector
