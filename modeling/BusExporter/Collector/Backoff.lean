import BusExporter.Collector.Transition

/-!
# Back-off

The waits before new connection attempts. A stretch of a run without a completed
poll cycle is meant to wait 1, 2, 4, … seconds, at most 60. The code starts over
at one second whenever a connect succeeds, so a stretch keeps to the schedule
exactly as long as no connect that succeeded after a wait is followed by another
wait.
-/

namespace BusExporter.Collector

open Foundation Metrics

/-- The wait after `i` others: `min(2^i, 60)` seconds. -/
def scheduledWait (i : ℕ) : Duration := Duration.ofSecs (min (2 ^ i) 60)

/-- The number of waits since the last completed poll cycle. -/
def waitsSinceCycle : List Event → ℕ
  | [] => 0
  | .publish _ :: _ => 0
  | .backoff _ :: earlier => waitsSinceCycle earlier + 1
  | _ :: earlier => waitsSinceCycle earlier

/-- Every wait is the one that its place in its stretch asks for. -/
def BackoffGrows (history : List Event) : Prop :=
  Throughout
    (fun event earlier => ∀ duration, event = .backoff duration →
      duration = scheduledWait (waitsSinceCycle earlier)) history

/-- A connect has succeeded after a wait, and no poll cycle was completed since. -/
def ReconnectedInStretch : List Event → Prop
  | [] => False
  | .publish _ :: _ => False
  | .connect true :: earlier => waitsSinceCycle earlier ≠ 0 ∨ ReconnectedInStretch earlier
  | _ :: earlier => ReconnectedInStretch earlier

/-- No connect that succeeded after a wait is followed by another wait before a poll cycle
is completed. -/
def NoRelapse (history : List Event) : Prop :=
  Throughout (fun event earlier => ∀ duration, event = .backoff duration →
    ¬ ReconnectedInStretch earlier) history

@[simp]
theorem nextBackoff_scheduledWait (i : ℕ) :
    nextBackoff (scheduledWait i) = scheduledWait (i + 1) := by
  have doubled : (min (min (2 ^ i) 60 * 1000000000 * 2) (60 * 1000000000) : ℕ) =
      min (2 ^ (i + 1)) 60 * 1000000000 := by
    rw [pow_succ]
    omega
  exact doubled

theorem scheduledWait_zero : scheduledWait 0 = initialBackoff := rfl

/-- The schedule starts at one second and never returns to it. -/
theorem scheduledWait_eq_initial {i : ℕ} (same : scheduledWait i = initialBackoff) : i = 0 := by
  cases i with
  | zero => rfl
  | succ i =>
    have positive : 1 ≤ 2 ^ i := Nat.one_le_two_pow
    have seconds : (min (2 ^ (i + 1)) 60 * 1000000000 : ℕ) = 1 * 1000000000 := same
    rw [pow_succ] at seconds
    omega

/-! ## The invariant -/

/-- The task is waiting before a connection attempt. -/
def Location.waiting : Location → Bool
  | initialWait _ | reconnectWait => true
  | _ => false

/-- The task is neither waiting before a connection attempt nor has it returned. -/
def Location.active : Location → Bool
  | initialWait _ | reconnectWait | returned => false
  | _ => true

/-- How the back-off of a state relates to its stretch: it is one second after a successful
connect, and otherwise the next wait of the schedule, or the current one while waiting. -/
structure Tracks (s : State) (history : List Event) : Prop where
  waiting : s.location.waiting = true →
    ¬ ReconnectedInStretch history ∧
      ∃ i, waitsSinceCycle history = i + 1 ∧ s.backoff = scheduledWait i
  fresh : s.location.active = true → ¬ ReconnectedInStretch history →
    s.backoff = scheduledWait (waitsSinceCycle history)
  reset : s.location.active = true → ReconnectedInStretch history → s.backoff = initialBackoff
  waited : ReconnectedInStretch history → waitsSinceCycle history ≠ 0

/-- The schedule is kept exactly when there was no relapse, and then the state tracks it. -/
structure BackoffInv (s : State) (history : List Event) : Prop where
  grows_iff : BackoffGrows history ↔ NoRelapse history
  tracks : NoRelapse history → Tracks s history

/-- An event that neither waits nor changes what the next wait should be. -/
def Event.quiet : Event → Bool
  | backoff _ | publish _ | connect true => false
  | _ => true

section Events

variable {event : Event} {history : List Event}

@[simp]
theorem waitsSinceCycle_quiet (quiet : event.quiet = true) :
    waitsSinceCycle (event :: history) = waitsSinceCycle history := by
  cases event <;> first | rfl | simp [Event.quiet] at quiet

@[simp]
theorem reconnectedInStretch_quiet (quiet : event.quiet = true) :
    ReconnectedInStretch (event :: history) ↔ ReconnectedInStretch history := by
  cases event with
  | connect ok => cases ok <;> simp_all [Event.quiet, ReconnectedInStretch]
  | _ => simp_all [Event.quiet, ReconnectedInStretch]

theorem backoffGrows_cons (noWait : ∀ duration, event ≠ .backoff duration) :
    BackoffGrows (event :: history) ↔ BackoffGrows history := by
  simp [BackoffGrows, noWait]

theorem noRelapse_cons (noWait : ∀ duration, event ≠ .backoff duration) :
    NoRelapse (event :: history) ↔ NoRelapse history := by
  simp [NoRelapse, noWait]

end Events

namespace BackoffInv

variable {s s' : State} {history : List Event}

theorem init : BackoffInv Task.initial [] where
  grows_iff := by simp [BackoffGrows, NoRelapse]
  tracks _ := {
    waiting := by simp [Task.initial, Location.waiting]
    fresh _ _ := rfl
    reset _ reconnected := reconnected.elim
    waited reconnected := reconnected.elim }

/-- A quiet event changes nothing. -/
theorem push (inv : BackoffInv s history) (event : Event) (quiet : event.quiet = true) :
    BackoffInv s (event :: history) := by
  have noWait : ∀ duration, event ≠ .backoff duration := by
    rintro duration rfl
    simp [Event.quiet] at quiet
  refine ⟨?_, fun noRelapse => ?_⟩
  · rw [backoffGrows_cons noWait, noRelapse_cons noWait]
    exact inv.grows_iff
  · have tracks := inv.tracks ((noRelapse_cons noWait).mp noRelapse)
    constructor
    all_goals simp only [waitsSinceCycle_quiet quiet, reconnectedInStretch_quiet quiet]
    · exact tracks.waiting
    · exact tracks.fresh
    · exact tracks.reset
    · exact tracks.waited

/-- The task moves on with its back-off as it is. -/
theorem move (inv : BackoffInv s history) (backoff : s'.backoff = s.backoff)
    (waiting : s'.location.waiting = true → s.location.waiting = true)
    (active : s'.location.active = true → s.location.active = true) : BackoffInv s' history where
  grows_iff := inv.grows_iff
  tracks noRelapse := by
    have tracks := inv.tracks noRelapse
    constructor
    · rw [backoff]
      exact fun atWait => tracks.waiting (waiting atWait)
    · rw [backoff]
      exact fun atWork => tracks.fresh (active atWork)
    · rw [backoff]
      exact fun atWork => tracks.reset (active atWork)
    · exact tracks.waited

/-- The task starts to wait: on schedule, unless it had reconnected in this stretch. -/
theorem wait (inv : BackoffInv s history) (active : s.location.active = true)
    (backoff : s'.backoff = s.backoff) (inactive : s'.location.active = false) :
    BackoffInv s' (.backoff s.backoff :: history) := by
  have grows : BackoffGrows (.backoff s.backoff :: history) ↔
      s.backoff = scheduledWait (waitsSinceCycle history) ∧ BackoffGrows history := by
    simp [BackoffGrows]
  have noRelapse : NoRelapse (.backoff s.backoff :: history) ↔
      ¬ ReconnectedInStretch history ∧ NoRelapse history := by
    simp [NoRelapse]
  refine ⟨?_, fun kept => ?_⟩
  · rw [grows, noRelapse, inv.grows_iff]
    -- In a stretch with a reconnect the back-off has started over and is off its schedule.
    refine and_congr_left fun kept => ?_
    have tracks := inv.tracks kept
    constructor
    · intro onSchedule reconnected
      rw [tracks.reset active reconnected] at onSchedule
      exact tracks.waited reconnected (scheduledWait_eq_initial onSchedule.symm)
    · exact tracks.fresh active
  · obtain ⟨fresh, kept⟩ := noRelapse.mp kept
    have tracks := inv.tracks kept
    exact {
      waiting := fun _ =>
        ⟨fresh, waitsSinceCycle history, rfl, backoff.trans (tracks.fresh active fresh)⟩
      fresh := by simp [inactive]
      reset := by simp [inactive]
      waited := fun reconnected => absurd reconnected fresh }

/-- A wait is over: the next one is due. -/
theorem waited (inv : BackoffInv s history) (waiting : s.location.waiting = true)
    (backoff : s'.backoff = nextBackoff s.backoff) (awake : s'.location.waiting = false) :
    BackoffInv s' history where
  grows_iff := inv.grows_iff
  tracks noRelapse := by
    obtain ⟨fresh, i, waits, current⟩ := (inv.tracks noRelapse).waiting waiting
    constructor
    · simp [awake]
    · intro _ _
      rw [backoff, current, nextBackoff_scheduledWait, waits]
    · exact fun _ reconnected => absurd reconnected fresh
    · exact fun reconnected => absurd reconnected fresh

/-- A connect succeeds: the back-off starts over, whatever the stretch has seen. -/
theorem connect (inv : BackoffInv s history) (backoff : s'.backoff = initialBackoff)
    (awake : s'.location.waiting = false) : BackoffInv s' (.connect true :: history) := by
  refine ⟨?_, fun noRelapse => ?_⟩
  · rw [backoffGrows_cons (by simp), noRelapse_cons (by simp)]
    exact inv.grows_iff
  · have tracks := inv.tracks ((noRelapse_cons (by simp)).mp noRelapse)
    have waits : waitsSinceCycle (.connect true :: history) = waitsSinceCycle history := rfl
    have reconnected : ReconnectedInStretch (.connect true :: history) ↔
        waitsSinceCycle history ≠ 0 ∨ ReconnectedInStretch history := Iff.rfl
    constructor
    · simp [awake]
    · rw [waits, reconnected, not_or, not_not]
      -- Before the first wait the schedule starts with the initial back-off as well.
      rintro - ⟨first, -⟩
      rw [first, backoff, scheduledWait_zero]
    · exact fun _ _ => backoff
    · rw [waits, reconnected]
      rintro (some_wait | earlier)
      · exact some_wait
      · exact tracks.waited earlier

/-- A poll cycle is completed: a new stretch begins with a fresh back-off. -/
theorem publish (inv : BackoffInv s history) (metrics : List MetricValue)
    (backoff : s'.backoff = initialBackoff) (awake : s'.location.waiting = false) :
    BackoffInv s' (.publish metrics :: history) := by
  refine ⟨?_, fun noRelapse => ?_⟩
  · rw [backoffGrows_cons (by simp), noRelapse_cons (by simp)]
    exact inv.grows_iff
  · constructor
    · simp [awake]
    · exact fun _ _ => backoff
    · exact fun _ reconnected => reconnected.elim
    · exact fun reconnected => reconnected.elim

end BackoffInv

theorem backoffInv_of_transition {task : Task} {s s' : State} {events history : List Event}
    (inv : BackoffInv s history) (transition : Transition task s s' events) :
    BackoffInv s' (events.reverse ++ history) := by
  -- A wait starts in a state that was at work, and a connect or a cycle ends it.
  cases transition with
  | signal => exact (inv.push _ rfl).move rfl id id
  | close => exact inv.move rfl id id
  | connected at_connect =>
    refine inv.connect rfl ?_
    simp only [Task.afterConnect]
    split <;> rfl
  | connectFailed at_connect =>
    exact (inv.push (.connect false) rfl).wait (by simp [at_connect, Location.active]) rfl rfl
  | initWriteFailed at_write =>
    exact ((inv.push (.executeWrites .initWrites false) rfl).push .disconnect rfl).wait
      (by simp [at_write, Location.active]) rfl rfl
  | initialWaited disconnected at_wait =>
    exact inv.waited (by simp [at_wait, Location.waiting]) rfl rfl
  | leftDisconnected at_wait changed =>
    exact (inv.push .returned rfl).move rfl (by simp [Location.waiting]) (by simp [Location.active])
  | left at_wait changed =>
    exact ((inv.push .disconnect rfl).push .returned rfl).move rfl (by simp [Location.waiting])
      (by simp [Location.active])
  | written at_write =>
    refine (inv.push (.executeWrites .initWrites true) rfl).move rfl (by simp [Location.waiting]) ?_
    rcases at_write with at_write | at_write <;> simp [at_write, Location.active]
  | leftAtStart at_start shutdown =>
    exact ((inv.push .disconnect rfl).push .returned rfl).move rfl (by simp [Location.waiting])
      (by simp [Location.active])
  | prePollStarted at_start shutdown executes =>
    exact inv.move rfl (by simp [Location.waiting]) (by simp [at_start, Location.active])
  | readStarted at_start shutdown executes =>
    exact (inv.push .read rfl).move rfl (by simp [Location.waiting])
      (by simp [at_start, Location.active])
  | prePolled at_prePoll =>
    exact ((inv.push (.executeWrites .prePoll true) rfl).push .read rfl).move rfl
      (by simp [Location.waiting]) (by simp [at_prePoll, Location.active])
  | escalated elapsed at_prePoll third =>
    exact ((inv.push (.executeWrites .prePoll false) rfl).push .disconnect rfl).wait
      (by simp [at_prePoll, Location.active]) rfl rfl
  | skippedEarly elapsed rest at_prePoll early =>
    exact ((inv.push (.executeWrites .prePoll false) rfl).push (.sleep rest) rfl).move rfl
      (by simp [Task.failedPrePoll, Location.waiting]) (by simp [at_prePoll, Location.active])
  | skippedLate elapsed at_prePoll early =>
    exact (inv.push (.executeWrites .prePoll false) rfl).move rfl
      (by simp [Task.failedPrePoll, Location.waiting]) (by simp [at_prePoll, Location.active])
  | lost results isConnected elapsed at_read gone =>
    exact ((inv.push (.readDone results isConnected) rfl).push .disconnect rfl).wait
      (by simp [at_read, Location.active]) rfl rfl
  | completedEarly results isConnected elapsed rest at_read kept =>
    exact ((inv.push (.readDone results isConnected) rfl).publish _ rfl rfl).push (.sleep rest) rfl
  | completedLate results isConnected elapsed at_read kept =>
    exact (inv.push (.readDone results isConnected) rfl).publish _ rfl rfl
  | reconnectWaited at_wait =>
    exact inv.waited (by simp [at_wait, Location.waiting]) rfl rfl
  | reconnected at_reconnect =>
    refine inv.connect rfl ?_
    simp only [Task.afterConnect]
    split <;> rfl
  | reconnectFailed at_reconnect =>
    exact ((inv.push (.connect false) rfl).push .disconnect rfl).wait
      (by simp [at_reconnect, Location.active]) rfl rfl
  | rewriteFailed at_write =>
    exact ((inv.push (.executeWrites .initWrites false) rfl).push .disconnect rfl).wait
      (by simp [at_write, Location.active]) rfl rfl
  | slept at_sleep =>
    refine inv.move rfl (by simp [Location.waiting]) ?_
    rcases at_sleep with at_sleep | ⟨at_overrun, -⟩
    · simp [at_sleep, Location.active]
    · simp [at_overrun, Location.active]
  | leftLate at_overrun shutdown =>
    exact ((inv.push .disconnect rfl).push .returned rfl).move rfl (by simp [Location.waiting])
      (by simp [Location.active])

/-- A run's waits keep to the schedule exactly when no connect that succeeded after a wait is
followed by another wait before a poll cycle is completed. -/
theorem backoffGrows_iff {task : Task} {s : State} {history : List Event}
    (reaches : task.machine.Reaches s history) : BackoffGrows history ↔ NoRelapse history :=
  (reaches.invariant BackoffInv BackoffInv.init fun _ inv stepped =>
    backoffInv_of_transition inv (transition_of_step stepped)).grows_iff

/-- The connect succeeds and the first write fails, twice. -/
def failingInitWrites : List Input :=
  [.connected (.ok ()), .wrote (.error (.msg "NACK")) 0, .elapsed,
    .connected (.ok ()), .wrote (.error (.msg "NACK")) 0]

def failingInitWritesHistory : List Event :=
  [.backoff (Duration.ofSecs 1), .disconnect, .executeWrites .initWrites false, .connect true,
    .backoff (Duration.ofSecs 1), .disconnect, .executeWrites .initWrites false, .connect true]

theorem sensorTask_reaches : ∃ s, sensorTask.machine.Reaches s failingInitWritesHistory :=
  ⟨_, Machine.reaches_of_run failingInitWrites rfl⟩

/-- Failing `init_writes` are retried every second: the second wait of the stretch is as long
as the first. -/
theorem backoff_restarts :
    ∃ s history, sensorTask.machine.Reaches s history ∧ ¬ BackoffGrows history := by
  obtain ⟨s, reaches⟩ := sensorTask_reaches
  refine ⟨s, _, reaches, fun grows => ?_⟩
  have second := grows [] (.backoff (Duration.ofSecs 1)) _ rfl _ rfl
  revert second
  decide

theorem backoffGrows_iff_failing_init_writes :
    BackoffGrows failingInitWritesHistory ↔ NoRelapse failingInitWritesHistory := by
  obtain ⟨s, reaches⟩ := sensorTask_reaches
  exact backoffGrows_iff reaches

end BusExporter.Collector
