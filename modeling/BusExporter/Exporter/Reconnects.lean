import BusExporter.Exporter.MqttRun

/-!
# Reconnection waits

The `i`-th connection attempt in a row that fails before the broker acknowledges a
connection is meant to be followed by a wait of `min(2^(i-1), 60)` seconds. The code
starts over at one second whenever `online` was queued, which says nothing about the
broker. The waits keep to the schedule exactly as long as the status is queued only for
the first failed attempt in a row, and for that one after every acknowledged connection.
-/

namespace BusExporter.Mqtt

open Foundation
open Collector (scheduledWait scheduledWait_eq_initial)

/-! ## Attempts -/

/-- The connection attempts that have failed since the broker last acknowledged one. -/
def failures : List Event → ℕ
  | [] => 0
  | .acknowledged :: _ => 0
  | .failed :: earlier => failures earlier + 1
  | _ :: earlier => failures earlier

/-- The broker has acknowledged a connection. -/
def HadConnection : List Event → Prop
  | [] => False
  | .acknowledged :: _ => True
  | _ :: earlier => HadConnection earlier

/-- `online` was queued for the latest attempt. -/
def Announced : List Event → Prop
  | [] => False
  | .attempt _ :: _ => False
  | .announce _ queued :: _ => queued = true
  | _ :: earlier => Announced earlier

/-- Every wait after a failed attempt is the one that its place in the row asks for. -/
def BacksOff (history : List Event) : Prop :=
  Throughout
    (fun event earlier => ∀ duration, event = .wait duration → failures earlier ≠ 0 →
      duration = scheduledWait (failures earlier - 1)) history

/-- The wait after a failed attempt starts over with the first one of the row only, and with
that one if there was a connection before. -/
def StartsOverFirst (earlier : List Event) : Prop :=
  (Announced earlier → failures earlier = 1) ∧
    (¬ Announced earlier → failures earlier = 1 → ¬ HadConnection earlier)

/-- Of the attempts that fail in a row, `online` is queued for no other than the first, and for
the first if the broker had acknowledged a connection before. -/
def RejectedInTime (history : List Event) : Prop :=
  Throughout
    (fun event earlier => ∀ duration, event = .wait duration → failures earlier ≠ 0 →
      StartsOverFirst earlier) history

/-! ## The invariant -/

/-- The back-off of a new attempt, after some failures in a row. Right after a lost connection
the back-off has been doubled once too often. -/
def OnSchedule (backoff : Duration) (failures : ℕ) (history : List Event) : Prop :=
  (failures ≠ 0 ∨ ¬ HadConnection history → backoff = scheduledWait failures) ∧
    (failures = 0 → HadConnection history → backoff ≠ initialBackoff)

/-- The same while the attempt is under way and its own failure is counted already. -/
def Pending (s : State) (history : List Event) : Prop :=
  (s.eventLoop = .connecting → OnSchedule s.backoff (failures history) history) ∧
    (s.eventLoop = .failed → OnSchedule s.backoff (failures history - 1) history)

/-- `online` has been queued for the attempt that the task is in. -/
def Location.queued : Location → Bool
  | serving | publishing _ | joining true => true
  | _ => false

/-- `online` has been rejected, or is still to be published. -/
def Location.unqueued : Location → Bool
  | announcing | joining false => true
  | _ => false

/-- How a state relates to the history of its run. -/
structure Observed (s : State) (history : List Event) : Prop where
  positive : initialBackoff ≤ s.backoff
  started : s.eventLoop = .unstarted → s.location = .top ∨ s.location = .returned
  settled : s.location = .top ∨ s.location = .waiting → s.eventLoop.running = false
  acknowledged : s.eventLoop = .connected ∨ s.eventLoop = .lost →
    failures history = 0 ∧ HadConnection history
  failed : s.eventLoop = .failed → failures history ≠ 0
  stopped : s.eventLoop = .stopped → s.cancelled = true
  queued : s.location.queued = true → Announced history ∧ s.backoff = initialBackoff
  unqueued : s.location.unqueued = true → ¬ Announced history

/-- Where the back-off of a state is on schedule. -/
structure Tracks (s : State) (history : List Event) : Prop where
  top : s.location = .top → OnSchedule s.backoff (failures history) history
  pending : s.location.unqueued = true → Pending s history
  waiting : s.location = .waiting →
    (failures history ≠ 0 → s.backoff = scheduledWait (failures history - 1)) ∧
      (failures history = 0 → HadConnection history)

/-- The schedule is kept exactly when no `online` is queued out of place, and then the state
tracks it. -/
structure ScheduleInv (s : State) (history : List Event) : Prop where
  observed : Observed s history
  backsOff_iff : BacksOff history ↔ RejectedInTime history
  tracks : RejectedInTime history → Tracks s history

theorem initialBackoff_eq : initialBackoff = scheduledWait 0 := rfl

@[simp]
theorem nextBackoff_scheduledWait (i : ℕ) :
    nextBackoff (scheduledWait i) = scheduledWait (i + 1) :=
  Collector.nextBackoff_scheduledWait i

/-- A doubled back-off is longer than the one the schedule starts with. -/
theorem nextBackoff_ne {backoff : Duration} (positive : initialBackoff ≤ backoff) :
    nextBackoff backoff ≠ initialBackoff := by
  have seconds : (1 * 1000000000 : ℕ) ≤ backoff := positive
  change (min (backoff * 2) (60 * 1000000000) : ℕ) ≠ 1 * 1000000000
  omega

theorem initialBackoff_le_nextBackoff {backoff : Duration} (positive : initialBackoff ≤ backoff) :
    initialBackoff ≤ nextBackoff backoff := by
  have seconds : (1 * 1000000000 : ℕ) ≤ backoff := positive
  change (1 * 1000000000 : ℕ) ≤ min (backoff * 2) (60 * 1000000000)
  omega

@[simp]
theorem publishNext_queued (left : List Message) : (publishNext left).queued = true := by
  cases left <;> rfl

variable {exporter : Exporter} {s s' : State} {events history : List Event}

/-! ## What is observed -/

theorem observed_initial (exporter : Exporter) : Observed exporter.initial [] where
  positive := le_rfl
  started _ := by
    change (if _ then Location.top else .returned) = _ ∨ (if _ then Location.top else .returned) = _
    split <;> simp
  settled _ := rfl
  acknowledged := by simp [Exporter.initial]
  failed := by simp [Exporter.initial]
  stopped := by simp [Exporter.initial]
  queued := by
    change (if _ then Location.top else .returned).queued = _ → _
    split <;> simp [Location.queued]
  unqueued _ := id

theorem Location.ne_of_queued {location : Location} (isQueued : location.queued = true) :
    location ≠ .top ∧ location ≠ .waiting ∧ location ≠ .returned ∧ location.unqueued = false := by
  cases location with
  | joining announced => cases announced <;> simp_all [Location.queued, Location.unqueued]
  | _ => simp_all [Location.queued, Location.unqueued]

/-- An event that no attempt and no connection depends on. -/
def Event.quiet : Event → Bool
  | publish _ _ | disconnect | returned => true
  | _ => false

theorem Observed.push (inv : Observed s history) {event : Event} (quiet : event.quiet = true) :
    Observed s (event :: history) := by
  cases event with
  | publish | disconnect | returned => exact { inv with }
  | _ => cases quiet

/-- Between the publishing of `online` and the end of the event loop only the location changes. -/
theorem Observed.serve {location : Location} (inv : Observed s history)
    (queued : s.location.queued = true) (next : location.queued = true) :
    Observed { s with location := location } history := by
  obtain ⟨notTop, -, notReturned, -⟩ := Location.ne_of_queued queued
  obtain ⟨notTop', notWaiting', -, notUnqueued⟩ := Location.ne_of_queued next
  exact { inv with
    started := fun unstarted => by simpa [notTop, notReturned] using inv.started unstarted
    settled := by simp [notTop', notWaiting']
    queued := fun _ => inv.queued queued
    unqueued := by simp [notUnqueued] }

theorem observed_of_transition (inv : Observed s history)
    (transition : Transition exporter s s' events) : Observed s' (events.reverse ++ history) := by
  cases transition with
  | idle => exact inv
  | cancel => exact { inv with stopped := fun _ => rfl }
  | acknowledged running =>
    exact { inv with
      started := by simp
      settled := fun settled => by simp [inv.settled settled] at running
      acknowledged := fun _ => ⟨rfl, trivial⟩
      failed := by simp
      stopped := by simp }
  | failed connecting =>
    exact { inv with
      started := by simp
      settled := fun _ => rfl
      acknowledged := by simp
      failed := fun _ => Nat.succ_ne_zero _
      stopped := by simp }
  | lost connected =>
    exact { inv with
      started := by simp
      settled := fun _ => rfl
      acknowledged := fun _ => inv.acknowledged (.inl connected)
      failed := by simp
      stopped := by simp }
  | stopped cancelled running =>
    exact { inv with
      started := by simp
      settled := fun _ => rfl
      acknowledged := by simp
      failed := by simp
      stopped := fun _ => cancelled }
  | attempt options given at_top =>
    exact {
      positive := inv.positive
      started := by simp
      settled := by simp
      acknowledged := by simp
      failed := by simp
      stopped := by simp
      queued := by simp [Location.queued]
      unqueued := fun _ => id }
  | announced at_announce running =>
    exact { inv with
      positive := le_rfl
      started := fun unstarted => by simpa [at_announce] using inv.started unstarted
      settled := by simp
      queued := fun _ => ⟨rfl, rfl⟩
      unqueued := by simp [Location.unqueued] }
  | rejected at_announce ended =>
    exact { inv with
      started := fun unstarted => by simpa [at_announce] using inv.started unstarted
      settled := by simp
      queued := by simp [Location.queued]
      unqueued := fun _ => Bool.false_ne_true }
  | ticked metrics at_serve =>
    exact inv.serve (by simp [at_serve, Location.queued]) (publishNext_queued _)
  | published message left at_publish =>
    exact (inv.serve (by simp [at_publish, Location.queued]) (publishNext_queued left)).push rfl
  | reported at_serve reported =>
    exact inv.serve (by simp [at_serve, Location.queued]) rfl
  | left at_serve cancelled =>
    exact { inv with
      started := fun unstarted => by simpa [at_serve] using inv.started unstarted
      settled := by simp
      queued := by simp [Location.queued]
      unqueued := by simp [Location.unqueued] }
  | returned done =>
    exact { inv with
      started := fun _ => .inr rfl
      settled := by simp
      queued := by simp [Location.queued]
      unqueued := by simp [Location.unqueued] }
  | waits announced at_join ended kept =>
    exact { inv with
      started := fun unstarted => by simpa [at_join] using inv.started unstarted
      settled := fun _ => ended
      queued := by simp [Location.queued]
      unqueued := by simp [Location.unqueued] }
  | waited at_wait =>
    exact { inv with
      positive := initialBackoff_le_nextBackoff inv.positive
      started := fun _ => .inl rfl
      settled := fun _ => inv.settled (.inr at_wait)
      queued := by simp [Location.queued]
      unqueued := by simp [Location.unqueued] }

/-- An event loop that has ended without a cancellation has ended by an error. -/
theorem Observed.failed_or_lost (observed : Observed s history) {announced : Bool}
    (at_join : s.location = .joining announced) (ended : s.eventLoop.running = false)
    (kept : s.cancelled = false) : s.eventLoop = .failed ∨ s.eventLoop = .lost := by
  cases loop : s.eventLoop with
  | unstarted => simpa [at_join] using observed.started loop
  | connecting | connected => simp [loop, EventLoop.running] at ended
  | failed => exact .inl rfl
  | lost => exact .inr rfl
  | stopped => simpa [kept] using observed.stopped loop

theorem Observed.busy (observed : Observed s history) (running : s.eventLoop.running = true) :
    s.location ≠ .top ∧ s.location ≠ .waiting := by
  constructor
  · intro at_top
    simp [observed.settled (.inl at_top)] at running
  · intro at_wait
    simp [observed.settled (.inr at_wait)] at running

/-! ## The schedule -/

/-- While the task serves a connection, the schedule has no say. -/
theorem tracks_of_queued (queued : s.location.queued = true) : Tracks s history := by
  obtain ⟨notTop, notWaiting, -, notUnqueued⟩ := Location.ne_of_queued queued
  exact ⟨by simp [notTop], by simp [notUnqueued], by simp [notWaiting]⟩

/-- Whether the wait after a failed attempt is on schedule depends on what started it. -/
theorem backoff_eq_iff (observed : Observed s history) (tracks : Tracks s history)
    {announced : Bool} (at_join : s.location = .joining announced)
    (ended : s.eventLoop.running = false) (kept : s.cancelled = false)
    (failing : failures history ≠ 0) :
    s.backoff = scheduledWait (failures history - 1) ↔ StartsOverFirst history := by
  cases announced with
  | true =>
    obtain ⟨queued, initial⟩ := observed.queued (by rw [at_join]; rfl)
    rw [StartsOverFirst, initial, initialBackoff_eq]
    constructor
    · intro same
      have first := scheduledWait_eq_initial same.symm
      exact ⟨fun _ => by omega, fun rejected => absurd queued rejected⟩
    · rintro ⟨first, -⟩
      rw [first queued]
  | false =>
    have rejected := observed.unqueued (by rw [at_join]; rfl)
    have failed : s.eventLoop = .failed :=
      (observed.failed_or_lost at_join ended kept).resolve_right fun lost =>
        failing (observed.acknowledged (.inr lost)).1
    obtain ⟨onSchedule, late⟩ := (tracks.pending (by rw [at_join]; rfl)).2 failed
    rw [StartsOverFirst]
    constructor
    · intro same
      refine ⟨fun queued => absurd queued rejected, fun _ first connected => ?_⟩
      exact late (by omega) connected (by rw [same, first]; rfl)
    · rintro ⟨-, fresh⟩
      refine onSchedule ?_
      by_cases first : failures history = 1
      · exact .inr (fresh rejected first)
      · exact .inl (by omega)

theorem tracks_initial (exporter : Exporter) : Tracks exporter.initial [] where
  top _ := ⟨fun _ => rfl, fun _ connected => connected.elim⟩
  pending := by
    change (if _ then Location.top else .returned).unqueued = _ → _
    split <;> simp [Location.unqueued]
  waiting := by
    change (if _ then Location.top else .returned) = _ → _
    split <;> simp

/-- A state on schedule stays there, also when it has waited for what the schedule asks. -/
theorem tracks_of_transition (observed : Observed s history) (inv : Tracks s history)
    (transition : Transition exporter s s' events)
    (onTime : ∀ duration, .wait duration ∈ events → failures history ≠ 0 →
      duration = scheduledWait (failures history - 1)) :
    Tracks s' (events.reverse ++ history) := by
  cases transition with
  | idle => exact inv
  | cancel => exact { inv with }
  | acknowledged running =>
    obtain ⟨notTop, notWaiting⟩ := observed.busy running
    exact ⟨fun at_top => absurd at_top notTop, fun _ => ⟨by simp, by simp⟩,
      fun at_wait => absurd at_wait notWaiting⟩
  | failed connecting =>
    obtain ⟨notTop, notWaiting⟩ := observed.busy (by rw [connecting]; rfl)
    refine ⟨fun at_top => absurd at_top notTop, fun unqueued => ⟨by simp, fun _ => ?_⟩,
      fun at_wait => absurd at_wait notWaiting⟩
    -- The failure is counted now, and the back-off belongs to the count before it.
    exact (inv.pending unqueued).1 connecting
  | lost connected =>
    obtain ⟨notTop, notWaiting⟩ := observed.busy (by rw [connected]; rfl)
    exact ⟨fun at_top => absurd at_top notTop, fun _ => ⟨by simp, by simp⟩,
      fun at_wait => absurd at_wait notWaiting⟩
  | stopped cancelled running =>
    exact ⟨inv.top, fun _ => ⟨by simp, by simp⟩, inv.waiting⟩
  | attempt options given at_top =>
    exact ⟨by simp, fun _ => ⟨fun _ => inv.top at_top, by simp⟩, by simp⟩
  | announced | reported => exact tracks_of_queued rfl
  | ticked | published => exact tracks_of_queued (publishNext_queued _)
  | rejected at_announce ended =>
    exact ⟨by simp, fun _ => inv.pending (by rw [at_announce]; rfl), by simp⟩
  | left | returned => exact ⟨by simp, by simp [Location.unqueued], by simp⟩
  | waits announced at_join ended kept =>
    refine ⟨by simp, by simp [Location.unqueued], fun _ => ⟨onTime s.backoff (by simp), ?_⟩⟩
    intro none
    rcases observed.failed_or_lost at_join ended kept with failed | lost
    · exact absurd none (observed.failed failed)
    · exact (observed.acknowledged (.inr lost)).2
  | waited at_wait =>
    obtain ⟨onTime, connected⟩ := inv.waiting at_wait
    refine ⟨fun _ => ⟨fun due => ?_, fun _ _ => nextBackoff_ne observed.positive⟩,
      by simp [Location.unqueued], by simp⟩
    have failing : failures history ≠ 0 := due.elim id fun fresh none => fresh (connected none)
    change nextBackoff s.backoff = scheduledWait (failures history)
    rw [onTime failing, nextBackoff_scheduledWait, Nat.sub_add_cancel (by omega)]

/-- A condition on waits is not concerned with other events. -/
theorem throughout_wait_append {admissible : Duration → List Event → Prop} {events : List Event}
    (noWait : ∀ event ∈ events, ∀ duration, event ≠ .wait duration) :
    Throughout (fun event earlier => ∀ duration, event = .wait duration →
      admissible duration earlier) (events ++ history) ↔
    Throughout (fun event earlier => ∀ duration, event = .wait duration →
      admissible duration earlier) history := by
  induction events with
  | nil => rfl
  | cons event events ih =>
    rw [List.cons_append, throughout_cons, ih fun e mem => noWait e (List.mem_cons_of_mem _ mem)]
    refine and_iff_right fun duration is_wait => ?_
    exact absurd is_wait (noWait event (List.mem_cons_self ..) duration)

theorem throughout_wait_cons {admissible : Duration → List Event → Prop} (backoff : Duration) :
    Throughout (fun event earlier => ∀ duration, event = .wait duration →
      admissible duration earlier) (.wait backoff :: history) ↔
    admissible backoff history ∧ Throughout (fun event earlier => ∀ duration,
      event = .wait duration → admissible duration earlier) history := by
  simp

/-- A wait begins where the task has joined its event loop, and nowhere else. -/
theorem Transition.wait_or (transition : Transition exporter s s' events) :
    (∃ announced, s.location = .joining announced ∧ s.eventLoop.running = false ∧
      s.cancelled = false ∧ events = [.wait s.backoff]) ∨
    ∀ event ∈ events.reverse, ∀ duration, event ≠ .wait duration := by
  cases transition with
  | waits announced at_join ended kept => exact .inl ⟨announced, at_join, ended, kept, rfl⟩
  | _ => exact .inr (by simp)

theorem scheduleInv_of_transition (inv : ScheduleInv s history)
    (transition : Transition exporter s s' events) :
    ScheduleInv s' (events.reverse ++ history) := by
  have observed := observed_of_transition inv.observed transition
  rcases transition.wait_or with ⟨announced, at_join, ended, kept, rfl⟩ | noWait
  · have onTime_iff : RejectedInTime history → failures history ≠ 0 →
        (s.backoff = scheduledWait (failures history - 1) ↔ StartsOverFirst history) :=
      fun rejected => backoff_eq_iff inv.observed (inv.tracks rejected) at_join ended kept
    refine ⟨observed, ?_, fun rejected => ?_⟩
    · rw [BacksOff, RejectedInTime, List.reverse_singleton, List.singleton_append,
        throughout_wait_cons, throughout_wait_cons]
      refine (and_congr_right' inv.backsOff_iff).trans (and_congr_left fun rejected => ?_)
      exact forall_congr' (onTime_iff rejected)
    · obtain ⟨first, earlier⟩ := (throughout_wait_cons s.backoff).mp rejected
      refine tracks_of_transition inv.observed (inv.tracks earlier) transition ?_
      intro duration mem failing
      obtain rfl : duration = s.backoff := by simpa using mem
      exact (onTime_iff earlier failing).mpr (first failing)
  · refine ⟨observed, ?_, fun rejected => ?_⟩
    · exact (throughout_wait_append noWait).trans
        (inv.backsOff_iff.trans (throughout_wait_append noWait).symm)
    · have earlier := (throughout_wait_append noWait).mp rejected
      refine tracks_of_transition inv.observed (inv.tracks earlier) transition ?_
      intro duration mem
      exact absurd rfl (noWait _ (List.mem_reverse.mpr mem) duration)

theorem scheduleInv_of_reaches (reaches : exporter.machine.Reaches s history) :
    ScheduleInv s history := by
  refine reaches.invariant ScheduleInv ?_ fun _ inv stepped =>
    scheduleInv_of_transition inv (transition_of_step stepped)
  exact ⟨observed_initial exporter, by simp [BacksOff, RejectedInTime],
    fun _ => tracks_initial exporter⟩

/-- After a queued `online` the wait is always one second. -/
theorem wait_of_announced (reaches : exporter.machine.Reaches s history) :
    Throughout (fun event earlier => ∀ duration, event = .wait duration → Announced earlier →
      duration = initialBackoff) history := by
  refine reaches.invariant (fun _ later => Throughout _ later) (throughout_nil _) ?_
  intro s s' history _ events earlier inv stepped
  have observed := (scheduleInv_of_reaches earlier).observed
  rcases (transition_of_step stepped).wait_or with ⟨announced, at_join, -, -, rfl⟩ | noWait
  · refine (throughout_wait_cons s.backoff).mpr ⟨fun queued => ?_, inv⟩
    cases announced with
    | true => exact (observed.queued (by rw [at_join]; rfl)).2
    | false => exact absurd queued (observed.unqueued (by rw [at_join]; rfl))
  · exact (throughout_wait_append noWait).mpr inv

/-- A run's waits keep to the schedule exactly when, of the attempts that fail in a row, `online`
is queued for no other than the first, and for the first if there was a connection before. -/
theorem backsOff_iff (reaches : exporter.machine.Reaches s history) :
    BacksOff history ↔ RejectedInTime history :=
  (scheduleInv_of_reaches reaches).backsOff_iff

/-! ## An unreachable broker -/

/-- An exporter with nothing but an endpoint. -/
def sample : Exporter where
  config := { endpoint := some "mqtt://broker" }
  read _ := .error "not found"

def sampleOptions : MqttOptions where
  clientId := "bus-exporter"
  host := "broker"
  port := 1883
  keepAlive := Duration.ofSecs 5
  credentials := none
  transport := none
  lastWill := statusMessage sample.config "offline"

/-- The broker cannot be reached: `online` is queued and the attempt fails, twice. -/
def unreachable : List Input :=
  [.proceed, .proceed, .polled .error, .changed, .proceed, .elapsed,
    .proceed, .proceed, .polled .error, .changed, .proceed]

def online : Message := statusMessage sample.config "online"

def unreachableHistory : List Event :=
  [.wait (Duration.ofSecs 1), .failed, .announce online true, .attempt sampleOptions,
    .wait (Duration.ofSecs 1), .failed, .announce online true, .attempt sampleOptions]

theorem sample_reaches_unreachable : ∃ s, sample.machine.Reaches s unreachableHistory :=
  ⟨_, Machine.reaches_of_run unreachable rfl⟩

/-- An unreachable broker is tried again every second. -/
theorem waits_do_not_grow :
    ∃ s history, sample.machine.Reaches s history ∧ ¬ BacksOff history := by
  obtain ⟨s, reaches⟩ := sample_reaches_unreachable
  refine ⟨s, _, reaches, fun backsOff => ?_⟩
  have second := backsOff [] (.wait (Duration.ofSecs 1)) _ rfl _ rfl
  revert second
  decide

/-- The second event loop fails before `online` is published. -/
def failsEarly : List Input :=
  [.proceed, .proceed, .polled .error, .changed, .proceed, .elapsed,
    .proceed, .polled .error, .proceed, .proceed]

def failsEarlyHistory : List Event :=
  [.wait (Duration.ofSecs 2), .announce online false, .failed, .attempt sampleOptions,
    .wait (Duration.ofSecs 1), .failed, .announce online true, .attempt sampleOptions]

theorem backsOff_iff_fails_early :
    BacksOff failsEarlyHistory ↔ RejectedInTime failsEarlyHistory := by
  have reaches : ∃ s, sample.machine.Reaches s failsEarlyHistory :=
    ⟨_, Machine.reaches_of_run failsEarly rfl⟩
  obtain ⟨s, reaches⟩ := reaches
  exact backsOff_iff reaches

end BusExporter.Mqtt
