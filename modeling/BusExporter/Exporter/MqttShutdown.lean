import BusExporter.Exporter.Intervals

/-!
# Leaving the broker

After the cancellation the MQTT exporter starts at most one more connection, namely when the
back-off ends at the same moment, and no further back-off. Wherever it is, it can return: the
event loop ends by itself, and no message waits for it.
-/

namespace BusExporter.Mqtt

open Foundation Metrics

def Event.isAttempt : Event → Bool
  | attempt _ => true
  | _ => false

def Event.isWait : Event → Bool
  | wait _ => true
  | _ => false

/-- The connections that a cancelled task may still start. -/
def Location.attemptsLeft : Location → ℕ
  | top | waiting => 1
  | _ => 0

variable {exporter : Exporter} {s s' : State} {events history : List Event}

@[simp]
theorem publishNext_attemptsLeft (left : List Message) : (publishNext left).attemptsLeft = 0 := by
  cases left <;> rfl

/-- A cancelled task pays for a new connection with the only one that is left. -/
theorem pays_attempts (cancelled : s.cancelled = true)
    (transition : Transition exporter s s' events) :
    s'.cancelled = true ∧
      events.countP Event.isAttempt + s'.location.attemptsLeft ≤ s.location.attemptsLeft := by
  cases transition with
  | waits announced at_join ended kept => simp [cancelled] at kept
  | attempt options given at_location | waited at_location =>
    exact ⟨cancelled, by rw [at_location]; exact le_rfl⟩
  | ticked | published => exact ⟨cancelled, by simp [Event.isAttempt]⟩
  | cancel => exact ⟨rfl, by simp⟩
  | idle | acknowledged | failed | lost | stopped => exact ⟨cancelled, by simp [Event.isAttempt]⟩
  | announced | rejected | reported | left | returned => exact ⟨cancelled, Nat.zero_le _⟩

theorem no_wait (cancelled : s.cancelled = true) (transition : Transition exporter s s' events) :
    s'.cancelled = true ∧ events.countP Event.isWait + 0 ≤ 0 := by
  cases transition with
  | waits announced at_join ended kept => simp [cancelled] at kept
  | cancel => exact ⟨rfl, by simp⟩
  | _ => exact ⟨cancelled, by simp [Event.isWait]⟩

/-! ## The way out -/

/-- Some continuation of the run returns. -/
def CanReturn (exporter : Exporter) (s : State) (history : List Event) : Prop :=
  ∃ s' history', exporter.machine.Leads s history s' history' ∧ s'.location = .returned

theorem CanReturn.step (input : Input) (stepped : exporter.step s input = some (s', events))
    (later : CanReturn exporter s' (events.reverse ++ history)) : CanReturn exporter s history := by
  obtain ⟨last, rest, leads, returned⟩ := later
  exact ⟨last, rest, .step input stepped leads, returned⟩

section

variable {eventLoop : EventLoop} {backoff : Duration}

theorem CanReturn.of_returned : CanReturn exporter ⟨.returned, eventLoop, backoff, true⟩ history :=
  ⟨_, _, .refl _ _, rfl⟩

theorem CanReturn.of_waiting : CanReturn exporter ⟨.waiting, eventLoop, backoff, true⟩ history :=
  .step .cancelled rfl .of_returned

theorem CanReturn.of_leaving (ended : eventLoop.running = false) :
    CanReturn exporter ⟨.leaving, eventLoop, backoff, true⟩ history :=
  .step .proceed (if_neg (Bool.eq_false_iff.mp ended)) .of_returned

theorem CanReturn.of_joining (ended : eventLoop.running = false) (announced : Bool) :
    CanReturn exporter ⟨.joining announced, eventLoop, backoff, true⟩ history :=
  .step .proceed (if_neg (Bool.eq_false_iff.mp ended)) .of_returned

theorem CanReturn.of_announcing (ended : eventLoop.running = false) :
    CanReturn exporter ⟨.announcing, eventLoop, backoff, true⟩ history :=
  .step .proceed (if_neg (Bool.eq_false_iff.mp ended)) (.of_joining ended false)

theorem CanReturn.of_publishNext (ended : eventLoop.running = false) (left : List Message) :
    CanReturn exporter ⟨publishNext left, eventLoop, backoff, true⟩ history := by
  induction left generalizing history with
  | nil => exact .step .cancelled rfl (.of_leaving ended)
  | cons message left ih => exact .step .proceed rfl ih

/-- Whether or not the event loop still runs, it can end first. -/
theorem CanReturn.of_ended {location : Location}
    (ended : ∀ {eventLoop}, eventLoop.running = false →
      CanReturn exporter ⟨location, eventLoop, backoff, true⟩ history) :
    CanReturn exporter ⟨location, eventLoop, backoff, true⟩ history := by
  cases running : eventLoop.running with
  | true => exact .step .stop (if_pos ⟨rfl, running⟩) (ended rfl)
  | false => exact ended running

theorem CanReturn.of_top (options : exporter.options.isSome = true) :
    CanReturn exporter ⟨.top, eventLoop, backoff, true⟩ history := by
  obtain ⟨given, eq⟩ := Option.isSome_iff_exists.mp options
  exact .step .proceed (congrArg (Option.map _) eq) (.of_ended fun ended => .of_announcing ended)

end

/-- Without options the task has returned before it did anything. -/
theorem returned_of_no_options (reaches : exporter.machine.Reaches s history)
    (none : exporter.options.isSome = false) : s.location = .returned := by
  refine reaches.invariant (fun s _ => s.location = .returned) ?_ ?_
  · change (if _ then Location.top else .returned) = _
    rw [if_neg (Bool.eq_false_iff.mp none)]
  · intro s s' _ _ events _ at_return stepped
    cases transition_of_step stepped with
    | idle | cancel | acknowledged | failed | lost | stopped => exact at_return
    | returned => rfl
    | attempt _ _ at_location | announced at_location | rejected at_location
    | ticked _ at_location | published _ _ at_location | reported at_location | left at_location
    | waits _ at_location | waited at_location => simp [at_return] at at_location

/-- Wherever a cancelled task is, it can return. -/
theorem canReturn (reaches : exporter.machine.Reaches s history) (cancelled : s.cancelled = true) :
    CanReturn exporter s history := by
  have interval := metricsOnly_of_reaches reaches
  obtain ⟨location, eventLoop, backoff, _⟩ := s
  cases cancelled
  cases location with
  | top =>
    cases options : exporter.options.isSome with
    | true => exact .of_top options
    | false => cases returned_of_no_options reaches options
  | announcing => exact .of_ended fun ended => .of_announcing ended
  | serving => exact .of_ended fun ended => .of_publishNext ended []
  | publishing left =>
    cases left with
    | nil => exact absurd rfl (interval [] rfl).1
    | cons message left => exact .of_ended fun ended => .of_publishNext ended (message :: left)
  | leaving => exact .of_ended fun ended => .of_leaving ended
  | joining announced => exact .of_ended fun ended => .of_joining ended announced
  | waiting => exact .of_waiting
  | returned => exact .of_returned

/-- After a cancellation the task waits no more, starts at most one connection, and that only if
it was between two, and can return. -/
theorem leavesSoon (reaches : exporter.machine.Reaches s history) (cancelled : s.cancelled = true)
    {inputs : List Input} {history' : List Event}
    (ran : exporter.machine.runFrom s history inputs = some (s', history')) :
    history'.countP Event.isWait = history.countP Event.isWait ∧
      history'.countP Event.isAttempt + s'.location.attemptsLeft ≤
        history.countP Event.isAttempt + s.location.attemptsLeft ∧
      CanReturn exporter s' history' := by
  have kept : s'.cancelled = true := by
    refine Machine.invariant_runFrom (fun s _ => s.cancelled = true) ?_ cancelled ran
    intro _ _ _ _ _ cancelled stepped
    exact (no_wait cancelled (transition_of_step stepped)).1
  have grown : history <:+ history' := Machine.Leads.suffix ⟨inputs, ran⟩
  have waits := Machine.countP_runFrom_le Event.isWait (fun _ => 0) (fun s => s.cancelled = true)
    (fun cancelled stepped => no_wait cancelled (transition_of_step stepped)) cancelled ran
  have attempts := Machine.countP_runFrom_le Event.isAttempt (fun s => s.location.attemptsLeft)
    (fun s => s.cancelled = true)
    (fun cancelled stepped => pays_attempts cancelled (transition_of_step stepped)) cancelled ran
  exact ⟨le_antisymm waits grown.sublist.countP_le, attempts,
    canReturn (reaches.runFrom ran) kept⟩

/-- The token is cancelled at the end of a back-off, and the next connection is started still. -/
def lateAttempt : List Input :=
  [.proceed, .proceed, .polled .error, .changed, .proceed, .cancel]

def lateHistory : List Event :=
  [.wait (Duration.ofSecs 1), .failed, .announce online true, .attempt sampleOptions]

theorem leavesSoon_late :
    let history' := .announce online true :: .attempt sampleOptions :: lateHistory
    sample.machine.Reaches ⟨.waiting, .failed, initialBackoff, true⟩ lateHistory ∧
      history'.countP Event.isWait = lateHistory.countP Event.isWait ∧
      history'.countP Event.isAttempt ≤ lateHistory.countP Event.isAttempt + 1 ∧
      CanReturn sample ⟨.serving, .connecting, initialBackoff, true⟩ history' := by
  have reaches : sample.machine.Reaches ⟨.waiting, .failed, initialBackoff, true⟩ lateHistory :=
    Machine.reaches_of_run lateAttempt rfl
  have ran : sample.machine.runFrom ⟨.waiting, .failed, initialBackoff, true⟩ lateHistory
      [.elapsed, .proceed, .proceed] = some (⟨.serving, .connecting, initialBackoff, true⟩,
        .announce online true :: .attempt sampleOptions :: lateHistory) := rfl
  exact ⟨reaches, leavesSoon reaches rfl ran⟩

end BusExporter.Mqtt
