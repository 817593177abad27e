import BusExporter.Exporter.Sessions

/-!
# What the intervals publish

At the end of an interval the exporter takes the metrics of the store and publishes them one
by one, while the event loop goes on, may fail, and may be cancelled. Over a whole run the
messages handed to the client are those of the intervals, in their order: none is left out,
repeated or overtaken, whatever becomes of each of them.
-/

namespace BusExporter.Mqtt

open Foundation Metrics

/-- The metrics that the store gives for an interval. -/
def Input.interval : Input → Option (List MetricValue)
  | tick metrics => some metrics
  | _ => none

/-- The metrics of the intervals so far, the first interval first. -/
def intervals (steps : List (State × Input)) : List MetricValue :=
  (steps.reverse.filterMap fun step => step.2.interval).flatten

def Event.published : Event → Option Message
  | publish message _ => some message
  | _ => none

/-- The messages handed to the client after `online`, the first one first. -/
def published (history : List Event) : List Message :=
  history.reverse.filterMap Event.published

/-- The messages of the present interval that are still to be published. -/
def Location.left : Location → List Message
  | publishing left => left
  | _ => []

/-- What is published when the task leaves. -/
def farewell (exporter : Exporter) (history : List Event) : List Message :=
  if .disconnect ∈ history then [statusMessage exporter.config "offline"] else []

variable {exporter : Exporter} {s s' : State} {events history : List Event}

@[simp]
theorem Location.left_publishing (left : List Message) : (publishing left).left = left := rfl

theorem Location.left_eq_nil {location : Location} (away : ∀ left, location ≠ .publishing left) :
    location.left = [] := by
  cases location with
  | publishing left => exact absurd rfl (away left)
  | _ => rfl

@[simp]
theorem publishNext_left (left : List Message) : (publishNext left).left = left := by
  cases left <;> rfl

theorem intervals_cons (step : State × Input) (steps : List (State × Input)) :
    intervals (step :: steps) = intervals steps ++ (step.2.interval).getD [] := by
  cases at_tick : step.2.interval <;> simp [intervals, at_tick]

theorem published_append (events history : List Event) :
    published (events.reverse ++ history) =
      published history ++ events.filterMap Event.published := by
  simp [published]

theorem Session.closed_of_disconnect {k : Session}
    (read : (Session.protocol exporter).after history = some k) (left : .disconnect ∈ history) :
    k.phase = .closed ∨ k.phase = .done := by
  refine Automaton.of_mem_history (fun k => k.phase = .closed ∨ k.phase = .done) ?_ ?_ left read
  · intro k k' next
    obtain ⟨-, eq⟩ := Option.ite_none_right_eq_some.mp next
    cases eq
    exact .inl rfl
  · rintro ⟨phase, connection⟩ k' event parted next
    cases event <;> simp only [Session.protocol, Session.next] at next <;> grind

/-- After the disconnect the task only waits for its event loop. -/
theorem left_of_disconnect (reaches : exporter.machine.Reaches s history)
    (left : .disconnect ∈ history) : s.location = .leaving ∨ s.location = .returned := by
  obtain ⟨k, read, shows⟩ := followsSessions reaches
  have parted := Session.closed_of_disconnect read left
  rw [shows.phase] at parted
  cases at_location : s.location with
  | leaving => exact .inl rfl
  | returned => exact .inr rfl
  | joining announced => cases announced <;> simp [at_location, Location.phase] at parted
  | _ => simp [at_location, Location.phase] at parted

@[simp]
theorem farewell_nil (exporter : Exporter) : farewell exporter [] = [] := rfl

theorem polled_location {notification : Notification}
    (stepped : s.polled notification = some (s', events)) : s'.location = s.location := by
  cases notification <;> simp only [State.polled] at stepped <;> grind

/-- Only a tick makes a waiting task publish. -/
theorem left_of_serving {input : Input} (stepped : exporter.step s input = some (s', events))
    (silent : input.interval = none) (at_serve : s.location = .serving) :
    s'.location.left = [] := by
  refine Location.left_eq_nil fun left at_publish => ?_
  cases input with
  | tick metrics => cases silent
  | polled notification =>
    rw [polled_location stepped, at_serve] at at_publish
    cases at_publish
  | _ =>
    simp only [Exporter.step, at_serve] at stepped
    grind

/-- A step publishes from the messages that were left, and an interval adds to them. -/
theorem published_of_step {input : Input} (stepped : exporter.step s input = some (s', events)) :
    events.filterMap Event.published ++ s'.location.left =
      s.location.left ++ (input.interval.getD []).map (metricMessage exporter.config) ++
        farewell exporter events := by
  cases interval : input.interval with
  | some metrics =>
    cases input with
    | tick values =>
      cases interval
      cases at_location : s.location <;> simp only [Exporter.step, at_location] at stepped <;>
        cases stepped
      have nothing : Location.serving.left = [] := rfl
      simp [nothing]
    | _ => cases interval
  | none =>
    have served := left_of_serving stepped interval
    rw [Option.getD_none, List.map_nil, List.append_nil]
    cases transition_of_step stepped with
    | idle | cancel | acknowledged | failed | lost | stopped => simp [Event.published, farewell]
    | published message left at_publish => simp [at_publish, Event.published, farewell]
    | ticked metrics at_serve =>
      rw [served at_serve, at_serve]
      rfl
    | left at_serve =>
      rw [at_serve]
      rfl
    | returned =>
      obtain ⟨-, -, origin⟩ := returns_of_step stepped (List.mem_singleton_self _)
      have empty : s.location.left = [] := by
        rcases origin with ⟨at_leave, -⟩ | ⟨-, at_wait | ⟨-, announced, at_join⟩⟩
        · exact at_leave ▸ rfl
        · exact at_wait ▸ rfl
        · exact at_join ▸ rfl
      rw [empty]
      rfl
    | attempt options given at_location | announced at_location | rejected at_location
    | reported at_location | waits announced at_location | waited at_location =>
      rw [at_location]
      rfl

/-- Once the task has left, no interval begins and nothing is disconnected any more. -/
theorem quiet_of_left {input : Input} (left : s.location = .leaving ∨ s.location = .returned)
    (stepped : exporter.step s input = some (s', events)) :
    input.interval = none ∧ .disconnect ∉ events := by
  constructor
  · cases input with
    | tick metrics => rcases left with at_location | at_location <;>
        simp [Exporter.step, at_location] at stepped
    | _ => rfl
  · have transition := transition_of_step stepped
    cases transition with
    | left at_serve => simp [at_serve] at left
    | _ => simp

/-- The messages handed to the client are those of the intervals, in order, and `offline` at the
end. -/
theorem published_eq {steps : List (State × Input)} (run : exporter.machine.Run steps s history) :
    published history ++ s.location.left =
      (intervals steps).map (metricMessage exporter.config) ++ farewell exporter history := by
  induction run with
  | init =>
    change published [] ++ (if _ then Location.top else .returned).left = _
    split <;> rfl
  | @step steps s s' history input events run stepped ih =>
    have next := published_of_step stepped
    have later : published (events.reverse ++ history) ++ s'.location.left =
        (intervals steps).map (metricMessage exporter.config) ++ farewell exporter history ++
          ((input.interval.getD []).map (metricMessage exporter.config) ++
            farewell exporter events) := by
      rw [published_append, List.append_assoc, next, ← ih]
      simp only [List.append_assoc]
    rw [later, intervals_cons, List.map_append]
    by_cases left : .disconnect ∈ history
    · obtain ⟨silent, stays⟩ := quiet_of_left (left_of_disconnect run.reaches left) stepped
      simp [silent, farewell, left, stays]
    · simp [farewell, left]

def reading (name : String) : MetricValue where
  name := name
  metricType := .gauge
  value := 1.5
  labels := ({} : Labels).insert "collector" "plc"
  description := ""
  unit := ""

/-- The exporter is cancelled between the two metrics of an interval, and the event loop ends. -/
theorem published_eq_interrupted :
    ∃ steps s history, sample.machine.Run steps s history ∧ s.location = .leaving ∧
      published history ++ s.location.left =
        (intervals steps).map (metricMessage sample.config) ++ farewell sample history := by
  have start : sample.machine.Run [] sample.machine.init [] := .init
  have attempted := start.next .proceed rfl
  have announced := attempted.next .proceed rfl
  have ticked := announced.next (.tick [reading "flow", reading "level"]) rfl
  have first := ticked.next .proceed rfl
  have stopped := (first.next .cancel rfl).next .stop rfl
  have second := stopped.next .proceed rfl
  have left := second.next .cancelled rfl
  exact ⟨_, _, _, left, rfl, published_eq left⟩

end BusExporter.Mqtt
