import BusExporter.Exporter.Reconnects
import BusExporter.Foundation.Automaton

/-!
# Sessions with the broker

What the MQTT exporter does on its side of a connection, as a protocol. An attempt is
made when the connection before it has ended. Its first message is `online`, and only
once that is queued are metrics published. The status topic gets `online` and `offline`
and nothing else; `offline` is the last message, and what follows it is the disconnect.
-/

namespace BusExporter.Mqtt

open Foundation Metrics

/-! ## The protocol -/

namespace Session

inductive Phase where
  /-- No attempt is under way. -/
  | idle
  /-- `online` is to be published next. -/
  | opening
  /-- `online` was queued. -/
  | online
  /-- `online` was rejected. -/
  | rejected
  /-- `offline` was published. -/
  | parting
  | closed
  | done
  deriving DecidableEq, Repr

inductive Connection where
  | untried
  | trying
  | up
  | ended
  deriving DecidableEq, Repr

def Connection.isOpen : Connection → Bool
  | trying | up => true
  | untried | ended => false

end Session

structure Session where
  phase : Session.Phase
  connection : Session.Connection
  deriving DecidableEq, Repr

namespace Session

variable (exporter : Exporter)

/-- Where an event leads. -/
def next (k : Session) : Event → Option Session
  | .attempt options =>
    if k.phase = .idle ∧ ¬ k.connection.isOpen ∧ exporter.options = some options then
      some ⟨.opening, .trying⟩
    else none
  | .announce message queued =>
    if k.phase = .opening ∧ message = statusMessage exporter.config "online" ∧
        (queued → k.connection.isOpen) then
      some { k with phase := if queued then .online else .rejected }
    else none
  | .publish message queued =>
    if k.phase = .online ∧ (queued → k.connection.isOpen) then
      if message = statusMessage exporter.config "offline" then some { k with phase := .parting }
      else if message.topic ≠ statusTopic exporter.config then some k
      else none
    else none
  | .acknowledged => if k.connection.isOpen then some { k with connection := .up } else none
  | .failed =>
    if k.connection = .trying then some { k with connection := .ended } else none
  | .lost =>
    if k.connection = .up then some { k with connection := .ended } else none
  | .wait _ =>
    if (k.phase = .online ∨ k.phase = .rejected) ∧ k.connection = .ended then
      some { k with phase := .idle }
    else none
  | .disconnect => if k.phase = .parting then some { k with phase := .closed } else none
  | .returned =>
    if k.phase = .closed ∨ k.phase = .online ∨ k.phase = .rejected ∨ k.phase = .idle then
      some ⟨.done, .ended⟩
    else none

/-- The protocol of an exporter. Without options it makes no attempt. -/
def protocol : Automaton Session Event where
  start := ⟨if exporter.options.isSome then .idle else .done, .untried⟩
  next := next exporter

end Session

/-! ## The exporter follows it -/

def Location.phase : Location → Session.Phase
  | top | waiting => .idle
  | announcing => .opening
  | serving | publishing _ | joining true => .online
  | joining false => .rejected
  | leaving => .closed
  | returned => .done

/-- What the protocol sees of an event loop. It does not see it stop. -/
inductive EventLoop.Shows : EventLoop → Session.Connection → Prop
  | unstarted : Shows unstarted .untried
  | connecting : Shows connecting .trying
  | connected : Shows connected .up
  | failed : Shows failed .ended
  | lost : Shows lost .ended
  | stopped {connection : Session.Connection} (isOpen : connection.isOpen = true) :
    Shows stopped connection

/-- The state of the protocol that belongs to a state of the exporter. -/
structure State.Shows (s : State) (k : Session) : Prop where
  phase : k.phase = s.location.phase
  connection : s.location ≠ .returned → s.eventLoop.Shows k.connection
  ended : s.location = .returned → s.eventLoop.running = false
  settled : k.phase = .idle → k.connection.isOpen = false

/-- Inside an interval there is something left to publish, and only metrics. -/
def Location.MetricsOnly (exporter : Exporter) (location : Location) : Prop :=
  ∀ left, location = .publishing left → left ≠ [] ∧ ∀ message ∈ left, ∃ m,
    message = metricMessage exporter.config m

variable {exporter : Exporter} {s s' : State} {events history : List Event}

@[simp]
theorem publishNext_phase (left : List Message) : (publishNext left).phase = .online := by
  cases left <;> rfl

theorem publishNext_ne_returned (left : List Message) : publishNext left ≠ .returned := by
  cases left <;> exact Location.noConfusion

theorem EventLoop.Shows.isOpen {eventLoop : EventLoop} {connection : Session.Connection}
    (shows : eventLoop.Shows connection) (running : eventLoop.running = true) :
    connection.isOpen = true := by
  cases shows with
  | connecting | connected => rfl
  | _ => cases running

theorem Location.metricsOnly_publishNext {left : List Message}
    (metrics : ∀ message ∈ left, ∃ m, message = metricMessage exporter.config m) :
    (publishNext left).MetricsOnly exporter := by
  rintro rest at_publish
  cases left with
  | nil => cases at_publish
  | cons message left =>
    cases at_publish
    exact ⟨List.cons_ne_nil message left, metrics⟩

theorem metricsOnly_of_transition (metrics : s.location.MetricsOnly exporter)
    (transition : Transition exporter s s' events) : s'.location.MetricsOnly exporter := by
  cases transition with
  | idle | cancel | acknowledged | failed | lost | stopped => exact metrics
  | ticked values at_serve =>
    refine Location.metricsOnly_publishNext fun message mem => ?_
    obtain ⟨m, -, rfl⟩ := List.mem_map.mp mem
    exact ⟨m, rfl⟩
  | published message left at_publish =>
    exact Location.metricsOnly_publishNext fun m mem =>
      (metrics _ at_publish).2 m (List.mem_cons_of_mem _ mem)
  | _ => rintro left ⟨⟩

theorem metricsOnly_of_reaches (reaches : exporter.machine.Reaches s history) :
    s.location.MetricsOnly exporter := by
  refine reaches.invariant (fun s _ => s.location.MetricsOnly exporter) ?_ fun _ metrics stepped =>
    metricsOnly_of_transition metrics (transition_of_step stepped)
  intro left at_publish
  change (if _ then Location.top else .returned) = _ at at_publish
  split at at_publish <;> cases at_publish

/-- Where the task returns from, and with which event loop. -/
theorem returns_of_step {input : Input} (stepped : exporter.step s input = some (s', events))
    (returns : .returned ∈ events) :
    events = [.returned] ∧ s' = { s with location := .returned } ∧
      (s.location = .leaving ∧ s.eventLoop.running = false ∨
        s.cancelled = true ∧ (s.location = .waiting ∨
          s.eventLoop.running = false ∧ ∃ announced, s.location = .joining announced)) := by
  unfold Exporter.step at stepped
  cases input with
  | cancelled =>
    cases at_location : s.location <;> rw [at_location] at stepped <;>
      simp only [reduceCtorEq, Option.ite_none_right_eq_some] at stepped
    · obtain ⟨-, eq⟩ := stepped
      cases eq
      simp at returns
    · obtain ⟨cancelled, eq⟩ := stepped
      cases eq
      exact ⟨rfl, rfl, .inr ⟨cancelled, .inl rfl⟩⟩
  | proceed =>
    cases at_location : s.location with
    | top =>
      rw [at_location] at stepped
      obtain ⟨options, -, eq⟩ := Option.map_eq_some_iff.mp stepped
      cases eq
      simp at returns
    | leaving =>
      rw [at_location] at stepped
      obtain ⟨ended, eq⟩ := Option.ite_none_left_eq_some.mp stepped
      cases eq
      exact ⟨rfl, rfl, .inl ⟨rfl, Bool.eq_false_iff.mpr ended⟩⟩
    | joining announced =>
      rw [at_location] at stepped
      obtain ⟨ended, eq⟩ := Option.ite_none_left_eq_some.mp stepped
      split at eq <;> rename_i cancelled <;> cases eq
      · exact ⟨rfl, rfl, .inr ⟨cancelled, .inr ⟨Bool.eq_false_iff.mpr ended, announced, rfl⟩⟩⟩
      · simp at returns
    | _ =>
      rw [at_location] at stepped
      grind
  | polled notification => cases notification <;> simp only [State.polled] at stepped <;> grind
  | _ => grind

/-- A metric's topic is not the one of the status. -/
theorem metricMessage_ne (m : MetricValue) (status : String) :
    metricMessage exporter.config m ≠ statusMessage exporter.config status := by
  intro same
  exact buildTopic_ne_statusTopic exporter.config _ _ (congrArg Message.topic same)

theorem shows_of_transition (observed : Observed s history)
    (metrics : s.location.MetricsOnly exporter) {k : Session} (shows : s.Shows k)
    (transition : Transition exporter s s' events) (stays : .returned ∉ events) :
    ∃ k', events.foldlM (Session.next exporter) k = some k' ∧ s'.Shows k' := by
  obtain ⟨phase, connection⟩ := k
  obtain ⟨at_phase, loop, ended, settled⟩ := shows
  dsimp only at at_phase loop settled
  have inside (running : s.eventLoop.running = true) : s.location ≠ .returned := by
    intro at_return
    rw [ended at_return] at running
    cases running
  cases transition with
  | idle => exact ⟨_, rfl, at_phase, loop, ended, settled⟩
  | cancel => exact ⟨_, rfl, at_phase, loop, ended, settled⟩
  | acknowledged running =>
    have isOpen := (loop (inside running)).isOpen running
    refine ⟨⟨phase, .up⟩, ?_, at_phase, fun _ => .connected, fun at_return => ?_, fun idle => ?_⟩
    · simp [Session.next, isOpen]
    · exact absurd at_return (inside running)
    · simp [settled idle] at isOpen
  | failed connecting =>
    have shown := loop (inside (by rw [connecting]; rfl))
    rw [connecting] at shown
    cases shown
    exact ⟨⟨phase, .ended⟩, rfl, at_phase, fun _ => .failed, fun _ => rfl, fun _ => rfl⟩
  | lost connected =>
    have shown := loop (inside (by rw [connected]; rfl))
    rw [connected] at shown
    cases shown
    exact ⟨⟨phase, .ended⟩, rfl, at_phase, fun _ => .lost, fun _ => rfl, fun _ => rfl⟩
  | stopped cancelled running =>
    have isOpen := (loop (inside running)).isOpen running
    exact ⟨_, rfl, at_phase, fun _ => .stopped isOpen, fun _ => rfl, settled⟩
  | attempt options given at_top =>
    rw [at_top] at at_phase
    refine ⟨⟨.opening, .trying⟩, ?_, rfl, fun _ => .connecting, nofun, nofun⟩
    simp [Session.next, at_phase, settled at_phase, given, Location.phase]
  | announced at_announce running =>
    have isOpen := (loop (inside running)).isOpen running
    rw [at_announce] at at_phase
    refine ⟨⟨.online, connection⟩, ?_, rfl, fun _ => loop (inside running), nofun, nofun⟩
    simp [Session.next, at_phase, isOpen, Location.phase]
  | rejected at_announce stopped =>
    rw [at_announce] at at_phase
    refine ⟨⟨.rejected, connection⟩, ?_, rfl, fun _ => loop ?_, nofun, nofun⟩
    · simp [Session.next, at_phase, Location.phase]
    · rw [at_announce]
      nofun
  | ticked values at_serve =>
    rw [at_serve] at at_phase
    refine ⟨⟨phase, connection⟩, rfl, ?_, fun _ => loop ?_, fun at_return => ?_, settled⟩
    · exact at_phase.trans (publishNext_phase _).symm
    · rw [at_serve]
      nofun
    · exact absurd at_return (publishNext_ne_returned _)
  | published message left at_publish =>
    obtain ⟨m, rfl⟩ := (metrics _ at_publish).2 message (List.mem_cons_self ..)
    rw [at_publish] at at_phase loop
    refine ⟨⟨phase, connection⟩, ?_, ?_, fun _ => loop nofun, fun at_return => ?_, settled⟩
    · have topic : (metricMessage exporter.config m).topic ≠ statusTopic exporter.config :=
        buildTopic_ne_statusTopic exporter.config _ _
      simpa [Session.next, at_phase, Location.phase, metricMessage_ne, topic] using
        (loop nofun).isOpen
    · exact at_phase.trans (publishNext_phase _).symm
    · exact absurd at_return (publishNext_ne_returned _)
  | reported at_serve reported =>
    rw [at_serve] at at_phase loop
    exact ⟨⟨phase, connection⟩, rfl, at_phase, fun _ => loop nofun, nofun, settled⟩
  | left at_serve cancelled =>
    rw [at_serve] at at_phase loop
    have isOpen := (loop nofun).isOpen
    refine ⟨⟨.closed, connection⟩, ?_, rfl, fun _ => loop nofun, nofun, nofun⟩
    simp [Session.next, at_phase, Location.phase, eq_true isOpen]
  | returned done => simp at stays
  | waits announced at_join stopped kept =>
    rw [at_join] at at_phase loop
    have shown := loop nofun
    obtain rfl : connection = .ended := by
      rcases observed.failed_or_lost at_join stopped kept with failed | lost
      · rw [failed] at shown
        cases shown
        rfl
      · rw [lost] at shown
        cases shown
        rfl
    refine ⟨⟨.idle, .ended⟩, ?_, rfl, fun _ => shown, nofun, fun _ => rfl⟩
    have joined : phase = .online ∨ phase = .rejected := by
      cases announced
      · exact .inr at_phase
      · exact .inl at_phase
    simp [Session.next, joined]
  | waited at_wait =>
    rw [at_wait] at at_phase loop
    exact ⟨⟨phase, connection⟩, rfl, at_phase, fun _ => loop nofun, nofun, settled⟩

theorem shows_of_step (observed : Observed s history)
    (metrics : s.location.MetricsOnly exporter) {k : Session} (shows : s.Shows k) {input : Input}
    (stepped : exporter.step s input = some (s', events)) :
    ∃ k', events.foldlM (Session.next exporter) k = some k' ∧ s'.Shows k' := by
  by_cases returns : .returned ∈ events
  · obtain ⟨rfl, rfl, origin⟩ := returns_of_step stepped returns
    refine ⟨⟨.done, .ended⟩, ?_, rfl, fun away => absurd rfl away, fun _ => ?_, nofun⟩
    · have from_phase : k.phase = .closed ∨ k.phase = .online ∨ k.phase = .rejected ∨
          k.phase = .idle := by
        rw [shows.phase]
        rcases origin with ⟨at_leave, -⟩ | ⟨-, at_wait | ⟨-, announced, at_join⟩⟩
        · exact .inl (at_leave ▸ rfl)
        · exact .inr (.inr (.inr (at_wait ▸ rfl)))
        · cases announced
          · exact .inr (.inr (.inl (at_join ▸ rfl)))
          · exact .inr (.inl (at_join ▸ rfl))
      simp [Session.next, from_phase]
    · rcases origin with ⟨-, ended⟩ | ⟨-, at_wait | ⟨ended, -⟩⟩
      · exact ended
      · exact observed.settled (.inr at_wait)
      · exact ended
  · exact shows_of_transition observed metrics shows (transition_of_step stepped) returns

theorem shows_initial (exporter : Exporter) :
    exporter.initial.Shows (Session.protocol exporter).start := by
  refine ⟨?_, fun _ => .unstarted, fun _ => rfl, fun _ => rfl⟩
  change (if _ then Session.Phase.idle else .done) = (if _ then Location.top else .returned).phase
  split <;> rfl

/-- Every run of the exporter goes by the protocol. -/
theorem followsSessions (reaches : exporter.machine.Reaches s history) :
    ∃ k, (Session.protocol exporter).after history = some k ∧ s.Shows k := by
  refine Automaton.of_reaches State.Shows ?_ ?_ reaches
  · exact shows_initial exporter
  · intro s s' history input events k reaches _ shows stepped
    exact shows_of_step (scheduleInv_of_reaches reaches).observed (metricsOnly_of_reaches reaches)
      shows stepped

/-- An unreachable broker: two sessions, each with an `online` that was only queued. -/
theorem followsSessions_unreachable :
    ∃ k, (Session.protocol sample).after unreachableHistory = some k := by
  obtain ⟨s, reaches⟩ := sample_reaches_unreachable
  obtain ⟨k, read, -⟩ := followsSessions reaches
  exact ⟨k, read⟩

end BusExporter.Mqtt
