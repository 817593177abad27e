import BusExporter.Collector.Backoff
import BusExporter.Exporter.Endpoint
import BusExporter.Exporter.Mqtt

/-!
# The MQTT exporter task

`run_mqtt_exporter` as a machine of two tasks. The event loop makes one connection
attempt and serves the connection until an error, which it reports through the watch
channel; the main task publishes and waits. An input is what one of the two waits for.

Handing a message to the client succeeds as soon as it is queued, whether or not the
broker is reachable; it fails once the event loop is gone, which held the other end of
the queue.
-/

namespace BusExporter.Mqtt

open Foundation Metrics

/-! ## Options -/

structure TlsConfiguration where
  ca : List UInt8
  /-- The client's certificate and its key. -/
  clientAuth : Option (List UInt8 × List UInt8)
  deriving DecidableEq

structure MqttOptions where
  clientId : String
  host : String
  port : UInt16
  keepAlive : Duration
  credentials : Option (String × String)
  /-- The transport, unless it is plain. -/
  transport : Option TlsConfiguration
  lastWill : Message
  deriving DecidableEq

/-- What the exporter is started with, and what reading a file gives. -/
structure Exporter where
  config : MqttExporterConfig
  read : String → Except String (List UInt8)

namespace Exporter

variable (exporter : Exporter)

def buildTlsConfig (tlsCfg : Option MqttTlsConfig) : Except String TlsConfiguration := do
  let ca ← match tlsCfg.bind (·.caCert) with
    | some path =>
      (exporter.read path).mapError fun e => s!"failed to read ca_cert '{path}': {e}"
    | none => pure []
  let clientAuth ← match tlsCfg.bind (·.clientCert), tlsCfg.bind (·.clientKey) with
    | some clientCert, some clientKey => do
      let cert ← (exporter.read clientCert).mapError fun e => s!"failed to read client_cert: {e}"
      let key ← (exporter.read clientKey).mapError fun e => s!"failed to read client_key: {e}"
      pure (some (cert, key))
    | _, _ => pure none
  return ⟨ca, clientAuth⟩

/-- The options of every client. Without an endpoint, or where TLS cannot be set up, there are
none and the task returns. -/
def options : Option MqttOptions := do
  let endpoint ← exporter.config.endpoint
  let (host, port, useTls) := parseEndpoint endpoint
  let transport ←
    if useTls then (exporter.buildTlsConfig exporter.config.tls).toOption.map some else some none
  return {
    clientId := exporter.config.clientId.getD "bus-exporter"
    host, port, transport
    keepAlive := exporter.config.timeout
    credentials := exporter.config.auth.map fun auth => (auth.username, auth.password)
    lastWill := statusMessage exporter.config "offline" }

end Exporter

/-! ## States -/

inductive Location where
  /-- The head of the connection loop. -/
  | top
  /-- The `online` status is published. -/
  | announcing
  /-- The `select!` of the publish loop. -/
  | serving
  /-- In an interval of the publish loop, with the messages left. -/
  | publishing (left : List Message)
  /-- After a cancellation, until the event loop has ended. -/
  | leaving
  /-- Until the event loop has ended, after `online` was queued or rejected. -/
  | joining (announced : Bool)
  /-- The back-off. -/
  | waiting
  | returned
  deriving DecidableEq

/-- The second task. The main task sees of it only what comes through the channel. -/
inductive EventLoop where
  | unstarted
  /-- The broker has not acknowledged a connection yet. -/
  | connecting
  | connected
  /-- Ended by an error before the broker acknowledged a connection. -/
  | failed
  /-- Ended by an error after that. -/
  | lost
  /-- Ended by the cancellation. -/
  | stopped
  deriving DecidableEq, Repr

namespace EventLoop

def running : EventLoop → Bool
  | connecting | connected => true
  | _ => false

/-- It has sent `false` through the channel. -/
def reported : EventLoop → Bool
  | failed | lost => true
  | _ => false

end EventLoop

structure State where
  location : Location
  eventLoop : EventLoop
  backoff : Duration
  cancelled : Bool
  deriving DecidableEq

/-- What `eventloop.poll()` returns. -/
inductive Notification where
  | connAck
  | other
  | error
  deriving DecidableEq, Repr

inductive Input where
  /-- The token is cancelled. -/
  | cancel
  | polled (notification : Notification)
  /-- The event loop sees the cancellation. -/
  | stop
  /-- The main task runs on. -/
  | proceed
  /-- The timer of the publish loop fires; what `all_metrics_flat` gives then. -/
  | tick (metrics : List MetricValue)
  /-- The timer of the back-off fires. -/
  | elapsed
  /-- `connected_rx.changed()` wins the `select!`. -/
  | changed
  /-- `cancel.cancelled()` wins a `select!`. -/
  | cancelled

inductive Event where
  /-- A client and its event loop are started. -/
  | attempt (options : MqttOptions)
  /-- `online` is published. -/
  | announce (message : Message) (queued : Bool)
  | publish (message : Message) (queued : Bool)
  /-- The broker acknowledges the connection. -/
  | acknowledged
  /-- The connection attempt fails before that. -/
  | failed
  /-- The connection is lost after that. -/
  | lost
  /-- The wait before the next attempt begins. -/
  | wait (duration : Duration)
  | disconnect
  | returned
  deriving DecidableEq

/-! ## Steps -/

def initialBackoff : Duration := Duration.ofSecs 1

def maxBackoff : Duration := Duration.ofSecs 60

/-- `(backoff * 2).min(max_backoff)`. -/
def nextBackoff (backoff : Duration) : Duration := min (backoff * 2) maxBackoff

/-- Go on with the messages of the interval, or wait for the next one. -/
def publishNext : List Message → Location
  | [] => .serving
  | left => .publishing left

namespace State

variable (s : State)

/-- The event loop's reaction to a notification. -/
def polled : Notification → Option (State × List Event)
  | .connAck =>
    if s.eventLoop.running then some ({ s with eventLoop := .connected }, [.acknowledged])
    else none
  | .other => if s.eventLoop.running then some (s, []) else none
  | .error =>
    match s.eventLoop with
    | .connecting => some ({ s with eventLoop := .failed }, [.failed])
    | .connected => some ({ s with eventLoop := .lost }, [.lost])
    | _ => none

def leave : State × List Event := ({ s with location := .returned }, [.returned])

end State

namespace Exporter

variable (exporter : Exporter)

/-- The reaction of the two tasks to an input. -/
def step (s : State) (input : Input) : Option (State × List Event) :=
  match input, s.location with
  | .cancel, _ => some ({ s with cancelled := true }, [])
  | .polled notification, _ => s.polled notification
  | .stop, _ =>
    if s.cancelled ∧ s.eventLoop.running then some ({ s with eventLoop := .stopped }, []) else none
  | .proceed, .top =>
    exporter.options.map fun options =>
      ({ s with location := .announcing, eventLoop := .connecting }, [.attempt options])
  | .proceed, .announcing =>
    let online := statusMessage exporter.config "online"
    if s.eventLoop.running then
      -- Queued is taken for connected.
      some ({ s with location := .serving, backoff := initialBackoff }, [.announce online true])
    else some ({ s with location := .joining false }, [.announce online false])
  | .tick metrics, .serving =>
    some ({ s with location := publishNext (metrics.map (metricMessage exporter.config)) }, [])
  | .proceed, .publishing (message :: left) =>
    -- A message that is rejected is dropped.
    some ({ s with location := publishNext left }, [.publish message s.eventLoop.running])
  | .changed, .serving =>
    if s.eventLoop.reported then some ({ s with location := .joining true }, [])
    -- The channel is closed without a report, and its value is still `true`.
    else if s.eventLoop = .stopped then some (s, [])
    else none
  | .cancelled, .serving =>
    if s.cancelled then
      some ({ s with location := .leaving },
        [.publish (statusMessage exporter.config "offline") s.eventLoop.running, .disconnect])
    else none
  | .proceed, .leaving => if s.eventLoop.running then none else some s.leave
  | .proceed, .joining _ =>
    if s.eventLoop.running then none
    else if s.cancelled then some s.leave
    else some ({ s with location := .waiting }, [.wait s.backoff])
  | .cancelled, .waiting => if s.cancelled then some s.leave else none
  | .elapsed, .waiting =>
    some ({ s with location := .top, backoff := nextBackoff s.backoff }, [])
  | _, _ => none

/-- The state in which the task starts. -/
def initial : State where
  location := if exporter.options.isSome then .top else .returned
  eventLoop := .unstarted
  backoff := initialBackoff
  cancelled := false

/-- `run_mqtt_exporter`. -/
def machine : Machine State Input Event := ⟨exporter.initial, exporter.step⟩

end Exporter

/-! ## What one step can do -/

/-- Every reaction, as a relation between the states before and after it and the events it
emits. -/
inductive Transition (exporter : Exporter) (s : State) : State → List Event → Prop
  /-- Another notification, or the channel closed without a report. -/
  | idle : Transition exporter s s []
  | cancel : Transition exporter s { s with cancelled := true } []
  | acknowledged (running : s.eventLoop.running = true) :
    Transition exporter s { s with eventLoop := .connected } [.acknowledged]
  | failed (connecting : s.eventLoop = .connecting) :
    Transition exporter s { s with eventLoop := .failed } [.failed]
  | lost (connected : s.eventLoop = .connected) :
    Transition exporter s { s with eventLoop := .lost } [.lost]
  | stopped (cancelled : s.cancelled = true) (running : s.eventLoop.running = true) :
    Transition exporter s { s with eventLoop := .stopped } []
  | attempt (options : MqttOptions) (given : exporter.options = some options)
    (at_top : s.location = .top) :
    Transition exporter s { s with location := .announcing, eventLoop := .connecting }
      [.attempt options]
  | announced (at_announce : s.location = .announcing) (running : s.eventLoop.running = true) :
    Transition exporter s { s with location := .serving, backoff := initialBackoff }
      [.announce (statusMessage exporter.config "online") true]
  | rejected (at_announce : s.location = .announcing) (ended : s.eventLoop.running = false) :
    Transition exporter s { s with location := .joining false }
      [.announce (statusMessage exporter.config "online") false]
  | ticked (metrics : List MetricValue) (at_serve : s.location = .serving) :
    Transition exporter s
      { s with location := publishNext (metrics.map (metricMessage exporter.config)) } []
  | published (message : Message) (left : List Message)
    (at_publish : s.location = .publishing (message :: left)) :
    Transition exporter s { s with location := publishNext left }
      [.publish message s.eventLoop.running]
  | reported (at_serve : s.location = .serving) (reported : s.eventLoop.reported = true) :
    Transition exporter s { s with location := .joining true } []
  | left (at_serve : s.location = .serving) (cancelled : s.cancelled = true) :
    Transition exporter s { s with location := .leaving }
      [.publish (statusMessage exporter.config "offline") s.eventLoop.running, .disconnect]
  | returned (done : s.location = .leaving ∨ s.cancelled = true) :
    Transition exporter s { s with location := .returned } [.returned]
  | waits (announced : Bool) (at_join : s.location = .joining announced)
    (ended : s.eventLoop.running = false) (kept : s.cancelled = false) :
    Transition exporter s { s with location := .waiting } [.wait s.backoff]
  | waited (at_wait : s.location = .waiting) :
    Transition exporter s { s with location := .top, backoff := nextBackoff s.backoff } []

variable {exporter : Exporter} {s s' : State} {events : List Event}

theorem transition_of_polled {notification : Notification}
    (stepped : s.polled notification = some (s', events)) : Transition exporter s s' events := by
  cases notification with
  | connAck =>
    obtain ⟨running, eq⟩ := Option.ite_none_right_eq_some.mp stepped
    cases eq
    exact .acknowledged running
  | other =>
    obtain ⟨-, eq⟩ := Option.ite_none_right_eq_some.mp stepped
    cases eq
    exact .idle
  | error =>
    simp only [State.polled] at stepped
    split at stepped
    · cases stepped
      exact .failed ‹_›
    · cases stepped
      exact .lost ‹_›
    · cases stepped

theorem transition_of_step {input : Input} (stepped : exporter.step s input = some (s', events)) :
    Transition exporter s s' events := by
  unfold Exporter.step at stepped
  cases input with
  | cancel =>
    cases stepped
    exact .cancel
  | polled notification => exact transition_of_polled stepped
  | stop =>
    obtain ⟨⟨cancelled, running⟩, eq⟩ := Option.ite_none_right_eq_some.mp stepped
    cases eq
    exact .stopped cancelled running
  | tick metrics =>
    cases at_location : s.location <;> rw [at_location] at stepped <;> cases stepped
    exact .ticked metrics at_location
  | elapsed =>
    cases at_location : s.location <;> rw [at_location] at stepped <;> cases stepped
    exact .waited at_location
  | changed =>
    cases at_location : s.location <;> rw [at_location] at stepped <;>
      simp only [reduceCtorEq] at stepped
    split at stepped
    · cases stepped
      exact .reported at_location ‹_›
    · obtain ⟨-, eq⟩ := Option.ite_none_right_eq_some.mp stepped
      cases eq
      exact .idle
  | cancelled =>
    cases at_location : s.location <;> rw [at_location] at stepped <;>
      simp only [reduceCtorEq, Option.ite_none_right_eq_some] at stepped
    · obtain ⟨cancelled, eq⟩ := stepped
      cases eq
      exact .left at_location cancelled
    · obtain ⟨cancelled, eq⟩ := stepped
      cases eq
      exact .returned (.inr cancelled)
  | proceed =>
    cases at_location : s.location with
    | top =>
      rw [at_location] at stepped
      obtain ⟨options, given, eq⟩ := Option.map_eq_some_iff.mp stepped
      cases eq
      exact .attempt options given at_location
    | announcing =>
      rw [at_location] at stepped
      dsimp only at stepped
      split at stepped <;> rename_i running <;> cases stepped
      · exact .announced at_location running
      · exact .rejected at_location (Bool.eq_false_iff.mpr running)
    | publishing left =>
      rw [at_location] at stepped
      cases left with
      | nil => cases stepped
      | cons message left =>
        cases stepped
        exact .published message left at_location
    | leaving =>
      rw [at_location] at stepped
      obtain ⟨-, eq⟩ := Option.ite_none_left_eq_some.mp stepped
      cases eq
      exact .returned (.inl at_location)
    | joining announced =>
      rw [at_location] at stepped
      obtain ⟨running, eq⟩ := Option.ite_none_left_eq_some.mp stepped
      split at eq <;> rename_i cancelled <;> cases eq
      · exact .returned (.inr cancelled)
      · exact .waits announced at_location (Bool.eq_false_iff.mpr running)
          (Bool.eq_false_iff.mpr cancelled)
    | serving | waiting | returned =>
      rw [at_location] at stepped
      cases stepped

end BusExporter.Mqtt
