import BusExporter.Collector.Machine
import BusExporter.Foundation.History
import BusExporter.Reader.Modbus.Client

/-!
# A collector task and its Modbus reader

The task and the reader run as one machine: what a connect and a read return is
what the reader returns, and only the network and the transport under a context
are left to the outside world. A Modbus collector has no writer.

The reader reports that it is connected as long as it holds a context.
-/

namespace BusExporter.Collector

open Foundation Modbus

variable {κ : Type}

/-- The task of a Modbus collector. -/
def modbusTask (collector : CollectorConfig) (internalMetrics : Bool) : Task :=
  ⟨collector, false, internalMetrics⟩

/-! ## The machine -/

structure ModbusRun (κ : Type) where
  task : State
  reader : ModbusMetricReader κ

inductive ModbusInput (κ : Type) where
  /-- An input that is not an answer of the reader. -/
  | task (input : Input)
  /-- `connect` returns. -/
  | connect (network : Network κ)
  /-- `read` returns; the time since the start of the cycle. -/
  | read (elapsed : Duration)
  /-- The transport under the context changes on its own. -/
  | drift (context : κ)

inductive ModbusEvent where
  | task (event : Event)
  /-- The calls of a read are made, on a context whose transport is dead or alive. -/
  | polled (dead : Bool)
  /-- The transport under the context has died. -/
  | died
  deriving DecidableEq

def Input.isAnswer : Input → Bool
  | connected _ | readDone .. => true
  | _ => false

namespace ModbusRun

variable (calls : ContextCalls κ) (dead : κ → Bool)

/-- Whether the reader holds a context whose transport is dead. -/
def isDead (s : ModbusRun κ) : Bool := s.reader.context.any dead

/-- The reader as a call has left it, and the task's reaction: a disconnect drops the
context, and a death of the transport is noted. -/
def advance (s : ModbusRun κ) (reader : ModbusMetricReader κ) (calls : List ModbusEvent)
    (reaction : State × List Event) : ModbusRun κ × List ModbusEvent :=
  let reader := if .disconnect ∈ reaction.2 then reader.disconnect else reader
  let s' : ModbusRun κ := ⟨reaction.1, reader⟩
  let died := if s'.isDead dead ∧ ¬ s.isDead dead then [.died] else []
  (s', calls ++ reaction.2.map .task ++ died)

/-- The reaction of a task and its reader to an input. -/
def step (task : Task) (s : ModbusRun κ) : ModbusInput κ → Option (ModbusRun κ × List ModbusEvent)
  | .task input =>
    if input.isAnswer then none
    else (task.step s.task input).map (s.advance dead s.reader [])
  | .connect network =>
    let answer := s.reader.connect network
    (task.step s.task (.connected answer.1)).map (s.advance dead answer.2 [])
  | .read elapsed =>
    let answer := (ModbusMetricReader.read calls).run s.reader
    (task.step s.task (.readDone answer.1 answer.2.isConnected elapsed)).map
      (s.advance dead answer.2 [.polled (s.isDead dead)])
  | .drift context =>
    -- A dead transport does not come back to life.
    if s.reader.context.isNone ∨ s.isDead dead ∧ ¬ dead context then none
    else some (s.advance dead { s.reader with context := some context } [] (s.task, []))

/-- A Modbus collector's task with the reader that was created for it. -/
def machine (collector : CollectorConfig) (internalMetrics : Bool) (line : Line)
    (slaveId : UInt8) : Machine (ModbusRun κ) (ModbusInput κ) ModbusEvent where
  init := ⟨Task.initial, (ModbusMetricReader.new line slaveId).setMetrics collector.metrics⟩
  step := step calls dead (modbusTask collector internalMetrics)

/-! ## What one step can do -/

/-- Every reaction of a task and its reader: the task's own reaction to what the reader has
answered, or a change of the transport that the task does not take part in. -/
inductive Transition (task : Task) (s : ModbusRun κ) : ModbusRun κ × List ModbusEvent → Prop
  | task {input : Input} {reaction : State × List Event} (notAnswer : ¬ input.isAnswer)
    (reacted : task.step s.task input = some reaction) :
    Transition task s (s.advance dead s.reader [] reaction)
  | connect (network : Network κ) {reaction : State × List Event}
    (reacted : task.step s.task (.connected (s.reader.connect network).1) = some reaction) :
    Transition task s (s.advance dead (s.reader.connect network).2 [] reaction)
  | read {answer : ReadResults × ModbusMetricReader κ} {elapsed : Duration}
    {reaction : State × List Event}
    (answered : (ModbusMetricReader.read calls).run s.reader = answer)
    (reacted : task.step s.task (.readDone answer.1 answer.2.isConnected elapsed) = some reaction) :
    Transition task s (s.advance dead answer.2 [.polled (s.isDead dead)] reaction)
  | drift (context : κ) (held : ¬ s.reader.context.isNone)
    (inherits : s.isDead dead → dead context) :
    Transition task s
      (s.advance dead { s.reader with context := some context } [] (s.task, []))

variable {calls dead} {task : Task} {s : ModbusRun κ} {next : ModbusRun κ × List ModbusEvent}

theorem transition_of_step {input : ModbusInput κ}
    (stepped : s.step calls dead task input = some next) : Transition calls dead task s next := by
  cases input with
  | task input =>
    obtain ⟨notAnswer, advanced⟩ := Option.ite_none_left_eq_some.mp stepped
    obtain ⟨reaction, reacted, rfl⟩ := Option.map_eq_some_iff.mp advanced
    exact .task notAnswer reacted
  | connect network =>
    obtain ⟨reaction, reacted, rfl⟩ := Option.map_eq_some_iff.mp stepped
    exact .connect network reacted
  | read elapsed =>
    obtain ⟨reaction, reacted, rfl⟩ := Option.map_eq_some_iff.mp stepped
    exact .read rfl reacted
  | drift context =>
    simp only [step, Option.ite_none_left_eq_some, Option.some_inj, not_or, not_and,
      not_not] at stepped
    obtain ⟨⟨held, inherits⟩, rfl⟩ := stepped
    exact .drift context held inherits

end ModbusRun

/-! ## What a lost transport asks for -/

/-- The reader's `connect` is called. -/
def ModbusEvent.isConnect : ModbusEvent → Bool
  | task (.connect _) => true
  | _ => false

/-- The calls of a read are made. -/
def ModbusEvent.isPoll : ModbusEvent → Bool
  | polled _ => true
  | _ => false

/-- When a cycle has read on a dead context, `connect` is called before the next one that
reads on a dead context. -/
def ReconnectsWhenDead (history : List ModbusEvent) : Prop :=
  Throughout (fun event earlier => event = .polled true →
    ¬ Since (· = .polled true) (·.isConnect) earlier) history

instance (history : List ModbusEvent) : Decidable (ReconnectsWhenDead history) :=
  inferInstanceAs (Decidable (Throughout _ history))

/-- After the transport has died, one more cycle reads at most. -/
def EndsWhenDead (history : List ModbusEvent) : Prop :=
  ∀ later earlier, history = later ++ .died :: earlier → (later.filter (·.isPoll)).length ≤ 1

end BusExporter.Collector
