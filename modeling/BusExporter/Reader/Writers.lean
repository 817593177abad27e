import BusExporter.Config.Accepted
import BusExporter.Foundation.Sequence
import BusExporter.Reader.Factory
import BusExporter.Reader.I3cAddresses

/-!
# Write steps

`execute_writes` of the three writers: each step sends a frame, if it has one, and then waits
for its delay, and the first frame that is refused ends the sequence. The locks are left out,
as for the readers.
-/

namespace BusExporter

open Foundation

/-- An I2C or I3C frame: the register, and the bytes to write to it. -/
def WriteStep.registerFrame (step : WriteStep) : Option (List UInt8) :=
  match step.address, step.value with
  | some address, some value => some (address :: value.asBytes)
  | _, _ => none

namespace Writers

section

variable {σ : Type}

-- The frame of a step, how it is sent, and the context of an error at a step.
variable (frame : WriteStep → Option (List UInt8))
  (send : List UInt8 → StateM σ (Except Error Unit)) (sleep : Duration → StateM σ Unit)
  (context : ℕ → String)

def sendFrame : Option (List UInt8) → StateM σ (Except Error Unit)
  | some bytes => send bytes
  | none => return .ok ()

def wait : Option Duration → StateM σ Unit
  | some delay => sleep delay
  | none => return ()

/-- One turn of the loop. -/
def executeStep (idx : ℕ) (step : WriteStep) : StateM σ (Except Error Unit) := do
  match withContext (← sendFrame send (frame step)) (context idx) with
  | .error e => return .error e
  | .ok () =>
    wait sleep step.delay
    return .ok ()

/-- The loop that the writers share. -/
def executeSteps (steps : List WriteStep) : StateM σ (Except Error Unit) :=
  runSteps (executeStep frame send sleep context) 0 steps

end

/-! ## The writers -/

/-- What the writers do to the outside world. -/
structure WriterWorld (σ : Type) where
  write : String → UInt8 → List UInt8 → StateM σ (Except Error Unit)
  transfer : String → List UInt8 → StateM σ (Except Error (List UInt8))
  i3c : String → I3c.I3cWorld σ
  sleep : Duration → StateM σ Unit

variable {σ : Type} (world : WriterWorld σ)

namespace I2cMetricWriter

def context (busPath : String) (idx : ℕ) : String := s!"I2C write step {idx} on {busPath}"

def executeWrites (busPath : String) (address : UInt8) (steps : List WriteStep) :
    StateM σ (Except Error Unit) :=
  executeSteps WriteStep.registerFrame (world.write busPath address) world.sleep (context busPath)
    steps

end I2cMetricWriter

namespace SpiMetricWriter

def context (devicePath : String) (idx : ℕ) : String := s!"SPI write step {idx} on {devicePath}"

/-- What comes back is dropped. -/
def send (devicePath : String) (command : List UInt8) : StateM σ (Except Error Unit) := do
  return (← world.transfer devicePath command).map fun _ => ()

def executeWrites (devicePath : String) (steps : List WriteStep) : StateM σ (Except Error Unit) :=
  executeSteps WriteStep.command (send world devicePath) world.sleep (context devicePath) steps

end SpiMetricWriter

namespace I3cMetricWriter

def context (idx : ℕ) : String := s!"I3C write step {idx}"

/-- The writer has a client of its own, which keeps the address that it has found. -/
def executeWrites (busPath : String) (steps : List WriteStep) : I3c.Session σ (Except Error Unit) :=
  executeSteps WriteStep.registerFrame (I3c.writeBytes (world.i3c busPath))
    (fun delay => I3c.inWorld (world.sleep delay)) context steps

end I3cMetricWriter

end Writers

open Writers Factory

/-- `execute_writes`, with the writer afterwards. -/
def Factory.MetricWriter.executeWrites {σ : Type} (world : WriterWorld σ)
    (steps : List WriteStep) : MetricWriter → StateM σ (Except Error Unit × MetricWriter)
  | .i2c busPath address => do
    return (← I2cMetricWriter.executeWrites world busPath address steps, .i2c busPath address)
  | .spi devicePath => do
    return (← SpiMetricWriter.executeWrites world devicePath steps, .spi devicePath)
  | .i3c client => fun s =>
    let (result, client, s) :=
      (I3cMetricWriter.executeWrites world client.busPath steps).run (client, s)
    ((result, .i3c client), s)

/-! ## What a writer does -/

/-- A device, as it is reached. -/
inductive Target where
  | i2c (busPath : String) (address : UInt8)
  | spi (devicePath : String)
  | i3c (busPath : String) (address : UInt8)
  deriving DecidableEq, Repr

/-- What a writer asks of the outside world, and how that answers. -/
inductive DeviceEvent where
  | framed (target : Target) (bytes : List UInt8) (result : Except Error Unit)
  | lookedUp (busPath : String) (mode : I3c.AddressMode) (result : Except Error UInt8)
  | slept (delay : Duration)

/-- What becomes of the steps. -/
inductive WriteEvent where
  /-- A frame that the device took. -/
  | sent (bytes : List UInt8)
  | refused (bytes : List UInt8) (cause : Error)
  /-- The device's address was not found. -/
  | unfound (cause : Error)
  | slept (delay : Duration)
  deriving DecidableEq, Repr

/-- A look-up that finds the address is no effect of its own. -/
def DeviceEvent.effect : DeviceEvent → Option WriteEvent
  | framed _ bytes (.ok ()) => some (.sent bytes)
  | framed _ bytes (.error cause) => some (.refused bytes cause)
  | lookedUp _ _ (.ok _) => none
  | lookedUp _ _ (.error cause) => some (.unfound cause)
  | slept delay => some (.slept delay)

def effectsOf (log : List DeviceEvent) : List WriteEvent := log.filterMap DeviceEvent.effect

@[simp]
theorem effectsOf_append (log later : List DeviceEvent) :
    effectsOf (log ++ later) = effectsOf log ++ effectsOf later :=
  List.filterMap_append ..

/-- What a step asks for, whatever the protocol. -/
def WriteStep.effects (step : WriteStep) : List WriteEvent :=
  step.registerFrame.toList.map .sent ++ step.command.toList.map .sent ++
    step.delay.toList.map .slept

/-- Every field of the step has its effect, and there is one. -/
structure WriteStep.Used (step : WriteStep) : Prop where
  nonempty : step.effects ≠ []
  register : ∀ address, step.address = some address → ∃ value, step.value = some value
  value : ∀ value, step.value = some value → ∃ address, step.address = some address
  frames : ∀ bytes, .sent bytes ∈ step.effects → bytes ≠ []

/-- How a frame of a writer fails: an I2C or SPI device refuses it, and an I3C device refuses it or
has no address. The error is the one that this comes with. -/
def Factory.MetricWriter.Fails : MetricWriter → List UInt8 → Error → WriteEvent → Prop
  | .i2c _ _, bytes, e, event | .spi _, bytes, e, event => event = .refused bytes e
  | .i3c _, bytes, e, event =>
    event = .unfound e ∨
      ∃ cause : Error, event = .refused bytes cause ∧ e = cause.context "I3C write_bytes"

/-- What names the failed step of a writer. -/
def Factory.MetricWriter.context : MetricWriter → ℕ → String
  | .i2c busPath _ => I2cMetricWriter.context busPath
  | .spi devicePath => SpiMetricWriter.context devicePath
  | .i3c _ => I3cMetricWriter.context

/-- The result of running some steps, and the effects: all that the steps ask for, or what those
before a failed frame ask for and then its failure. The error names the step with that frame. -/
inductive Executed (fails : List UInt8 → Error → WriteEvent → Prop) (context : ℕ → String) :
    List WriteStep → Except Error Unit → List WriteEvent → Prop
  | done (steps : List WriteStep) :
    Executed fails context steps (.ok ()) (steps.flatMap (·.effects))
  | failed (earlier : List WriteStep) (step : WriteStep) (later : List WriteStep)
    {bytes : List UInt8} (asked : .sent bytes ∈ step.effects) {cause : Error} {event : WriteEvent}
    (failed : fails bytes cause event) :
    Executed fails context (earlier ++ step :: later)
      (.error (cause.context (context earlier.length)))
      (earlier.flatMap (·.effects) ++ [event])

/-- The writer after an event that it may cause: its frames go to its own device, whose address an
I3C writer looks up until it is found, and never again. -/
def Factory.MetricWriter.next : MetricWriter → DeviceEvent → Option MetricWriter
  | writer, .slept _ => some writer
  | .i2c busPath address, .framed target _ _ =>
    if target = .i2c busPath address then some (.i2c busPath address) else none
  | .spi devicePath, .framed target _ _ =>
    if target = .spi devicePath then some (.spi devicePath) else none
  | .i3c client, .framed target _ _ =>
    if client.resolvedAddress.map (.i3c client.busPath) = some target then some (.i3c client)
    else none
  | .i3c client, .lookedUp busPath mode result =>
    if client.resolvedAddress = none ∧ busPath = client.busPath ∧ mode = client.addressMode then
      some (.i3c { client with resolvedAddress := result.toOption })
    else none
  | _, .lookedUp _ _ _ => none

/-- A call of the outside world that is logged. -/
def logged {σ α : Type} (event : α → DeviceEvent) (m : StateM σ α) :
    StateM (σ × List DeviceEvent) α := fun (s, log) =>
  let (a, s) := m.run s
  (a, (s, log ++ [event a]))

/-- A world that logs what it is asked for, the first one first. -/
def Writers.WriterWorld.traced {σ : Type} (world : WriterWorld σ) :
    WriterWorld (σ × List DeviceEvent) where
  write busPath address bytes :=
    logged (.framed (.i2c busPath address) bytes) (world.write busPath address bytes)
  transfer devicePath bytes :=
    logged (fun result => .framed (.spi devicePath) bytes (result.map fun _ => ()))
      (world.transfer devicePath bytes)
  i3c busPath := {
    writeRead address buf readLen :=
      logged (fun result => .framed (.i3c busPath address) buf (result.map fun _ => ()))
        ((world.i3c busPath).writeRead address buf readLen)
    resolveAddressFromSysfs mode :=
      logged (.lookedUp busPath mode) ((world.i3c busPath).resolveAddressFromSysfs mode)
    sleep delay := logged (fun _ => .slept delay) ((world.i3c busPath).sleep delay) }
  sleep delay := logged (fun _ => .slept delay) (world.sleep delay)

section

variable {σ : Type} {log : σ → List WriteEvent}

/-- What a frame may leave in the log. -/
def Sends (log : σ → List WriteEvent) (fails : List UInt8 → Error → WriteEvent → Prop)
    (send : List UInt8 → StateM σ (Except Error Unit)) : Prop :=
  ∀ bytes, Logs log (send bytes) [.sent bytes] fun e got => ∃ event, fails bytes e event ∧
    got = [event]

def Sleeps (log : σ → List WriteEvent) (sleep : Duration → StateM σ Unit) : Prop :=
  ∀ delay before, Ensures (fun s => log s = before) (sleep delay)
    fun _ s => log s = before ++ [.slept delay]

variable {frame : WriteStep → Option (List UInt8)}
  {send : List UInt8 → StateM σ (Except Error Unit)} {sleep : Duration → StateM σ Unit}
  {context : ℕ → String} {fails : List UInt8 → Error → WriteEvent → Prop}

theorem wait_logs (sleeps : Sleeps log sleep) (delay : Option Duration) (before : List WriteEvent) :
    Ensures (fun s => log s = before) (wait sleep delay)
      fun _ s => log s = before ++ delay.toList.map .slept := by
  cases delay with
  | none => exact .pure fun s same => by simpa using same
  | some delay => exact sleeps delay before

theorem sendFrame_logs (sends : Sends log fails send) (frame : Option (List UInt8)) :
    Logs log (sendFrame send frame) (frame.toList.map .sent)
      fun e got => ∃ bytes event, frame = some bytes ∧ fails bytes e event ∧ got = [event] := by
  intro before
  cases frame with
  | none => exact .pure fun s same => .inl ⟨rfl, by simpa using same⟩
  | some bytes =>
    refine (sends bytes before).mono ?_
    rintro result s (done | ⟨e, got, failed, ⟨event, fails, single⟩, logged⟩)
    · exact .inl done
    · exact .inr ⟨e, got, failed, ⟨bytes, event, rfl, fails, single⟩, logged⟩

theorem executeStep_logs (sends : Sends log fails send) (sleeps : Sleeps log sleep) (idx : ℕ)
    (step : WriteStep) :
    Logs log (executeStep frame send sleep context idx step)
      ((frame step).toList.map .sent ++ step.delay.toList.map .slept) fun e got =>
        ∃ bytes event, ∃ cause : Error, frame step = some bytes ∧
          e = cause.context (context idx) ∧ fails bytes cause event ∧ got = [event] := by
  intro before
  refine (sendFrame_logs sends (frame step) before).bind fun result => ?_
  cases result with
  | error e =>
    refine .pure fun s broken => .inr ?_
    obtain ⟨⟨⟩, -⟩ | ⟨_, got, same, ⟨bytes, event, asked, fails, single⟩, logged⟩ := broken
    cases same
    exact ⟨_, got, rfl, ⟨bytes, event, e, asked, rfl, fails, single⟩, logged⟩
  | ok _ =>
    refine ((wait_logs sleeps step.delay (before ++ (frame step).toList.map .sent)).bind
      fun _ => ?_).strengthen ?_
    · exact .pure fun s waited => .inl ⟨rfl, by rw [waited, List.append_assoc]⟩
    · rintro s (⟨-, logged⟩ | ⟨_, _, ⟨⟩, -⟩)
      exact logged

/-- The loop runs whole steps up to the first frame that fails. -/
theorem executeSteps_executed (sends : Sends log fails send) (sleeps : Sleeps log sleep)
    {steps : List WriteStep}
    (own : ∀ step ∈ steps, (frame step).toList.map .sent ++ step.delay.toList.map .slept =
      step.effects) (before : List WriteEvent) :
    Ensures (fun s => log s = before) (executeSteps frame send sleep context steps)
      fun result s => ∃ events, log s = before ++ events ∧
        Executed fails context steps result events := by
  have effects {some : List WriteStep} (among : ∀ step ∈ some, step ∈ steps) :
      some.flatMap (fun step => (frame step).toList.map .sent ++ step.delay.toList.map .slept) =
        some.flatMap (·.effects) :=
    List.flatMap_congr fun step mem => own step (among step mem)
  refine (runSteps_logs (executeStep_logs sends sleeps) 0 steps before).mono ?_
  rintro result s (⟨rfl, logged⟩ | ⟨e, got, rfl, place, logged⟩)
  · rw [effects fun _ => id] at logged
    exact ⟨_, logged, .done steps⟩
  · obtain ⟨earlier, step, later, rest, rfl, failure, rfl⟩ := place
    obtain ⟨bytes, event, cause, framed, rfl, fails, rfl⟩ := failure
    rw [effects fun _ mem => List.mem_append_left _ mem] at logged
    rw [Nat.zero_add]
    refine ⟨_, logged, .failed earlier step later ?_ fails⟩
    rw [← own step (List.mem_append_right _ (List.mem_cons_self ..)), framed]
    exact List.mem_append_left _ (List.mem_singleton_self _)

end

/-! ## The three writers -/

section

variable {σ α : Type} {world : WriterWorld σ} {before : List WriteEvent}

theorem ensures_logged (event : α → DeviceEvent) (m : StateM σ α) :
    Ensures (fun s => effectsOf s.2 = before) (logged event m)
      fun a s => effectsOf s.2 = before ++ effectsOf [event a] := by
  rintro ⟨s, log⟩ rfl
  exact effectsOf_append ..

/-- A frame leaves its own event, whatever the device sends back. -/
theorem sends_logged (target : Target) (bytes : List UInt8) (m : StateM σ (Except Error α)) :
    Ensures (fun s => effectsOf s.2 = before)
      (logged (fun result => .framed target bytes (result.map fun _ => ())) m) fun result s =>
        (∃ a, result = .ok a) ∧ effectsOf s.2 = before ++ [.sent bytes] ∨
          ∃ e, result = .error e ∧ effectsOf s.2 = before ++ [.refused bytes e] := by
  refine (ensures_logged _ m).mono fun result s same => ?_
  cases result with
  | ok a => exact .inl ⟨⟨a, rfl⟩, same⟩
  | error e => exact .inr ⟨e, rfl, same⟩

theorem sleeps_traced : Sleeps (fun s => effectsOf s.2) world.traced.sleep :=
  fun _ _ => ensures_logged _ _

theorem I2cMetricWriter.sends (busPath : String) (address : UInt8) :
    Sends (fun s => effectsOf s.2) (MetricWriter.i2c busPath address).Fails
      (world.traced.write busPath address) := by
  intro bytes before
  refine (ensures_logged _ _).mono fun result s same => ?_
  cases result with
  | ok _ => exact .inl ⟨rfl, same⟩
  | error e => exact .inr ⟨e, _, rfl, ⟨_, rfl, rfl⟩, same⟩

theorem SpiMetricWriter.sends (devicePath : String) :
    Sends (fun s => effectsOf s.2) (MetricWriter.spi devicePath).Fails
      (SpiMetricWriter.send world.traced devicePath) := by
  intro bytes before
  refine (sends_logged (.spi devicePath) bytes _).bind fun result => .pure ?_
  rintro s (⟨⟨_, rfl⟩, logged⟩ | ⟨e, rfl, logged⟩)
  · exact .inl ⟨rfl, logged⟩
  · exact .inr ⟨e, _, rfl, ⟨_, rfl, rfl⟩, logged⟩

/-- What a step asks for is the register's frame and the delay. -/
def ByRegister (steps : List WriteStep) : Prop :=
  ∀ step ∈ steps, step.registerFrame.toList.map .sent ++ step.delay.toList.map .slept =
    step.effects

/-- A call of a writer does what its steps ask for. -/
abbrev Executes (writer : MetricWriter) (steps : List WriteStep) (before : List WriteEvent)
    (result : Except Error Unit) (log : List DeviceEvent) : Prop :=
  ∃ events, effectsOf log = before ++ events ∧
    Executed writer.Fails writer.context steps result events

theorem I2cMetricWriter.executed (busPath : String) (address : UInt8) {steps : List WriteStep}
    (own : ByRegister steps) :
    Ensures (fun s => effectsOf s.2 = before)
      (I2cMetricWriter.executeWrites world.traced busPath address steps)
      fun result s => Executes (.i2c busPath address) steps before result s.2 :=
  executeSteps_executed (I2cMetricWriter.sends busPath address) sleeps_traced own before

theorem SpiMetricWriter.executed (devicePath : String) {steps : List WriteStep}
    (own : ∀ step ∈ steps, step.command.toList.map .sent ++ step.delay.toList.map .slept =
      step.effects) :
    Ensures (fun s => effectsOf s.2 = before)
      (SpiMetricWriter.executeWrites world.traced devicePath steps)
      fun result s => Executes (.spi devicePath) steps before result s.2 :=
  executeSteps_executed (SpiMetricWriter.sends devicePath) sleeps_traced own before

/-- Looking up the address is seen only if it fails. -/
theorem resolveAddress_logs (busPath : String) :
    Ensures (fun s => effectsOf s.2.2 = before) (I3c.resolveAddress (world.traced.i3c busPath))
      fun result s => effectsOf s.2.2 = before ++
        (match result with
          | .ok _ => []
          | .error e => [.unfound e]) := by
  refine Ensures.get.bind fun found => ?_
  simp only
  cases found.1.resolvedAddress with
  | some address =>
    refine .pure ?_
    rintro s ⟨-, same⟩
    simpa using same
  | none =>
    have looked : Ensures (fun s => found = s ∧ effectsOf s.2.2 = before)
        (I3c.inWorld ((world.traced.i3c busPath).resolveAddressFromSysfs found.1.addressMode))
        fun result s => effectsOf s.2.2 = before ++
          effectsOf [.lookedUp busPath found.1.addressMode result] := by
      refine I3c.ensures_inWorld ?_
      rintro reader s ⟨-, same⟩
      exact ensures_logged _ _ s same
    refine looked.bind fun result => ?_
    cases result with
    | error e => exact .pure fun s same => same
    | ok address =>
      refine Ensures.bind (P := fun _ s => effectsOf s.2.2 = before) ?_ fun _ =>
        .pure fun s same => by simpa using same
      exact .modify fun s same => same.trans (List.append_nil _)

theorem I3cMetricWriter.sends (client : I3c.I3cMetricReader) (busPath : String) :
    Sends (fun s => effectsOf s.2.2) (MetricWriter.i3c client).Fails
      (I3c.writeBytes (world.traced.i3c busPath)) := by
  intro bytes before
  refine (resolveAddress_logs busPath).bind fun resolved => ?_
  cases resolved with
  | error e => exact .pure fun s same => .inr ⟨e, _, rfl, ⟨_, .inl rfl, rfl⟩, same⟩
  | ok address =>
    have transferred : Ensures (fun s => effectsOf s.2.2 = before)
        (I3c.inWorld ((world.traced.i3c busPath).writeRead address bytes 0)) fun result s =>
          (∃ a, result = .ok a) ∧ effectsOf s.2.2 = before ++ [.sent bytes] ∨
            ∃ e, result = .error e ∧ effectsOf s.2.2 = before ++ [.refused bytes e] :=
      I3c.ensures_inWorld fun _ s same => sends_logged (.i3c busPath address) bytes _ s same
    refine (transferred.strengthen fun s same => by simpa using same).bind fun result => .pure ?_
    rintro s (⟨⟨_, rfl⟩, logged⟩ | ⟨e, rfl, logged⟩)
    · exact .inl ⟨rfl, logged⟩
    · exact .inr ⟨_, _, rfl, ⟨_, .inr ⟨e, rfl, rfl⟩, rfl⟩, logged⟩

theorem I3cMetricWriter.executed (client : I3c.I3cMetricReader) (busPath : String)
    {steps : List WriteStep} (own : ByRegister steps) :
    Ensures (fun s => effectsOf s.2.2 = before)
      (I3cMetricWriter.executeWrites world.traced busPath steps)
      fun result s => Executes (.i3c client) steps before result s.2.2 := by
  refine executeSteps_executed (I3cMetricWriter.sends client busPath) ?_ own before
  intro delay before
  exact I3c.ensures_inWorld fun _ s same => sleeps_traced delay before s same

end

/-! ## The device of a writer -/

/-- The log leads the first writer to this one. -/
def Reached (first : MetricWriter) (log : List DeviceEvent) (writer : MetricWriter) : Prop :=
  log.foldlM MetricWriter.next first = some writer

theorem Reached.append {first writer writer' : MetricWriter} {log : List DeviceEvent}
    {event : DeviceEvent} (reached : Reached first log writer)
    (next : writer.next event = some writer') : Reached first (log ++ [event]) writer' := by
  rw [Reached, List.foldlM_append, reached]
  simpa using next

section

variable {σ α : Type} {world : WriterWorld σ} {first writer : MetricWriter}

theorem MetricWriter.next_slept (writer : MetricWriter) (delay : Duration) :
    writer.next (.slept delay) = some writer := by
  cases writer <;> rfl

theorem reached_slept (delay : Duration) :
    Ensures (fun s => Reached first s.2 writer) (world.traced.sleep delay)
      fun _ s => Reached first s.2 writer :=
  fun _ reached => reached.append (MetricWriter.next_slept writer delay)

/-- What the frames and the delays keep, the loop keeps. -/
theorem executeSteps_keeps {τ : Type} {Inv : τ → Prop} {frame : WriteStep → Option (List UInt8)}
    {send : List UInt8 → StateM τ (Except Error Unit)} {sleep : Duration → StateM τ Unit}
    {context : ℕ → String} (sends : ∀ bytes, Ensures Inv (send bytes) fun _ => Inv)
    (sleeps : ∀ delay, Ensures Inv (sleep delay) fun _ => Inv) (steps : List WriteStep) :
    Ensures Inv (executeSteps frame send sleep context steps) fun _ => Inv := by
  refine runSteps_keeps (fun idx step => ?_) 0 steps
  have sent : Ensures Inv (sendFrame send (frame step)) fun _ => Inv := by
    cases frame step with
    | none => exact .pure fun _ => id
    | some bytes => exact sends bytes
  refine sent.bind fun result => ?_
  cases result with
  | error e => exact .pure fun _ => id
  | ok _ =>
    refine Ensures.bind (P := fun _ => Inv) ?_ fun _ => .pure fun _ => id
    cases step.delay with
    | none => exact .pure fun _ => id
    | some delay => exact sleeps delay

theorem I2cMetricWriter.next_framed (busPath : String) (address : UInt8) (bytes : List UInt8)
    (result : Except Error Unit) :
    (MetricWriter.i2c busPath address).next (.framed (.i2c busPath address) bytes result) =
      some (.i2c busPath address) :=
  if_pos rfl

theorem SpiMetricWriter.next_framed (devicePath : String) (bytes : List UInt8)
    (result : Except Error Unit) :
    (MetricWriter.spi devicePath).next (.framed (.spi devicePath) bytes result) =
      some (.spi devicePath) :=
  if_pos rfl

theorem I2cMetricWriter.reached (busPath : String) (address : UInt8) (steps : List WriteStep) :
    Ensures (fun s => Reached first s.2 (.i2c busPath address))
      (I2cMetricWriter.executeWrites world.traced busPath address steps)
      fun _ s => Reached first s.2 (.i2c busPath address) :=
  executeSteps_keeps
    (fun bytes _ reached => reached.append (I2cMetricWriter.next_framed busPath address bytes _))
    reached_slept steps

theorem SpiMetricWriter.reached (devicePath : String) (steps : List WriteStep) :
    Ensures (fun s => Reached first s.2 (.spi devicePath))
      (SpiMetricWriter.executeWrites world.traced devicePath steps)
      fun _ s => Reached first s.2 (.spi devicePath) := by
  refine executeSteps_keeps (fun bytes => ?_) reached_slept steps
  refine Ensures.bind (P := fun _ s => Reached first s.2 (.spi devicePath)) ?_ fun _ =>
    .pure fun _ => id
  exact fun _ reached => reached.append (SpiMetricWriter.next_framed devicePath bytes _)

/-- The log has led to the client as it is now, on its bus. -/
def AtClient (first : MetricWriter) (busPath : String)
    (s : I3c.I3cMetricReader × σ × List DeviceEvent) : Prop :=
  Reached first s.2.2 (.i3c s.1) ∧ s.1.busPath = busPath

theorem resolveAddress_atClient (busPath : String) :
    Ensures (AtClient first busPath) (I3c.resolveAddress (world.traced.i3c busPath))
      fun result s => AtClient first busPath s ∧
        ∀ address, result = .ok address → s.1.resolvedAddress = some address := by
  refine Ensures.get.bind fun found => ?_
  simp only
  cases cached : found.1.resolvedAddress with
  | some address =>
    refine .pure ?_
    rintro s ⟨rfl, here⟩
    refine ⟨here, fun _ same => ?_⟩
    cases same
    exact cached
  | none =>
    -- After the look-up the log is one step ahead of a client that has not noted its result.
    have looked : Ensures (fun s => found = s ∧ AtClient first busPath s)
        (I3c.inWorld ((world.traced.i3c busPath).resolveAddressFromSysfs found.1.addressMode))
        fun result s => Reached first s.2.2
          (.i3c { s.1 with resolvedAddress := result.toOption }) ∧ s.1.busPath = busPath ∧
            s.1.resolvedAddress = none := by
      refine I3c.ensures_inWorld ?_
      rintro reader s ⟨rfl, here, onBus⟩
      exact ⟨here.append (if_pos ⟨cached, onBus.symm, rfl⟩), onBus, cached⟩
    refine looked.bind fun result => ?_
    cases result with
    | error e =>
      refine .pure fun s ahead => ⟨⟨?_, ahead.2.1⟩, by simp⟩
      have same : { s.1 with resolvedAddress := none } = s.1 := by rw [← ahead.2.2]
      exact same ▸ ahead.1
    | ok address =>
      refine Ensures.bind (P := fun _ s => AtClient first busPath s ∧
        s.1.resolvedAddress = some address) ?_ fun _ => .pure fun s here => ⟨here.1, ?_⟩
      · exact .modify fun s ahead => ⟨⟨ahead.1, ahead.2.1⟩, rfl⟩
      · intro _ same
        cases same
        exact here.2

theorem I3cMetricWriter.reached (busPath : String) (steps : List WriteStep) :
    Ensures (AtClient first busPath) (I3cMetricWriter.executeWrites world.traced busPath steps)
      fun _ => AtClient first busPath := by
  refine executeSteps_keeps (fun bytes => ?_) (fun delay => ?_) steps
  · refine (resolveAddress_atClient busPath).bind fun resolved => ?_
    cases resolved with
    | error e => exact .pure fun s here => here.1
    | ok address =>
      refine Ensures.bind (P := fun _ => AtClient first busPath) ?_ fun _ => .pure fun _ => id
      refine I3c.ensures_inWorld ?_
      rintro reader s ⟨⟨here, onBus⟩, resolved⟩
      refine ⟨here.append (if_pos ?_), onBus⟩
      rw [resolved address rfl, onBus, Option.map_some]
  · exact I3c.ensures_inWorld fun _ s here => ⟨reached_slept delay s here.1, here.2⟩

end

/-! ## Validated collectors -/

/-- Of a step that the validator accepts, the frame that the protocol sends is all there is. -/
structure OwnFrame (isSpi : Bool) (step : WriteStep) : Prop where
  used : step.Used
  spi : isSpi = true → step.registerFrame = none
  register : isSpi = false → step.command = none

theorem ownFrame_of_validateStep {c : CollectorConfig} {field : String} {idx : ℕ}
    {step : WriteStep} (valid : validateStep c field idx step = .ok ()) :
    OwnFrame c.protocol.isSpi step := by
  simp only [validateStep, then_eq_ok, checkWhen_eq_ok, validateSpiStep, validateRegisterStep,
    bail_eq_ok] at valid
  obtain ⟨spi, register, -⟩ := valid
  obtain ⟨address, value, command, delay⟩ := step
  cases isSpi : c.protocol.isSpi with
  | true =>
    obtain ⟨noRegister, something, nonempty⟩ := spi isSpi
    obtain ⟨rfl, rfl⟩ : address = none ∧ value = none := by simpa using noRegister
    refine ⟨⟨?_, by simp, by simp, fun bytes mem => ?_⟩, fun _ => rfl, by simp⟩
    · cases command <;> cases delay <;> simp_all [WriteStep.effects, WriteStep.registerFrame]
    · obtain rfl : command = some bytes := by
        simpa [WriteStep.effects, WriteStep.registerFrame] using mem
      rintro rfl
      exact nonempty rfl
  | false =>
    obtain ⟨noCommand, together, something, nonempty⟩ := register isSpi
    obtain rfl : command = none := by simpa using noCommand
    refine ⟨⟨?_, ?_, ?_, fun bytes mem => ?_⟩, by simp, fun _ => rfl⟩
    · cases address <;> cases value <;> cases delay <;>
        simp_all [WriteStep.effects, WriteStep.registerFrame]
    · cases address <;> cases value <;> simp_all
    · cases address <;> cases value <;> simp_all
    · cases address <;> cases value <;> simp_all [WriteStep.effects, WriteStep.registerFrame]

theorem ownFrame_of_validateSteps {c : CollectorConfig} {field : String} {steps : List WriteStep}
    (valid : validateSteps c field steps = .ok ()) :
    ∀ step ∈ steps, OwnFrame c.protocol.isSpi step := by
  intro step mem
  obtain ⟨idx, at_idx⟩ := List.mem_iff_getElem?.mp mem
  have checked := (forM_eq_ok _ _).mp valid (step, idx) (List.mk_mem_zipIdx_iff_getElem?.mpr at_idx)
  exact ownFrame_of_validateStep checked

theorem CollectorConfig.Validated.ownFrame {c : CollectorConfig} (valid : c.Validated)
    {steps : List WriteStep} (own : steps = c.initWrites ∨ steps = c.prePoll) :
    ∀ step ∈ steps, OwnFrame c.protocol.isSpi step := by
  obtain ⟨-, -, -, -, initWrites, prePoll, -⟩ :=
    (validateCollector_eq_ok c).mp valid.validateCollector
  rcases own with rfl | rfl
  · exact ownFrame_of_validateSteps initWrites
  · exact ownFrame_of_validateSteps prePoll

/-- The writer belongs to the collector's device. -/
def Factory.MetricWriter.Fits (c : CollectorConfig) : MetricWriter → Prop
  | .i2c busPath address => c.protocol = .i2c busPath address
  | .spi devicePath => ∃ speedHz mode bitsPerWord,
    c.protocol = .spi devicePath speedHz mode bitsPerWord
  | .i3c client => ∃ pid address deviceClass instanceIndex,
    c.protocol = .i3c client.busPath pid address deviceClass instanceIndex

section

variable {σ : Type} {world : WriterWorld σ} {c : CollectorConfig} {steps : List WriteStep}

theorem fits_of_createWriter {opened : Except Error Unit} {writer : MetricWriter}
    (created : createWriter opened c = .ok (.ok (some writer))) : writer.Fits c := by
  rw [createWriter] at created
  split at created
  · cases created
  · have found {made : MetricWriter} {message : String}
        (eq : (withContext opened message).map (fun _ => some made) = .ok (some writer)) :
        writer = made := by
      cases opened with
      | error e => cases eq
      | ok _ => exact (Option.some_inj.mp (Except.ok.inj eq)).symm
    cases protocol : c.protocol with
    | modbusTcp | modbusRtu => simp [protocol] at created
    | i2c busPath address =>
      simp only [protocol, Except.ok.injEq] at created
      rw [found created]
      exact protocol
    | spi device speedHz mode bitsPerWord =>
      simp only [protocol, Except.ok.injEq] at created
      rw [found created]
      exact ⟨_, _, _, protocol⟩
    | i3c bus pid address deviceClass instanceIndex =>
      simp only [protocol, bind_eq_ok] at created
      obtain ⟨mode, -, created⟩ := created
      rw [found (Except.ok.inj created)]
      exact ⟨_, _, _, _, protocol⟩

/-- Two writers fail alike. -/
def Alike (writer writer' : MetricWriter) : Prop :=
  writer'.Fails = writer.Fails ∧ writer'.context = writer.context

/-- A call of a writer whose steps are its collector's. -/
theorem executeWrites_executed {first writer : MetricWriter} (fits : writer.Fits c)
    (own : ∀ step ∈ steps, OwnFrame c.protocol.isSpi step) (before : List WriteEvent) :
    Ensures (fun s => effectsOf s.2 = before ∧ Reached first s.2 writer)
      (writer.executeWrites world.traced steps) fun out s =>
        Executes writer steps before out.1 s.2 ∧ Reached first s.2 out.2 ∧ out.2.Fits c ∧
          Alike writer out.2 := by
  have register (notSpi : c.protocol.isSpi = false) : ByRegister steps := by
    intro step mem
    simp [WriteStep.effects, (own step mem).register notSpi]
  cases writer with
  | i2c busPath address =>
    have byRegister := register (by rw [fits]; rfl)
    rintro s ⟨same, reached⟩
    exact ⟨I2cMetricWriter.executed busPath address byRegister s same,
      I2cMetricWriter.reached busPath address steps s reached, fits, rfl, rfl⟩
  | spi devicePath =>
    have command : ∀ step ∈ steps,
        step.command.toList.map .sent ++ step.delay.toList.map .slept = step.effects := by
      intro step mem
      obtain ⟨speedHz, mode, bitsPerWord, protocol⟩ := fits
      simp [WriteStep.effects, (own step mem).spi (by rw [protocol]; rfl)]
    rintro s ⟨same, reached⟩
    exact ⟨SpiMetricWriter.executed devicePath command s same,
      SpiMetricWriter.reached devicePath steps s reached, fits, rfl, rfl⟩
  | i3c client =>
    rintro s ⟨same, reached⟩
    obtain ⟨pid, address, deviceClass, instanceIndex, protocol⟩ := fits
    have byRegister := register (by rw [protocol]; rfl)
    obtain ⟨here, onBus⟩ :=
      I3cMetricWriter.reached client.busPath steps (client, s) ⟨reached, rfl⟩
    refine ⟨I3cMetricWriter.executed client client.busPath byRegister (client, s) same, here, ?_,
      rfl, rfl⟩
    exact ⟨pid, address, deviceClass, instanceIndex,
      protocol.trans (congrArg (Protocol.i3c · pid address deviceClass instanceIndex) onBus.symm)⟩

/-! ## The life of a writer -/

/-- The calls of `execute_writes` that a collector makes, with their results. -/
def executeAll (world : WriterWorld σ) :
    List (List WriteStep) → MetricWriter → StateM σ (List (Except Error Unit))
  | [], _ => return []
  | steps :: calls, writer => do
    let (result, writer) ← writer.executeWrites world steps
    return result :: (← executeAll world calls writer)

/-- One call after the other is executed. -/
inductive ExecutedAll (fails : List UInt8 → Error → WriteEvent → Prop) (context : ℕ → String) :
    List (List WriteStep) → List (Except Error Unit) → List WriteEvent → Prop
  | nil : ExecutedAll fails context [] [] []
  | cons {steps : List WriteStep} {calls : List (List WriteStep)} {result : Except Error Unit}
    {results : List (Except Error Unit)} {events rest : List WriteEvent} :
    Executed fails context steps result events → ExecutedAll fails context calls results rest →
      ExecutedAll fails context (steps :: calls) (result :: results) (events ++ rest)

theorem executeAll_executed {first writer : MetricWriter} (fits : writer.Fits c)
    {calls : List (List WriteStep)}
    (own : ∀ steps ∈ calls, ∀ step ∈ steps, OwnFrame c.protocol.isSpi step)
    (before : List WriteEvent) :
    Ensures (fun s => effectsOf s.2 = before ∧ Reached first s.2 writer)
      (executeAll world.traced calls writer) fun results s =>
        (∃ events, effectsOf s.2 = before ++ events ∧
          ExecutedAll writer.Fails writer.context calls results events) ∧
            ∃ last, Reached first s.2 last := by
  induction calls generalizing writer before with
  | nil =>
    exact .pure fun s holds => ⟨⟨[], by simpa using holds.1, .nil⟩, writer, holds.2⟩
  | cons steps calls ih =>
    intro s holds
    obtain ⟨⟨events, logged, executed⟩, reached, fits', failsAlike, contextAlike⟩ :=
      executeWrites_executed fits (own steps (List.mem_cons_self ..)) before s holds
    obtain ⟨⟨rest, logged', executed'⟩, last⟩ := ih fits'
      (fun steps mem => own steps (List.mem_cons_of_mem _ mem)) (before ++ events) _
      ⟨logged, reached⟩
    rw [failsAlike, contextAlike] at executed'
    exact ⟨⟨events ++ rest, logged'.trans (List.append_assoc ..), .cons executed executed'⟩, last⟩

end

/-! ## A device that gives up -/

/-- A bus whose devices take a number of frames and then no more. -/
def tiringWorld : WriterWorld ℕ where
  write _ _ _
    | 0 => (.error (.msg "nack"), 0)
    | n + 1 => (.ok (), n)
  transfer _ bytes n := (.ok bytes, n)
  i3c _ := {
    writeRead _ _ readLen n := (.ok (List.replicate readLen 0), n)
    resolveAddressFromSysfs _ n := (.ok 8, n)
    sleep _ n := ((), n) }
  sleep _ n := ((), n)

end BusExporter
