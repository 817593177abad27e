import BusExporter.Reader.Basic
import BusExporter.Reader.Modbus.Results

/-!
# Modbus clients

The TCP and the RTU reader keep an optional `tokio_modbus` context, and differ in
how they get one and in how their messages name the peer. Only `connect` and
`disconnect` change whether there is a context, so `isConnected` says nothing
about the transport under it. The contexts and the network are those of other
packages; here they are parameters.
-/

namespace BusExporter.Modbus

open Foundation

/-! ## The line to a device -/

inductive DataBits where
  | five
  | six
  | seven
  | eight
  deriving DecidableEq, Repr

inductive StopBits where
  | one
  | two
  deriving DecidableEq, Repr

/-- The serial port that an RTU reader opens when it connects. -/
structure SerialPortBuilder where
  device : String
  bps : UInt32
  dataBits : DataBits
  stopBits : StopBits
  parity : Parity
  deriving DecidableEq

inductive Line where
  | tcp (endpoint : String)
  | rtu (builder : SerialPortBuilder)
  deriving DecidableEq

/-- How the messages of a reader name the device it talks to. -/
def Line.peer (slaveId : UInt8) : Line → String
  | tcp endpoint => s!"endpoint={endpoint}, slave={slaveId}"
  | rtu _ => s!"slave={slaveId}"

/-- The outside world when a connection is opened, with contexts of type `κ`. -/
structure Network (κ : Type) where
  lookupHost : String → Except Error (List String)
  connectSlave : String → UInt8 → Except Error κ
  attachSerial : SerialPortBuilder → UInt8 → Except Error κ

/-- Open a connection over a line. -/
def Line.establish {κ : Type} (network : Network κ) (slaveId : UInt8) : Line → Except Error κ
  -- Each of the three failures has its own text.
  | tcp endpoint => do
    let addrs ← withContext (network.lookupHost endpoint)
      s!"failed to resolve endpoint '{endpoint}'"
    -- Of several addresses only the first one is tried.
    let addr ← someOr addrs.head? s!"no addresses found for endpoint '{endpoint}'"
    withContext (network.connectSlave addr slaveId)
      s!"failed to connect to {endpoint} (slave={slaveId})"
  | rtu builder =>
    withContext (network.attachSerial builder slaveId)
      s!"failed to open serial port (slave={slaveId})"

/-! ## Contexts -/

/-- What a read call of a context comes to within the timeout. -/
inductive Response (α : Type) where
  | timedOut
  | failed (e : Error)
  | exception (e : Error)
  | data (values : List α)
  deriving DecidableEq

/-- A response, with the contexts that a reader wraps around a failure. -/
def Response.toResult {α : Type} (call : String) (addr count : UInt16) (peer : String) :
    Response α → Except Error (List α)
  | timedOut =>
    .error ((Error.msg "deadline has elapsed").context
      s!"{call} timed out (addr={addr}, count={count}, {peer})")
  | failed e => .error (e.context s!"{call} failed (addr={addr}, count={count}, {peer})")
  | exception e =>
    .error (e.context s!"{call} empty response (addr={addr}, count={count}, {peer})")
  | data values => .ok values

def Response.isData {α : Type} : Response α → Bool
  | data _ => true
  | _ => false

theorem Response.toResult_toOption {α : Type} {response : Response α}
    (failure : response.isData = false) (call : String) (addr count : UInt16) (peer : String) :
    (response.toResult call addr count peer).toOption = none := by
  cases response with
  | data values => exact absurd failure Bool.true_eq_false.mp
  | timedOut | failed | exception => rfl

/-- The read calls of a context of type `κ`. -/
structure ContextCalls (κ : Type) where
  readHoldingRegisters : UInt16 → UInt16 → StateM κ (Response UInt16)
  readInputRegisters : UInt16 → UInt16 → StateM κ (Response UInt16)
  readCoils : UInt16 → UInt16 → StateM κ (Response Bool)
  readDiscreteInputs : UInt16 → UInt16 → StateM κ (Response Bool)

/-- A context whose transport is dead stays so, and its read calls yield no data. -/
structure ContextCalls.StaysDead {κ : Type} (calls : ContextCalls κ) (dead : κ → Bool) :
    Prop where
  holding : ∀ addr count, Ensures (dead ·) (calls.readHoldingRegisters addr count)
    fun response context => response.isData = false ∧ dead context
  input : ∀ addr count, Ensures (dead ·) (calls.readInputRegisters addr count)
    fun response context => response.isData = false ∧ dead context
  coil : ∀ addr count, Ensures (dead ·) (calls.readCoils addr count)
    fun response context => response.isData = false ∧ dead context
  discrete : ∀ addr count, Ensures (dead ·) (calls.readDiscreteInputs addr count)
    fun response context => response.isData = false ∧ dead context

/-! ## Clients -/

/-- Validate register count for FC03/FC04. -/
def validateRegisterCount (count : UInt16) : Except Error Unit :=
  if count = 0 ∨ count.toNat > maxRegistersPerRead then
    .error (.msg s!"register count {count} out of range (1..={maxRegistersPerRead})")
  else .ok ()

/-- Validate coil/discrete input count for FC01/FC02. -/
def validateCoilCount (count : UInt16) : Except Error Unit :=
  if count = 0 ∨ count.toNat > maxCoilsPerRead then
    .error (.msg s!"coil/discrete count {count} out of range (1..={maxCoilsPerRead})")
  else .ok ()

structure ModbusMetricReader (κ : Type) where
  line : Line
  slaveId : UInt8
  context : Option κ
  metrics : List MetricConfig

/-- A reader that is not connected yet. -/
def ModbusMetricReader.new {κ : Type} (line : Line) (slaveId : UInt8) : ModbusMetricReader κ :=
  ⟨line, slaveId, none, []⟩

/-- `ModbusTcpMetricReader::new`. -/
def ModbusTcpMetricReader.new {κ : Type} (endpoint : String) (slaveId : UInt8) :
    ModbusMetricReader κ :=
  .new (.tcp endpoint) slaveId

/-- `ModbusRtuMetricReader::new`. -/
def ModbusRtuMetricReader.new {κ : Type} (builder : SerialPortBuilder) (slaveId : UInt8) :
    ModbusMetricReader κ :=
  .new (.rtu builder) slaveId

namespace ModbusMetricReader

variable {κ : Type} (client : ModbusMetricReader κ)

def setMetrics (metrics : List MetricConfig) : ModbusMetricReader κ :=
  { client with metrics := metrics }

def disconnect : ModbusMetricReader κ := { client with context := none }

def isConnected : Bool := client.context.isSome

/-- Connect, after closing a connection that is still open. -/
def connect (network : Network κ) : Except Error Unit × ModbusMetricReader κ :=
  let client := if client.context.isSome then client.disconnect else client
  match client.line.establish network client.slaveId with
  | .ok context => (.ok (), { client with context := some context })
  | .error e => (.error e, client)

section Connect

variable {client} {network : Network κ}

theorem connect_ok {context : κ}
    (established : client.line.establish network client.slaveId = .ok context) :
    client.connect network = (.ok (), { client with context := some context }) := by
  unfold connect
  cases client.context.isSome <;> simp [disconnect, established]

/-- A connect that fails leaves no connection behind. -/
theorem connect_error {e : Error}
    (failed : client.line.establish network client.slaveId = .error e) :
    client.connect network = (.error e, client.disconnect) := by
  unfold connect
  cases held : client.context with
  | none => simp [disconnect, failed, ← held]
  | some context => simp [disconnect, failed]

end Connect

/-- One read call: the count is checked first, then there has to be a context. -/
def call {α : Type} (validate : UInt16 → Except Error Unit) (name : String)
    (request : UInt16 → UInt16 → StateM κ (Response α)) (addr count : UInt16) :
    StateM (ModbusMetricReader κ) (Except Error (List α)) := fun client =>
  let peer := client.line.peer client.slaveId
  -- A bad count is reported even without a connection.
  match validate count, client.context with
  | .error e, _ => (.error e, client)
  | .ok _, none => (.error (.msg s!"not connected ({peer})"), client)
  | .ok _, some context =>
    let answer := (request addr count).run context
    (answer.1.toResult name addr count peer, { client with context := some answer.2 })

variable (calls : ContextCalls κ)

/-- The read interface of a client. -/
def reader : ModbusReader (ModbusMetricReader κ) where
  readHoldingRegisters :=
    call validateRegisterCount "read_holding_registers" calls.readHoldingRegisters
  readInputRegisters := call validateRegisterCount "read_input_registers" calls.readInputRegisters
  readCoils := call validateCoilCount "read_coils" calls.readCoils
  readDiscreteInputs := call validateCoilCount "read_discrete_inputs" calls.readDiscreteInputs

/-- Read all metrics in one batch; of metrics that share a name the last one wins. -/
def read : StateM (ModbusMetricReader κ) ReadResults := do
  let client ← get
  let batch ← batchReadCoalesced (reader calls) client.metrics
  return ⟨HashMap.collect (batch.results.map fun (m, result) => (m.name, result)),
    batch.readCount⟩

variable {calls} {client}

variable (client) in
/-- What is good for every slot of the batch is good for every result that is returned. -/
theorem read_delivers {kept : ModbusMetricReader κ → Prop} {good : ℕ → MetricResult → Prop}
    (delivers : Delivers (reader calls) client.metrics kept good) (keeps : kept client) :
    kept ((read calls).run client).2 ∧
      ∀ pair ∈ ((read calls).run client).1.metrics.pairs,
        ∃ (i : ℕ) (m : MetricConfig),
          client.metrics[i]? = some m ∧ m.name = pair.1 ∧ good i pair.2 := by
  obtain ⟨⟨inputs, results⟩, keeps⟩ := delivers.batchReadCoalesced client keeps
  refine ⟨keeps, fun pair mem => ?_⟩
  have collected := HashMap.mem_of_lookup_collect (HashMap.mem_pairs.mp mem)
  obtain ⟨⟨m, result⟩, inBatch, named⟩ := List.mem_map.mp collected
  -- A result in the map comes from some slot, and every slot has been settled.
  obtain ⟨i, stored⟩ := List.mem_iff_getElem?.mp inBatch
  have found : client.metrics[i]? = some m := by
    refine (congrArg (·[i]?) inputs).symm.trans ?_
    exact List.getElem?_map.trans (congrArg (Option.map Prod.fst) stored)
  obtain ⟨result', stored', isGood⟩ := results i m found
  have same : result = result' :=
    congrArg Prod.snd (Option.some_inj.mp (stored.symm.trans stored'))
  rw [← same] at isGood
  exact ⟨i, m, found, congrArg Prod.fst named, congrArg Prod.snd named ▸ isGood⟩

/-! ## Reading over a transport that may be dead -/

/-- The client still holds a context, and a dead one if it held a dead one before. -/
def Holds (dead : κ → Bool) (context : κ) (client after : ModbusMetricReader κ) : Prop :=
  ∃ context', after = { client with context := some context' } ∧ (dead context → dead context')

variable {dead : κ → Bool} {context : κ}

theorem call_holds {α : Type} {request : UInt16 → UInt16 → StateM κ (Response α)}
    {addr count : UInt16}
    (stays : Ensures (dead ·) (request addr count)
      fun response context => response.isData = false ∧ dead context)
    (validate : UInt16 → Except Error Unit) (name : String) :
    Ensures (Holds dead context client) (call validate name request addr count)
      fun result after => (dead context → result.toOption = none) ∧
        Holds dead context client after := by
  rintro _ ⟨before, rfl, inherits⟩
  cases valid : validate count with
  | error e =>
    -- The count is rejected before the transport is used.
    have rejected : (call validate name request addr count).run
        { client with context := some before } =
          (.error e, { client with context := some before }) := by
      simp only [call, StateT.run, valid]
    rw [rejected]
    exact ⟨fun _ => rfl, before, rfl, inherits⟩
  | ok _ =>
    have answered : (call validate name request addr count).run
        { client with context := some before } =
          (((request addr count).run before).1.toResult name addr count
              (client.line.peer client.slaveId),
            { client with context := some ((request addr count).run before).2 }) := by
      simp only [call, StateT.run, valid]
    rw [answered]
    refine ⟨fun isDead => ?_, _, rfl, fun isDead => (stays before (inherits isDead)).2⟩
    exact Response.toResult_toOption (stays before (inherits isDead)).1 _ _ _ _

section Dead

variable (stays : calls.StaysDead dead)
include stays

theorem readRegisters_holds (registerType : RegisterType) (addr count : UInt16) :
    Ensures (Holds dead context client) ((reader calls).readRegisters registerType addr count)
      fun result after => (dead context → result.toOption = none) ∧
        Holds dead context client after := by
  cases registerType with
  | input => exact call_holds (stays.input addr count) _ _
  | holding | coil | discrete => exact call_holds (stays.holding addr count) _ _

theorem readSingle_holds (metric : MetricConfig) :
    Ensures (Holds dead context client) (readSingle (reader calls) metric)
      fun result after => (dead context → result.toOption = none) ∧
        Holds dead context client after := by
  unfold readSingle
  -- Whatever is decoded from a failed call is that failure.
  have decoded : ∀ {α : Type} {m : StateM (ModbusMetricReader κ) (Except Error (List α))}
      (decode : List α → MetricResult),
      (Ensures (Holds dead context client) m fun result after =>
        (dead context → result.toOption = none) ∧ Holds dead context client after) →
      Ensures (Holds dead context client) (m >>= fun values => pure (values >>= decode))
        fun result after => (dead context → result.toOption = none) ∧
          Holds dead context client after := by
    intro α m decode fails
    refine fails.bind fun values => .pure ?_
    rintro after ⟨failed, holds⟩
    refine ⟨fun isDead => ?_, holds⟩
    cases values with
    | ok values => exact absurd (failed isDead) (by simp [Except.toOption])
    | error e => rfl
  cases metric.address with
  | none => exact .pure fun after holds => ⟨fun _ => rfl, holds⟩
  | some addr =>
    cases metric.registerType.getD .holding with
    | holding => exact decoded _ (call_holds (stays.holding addr _) _ _)
    | input => exact decoded _ (call_holds (stays.input addr _) _ _)
    | coil => exact decoded _ (call_holds (stays.coil addr 1) _ _)
    | discrete => exact decoded _ (call_holds (stays.discrete addr 1) _ _)

theorem delivers_failures (metrics : List MetricConfig) :
    Delivers (reader calls) metrics (Holds dead context client)
      fun _ result => dead context → result.toOption = none where
  missing _ _ _ _ _ := rfl
  range registerType _ _ _ :=
    (readRegisters_holds stays registerType _ _).mono fun _ _ ⟨_, holds⟩ => holds
  sliced registerType _ group _ s regs holds read _ _ isDead := by
    -- On a dead context no range can be read, so nothing is sliced.
    have failed : ((reader calls).readGroup registerType group).run s |>.1.toOption = none :=
      ((readRegisters_holds stays registerType _ _) s holds).1 isDead
    rw [read] at failed
    exact absurd failed (by simp [Except.toOption])
  fallback _ _ _ _ _ _ _ _ item _ := readSingle_holds stays item.metric
  bit _ m _ := readSingle_holds stays m

/-- A read keeps the context; on a dead one, every result is an error and the context
stays dead. -/
theorem read_holds (held : client.context = some context) :
    Holds dead context client ((read calls).run client).2 ∧
      (dead context → ∀ pair ∈ ((read calls).run client).1.metrics.pairs,
        pair.2.toOption = none) := by
  have delivers : Delivers (reader calls) client.metrics (Holds dead context client)
      fun _ result => dead context → result.toOption = none :=
    delivers_failures stays client.metrics
  obtain ⟨holds, failures⟩ := read_delivers client delivers ⟨context, by rw [← held], id⟩
  refine ⟨holds, fun isDead pair mem => ?_⟩
  obtain ⟨-, -, -, -, failed⟩ := failures pair mem
  exact failed isDead

end Dead

end ModbusMetricReader

end BusExporter.Modbus
