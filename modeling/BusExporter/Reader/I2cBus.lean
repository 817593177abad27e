import BusExporter.Foundation.Machine
import BusExporter.Reader.I2c

/-!
# I2C buses with several users

Readers and writers of any number of collectors on any number of buses. A reader
or a writer hands each of its operations to a thread of its own, and the threads
run in any order, a signal on a bus at a time: the start of a message, one byte,
the end of a message. A thread takes the lock of its bus and the lock of its
device handle before its first signal and gives both back after its last one.

A device has one register pointer. The first byte of a write sets it, further
bytes of the write are stored from there on, and a read returns what is stored
from there on.
-/

namespace BusExporter.I2cBus

open Foundation

/-! ## Devices -/

/-- The memory of a device: one byte, at a distance from the register that the pointer is at. -/
structure Registers (μ : Type) where
  store : μ → UInt8 → ℕ → UInt8 → μ
  load : μ → UInt8 → ℕ → UInt8

/-- A device on the bus. -/
structure Device (μ : Type) where
  memory : μ
  pointer : UInt8
  /-- The number of bytes of the current message. -/
  position : ℕ

section Device

variable {μ : Type} (registers : Registers μ) (device : Device μ)

/-- A message begins. -/
def Device.start : Device μ := { device with position := 0 }

/-- A byte of a write. -/
def Device.receive (byte : UInt8) : Device μ :=
  match device.position with
  -- The first byte is the register.
  | 0 => { device with pointer := byte, position := 1 }
  | distance + 1 =>
    { device with
      memory := registers.store device.memory device.pointer distance byte
      position := distance + 2 }

/-- The next byte of a read. -/
def Device.current : UInt8 := registers.load device.memory device.pointer device.position

/-- The next byte of a read has been sent. -/
def Device.advance : Device μ := { device with position := device.position + 1 }

end Device

/-! ## Locks -/

/-- `get_bus_lock`: the lock of a bus path, from the map of all of them, or a new one. -/
def getBusLock (busLocks : HashMap ℕ) (busPath : String) : ℕ × HashMap ℕ :=
  match busLocks.lookup busPath with
  -- The map is only looked up by the text of the path.
  | some lock => (lock, busLocks)
  | none => (busLocks.keys.length, busLocks.insert busPath busLocks.keys.length)

/-! ## Operations -/

/-- What a thread does on its device. -/
inductive Operation where
  /-- `write_read(&[register], num_bytes)`. -/
  | read (register : UInt8) (numBytes : ℕ)
  /-- `write` of the step's address and value. -/
  | write (address : UInt8) (value : ByteValue)
  deriving DecidableEq

/-- The bytes that an operation writes. -/
def Operation.buf : Operation → List UInt8
  | read register _ => [register]
  | write address value => address :: value.asBytes

/-- The operation of `read_i2c_metric`. -/
def readOperation (metric : MetricConfig) : Except Panic Operation :=
  (I2c.register metric).map fun register =>
    .read register (Decoder.byteCount (Decoder.mapDataType metric.dataType))

/-- The operation of one step of `execute_writes`, if it has one. -/
def writeOperation (step : WriteStep) : Option Operation :=
  match step.address, step.value with
  | some address, some value => some (.write address value)
  | _, _ => none

/-- A reader with its metrics, or a writer with its steps. -/
inductive Role where
  | reader (metrics : List MetricConfig)
  | writer (steps : List WriteStep)

/-- The operation for a metric or a step, by its index. -/
def Role.operation (role : Role) (index : ℕ) : Option Operation :=
  match role with
  | reader metrics => metrics[index]? >>= fun metric => (readOperation metric).toOption
  | writer steps => steps[index]? >>= writeOperation

/-- A reader or a writer with the lock of its bus. -/
structure Party where
  busPath : String
  address : UInt8
  busLock : ℕ
  role : Role

/-! ## Threads -/

inductive Location where
  | waiting
  | lockedBus
  | lockedDevice
  /-- In `write_all`, with the bytes that are left. -/
  | sending (left : List UInt8)
  /-- Between `write_all` and `read_exact`. -/
  | selected
  /-- In `read_exact`, with the bytes so far. -/
  | receiving (bytes : List UInt8)
  | finished
  deriving DecidableEq

/-- Whether a thread holds the lock of its bus. -/
def Location.holdsBus : Location → Bool
  | waiting | finished => false
  | _ => true

/-- Whether a thread is using its device. -/
def Location.usesDevice : Location → Bool
  | waiting | lockedBus | finished => false
  | _ => true

/-- A thread, with what its closure has captured. -/
structure Thread where
  busPath : String
  address : UInt8
  busLock : ℕ
  /-- The reader or writer whose device handle it uses. -/
  party : ℕ
  operation : Operation
  location : Location

/-- What can be seen on a bus. -/
inductive Signal where
  | startWrite (address : UInt8)
  | startRead (address : UInt8)
  | byte (byte : UInt8)
  | stop
  deriving DecidableEq

inductive Event where
  | signal (busPath : String) (signal : Signal)
  /-- A thread's read has returned. -/
  | returned (thread : ℕ) (bytes : List UInt8)
  /-- A thread's write has returned. -/
  | wrote (thread : ℕ)
  | failed (thread : ℕ)
  deriving DecidableEq

inductive Input where
  /-- A reader or a writer is created. -/
  | create (busPath : String) (address : UInt8) (role : Role)
  /-- A reader or a writer spawns a thread for one of its operations. -/
  | spawn (party index : ℕ)
  /-- A thread runs on. -/
  | run (thread : ℕ)
  /-- The operation of a thread fails. -/
  | fail (thread : ℕ)

structure State (μ : Type) where
  busLocks : HashMap ℕ
  busLocked : ℕ → Bool
  deviceLocked : ℕ → Bool
  parties : List Party
  threads : List Thread
  /-- The devices of a bus, by their addresses. -/
  devices : String → UInt8 → Device μ

namespace State

variable {μ : Type} (registers : Registers μ) (s : State μ)

/-- The device that a thread talks to. -/
def deviceOf (t : Thread) : Device μ := s.devices t.busPath t.address

/-- A thread goes on at a location, and its device changes. -/
def move (id : ℕ) (t : Thread) (location : Location) (device : Device μ) : State μ :=
  { s with
    threads := s.threads.set id { t with location := location }
    devices := Function.update s.devices t.busPath
      (Function.update (s.devices t.busPath) t.address device) }

/-- A thread's operation has ended; both guards are dropped. -/
def release (id : ℕ) (t : Thread) : State μ :=
  { s.move id t .finished (s.deviceOf t) with
    busLocked := Function.update s.busLocked t.busLock false
    deviceLocked := Function.update s.deviceLocked t.party false }

/-- The next step of a thread. -/
def runThread (id : ℕ) (t : Thread) : Option (State μ × List Event) :=
  let device := s.deviceOf t
  match t.location with
  | .waiting =>
    -- The lock of the bus is taken first by everyone, so no two wait for each other.
    if s.busLocked t.busLock then none
    else some ({ s.move id t .lockedBus device with
      busLocked := Function.update s.busLocked t.busLock true }, [])
  | .lockedBus =>
    if s.deviceLocked t.party then none
    else some ({ s.move id t .lockedDevice device with
      deviceLocked := Function.update s.deviceLocked t.party true }, [])
  | .lockedDevice =>
    some (s.move id t (.sending t.operation.buf) device.start,
      [.signal t.busPath (.startWrite t.address)])
  | .sending (byte :: left) =>
    some (s.move id t (.sending left) (device.receive registers byte),
      [.signal t.busPath (.byte byte)])
  | .sending [] =>
    match t.operation with
    | .read _ _ => some (s.move id t .selected device, [.signal t.busPath .stop])
    | .write _ _ => some (s.release id t, [.signal t.busPath .stop, .wrote id])
  | .selected =>
    some (s.move id t (.receiving []) device.start, [.signal t.busPath (.startRead t.address)])
  | .receiving bytes =>
    match t.operation with
    | .read _ numBytes =>
      -- The pointer stays where it is; only the position advances.
      if bytes.length < numBytes then
        let byte := device.current registers
        some (s.move id t (.receiving (bytes ++ [byte])) device.advance,
          [.signal t.busPath (.byte byte)])
      else some (s.release id t, [.signal t.busPath .stop, .returned id bytes])
    | .write _ _ => none
  | .finished => none

def step (s : State μ) (input : Input) : Option (State μ × List Event) :=
  match input with
  | .create busPath address role =>
    let (lock, busLocks) := getBusLock s.busLocks busPath
    some ({ s with
      busLocks := busLocks
      parties := s.parties ++ [⟨busPath, address, lock, role⟩] }, [])
  | .spawn party index => do
    let p ← s.parties[party]?
    let operation ← p.role.operation index
    let t : Thread := ⟨p.busPath, p.address, p.busLock, party, operation, .waiting⟩
    return ({ s with threads := s.threads ++ [t] }, [])
  | .run id => s.threads[id]? >>= s.runThread registers id
  | .fail id => do
    let t ← s.threads[id]?
    -- Before the device is locked there is no call that could fail.
    if t.location.usesDevice then some (s.release id t, [.failed id]) else none

/-- Nobody uses the buses yet. -/
def initial (devices : String → UInt8 → Device μ) : State μ where
  busLocks := ∅
  busLocked _ := false
  deviceLocked _ := false
  parties := []
  threads := []
  devices := devices

end State

/-- All the users of the buses, from given devices on. -/
def machine {μ : Type} (registers : Registers μ) (devices : String → UInt8 → Device μ) :
    Machine (State μ) Input Event :=
  ⟨State.initial devices, State.step registers⟩

end BusExporter.I2cBus
