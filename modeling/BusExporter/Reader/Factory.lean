import BusExporter.Reader.I2c
import BusExporter.Reader.I3c
import BusExporter.Reader.Modbus.Client
import BusExporter.Reader.Spi

/-!
# Creating readers and writers

`MetricReaderFactoryImpl`. Whether the bus device can be opened is up to the
outside world; an I3C device class without an instance is unwrapped all the same.
-/

namespace BusExporter.Factory

open Foundation Modbus

inductive MetricReader where
  | modbusTcp (endpoint : String) (slaveId : UInt8)
  | modbusRtu (builder : SerialPortBuilder) (slaveId : UInt8)
  | i2c (client : I2c.I2cMetricReader)
  | spi (client : Spi.SpiMetricReader)
  | i3c (client : I3c.I3cMetricReader)
  deriving DecidableEq

inductive MetricWriter where
  | i2c (busPath : String) (address : UInt8)
  | spi (devicePath : String)
  | i3c (client : I3c.I3cMetricReader)
  deriving DecidableEq

def dataBits (bits : UInt8) : DataBits :=
  if bits = 5 then .five else if bits = 6 then .six else if bits = 7 then .seven else .eight

def stopBits (bits : UInt8) : StopBits := if bits = 2 then .two else .one

/-- The I3C address mode; without a PID and an address, the class and the instance are
unwrapped. -/
def addressMode (pid : Option String) (address : Option UInt8) (deviceClass : Option String)
    (instanceIndex : Option UInt8) : Except Panic I3c.AddressMode :=
  match pid, address with
  | some pid, _ => .ok (.pid pid)
  | none, some addr => .ok (.static addr)
  | none, none => do
    let deviceClass ← unwrap deviceClass
    let instanceIndex ← unwrap instanceIndex
    return .deviceClass deviceClass instanceIndex

/-- `create`, with the outcome of opening the bus device. -/
def create (opened : Except Error Unit) (collector : CollectorConfig) :
    Except Panic (Except Error MetricReader) :=
  match collector.protocol with
  | .modbusTcp endpoint => .ok (.ok (.modbusTcp endpoint (collector.slaveId.getD 1)))
  | .modbusRtu device bps bits stop parity =>
    .ok (.ok (.modbusRtu ⟨device, bps, dataBits bits, stopBits stop, parity⟩
      (collector.slaveId.getD 1)))
  | .i2c bus address =>
    .ok ((withContext opened "failed to open I2C device").map fun _ => .i2c ⟨bus, address⟩)
  | .spi device _ _ _ =>
    .ok ((withContext opened "failed to open SPI device").map fun _ => .spi ⟨device⟩)
  | .i3c bus pid address deviceClass instanceIndex => do
    let mode ← addressMode pid address deviceClass instanceIndex
    return (withContext opened "failed to open I3C device").map fun _ => .i3c (.new bus mode)

/-- `create_writer`: none without write steps, and none for Modbus. -/
def createWriter (opened : Except Error Unit) (collector : CollectorConfig) :
    Except Panic (Except Error (Option MetricWriter)) :=
  if collector.initWrites = [] ∧ collector.prePoll = [] then .ok (.ok none)
  else
    match collector.protocol with
    | .modbusTcp _ | .modbusRtu .. => .ok (.ok none)
    | .i2c bus address =>
      .ok ((withContext opened "failed to open I2C device for writer").map fun _ =>
        some (.i2c bus address))
    | .spi device _ _ _ =>
      .ok ((withContext opened "failed to open SPI device for writer").map fun _ =>
        some (.spi device))
    | .i3c bus pid address deviceClass instanceIndex => do
      let mode ← addressMode pid address deviceClass instanceIndex
      return (withContext opened "failed to open I3C device for writer").map fun _ =>
        some (.i3c (.new bus mode))

/-- A collector that has write steps to execute and is not a Modbus collector gets a writer. -/
theorem createWriter_isSome {opened : Except Error Unit} {collector : CollectorConfig}
    {writer : Option MetricWriter} (created : createWriter opened collector = .ok (.ok writer))
    (steps : collector.initWrites ≠ [] ∨ collector.prePoll ≠ [])
    (notModbus : collector.protocol.isModbus = false) : writer.isSome := by
  have some_steps : ¬ (collector.initWrites = [] ∧ collector.prePoll = []) := by tauto
  rw [createWriter, if_neg some_steps] at created
  have present : ∀ (w : MetricWriter) (message : String),
      (withContext opened message).map (fun _ => some w) = .ok writer → writer.isSome := by
    intro w message opened_ok
    cases opened with
    | error e => cases opened_ok
    | ok _ => cases opened_ok; rfl
  cases protocol : collector.protocol with
  | modbusTcp | modbusRtu =>
    rw [protocol] at notModbus
    exact absurd notModbus Bool.true_eq_false.mp
  | i2c | spi =>
    simp only [protocol, Except.ok.injEq] at created
    exact present _ _ created
  | i3c bus pid address deviceClass instanceIndex =>
    simp only [protocol, bind_eq_ok] at created
    obtain ⟨mode, -, created⟩ := created
    exact present _ _ (Except.ok.inj created)

end BusExporter.Factory
