import BusExporter.Reader.Factory
import BusExporter.Reader.Modbus.Provenance

/-!
# Readers in the outside world

All that the readers of every protocol ask of the outside world, and one read from
the creation of the reader to its results. A Modbus context is part of the reader
that holds it; everything else that changes is the world's state.
-/

namespace BusExporter

open Foundation Factory Modbus

/-- The outside world with states `σ` and Modbus contexts `κ`: how opening a bus device ends,
what the devices and the network do, and when a read is cancelled. -/
structure World (σ κ : Type) where
  openDevice : CollectorConfig → StateM σ (Except Error Unit)
  i2c : String → UInt8 → I2c.I2cDevice σ
  spi : String → Spi.SpiDevice σ
  i3c : String → I3c.I3cWorld σ
  network : StateM σ (Network κ)
  calls : ContextCalls κ
  isCancelled : StateM σ Bool

variable {σ κ : Type}

/-- Every device returns as many bytes as were asked for, or as were sent over SPI. -/
structure World.Exact (world : World σ κ) : Prop where
  i2c : ∀ bus address, (world.i2c bus address).Exact
  spi : ∀ device, (world.spi device).Exact
  i3c : ∀ bus, (world.i3c bus).Exact

variable (world : World σ κ) (metrics : List MetricConfig)

/-- Connect a new Modbus reader, and read all metrics. -/
def readModbus (client : ModbusMetricReader κ) : StateM σ (Except Error ReadResults) := do
  let network ← world.network
  let opened := (client.setMetrics metrics).connect network
  return opened.1.map fun _ => ((ModbusMetricReader.read world.calls).run opened.2).1

/-- The I3C reader's own state lasts as long as the read. -/
def readI3c (client : I3c.I3cMetricReader) : Call σ ReadResults := fun s => do
  let (results, (_, s)) ← (Reader.readAll (I3c.inWorld world.isCancelled)
    (I3c.readI3cMetric (world.i3c client.busPath)) metrics).run (client, s)
  return (results, s)

/-- Connect a reader and read all metrics; only a Modbus reader can fail to connect. -/
def connectAndRead : MetricReader → Call σ (Except Error ReadResults)
  | .modbusTcp endpoint slaveId =>
    external (readModbus world metrics (ModbusTcpMetricReader.new endpoint slaveId))
  | .modbusRtu builder slaveId =>
    external (readModbus world metrics (ModbusRtuMetricReader.new builder slaveId))
  | .i2c client =>
    Except.ok <$> Reader.readAll world.isCancelled
      (I2c.readI2cMetric (world.i2c client.busPath client.address) client) metrics
  | .spi client =>
    Except.ok <$> Reader.readAll world.isCancelled
      (Spi.readSpiMetric (world.spi client.devicePath) client) metrics
  | .i3c client => Except.ok <$> readI3c world metrics client

/-- How far a read of a collector gets. -/
inductive Attempt where
  | createFailed (e : Error)
  | connectFailed (e : Error)
  | read (results : ReadResults)

def Attempt.ofOutcome : Except Error ReadResults → Attempt
  | .error e => connectFailed e
  | .ok results => read results

/-- Use a reader, if it could be created. -/
def attemptWith (c : CollectorConfig) : Except Error MetricReader → Call σ Attempt
  | .error e => return .createFailed e
  | .ok reader => Attempt.ofOutcome <$> connectAndRead world c.metrics reader

/-- Create the reader of a collector, connect it, and read all its metrics. -/
def attempt (c : CollectorConfig) : Call σ Attempt := do
  let opened ← external (world.openDevice c)
  let reader ← (create opened c : Except Panic (Except Error MetricReader))
  attemptWith world c reader

end BusExporter
