import BusExporter.Config.Accepted
import BusExporter.Reader.World

/-!
# Reading without panics

What a collector needs so that its reader is created and read without a panic, and
so that every value comes from the metric's own address. The readers check none of
it. A collector that lacks it fails on devices that do nothing but answer.
-/

namespace BusExporter

open Foundation Factory Modbus

variable {σ κ : Type}

/-- The value was read from the address of the metric, on the collector's own device. -/
def ReadFrom (world : World σ κ) (c : CollectorConfig) (m : MetricConfig)
    (value : Float × Float) : Prop :=
  match c.protocol with
  | .modbusTcp .. | .modbusRtu .. => Modbus.ReadFrom world.calls m value
  | .i2c bus address => I2c.ReadFrom (world.i2c bus address) m value
  | .spi device .. => Spi.ReadFrom (world.spi device) m value
  | .i3c bus .. => I3c.ReadFrom (world.i3c bus) m value

/-- A value is read from its metric's address. -/
def Sourced (world : World σ κ) (c : CollectorConfig) (m : MetricConfig)
    (result : MetricResult) : Prop :=
  ∀ value, result = .ok value → ReadFrom world c m value

/-- All values of a read are sourced. -/
def Attempt.Sourced (world : World σ κ) (c : CollectorConfig) : Attempt → Prop
  | read results => Reader.AllGood (BusExporter.Sourced world c) c.metrics results.metrics
  | createFailed _ | connectFailed _ => True

/-- What the readers rely on: a mode for I3C, byte-sized register addresses for I2C and I3C,
slices within the response for SPI. -/
def CollectorConfig.Sound (c : CollectorConfig) : Prop :=
  match c.protocol with
  | .modbusTcp .. | .modbusRtu .. => True
  | .i2c .. => ∀ m ∈ c.metrics, m.FitsByte
  | .spi .. => ∀ m ∈ c.metrics, Spi.ResponseFits m
  | .i3c _ pid address deviceClass instanceIndex =>
    (pid.isSome ∨ address.isSome ∨ deviceClass.isSome ∧ instanceIndex.isSome) ∧
      ∀ m ∈ c.metrics, m.FitsByte

/-! ## Sound collectors -/

section Sound

variable {world : World σ κ} {c : CollectorConfig}

/-- The outcomes of connecting and reading that leave a sourced attempt. -/
def Outcome.Sourced (world : World σ κ) (c : CollectorConfig)
    (outcome : Except Error ReadResults) : Prop :=
  ∀ results, outcome = .ok results →
    Reader.AllGood (BusExporter.Sourced world c) c.metrics results.metrics

theorem readModbus_returns (client : ModbusMetricReader κ)
    (modbus : ∀ m value, Modbus.ReadFrom world.calls m value → ReadFrom world c m value) :
    Returns (external (readModbus world c.metrics client)) (Outcome.Sourced world c) := by
  refine .external ((Always.any _).bind fun network _ => .pure ?_)
  intro results isOk
  cases established : (client.setMetrics c.metrics).line.establish network
      (client.setMetrics c.metrics).slaveId with
  | error e =>
    rw [ModbusMetricReader.connect_error established] at isOk
    cases isOk
  | ok context =>
    rw [ModbusMetricReader.connect_ok established] at isOk
    cases isOk
    intro name result found
    obtain ⟨m, mem, named, good⟩ := ModbusMetricReader.read_readFrom _ name result found
    exact ⟨m, mem, named, fun value isOk => modbus m value (good value isOk)⟩

theorem readI3c_returns {client : I3c.I3cMetricReader} (fits : ∀ m ∈ c.metrics, m.FitsByte)
    (i3c : ∀ m value, I3c.ReadFrom (world.i3c client.busPath) m value → ReadFrom world c m value) :
    Returns (readI3c world c.metrics client) fun results =>
      Reader.AllGood (Sourced world c) c.metrics results.metrics := by
  intro s
  have reads : Returns (Reader.readAll (I3c.inWorld world.isCancelled)
      (I3c.readI3cMetric (world.i3c client.busPath)) c.metrics)
      fun results => Reader.AllGood (Sourced world c) c.metrics results.metrics :=
    Reader.readAll_returns fun m mem => (I3c.readI3cMetric_returns (fits m mem)).mono
      fun result sourced value isOk => i3c m value (sourced value isOk)
  obtain ⟨results, ⟨client', s'⟩, ran, allGood⟩ := reads (client, s)
  exact ⟨results, s', by simp only [readI3c, StateT.run] at ran ⊢; rw [ran]; rfl, allGood⟩

theorem attemptWith_returns {reader : MetricReader}
    (reads : Returns (connectAndRead world c.metrics reader) (Outcome.Sourced world c)) :
    Returns (attemptWith world c (.ok reader)) (·.Sourced world c) := by
  refine reads.map fun outcome sourced => ?_
  cases outcome with
  | error e => trivial
  | ok results => exact sourced results rfl

/-- A device that fails to open is reported; else the reader connects and reads. -/
theorem attemptWith_opened_returns {opened : Except Error Unit} {message : String}
    {reader : MetricReader}
    (reads : Returns (connectAndRead world c.metrics reader) (Outcome.Sourced world c)) :
    Returns (attemptWith world c ((withContext opened message).map fun _ => reader))
      (·.Sourced world c) := by
  cases opened with
  | error e => exact .pure trivial
  | ok _ => exact attemptWith_returns reads

/-- The results of a read that comes back are an outcome. -/
theorem outcome_returns {m : Call σ ReadResults}
    (reads : Returns m fun results =>
      Reader.AllGood (Sourced world c) c.metrics results.metrics) :
    Returns (Except.ok <$> m) (Outcome.Sourced world c) := by
  refine reads.map fun results allGood results' same => ?_
  cases same
  exact allGood

theorem addressMode_isOk {pid : Option String} {address : Option UInt8}
    {deviceClass : Option String} {instanceIndex : Option UInt8}
    (mode : pid.isSome ∨ address.isSome ∨ deviceClass.isSome ∧ instanceIndex.isSome) :
    ∃ mode, addressMode pid address deviceClass instanceIndex = .ok mode := by
  cases pid with
  | some pid => exact ⟨_, rfl⟩
  | none =>
    cases address with
    | some addr => exact ⟨_, rfl⟩
    | none =>
      -- Without a PID and an address only the pair of class and index is left.
      cases deviceClass <;> cases instanceIndex <;> simp at mode
      exact ⟨_, rfl⟩

/-- A sound collector is read without a panic, and every value comes from its own address. -/
theorem attempt_returns (sound : c.Sound) (exact : world.Exact) :
    Returns (attempt world c) (·.Sourced world c) := by
  unfold CollectorConfig.Sound at sound
  refine (Returns.external (.any _)).bind fun opened _ => ?_
  -- What is left to show is that the created reader reads from the right addresses.
  have created : ∀ reader, create opened c = .ok reader →
      Returns (attemptWith world c reader) (·.Sourced world c) →
        Returns (liftM (create opened c) >>= attemptWith world c) (·.Sourced world c) := by
    intro reader evaluates used
    refine (Returns.lift (P := (· = reader)) evaluates rfl).bind ?_
    rintro _ rfl
    exact used
  cases protocol : c.protocol with
  | modbusTcp | modbusRtu =>
    refine created _ (by rw [create, protocol]) (attemptWith_returns ?_)
    exact readModbus_returns _ (by simp [ReadFrom, protocol])
  | i2c bus address =>
    rw [protocol] at sound
    refine created _ (by rw [create, protocol]) (attemptWith_opened_returns (outcome_returns ?_))
    refine Reader.readAll_returns fun m mem =>
      (I2c.readI2cMetric_returns (sound m mem)).mono fun result sourced => ?_
    simpa [Sourced, ReadFrom, protocol] using sourced
  | spi device speedHz mode bitsPerWord =>
    rw [protocol] at sound
    refine created _ (by rw [create, protocol]) (attemptWith_opened_returns (outcome_returns ?_))
    refine Reader.readAll_returns fun m mem =>
      (Spi.readSpiMetric_returns (exact.spi device) (sound m mem)).mono fun result sourced => ?_
    simpa [Sourced, ReadFrom, protocol] using sourced
  | i3c bus pid address deviceClass instanceIndex =>
    rw [protocol] at sound
    obtain ⟨mode, evaluates⟩ := addressMode_isOk sound.1
    refine created ((withContext opened "failed to open I3C device").map fun _ =>
      .i3c (.new bus mode)) (by simp only [create, protocol, evaluates]; rfl) ?_
    refine attemptWith_opened_returns (outcome_returns (readI3c_returns sound.2 ?_))
    simp [ReadFrom, protocol, I3c.I3cMetricReader.new]

end Sound

/-! ## Collectors that are not sound -/

/-- A world in which every bus device answers with zeros, and no Modbus device answers. -/
def benchWorld : World Unit Unit where
  openDevice _ := pure (.ok ())
  i2c _ _ := ⟨fun _ readLen => pure (.ok (List.replicate readLen 0))⟩
  spi _ := ⟨fun buf => pure (.ok (List.replicate buf.length 0))⟩
  i3c _ :=
    { writeRead _ _ readLen := pure (.ok (List.replicate readLen 0))
      resolveAddressFromSysfs _ := pure (.ok 0x10)
      sleep _ := pure () }
  network := pure ⟨fun _ => .ok [], fun _ _ => .ok (), fun _ _ => .ok ()⟩
  calls := ⟨fun _ _ => pure .timedOut, fun _ _ => pure .timedOut, fun _ _ => pure .timedOut,
    fun _ _ => pure .timedOut⟩
  isCancelled := pure false

theorem benchWorld_i2c (bus : String) (address : UInt8) : (benchWorld.i2c bus address).Answers :=
  fun _ readLen _ => ⟨List.replicate readLen 0, rfl, List.length_replicate⟩

theorem benchWorld_spi (device : String) : (benchWorld.spi device).Answers :=
  fun buf _ => ⟨List.replicate buf.length 0, rfl, List.length_replicate⟩

theorem benchWorld_i3c (bus : String) : (benchWorld.i3c bus).Answers where
  resolve _ _ := ⟨0x10, rfl⟩
  transfer _ _ readLen _ := ⟨List.replicate readLen 0, rfl, List.length_replicate⟩

theorem benchWorld_exact : benchWorld.Exact where
  i2c bus address buf readLen := (benchWorld_i2c bus address buf readLen).mono
    fun _ ⟨bytes, answered, exact⟩ bytes' same => by
      rw [answered, Except.ok.injEq] at same
      rw [← same, exact]
  spi device buf := (benchWorld_spi device buf).mono
    fun _ ⟨bytes, answered, exact⟩ bytes' same => by
      rw [answered, Except.ok.injEq] at same
      rw [← same, exact]
  i3c bus address buf readLen := ((benchWorld_i3c bus).transfer address buf readLen).mono
    fun _ ⟨bytes, answered, exact⟩ bytes' same => by
      rw [answered, Except.ok.injEq] at same
      rw [← same, exact]

section Unsound

variable {c : CollectorConfig} {outcome : Attempt}

/-- Every metric has a value among the results, as far as no two metrics share a name. -/
def AllRead (metrics : List MetricConfig) (results : ReadResults) : Prop :=
  (metrics.map (·.name)).Nodup →
    ∀ m ∈ metrics, ∃ value, results.metrics.lookup m.name = some (.ok value)

theorem attemptWith_of_attempt {s s' : Unit}
    (ran : (attempt benchWorld c).run s = .ok (outcome, s')) :
    ∃ reader, create (.ok ()) c = .ok reader ∧
      (attemptWith benchWorld c reader).run s = .ok (outcome, s') := by
  obtain ⟨opened, s₁, isOpen, ran⟩ := run_bind_eq_ok.mp ran
  cases run_external_eq_ok.mp isOpen
  obtain ⟨reader, s₂, created, ran⟩ := run_bind_eq_ok.mp ran
  exact ⟨reader, (run_lift_eq_ok.mp created).1, ran⟩

/-- A read that has come back is the attempt's outcome. -/
theorem read_of_attemptWith {reader : MetricReader} {m : Call Unit ReadResults} {s s' : Unit}
    (reads : connectAndRead benchWorld c.metrics reader = Except.ok <$> m)
    (ran : (attemptWith benchWorld c (.ok reader)).run s = .ok (outcome, s')) :
    ∃ results, m.run s = .ok (results, s') ∧ outcome = .read results := by
  obtain ⟨answer, answered, same⟩ := run_map_eq_ok.mp ran
  rw [reads] at answered
  obtain ⟨results, read, rfl⟩ := run_map_eq_ok.mp answered
  exact ⟨results, read, same.symm⟩

theorem bench_runs : Always benchWorld.isCancelled (· = false) := fun _ => rfl

theorem bench_i2c {bus : String} {address : UInt8} (i2c : c.protocol = .i2c bus address)
    (ran : (attempt benchWorld c).run () = .ok (outcome, ())) :
    ∃ results, outcome = .read results ∧ AllRead c.metrics results := by
  obtain ⟨reader, created, used⟩ := attemptWith_of_attempt ran
  rw [create, i2c, Except.ok.injEq] at created
  subst created
  obtain ⟨results, all, same⟩ := read_of_attemptWith rfl used
  refine ⟨results, same, fun distinct m mem => ?_⟩
  obtain ⟨before, result, after, read, found⟩ := Reader.readAll_ran bench_runs all m mem
  obtain ⟨value, rfl⟩ := I2c.isOk_of_read (benchWorld_i2c bus address) read
  exact ⟨value, found distinct⟩

theorem bench_spi {device : String} {speedHz : UInt32} {mode bitsPerWord : UInt8}
    (spi : c.protocol = .spi device speedHz mode bitsPerWord)
    (ran : (attempt benchWorld c).run () = .ok (outcome, ())) :
    ∀ m ∈ c.metrics, Spi.ResponseFits m := by
  intro m mem
  obtain ⟨reader, created, used⟩ := attemptWith_of_attempt ran
  rw [create, spi, Except.ok.injEq] at created
  subst created
  obtain ⟨results, all, -⟩ := read_of_attemptWith rfl used
  -- The read of this metric came back, so its slice was within the response.
  obtain ⟨before, result, after, read, -⟩ := Reader.readAll_ran bench_runs all m mem
  exact Spi.responseFits_of_read (benchWorld_spi device) read

theorem some_of_addressMode {pid : Option String} {address : Option UInt8}
    {deviceClass : Option String} {instanceIndex : Option UInt8} {mode : I3c.AddressMode}
    (evaluates : addressMode pid address deviceClass instanceIndex = .ok mode) :
    pid.isSome ∨ address.isSome ∨ deviceClass.isSome ∧ instanceIndex.isSome := by
  cases pid <;> cases address <;> cases deviceClass <;> cases instanceIndex <;>
    first
    | (cases evaluates; done)
    | simp

theorem readAll_of_readI3c {world : World σ κ} {metrics : List MetricConfig}
    {client : I3c.I3cMetricReader} {results : ReadResults} {s s' : σ}
    (ran : (readI3c world metrics client).run s = .ok (results, s')) :
    ∃ session, (Reader.readAll (I3c.inWorld world.isCancelled)
      (I3c.readI3cMetric (world.i3c client.busPath)) metrics).run (client, s) =
        .ok (results, session) := by
  have split := (bind_eq_ok _ _ _).mp ran
  obtain ⟨⟨read, session⟩, all, same⟩ := split
  cases same
  exact ⟨session, all⟩

theorem bench_i3c {bus : String} {pid : Option String} {address : Option UInt8}
    {deviceClass : Option String} {instanceIndex : Option UInt8}
    (i3c : c.protocol = .i3c bus pid address deviceClass instanceIndex)
    (ran : (attempt benchWorld c).run () = .ok (outcome, ())) :
    (pid.isSome ∨ address.isSome ∨ deviceClass.isSome ∧ instanceIndex.isSome) ∧
      ∃ results, outcome = .read results ∧ AllRead c.metrics results := by
  obtain ⟨reader, created, used⟩ := attemptWith_of_attempt ran
  simp only [create, i3c, bind_eq_ok] at created
  obtain ⟨mode, evaluates, created⟩ := created
  refine ⟨some_of_addressMode evaluates, ?_⟩
  cases created
  obtain ⟨results, all, same⟩ := read_of_attemptWith rfl used
  refine ⟨results, same, fun distinct m mem => ?_⟩
  obtain ⟨session, all⟩ := readAll_of_readI3c all
  obtain ⟨before, result, after, read, found⟩ :=
    Reader.readAll_ran (I3c.always_inWorld bench_runs) all m mem
  obtain ⟨value, rfl⟩ := I3c.isOk_of_read (benchWorld_i3c bus) read
  exact ⟨value, found distinct⟩

end Unsound

end BusExporter
