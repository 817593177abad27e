import BusExporter.Reader.Basic
import BusExporter.Reader.Decoder

/-!
# I2C

A register read writes the register's address and reads the value back. The
locks of the bus and the device are left out: a reader's own calls take them one
at a time, and nothing panics while it holds one.
-/

namespace BusExporter.I2c

open Foundation

/-- The I2C device interface over an outside world `σ`. -/
structure I2cDevice (σ : Type) where
  writeRead : List UInt8 → ℕ → StateM σ (Except Error (List UInt8))

/-- The device returns as many bytes as were asked for. -/
def I2cDevice.Exact {σ : Type} (device : I2cDevice σ) : Prop :=
  ∀ buf readLen, Always (device.writeRead buf readLen)
    fun result => ∀ bytes, result = .ok bytes → bytes.length = readLen

structure I2cMetricReader where
  busPath : String
  address : UInt8
  deriving DecidableEq

/-- The register a metric is read from. -/
def register : MetricConfig → Except Panic UInt8 := Reader.registerOf

/-- The context of a failed register read. -/
def readContext (client : I2cMetricReader) (register : UInt8) (numBytes : ℕ) : String :=
  s!"reading I2C register {hexPadded 4 register.toNat} ({numBytes} bytes) from device {hexPadded 4 client.address.toNat} on {client.busPath}"

/-- `read_i2c_metric`. -/
def readI2cMetric {σ : Type} (device : I2cDevice σ) (client : I2cMetricReader)
    (metric : MetricConfig) : Call σ MetricResult := do
  let register ← (register metric : Except Panic UInt8)
  let numBytes := Decoder.byteCount (Decoder.mapDataType metric.dataType)
  let result ← external (device.writeRead [register] numBytes)
  return withContext result (readContext client register numBytes) >>= Decoder.decodeBytesFor metric

/-! ## What is read -/

section Read

variable {σ : Type} {device : I2cDevice σ} {client : I2cMetricReader} {metric : MetricConfig}

/-- The value is decoded from bytes that the device returned from the metric's own register. -/
def ReadFrom (device : I2cDevice σ) (metric : MetricConfig) (value : Float × Float) : Prop :=
  ∃ register, Reader.ReadsAddress metric register ∧ ∃ s bytes,
    ((device.writeRead [register] metric.dataType.byteSize).run s).1 = .ok bytes ∧
      Decoder.decodeBytesFor metric bytes = .ok value

theorem readI2cMetric_returns (fits : metric.FitsByte) :
    Returns (readI2cMetric device client metric) fun result =>
      ∀ value, result = .ok value → ReadFrom device metric value := by
  obtain ⟨register, evaluates, reads⟩ := Reader.registerOf_of_fitsByte fits
  refine (Returns.lift (P := (· = register)) evaluates rfl).bind fun _ same => ?_
  subst same
  refine (Returns.external (.occurs _)).bind fun response ⟨s, responded⟩ => .pure ?_
  intro value decoded
  cases response with
  | error e => cases decoded
  | ok bytes =>
    rw [Decoder.byteCount_mapDataType] at responded
    exact ⟨_, reads, s, bytes, responded, decoded⟩

/-- The device answers every read with as many bytes as were asked for. -/
def I2cDevice.Answers (device : I2cDevice σ) : Prop :=
  ∀ buf readLen, Always (device.writeRead buf readLen)
    fun result => ∃ bytes, result = .ok bytes ∧ bytes.length = readLen

/-- A metric that is read without a panic from a device that answers has a value. -/
theorem isOk_of_read (answers : device.Answers) {s s' : σ} {result : MetricResult}
    (ran : (readI2cMetric device client metric).run s = .ok (result, s')) :
    ∃ value, result = .ok value := by
  obtain ⟨register, s₁, -, ran⟩ := run_bind_eq_ok.mp ran
  obtain ⟨response, s₂, responded, ran⟩ := run_bind_eq_ok.mp ran
  obtain ⟨rfl, -⟩ := run_pure_eq_ok.mp ran
  rw [run_external_eq_ok] at responded
  obtain ⟨bytes, answered, enough⟩ := answers [register] _ _
  rw [responded] at answered
  subst answered
  obtain ⟨value, decoded⟩ := Decoder.decodeBytesFor_isOk metric bytes (by rw [enough]; simp)
  exact ⟨value, decoded⟩

end Read

end BusExporter.I2c
