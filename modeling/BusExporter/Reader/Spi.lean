import BusExporter.Reader.Basic
import BusExporter.Reader.Decoder

/-!
# SPI

A full-duplex transfer of a command, padded to the response length, and a slice
of the response. The slice is taken without a check.
-/

namespace BusExporter.Spi

open Foundation

/-- The SPI device interface over an outside world `σ`. -/
structure SpiDevice (σ : Type) where
  transfer : List UInt8 → StateM σ (Except Error (List UInt8))

/-- The device returns as many bytes as were sent. -/
def SpiDevice.Exact {σ : Type} (device : SpiDevice σ) : Prop :=
  ∀ buf, Always (device.transfer buf)
    fun result => ∀ bytes, result = .ok bytes → bytes.length = buf.length

structure SpiMetricReader where
  devicePath : String
  deriving DecidableEq

/-- The total number of response bytes: as configured, or else the command's length cast to
16 bits. -/
def responseLength (metric : MetricConfig) : ℕ :=
  (metric.responseLength.getD (UInt16.ofNat metric.command.length)).toNat

/-- The bytes to send: the command, padded with zeros to the response length. -/
def txBuf (metric : MetricConfig) : List UInt8 :=
  metric.command ++ List.replicate (responseLength metric - metric.command.length) 0

/-- `read_spi_metric`. -/
def readSpiMetric {σ : Type} (device : SpiDevice σ) (client : SpiMetricReader)
    (metric : MetricConfig) : Call σ MetricResult := do
  let responseOffset := metric.responseOffset.toNat
  let numBytes := Decoder.byteCount (Decoder.mapDataType metric.dataType)
  let result ← external (device.transfer (txBuf metric))
  match withContext result s!"SPI transfer on {client.devicePath}" with
  | .error e => return .error e
  | .ok bytes =>
    let payload ← (slice bytes responseOffset (responseOffset + numBytes) :
      Except Panic (List UInt8))
    return Decoder.decodeBytesFor metric payload

/-! ## What is read -/

/-- The slice that a metric is decoded from lies within the bytes that are sent for it. -/
def ResponseFits (metric : MetricConfig) : Prop :=
  metric.responseOffset.toNat + metric.dataType.byteSize ≤
    max metric.command.length (responseLength metric)

theorem length_txBuf (metric : MetricConfig) :
    (txBuf metric).length = max metric.command.length (responseLength metric) := by
  rw [txBuf, List.length_append, List.length_replicate]
  omega

section Read

variable {σ : Type} {device : SpiDevice σ} {client : SpiMetricReader} {metric : MetricConfig}

/-- The value is decoded from the metric's slice of a response to the metric's command. -/
def ReadFrom (device : SpiDevice σ) (metric : MetricConfig) (value : Float × Float) : Prop :=
  ∃ s bytes, ((device.transfer (txBuf metric)).run s).1 = .ok bytes ∧
    Decoder.decodeBytesFor metric ((bytes.take
      (metric.responseOffset.toNat + metric.dataType.byteSize)).drop
        metric.responseOffset.toNat) = .ok value

theorem readSpiMetric_returns (exact : device.Exact) (fits : ResponseFits metric) :
    Returns (readSpiMetric device client metric) fun result =>
      ∀ value, result = .ok value → ReadFrom device metric value := by
  refine (Returns.external (P := fun response => (∃ s,
    ((device.transfer (txBuf metric)).run s).1 = response) ∧
      ∀ bytes, response = .ok bytes → bytes.length = (txBuf metric).length)
    fun s => ⟨⟨s, rfl⟩, exact _ s⟩).bind ?_
  rintro response ⟨⟨s, responded⟩, asSent⟩
  cases response with
  | error e => exact .pure fun value decoded => nomatch decoded
  | ok bytes =>
    have inside : metric.responseOffset.toNat + metric.dataType.byteSize ≤ bytes.length := by
      rw [asSent bytes rfl, length_txBuf]
      exact fits
    refine (Returns.lift (P := (· = _)) (slice_of_le (by simpa using inside)) rfl).bind ?_
    rintro payload rfl
    refine .pure fun value decoded => ⟨s, bytes, responded, ?_⟩
    rwa [Decoder.byteCount_mapDataType] at decoded

/-- The device answers every transfer with as many bytes as were sent. -/
def SpiDevice.Answers (device : SpiDevice σ) : Prop :=
  ∀ buf, Always (device.transfer buf)
    fun result => ∃ bytes, result = .ok bytes ∧ bytes.length = buf.length

/-- A metric that is read without a panic from a device that answers takes its slice from
within the response. -/
theorem responseFits_of_read (answers : device.Answers) {s s' : σ} {result : MetricResult}
    (ran : (readSpiMetric device client metric).run s = .ok (result, s')) :
    ResponseFits metric := by
  obtain ⟨response, s₁, responded, ran⟩ := run_bind_eq_ok.mp ran
  rw [run_external_eq_ok] at responded
  obtain ⟨bytes, answered, asSent⟩ := answers (txBuf metric) s
  rw [responded] at answered
  subst answered
  obtain ⟨payload, s₂, sliced, -⟩ := run_bind_eq_ok.mp ran
  obtain ⟨inside, -⟩ := slice_eq_ok.mp (run_lift_eq_ok.mp sliced).1
  rw [asSent, length_txBuf, Decoder.byteCount_mapDataType] at inside
  exact inside

end Read

end BusExporter.Spi
