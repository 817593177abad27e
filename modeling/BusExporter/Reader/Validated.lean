import BusExporter.Reader.Safety

/-!
# Reading validated collectors

The validator guards everything that the readers rely on, except where its own
arithmetic wraps around: a response offset so large that, with the size of the
value, it does not fit 16 bits.
-/

namespace BusExporter

open Foundation

/-- A collector's reader is created and read without a panic, on every device that returns as
many bytes as it should, and from registers whose addresses are not cut off. -/
structure ReadsSafely (c : CollectorConfig) : Prop where
  returns : ∀ (σ κ : Type) (world : World σ κ), world.Exact →
    Returns (attempt world c) fun _ => True
  whole : c.protocol.isI2c ∨ c.protocol.isI3c → ∀ m ∈ c.metrics,
    ∃ register, Reader.registerOf m = .ok register ∧ Reader.ReadsAddress m register

/-- Every SPI value ends within 16 bits, or within the command. -/
def EndsInRange (c : CollectorConfig) : Prop :=
  c.protocol.isSpi = true → ∀ m ∈ c.metrics,
    m.responseOffset.toNat + m.dataType.byteSize ≤ 65535 ∨
      m.responseOffset.toNat + m.dataType.byteSize ≤ m.command.length

section Validated

variable {c : CollectorConfig} {m : MetricConfig}

/-- Where nothing wraps around, the validator's bound is the reader's bound. -/
theorem responseFits_of_valid (valid : SpiMetricValid m)
    (small : m.responseOffset.toNat + m.dataType.byteSize ≤ 65535) : Spi.ResponseFits m := by
  have bounded := UInt16.le_iff_toNat_le.mp valid.bounded
  have size := m.dataType.byteSize_mem
  have exact_size : (UInt16.ofNat m.dataType.byteSize).toNat = m.dataType.byteSize := by
    rw [UInt16.toNat_ofNat', Nat.mod_eq_of_lt (by omega)]
  rw [UInt16.toNat_add, exact_size, Nat.mod_eq_of_lt (by omega)] at bounded
  exact le_max_of_le_right bounded

/-- A slice that lies within the response but not within 16 bits lies within the command. -/
theorem endsInRange_of_responseFits (fits : Spi.ResponseFits m) :
    m.responseOffset.toNat + m.dataType.byteSize ≤ 65535 ∨
      m.responseOffset.toNat + m.dataType.byteSize ≤ m.command.length := by
  have inside : Spi.responseLength m ≤ 65535 := Nat.le_of_lt_succ (UInt16.toNat_lt _)
  unfold Spi.ResponseFits at fits
  omega

theorem sound_of_validated (valid : c.Validated) (ends : EndsInRange c) : c.Sound := by
  unfold CollectorConfig.Sound
  cases protocol : c.protocol with
  | modbusTcp | modbusRtu => trivial
  | i2c bus address =>
    exact fun m mem => valid.fitsByte (.inl (by rw [protocol]; rfl)) mem
  | spi device speedHz mode bitsPerWord =>
    intro m mem
    have isSpi : c.protocol.isSpi = true := by rw [protocol]; rfl
    rcases ends isSpi m mem with small | inCommand
    · exact responseFits_of_valid (valid.spiMetric isSpi mem) small
    · exact le_max_of_le_left inCommand
  | i3c bus pid address deviceClass instanceIndex =>
    exact ⟨valid.i3cMode protocol,
      fun m mem => valid.fitsByte (.inr (by rw [protocol]; rfl)) mem⟩

/-- A validated collector is read safely exactly when no SPI value ends beyond 16 bits and
beyond its command. -/
theorem readsSafely_iff (valid : c.Validated) : ReadsSafely c ↔ EndsInRange c := by
  constructor
  · intro safely isSpi m mem
    obtain ⟨outcome, ⟨⟩, ran, -⟩ := safely.returns Unit Unit benchWorld benchWorld_exact ()
    cases protocol : c.protocol with
    | spi device speedHz mode bitsPerWord =>
      exact endsInRange_of_responseFits (bench_spi protocol ran m mem)
    | modbusTcp | modbusRtu | i2c | i3c =>
      rw [protocol] at isSpi
      exact absurd isSpi Bool.false_ne_true
  · intro ends
    constructor
    · exact fun σ κ world exact =>
        (attempt_returns (sound_of_validated valid ends) exact).mono fun _ _ => trivial
    · exact fun byRegister m mem => Reader.registerOf_of_fitsByte (valid.fitsByte byRegister mem)

end Validated

/-! ## An offset at the end of the range -/

/-- An SPI collector whose one value starts at the last offset there is. -/
def farOffset : CollectorConfig where
  name := "adc"
  protocol := .spi "/dev/spidev0.0"
  metrics := [{
    name := "voltage", metricType := .gauge, dataType := .u16, command := [0x01],
    responseOffset := 65535 }]

theorem farOffset_validated : farOffset.Validated := Samples.validated_of_configOf (by decide)

/-- The validator's sum wraps around to 1, within the response of one byte; the reader's
slice does not. -/
theorem reader_panics_at_far_offset : farOffset.Validated ∧ ¬ ReadsSafely farOffset := by
  refine ⟨farOffset_validated, fun safely => ?_⟩
  obtain ⟨outcome, ⟨⟩, ran, -⟩ := safely.returns Unit Unit benchWorld benchWorld_exact ()
  have fits := bench_spi rfl ran _ (List.mem_singleton_self _)
  exact absurd fits (by unfold Spi.ResponseFits; decide)

theorem readsSafely_iff_far_offset : ReadsSafely farOffset ↔ EndsInRange farOffset :=
  readsSafely_iff farOffset_validated

end BusExporter
