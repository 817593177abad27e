import BusExporter.Commands.CollectOnce

/-!
# Collecting from unvalidated configurations

The pull and watch commands skip the validator that the readers rely on. So what
the validator asks of a collector is what decides whether they work: a collector
that is not sound brings the whole command down, or reports another register.
-/

namespace BusExporter.Commands

open Foundation

section Unsound

variable {c : CollectorConfig}

/-- A metric that has a value among the results is reported as successful. -/
theorem readFrom_of_accounts {results : ReadResults} {m : MetricConfig} {value : Float × Float}
    (found : results.metrics.lookup m.name = some (.ok value))
    (accounts : AccountsFor benchWorld c m (entryOf results m)) :
    ∃ value, ReadFrom benchWorld c m value := by
  have succeeded : (entryOf results m).error = none := by rw [entryOf, found]
  obtain ⟨rawValue, scaledValue, -, -, readFrom⟩ := accounts.2 succeeded
  exact ⟨_, readFrom⟩

/-- Where every metric has a value, every metric is accounted for by a read. -/
theorem readFrom_of_allRead (distinct : (c.metrics.map (·.name)).Nodup) {results : ReadResults}
    (allRead : AllRead c.metrics results)
    (accounts : Accounts benchWorld c (collectorEntry c (.read results))) :
    ∀ m ∈ c.metrics, ∃ value, ReadFrom benchWorld c m value := by
  intro m mem
  obtain ⟨value, found⟩ := allRead distinct m mem
  exact readFrom_of_accounts found
    (List.forall₂_same.mp (List.forall₂_map_right_iff.mp accounts.2) m mem)

/-- A collector is sound if the devices that answer with zeros are read without a panic, and
the report accounts for what was read from them. -/
theorem sound_of_bench (distinct : (c.metrics.map (·.name)).Nodup) {outcome : Attempt}
    (ran : (attempt benchWorld c).run () = .ok (outcome, ()))
    (accounts : Accounts benchWorld c (collectorEntry c outcome)) : c.Sound := by
  unfold CollectorConfig.Sound
  cases protocol : c.protocol with
  | modbusTcp | modbusRtu => trivial
  | i2c bus address =>
    obtain ⟨results, rfl, allRead⟩ := bench_i2c protocol ran
    intro m mem
    obtain ⟨value, readFrom⟩ := readFrom_of_allRead distinct allRead accounts m mem
    simp only [ReadFrom, protocol] at readFrom
    obtain ⟨register, reads, -⟩ := readFrom
    exact reads.fitsByte
  | spi device speedHz mode bitsPerWord => exact bench_spi protocol ran
  | i3c bus pid address deviceClass instanceIndex =>
    obtain ⟨mode, results, rfl, allRead⟩ := bench_i3c protocol ran
    refine ⟨mode, fun m mem => ?_⟩
    obtain ⟨value, readFrom⟩ := readFrom_of_allRead distinct allRead accounts m mem
    simp only [ReadFrom, protocol] at readFrom
    obtain ⟨register, reads, -⟩ := readFrom
    exact reads.fitsByte

end Unsound

/-- What is related in two ways, position by position, is related to one element. -/
theorem exists_related {α β : Type} {R S : α → β → Prop} {xs : List α} {ys : List β}
    (first : List.Forall₂ R xs ys) (second : List.Forall₂ S xs ys) {x : α} (mem : x ∈ xs) :
    ∃ y, R x y ∧ S x y := by
  induction first with
  | nil => simp at mem
  | cons related rest ih =>
    obtain ⟨also, others⟩ := List.forall₂_cons.mp second
    rcases List.mem_cons.mp mem with rfl | mem
    · exact ⟨_, related, also⟩
    · exact ih others mem

/-- Collecting from a loaded configuration is safe exactly when all its collectors are sound. -/
theorem pullsSafely_iff {files : Files} {path : String} {config : Config}
    (loaded : Config.loadForPull files path = .ok config) :
    PullsSafely config.collectors ↔ ∀ c ∈ config.collectors, c.Sound := by
  have distinct := fun c (mem : c ∈ config.collectors) =>
    Config.distinct_of_loadForPull loaded mem
  constructor
  · intro safely c mem
    obtain ⟨report, ⟨⟩, ran, accounts⟩ := safely Unit Unit benchWorld benchWorld_exact ()
    obtain ⟨outcomes, attempted, length, rfl⟩ := attempted_of_ran ran
    rw [forall₂_recordAll_iff length] at accounts
    obtain ⟨outcome, ⟨⟨⟩, ⟨⟩, ran⟩, accounted⟩ := exists_related attempted.forall₂ accounts mem
    exact sound_of_bench (distinct c mem) ran accounted
  · exact pullsSafely_of_sound distinct

/-! ## A device without an address -/

/-- An I3C collector that says nothing about its device's address. -/
def unaddressed : CollectorConfig where
  name := "sensor"
  protocol := .i3c "/dev/i3c-0"
  metrics := [{
    name := "temperature", metricType := .gauge, address := some 0x10, dataType := .u16 }]

def unaddressedConfig : Config where
  exporters := {}
  collectors := [unaddressed]

/-- A file system with one configuration. -/
def unaddressedFiles : Files where
  readToString _ := .ok ""
  parseConfig _ := .ok unaddressedConfig
  parseMetricsFile _ := .error (.msg "no such file")

theorem unaddressed_loaded :
    Config.loadForPull unaddressedFiles "config.yaml" = .ok unaddressedConfig := by
  rfl

/-- The missing device class is unwrapped, and the command panics. -/
theorem pull_panics_without_address :
    Config.loadForPull unaddressedFiles "config.yaml" = .ok unaddressedConfig ∧
      ¬ PullsSafely unaddressedConfig.collectors := by
  refine ⟨unaddressed_loaded, fun safely => ?_⟩
  obtain ⟨report, ⟨⟩, ran, -⟩ := safely Unit Unit benchWorld benchWorld_exact ()
  cases ran

theorem pullsSafely_iff_without_address :
    PullsSafely unaddressedConfig.collectors ↔ ∀ c ∈ unaddressedConfig.collectors, c.Sound :=
  pullsSafely_iff unaddressed_loaded

end BusExporter.Commands
