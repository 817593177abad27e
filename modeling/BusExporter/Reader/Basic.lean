import BusExporter.Config.Basic
import BusExporter.Foundation.Panic

/-!
# Reading metrics

What the readers of all protocols have in common: the results they return, and the
loop of the buses that are read metric by metric.
-/

namespace BusExporter

open Foundation

/-- What a read returned for a metric: the raw and the scaled value. -/
abbrev MetricResult := Except Error (Float × Float)

/-- The results of one read, by metric name, and the number of I/O operations. -/
structure ReadResults where
  metrics : HashMap MetricResult
  ioCount : ℕ
  deriving DecidableEq

namespace Reader

variable {σ : Type}

/-- `metric.address.unwrap() as u8`, the register address of I2C and I3C. -/
def registerOf (metric : MetricConfig) : Except Panic UInt8 :=
  (unwrap metric.address).map (·.toUInt8)

/-- Read metric after metric until the token is cancelled; of metrics that share a name the
last one wins. -/
def readEach (isCancelled : StateM σ Bool) (readMetric : MetricConfig → Call σ MetricResult)
    (results : HashMap MetricResult) :
    List MetricConfig → Call σ (HashMap MetricResult)
  | [] => return results
  | metric :: metrics => do
    if ← external isCancelled then
      return results
    else
      let result ← readMetric metric
      readEach isCancelled readMetric (results.insert metric.name result) metrics

/-- One read of all metrics, one I/O operation for each result. -/
def readAll (isCancelled : StateM σ Bool) (readMetric : MetricConfig → Call σ MetricResult)
    (metrics : List MetricConfig) : Call σ ReadResults := do
  let results ← readEach isCancelled readMetric ∅ metrics
  return ⟨results, results.entries.length⟩

/-! ## What a read returns -/

/-- The register that a metric is read from is the address that is configured for it. -/
def ReadsAddress (metric : MetricConfig) (register : UInt8) : Prop :=
  metric.address.map UInt16.toNat = some register.toNat

theorem ReadsAddress.fitsByte {metric : MetricConfig} {register : UInt8}
    (reads : ReadsAddress metric register) : metric.FitsByte := by
  obtain ⟨addr, address, same⟩ := Option.map_eq_some_iff.mp reads
  exact ⟨addr, address, same ▸ Nat.le_of_lt_succ register.toNat_lt⟩

/-- Of an address that fits a byte, nothing is cut off. -/
theorem registerOf_of_fitsByte {metric : MetricConfig} (fits : metric.FitsByte) :
    ∃ register, registerOf metric = .ok register ∧ ReadsAddress metric register := by
  obtain ⟨addr, address, small⟩ := fits
  refine ⟨addr.toUInt8, by rw [registerOf, address]; rfl, ?_⟩
  rw [ReadsAddress, address, Option.map_some, UInt16.toNat_toUInt8, Nat.mod_eq_of_lt (by omega)]

section Returns

variable {isCancelled : StateM σ Bool} {readMetric : MetricConfig → Call σ MetricResult}
  {good : MetricConfig → MetricResult → Prop} {metrics : List MetricConfig}

/-- Every result in a map is a good one for a metric of that name. -/
def AllGood (good : MetricConfig → MetricResult → Prop) (metrics : List MetricConfig)
    (results : HashMap MetricResult) : Prop :=
  ∀ name result, results.lookup name = some result → ∃ m ∈ metrics, m.name = name ∧ good m result

theorem AllGood.insert {results : HashMap MetricResult} (allGood : AllGood good metrics results)
    {m : MetricConfig} (mem : m ∈ metrics) {result : MetricResult} (isGood : good m result) :
    AllGood good metrics (results.insert m.name result) :=
  HashMap.forall_insert allGood ⟨m, mem, rfl, isGood⟩

theorem readEach_returns {results : HashMap MetricResult} {rest : List MetricConfig}
    (part : ∀ m ∈ rest, m ∈ metrics) (returns : ∀ m ∈ rest, Returns (readMetric m) (good m))
    (allGood : AllGood good metrics results) :
    Returns (readEach isCancelled readMetric results rest) (AllGood good metrics) := by
  induction rest generalizing results with
  | nil => exact .pure allGood
  | cons m rest ih =>
    refine (Returns.external (.any isCancelled)).bind fun cancelled _ => ?_
    cases cancelled with
    | true => exact .pure allGood
    | false =>
      refine (returns m (by simp)).bind fun result isGood => ?_
      exact ih (fun m mem => part m (by simp [mem])) (fun m mem => returns m (by simp [mem]))
        (allGood.insert (part m (by simp)) isGood)

/-- A read of all metrics returns if each of them does, and every result is a good one. -/
theorem readAll_returns (returns : ∀ m ∈ metrics, Returns (readMetric m) (good m)) :
    Returns (readAll isCancelled readMetric metrics) fun results =>
      AllGood good metrics results.metrics := by
  refine (readEach_returns (fun _ mem => mem) returns ?_).bind fun results allGood => .pure allGood
  intro name result found
  rw [AList.lookup_empty] at found
  cases found

/-- A read that is not cancelled and has returned has read every metric, and has its result
if no two metrics share a name. -/
theorem readEach_ran {rest : List MetricConfig} (runs : Always isCancelled (· = false))
    {results final : HashMap MetricResult} {s s' : σ}
    (ran : (readEach isCancelled readMetric results rest).run s = .ok (final, s')) :
    (∀ name, name ∉ rest.map (·.name) → final.lookup name = results.lookup name) ∧
      ∀ m ∈ rest, ∃ before result after, (readMetric m).run before = .ok (result, after) ∧
        ((rest.map (·.name)).Nodup → final.lookup m.name = some result) := by
  induction rest generalizing results s with
  | nil =>
    obtain ⟨rfl, -⟩ := run_pure_eq_ok.mp ran
    simp
  | cons m rest ih =>
    obtain ⟨cancelled, s₁, asked, ran⟩ := run_bind_eq_ok.mp ran
    have goesOn := runs s
    rw [run_external_eq_ok.mp asked] at goesOn
    subst goesOn
    obtain ⟨result, s₂, read, ran⟩ := run_bind_eq_ok.mp ran
    obtain ⟨kept, all⟩ := ih ran
    refine ⟨fun name unread => ?_, fun m' mem => ?_⟩
    · rw [List.map_cons, List.mem_cons, not_or] at unread
      rw [kept name unread.2, AList.lookup_insert_ne unread.1]
    · rcases List.mem_cons.mp mem with rfl | mem
      · refine ⟨s₁, result, s₂, read, fun distinct => ?_⟩
        rw [List.map_cons, List.nodup_cons] at distinct
        rw [kept _ distinct.1, AList.lookup_insert]
      · obtain ⟨before, result', after, read', found⟩ := all m' mem
        refine ⟨before, result', after, read', fun distinct => ?_⟩
        rw [List.map_cons, List.nodup_cons] at distinct
        exact found distinct.2

/-- The same for a read of all metrics. -/
theorem readAll_ran (runs : Always isCancelled (· = false)) {results : ReadResults} {s s' : σ}
    (ran : (readAll isCancelled readMetric metrics).run s = .ok (results, s')) :
    ∀ m ∈ metrics, ∃ before result after, (readMetric m).run before = .ok (result, after) ∧
      ((metrics.map (·.name)).Nodup → results.metrics.lookup m.name = some result) := by
  obtain ⟨final, s₁, read, ran⟩ := run_bind_eq_ok.mp ran
  obtain ⟨rfl, -⟩ := run_pure_eq_ok.mp ran
  exact (readEach_ran runs read).2

end Returns

end Reader

end BusExporter
