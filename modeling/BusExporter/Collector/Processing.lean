import BusExporter.Collector.Cycle

/-!
# What processing a read comes to

The loop over a read's results and the loops that merge a snapshot, each described
by what it does to every entry. None of these descriptions mentions the order of
the iteration beyond asking that no name comes twice.
-/

namespace BusExporter.Collector

open Foundation Metrics

/-! ## The results of a read -/

theorem findMetric_some {metrics : List MetricConfig} {name : String} {cfg : MetricConfig}
    (found : findMetric metrics name = some cfg) : cfg ∈ metrics ∧ cfg.name = name := by
  refine ⟨List.mem_of_find?_eq_some found, ?_⟩
  have := List.find?_some found
  simpa using this

/-- Of metrics with distinct names, each is found under its own. -/
theorem findMetric_of_mem {metrics : List MetricConfig} (distinct : (metrics.map (·.name)).Nodup)
    {m : MetricConfig} (mem : m ∈ metrics) : findMetric metrics m.name = some m := by
  cases found : findMetric metrics m.name with
  | none =>
    have unnamed := List.find?_eq_none.mp found m mem
    simp at unnamed
  | some cfg =>
    obtain ⟨configured, same⟩ := findMetric_some found
    rw [List.inj_on_of_nodup_map distinct configured mem same]

/-- The scaled value of a result that was read. -/
def readValue : Option MetricResult → Option Float
  | some (.ok (_, scaled)) => some scaled
  | _ => none

/-- The result of a configured metric that is an error. -/
def isFailure (metrics : List MetricConfig) : String × MetricResult → Bool
  | (name, .error _) => (findMetric metrics name).isSome
  | (_, .ok _) => false

section ReadLoop

variable {metrics : List MetricConfig} {isConnected : Bool} {name : String} {cfg : MetricConfig}

/-- What processing one result does to the entry of a configured name. -/
theorem lookup_succeed {reading : Reading} {other : MetricConfig} (scaled : Float)
    (different : other.name ≠ name) :
    (reading.succeed other scaled).localCache.lookup name = reading.localCache.lookup name :=
  AList.lookup_insert_ne (Ne.symm different)

/-- The cache after a loop over distinct names that was not broken off: a metric that was read
has its new value, and any other entry is as it was. -/
theorem lookup_readLoop (configured : findMetric metrics name = some cfg)
    (results : List (String × MetricResult)) (distinct : (results.map (·.1)).Nodup)
    (reading : Reading)
    (kept : (readLoop metrics isConnected reading results).connectionError = false) :
    (readLoop metrics isConnected reading results).localCache.lookup name =
      ((readValue (results.lookup name)).map (freshValue cfg)).or
        (reading.localCache.lookup name) := by
  induction results generalizing reading with
  | nil => rfl
  | cons head results ih =>
    obtain ⟨key, result⟩ := head
    rw [List.map_cons, List.nodup_cons] at distinct
    unfold readLoop at kept ⊢
    by_cases same : key = name
    · subst same
      -- The name does not come again, so the rest of the loop leaves its entry alone.
      have later : results.lookup key = none := HashMap.lookup_eq_none distinct.1
      have cfgName := (findMetric_some configured).2
      rw [configured] at kept ⊢
      cases result with
      | ok values =>
        have rest := ih distinct.2 _ kept
        rw [later] at rest
        rw [rest, List.lookup_cons_self]
        simp [readValue, Reading.succeed, cfgName]
      | error e =>
        cases isConnected with
        | false => simp [Reading.lose] at kept
        | true =>
          have rest := ih distinct.2 _ kept
          rw [later] at rest
          rw [List.lookup_cons_self]
          exact rest
    · rw [List.lookup_cons, beq_false_of_ne (Ne.symm same)]
      -- Another name: it is skipped, gets an entry of its own, or ends the loop.
      cases found : findMetric metrics key with
      | none =>
        rw [found] at kept
        exact ih distinct.2 _ kept
      | some other =>
        rw [found] at kept
        have otherName := (findMetric_some found).2
        cases result with
        | ok values =>
          rw [ih distinct.2 _ kept, lookup_succeed _ (otherName ▸ same)]
        | error e =>
          cases isConnected with
          | false => simp [Reading.lose] at kept
          | true => exact ih distinct.2 _ kept

/-- A name that is not configured gets no entry. -/
theorem lookup_readLoop_unconfigured (unconfigured : findMetric metrics name = none)
    (results : List (String × MetricResult)) (reading : Reading) :
    (readLoop metrics isConnected reading results).localCache.lookup name =
      reading.localCache.lookup name := by
  induction results generalizing reading with
  | nil => rfl
  | cons head results ih =>
    obtain ⟨key, result⟩ := head
    unfold readLoop
    cases found : findMetric metrics key with
    | none => exact ih reading
    | some other =>
      have different : other.name ≠ name := by
        rw [(findMetric_some found).2]
        rintro rfl
        rw [found] at unconfigured
        cases unconfigured
      cases result with
      | ok values => rw [ih, lookup_succeed _ different]
      | error e =>
        cases isConnected with
        | false => rfl
        | true => exact ih _

end ReadLoop

section Outcome

variable (metrics : List MetricConfig) (isConnected : Bool) (reading : Reading)
  (results : List (String × MetricResult))

/-- The loop notes an error exactly when a configured metric has one, however far it gets. -/
theorem pollHadError_readLoop :
    (readLoop metrics isConnected reading results).pollHadError =
      (reading.pollHadError || results.any (isFailure metrics)) := by
  induction results generalizing reading with
  | nil => simp [readLoop]
  | cons head results ih =>
    obtain ⟨name, result⟩ := head
    unfold readLoop
    cases found : findMetric metrics name with
    | none => cases result <;> simp [ih, isFailure, found]
    | some cfg =>
      cases result with
      | ok values => simp [ih, isFailure, Reading.succeed]
      | error e => cases isConnected <;> simp [ih, isFailure, found, Reading.fail, Reading.lose]

/-- The loop is broken off exactly when a configured metric has an error and the reader is not
connected. -/
theorem connectionError_readLoop :
    (readLoop metrics isConnected reading results).connectionError =
      (reading.connectionError || !isConnected && results.any (isFailure metrics)) := by
  induction results generalizing reading with
  | nil => simp [readLoop]
  | cons head results ih =>
    obtain ⟨name, result⟩ := head
    unfold readLoop
    cases found : findMetric metrics name with
    | none => cases result <;> simp [ih, isFailure, found]
    | some cfg =>
      cases result with
      | ok values => simp [ih, isFailure, Reading.succeed]
      | error e => cases isConnected <;> simp [ih, isFailure, found, Reading.fail, Reading.lose]

/-- The loop counts every failure on a live connection, and one on a lost connection. -/
theorem readErrors_readLoop :
    (readLoop metrics isConnected reading results).readErrors =
      reading.readErrors + if isConnected then results.countP (isFailure metrics)
        else (results.any (isFailure metrics)).toNat := by
  induction results generalizing reading with
  | nil => simp [readLoop]
  | cons head results ih =>
    obtain ⟨name, result⟩ := head
    rw [List.any_cons, List.countP_cons]
    unfold readLoop
    cases found : findMetric metrics name with
    | none =>
      -- The result of an unknown name is skipped, even if it is an error.
      have quiet : isFailure metrics (name, result) = false := by
        cases result <;> simp [isFailure, found]
      simp [ih, quiet]
    | some cfg =>
      cases result with
      | ok values => simp [ih, isFailure, Reading.succeed]
      | error e =>
        have failure : isFailure metrics (name, .error e) = true := by simp [isFailure, found]
        cases isConnected with
        | false => simp [failure, Reading.lose]
        | true =>
          simp [ih, failure, Reading.fail]
          omega

end Outcome

section Counts

variable {metrics : List MetricConfig} {name : String}

/-- A configured metric's result is an error. -/
def failedIn (metrics : List MetricConfig) (name : String) (result : Option MetricResult) : Bool :=
  (findMetric metrics name).isSome && result.any fun r => !r.isOk

@[simp]
theorem failedIn_none : failedIn metrics name none = false := by simp [failedIn]

/-- The loop counts one more failure of each metric whose result is an error. -/
theorem errorCounts_readLoop (results : List (String × MetricResult)) (reading : Reading)
    (distinct : (results.map (·.1)).Nodup) :
    (readLoop metrics true reading results).errorCounts.lookup name =
      if failedIn metrics name (results.lookup name) then
        some ((reading.errorCounts.lookup name).getD 0 + 1)
      else reading.errorCounts.lookup name := by
  induction results generalizing reading with
  | nil => simp [readLoop]
  | cons head results ih =>
    obtain ⟨key, result⟩ := head
    rw [List.map_cons, List.nodup_cons] at distinct
    unfold readLoop
    by_cases same : name = key
    · subst same
      -- The name does not come again, so its count stays what it is here.
      have later : results.lookup name = none := HashMap.lookup_eq_none distinct.1
      simp only [later, failedIn_none, Bool.false_eq_true, if_false] at ih
      rw [List.lookup_cons_self]
      cases found : findMetric metrics name with
      | none => simp [ih _ distinct.2, failedIn, found]
      | some cfg =>
        cases result with
        | ok values =>
          simp [ih _ distinct.2, failedIn, found, Reading.succeed, Except.isOk, Except.toBool]
        | error e =>
          simp [ih _ distinct.2, failedIn, found, Reading.fail, Except.isOk, Except.toBool]
    · rw [List.lookup_cons, beq_false_of_ne same]
      cases found : findMetric metrics key with
      | none => exact ih _ distinct.2
      | some cfg =>
        cases result with
        | ok values => exact ih _ distinct.2
        | error e =>
          simp only [if_true]
          rw [ih _ distinct.2, Reading.fail, AList.lookup_insert_ne same]

/-- A loop on a lost connection counts nothing. -/
theorem errorCounts_readLoop_lost (results : List (String × MetricResult)) (reading : Reading) :
    (readLoop metrics false reading results).errorCounts = reading.errorCounts := by
  induction results generalizing reading with
  | nil => rfl
  | cons head results ih =>
    obtain ⟨key, result⟩ := head
    unfold readLoop
    cases findMetric metrics key with
    | none => exact ih reading
    | some cfg =>
      cases result with
      | ok values => exact ih _
      | error e => rfl

end Counts

/-! ## Merging -/

theorem lookup_carryForward (prev : List (String × MetricValue)) (cache : Cache) (name : String) :
    (prev.foldl carryForward cache).lookup name = (cache.lookup name).or (prev.lookup name) := by
  induction prev generalizing cache with
  | nil => simp
  | cons entry prev ih =>
    obtain ⟨key, value⟩ := entry
    rw [List.foldl_cons, ih, carryForward, List.lookup_cons]
    by_cases same : name = key
    · subst same
      cases present : cache.lookup name with
      | none =>
        -- Only a name that the new cache does not have is taken from the old one.
        have absent : name ∉ cache := AList.lookup_eq_none.mp present
        simp [absent]
      | some old =>
        have present' : name ∈ cache := AList.lookup_isSome.mp (by simp [present])
        simp [present', present]
    · rw [beq_false_of_ne same]
      split
      · rfl
      · rw [AList.lookup_insert_ne same]

/-- Different metrics have different error counters. -/
theorem errorsName_injective : Function.Injective errorsName :=
  fun _ _ same => (String.append_left_inj "_errors").mp same

/-- The value of an error counter: `count as f64`. -/
def counterValue (count : ℕ) : Float := (UInt64.ofNat count).toFloat

/-- The entry that a count makes of what stands under the counter's name. -/
def counted (current : Option MetricValue) (metricName : String) (count : ℕ) : MetricValue :=
  match current with
  | none => errorValue metricName count
  | some m => { m with value := counterValue count }

@[simp]
theorem counted_value (current : Option MetricValue) (metricName : String) (count : ℕ) :
    (counted current metricName count).value = counterValue count := by
  cases current <;> rfl

theorem countErrors_eq (cache : Cache) (metricName : String) (count : ℕ) :
    countErrors cache (metricName, count) =
      cache.insert (errorsName metricName)
        (counted (cache.lookup (errorsName metricName)) metricName count) := by
  rw [countErrors]
  cases cache.lookup (errorsName metricName) <;> rfl

theorem lookup_countErrors (errors : List (String × ℕ)) (cache : Cache) {name : String}
    (apart : ∀ entry ∈ errors, name ≠ errorsName entry.1) :
    (errors.foldl countErrors cache).lookup name = cache.lookup name := by
  induction errors generalizing cache with
  | nil => rfl
  | cons entry errors ih =>
    obtain ⟨key, count⟩ := entry
    rw [List.forall_mem_cons] at apart
    rw [List.foldl_cons, ih _ apart.2, countErrors]
    split <;> rw [AList.lookup_insert_ne apart.1]

/-- Of counters with different names, the merged cache holds each with its count. -/
theorem lookup_errorsName (errors : List (String × ℕ)) (cache : Cache)
    (distinct : (errors.map (·.1)).Nodup) {name : String} {count : ℕ}
    (mem : (name, count) ∈ errors) :
    (errors.foldl countErrors cache).lookup (errorsName name) =
      some (counted (cache.lookup (errorsName name)) name count) := by
  induction errors generalizing cache with
  | nil => simp at mem
  | cons head errors ih =>
    obtain ⟨key, written⟩ := head
    rw [List.map_cons, List.nodup_cons] at distinct
    rw [List.foldl_cons]
    rcases List.mem_cons.mp mem with isHead | later
    · cases isHead
      -- The counters behind this one have other names, so they do not touch its entry.
      have apart : ∀ entry ∈ errors, errorsName name ≠ errorsName entry.1 := by
        intro entry inErrors same
        apply distinct.1
        exact List.mem_map.mpr ⟨entry, inErrors, (errorsName_injective same).symm⟩
      rw [lookup_countErrors errors _ apart, countErrors_eq, AList.lookup_insert]
    · have apart : errorsName name ≠ errorsName key := by
        intro same
        apply distinct.1
        exact List.mem_map.mpr ⟨(name, count), later, errorsName_injective same⟩
      rw [ih _ distinct.2 later, countErrors_eq, AList.lookup_insert_ne apart]

/-- Every value of the cache carries its key as its name. -/
def Keyed (cache : Cache) : Prop :=
  ∀ name value, cache.lookup name = some value → value.name = name

theorem Keyed.insert {cache : Cache} (keyed : Keyed cache) {name : String} {value : MetricValue}
    (named : value.name = name) : Keyed (cache.insert name value) :=
  HashMap.forall_insert keyed named

theorem keyed_readLoop (metrics : List MetricConfig) (isConnected : Bool)
    (results : List (String × MetricResult)) (reading : Reading)
    (keyed : Keyed reading.localCache) :
    Keyed (readLoop metrics isConnected reading results).localCache := by
  induction results generalizing reading with
  | nil => exact keyed
  | cons head results ih =>
    obtain ⟨key, result⟩ := head
    unfold readLoop
    cases findMetric metrics key with
    | none => exact ih reading keyed
    | some cfg =>
      cases result with
      | ok values => exact ih _ (keyed.insert rfl)
      | error e =>
        cases isConnected with
        | false => exact keyed
        | true => exact ih _ keyed

theorem keyed_carryForward (prev : List (String × MetricValue)) (cache : Cache)
    (keyed : Keyed cache) (named : ∀ entry ∈ prev, entry.2.name = entry.1) :
    Keyed (prev.foldl carryForward cache) := by
  induction prev generalizing cache with
  | nil => exact keyed
  | cons entry prev ih =>
    obtain ⟨key, value⟩ := entry
    rw [List.forall_mem_cons] at named
    refine ih _ ?_ named.2
    rw [carryForward]
    split
    · exact keyed
    · exact keyed.insert named.1

theorem keyed_countErrors (errors : List (String × ℕ)) (cache : Cache) (keyed : Keyed cache) :
    Keyed (errors.foldl countErrors cache) := by
  induction errors generalizing cache with
  | nil => exact keyed
  | cons entry errors ih =>
    obtain ⟨key, count⟩ := entry
    refine ih _ ?_
    rw [countErrors]
    split
    · exact keyed.insert rfl
    · rename_i m present
      exact keyed.insert (keyed _ m present)

/-- The counters are those of configured metrics. -/
def CountsConfigured (metrics : List MetricConfig) (errorCounts : ErrorCounts) : Prop :=
  ∀ name ∈ errorCounts, ∃ m ∈ metrics, m.name = name

theorem countsConfigured_readLoop {metrics : List MetricConfig} (isConnected : Bool)
    (results : List (String × MetricResult)) (reading : Reading)
    (counts : CountsConfigured metrics reading.errorCounts) :
    CountsConfigured metrics (readLoop metrics isConnected reading results).errorCounts := by
  induction results generalizing reading with
  | nil => exact counts
  | cons head results ih =>
    obtain ⟨key, result⟩ := head
    unfold readLoop
    cases found : findMetric metrics key with
    | none => exact ih reading counts
    | some cfg =>
      cases result with
      | ok values => exact ih _ counts
      | error e =>
        cases isConnected with
        | false => exact counts
        | true =>
          -- A count is only begun for a metric that was found in the configuration.
          refine ih _ fun name mem => ?_
          rcases (AList.mem_insert _).mp mem with rfl | earlier
          · exact ⟨cfg, findMetric_some found⟩
          · exact counts name earlier

end BusExporter.Collector
