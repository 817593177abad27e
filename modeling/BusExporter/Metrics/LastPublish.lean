import BusExporter.Metrics

/-!
# The last publish of every collector

Collectors publish snapshots and are removed, in any order of the calls. What the
store has of a collector is its last publish, unless it was removed since: one value
for each name, with the labels of all five sources. Every map is iterated in an
order of its own.
-/

namespace BusExporter.Metrics

open Foundation

/-! ## Calls -/

/-- The arguments of a publish. -/
structure Publication where
  collectorName : String
  metrics : List MetricValue
  globalLabels : Labels
  collectorLabels : Labels

/-- A call that changes the store. A publish lists what is left of its metrics in some order. -/
inductive StoreCall where
  | publish (iteration : HashMap.Iteration) (publication : Publication)
  | removeCollector (collectorName : String)

namespace Publication

variable (p : Publication)

def baseLabels : Labels := Metrics.baseLabels p.collectorName p.globalLabels p.collectorLabels

/-- The metrics with their final labels, by name. -/
def deduped : HashMap MetricValue :=
  p.metrics.foldl (fun deduped m => deduped.insert m.name (labelled p.baseLabels m)) ∅

end Publication

namespace MetricStore

variable (iteration : HashMap.Iteration)

/-- `publish`, with the order in which the values are listed. -/
def publishIn (store : MetricStore) (p : Publication) : MetricStore :=
  store.insert p.collectorName ((iteration.order p.deduped).map (·.2))

/-- `all_metrics_flat`, with the order in which the collectors are listed. -/
def allMetricsFlatIn (store : MetricStore) : List MetricValue :=
  ((iteration.order store).map (·.2)).flatten

/-- The order in which the maps keep their entries is one of the orders. -/
theorem publish_eq (store : MetricStore) (p : Publication) :
    store.publish p.collectorName p.metrics p.globalLabels p.collectorLabels =
      store.publishIn .kept p := rfl

theorem allMetricsFlat_eq (store : MetricStore) :
    store.allMetricsFlat = store.allMetricsFlatIn .kept := rfl

end MetricStore

namespace StoreCall

/-- The collector that a call is about. -/
def collectorName : StoreCall → String
  | publish _ p => p.collectorName
  | removeCollector c => c

def Publishes (c : String) : StoreCall → Prop
  | publish _ p => p.collectorName = c
  | removeCollector _ => False

def run (store : MetricStore) : StoreCall → MetricStore
  | publish iteration p => store.publishIn iteration p
  | removeCollector c => store.removeCollector c

end StoreCall

/-- The store after some calls. -/
def runCalls (calls : List StoreCall) : MetricStore := calls.foldl StoreCall.run ∅

/-! ## What the store has to show -/

/-- The collector was never published, or it was removed since its last publish. -/
def Gone (c : String) (calls : List StoreCall) : Prop :=
  (∀ call ∈ calls, ¬ call.Publishes c) ∨
    ∃ earlier later, calls = earlier ++ .removeCollector c :: later ∧
      ∀ call ∈ later, ¬ call.Publishes c

/-- The last publish of a collector that was not removed since. -/
def Live (c : String) (calls : List StoreCall) (p : Publication) : Prop :=
  ∃ iteration earlier later, calls = earlier ++ .publish iteration p :: later ∧
    p.collectorName = c ∧ ∀ call ∈ later, call.collectorName ≠ c

/-- The label of a published metric for a key: its unit, its own label, the name of the
collector, the label of the collector, or the global label. -/
def finalLabel (p : Publication) (m : MetricValue) (k : String) : Option String :=
  if k = "unit" ∧ m.unit ≠ "" then some m.unit
  else m.labels[k]?.or <|
    if k = "collector" then some p.collectorName
    else p.collectorLabels[k]?.or p.globalLabels[k]?

/-- A value is the metric with its final labels. -/
structure IsLabelled (p : Publication) (m value : MetricValue) : Prop where
  same : value = { m with labels := value.labels }
  labels : ∀ k, value.labels[k]? = finalLabel p m k

/-- Values are those of a publication: one for each name, the last one of this name. -/
structure Shows (p : Publication) (values : List MetricValue) : Prop where
  distinct : (values.map (·.name)).Nodup
  names : ∀ name, name ∈ values.map (·.name) ↔ name ∈ p.metrics.map (·.name)
  last : ∀ value ∈ values, ∃ earlier m later, p.metrics = earlier ++ m :: later ∧
    IsLabelled p m value ∧ ∀ m' ∈ later, m'.name ≠ m.name

/-- What a store reached by some calls returns. -/
structure ReflectsLastPublish (calls : List StoreCall) (store : MetricStore) : Prop where
  cases : ∀ c, Gone c calls ∨ ∃ p, Live c calls p
  gone : ∀ c, Gone c calls → store.metricsFor c = []
  live : ∀ c p, Live c calls p → Shows p (store.metricsFor c)
  flat : ∀ iteration, ∃ collectors : List String, collectors.Nodup ∧
    (∀ c, store.metricsFor c ≠ [] → c ∈ collectors) ∧
    store.allMetricsFlatIn iteration = collectors.flatMap store.metricsFor

/-! ## Labels -/

theorem getElem?_overlay (base upper : Labels) (k : String) :
    (overlay base upper)[k]? = upper[k]?.or base[k]? := by
  rw [overlay, ← Std.ExtTreeMap.insertMany_list_eq_foldl]
  cases found : upper[k]? with
  | some v =>
    have mem : (k, v) ∈ upper.toList := Std.ExtTreeMap.mem_toList_iff_getElem?_eq_some.mpr found
    exact Std.ExtTreeMap.getElem?_insertMany_list_of_mem (by simp)
      Std.ExtTreeMap.distinct_keys_toList mem
  | none =>
    have absent : (upper.toList.map Prod.fst).contains k = false := by
      rw [Std.ExtTreeMap.map_fst_toList_eq_keys, ← Bool.not_eq_true, List.contains_iff_mem,
        Std.ExtTreeMap.mem_keys]
      rw [Std.ExtTreeMap.mem_iff_isSome_getElem?, found]
      simp
    rw [Std.ExtTreeMap.getElem?_insertMany_list_of_contains_eq_false absent, Option.none_or]

/-- An inserted label is found under its key. -/
theorem getElem?_insert (labels : Labels) (name value k : String) :
    (labels.insert name value)[k]? = if k = name then some value else labels[k]? := by
  rw [Std.ExtTreeMap.getElem?_insert]
  by_cases same : k = name
  · simp [same]
  · rw [if_neg same, if_neg fun equal => same (Std.LawfulEqOrd.eq_of_compare equal).symm]

theorem isLabelled_labelled (p : Publication) (m : MetricValue) :
    IsLabelled p m (labelled p.baseLabels m) := by
  refine ⟨rfl, fun k => ?_⟩
  have own : (overlay p.baseLabels m.labels)[k]? = m.labels[k]?.or
      (if k = "collector" then some p.collectorName
        else p.collectorLabels[k]?.or p.globalLabels[k]?) := by
    rw [getElem?_overlay, Publication.baseLabels, Metrics.baseLabels, getElem?_insert,
      getElem?_overlay]
  unfold finalLabel labelled
  by_cases unitless : m.unit = ""
  · rw [if_neg (by simp [unitless]), ← own]
    simp [unitless]
  · rw [← own]
    simp only [unitless, if_false, getElem?_insert, ne_eq, not_false_eq_true, and_true]

/-! ## A publication -/

namespace Publication

variable (p : Publication)

theorem deduped_eq_collect :
    p.deduped = HashMap.collect (p.metrics.map fun m => (m.name, labelled p.baseLabels m)) := by
  rw [deduped, HashMap.collect, List.foldl_map]

/-- A deduplicated value is the last metric of its name, with its labels. -/
theorem lookup_deduped {name : String} {value : MetricValue}
    (found : p.deduped.lookup name = some value) :
    value.name = name ∧ ∃ earlier m later, p.metrics = earlier ++ m :: later ∧
      value = labelled p.baseLabels m ∧ ∀ m' ∈ later, m'.name ≠ m.name := by
  rw [deduped_eq_collect] at found
  obtain ⟨earlier, later, split, isLast⟩ := HashMap.lookup_collect_eq_some found
  obtain ⟨earlierMetrics, rest, metrics, -, mapped⟩ := List.map_eq_append_iff.mp split
  obtain ⟨m, laterMetrics, rfl, same, rfl⟩ := List.map_eq_cons_iff.mp mapped
  obtain ⟨rfl, rfl⟩ := Prod.mk.inj same
  refine ⟨rfl, earlierMetrics, m, laterMetrics, metrics, rfl, fun m' mem equal => isLast ?_⟩
  rw [List.map_map]
  exact List.mem_map.mpr ⟨m', mem, equal⟩

/-- Whatever the order in which they are listed, the values show the publication. -/
theorem shows_order (iteration : HashMap.Iteration) :
    Shows p ((iteration.order p.deduped).map (·.2)) := by
  have stored : ∀ entry ∈ iteration.order p.deduped, p.deduped.lookup entry.1 = some entry.2 :=
    fun entry mem => HashMap.mem_pairs.mp ((iteration.perm p.deduped).mem_iff.mp mem)
  have names : ((iteration.order p.deduped).map (·.2)).map (·.name) =
      (iteration.order p.deduped).map (·.1) := by
    rw [List.map_map]
    exact List.map_congr_left fun entry mem => (p.lookup_deduped (stored entry mem)).1
  constructor
  · rw [names]
    exact iteration.nodup_order p.deduped
  · intro name
    rw [names, ((iteration.perm p.deduped).map _).mem_iff, HashMap.map_fst_pairs,
      deduped_eq_collect, HashMap.mem_keys_collect, List.map_map]
    rfl
  · intro value mem
    obtain ⟨entry, listed, rfl⟩ := List.mem_map.mp mem
    obtain ⟨earlier, m, later, split, same, isLast⟩ := (p.lookup_deduped (stored entry listed)).2
    exact ⟨earlier, m, later, split, same ▸ isLabelled_labelled p m, isLast⟩

end Publication

/-! ## Every sequence of calls -/

section Runs

variable {c : String} {store : MetricStore} {calls : List StoreCall}

/-- A call about another collector leaves this one as it is. -/
theorem lookup_run_of_ne {call : StoreCall} (other : call.collectorName ≠ c) :
    (call.run store).lookup c = store.lookup c := by
  cases call with
  | publish iteration p => exact AList.lookup_insert_ne (Ne.symm other)
  | removeCollector removed => exact AList.lookup_erase_ne (Ne.symm other)

theorem lookup_foldl_of_ne (others : ∀ call ∈ calls, call.collectorName ≠ c) :
    (calls.foldl StoreCall.run store).lookup c = store.lookup c := by
  induction calls generalizing store with
  | nil => rfl
  | cons call calls ih =>
    rw [List.forall_mem_cons] at others
    rw [List.foldl_cons, ih others.2, lookup_run_of_ne others.1]

/-- Without a publish, a collector that is not in the store does not get into it. -/
theorem lookup_foldl_of_not_publishes (absent : store.lookup c = none)
    (unpublished : ∀ call ∈ calls, ¬ call.Publishes c) :
    (calls.foldl StoreCall.run store).lookup c = none := by
  induction calls generalizing store with
  | nil => exact absent
  | cons call calls ih =>
    rw [List.forall_mem_cons] at unpublished
    refine ih ?_ unpublished.2
    by_cases other : call.collectorName = c
    · cases call with
      | publish iteration p => exact absurd other unpublished.1
      | removeCollector removed =>
        obtain rfl : removed = c := other
        exact AList.lookup_erase removed store
    · rw [lookup_run_of_ne other, absent]

theorem lookup_of_gone (gone : Gone c calls) : (runCalls calls).lookup c = none := by
  rcases gone with unpublished | ⟨earlier, later, rfl, unpublished⟩
  · exact lookup_foldl_of_not_publishes (AList.lookup_empty c) unpublished
  · rw [runCalls, List.foldl_append, List.foldl_cons]
    exact lookup_foldl_of_not_publishes (AList.lookup_erase c _) unpublished

theorem lookup_of_live {p : Publication} (live : Live c calls p) :
    ∃ iteration : HashMap.Iteration,
      (runCalls calls).lookup c = some ((iteration.order p.deduped).map (·.2)) := by
  obtain ⟨iteration, earlier, later, rfl, rfl, others⟩ := live
  refine ⟨iteration, ?_⟩
  rw [runCalls, List.foldl_append, List.foldl_cons, lookup_foldl_of_ne others]
  exact AList.lookup_insert _

theorem forall_concat {P : StoreCall → Prop} {calls : List StoreCall} {call : StoreCall}
    (all : ∀ call' ∈ calls, P call') (last : P call) : ∀ call' ∈ calls ++ [call], P call' :=
  List.forall_mem_append.mpr ⟨all, List.forall_mem_singleton.mpr last⟩

/-- A collector is gone, or it has a last publish. -/
theorem gone_or_live (c : String) (calls : List StoreCall) :
    Gone c calls ∨ ∃ p, Live c calls p := by
  induction calls using List.reverseRecOn with
  | nil => exact .inl (.inl (by simp))
  | append_singleton calls call ih =>
    -- The last call decides if it is about the collector; otherwise nothing changes for it.
    by_cases about : call.collectorName = c
    · cases call with
      | publish iteration p => exact .inr ⟨p, iteration, calls, [], rfl, about, by simp⟩
      | removeCollector removed =>
        obtain rfl : removed = c := about
        exact .inl (.inr ⟨calls, [], rfl, by simp⟩)
    · have silent : ¬ call.Publishes c := by
        cases call with
        | publish iteration p => exact about
        | removeCollector removed => exact id
      rcases ih with (unpublished | ⟨earlier, later, rfl, unpublished⟩) |
        ⟨p, iteration, earlier, later, rfl, named, others⟩
      · exact .inl (.inl (forall_concat unpublished silent))
      · refine .inl (.inr ⟨earlier, later ++ [call], by simp, ?_⟩)
        exact forall_concat unpublished silent
      · refine .inr ⟨p, iteration, earlier, later ++ [call], by simp, named, ?_⟩
        exact forall_concat others about

/-- All values of a store are those of its collectors, each collector listed once. -/
theorem allMetricsFlatIn_eq_flatMap (store : MetricStore) (iteration : HashMap.Iteration) :
    store.allMetricsFlatIn iteration =
      ((iteration.order store).map (·.1)).flatMap store.metricsFor := by
  rw [MetricStore.allMetricsFlatIn, ← List.flatMap_id', List.flatMap_map, List.flatMap_map]
  refine List.flatMap_congr fun entry mem => ?_
  have stored : store.lookup entry.1 = some entry.2 :=
    HashMap.mem_pairs.mp ((iteration.perm store).mem_iff.mp mem)
  rw [MetricStore.metricsFor, stored, Option.getD_some]

/-- **The store reflects exactly each collector's last publish**: after any calls, in any order,
and whatever the order in which the maps are iterated. -/
theorem reflectsLastPublish (calls : List StoreCall) :
    ReflectsLastPublish calls (runCalls calls) where
  cases c := gone_or_live c calls
  gone c gone := by
    rw [MetricStore.metricsFor, lookup_of_gone gone]
    rfl
  live c p live := by
    obtain ⟨iteration, stored⟩ := lookup_of_live live
    rw [MetricStore.metricsFor, stored]
    exact p.shows_order iteration
  flat iteration := by
    refine ⟨_, iteration.nodup_order _, fun c nonempty => ?_, allMetricsFlatIn_eq_flatMap _ _⟩
    by_contra unlisted
    apply nonempty
    rw [MetricStore.metricsFor, ← iteration.lookup_order, HashMap.lookup_eq_none unlisted]
    rfl

end Runs

end BusExporter.Metrics
