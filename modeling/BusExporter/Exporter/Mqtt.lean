import BusExporter.Collector.Published
import BusExporter.Foundation.FloatText
import BusExporter.Metrics.LastPublish

/-!
# MQTT topics

In every interval the exporter publishes each value of the store to a topic made of
the configured prefix, the collector and the name of the metric. The parts are
joined as they are, so that a name with a slash can end up in the topic of another
metric; the status topic is out of reach.
-/

namespace BusExporter.Mqtt

open Foundation Metrics Collector

/-! ## Messages -/

inductive QoS where
  | atMostOnce
  | atLeastOnce
  | exactlyOnce
  deriving DecidableEq, Repr

def qosFromU8 (q : UInt8) : QoS :=
  if q = 0 then .atMostOnce
  else if q = 1 then .atLeastOnce
  -- Every other number; validation only lets 2 through.
  else .exactlyOnce

def buildTopic (topicPrefix collector metric : String) : String :=
  topicPrefix ++ "/" ++ collector ++ "/" ++ metric

/-- The payload of a value: an integral value goes through `i64`. -/
def formatValue (v : Float) : String :=
  if fractIsZero v && isFinite v then (asI64 v).repr else displayFloat v

structure Message where
  topic : String
  qos : QoS
  retain : Bool
  payload : String
  deriving DecidableEq

variable (config : MqttExporterConfig)

def statusTopic : String := config.topicPrefix ++ "/status"

/-- The message that reports the status. It is always retained. -/
def statusMessage (status : String) : Message :=
  ⟨statusTopic config, qosFromU8 config.qos, true, status⟩

/-- What a value is published as. -/
def metricMessage (m : MetricValue) : Message where
  -- The name of the collector is read from the labels, where the collector has put it.
  topic := buildTopic config.topicPrefix ((m.labels["collector"]?).getD "unknown") m.name
  qos := qosFromU8 config.qos
  retain := config.retain
  payload := formatValue m.value

/-- What the publish loop of `run_mqtt_exporter` sends in an interval. -/
def publishLoop (iteration : HashMap.Iteration) (store : MetricStore) : List Message :=
  (store.allMetricsFlatIn iteration).map (metricMessage config)

/-! ## What topics have to do -/

/-- Different metrics of the store are published to different topics, and none of them to the
status topic. -/
structure TopicsIdentify (store : MetricStore) : Prop where
  apart : ∀ entry ∈ store.pairs, ∀ entry' ∈ store.pairs, ∀ m ∈ entry.2, ∀ m' ∈ entry'.2,
    (entry.1, m.name) ≠ (entry'.1, m'.name) →
      (metricMessage config m).topic ≠ (metricMessage config m').topic
  notStatus : ∀ iteration, ∀ message ∈ publishLoop config iteration store,
    message.topic ≠ statusTopic config

/-- The second collector's name continues the first one's, by what the first metric's name has
before that of the second metric. -/
def Shifted (collector name collector' name' : String) : Prop :=
  ∃ shift, collector' = collector ++ "/" ++ shift ∧ name = shift ++ "/" ++ name'

/-- No metric of the store is a shifted form of another. -/
def NothingShifted (store : MetricStore) : Prop :=
  ∀ entry ∈ store.pairs, ∀ entry' ∈ store.pairs, ∀ m ∈ entry.2, ∀ m' ∈ entry'.2,
    ¬ Shifted entry.1 m.name entry'.1 m'.name

/-! ## Topics -/

theorem toList_join (a b : String) : (a ++ "/" ++ b).toList = a.toList ++ '/' :: b.toList := by
  simp [String.toList_append]

theorem shifted_iff {c n c' n' : String} :
    Shifted c n c' n' ↔
      ∃ s, c'.toList = c.toList ++ '/' :: s ∧ n.toList = s ++ '/' :: n'.toList := by
  constructor
  · rintro ⟨shift, rfl, rfl⟩
    exact ⟨shift.toList, toList_join .., toList_join ..⟩
  · rintro ⟨s, collector, name⟩
    refine ⟨String.ofList s, ?_, ?_⟩
    · rw [← String.toList_inj, toList_join, String.toList_ofList, collector]
    · rw [← String.toList_inj, toList_join, String.toList_ofList, name]

/-- The other collector has a longer name. -/
theorem Shifted.ne {c n c' n' : String} (shifted : Shifted c n c' n') : c ≠ c' := by
  obtain ⟨s, collector, -⟩ := shifted_iff.mp shifted
  intro same
  -- A text is shorter than the text that continues it with a slash.
  have lengths := congrArg List.length collector
  simp [same] at lengths

/-- Without a slash in the names of the collectors nothing is shifted. -/
theorem nothingShifted_of_collectors {store : MetricStore}
    (plain : ∀ entry ∈ store.pairs, '/' ∉ entry.1.toList) : NothingShifted store := by
  intro entry _ entry' mem' m _ m' _ shifted
  obtain ⟨s, collector, -⟩ := shifted_iff.mp shifted
  refine plain entry' mem' ?_
  rw [collector]
  exact List.mem_append_right _ (List.mem_cons_self ..)

/-- Without a slash in the names of the metrics nothing is shifted. -/
theorem nothingShifted_of_metrics {store : MetricStore}
    (plain : ∀ entry ∈ store.pairs, ∀ m ∈ entry.2, '/' ∉ m.name.toList) : NothingShifted store := by
  intro entry mem entry' _ m inside m' _ shifted
  obtain ⟨s, -, name⟩ := shifted_iff.mp shifted
  refine plain entry mem m inside ?_
  rw [name]
  exact List.mem_append_right _ (List.mem_cons_self ..)

theorem toList_buildTopic (topicPrefix c n : String) :
    (buildTopic topicPrefix c n).toList =
      topicPrefix.toList ++ '/' :: (c.toList ++ '/' :: n.toList) := by
  rw [buildTopic, toList_join, toList_join, List.append_assoc, List.cons_append]

/-- Two metrics have the same topic if they are the same or one is a shifted form of the other. -/
theorem buildTopic_eq_iff {topicPrefix c n c' n' : String} :
    buildTopic topicPrefix c n = buildTopic topicPrefix c' n' ↔
      (c = c' ∧ n = n') ∨ Shifted c n c' n' ∨ Shifted c' n' c n := by
  -- Below the prefix, two texts are each split at a slash: at the same one or at two.
  rw [← String.toList_inj, toList_buildTopic, toList_buildTopic, List.append_cancel_left_eq,
    List.cons_inj_right, append_cons_eq_append_cons, shifted_iff, shifted_iff, String.toList_inj,
    String.toList_inj]

/-- A topic of a metric has one level more than the status topic. -/
theorem buildTopic_ne_statusTopic (c n : String) :
    buildTopic config.topicPrefix c n ≠ statusTopic config := by
  intro same
  have status : (statusTopic config).toList =
      config.topicPrefix.toList ++ '/' :: "status".toList := by
    simp [statusTopic, String.toList_append]
  rw [← String.toList_inj, toList_buildTopic, status, List.append_cancel_left_eq,
    List.cons_inj_right] at same
  -- Otherwise "status" would have the slash between collector and metric.
  have slash : '/' ∈ "status".toList := same ▸ List.mem_append_right _ (List.mem_cons_self ..)
  revert slash
  decide

/-- The topic of a stored metric is made of the name of its collector. -/
theorem topic_eq {values : List MetricValue} {collector : String} (same : SameBase collector values)
    {m : MetricValue} (mem : m ∈ values) :
    (metricMessage config m).topic = buildTopic config.topicPrefix collector m.name := by
  rw [metricMessage, collector_label same mem, Option.getD_some]

/-- **Topics identify the metrics of a store exactly if none of them is a shifted form of
another**: for every prefix and every store that the collectors of a configuration can publish. -/
theorem topicsIdentify_iff (mqtt : MqttExporterConfig) {config : Config} {store : MetricStore}
    (publishable : Publishable config store) :
    TopicsIdentify mqtt store ↔ NothingShifted store := by
  have bases := sameBase_of_publishable publishable
  constructor
  · intro identify entry mem entry' mem' m inside m' inside' shifted
    have different : (entry.1, m.name) ≠ (entry'.1, m'.name) :=
      fun same => shifted.ne (Prod.mk.inj same).1
    -- A shifted pair shares its topic, and its collectors differ.
    refine identify.apart entry mem entry' mem' m inside m' inside' different ?_
    rw [topic_eq mqtt (bases entry mem) inside, topic_eq mqtt (bases entry' mem') inside']
    exact buildTopic_eq_iff.mpr (.inr (.inl shifted))
  · intro apart
    constructor
    · intro entry mem entry' mem' m inside m' inside' different same
      rw [topic_eq mqtt (bases entry mem) inside, topic_eq mqtt (bases entry' mem') inside'] at same
      -- One topic leaves three ways, and the last two are excluded in both directions.
      rcases buildTopic_eq_iff.mp same with ⟨collector, name⟩ | shifted | shifted
      · exact different (Prod.ext collector name)
      · exact apart entry mem entry' mem' m inside m' inside' shifted
      · exact apart entry' mem' entry mem m' inside' m inside shifted
    · intro iteration message sent
      obtain ⟨m, -, rfl⟩ := List.mem_map.mp sent
      exact buildTopic_ne_statusTopic mqtt _ _

/-! ## A metric in the topic of another -/

def boiler : CollectorConfig := Samples.plc [Samples.wordMetric "boiler/flow" 0]

/-- A collector whose name continues that of the other one. -/
def boilerMeter : CollectorConfig where
  name := "plc/boiler"
  protocol := .modbusTcp "10.0.0.6:502"
  slaveId := some 1
  metrics := [Samples.wordMetric "flow" 0]

def mqttExporter : MqttExporterConfig where
  enabled := true
  endpoint := some "mqtt://10.0.0.9"

def slashed : Config where
  exporters := { mqtt := some mqttExporter }
  collectors := [boiler, boilerMeter]

def slashedStore : MetricStore :=
  ((∅ : MetricStore).publish "plc" (firstSnapshot boiler) ∅ ∅).publish "plc/boiler"
    (firstSnapshot boilerMeter) ∅ ∅

theorem publishable_slashed : Publishable slashed slashedStore := by
  have ofBoiler : Publishable slashed
      ((∅ : MetricStore).publish "plc" (firstSnapshot boiler) ∅ ∅) :=
    Publishable.empty.publishFirst boiler (List.mem_cons_self ..) rfl
  exact ofBoiler.publishFirst boilerMeter (List.mem_cons_of_mem _ (List.mem_singleton_self _)) rfl

/-- Two collectors publish different metrics to one topic. -/
theorem different_metrics_share_topic :
    slashed.validate = .ok () ∧ Publishable slashed slashedStore ∧
      ¬ TopicsIdentify mqttExporter slashedStore := by
  refine ⟨by decide, publishable_slashed, fun identify => ?_⟩
  -- Both metrics go to ".../plc/boiler/flow".
  obtain ⟨entry, mem, entry', mem', m, inside, m', inside', different, same⟩ :
      ∃ entry ∈ slashedStore.pairs, ∃ entry' ∈ slashedStore.pairs, ∃ m ∈ entry.2, ∃ m' ∈ entry'.2,
        (entry.1, m.name) ≠ (entry'.1, m'.name) ∧
          (metricMessage mqttExporter m).topic = (metricMessage mqttExporter m').topic := by
    decide +kernel
  exact identify.apart entry mem entry' mem' m inside m' inside' different same

theorem topicsIdentify_iff_slashed :
    TopicsIdentify mqttExporter slashedStore ↔ NothingShifted slashedStore :=
  topicsIdentify_iff mqttExporter publishable_slashed

end BusExporter.Mqtt
