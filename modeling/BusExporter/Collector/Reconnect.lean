import BusExporter.Collector.ModbusRun

/-!
# Lost Modbus transports

A reader that holds a context reports that it is connected, so its task never
learns that the transport has died: its first connection is its last. The
invariant of a run says so: every connect came before the first read, and the
reads since the transport's death are those that found it dead.
-/

namespace BusExporter.Collector

open Foundation Modbus

variable {κ : Type}

/-! ## Reactions of a Modbus task -/

/-- The locations of a task that polls and has no writer. -/
def Location.polls : Location → Bool
  | .cycleStart | .reading | .sleeping | .overrun => true
  | _ => false

/-- A failure on a connection that is up does not end the loop. -/
theorem readLoop_connected (metrics : List MetricConfig) (reading : Reading)
    (results : List (String × MetricResult)) :
    (readLoop metrics true reading results).connectionError = reading.connectionError := by
  fun_induction readLoop metrics true reading results with
  | case1 => rfl
  | case2 reading name result results missing ih => exact ih
  | case3 reading name results cfg raw scaled found ih => exact ih
  | case4 reading name results cfg e found up ih => exact ih
  | case5 reading name results cfg e found down => exact absurd rfl down

/-- A Modbus task that polls goes on polling, or disconnects and returns, and does not call
`connect`. -/
structure Polls (reaction : State × List Event) : Prop where
  calm : ∀ ok, .connect ok ∉ reaction.2
  next : reaction.1.location.polls ∧ .disconnect ∉ reaction.2 ∨ reaction.1.location = .returned

theorem polls_leave (s : State) : Polls s.leave := ⟨by simp [State.leave], .inr rfl⟩

theorem polls_of_step {collector : CollectorConfig} {internalMetrics : Bool} {s : State}
    (polling : s.location.polls) {input : Input} (notAnswer : input.isAnswer = false)
    {reaction : State × List Event}
    (stepped : (modbusTask collector internalMetrics).step s input = some reaction) :
    Polls reaction := by
  unfold Task.step at stepped
  cases input with
  | connected | readDone => exact absurd notAnswer Bool.true_eq_false.mp
  | signal | close =>
    cases stepped
    exact ⟨by simp, .inl ⟨polling, by simp⟩⟩
  | wrote result =>
    -- No writer is at work at any location of the cycle.
    cases result <;> cases at_location : s.location <;> rw [at_location] at polling stepped <;>
      cases stepped <;> cases polling
  | elapsed =>
    cases at_location : s.location <;> rw [at_location] at stepped polling <;>
      cases stepped <;> cases polling
    exact ⟨by simp, .inl ⟨rfl, by simp⟩⟩
  | changed =>
    cases at_location : s.location <;> rw [at_location] at stepped polling <;>
      cases polling <;> simp only [reduceCtorEq, Option.ite_none_right_eq_some] at stepped
    obtain ⟨-, stepped⟩ := stepped
    cases stepped
    exact polls_leave s
  | proceed =>
    cases at_location : s.location <;> rw [at_location] at stepped polling <;> cases polling <;>
      simp only [reduceCtorEq] at stepped
    · rw [Option.some_inj] at stepped
      rw [← stepped]
      -- A Modbus task has no writer, so a cycle starts with its read.
      have skips : (modbusTask collector internalMetrics).executes .prePoll = false := rfl
      simp only [Task.startCycle, skips, Bool.false_eq_true, if_false]
      split
      · exact polls_leave _
      · exact ⟨by simp, .inl ⟨rfl, by simp⟩⟩
    · split at stepped <;> cases stepped
      · exact polls_leave s
      · exact ⟨by simp, .inl ⟨rfl, by simp⟩⟩

theorem polls_of_read {task : Task} {s : State}
    {results : ReadResults} {elapsed : Duration} {reaction : State × List Event}
    (stepped : task.step s (.readDone results true elapsed) = some reaction) :
    Polls reaction := by
  unfold Task.step at stepped
  -- Only a task that is reading gets the results of a read.
  cases at_location : s.location <;> rw [at_location] at stepped <;> cases stepped
  simp only [Task.readReturned, readLoop_connected, Reading.start, Bool.false_eq_true, if_false,
    Task.completeCycle, State.sleepOr]
  split
  · exact ⟨by simp, .inl ⟨rfl, by simp⟩⟩
  · exact ⟨by simp, .inl ⟨rfl, by simp⟩⟩

/-- A task that waits for its first connection goes on waiting, or returns. -/
theorem waits_of_step {task : Task} {s : State}
    (waiting : s.location = .connecting ∨ s.location = .initialWait false)
    {input : Input} (notAnswer : input.isAnswer = false)
    {reaction : State × List Event} (stepped : task.step s input = some reaction) :
    (∀ ok, .connect ok ∉ reaction.2) ∧
      ((reaction.1.location = .connecting ∨ reaction.1.location = .initialWait false) ∨
        reaction.1.location = .returned) := by
  unfold Task.step at stepped
  cases input with
  | connected | readDone => exact absurd notAnswer Bool.true_eq_false.mp
  | signal | close =>
    cases stepped
    exact ⟨by simp, .inl waiting⟩
  | wrote result elapsed =>
    rcases waiting with location | location <;> cases result <;> rw [location] at stepped <;>
      cases stepped
  | elapsed =>
    rcases waiting with location | location <;> rw [location] at stepped <;> cases stepped
    exact ⟨by simp, .inl (.inl rfl)⟩
  | changed =>
    rcases waiting with location | location <;> rw [location] at stepped <;>
      simp only [reduceCtorEq, Bool.false_eq_true, if_false, Option.ite_none_right_eq_some]
        at stepped
    obtain ⟨-, stepped⟩ := stepped
    cases stepped
    exact ⟨by simp [State.leave], .inr rfl⟩
  | proceed =>
    rcases waiting with location | location <;> rw [location] at stepped <;> cases stepped

/-- A task that has returned only takes note of the shutdown channel. -/
theorem returned_of_step {task : Task} {s : State} (returned : s.location = .returned)
    {input : Input} {reaction : State × List Event}
    (stepped : task.step s input = some reaction) :
    input.isAnswer = false ∧ (∀ ok, .connect ok ∉ reaction.2) ∧
      reaction.1.location = .returned := by
  unfold Task.step at stepped
  cases input with
  | signal | close =>
    cases stepped
    exact ⟨rfl, by simp, returned⟩
  | connected result | wrote result elapsed =>
    cases result <;> rw [returned] at stepped <;> cases stepped
  | readDone | elapsed | changed | proceed =>
    rw [returned] at stepped
    cases stepped

/-! ## The invariant -/

/-- Neither a call of a read nor a death of the transport. -/
def Quiet (history : List ModbusEvent) : Prop :=
  (∀ isDead, .polled isDead ∉ history) ∧ .died ∉ history

/-- The task is in its first connect loop. -/
structure Unconnected (s : ModbusRun κ) (history : List ModbusEvent) : Prop where
  location : s.task.location = .connecting ∨ s.task.location = .initialWait false
  context : s.reader.context = none
  quiet : Quiet history

/-- The task polls, on a context whose transport has died or not. -/
structure Polling (dead : κ → Bool) (s : ModbusRun κ) (history : List ModbusEvent) : Prop where
  location : s.task.location.polls
  context : ∃ context, s.reader.context = some context ∧ (ModbusEvent.died ∈ history ↔ dead context)

/-- Every connect came before the first read, and every read has found the transport as the
history has it. -/
structure OneConnection (history : List ModbusEvent) : Prop where
  connects : Throughout (fun event earlier => event.isConnect = true → Quiet earlier) history
  polls : Throughout (fun event earlier => ∀ isDead, event = .polled isDead →
    (isDead = true ↔ ModbusEvent.died ∈ earlier)) history

structure ModbusInv (dead : κ → Bool) (s : ModbusRun κ) (history : List ModbusEvent) : Prop where
  phase : Unconnected s history ∨ Polling dead s history ∨ s.task.location = .returned
  history : OneConnection history

namespace OneConnection

variable {history : List ModbusEvent}

theorem append {events : List ModbusEvent} (inv : OneConnection history)
    (harmless : ∀ event ∈ events, event.isConnect = false ∧ event.isPoll = false) :
    OneConnection (events ++ history) where
  connects := inv.connects.append fun event mem past connect => by
    rw [(harmless event mem).1] at connect
    exact absurd connect Bool.false_ne_true
  polls := inv.polls.append fun event mem past isDead poll => by
    have other := (harmless event mem).2
    rw [poll] at other
    exact absurd other Bool.true_eq_false.mp

theorem connect (inv : OneConnection history) (quiet : Quiet history) (ok : Bool) :
    OneConnection (.task (.connect ok) :: history) :=
  ⟨(throughout_cons ..).mpr ⟨fun _ => quiet, inv.connects⟩,
    (throughout_cons ..).mpr ⟨fun _ poll => absurd poll (by simp), inv.polls⟩⟩

theorem poll (inv : OneConnection history) {isDead : Bool}
    (told : isDead = true ↔ ModbusEvent.died ∈ history) :
    OneConnection (.polled isDead :: history) := by
  refine ⟨(throughout_cons ..).mpr ⟨fun connect => absurd connect Bool.false_ne_true,
    inv.connects⟩, (throughout_cons ..).mpr ⟨fun isDead' poll => ?_, inv.polls⟩⟩
  rw [ModbusEvent.polled.injEq] at poll
  rwa [← poll]

end OneConnection

section Steps

variable {dead : κ → Bool} {s : ModbusRun κ} {history : List ModbusEvent}

/-- The events of a reaction without a connect, and a death after it. -/
theorem harmless_reaction {events : List Event} (calm : ∀ ok, .connect ok ∉ events)
    (died : Prop) [Decidable died] :
    ∀ event ∈ (events.map ModbusEvent.task ++ if died then [ModbusEvent.died] else []).reverse,
      event.isConnect = false ∧ event.isPoll = false := by
  intro event mem
  rw [List.mem_reverse, List.mem_append] at mem
  rcases mem with mem | mem
  · obtain ⟨e, emitted, rfl⟩ := List.mem_map.mp mem
    refine ⟨?_, rfl⟩
    cases e with
    | connect ok => exact absurd emitted (calm ok)
    | _ => rfl
  · split at mem
    · rw [List.mem_singleton] at mem
      rw [mem]
      exact ⟨rfl, rfl⟩
    · simp at mem

theorem ModbusRun.isDead_of_held {context : κ} (held : s.reader.context = some context) :
    s.isDead dead = dead context := by
  rw [ModbusRun.isDead, held, Option.any_some]

/-- A task that polls goes on with a context that is still there: the history tells of the
transport's death exactly if the context is dead now. -/
theorem ModbusInv.polls (reader : ModbusMetricReader κ) (calls : List ModbusEvent)
    {reaction : State × List Event} (polls : Polls reaction) (noDeath : ModbusEvent.died ∉ calls)
    (one : OneConnection (calls.reverse ++ history)) {before after : κ}
    (held : s.reader.context = some before) (told : ModbusEvent.died ∈ history ↔ dead before)
    (inherits : dead before → dead after) (holds : reader.context = some after) :
    ModbusInv dead (s.advance dead reader calls reaction).1
      ((s.advance dead reader calls reaction).2.reverse ++ history) := by
  obtain ⟨task, events⟩ := reaction
  obtain ⟨calm, next⟩ := polls
  simp only [ModbusRun.advance, List.append_assoc]
  rw [List.reverse_append, List.append_assoc]
  refine ⟨?_, one.append (harmless_reaction calm _)⟩
  rcases next with ⟨location, connected⟩ | returned
  · refine .inr (.inl ⟨location, after, ?_, ?_⟩)
    · rw [if_neg connected, holds]
    · have quietTask : ModbusEvent.died ∉ events.map ModbusEvent.task := by simp
      -- The death is noted once, when the context turns from alive to dead.
      have now : (⟨task, reader⟩ : ModbusRun κ).isDead dead = dead after :=
        ModbusRun.isDead_of_held holds
      simp only [if_neg connected, now, ModbusRun.isDead_of_held held, List.mem_append,
        List.mem_reverse, quietTask, noDeath, told, false_or]
      cases before_dead : dead before with
      | true => simp [inherits before_dead]
      | false => cases dead after <;> simp
  · exact .inr (.inr returned)

theorem connecting_of_step {task : Task} {s : State} {result : Except Error Unit}
    {reaction : State × List Event} (stepped : task.step s (.connected result) = some reaction) :
    s.location = .connecting ∨ s.location = .reconnecting := by
  unfold Task.step at stepped
  cases result <;> cases at_location : s.location <;> rw [at_location] at stepped <;>
    simp at stepped ⊢

theorem ModbusInv.polling_step (calls : ContextCalls κ) (stays : calls.StaysDead dead)
    {collector : CollectorConfig} {internalMetrics : Bool} (inv : OneConnection history)
    (polling : Polling dead s history) {next : ModbusRun κ × List ModbusEvent}
    (transition : s.Transition calls dead (modbusTask collector internalMetrics) next) :
    ModbusInv dead next.1 (next.2.reverse ++ history) := by
  obtain ⟨location, before, held, told⟩ := polling
  cases transition with
  | task notAnswer reacted =>
    have polls := polls_of_step location (by simpa using notAnswer) reacted
    exact ModbusInv.polls s.reader [] polls (by simp) inv held told id held
  | connect network reacted =>
    -- A task that polls does not wait for a connect.
    rcases connecting_of_step reacted with connecting | connecting <;>
      rw [connecting] at location <;> cases location
  | read answered reacted =>
    -- A read keeps the context, so the reader still reports a connection afterwards.
    obtain ⟨⟨after, same, inherits⟩, -⟩ := ModbusMetricReader.read_holds stays held
    rw [answered] at same
    have holds := congrArg ModbusMetricReader.context same
    rw [ModbusMetricReader.isConnected, holds] at reacted
    have asTold : s.isDead dead = true ↔ ModbusEvent.died ∈ history := by
      rw [told, ModbusRun.isDead_of_held held]
    exact ModbusInv.polls _ [.polled (s.isDead dead)] (polls_of_read reacted) (by simp)
      (inv.poll asTold) held told inherits holds
  | drift context held' inherits =>
    rw [ModbusRun.isDead_of_held held] at inherits
    -- The transport can die at any time; the task does not take part in it.
    have stays : Polls (s.task, []) := ⟨by simp, .inl ⟨location, by simp⟩⟩
    exact ModbusInv.polls { s.reader with context := some context } [] stays (by simp) inv
      held told inherits rfl

/-- A task without a connection goes on trying to connect, or returns. -/
theorem ModbusInv.waits (s : ModbusRun κ) (reader : ModbusMetricReader κ)
    {reaction : State × List Event}
    (one : OneConnection ((reaction.2.map ModbusEvent.task).reverse ++ history))
    (quiet : Quiet history)
    (next : (reaction.1.location = .connecting ∨ reaction.1.location = .initialWait false) ∨
      reaction.1.location = .returned) (context : reader.context = none) :
    ModbusInv dead (s.advance dead reader [] reaction).1
      ((s.advance dead reader [] reaction).2.reverse ++ history) := by
  obtain ⟨task, events⟩ := reaction
  -- Without a context there is nothing that could die.
  have alive : ∀ reader' : ModbusMetricReader κ, reader'.context = none →
      (⟨task, reader'⟩ : ModbusRun κ).isDead dead = false := by
    intro reader' context
    rw [ModbusRun.isDead, context, Option.any_none]
  have same : (if .disconnect ∈ events then reader.disconnect else reader).context = none := by
    split
    · rfl
    · exact context
  have noDeath := alive _ same
  simp only [ModbusRun.advance, noDeath, Bool.false_eq_true, false_and, if_false, List.nil_append,
    List.append_nil]
  refine ⟨?_, one⟩
  rcases next with location | returned
  · refine .inl ⟨location, same, ?_⟩
    simpa [Quiet] using quiet
  · exact .inr (.inr returned)

/-- A task that has not connected yet goes on trying, returns, or starts to poll on the
context that it has got. -/
theorem ModbusInv.unconnected_step (calls : ContextCalls κ) {collector : CollectorConfig}
    {internalMetrics : Bool} (inv : OneConnection history) (unconnected : Unconnected s history)
    {next : ModbusRun κ × List ModbusEvent}
    (transition : s.Transition calls dead (modbusTask collector internalMetrics) next) :
    ModbusInv dead next.1 (next.2.reverse ++ history) := by
  obtain ⟨location, context, quiet⟩ := unconnected
  cases transition with
  | task notAnswer reacted =>
    obtain ⟨noCall, next⟩ := waits_of_step location (by simpa using notAnswer) reacted
    have one := inv.append (harmless_reaction noCall False)
    rw [if_neg not_false, List.append_nil] at one
    exact ModbusInv.waits s s.reader one quiet next context
  | connect network reacted =>
    obtain connecting : s.task.location = .connecting := by
      rcases location with connecting | waiting
      · exact connecting
      · rcases connecting_of_step reacted with other | other <;> rw [waiting] at other <;>
          cases other
    cases established : s.reader.line.establish network s.reader.slaveId with
    -- A failed connect leaves the reader without a context, and the task waits.
    | error e =>
      rw [ModbusMetricReader.connect_error established] at reacted ⊢
      unfold Task.step at reacted
      rw [connecting, Option.some_inj] at reacted
      have one : OneConnection ([.task (.backoff s.task.backoff)] ++
          .task (.connect false) :: history) :=
        (inv.connect quiet false).append (by simp [ModbusEvent.isConnect, ModbusEvent.isPoll])
      rw [← reacted]
      exact ModbusInv.waits s s.reader.disconnect one quiet (.inl (.inr rfl)) rfl
    -- The one connect that succeeds; from here on the task polls.
    | ok opened =>
      rw [ModbusMetricReader.connect_ok established] at reacted ⊢
      unfold Task.step at reacted
      rw [connecting, Option.some_inj] at reacted
      have skips : (modbusTask collector internalMetrics).executes .initWrites = false := rfl
      have alive : s.isDead dead = false := by rw [ModbusRun.isDead, context, Option.any_none]
      have now : ∀ task : State, (⟨task, { s.reader with context := some opened }⟩ :
          ModbusRun κ).isDead dead = dead opened := fun _ => ModbusRun.isDead_of_held rfl
      rw [← reacted]
      simp only [ModbusRun.advance, Task.connected, skips, Bool.false_eq_true, if_false,
        List.mem_singleton, reduceCtorEq, now, alive, not_false_eq_true, and_true,
        List.map_cons, List.map_nil, List.nil_append]
      rw [List.reverse_append, List.append_assoc]
      refine ⟨.inr (.inl ⟨rfl, opened, rfl, ?_⟩), (inv.connect quiet true).append ?_⟩
      · cases dead opened <;> simp [quiet.2]
      · cases dead opened <;> simp [ModbusEvent.isConnect, ModbusEvent.isPoll]
  | read answered reacted =>
    -- A task that waits for a connection does not read.
    unfold Task.step at reacted
    rcases location with connecting | waiting
    · rw [connecting] at reacted
      cases reacted
    · rw [waiting] at reacted
      cases reacted
  | drift context' held inherits =>
    simp [context] at held

/-- A task that has returned has returned for good. -/
theorem ModbusInv.returned_step (calls : ContextCalls κ) {task : Task} (inv : OneConnection history)
    (returned : s.task.location = .returned) {next : ModbusRun κ × List ModbusEvent}
    (transition : s.Transition calls dead task next) :
    ModbusInv dead next.1 (next.2.reverse ++ history) := by
  have settled : ∀ (reader : ModbusMetricReader κ) (reaction : State × List Event),
      (∀ ok, .connect ok ∉ reaction.2) → reaction.1.location = .returned →
      ModbusInv dead (s.advance dead reader [] reaction).1
        ((s.advance dead reader [] reaction).2.reverse ++ history) :=
    fun reader reaction noCall still => ⟨.inr (.inr still), inv.append (harmless_reaction noCall _)⟩
  cases transition with
  | task notAnswer reacted =>
    obtain ⟨-, noCall, still⟩ := returned_of_step returned reacted
    exact settled s.reader _ noCall still
  | connect network reacted | read answered reacted =>
    exact absurd (returned_of_step returned reacted).1 Bool.true_eq_false.mp
  | drift context held inherits =>
    exact settled { s.reader with context := some context } (s.task, []) (by simp) returned

theorem modbusInv_of_reaches {calls : ContextCalls κ} (stays : calls.StaysDead dead)
    {collector : CollectorConfig} {internalMetrics : Bool} {line : Line} {slaveId : UInt8}
    (reaches : (ModbusRun.machine calls dead collector internalMetrics line slaveId).Reaches s
      history) : ModbusInv dead s history := by
  refine reaches.invariant (ModbusInv dead) ?_ fun _ inv stepped => ?_
  · exact ⟨.inl ⟨.inl rfl, rfl, by simp [Quiet]⟩, by simp, by simp⟩
  · have transition := ModbusRun.transition_of_step stepped
    rcases inv.phase with unconnected | polling | returned
    · exact ModbusInv.unconnected_step calls inv.history unconnected transition
    · exact ModbusInv.polling_step calls stays inv.history polling transition
    · exact ModbusInv.returned_step calls inv.history returned transition

end Steps

/-! ## When a lost transport is noticed -/

section Equivalence

variable {history : List ModbusEvent}

theorem OneConnection.tail {event : ModbusEvent} (one : OneConnection (event :: history)) :
    OneConnection history :=
  ⟨((throughout_cons ..).mp one.connects).2, ((throughout_cons ..).mp one.polls).2⟩

/-- With every connect before the first read, no connect can follow a read. -/
theorem OneConnection.since_iff (one : OneConnection history) :
    Since (· = .polled true) (·.isConnect) history ↔ .polled true ∈ history := by
  induction history with
  | nil => simp
  | cons event earlier ih =>
    rw [since_cons, ih one.tail, List.mem_cons]
    constructor
    · rintro (poll | ⟨-, polled⟩)
      · exact .inl poll.symm
      · exact .inr polled
    · rintro (poll | polled)
      · exact .inl poll.symm
      · refine .inr ⟨fun connect => ?_, polled⟩
        exact (((throughout_cons ..).mp one.connects).1 connect).1 true polled

/-- Every read after the death of the transport is made on a dead context. -/
theorem OneConnection.polled_dead {later earlier : List ModbusEvent}
    (one : OneConnection (later ++ .died :: earlier)) {isDead : Bool}
    (polled : .polled isDead ∈ later) : isDead = true := by
  obtain ⟨newer, older, rfl⟩ := List.append_of_mem polled
  have told := one.polls newer (.polled isDead) (older ++ .died :: earlier) (by simp) isDead rfl
  exact told.mpr (by simp)

theorem OneConnection.reconnects_iff (one : OneConnection history) :
    ReconnectsWhenDead history ↔ EndsWhenDead history := by
  constructor
  · rintro reconnects later earlier rfl
    induction later with
    | nil => simp
    | cons event later ih =>
      have rest := ih one.tail ((throughout_cons ..).mp reconnects).2
      cases event with
      | task e => exact rest
      | died => exact rest
      | polled isDead =>
        obtain rfl : isDead = true := one.polled_dead (by simp)
        -- The newest read is on a dead context, so no read before it was.
        have first := ((throughout_cons ..).mp reconnects).1 rfl
        have unpolled : later.filter (·.isPoll) = [] := by
          rw [List.filter_eq_nil_iff]
          intro e mem poll
          cases e with
          | task e => exact absurd poll Bool.false_ne_true
          | died => exact absurd poll Bool.false_ne_true
          | polled isDead =>
            obtain rfl := one.tail.polled_dead mem
            exact first (one.tail.since_iff.mpr (List.mem_append_left _ mem))
        rw [List.filter_cons_of_pos rfl, unpolled]
        simp
  · rintro ends later event earlier rfl rfl again
    have one' : OneConnection earlier := by
      refine ⟨?_, ?_⟩
      · exact fun newer e older split => one.connects (later ++ .polled true :: newer) e older
          (by simp [split])
      · exact fun newer e older split => one.polls (later ++ .polled true :: newer) e older
          (by simp [split])
    obtain ⟨newer, older, rfl⟩ := List.append_of_mem (one'.since_iff.mp again)
    -- The earlier of the two reads was on a dead context too, so it came after the death.
    have death := (one'.polls newer (.polled true) older rfl true rfl).mp rfl
    obtain ⟨between, before, rfl⟩ := List.append_of_mem death
    have atMostOne := ends (later ++ .polled true :: newer ++ .polled true :: between) before
      (by simp)
    simp [ModbusEvent.isPoll] at atMostOne
    omega

end Equivalence

/-- The reads of a cycle on a dead context all fail, and the reader says that it is connected. -/
theorem dead_read {calls : ContextCalls κ} {dead : κ → Bool} (stays : calls.StaysDead dead)
    {s : ModbusRun κ} (isDead : s.isDead dead = true) :
    ((ModbusMetricReader.read calls).run s.reader).2.isConnected = true ∧
      ∀ pair ∈ ((ModbusMetricReader.read calls).run s.reader).1.metrics.pairs,
        pair.2.toOption = none := by
  cases held : s.reader.context with
  | none =>
    rw [ModbusRun.isDead, held] at isDead
    exact absurd isDead Bool.false_ne_true
  | some context =>
    obtain ⟨⟨after, same, -⟩, failures⟩ := ModbusMetricReader.read_holds stays held
    rw [ModbusRun.isDead_of_held held] at isDead
    exact ⟨by rw [same]; rfl, failures isDead⟩

/-- The task never calls `connect` again: a run keeps to the rule exactly when at most one more
cycle reads after the transport has died. -/
theorem reconnectsWhenDead_iff {calls : ContextCalls κ} {dead : κ → Bool}
    (stays : calls.StaysDead dead) {collector : CollectorConfig} {internalMetrics : Bool}
    {line : Line} {slaveId : UInt8} {s : ModbusRun κ} {history : List ModbusEvent}
    (reaches : (ModbusRun.machine calls dead collector internalMetrics line slaveId).Reaches s
      history) : ReconnectsWhenDead history ↔ EndsWhenDead history :=
  (modbusInv_of_reaches stays reaches).history.reconnects_iff

/-! ## A device that goes away -/

/-- A transport that is up or not, to a device whose registers all hold 1. -/
def linkResponse {α : Type} (value : α) (count : UInt16) : StateM Bool (Response α) := fun up =>
  (if up then .data (List.replicate count.toNat value)
    else .failed (.msg "Broken pipe (os error 32)"), up)

def link : ContextCalls Bool where
  readHoldingRegisters _ := linkResponse 1
  readInputRegisters _ := linkResponse 1
  readCoils _ := linkResponse true
  readDiscreteInputs _ := linkResponse true

theorem linkResponse_staysDead {α : Type} (value : α) (count : UInt16) :
    Ensures (fun up => (!up) = true) (linkResponse value count)
      fun response up => response.isData = false ∧ (!up) = true := by
  intro up isDown
  cases up with
  | true => exact absurd isDown Bool.false_ne_true
  | false => exact ⟨rfl, rfl⟩

theorem link_staysDead : link.StaysDead (!·) where
  holding _ count := linkResponse_staysDead 1 count
  input _ count := linkResponse_staysDead 1 count
  coil _ count := linkResponse_staysDead true count
  discrete _ count := linkResponse_staysDead true count

def network : Network Bool where
  lookupHost _ := .ok ["10.0.0.5:502"]
  connectSlave _ _ := .ok true
  attachSerial _ _ := .ok true

def unplugged : Machine (ModbusRun Bool) (ModbusInput Bool) ModbusEvent :=
  ModbusRun.machine link (!·) (Samples.plc [Samples.wordMetric "energy" 0]) true
    (.tcp "10.0.0.5:502") 1

/-- The collector connects, the transport dies, and two cycles pass. -/
def unpluggedInputs : List (ModbusInput Bool) :=
  [.connect network, .drift false, .task .proceed, .read 0, .task .elapsed, .task .proceed, .read 0]

theorem unplugged_run :
    ∃ s history, unplugged.Reaches s history ∧ .died ∈ history ∧
      ¬ ReconnectsWhenDead history := by
  have violated : (unplugged.runFrom unplugged.init [] unpluggedInputs).any
      (fun run => decide (.died ∈ run.2 ∧ ¬ ReconnectsWhenDead run.2)) = true := by decide +kernel
  obtain ⟨⟨s, history⟩, ran, violated⟩ := (Option.any_eq_true _ _).mp violated
  exact ⟨s, history, Machine.reaches_of_run unpluggedInputs ran, of_decide_eq_true violated⟩

/-- The second cycle on a dead transport starts without a connect. -/
theorem reads_on_after_death :
    ∃ s history, unplugged.Reaches s history ∧ ¬ ReconnectsWhenDead history := by
  obtain ⟨s, history, reaches, -, violated⟩ := unplugged_run
  exact ⟨s, history, reaches, violated⟩

theorem reconnectsWhenDead_iff_unplugged :
    ∃ s history, unplugged.Reaches s history ∧ .died ∈ history ∧
      (ReconnectsWhenDead history ↔ EndsWhenDead history) := by
  obtain ⟨s, history, reaches, died, -⟩ := unplugged_run
  exact ⟨s, history, reaches, died, reconnectsWhenDead_iff link_staysDead reaches⟩

end BusExporter.Collector
