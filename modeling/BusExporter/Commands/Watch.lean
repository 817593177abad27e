import BusExporter.Commands.Pull
import BusExporter.Foundation.Machine

/-!
# The watch command

The watch command collects again and again, with a sleep in between, until it is cancelled. Every
iteration prints what came of every metric, and at last there is a summary and an exit code.
The collectors may answer differently every time, and the token may be cancelled at any time,
also in the middle of an iteration, which prints its line all the same.
-/

namespace BusExporter.Watch

open Foundation Commands

/-! ## The command -/

/-- The line that an iteration prints. -/
structure Output where
  timestamp : String
  iteration : ℕ
  report : Report
  totalCollectors : ℕ

structure Summary where
  totalIterations : ℕ
  totalSuccessful : ℕ
  totalFailed : ℕ
  deriving DecidableEq

inductive Location where
  | top
  /-- In `collect_once`, since some time. -/
  | collecting (timestamp : String)
  | sleeping
  | returned
  /-- A panic ends the process without a summary. -/
  | panicked
  deriving DecidableEq

def Location.isCollecting : Location → Bool
  | collecting _ => true
  | _ => false

structure State where
  location : Location := .top
  cancelled : Bool := false
  iteration : ℕ := 0
  totalSuccessful : ℕ := 0
  totalFailed : ℕ := 0

inductive Input (σ : Type) where
  /-- The token is cancelled. -/
  | cancel
  /-- The loop goes on from its top, at a time. -/
  | proceed (timestamp : String)
  /-- The collectors have been collected from, in a state of the outside world. -/
  | collected (world : σ)
  /-- The sleep ends. -/
  | elapsed
  /-- The token ends the sleep. -/
  | woken

inductive Event where
  | output (output : Output)
  | summary (summary : Summary) (exitCode : ℤ)
  | panicked

def State.summary (s : State) : Summary := ⟨s.iteration, s.totalSuccessful, s.totalFailed⟩

def State.exitCode (s : State) : ℤ := if s.totalFailed > 0 then 2 else 0

/-- What comes after the loop. -/
def State.finish (s : State) : State × List Event :=
  ({ s with location := .returned }, [.summary s.summary s.exitCode])

section

variable {σ : Type} (attempts : CollectorConfig → Call σ Attempt)
  (collectors : List CollectorConfig)

/-- An iteration up to its `await`. -/
def State.start (s : State) (timestamp : String) : State × List Event :=
  ({ s with location := .collecting timestamp, iteration := s.iteration + 1 }, [])

/-- An iteration from its `await` to its sleep; it does not look at the token. -/
def State.print (s : State) (timestamp : String) (world : σ) : State × List Event :=
  match (collectWith attempts collectors).run world with
  | .error _ => ({ s with location := .panicked }, [.panicked])
  | .ok (report, _) =>
    ({ s with
        location := .sleeping
        totalSuccessful := s.totalSuccessful + report.successful
        totalFailed := s.totalFailed + report.failed },
      [.output ⟨timestamp, s.iteration, report, collectors.length⟩])

def State.step (s : State) : Input σ → Option (State × List Event)
  | .cancel => some ({ s with cancelled := true }, [])
  | .proceed timestamp =>
    if s.location = .top then some (if s.cancelled then s.finish else s.start timestamp) else none
  | .collected world =>
    match s.location with
    | .collecting timestamp => some (s.print attempts collectors timestamp world)
    | _ => none
  | .elapsed => if s.location = .sleeping then some ({ s with location := .top }, []) else none
  | .woken => if s.location = .sleeping ∧ s.cancelled then some s.finish else none

/-- `run_watch`. -/
def machine : Machine State (Input σ) Event where
  init := {}
  step := State.step attempts collectors

end

/-! ## What a step can do -/

section Steps

variable {σ : Type} {attempts : CollectorConfig → Call σ Attempt}
  {collectors : List CollectorConfig} {s s' : State} {events : List Event}

inductive Transition (attempts : CollectorConfig → Call σ Attempt)
    (collectors : List CollectorConfig) (s : State) : State → List Event → Prop
  | cancel : Transition attempts collectors s { s with cancelled := true } []
  | elapsed (at_sleep : s.location = .sleeping) :
    Transition attempts collectors s { s with location := .top } []
  | finish (active : s.location = .top ∨ s.location = .sleeping) (cancelled : s.cancelled = true) :
    Transition attempts collectors s { s with location := .returned }
      [.summary s.summary s.exitCode]
  | start (at_top : s.location = .top) (waiting : s.cancelled = false) (timestamp : String) :
    Transition attempts collectors s
      { s with location := .collecting timestamp, iteration := s.iteration + 1 } []
  | panic {timestamp : String} (at_collect : s.location = .collecting timestamp) :
    Transition attempts collectors s { s with location := .panicked } [.panicked]
  | print {timestamp : String} (at_collect : s.location = .collecting timestamp)
    {world after : σ} {report : Report}
    (collected : (collectWith attempts collectors).run world = .ok (report, after)) :
    Transition attempts collectors s
      { s with
        location := .sleeping
        totalSuccessful := s.totalSuccessful + report.successful
        totalFailed := s.totalFailed + report.failed }
      [.output ⟨timestamp, s.iteration, report, collectors.length⟩]

theorem transition_of_step {input : Input σ}
    (stepped : (machine attempts collectors).step s input = some (s', events)) :
    Transition attempts collectors s s' events := by
  change s.step attempts collectors input = _ at stepped
  cases input with
  | cancel =>
    cases stepped
    exact .cancel
  | elapsed =>
    obtain ⟨at_sleep, done⟩ := Option.ite_none_right_eq_some.mp stepped
    cases done
    exact .elapsed at_sleep
  | woken =>
    obtain ⟨⟨at_sleep, cancelled⟩, done⟩ := Option.ite_none_right_eq_some.mp stepped
    cases done
    exact .finish (.inr at_sleep) cancelled
  | proceed timestamp =>
    obtain ⟨at_top, done⟩ := Option.ite_none_right_eq_some.mp stepped
    rw [Option.some_inj] at done
    cases cancelled : s.cancelled with
    | true =>
      rw [if_pos cancelled] at done
      cases done
      exact .finish (.inl at_top) cancelled
    | false =>
      rw [cancelled, if_neg Bool.false_ne_true] at done
      cases done
      exact .start at_top cancelled timestamp
  | collected world =>
    cases at_collect : s.location with
    | top | sleeping | returned | panicked => simp [State.step, at_collect] at stepped
    | collecting timestamp =>
      simp only [State.step, at_collect, Option.some_inj, State.print] at stepped
      cases collected : (collectWith attempts collectors).run world with
      | error panic =>
        rw [collected] at stepped
        cases stepped
        exact .panic at_collect
      | ok result =>
        rw [collected] at stepped
        cases stepped
        exact .print at_collect collected

end Steps

/-! ## What a run prints -/

def Event.printed : Event → Option Output
  | .output line => some line
  | _ => none

/-- The lines that were printed, the first one first. -/
def outputs (history : List Event) : List Output := (history.filterMap Event.printed).reverse

def Output.entries (output : Output) : List MetricEntry :=
  output.report.collectors.flatMap (·.metrics)

/-- The entries of all lines. -/
def entries (history : List Event) : List MetricEntry := (outputs history).flatMap Output.entries

theorem outputs_append (events history : List Event) :
    outputs (events.reverse ++ history) = outputs history ++ events.filterMap Event.printed := by
  simp [outputs, List.filterMap_reverse]

section Accounts

variable {σ : Type} {attempts : CollectorConfig → Call σ Attempt}
  {collectors : List CollectorConfig} {s s' : State} {history : List Event}

/-- A line has every metric of every collector, and counts its entries. -/
structure Reported (attempts : CollectorConfig → Call σ Attempt)
    (collectors : List CollectorConfig) (output : Output) : Prop where
  totalCollectors : output.totalCollectors = collectors.length
  counts : output.report.Counts
  reports : ∃ outcomes before after, Attempted attempts collectors before outcomes after ∧
    ReportsAll jsonNumber collectors outcomes output.report

/-- The summary counts the lines and their entries. -/
structure Summary.CountsAll (summary : Summary) (history : List Event) : Prop where
  iterations : summary.totalIterations = (outputs history).length
  successful : summary.totalSuccessful = (entries history).countP (·.error.isNone)
  failed : summary.totalFailed = (entries history).countP (·.error.isSome)

/-- The summary of the state has just been printed, and never before. -/
def EndsWith (s : State) (summary : Summary) (code : ℤ) (history : List Event) : Prop :=
  ∃ earlier, history = .summary summary code :: earlier ∧ summary = s.summary ∧
    code = s.exitCode ∧ ∀ summary code, .summary summary code ∉ earlier

/-- The counters of the loop are those of the lines so far, but that an iteration is counted before
its line is printed; and only the end is summed up. -/
structure WatchInv (attempts : CollectorConfig → Call σ Attempt)
    (collectors : List CollectorConfig) (s : State) (history : List Event) : Prop where
  numbered : (outputs history).map (·.iteration) = List.range' 1 (outputs history).length
  reported : ∀ output ∈ outputs history, Reported attempts collectors output
  iterations : s.location ≠ .panicked →
    s.iteration = (outputs history).length + s.location.isCollecting.toNat
  successful : s.totalSuccessful = (entries history).countP (·.error.isNone)
  failed : s.totalFailed = (entries history).countP (·.error.isSome)
  running : s.location ≠ .returned → ∀ summary code, .summary summary code ∉ history
  ended : ∀ summary code, .summary summary code ∈ history → EndsWith s summary code history

/-- Steps that print no line leave the lines as they are, and the counters of the entries. -/
theorem WatchInv.silent (inv : WatchInv attempts collectors s history) (events : List Event)
    (iterations : s'.location ≠ .panicked →
      s'.iteration = (outputs history).length + s'.location.isCollecting.toNat)
    (successful : s'.totalSuccessful = s.totalSuccessful) (failed : s'.totalFailed = s.totalFailed)
    (noLine : events.filterMap Event.printed = [])
    (running : s'.location ≠ .returned →
      ∀ summary code, .summary summary code ∉ events.reverse ++ history)
    (ended : ∀ summary code, .summary summary code ∈ events.reverse ++ history →
      EndsWith s' summary code (events.reverse ++ history)) :
    WatchInv attempts collectors s' (events.reverse ++ history) := by
  have lines : outputs (events.reverse ++ history) = outputs history := by
    rw [outputs_append, noLine, List.append_nil]
  refine ⟨?_, ?_, ?_, ?_, ?_, running, ended⟩
  · rw [lines]
    exact inv.numbered
  · rw [lines]
    exact inv.reported
  · rw [lines]
    exact iterations
  · rw [successful, entries, lines]
    exact inv.successful
  · rw [failed, entries, lines]
    exact inv.failed

theorem watchInv_of_transition {events : List Event} (inv : WatchInv attempts collectors s history)
    (transition : Transition attempts collectors s s' events) :
    WatchInv attempts collectors s' (events.reverse ++ history) := by
  cases transition with
  | cancel => exact inv.silent [] inv.iterations rfl rfl rfl inv.running inv.ended
  | elapsed at_sleep =>
    have running := inv.running (by simp [at_sleep])
    have iterations := inv.iterations (by simp [at_sleep])
    rw [at_sleep] at iterations
    exact inv.silent [] (fun _ => iterations) rfl rfl rfl (fun _ => running) fun summary code mem =>
      absurd mem (running summary code)
  | finish active cancelled =>
    have running := inv.running (by rcases active with active | active <;> simp [active])
    have iterations : s.iteration = (outputs history).length := by
      rcases active with active | active <;>
        simpa [active, Location.isCollecting] using inv.iterations
    refine inv.silent [.summary s.summary s.exitCode] (fun _ => iterations) rfl rfl rfl
      (fun active => absurd rfl active) fun summary code mem => ?_
    rcases List.mem_cons.mp mem with same | mem
    · cases same
      exact ⟨history, rfl, rfl, rfl, running⟩
    · exact absurd mem (running summary code)
  | start at_top waiting timestamp =>
    have running := inv.running (by simp [at_top])
    have iterations := inv.iterations (by simp [at_top])
    rw [at_top] at iterations
    exact inv.silent [] (fun _ => congrArg (· + 1) iterations) rfl rfl rfl (fun _ => running)
      fun summary code mem => absurd mem (running summary code)
  | panic at_collect =>
    have running := inv.running (by simp [at_collect])
    have absent (summary : Summary) (code : ℤ) : .summary summary code ∉ .panicked :: history := by
      simpa using running summary code
    exact inv.silent [.panicked] (fun intact => absurd rfl intact) rfl rfl rfl (fun _ => absent)
      fun summary code mem => absurd mem (absent summary code)
  | @print timestamp at_collect world after report collected =>
    have running := inv.running (by simp [at_collect])
    obtain ⟨counts, outcomes, attempted, reports⟩ := reportsAll_of_ran collected
    let line : Output := ⟨timestamp, s.iteration, report, collectors.length⟩
    change WatchInv attempts collectors _ (.output line :: history)
    have lines : outputs (.output line :: history) = outputs history ++ [line] :=
      outputs_append [.output line] history
    have all : entries (.output line :: history) = entries history ++ line.entries := by
      rw [entries, lines, List.flatMap_append, List.flatMap_singleton, entries]
    have absent (summary : Summary) (code : ℤ) :
        .summary summary code ∉ Event.output line :: history := by
      simpa using running summary code
    have iterations := inv.iterations (by simp [at_collect])
    rw [at_collect] at iterations
    refine ⟨?_, ?_, fun _ => ?_, ?_, ?_, fun _ => absent, fun summary code mem =>
      absurd mem (absent summary code)⟩
    · -- The line has the number that its iteration was given at the start.
      rw [lines, List.map_append, inv.numbered, List.length_append, List.length_singleton,
        List.range'_concat]
      simp [line, iterations, Location.isCollecting, Nat.add_comm]
    · rw [lines]
      refine List.forall_mem_append.mpr ⟨inv.reported, List.forall_mem_singleton.mpr ?_⟩
      exact ⟨rfl, counts, outcomes, world, after, attempted, reports⟩
    · rw [lines, List.length_append, List.length_singleton]
      exact iterations
    · rw [all, List.countP_append, ← inv.successful]
      exact congrArg (s.totalSuccessful + ·) counts.successful
    · rw [all, List.countP_append, ← inv.failed]
      exact congrArg (s.totalFailed + ·) counts.failed

theorem watchInv_of_reaches (reaches : (machine attempts collectors).Reaches s history) :
    WatchInv attempts collectors s history := by
  refine reaches.invariant (WatchInv attempts collectors) ?_ ?_
  · exact ⟨rfl, by simp [outputs], fun _ => rfl, rfl, rfl, by simp, by simp⟩
  · intro s s' history input events _ inv stepped
    exact watchInv_of_transition inv (transition_of_step stepped)

/-! ## Whole runs -/

/-- A cancelled loop prints at most the line that is under way. -/
theorem outputs_of_cancelled (cancelled : s.cancelled = true) {inputs : List (Input σ)}
    {history' : List Event}
    (ran : (machine attempts collectors).runFrom s history inputs = some (s', history')) :
    ∃ lines, outputs history' = outputs history ++ lines ∧
      lines.length ≤ s.location.isCollecting.toNat := by
  -- A line that is still under way is one that may still be printed.
  have kept := Machine.invariant_runFrom
    (fun s₁ later => s₁.cancelled = true ∧ ∃ lines, outputs later = outputs history ++ lines ∧
      lines.length + s₁.location.isCollecting.toNat ≤ s.location.isCollecting.toNat)
    ?_ ⟨cancelled, [], by simp, by simp⟩ ran
  · obtain ⟨-, lines, same, few⟩ := kept
    exact ⟨lines, same, Nat.le_of_add_right_le few⟩
  · intro s₁ s₂ later input events ⟨cancelled, lines, same, few⟩ stepped
    rw [outputs_append, same]
    cases transition_of_step stepped with
    | cancel => exact ⟨rfl, lines, List.append_nil _, few⟩
    | elapsed | finish | panic =>
      exact ⟨cancelled, lines, List.append_nil _, (Nat.le_add_right ..).trans few⟩
    | start at_top waiting => simp [cancelled] at waiting
    | print at_collect collected =>
      rw [at_collect] at few
      exact ⟨cancelled, lines ++ [_], List.append_assoc .., by
        simpa [Location.isCollecting] using few⟩

theorem leads_of_sleeping (s : State) (history : List Event) (at_sleep : s.location = .sleeping) :
    ∃ s' history', (machine attempts collectors).Leads s history s' history' ∧
      s'.location = .returned := by
  have wakes : (machine attempts collectors).step { s with cancelled := true } .woken =
      some ({ s with cancelled := true } : State).finish := by
    simp [machine, State.step, at_sleep]
  exact ⟨_, _, .step .cancel rfl (.step _ wakes (.refl _ _)), rfl⟩

/-- The loop can be left wherever it is, if the collectors that it waits for can answer. -/
theorem canEnd (s : State) (history : List Event) (running : s.location ≠ .panicked)
    (answers : s.location.isCollecting = true →
      ∃ world result, (collectWith attempts collectors).run world = .ok result) :
    ∃ s' history', (machine attempts collectors).Leads s history s' history' ∧
      s'.location = .returned := by
  cases location : s.location with
  | returned => exact ⟨s, history, .refl s history, location⟩
  | panicked => exact absurd location running
  | sleeping => exact leads_of_sleeping s history location
  | top =>
    have proceeds : (machine attempts collectors).step { s with cancelled := true }
        (.proceed "") = some ({ s with cancelled := true } : State).finish := by
      simp [machine, State.step, location]
    exact ⟨_, _, .step .cancel rfl (.step _ proceeds (.refl _ _)), rfl⟩
  | collecting timestamp =>
    obtain ⟨world, ⟨report, after⟩, collected⟩ := answers (by rw [location]; rfl)
    let printed : State := { s with
      location := .sleeping
      totalSuccessful := s.totalSuccessful + report.successful
      totalFailed := s.totalFailed + report.failed }
    have prints : (machine attempts collectors).step s (.collected world) =
        some (printed, [.output ⟨timestamp, s.iteration, report, collectors.length⟩]) := by
      simp [machine, State.step, location, State.print, collected, printed]
    obtain ⟨s', history', leads, ended⟩ := leads_of_sleeping printed _ rfl
    exact ⟨s', history', .step _ prints leads, ended⟩

/-- What the watch command promises of a run. -/
structure WatchAccounts (attempts : CollectorConfig → Call σ Attempt)
    (collectors : List CollectorConfig) (s : State) (history : List Event) : Prop where
  numbered : (outputs history).map (·.iteration) = List.range' 1 (outputs history).length
  reported : ∀ output ∈ outputs history, Reported attempts collectors output
  /-- The summary comes once, at the end. -/
  summary : ∀ later summary code earlier, history = later ++ .summary summary code :: earlier →
    later = [] ∧ summary.CountsAll history ∧
      code = if ∃ entry ∈ entries history, entry.error.isSome then 2 else 0
  /-- Only the line of an iteration that is under way still comes. -/
  cancelled : s.cancelled = true → ∀ inputs s' history',
    (machine attempts collectors).runFrom s history inputs = some (s', history') →
      ∃ lines, outputs history' = outputs history ++ lines ∧
        lines.length ≤ s.location.isCollecting.toNat
  canEnd : s.location ≠ .panicked →
    (s.location.isCollecting = true →
      ∃ world result, (collectWith attempts collectors).run world = .ok result) →
    ∃ s' history', (machine attempts collectors).Leads s history s' history' ∧
      s'.location = .returned

/-- In every run the lines are numbered and report every metric, and the summary counts them. -/
theorem watchAccounts (reaches : (machine attempts collectors).Reaches s history) :
    WatchAccounts attempts collectors s history := by
  have inv := watchInv_of_reaches reaches
  refine ⟨inv.numbered, inv.reported, ?_, fun cancelled _ _ _ ran =>
    outputs_of_cancelled cancelled ran, canEnd s history⟩
  intro later summary code earlier split
  obtain ⟨before, newest, rfl, rfl, none⟩ := inv.ended summary code (by simp [split])
  have last : later = [] := by
    cases later with
    | nil => rfl
    | cons event later =>
      have mem : .summary s.summary s.exitCode ∈ before := by
        rw [(List.cons_eq_cons.mp (newest.symm.trans split)).2]
        simp
      exact absurd mem (none _ _)
  have returned : s.location = .returned := by
    by_contra active
    exact inv.running active s.summary s.exitCode (by simp [split])
  have iterations := inv.iterations (by simp [returned])
  rw [returned] at iterations
  refine ⟨last, ⟨iterations, inv.successful, inv.failed⟩, ?_⟩
  have failed : s.totalFailed > 0 ↔ ∃ entry ∈ entries history, entry.error.isSome := by
    have counted : s.totalFailed = _ := inv.failed
    rw [counted, gt_iff_lt, List.countP_pos_iff]
  rw [State.exitCode]
  exact if_congr failed rfl rfl

end Accounts

/-! ## A device that fails -/

/-- The device answers in some states of the world only. -/
def unsteady : CollectorConfig → Call Bool Attempt := fun _ => do
  let answers ← get
  return if answers then .read ⟨AList.singleton "flow" (.ok (12.0, 12.0)), 1⟩
    else .connectFailed (.msg "connection refused")

def flowMeter : List CollectorConfig := [Samples.plc [Samples.wordMetric "flow" 100]]

/-- Two iterations, of which the second one fails, with Ctrl-C in the middle of it. -/
theorem watchAccounts_unsteady :
    ∃ s earlier, (machine unsteady flowMeter).Reaches s (.summary ⟨2, 1, 1⟩ 2 :: earlier) ∧
      WatchAccounts unsteady flowMeter s (.summary ⟨2, 1, 1⟩ 2 :: earlier) := by
  have reaches : (machine unsteady flowMeter).Reaches _ (.summary ⟨2, 1, 1⟩ 2 :: _) :=
    Machine.reaches_of_run [.proceed "2026-01-01T00:00:00Z", .collected true, .elapsed,
      .proceed "2026-01-01T00:00:10Z", .cancel, .collected false, .woken] rfl
  exact ⟨_, _, reaches, watchAccounts reaches⟩

end BusExporter.Watch
