import BusExporter.Foundation.History

/-!
# Machines

A machine reacts to one input at a time: it moves to a new state and emits
events, or does not accept the input in its state. What a run can reach is a
state together with the history of the run, the newest event first. An
invariant of states and histories that every step keeps holds for every run.
-/

namespace BusExporter.Foundation

/-- An initial state and the reaction to an input, with the emitted events in order. -/
structure Machine (σ ι ε : Type) where
  init : σ
  step : σ → ι → Option (σ × List ε)

namespace Machine

variable {σ ι ε : Type} (machine : Machine σ ι ε)

/-- A state that a run can reach, with the history of the run. -/
inductive Reaches : σ → List ε → Prop
  | init : Reaches machine.init []
  | step {s s' : σ} {history : List ε} {input : ι} {events : List ε} :
    Reaches s history → machine.step s input = some (s', events) →
      Reaches s' (events.reverse ++ history)

variable {machine}

/-- What holds initially and is kept by every step from a reachable state holds for every run. -/
theorem Reaches.invariant (Inv : σ → List ε → Prop) (init : Inv machine.init [])
    (step : ∀ {s s' history input events}, machine.Reaches s history → Inv s history →
      machine.step s input = some (s', events) → Inv s' (events.reverse ++ history))
    {s : σ} {history : List ε} (reaches : machine.Reaches s history) : Inv s history := by
  induction reaches with
  | init => exact init
  | step earlier stepped ih => exact step earlier ih stepped

/-- One more step, on a given input. -/
theorem Reaches.next {s s' : σ} {history : List ε} (reaches : machine.Reaches s history)
    (input : ι) {events : List ε} (stepped : machine.step s input = some (s', events)) :
    machine.Reaches s' (events.reverse ++ history) :=
  reaches.step stepped

/-- A part of a machine runs as a machine of its own, if every step of the whole is a step of the
part or leaves it alone. -/
theorem Reaches.part {σ' ι' ε' : Type} {part : Machine σ' ι' ε'} (state : σ → σ')
    (event : ε → Option ε') (init : state machine.init = part.init)
    (step : ∀ {s s' input events}, machine.step s input = some (s', events) →
      (∃ input', part.step (state s) input' = some (state s', events.filterMap event)) ∨
        state s' = state s ∧ events.filterMap event = [])
    {s : σ} {history : List ε} (reaches : machine.Reaches s history) :
    part.Reaches (state s) (history.filterMap event) := by
  induction reaches with
  | init =>
    rw [init]
    exact .init
  | step earlier stepped ih =>
    rw [List.filterMap_append, List.filterMap_reverse]
    rcases step stepped with ⟨input', stepped'⟩ | ⟨same, silent⟩
    · exact ih.step stepped'
    · rw [same, silent]
      exact ih

/-- A run with its steps, the newest first: each input, with the state that it came in. -/
inductive Run (machine : Machine σ ι ε) : List (σ × ι) → σ → List ε → Prop
  | init : Run machine [] machine.init []
  | step {steps : List (σ × ι)} {s s' : σ} {history : List ε} {input : ι} {events : List ε} :
    Run machine steps s history → machine.step s input = some (s', events) →
      Run machine ((s, input) :: steps) s' (events.reverse ++ history)

/-- One more step, on a given input. -/
theorem Run.next {steps : List (σ × ι)} {s s' : σ} {history : List ε}
    (run : machine.Run steps s history) (input : ι) {events : List ε}
    (stepped : machine.step s input = some (s', events)) :
    machine.Run ((s, input) :: steps) s' (events.reverse ++ history) :=
  run.step stepped

theorem Run.reaches {steps : List (σ × ι)} {s : σ} {history : List ε}
    (run : machine.Run steps s history) : machine.Reaches s history := by
  induction run with
  | init => exact .init
  | step _ stepped ih => exact ih.step stepped

/-- Feed a list of inputs to a machine, from a state and a history on. -/
def runFrom (machine : Machine σ ι ε) (s : σ) (history : List ε) : List ι → Option (σ × List ε)
  | [] => some (s, history)
  | input :: inputs =>
    (machine.step s input).bind fun (s', events) =>
      runFrom machine s' (events.reverse ++ history) inputs

theorem Reaches.runFrom {s s' : σ} {history history' : List ε} {inputs : List ι}
    (reaches : machine.Reaches s history)
    (ran : machine.runFrom s history inputs = some (s', history')) :
    machine.Reaches s' history' := by
  induction inputs generalizing s history with
  | nil =>
    rw [Machine.runFrom, Option.some_inj] at ran
    cases ran
    exact reaches
  | cons input inputs ih =>
    rw [Machine.runFrom, Option.bind_eq_some_iff] at ran
    obtain ⟨⟨next, events⟩, stepped, ran⟩ := ran
    exact ih (reaches.step stepped) ran

/-- What every step keeps is kept by every run from a state in which it holds. -/
theorem invariant_runFrom (Inv : σ → List ε → Prop)
    (step : ∀ {s s' history input events}, Inv s history →
      machine.step s input = some (s', events) → Inv s' (events.reverse ++ history))
    {s s' : σ} {history history' : List ε} {inputs : List ι} (start : Inv s history)
    (ran : machine.runFrom s history inputs = some (s', history')) : Inv s' history' := by
  induction inputs generalizing s history with
  | nil =>
    rw [Machine.runFrom, Option.some_inj] at ran
    cases ran
    exact start
  | cons input inputs ih =>
    rw [Machine.runFrom, Option.bind_eq_some_iff] at ran
    obtain ⟨⟨next, events⟩, stepped, ran⟩ := ran
    exact ih (step start stepped) ran

/-- Some inputs lead from one state and history to another. -/
def Leads (machine : Machine σ ι ε) (s : σ) (history : List ε) (s' : σ) (history' : List ε) :
    Prop :=
  ∃ inputs, machine.runFrom s history inputs = some (s', history')

namespace Leads

variable {s s' s'' : σ} {history history' history'' : List ε}

theorem refl (s : σ) (history : List ε) : machine.Leads s history s history := ⟨[], rfl⟩

/-- A step, and what it leads to. -/
theorem step (input : ι) {events : List ε} (stepped : machine.step s input = some (s', events))
    (leads : machine.Leads s' (events.reverse ++ history) s'' history'') :
    machine.Leads s history s'' history'' := by
  obtain ⟨inputs, ran⟩ := leads
  refine ⟨input :: inputs, ?_⟩
  rw [runFrom, stepped, Option.bind_some]
  exact ran

theorem trans (first : machine.Leads s history s' history')
    (second : machine.Leads s' history' s'' history'') :
    machine.Leads s history s'' history'' := by
  obtain ⟨inputs, ran⟩ := first
  induction inputs generalizing s history with
  | nil =>
    rw [runFrom, Option.some_inj] at ran
    cases ran
    exact second
  | cons input inputs ih =>
    rw [runFrom, Option.bind_eq_some_iff] at ran
    obtain ⟨⟨next, events⟩, stepped, ran⟩ := ran
    exact .step input stepped (ih ran)

/-- The history only grows. -/
theorem suffix (leads : machine.Leads s history s' history') : history <:+ history' := by
  obtain ⟨inputs, ran⟩ := leads
  refine invariant_runFrom (fun _ later => history <:+ later) ?_ List.suffix_rfl ran
  intro _ _ later _ events grown _
  exact grown.trans (List.suffix_append events.reverse later)

end Leads

/-- Where every step pays for its events of a kind out of a budget, a whole run does. -/
theorem countP_runFrom_le (costs : ε → Bool) (budget : σ → ℕ) (Inv : σ → Prop)
    (pays : ∀ {s s' input events}, Inv s → machine.step s input = some (s', events) →
      Inv s' ∧ events.countP costs + budget s' ≤ budget s)
    {s s' : σ} {history history' : List ε} {inputs : List ι} (start : Inv s)
    (ran : machine.runFrom s history inputs = some (s', history')) :
    history'.countP costs + budget s' ≤ history.countP costs + budget s := by
  induction inputs generalizing s history with
  | nil =>
    rw [Machine.runFrom, Option.some_inj] at ran
    cases ran
    exact le_rfl
  | cons input inputs ih =>
    rw [Machine.runFrom, Option.bind_eq_some_iff] at ran
    obtain ⟨⟨next, events⟩, stepped, ran⟩ := ran
    obtain ⟨kept, paid⟩ := pays start stepped
    have rest := ih kept ran
    rw [List.countP_append, List.countP_reverse] at rest
    omega

/-- A run from the start that accepts its inputs reaches its last state. -/
theorem reaches_of_run {s : σ} {history : List ε} (inputs : List ι)
    (ran : machine.runFrom machine.init [] inputs = some (s, history)) :
    machine.Reaches s history :=
  Reaches.init.runFrom ran

end Machine

end BusExporter.Foundation
