import BusExporter.Foundation.Always

/-!
# Running steps in order

A loop over steps that ends with the first step that fails. Where every step adds its effects
to a log, and a failed one what it got to, the log of the loop is a run of whole steps, followed
by the failed one if there is one.
-/

namespace BusExporter.Foundation

variable {σ α ε ν : Type}

/-- Run the steps, with their indices from `idx` on, up to the first that fails. -/
def runSteps (run : ℕ → α → StateM σ (Except ε Unit)) : ℕ → List α → StateM σ (Except ε Unit)
  | _, [] => return .ok ()
  | idx, x :: xs => do
    match ← run idx x with
    | .error e => return .error e
    | .ok () => runSteps run (idx + 1) xs

/-- What every step keeps, the loop keeps. -/
theorem runSteps_keeps {Inv : σ → Prop} {run : ℕ → α → StateM σ (Except ε Unit)}
    (step : ∀ idx x, Ensures Inv (run idx x) fun _ => Inv) (idx : ℕ) (xs : List α) :
    Ensures Inv (runSteps run idx xs) fun _ => Inv := by
  induction xs generalizing idx with
  | nil => exact .pure fun _ => id
  | cons x xs ih =>
    refine (step idx x).bind fun result => ?_
    cases result with
    | error e => exact .pure fun _ => id
    | ok _ => exact ih (idx + 1)

/-- The computation succeeds with certain effects, or fails with others. -/
def Logs (log : σ → List ν) (m : StateM σ (Except ε Unit)) (done : List ν)
    (Fails : ε → List ν → Prop) : Prop :=
  ∀ before, Ensures (fun s => log s = before) m fun result s =>
    result = .ok () ∧ log s = before ++ done ∨
      ∃ e got, result = .error e ∧ Fails e got ∧ log s = before ++ got

/-- The effects of the loop, from those of its steps. -/
theorem runSteps_logs {log : σ → List ν} {run : ℕ → α → StateM σ (Except ε Unit)}
    {done : α → List ν} {Fails : ℕ → α → ε → List ν → Prop}
    (step : ∀ idx x, Logs log (run idx x) (done x) (Fails idx x)) (idx : ℕ) (xs : List α) :
    Logs log (runSteps run idx xs) (xs.flatMap done) fun e got =>
      ∃ earlier x later rest, xs = earlier ++ x :: later ∧ Fails (idx + earlier.length) x e rest ∧
        got = earlier.flatMap done ++ rest := by
  induction xs generalizing idx with
  | nil =>
    intro before
    exact .pure fun s logged => .inl ⟨rfl, by rw [logged, List.flatMap_nil, List.append_nil]⟩
  | cons x xs ih =>
    intro before
    refine (step idx x before).bind fun result => ?_
    cases result with
    | error e =>
      refine .pure fun s broken => .inr ?_
      obtain ⟨⟨⟩, -⟩ | ⟨_, got, same, fails, logged⟩ := broken
      cases same
      exact ⟨e, got, rfl, ⟨[], x, xs, got, rfl, fails, rfl⟩, logged⟩
    | ok _ =>
      refine ((ih (idx + 1) (before ++ done x)).mono ?_).strengthen ?_
      · rintro result s (⟨rfl, logged⟩ | ⟨e, got, rfl, place, logged⟩)
        · exact .inl ⟨rfl, by rw [logged, List.flatMap_cons, List.append_assoc]⟩
        · obtain ⟨earlier, y, later, rest, rfl, fails, rfl⟩ := place
          have shifted : idx + (x :: earlier).length = idx + 1 + earlier.length := by
            rw [List.length_cons, Nat.add_right_comm, Nat.add_assoc]
          refine .inr ⟨e, _, rfl, ⟨x :: earlier, y, later, rest, rfl, ?_, rfl⟩, ?_⟩
          · rwa [shifted]
          · rw [logged, List.flatMap_cons, List.append_assoc, List.append_assoc]
      · rintro s (⟨-, logged⟩ | ⟨_, _, ⟨⟩, -⟩)
        exact logged

end BusExporter.Foundation
