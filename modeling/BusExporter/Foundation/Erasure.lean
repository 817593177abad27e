import BusExporter.Foundation.Always

/-!
# Erasure

A computation may carry more in its state than a plain one, such as a log. If what it
carries can be forgotten step by step, it does the same as the plain computation. This may
be so only for runs that leave the log as the plain computation expects it; the last state
of a run then has to tell that all states before were so, as that of a growing log does.
-/

namespace BusExporter.Foundation

variable {σ τ α β : Type}

/-- On runs whose last state is a kept one, all states are kept ones, and up to what is forgotten
the computation does what the plain one does. -/
def Erases (kept : τ → Prop) (forget : τ → σ) (m : StateM τ α) (plain : StateM σ α) : Prop :=
  ∀ t, kept (m.run t).2 → kept t ∧ plain.run (forget t) = ((m.run t).1, forget (m.run t).2)

namespace Erases

variable {kept : τ → Prop} {forget : τ → σ} {m : StateM τ α} {plain : StateM σ α}

theorem pure (a : α) : Erases kept forget (Pure.pure a : StateM τ α) (Pure.pure a : StateM σ α) :=
  fun _ keeps => ⟨keeps, rfl⟩

theorem bind {f : α → StateM τ β} {g : α → StateM σ β} (first : Erases kept forget m plain)
    (rest : ∀ a, Erases kept forget (f a) (g a)) : Erases kept forget (m >>= f) (plain >>= g) := by
  intro t keeps
  rw [StateT.run_bind] at keeps
  -- The end of the run vouches for its middle, and the middle for its start.
  obtain ⟨between, second⟩ := rest _ _ keeps
  obtain ⟨start, same⟩ := first t between
  refine ⟨start, ?_⟩
  rw [StateT.run_bind, StateT.run_bind, same]
  exact second

theorem foldlM {step : β → α → StateM τ β} {plainStep : β → α → StateM σ β}
    (body : ∀ b x, Erases kept forget (step b x) (plainStep b x)) (xs : List α) (b : β) :
    Erases kept forget (xs.foldlM step b) (xs.foldlM plainStep b) := by
  induction xs generalizing b with
  | nil => exact pure b
  | cons x xs ih =>
    rw [List.foldlM_cons, List.foldlM_cons]
    exact (body b x).bind ih

end Erases

end BusExporter.Foundation
