import BusExporter.Foundation.Slots

/-!
# Stateful computations

`Ensures pre m post` says that a computation in the state monad, started in a
state that satisfies `pre`, ends with a result and a state that satisfy `post`.
The rules follow the computation: a pure result, a sequence, and a loop over a
list that keeps account of the elements it is done with. `Always m P` is the
special case of a result that satisfies `P`, whatever state the computation
starts from.
-/

namespace BusExporter.Foundation

variable {σ α β ι : Type}

/-- From every state that satisfies `pre`, the result and the state reached satisfy `post`. -/
def Ensures (pre : σ → Prop) (m : StateM σ α) (post : α → σ → Prop) : Prop :=
  ∀ s, pre s → post (m.run s).1 (m.run s).2

/-- From every state the computation's result satisfies `P`. -/
def Always (m : StateM σ α) (P : α → Prop) : Prop := ∀ s, P (m.run s).1

namespace Ensures

variable {pre : σ → Prop} {P Q : α → σ → Prop} {m : StateM σ α}

theorem pure {a : α} (holds : ∀ s, pre s → P a s) : Ensures pre (Pure.pure a : StateM σ α) P :=
  holds

theorem bind {f : α → StateM σ β} {R : β → σ → Prop} (first : Ensures pre m P)
    (rest : ∀ a, Ensures (P a) (f a) R) : Ensures pre (m >>= f) R :=
  fun s holds => rest _ _ (first s holds)

theorem get : Ensures pre (MonadState.get : StateM σ σ) fun a s => a = s ∧ pre s :=
  fun _ holds => ⟨rfl, holds⟩

theorem modify {f : σ → σ} {R : PUnit → σ → Prop} (holds : ∀ s, pre s → R ⟨⟩ (f s)) :
    Ensures pre (modify f : StateM σ PUnit) R :=
  holds

theorem mono (ensures : Ensures pre m P) (weaker : ∀ a s, P a s → Q a s) : Ensures pre m Q :=
  fun s holds => weaker _ _ (ensures s holds)

theorem strengthen {pre' : σ → Prop} (ensures : Ensures pre m P) (stronger : ∀ s, pre' s → pre s) :
    Ensures pre' m P :=
  fun s holds => ensures s (stronger s holds)

theorem or {pre' : σ → Prop} (left : Ensures pre m P) (right : Ensures pre' m P) :
    Ensures (fun s => pre s ∨ pre' s) m P := by
  rintro s (holds | holds)
  · exact left s holds
  · exact right s holds

/-- Whatever a computation ensures, its result also came out of a state with the precondition. -/
theorem occurs (ensures : Ensures pre m P) :
    Ensures pre m fun a s' => P a s' ∧ ∃ s, pre s ∧ (m.run s).1 = a :=
  fun s holds => ⟨ensures s holds, s, holds, rfl⟩

/-- A fact that does not depend on the state can be assumed. -/
theorem assume {fact : Prop} (ensures : fact → Ensures pre m P) :
    Ensures (fun s => fact ∧ pre s) m P :=
  fun s ⟨holds, pres⟩ => ensures holds s pres

/-- A loop keeps an invariant that counts what each element covers as done. -/
theorem foldlM {step : β → α → StateM σ β} (covers : α → Set ι) (Inv : Set ι → β → σ → Prop)
    {xs : List α}
    (body : ∀ done b, ∀ x ∈ xs, Ensures (Inv done b) (step b x) (Inv (done ∪ covers x)))
    {done : Set ι} {b : β} :
    Ensures (Inv done b) (xs.foldlM step b) (Inv (done ∪ {i | ∃ x ∈ xs, i ∈ covers x})) := by
  induction xs generalizing done b with
  | nil => exact pure (by simp)
  | cons x xs ih =>
    rw [List.foldlM_cons]
    refine bind (body done b x (by simp)) fun next => ?_
    refine (ih fun done b y mem => body done b y (by simp [mem])).mono ?_
    intro last s inv
    have same : done ∪ {i | ∃ y ∈ x :: xs, i ∈ covers y} =
        done ∪ covers x ∪ {i | ∃ y ∈ xs, i ∈ covers y} := by
      ext i
      simp only [List.mem_cons, Set.mem_union, Set.mem_ofPred_eq]
      grind
    rwa [same]

/-- The same for a loop without state. -/
theorem foldl {step : β → α → β} (covers : α → Set ι) (Inv : Set ι → β → Prop) {xs : List α}
    (body : ∀ done b, Inv done b → ∀ x ∈ xs, Inv (done ∪ covers x) (step b x))
    {done : Set ι} {b : β} (start : Inv done b) :
    Inv (done ∪ {i | ∃ x ∈ xs, i ∈ covers x}) (xs.foldl step b) := by
  have loop : Ensures (fun _ : Unit => Inv done b)
      (xs.foldlM (fun b x => Pure.pure (step b x)) b)
      fun last _ => Inv (done ∪ {i | ∃ x ∈ xs, i ∈ covers x}) last :=
    foldlM covers (fun done b _ => Inv done b) fun done b x mem =>
      pure fun _ inv => body done b inv x mem
  have holds := loop () start
  rwa [List.foldlM_pure] at holds

end Ensures

namespace Always

variable {P Q : α → Prop} {m : StateM σ α}

theorem pure {a : α} (holds : P a) : Always (Pure.pure a : StateM σ α) P := fun _ => holds

theorem bind {f : α → StateM σ β} {R : β → Prop} (first : Always m P)
    (rest : ∀ a, P a → Always (f a) R) : Always (m >>= f) R :=
  fun s => rest _ (first s) (m.run s).2

theorem mono (always : Always m P) (weaker : ∀ a, P a → Q a) : Always m Q :=
  fun s => weaker _ (always s)

theorem any (m : StateM σ α) : Always m fun _ => True := fun _ => trivial

/-- Every result of a computation comes out of some state. -/
theorem occurs (m : StateM σ α) : Always m fun a => ∃ s, (m.run s).1 = a := fun s => ⟨s, rfl⟩

theorem ensures (always : Always m P) : Ensures (fun _ => True) m fun a _ => P a ∧ True :=
  fun s _ => ⟨always s, trivial⟩

end Always

end BusExporter.Foundation
