import Mathlib

/-!
# Fallible checks

A validator is a sequence of checks that stops at the first failure. The lemmas
below turn "the whole sequence succeeded" into the conjunction of what the
single checks ask for, so that a validator is read off once and its callers
never unfold it.
-/

namespace BusExporter.Foundation

variable {ε α β : Type}

/-- Fail with `e` when the condition holds. -/
def bailIf (condition : Prop) [Decidable condition] (e : ε) : Except ε Unit :=
  if condition then .error e else .ok ()

@[simp]
theorem bailIf_eq_ok (condition : Prop) [Decidable condition] (e : ε) :
    bailIf condition e = .ok () ↔ ¬ condition := by
  unfold bailIf
  split <;> simp_all

/-- Make a check only under a condition. -/
def checkWhen (condition : Prop) [Decidable condition] (check : Except ε Unit) : Except ε Unit :=
  if condition then check else .ok ()

@[simp]
theorem checkWhen_eq_ok (condition : Prop) [Decidable condition] (check : Except ε Unit) :
    checkWhen condition check = .ok () ↔ (condition → check = .ok ()) := by
  unfold checkWhen
  split <;> simp_all

/-- Check an optional value where it is present. -/
def checkSome (value : Option α) (check : α → Except ε Unit) : Except ε Unit :=
  match value with
  | none => .ok ()
  | some a => check a

@[simp]
theorem checkSome_eq_ok (value : Option α) (check : α → Except ε Unit) :
    checkSome value check = .ok () ↔ ∀ a, value = some a → check a = .ok () := by
  cases value <;> simp [checkSome]

/-- A sequence of two checks succeeds exactly when both do. -/
@[simp]
theorem then_eq_ok (first second : Except ε Unit) :
    (do first; second) = .ok () ↔ first = .ok () ∧ second = .ok () := by
  cases first with
  | error e => simp [bind, Except.bind]
  | ok a => simp [bind, Except.bind]

/-- A sequence succeeds exactly when its first part does and the rest succeeds on the result. -/
theorem bind_eq_ok (first : Except ε α) (rest : α → Except ε β) (b : β) :
    first >>= rest = .ok b ↔ ∃ a, first = .ok a ∧ rest a = .ok b := by
  cases first with
  | error e => simp [bind, Except.bind]
  | ok a => simp [bind, Except.bind]

/-- Checking every element of a list succeeds exactly when every check does. -/
@[simp]
theorem forM_eq_ok (xs : List α) (check : α → Except ε Unit) :
    xs.forM check = .ok () ↔ ∀ x ∈ xs, check x = .ok () := by
  induction xs with
  | nil => simp [pure, Except.pure]
  | cons x xs ih =>
    change (do check x; xs.forM check) = _ ↔ _
    rw [then_eq_ok, ih, List.forall_mem_cons]

/-- What a traversal yields comes from an element of the list. -/
theorem mem_of_mapM_eq_ok {xs : List α} {ys : List β} {f : α → Except ε β}
    (traversed : xs.mapM f = .ok ys) {y : β} (mem : y ∈ ys) : ∃ x ∈ xs, f x = .ok y := by
  induction xs generalizing ys with
  | nil =>
    cases traversed
    simp at mem
  | cons x xs ih =>
    rw [List.mapM_cons, bind_eq_ok] at traversed
    obtain ⟨y', first, traversed⟩ := traversed
    obtain ⟨ys', rest, same⟩ := (bind_eq_ok _ _ _).mp traversed
    cases same
    rcases List.mem_cons.mp mem with rfl | mem
    · exact ⟨x, by simp, first⟩
    · obtain ⟨x', inRest, yields⟩ := ih rest mem
      exact ⟨x', by simp [inRest], yields⟩

theorem map_mapM {γ : Type} (xs : List α) (f : α → Except ε β) (h : β → γ) :
    (xs.mapM f).map (List.map h) = xs.mapM fun x => (f x).map h := by
  induction xs with
  | nil => rfl
  | cons x xs ih =>
    rw [List.mapM_cons, List.mapM_cons, ← ih]
    cases f x with
    | error e => rfl
    | ok y => cases xs.mapM f <;> rfl

/-- Related elements that yield the same up to a map make traversals that do, failures included. -/
theorem map_mapM_congr {γ δ : Type} {R : α → β → Prop} {xs : List α} {ys : List β}
    {f : α → Except ε γ} {g : β → Except ε γ} {h : γ → δ}
    (same : ∀ x y, R x y → (g y).map h = (f x).map h) (related : List.Forall₂ R xs ys) :
    (ys.mapM g).map (List.map h) = (xs.mapM f).map (List.map h) := by
  rw [map_mapM, map_mapM]
  induction related with
  | nil => rfl
  | cons first rest ih => rw [List.mapM_cons, List.mapM_cons, same _ _ first, ih]

/-- Everything in a list has a counterpart exactly when the list has a list of counterparts. -/
theorem exists_forall₂_iff (Finds : α → β → Prop) (xs : List α) :
    (∃ ys, List.Forall₂ Finds xs ys) ↔ ∀ x ∈ xs, ∃ y, Finds x y := by
  induction xs with
  | nil => simp
  | cons x xs ih =>
    rw [List.forall_mem_cons, ← ih]
    constructor
    · rintro ⟨_, _ | ⟨finds, findsRest⟩⟩
      exact ⟨⟨_, finds⟩, _, findsRest⟩
    · rintro ⟨⟨y, finds⟩, ys, findsRest⟩
      exact ⟨y :: ys, .cons finds findsRest⟩

/-- A loop over fallible steps, each of which goes on with what it finds, succeeds exactly when
every step finds something, and then does what the plain loop does with the finds. -/
theorem foldlM_eq_ok_iff {γ : Type} {step : β → α → Except ε β} {plain : β → γ → β}
    {Finds : α → γ → Prop}
    (stepped : ∀ x b b', step b x = .ok b' ↔ ∃ y, Finds x y ∧ b' = plain b y)
    (xs : List α) (b b' : β) :
    xs.foldlM step b = .ok b' ↔ ∃ ys, List.Forall₂ Finds xs ys ∧ b' = ys.foldl plain b := by
  induction xs generalizing b with
  | nil => simp [pure, Except.pure, eq_comm]
  | cons x xs ih =>
    rw [List.foldlM_cons, bind_eq_ok]
    constructor
    · rintro ⟨between, first, rest⟩
      obtain ⟨y, finds, rfl⟩ := (stepped _ _ _).mp first
      obtain ⟨ys, findsRest, rfl⟩ := (ih _).mp rest
      exact ⟨y :: ys, .cons finds findsRest, rfl⟩
    · rintro ⟨_, _ | ⟨finds, findsRest⟩, rfl⟩
      exact ⟨_, (stepped _ _ _).mpr ⟨_, finds, rfl⟩, (ih _).mpr ⟨_, findsRest, rfl⟩⟩

end BusExporter.Foundation
