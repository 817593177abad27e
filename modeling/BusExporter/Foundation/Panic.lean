import BusExporter.Foundation.Always

/-!
# Computations that may panic

A call may change the state of the outside world and may panic: unwrapping a
missing value or slicing out of bounds ends the caller. `Returns m P` says that
from every state the computation comes back, with a result that satisfies `P`.
-/

namespace BusExporter.Foundation

structure Panic where
  message : String
  deriving DecidableEq, Repr

/-- A computation over the outside world that may panic. -/
abbrev Call (σ : Type) := StateT σ (Except Panic)

variable {σ α β : Type}

/-- A call of the outside world, which never panics. -/
def external (m : StateM σ α) : Call σ α := fun s => .ok (m.run s)

/-- `unwrap()` on an option. -/
def unwrap (value : Option α) : Except Panic α :=
  match value with
  | some a => .ok a
  | none => .error ⟨"called `Option::unwrap()` on a `None` value"⟩

/-- `&xs[start..stop]`, with `start` at most `stop`. -/
def slice (xs : List α) (start stop : ℕ) : Except Panic (List α) :=
  if stop ≤ xs.length then .ok ((xs.take stop).drop start)
  else .error ⟨s!"range end index {stop} out of range for slice of length {xs.length}"⟩

/-- From every state the computation returns, with a result that satisfies `P`. -/
def Returns (m : Call σ α) (P : α → Prop) : Prop := ∀ s, ∃ a s', m.run s = .ok (a, s') ∧ P a

namespace Returns

variable {P Q : α → Prop} {m : Call σ α}

theorem pure {a : α} (holds : P a) : Returns (Pure.pure a : Call σ α) P :=
  fun s => ⟨a, s, rfl, holds⟩

theorem bind {f : α → Call σ β} {R : β → Prop} (first : Returns m P)
    (rest : ∀ a, P a → Returns (f a) R) : Returns (m >>= f) R := by
  intro s
  obtain ⟨a, s', ran, holds⟩ := first s
  obtain ⟨b, s'', ran', holds'⟩ := rest a holds s'
  refine ⟨b, s'', ?_, holds'⟩
  rw [StateT.run_bind, ran]
  exact ran'

theorem mono (returns : Returns m P) (weaker : ∀ a, P a → Q a) : Returns m Q := by
  intro s
  obtain ⟨a, s', ran, holds⟩ := returns s
  exact ⟨a, s', ran, weaker a holds⟩

theorem external {m : StateM σ α} (always : Always m P) : Returns (external m) P :=
  fun s => ⟨_, _, rfl, always s⟩

theorem map {f : α → β} {R : β → Prop} (returns : Returns m P) (image : ∀ a, P a → R (f a)) :
    Returns (f <$> m) R := by
  intro s
  obtain ⟨a, s', ran, holds⟩ := returns s
  exact ⟨f a, s', by rw [StateT.run_map, ran]; rfl, image a holds⟩

theorem lift {x : Except Panic α} {a : α} (evaluates : x = .ok a) (holds : P a) :
    Returns (liftM x : Call σ α) P := by
  intro s
  rw [evaluates]
  exact ⟨a, s, rfl, holds⟩

end Returns

/-! ## What has returned -/

section Run

variable {m : Call σ α} {s s' : σ}

theorem run_bind_eq_ok {f : α → Call σ β} {b : β} :
    (m >>= f).run s = .ok (b, s') ↔
      ∃ a between, m.run s = .ok (a, between) ∧ (f a).run between = .ok (b, s') := by
  rw [StateT.run_bind]
  cases ran : m.run s with
  | error panic => exact ⟨fun h => (nomatch h), fun ⟨_, _, h, _⟩ => (nomatch h)⟩
  | ok next =>
    obtain ⟨a, between⟩ := next
    constructor
    · exact fun rest => ⟨a, between, rfl, rest⟩
    · rintro ⟨a', between', same, rest⟩
      cases same
      exact rest

theorem run_map_eq_ok {f : α → β} {b : β} :
    (f <$> m).run s = .ok (b, s') ↔ ∃ a, m.run s = .ok (a, s') ∧ f a = b := by
  rw [StateT.run_map]
  cases m.run s with
  | error panic => exact ⟨fun h => (nomatch h), fun ⟨_, h, _⟩ => (nomatch h)⟩
  | ok next =>
    obtain ⟨a, next⟩ := next
    constructor
    · intro same
      cases same
      exact ⟨a, rfl, rfl⟩
    · rintro ⟨a', same, rfl⟩
      cases same
      rfl

theorem run_lift_eq_ok {x : Except Panic α} {a : α} :
    (liftM x : Call σ α).run s = .ok (a, s') ↔ x = .ok a ∧ s' = s := by
  cases x with
  | error panic => exact ⟨fun h => (nomatch h), fun ⟨h, _⟩ => (nomatch h)⟩
  | ok b =>
    constructor
    · intro same
      cases same
      exact ⟨rfl, rfl⟩
    · rintro ⟨same, rfl⟩
      cases same
      rfl

theorem run_external_eq_ok {m : StateM σ α} {a : α} :
    (external m).run s = .ok (a, s') ↔ m.run s = (a, s') :=
  ⟨fun same => Except.ok.inj same, fun same => congrArg Except.ok same⟩

theorem run_pure_eq_ok {a b : α} :
    (pure a : Call σ α).run s = .ok (b, s') ↔ a = b ∧ s = s' := by
  constructor
  · intro same
    cases same
    exact ⟨rfl, rfl⟩
  · rintro ⟨rfl, rfl⟩
    rfl

end Run

@[simp]
theorem unwrap_some (a : α) : unwrap (some a) = .ok a := rfl

theorem slice_eq_ok {xs ys : List α} {start stop : ℕ} :
    slice xs start stop = .ok ys ↔ stop ≤ xs.length ∧ (xs.take stop).drop start = ys := by
  unfold slice
  split <;> simp_all

theorem slice_of_le {xs : List α} {start stop : ℕ} (inside : stop ≤ xs.length) :
    slice xs start stop = .ok ((xs.take stop).drop start) := if_pos inside

end BusExporter.Foundation
