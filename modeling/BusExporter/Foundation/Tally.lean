import BusExporter.Foundation.Always

/-!
# Counting calls

A call can be given a counter next to its state. `Tallies` says of a computation
whose calls have counters that it does what the plain computation does, and that
its counter grows by as much as a measure of its own: from `before` to the
`after` of its result. So a program that keeps a count of its calls can be
compared with the calls it really makes.
-/

namespace BusExporter.Foundation

variable {σ α β : Type}

/-- A call that counts itself. -/
def countCall (call : StateM σ α) : StateM (σ × ℕ) α := fun (s, calls) =>
  let answer := call.run s
  (answer.1, (answer.2, calls + 1))

/-- With counters, a computation does the same, and counts what its own measure says. -/
def Tallies (counted : StateM (σ × ℕ) α) (plain : StateM σ α) (before : ℕ) (after : α → ℕ) :
    Prop :=
  ∀ s calls, ∃ calls', counted.run (s, calls) = ((plain.run s).1, ((plain.run s).2, calls')) ∧
    calls' + before = calls + after (plain.run s).1

namespace Tallies

variable {counted : StateM (σ × ℕ) α} {plain : StateM σ α} {before : ℕ} {after : α → ℕ}

theorem pure {a : α} (same : before = after a) :
    Tallies (Pure.pure a : StateM (σ × ℕ) α) (Pure.pure a : StateM σ α) before after :=
  fun _ calls => ⟨calls, rfl, congrArg (calls + ·) same⟩

theorem bind {f : α → StateM (σ × ℕ) β} {g : α → StateM σ β} {last : β → ℕ}
    (first : Tallies counted plain before after)
    (rest : ∀ a, Tallies (f a) (g a) (after a) last) :
    Tallies (counted >>= f) (plain >>= g) before last := by
  intro s calls
  obtain ⟨calls', ran, balance⟩ := first s calls
  obtain ⟨calls'', ranOn, balanceOn⟩ := rest (plain.run s).1 (plain.run s).2 calls'
  refine ⟨calls'', ?_, ?_⟩
  · rw [StateT.run_bind, ran]
    exact ranOn
  · change calls'' + before = calls + last ((g (plain.run s).1).run (plain.run s).2).1
    omega

/-- A call, before which `before` calls were counted. -/
theorem call (before : ℕ) (plain : StateM σ α) :
    Tallies (countCall plain) plain before fun _ => before + 1 :=
  fun _ calls => ⟨calls + 1, rfl, Nat.add_right_comm calls 1 before⟩

theorem foldlM {step : β → α → StateM (σ × ℕ) β} {plainStep : β → α → StateM σ β}
    (measure : β → ℕ) {xs : List α}
    (body : ∀ b, ∀ x ∈ xs, Tallies (step b x) (plainStep b x) (measure b) measure) (b : β) :
    Tallies (xs.foldlM step b) (xs.foldlM plainStep b) (measure b) measure := by
  induction xs generalizing b with
  | nil => exact pure rfl
  | cons x xs ih =>
    rw [List.foldlM_cons, List.foldlM_cons]
    exact (body b x (by simp)).bind fun next => ih (fun b y mem => body b y (by simp [mem])) next

end Tallies

/-- A loop whose steps raise a measure by at most their costs raises it by at most the sum. -/
theorem Always.foldlM_le {step : β → α → StateM σ β} (measure : β → ℕ) (cost : α → ℕ)
    {xs : List α}
    (body : ∀ b, ∀ x ∈ xs, Always (step b x) fun next => measure next ≤ measure b + cost x)
    (b : β) :
    Always (xs.foldlM step b) fun last => measure last ≤ measure b + (xs.map cost).sum := by
  induction xs generalizing b with
  | nil => exact .pure (by simp)
  | cons x xs ih =>
    rw [List.foldlM_cons]
    refine (body b x (by simp)).bind fun next raised => ?_
    refine (ih (fun b y mem => body b y (by simp [mem])) next).mono fun last total => ?_
    rw [List.map_cons, List.sum_cons]
    omega

/-- A loop whose steps raise a measure within bounds raises it within the sums of the bounds. -/
theorem Ensures.foldlM_between {step : β → α → StateM σ β} {kept : σ → Prop} (measure : β → ℕ)
    (low high : α → ℕ) {xs : List α}
    (body : ∀ b, ∀ x ∈ xs, Ensures kept (step b x) fun next s =>
      (measure b + low x ≤ measure next ∧ measure next ≤ measure b + high x) ∧ kept s)
    (b : β) :
    Ensures kept (xs.foldlM step b) fun last s =>
      (measure b + (xs.map low).sum ≤ measure last ∧
        measure last ≤ measure b + (xs.map high).sum) ∧ kept s := by
  induction xs generalizing b with
  | nil => exact .pure fun s keeps => ⟨by simp, keeps⟩
  | cons x xs ih =>
    rw [List.foldlM_cons]
    refine (body b x (by simp)).bind fun next => .assume fun raised => ?_
    refine (ih (fun b y mem => body b y (by simp [mem])) next).mono fun last s total => ?_
    rw [List.map_cons, List.sum_cons, List.map_cons, List.sum_cons]
    exact ⟨by omega, total.2⟩

end BusExporter.Foundation
