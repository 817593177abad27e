import BusExporter.Foundation.Duration

/-!
# Result slots

Results that arrive out of order are stored into slots, one for each input, and
read out at the end. `Filled good done slots` says that every input in `done`
has a result that is good for it. Storing a good result keeps this and adds the
input to `done`, whatever the other slots hold.
-/

namespace BusExporter.Foundation

variable {α : Type*}

/-- Every slot whose index is in `done` holds a good result. -/
def Filled (good : ℕ → α → Prop) (done : Set ℕ) (slots : List (Option α)) : Prop :=
  ∀ i ∈ done, ∃ a, slots[i]? = some (some a) ∧ good i a

namespace Filled

variable {good : ℕ → α → Prop} {done more : Set ℕ} {slots : List (Option α)}

theorem empty (good : ℕ → α → Prop) (slots : List (Option α)) : Filled good ∅ slots :=
  fun _ mem => absurd mem (Set.notMem_empty _)

/-- Storing a good result fills its slot and spoils no other. -/
theorem set (filled : Filled good done slots) {i : ℕ} (inside : i < slots.length) {a : α}
    (isGood : good i a) : Filled good (done ∪ {i}) (slots.set i (some a)) := by
  intro j mem
  by_cases same : j = i
  · subst same
    exact ⟨a, by simp [inside], isGood⟩
  · obtain ⟨b, stored, goodB⟩ := filled j (mem.resolve_right same)
    exact ⟨b, by rw [List.getElem?_set_ne (Ne.symm same)]; exact stored, goodB⟩

end Filled

end BusExporter.Foundation
