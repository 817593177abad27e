import BusExporter.Foundation.Always

/-!
# Histories

The events of a run so far, the newest first. What has to hold before each event
is `Throughout`; that something happened and nothing has spoiled it since is
`Since`.
-/

namespace BusExporter.Foundation

variable {ε : Type*}

/-- Every event of the history happened in an admissible past. -/
def Throughout (admissible : ε → List ε → Prop) (history : List ε) : Prop :=
  ∀ later event earlier, history = later ++ event :: earlier → admissible event earlier

@[simp]
theorem throughout_nil (admissible : ε → List ε → Prop) : Throughout admissible [] := by
  intro later event earlier split
  simp at split

@[simp]
theorem throughout_cons (admissible : ε → List ε → Prop) (event : ε) (history : List ε) :
    Throughout admissible (event :: history) ↔
      admissible event history ∧ Throughout admissible history := by
  constructor
  · exact fun all => ⟨all [] event history rfl,
      fun later e earlier split => all (event :: later) e earlier (by rw [split]; rfl)⟩
  · rintro ⟨newest, all⟩ later e earlier split
    rcases List.cons_eq_append_iff.mp split with ⟨-, same⟩ | ⟨rest, -, split⟩
    · rw [List.cons.injEq] at same
      rw [same.1, same.2]
      exact newest
    · exact all rest e earlier split

instance decidableThroughout (admissible : ε → List ε → Prop)
    [∀ event history, Decidable (admissible event history)] :
    (history : List ε) → Decidable (Throughout admissible history)
  | [] => .isTrue (throughout_nil _)
  | event :: history =>
    have := decidableThroughout admissible history
    decidable_of_iff _ (throughout_cons admissible event history).symm

/-- Events that are admissible in every past can be appended. -/
theorem Throughout.append {admissible : ε → List ε → Prop} {events history : List ε}
    (harmless : ∀ event ∈ events, ∀ past, admissible event past)
    (all : Throughout admissible history) : Throughout admissible (events ++ history) := by
  induction events with
  | nil => exact all
  | cons event events ih =>
    rw [List.cons_append, throughout_cons]
    exact ⟨harmless event (by simp) _, ih fun e mem => harmless e (by simp [mem])⟩

/-- Some event was a `good` one, and no event since then was a `bad` one. -/
def Since (good bad : ε → Prop) : List ε → Prop
  | [] => False
  | event :: earlier => good event ∨ (¬ bad event ∧ Since good bad earlier)

instance decidableSince (good bad : ε → Prop) [DecidablePred good] [DecidablePred bad] :
    (history : List ε) → Decidable (Since good bad history)
  | [] => .isFalse id
  | event :: earlier =>
    have := decidableSince good bad earlier
    inferInstanceAs (Decidable (good event ∨ (¬ bad event ∧ Since good bad earlier)))

variable {good bad : ε → Prop}

@[simp]
theorem since_nil : ¬ Since good bad [] := id

@[simp]
theorem since_cons (event : ε) (earlier : List ε) :
    Since good bad (event :: earlier) ↔
      good event ∨ (¬ bad event ∧ Since good bad earlier) :=
  Iff.rfl

end BusExporter.Foundation
