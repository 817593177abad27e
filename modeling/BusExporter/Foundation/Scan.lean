import BusExporter.Foundation.HashMap
import BusExporter.Foundation.Machine

/-!
# Going through a map that changes

An iterator over the map of a machine takes the entries one by one, and the machine runs
on meanwhile. It meets no key twice and misses none that was there when it started. What
it has met in the end may have been the map in no state of the run, but each entry was
there at some moment between its start and its end.
-/

namespace BusExporter.Foundation

namespace Machine

variable {σ ι ε β : Type}

/-- An iteration in the middle of a run. It began in one state, the machine is in another one now,
and these are the entries that it has met so far. -/
inductive Scan (machine : Machine σ ι ε) (entries : σ → HashMap β) (s₀ : σ) (begun : List ε) :
    σ → List ε → HashMap β → Prop where
  | start : machine.Reaches s₀ begun → Scan machine entries s₀ begun s₀ begun ∅
  | step {s s' : σ} {history events : List ε} {seen : HashMap β} {input : ι} :
    Scan machine entries s₀ begun s history seen → machine.step s input = some (s', events) →
      Scan machine entries s₀ begun s' (events.reverse ++ history) seen
  /-- The iterator comes to an entry and takes it as it is now. -/
  | meet {s : σ} {history : List ε} {seen : HashMap β} {name : String} {entry : β} :
    Scan machine entries s₀ begun s history seen → name ∉ seen →
      (entries s).lookup name = some entry →
        Scan machine entries s₀ begun s history (seen.insert name entry)

/-- The iteration has met all that was there when it began. -/
def Covers (first seen : HashMap β) : Prop := ∀ name ∈ first, name ∈ seen

/-- At a moment between two others the map had this under the name. -/
def HadAt (machine : Machine σ ι ε) (entries : σ → HashMap β) (begun history : List ε)
    (name : String) (entry : Option β) (moment : List ε) : Prop :=
  begun <:+ moment ∧ moment <:+ history ∧
    ∃ s, machine.Reaches s moment ∧ (entries s).lookup name = entry

/-- A moment of the run between two others. -/
def Between (machine : Machine σ ι ε) (begun history moment : List ε) : Prop :=
  begun <:+ moment ∧ moment <:+ history ∧ ∃ s, machine.Reaches s moment

theorem HadAt.between {machine : Machine σ ι ε} {entries : σ → HashMap β}
    {begun history moment : List ε} {name : String} {entry : Option β}
    (had : machine.HadAt entries begun history name entry moment) :
    machine.Between begun history moment := by
  obtain ⟨after, before, s, reaches, -⟩ := had
  exact ⟨after, before, s, reaches⟩

namespace Scan

variable {machine : Machine σ ι ε} {entries : σ → HashMap β} {s₀ s : σ} {begun history : List ε}
  {seen : HashMap β}

theorem begins (scan : Scan machine entries s₀ begun s history seen) :
    machine.Reaches s₀ begun := by
  induction scan with
  | start reaches => exact reaches
  | step _ _ ih => exact ih
  | meet _ _ _ ih => exact ih

theorem reaches (scan : Scan machine entries s₀ begun s history seen) :
    machine.Reaches s history := by
  induction scan with
  | start reaches => exact reaches
  | step _ stepped ih => exact ih.step stepped
  | meet _ _ _ ih => exact ih

theorem grown (scan : Scan machine entries s₀ begun s history seen) : begun <:+ history := by
  induction scan with
  | start _ => exact List.suffix_rfl
  | step _ _ ih => exact ih.trans (List.suffix_append ..)
  | meet _ _ _ ih => exact ih

/-- What was met was there at some moment. -/
theorem hadAt_of_met (scan : Scan machine entries s₀ begun s history seen) {name : String}
    {entry : β} (met : seen.lookup name = some entry) :
    ∃ moment, machine.HadAt entries begun history name (some entry) moment := by
  induction scan with
  | start _ => simp at met
  | step _ _ ih =>
    obtain ⟨moment, after, before, had⟩ := ih met
    exact ⟨moment, after, before.trans (List.suffix_append ..), had⟩
  | @meet s history seen new now earlier _ stored ih =>
    by_cases same : name = new
    · subst same
      rw [AList.lookup_insert] at met
      cases met
      exact ⟨history, earlier.grown, List.suffix_rfl, s, earlier.reaches, stored⟩
    · -- What was met before stays as it was then.
      rw [AList.lookup_insert_ne same] at met
      exact ih met

/-- A complete iteration has every name as it was at some moment. -/
theorem hadAt (scan : Scan machine entries s₀ begun s history seen)
    (covers : Covers (entries s₀) seen) (name : String) :
    ∃ moment, machine.HadAt entries begun history name (seen.lookup name) moment := by
  cases found : seen.lookup name with
  | some entry => exact scan.hadAt_of_met found
  | none =>
    have unmet : name ∉ seen := AList.lookup_eq_none.mp found
    have absent : name ∉ entries s₀ := fun stored => unmet (covers name stored)
    exact ⟨begun, List.suffix_rfl, scan.grown, s₀, scan.begins, AList.lookup_eq_none.mpr absent⟩

/-- The iterator can come to any names of the present map. -/
theorem meetAll (scan : Scan machine entries s₀ begun s history seen) (names : List String)
    (stored : ∀ name ∈ names, name ∈ entries s) :
    ∃ seen', Scan machine entries s₀ begun s history seen' ∧ (∀ name ∈ seen, name ∈ seen') ∧
      ∀ name ∈ names, name ∈ seen' := by
  induction names generalizing seen with
  | nil => exact ⟨seen, scan, fun _ mem => mem, by simp⟩
  | cons name names ih =>
    rw [List.forall_mem_cons] at stored
    by_cases met : name ∈ seen
    · obtain ⟨seen', scan', kept, all⟩ := ih scan stored.2
      exact ⟨seen', scan', kept, List.forall_mem_cons.mpr ⟨kept name met, all⟩⟩
    · obtain ⟨entry, found⟩ := Option.isSome_iff_exists.mp (AList.lookup_isSome.mpr stored.1)
      obtain ⟨seen', scan', kept, all⟩ := ih (scan.meet met found) stored.2
      refine ⟨seen', scan', fun other mem => kept other ?_, List.forall_mem_cons.mpr ⟨?_, all⟩⟩
      · exact (AList.mem_insert _).mpr (.inr mem)
      · exact kept name ((AList.mem_insert _).mpr (.inl rfl))

/-- If nothing is removed from the map, the iteration can be completed without a step of the
machine. -/
theorem completes (scan : Scan machine entries s₀ begun s history seen)
    (kept : ∀ name ∈ entries s₀, name ∈ entries s) :
    ∃ seen', Scan machine entries s₀ begun s history seen' ∧ Covers (entries s₀) seen' := by
  obtain ⟨seen', scan', -, all⟩ := scan.meetAll (entries s₀).keys fun name mem =>
    kept name (AList.mem_keys.mp mem)
  exact ⟨seen', scan', fun name stored => all name (AList.mem_keys.mpr stored)⟩

end Scan

end Machine

end BusExporter.Foundation
