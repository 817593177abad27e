import BusExporter.Foundation.Machine

/-!
# Automata

An automaton reads events one by one and refuses an event that is not allowed where it
stands: it is a protocol for machines. A machine follows the automaton if every history of
its runs can be read. This is shown by a relation between the states of the two, which
every step keeps.
-/

namespace BusExporter.Foundation

/-- Where the automaton starts, and where an event leads if it is allowed. -/
structure Automaton (κ ε : Type) where
  start : κ
  next : κ → ε → Option κ

namespace Automaton

variable {σ ι κ ε : Type} {automaton : Automaton κ ε}

/-- Where a history leads, the newest event first. -/
def after (automaton : Automaton κ ε) : List ε → Option κ
  | [] => some automaton.start
  | event :: earlier => (automaton.after earlier).bind fun k => automaton.next k event

theorem after_append (events history : List ε) :
    automaton.after (events.reverse ++ history) =
      (automaton.after history).bind fun k => events.foldlM automaton.next k := by
  induction events generalizing history with
  | nil => exact (Option.bind_fun_some _).symm
  | cons event events ih =>
    rw [List.reverse_cons, List.append_assoc, List.singleton_append, ih, after, Option.bind_assoc]
    rfl

/-- What an event brings about and no event undoes holds ever after it. -/
theorem of_mem_history (P : κ → Prop) {event : ε}
    (enters : ∀ {k k'}, automaton.next k event = some k' → P k')
    (keeps : ∀ {k k' e}, P k → automaton.next k e = some k' → P k') {history : List ε}
    (mem : event ∈ history) {k : κ} (read : automaton.after history = some k) : P k := by
  induction history generalizing k with
  | nil => cases mem
  | cons newest history ih =>
    obtain ⟨before, earlier, next⟩ := Option.bind_eq_some_iff.mp read
    rcases List.mem_cons.mp mem with rfl | mem
    · exact enters next
    · exact keeps (ih mem earlier) next

/-- A machine follows an automaton if every step keeps its states related to those of the
automaton. -/
theorem of_reaches {machine : Machine σ ι ε} (Rel : σ → κ → Prop)
    (init : Rel machine.init automaton.start)
    (step : ∀ {s s' history input events k}, machine.Reaches s history →
      automaton.after history = some k → Rel s k → machine.step s input = some (s', events) →
        ∃ k', events.foldlM automaton.next k = some k' ∧ Rel s' k')
    {s : σ} {history : List ε} (reaches : machine.Reaches s history) :
    ∃ k, automaton.after history = some k ∧ Rel s k := by
  induction reaches with
  | init => exact ⟨automaton.start, rfl, init⟩
  | step earlier stepped ih =>
    obtain ⟨k, read, related⟩ := ih
    obtain ⟨k', next, related'⟩ := step earlier read related stepped
    refine ⟨k', ?_, related'⟩
    rw [after_append, read]
    exact next

end Automaton

end BusExporter.Foundation
