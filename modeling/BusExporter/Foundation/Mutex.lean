import Mathlib.Logic.Function.Basic

/-!
# Mutual exclusion

Tasks that take locks one after another. A lock is a flag; which task holds it is
not part of the flag but of the task's own state. Locks are exclusive if a lock
whose flag is down is held by nobody and no two tasks hold the same lock. Taking a
free lock, giving a held lock back and steps that do neither keep this.
-/

namespace BusExporter.Foundation

variable {Task Lock : Type*}

/-- A free lock has no holder, and no lock has two. -/
structure Exclusive (locked : Lock → Bool) (holds : Task → Lock → Prop) : Prop where
  free : ∀ lock, locked lock = false → ∀ task, ¬ holds task lock
  unique : ∀ lock task other, holds task lock → holds other lock → task = other

namespace Exclusive

variable {locked : Lock → Bool} {holds holds' : Task → Lock → Prop}

/-- Nobody holds a lock that is not held before. -/
theorem keep (exclusive : Exclusive locked holds)
    (kept : ∀ task lock, holds' task lock → holds task lock) : Exclusive locked holds' where
  free lock unlocked task held := exclusive.free lock unlocked task (kept task lock held)
  unique lock task other held held' :=
    exclusive.unique lock task other (kept task lock held) (kept other lock held')

variable [DecidableEq Lock] {task : Task} {lock : Lock}

/-- A task takes a free lock. -/
theorem acquire (exclusive : Exclusive locked holds) (unlocked : locked lock = false)
    (taken : ∀ other lock', holds' other lock' →
      holds other lock' ∨ other = task ∧ lock' = lock) :
    Exclusive (Function.update locked lock true) holds' where
  free lock' unlocked' other held := by
    by_cases same : lock' = lock
    · rw [same, Function.update_self] at unlocked'
      cases unlocked'
    · rw [Function.update_of_ne same] at unlocked'
      rcases taken other lock' held with before | ⟨-, new⟩
      · exact exclusive.free lock' unlocked' other before
      · exact same new
  unique lock' first second held held' := by
    rcases taken first lock' held with before | ⟨isTask, new⟩ <;>
      rcases taken second lock' held' with before' | ⟨isTask', new'⟩
    · exact exclusive.unique lock' first second before before'
    -- Nobody held the lock that is taken now.
    · exact absurd (new' ▸ before) (exclusive.free lock unlocked first)
    · exact absurd (new ▸ before') (exclusive.free lock unlocked second)
    · rw [isTask, isTask']

/-- A task gives a lock back that it held. -/
theorem release (exclusive : Exclusive locked holds) (held : holds task lock)
    (given : ∀ other lock', holds' other lock' → holds other lock' ∧ other ≠ task) :
    Exclusive (Function.update locked lock false) holds' where
  free lock' unlocked other held' := by
    obtain ⟨before, isOther⟩ := given other lock' held'
    by_cases same : lock' = lock
    · rw [same] at before
      exact isOther (exclusive.unique lock other task before held)
    · rw [Function.update_of_ne same] at unlocked
      exact exclusive.free lock' unlocked other before
  unique lock' first second held' held'' :=
    exclusive.unique lock' first second (given first lock' held').1 (given second lock' held'').1

end Exclusive

end BusExporter.Foundation
