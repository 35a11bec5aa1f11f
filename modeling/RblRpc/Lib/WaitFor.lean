import Mathlib.Data.Set.Insert
import Mathlib.Order.WellFounded

/-!
# Threads that wait for each other

What matters of a set of threads and mutexes for a deadlock: who holds a mutex, and who waits for
one.

* `Deadlock S` — each thread of `S` waits for a mutex that another thread of `S` holds.
* `not_deadlock_of_rank` — **there is none if threads only wait for threads of a higher rank.**
* `deadlock_pair` — two threads that wait for each other.
-/

namespace WaitFor

/-- Which mutexes the threads hold, and which they wait for. -/
structure Situation (T M : Type) where
  holds : T → M → Prop
  waits : T → M → Prop

namespace Situation

variable {T M : Type} (s : Situation T M)

/-- `t` waits for a mutex that `t'`, another thread, holds. -/
def Blocks (t' t : T) : Prop := t ≠ t' ∧ ∃ m, s.waits t m ∧ s.holds t' m

/-- Each thread of the set waits for a mutex that another thread of the set holds. -/
def Deadlock (S : Set T) : Prop := S.Nonempty ∧ ∀ t ∈ S, ∃ t' ∈ S, s.Blocks t' t

/-- **The rank rule.** -/
theorem not_deadlock_of_rank {R : Type} [LT R] [WellFoundedGT R] (rank : T → R)
    (h : ∀ t t', s.Blocks t' t → rank t < rank t') (S : Set T) : ¬ s.Deadlock S := by
  rintro ⟨⟨t, ht⟩, hblocked⟩
  have hnone : ∀ r : R, ∀ t ∈ S, rank t = r → False := by
    intro r
    induction r using WellFoundedGT.induction with
    | ind r ih =>
      rintro t ht rfl
      obtain ⟨t', ht', hb⟩ := hblocked t ht
      exact ih (rank t') (h t t' hb) t' ht' rfl
  exact hnone (rank t) t ht rfl

theorem deadlock_pair {t t' : T} (h : s.Blocks t' t) (h' : s.Blocks t t') :
    s.Deadlock {t, t'} := by
  refine ⟨⟨t, Set.mem_insert _ _⟩, ?_⟩
  rintro u (rfl | rfl)
  · exact ⟨t', Set.mem_insert_of_mem _ rfl, h⟩
  · exact ⟨t, Set.mem_insert _ _, h'⟩

end Situation

end WaitFor
