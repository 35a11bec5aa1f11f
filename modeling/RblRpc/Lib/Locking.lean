import Mathlib.Logic.Function.Basic
import RblRpc.Lib.WaitFor

/-!
# Threads that lock mutexes

A thread is at a place of its program.  The next action there locks a mutex, or unlocks one, or
does neither; which mutexes a thread holds follows from its place.

* `Discipline` — what the places say about the mutexes.
* `Discipline.Leads` — from place to place just the mutex wanted is locked and the one released
  unlocked.
* `Discipline.Owned` — the owners of the mutexes are the threads at places that hold them.
* `Discipline.Owned.move` — **actions keep the owners right**, whatever the order of the threads.
-/

namespace Locking

/-- Of each place: the mutex that the next action locks, the one that it unlocks, and those held.
A thread can lock a recursive mutex that it holds. -/
structure Discipline (P M : Type) where
  wants : P → Option M
  releases : P → Option M
  holds : P → M → Bool
  recursive : M → Bool
  holds_of_releases : ∀ {p m}, releases p = some m → holds p m = true
  releases_of_wants : ∀ {p m}, wants p = some m → releases p = none

/-- The owners of the mutexes, and the places of the threads. -/
structure Threads (T P M : Type) where
  owner : M → Option T
  point : T → P

namespace Threads

variable {T P M : Type} [DecidableEq T] {s : Threads T P M} {t t' : T} {q : P}

/-- The thread goes on at `q` without an action on the mutexes. -/
def place (s : Threads T P M) (t : T) (q : P) : Threads T P M :=
  { s with point := Function.update s.point t q }

@[simp] theorem place_self : (s.place t q).point t = q := Function.update_self ..

theorem place_other (h : t' ≠ t) : (s.place t q).point t' = s.point t' :=
  Function.update_of_ne h ..

end Threads

namespace Discipline

variable {T P M : Type} (d : Discipline P M)

/-- From `p` to `q` the mutex wanted is locked, the one released is unlocked, and the others stay
as they are. -/
def Leads (p q : P) : Prop :=
  ∀ m, d.holds q m = true ↔ d.wants p = some m ∨ d.holds p m = true ∧ d.releases p ≠ some m

/-- The owners of the mutexes are the threads at places that hold them. -/
def Owned (s : Threads T P M) : Prop :=
  ∀ m t, s.owner m = some t ↔ d.holds (s.point t) m = true

variable {d} {s : Threads T P M} {t t' : T} {p q : P} {m : M}

/-- A mutex is with one thread. -/
theorem Owned.unique (h : d.Owned s) (ht : d.holds (s.point t) m = true)
    (ht' : d.holds (s.point t') m = true) : t = t' := by
  have howner := (h m t).mpr ht
  rw [(h m t').mpr ht'] at howner
  exact (Option.some.inj howner).symm

variable [DecidableEq T]

/-- Going on at a place that holds the same mutexes keeps the owners right. -/
theorem Owned.place (h : d.Owned s) (hsame : ∀ m, d.holds q m = d.holds (s.point t) m) :
    d.Owned (s.place t q) := by
  intro m u
  show s.owner m = some u ↔ _
  by_cases hu : u = t
  · subst hu
    rw [Threads.place_self, hsame m]
    exact h m u
  · rw [Threads.place_other hu]
    exact h m u

variable (d) in
/-- The thread can lock the mutex. -/
def free (s : Threads T P M) (t : T) (m : M) : Bool :=
  s.owner m = none || (d.recursive m && s.owner m = some t)

variable (d) in
/-- The mutex that the thread wants, if any, can be locked. -/
def ready (s : Threads T P M) (t : T) : Bool := (d.wants (s.point t)).all (d.free s t)

/-- A mutex that can be locked is held by no other thread. -/
theorem not_owner_of_free (hfree : d.free s t m = true) (hne : t' ≠ t) :
    s.owner m ≠ some t' := by
  simp only [free, Bool.or_eq_true, Bool.and_eq_true, decide_eq_true_eq] at hfree
  intro howner
  rcases hfree with h | ⟨-, h⟩
  · rw [howner] at h
    cases h
  · rw [howner] at h
    exact hne (Option.some.inj h)

/-- A thread waits while another one holds the mutex it wants. -/
theorem Owned.not_ready (h : d.Owned s) (hw : d.wants (s.point t) = some m)
    (ht' : d.holds (s.point t') m = true) (hne : t' ≠ t) : d.ready s t = false := by
  by_contra hready
  rw [Bool.not_eq_false, ready, hw] at hready
  exact not_owner_of_free hready hne ((h m t').mpr ht')

/-! ## Actions -/

variable [DecidableEq M]

omit [DecidableEq T] in
variable (d) in
/-- The owners after the action of `t` at `p`. -/
def ownerAfter (t : T) (p : P) (owner : M → Option T) : M → Option T :=
  match d.wants p, d.releases p with
  | some m, _ => Function.update owner m (some t)
  | none, some m => Function.update owner m none
  | none, none => owner

variable (d) in
/-- The thread takes an action that leads to `q`. -/
def move (s : Threads T P M) (t : T) (q : P) : Threads T P M where
  owner := d.ownerAfter t (s.point t) s.owner
  point := Function.update s.point t q

@[simp] theorem move_self : (d.move s t q).point t = q := Function.update_self ..

theorem move_other (h : t' ≠ t) : (d.move s t q).point t' = s.point t' :=
  Function.update_of_ne h ..

omit [DecidableEq T] in
theorem ownerAfter_self_iff (h : d.Owned s) (hleads : d.Leads (s.point t) q) :
    d.ownerAfter t (s.point t) s.owner m = some t ↔ d.holds q m = true := by
  rw [hleads m, ownerAfter]
  cases hw : d.wants (s.point t) with
  | some m₀ =>
    rw [d.releases_of_wants hw]
    dsimp only
    by_cases hm : m = m₀
    · subst hm
      simp
    · simp [Function.update_of_ne hm, h m t, Ne.symm hm]
  | none =>
    cases hr : d.releases (s.point t) with
    | none => simp [h m t]
    | some m₀ =>
      dsimp only
      by_cases hm : m = m₀
      · subst hm
        simp
      · simp [Function.update_of_ne hm, h m t, Ne.symm hm]

theorem ownerAfter_other_iff (h : d.Owned s) (hready : d.ready s t = true) (hne : t' ≠ t) :
    d.ownerAfter t (s.point t) s.owner m = some t' ↔ s.owner m = some t' := by
  rw [ownerAfter]
  cases hw : d.wants (s.point t) with
  | some m₀ =>
    dsimp only
    by_cases hm : m = m₀
    · subst hm
      have hfree : d.free s t m = true := by
        rw [ready, hw] at hready
        exact hready
      simp [Ne.symm hne, not_owner_of_free hfree hne]
    · simp [Function.update_of_ne hm]
  | none =>
    cases hr : d.releases (s.point t) with
    | none => rfl
    | some m₀ =>
      dsimp only
      by_cases hm : m = m₀
      · subst hm
        simp [(h m t).mpr (d.holds_of_releases hr), Ne.symm hne]
      · simp [Function.update_of_ne hm]

/-- **An action keeps the owners right.** -/
theorem Owned.move (h : d.Owned s) (hready : d.ready s t = true)
    (hleads : d.Leads (s.point t) q) : d.Owned (d.move s t q) := by
  intro m u
  by_cases hu : u = t
  · subst hu
    rw [move_self]
    exact ownerAfter_self_iff h hleads
  · rw [move_other hu, ← h m u]
    exact ownerAfter_other_iff h hready hu

end Discipline

end Locking
