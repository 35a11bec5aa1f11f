import RblRpc.Tcp.StopOutcomes

/-!
# Front ends that cannot be stopped

`disconect_managers` holds the mutex of the back end while the slots that it calls lock the mutexes
of the front ends and wait for their io threads; the io threads lock the mutex of the back end for
every request, and `stop` locks it inside the mutex of its front end.

* `situation` — who waits for whom, an unnotified `wait_for_notification` included.
* `Behind` — a call that waits for the mutex of the back end, itself or through its io thread.
* `deadlock_iff` — **threads wait for each other exactly when the signal waits for such a call.**
-/

namespace RblRpc

open Transition Locking WaitFor

/-- What a thread of a front end can wait for: a mutex, or the end of a `shutdown_handler`. -/
inductive Awaited where
  | mutex (m : FrontEndMutex)
  | notification (i : ManagerId)
  deriving DecidableEq

namespace LifeWorld

variable {w w' : LifeWorld} {t u s : ServerThread} {i : ManagerId}

/-- The thread sleeps in `wait_for_notification`, and has not been notified. -/
def Asleep (w : LifeWorld) (t : ServerThread) (i : ManagerId) : Prop :=
  (∃ slots, w.point t = .disconnect i .asleep slots) ∧ (w.data.frontEnd i).notified = false

/-- Who holds what, and who waits for what; a notification that is still to come is with the io
thread. -/
def situation (w : LifeWorld) : Situation ServerThread Awaited where
  holds t
    | .mutex m => w.threads.owner m = some t
    | .notification i => t = .io i
  waits t
    | .mutex m => (w.point t).wants = some m
    | .notification i => w.Asleep t i

/-- The thread waits for the mutex of the back end, or sleeps while the io thread of the front end
waits for it. -/
def Behind (w : LifeWorld) (t : ServerThread) (i : ManagerId) : Prop :=
  (w.point t).wants = some .state ∨ w.Asleep t i ∧ (w.point (.io i)).wants = some .state

/-! ## Who holds what -/

/-- The thread that holds a notification object does not wait. -/
theorem not_waits_of_notification (h : LifePoint.discipline.Owned w.threads)
    (ht : w.threads.owner (.notification i) = some t) (a : Awaited) : ¬ w.situation.waits t a := by
  have hholds : (w.point t).holds (.notification i) = true := (h _ t).mp ht
  have hnot : ∀ p : LifePoint, p.holds (.notification i) = true →
      p.wants = none ∧ ∀ j slots, p ≠ .disconnect j .asleep slots := by
    intro p hp
    cases p with
    | disconnect j r slots =>
      cases r <;> simp [LifePoint.holds, LifePoint.holdsNotification] at hp <;>
        simp [LifePoint.wants]
    | io j r =>
      cases r <;> simp [LifePoint.holds, LifePoint.holdsNotification] at hp
      simp [LifePoint.wants]
    | _ => simp [LifePoint.holds, LifePoint.holdsNotification] at hp
  obtain ⟨hwants, hplace⟩ := hnot _ hholds
  cases a with
  | mutex m =>
    intro hw
    have hw : (w.point t).wants = some m := hw
    rw [hwants] at hw
    cases hw
  | notification j =>
    rintro ⟨⟨slots, hp⟩, -⟩
    exact hplace j slots hp

/-- A thread that holds the mutex of a front end and waits, waits for the mutex of the back end, for
the notification object, or for the io thread. -/
theorem waits_of_frontEnd (h : LifePoint.discipline.Owned w.threads)
    (ht : w.threads.owner (.frontEnd i) = some t) {a : Awaited} (hw : w.situation.waits t a) :
    a = .mutex .state ∨ a = .mutex (.notification i) ∨ a = .notification i := by
  have hholds : (w.point t).holds (.frontEnd i) = true := (h _ t).mp ht
  cases a with
  | mutex m =>
    have hw : (w.point t).wants = some m := hw
    revert hholds hw
    cases w.point t with
    | construct j r =>
      cases r <;> simp [LifePoint.holds, LifePoint.holdsFrontEnd, LifePoint.wants]
    | start j locked =>
      cases locked <;> simp [LifePoint.holds, LifePoint.holdsFrontEnd, LifePoint.wants]
    | disconnect j r slots =>
      cases r <;> simp +contextual [LifePoint.holds, LifePoint.holdsFrontEnd, LifePoint.wants]
    | _ => simp [LifePoint.holds, LifePoint.holdsFrontEnd]
  | notification j =>
    obtain ⟨⟨slots, hp⟩, -⟩ := hw
    rw [hp] at hholds
    simp only [LifePoint.holds, LifePoint.holdsFrontEnd] at hholds
    simp at hholds
    simp [hholds]

/-- A call of `disconnect_from_backend` is not an io thread. -/
theorem ne_io (h : Settled w) {r : StopPoint} {slots : Option (List ManagerId)} {j : ManagerId}
    (ht : w.point t = .disconnect j r slots) (i : ManagerId) : t ≠ .io i := by
  intro hio
  obtain ⟨r', hr⟩ := (h.io t i).mpr hio
  rw [hr] at ht
  cases ht

/-- The signal holds the mutex of the back end while it calls a slot. -/
theorem owner_of_signalled (h : Settled w) {r : StopPoint} {slots : List ManagerId}
    (hs : w.point s = .disconnect i r (some slots)) : w.threads.owner .state = some s := by
  refine (h.owned _ s).mpr ?_
  show (w.point s).holds .state = true
  rw [hs]
  rfl

/-- A thread that holds the mutex of the back end waits in the signal, or for a mutex that no
waiting thread holds. -/
theorem waits_of_state (h : Settled w) (ht : w.threads.owner .state = some s) {a : Awaited}
    (hw : w.situation.waits s a) : a = .mutex .state ∨ (∃ i, a = .mutex (.notification i)) ∨
      (∃ i, w.point s = .construct i .mutexLock ∧ a = .mutex (.frontEnd i)) ∨
      (∃ i slots, w.point s = .disconnect i .lock (some slots) ∧ a = .mutex (.frontEnd i)) ∨
      ∃ i slots, w.point s = .disconnect i .asleep (some slots) ∧ a = .notification i := by
  have hholds : (w.point s).holds .state = true := (h.owned _ s).mp ht
  cases a with
  | mutex m =>
    have hw : (w.point s).wants = some m := hw
    generalize w.point s = p at hholds hw
    cases p with
    | construct j r =>
      cases r <;> cases hw
      · exact .inl rfl
      · exact .inr (.inr (.inl ⟨j, rfl, rfl⟩))
    | disconnect j r slots =>
      cases r with
      | lock =>
        cases hw
        cases slots with
        | none => simp [LifePoint.holds, LifePoint.holdsState] at hholds
        | some slots => exact .inr (.inr (.inr (.inl ⟨j, slots, rfl, rfl⟩)))
      | connectedLock | disconnectLock => cases hw; exact .inl rfl
      | waitLock | wakeLock => cases hw; exact .inr (.inl ⟨j, rfl⟩)
      | _ => cases hw
    | managers r => cases r <;> cases hw; exact .inl rfl
    | accepting value locked => cases locked <;> cases hw; exact .inl rfl
    | answer j r => cases r <;> cases hw; exact .inl rfl
    | io j r =>
      cases r with
      | startLock | endLock => cases hw; exact .inl rfl
      | notifyLock => cases hw; exact .inr (.inl ⟨j, rfl⟩)
      | _ => cases hw
    | idle => cases hw
    | start j locked => cases hholds
  | notification j =>
    obtain ⟨⟨slots, hp⟩, -⟩ := hw
    rw [hp] at hholds
    cases slots with
    | none => cases hholds
    | some slots => exact .inr (.inr (.inr (.inr ⟨j, slots, hp, rfl⟩)))

/-- An io thread waits for the mutex of the back end, or for its notification object. -/
theorem waits_of_io (h : Settled w) {a : Awaited} (hw : w.situation.waits (.io i) a) :
    a = .mutex .state ∨ a = .mutex (.notification i) := by
  obtain ⟨r, hr⟩ := (h.io (.io i) i).mpr rfl
  cases a with
  | mutex m =>
    have hw : (w.point (.io i)).wants = some m := hw
    rw [hr] at hw
    cases r <;> simp_all [LifePoint.wants]
  | notification j =>
    obtain ⟨⟨slots, hp⟩, -⟩ := hw
    rw [hr] at hp
    cases hp

/-! ## Deadlocks -/

section

variable {S : Set ServerThread}

/-- In a deadlock nobody waits for a notification object. -/
theorem blocked (h : Settled w) (hS : w.situation.Deadlock S) (ht : t ∈ S) :
    ∃ t' ∈ S, t ≠ t' ∧ ∃ a, w.situation.waits t a ∧ w.situation.holds t' a ∧
      ∀ i, a ≠ .mutex (.notification i) := by
  obtain ⟨t', ht', hne, a, hw, hh⟩ := hS.2 t ht
  refine ⟨t', ht', hne, a, hw, hh, ?_⟩
  rintro i rfl
  obtain ⟨-, -, -, a', hw', -⟩ := hS.2 t' ht'
  exact not_waits_of_notification h.owned hh a' hw'

/-- An io thread in a deadlock waits for the mutex of the back end. -/
theorem io_blocked (h : Settled w) (hS : w.situation.Deadlock S) (hi : .io i ∈ S) :
    (w.point (.io i)).wants = some .state ∧ ∃ s ∈ S, w.threads.owner .state = some s := by
  obtain ⟨s, hs, -, a, hw, hh, hnot⟩ := blocked h hS hi
  rcases waits_of_io h hw with rfl | rfl
  · exact ⟨hw, s, hs, hh⟩
  · exact absurd rfl (hnot i)

/-- The holder of the mutex of a front end in a deadlock is behind the mutex of the back end. -/
theorem frontEnd_blocked (h : Settled w) (hS : w.situation.Deadlock S) (hu : u ∈ S)
    (howner : w.threads.owner (.frontEnd i) = some u) :
    w.Behind u i ∧ ∃ s ∈ S, w.threads.owner .state = some s := by
  obtain ⟨s, hs, -, a, hw, hh, hnot⟩ := blocked h hS hu
  rcases waits_of_frontEnd h.owned howner hw with rfl | rfl | rfl
  · exact ⟨.inl hw, s, hs, hh⟩
  · exact absurd rfl (hnot i)
  · obtain rfl : s = .io i := hh
    obtain ⟨hio, hstate⟩ := io_blocked h hS hs
    exact ⟨.inr ⟨hw, hio⟩, hstate⟩

/-- The holder of the mutex of the back end is part of every deadlock. -/
theorem state_blocked (h : Settled w) (hS : w.situation.Deadlock S) :
    ∃ s ∈ S, w.threads.owner .state = some s := by
  obtain ⟨t, ht⟩ := hS.1
  obtain ⟨t', ht', -, a, hw, hh, hnot⟩ := blocked h hS ht
  cases a with
  | mutex m =>
    cases m with
    | state => exact ⟨t', ht', hh⟩
    | frontEnd i => exact (frontEnd_blocked h hS ht' hh).2
    | notification i => exact absurd rfl (hnot i)
  | notification i =>
    obtain rfl : t' = .io i := hh
    exact (io_blocked h hS ht').2

end

/-- The signal cannot go on: the mutex of the front end it calls is held by a call behind the mutex
of the back end, or its own call is. -/
def SignalBlocked (w : LifeWorld) : Prop :=
  ∃ s i slots,
    (w.point s = .disconnect i .lock (some slots) ∧
      ∃ u, w.threads.owner (.frontEnd i) = some u ∧ w.Behind u i) ∨
    w.point s = .disconnect i .asleep (some slots) ∧ w.Behind s i

/-- A front end under construction is nobody else's. -/
theorem not_owner_of_construct (h : Settled w) (hs : w.point s = .construct i .mutexLock) :
    w.threads.owner (.frontEnd i) = none := by
  cases howner : w.threads.owner (.frontEnd i) with
  | none => rfl
  | some u =>
    have hholds : (w.point u).holds (.frontEnd i) = true := (h.owned _ u).mp howner
    have hnot := (h.building s i _ hs).2
    cases hp : w.point u with
    | construct j r =>
      rw [hp] at hholds
      simp only [LifePoint.holds, LifePoint.holdsFrontEnd] at hholds
      have hj : r = .connect ∧ j = i := by
        split at hholds <;> simp_all
      obtain ⟨rfl, rfl⟩ := hj
      obtain rfl := h.builder s u j _ _ hs hp
      rw [hs] at hp
      cases hp
    | start j locked =>
      rw [hp] at hholds
      have hj : j = i := by
        cases locked <;> simp_all [LifePoint.holds, LifePoint.holdsFrontEnd]
      subst hj
      rw [h.starts u j locked hp] at hnot
      cases hnot
    | disconnect j r slots =>
      rw [hp] at hholds
      have hj : j = i := by
        simp only [LifePoint.holds, LifePoint.holdsFrontEnd] at hholds
        split at hholds <;> simp_all
      subst hj
      rw [(h.calls u j r slots hp).1] at hnot
      cases hnot
    | _ =>
      rw [hp] at hholds
      cases hholds

/-- **The exact condition of a deadlock.** -/
theorem Settled.signalBlocked_iff (h : Settled w) :
    (∃ S, w.situation.Deadlock S) ↔ w.SignalBlocked := by
  constructor
  · rintro ⟨S, hS⟩
    obtain ⟨s, hs, howner⟩ := state_blocked h hS
    obtain ⟨t', ht', hne, a, hw, hh, hnot⟩ := blocked h hS hs
    rcases waits_of_state h howner hw with rfl | ⟨i, rfl⟩ | ⟨i, hp, rfl⟩ | ⟨i, slots, hp, rfl⟩ |
      ⟨i, slots, hp, rfl⟩
    · exact absurd (Option.some.inj (howner.symm.trans hh)) hne
    · exact absurd rfl (hnot i)
    · have hh : w.threads.owner (.frontEnd i) = some t' := hh
      rw [not_owner_of_construct h hp] at hh
      cases hh
    · exact ⟨s, i, slots, .inl ⟨hp, t', hh, (frontEnd_blocked h hS ht' hh).1⟩⟩
    · obtain rfl : t' = .io i := hh
      exact ⟨s, i, slots, .inr ⟨hp, .inr ⟨hw, (io_blocked h hS ht').1⟩⟩⟩
  · rintro ⟨s, i, slots, ⟨hp, u, howner, hu⟩ | ⟨hp, hs⟩⟩
    · have hstate := owner_of_signalled h hp
      have hsu : s ≠ u := by
        rintro rfl
        have hholds : (w.point s).holds (.frontEnd i) = true := (h.owned _ s).mp howner
        rw [hp] at hholds
        cases hholds
      have hwaits : w.situation.Blocks u s :=
        ⟨hsu, .mutex (.frontEnd i), by show (w.point s).wants = _; rw [hp]; rfl, howner⟩
      rcases hu with hu | ⟨hasleep, hio⟩
      · exact ⟨_, w.situation.deadlock_pair hwaits ⟨hsu.symm, .mutex .state, hu, hstate⟩⟩
      · -- the signal, the call that sleeps, and the io thread
        refine ⟨{s, u, .io i}, ⟨s, by simp⟩, ?_⟩
        rintro t (rfl | rfl | rfl)
        · exact ⟨u, by simp, hwaits⟩
        · obtain ⟨slots', hp'⟩ := hasleep.1
          exact ⟨.io i, by simp, ne_io h hp' i, .notification i, hasleep, rfl⟩
        · exact ⟨s, by simp, (ne_io h hp i).symm, .mutex .state, hio, hstate⟩
    · have hstate := owner_of_signalled h hp
      rcases hs with hwants | ⟨hasleep, hio⟩
      · rw [hp] at hwants
        cases hwants
      · exact ⟨_, w.situation.deadlock_pair
          ⟨ne_io h hp i, .notification i, hasleep, rfl⟩
          ⟨(ne_io h hp i).symm, .mutex .state, hio, hstate⟩⟩

/-- **Threads wait for each other exactly when the signal is blocked.**  In every state of every run
some threads are in a deadlock, with the sleep in `wait_for_notification` as a wait for the io
thread, if and only if the signal waits for a call that is behind the mutex it holds.  The loop of
`shutdown_handler` over idle connections is taken to be sound. -/
theorem deadlock_iff (h : lifeCycleMachine.Reaches init w) :
    (∃ S, w.situation.Deadlock S) ↔ w.SignalBlocked :=
  (h.invariant (I := Settled) (fun _ _ _ hs hg hf => hs.kept hg hf) settled_init).signalBlocked_iff

/-- The io thread reads a request when thread 1 signals the front end. -/
def crossed : List LifeLabel :=
  opening ++ [handles 0 (.completed .header true), handles 0 (.completed .body true)] ++
    .start 1 .managers :: actions (.user 1) 10

/-- **A request and the shutdown wait for each other.** -/
theorem deadlock_iff_sample : ∃ w : LifeWorld, lifeCycleMachine.Reaches init w ∧
    ∃ S, w.situation.Deadlock S := by
  obtain ⟨w, hrun, hobs⟩ := lifeCycleMachine.exec_observed init crossed
    (fun w => (w.point (.user 1), (w.data.frontEnd 0).notified, (w.point (.io 0)).wants))
    (a := (.disconnect 0 .asleep (some []), false, some .state)) (by decide +kernel)
    (by decide +kernel)
  simp only [Prod.mk.injEq] at hobs
  obtain ⟨hpoint, hnotified, hio⟩ := hobs
  exact ⟨w, ⟨_, hrun⟩, (deadlock_iff ⟨_, hrun⟩).mpr
    ⟨_, 0, [], .inr ⟨hpoint, .inr ⟨⟨⟨_, hpoint⟩, hnotified⟩, hio⟩⟩⟩⟩

end LifeWorld

end RblRpc
