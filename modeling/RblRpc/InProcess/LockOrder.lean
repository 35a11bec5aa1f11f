import Mathlib.Data.Fintype.EquivFin
import Mathlib.Order.Fin.Basic
import RblRpc.InProcess.Locks

/-!
# The order of the locks

`invoke` and `disconnect_from_backend` lock the mutex of the invoker first and that of the back end
inside; `disconect_managers` locks that of the back end first, and the slots it calls lock those of
the invokers.

* `Owned` — the owners of the mutexes are the threads inside the guarded blocks.
* `KeepsOrder` — no thread is inside the guarded block of an invoker that is to be signalled.
* `no_lock_cycle` — **then no set of threads waits for each other.**
* `lock_cycle` — **a thread in `disconnect_from_backend` and the shutdown can.**
-/

namespace RblRpc

open Transition WaitFor

/-! ## What an action does -/

namespace Point

variable {p : Point} {m : Mutex} {i : ManagerId}

theorem holds_of_releases (h : p.releases = some m) : p.holds m = true := by
  revert h
  fun_cases releases p <;> intro h <;> cases h <;>
    simp [holds, holdsState, holdsInvoker, holdsNotification]

theorem releases_of_wants (h : p.wants = some m) : p.releases = none := by
  revert h
  fun_cases wants p <;> intro h <;> first | rfl | cases h

theorem holdsState_of_signalling (h : p.signalling = true) : p.holdsState = true := by
  revert h
  fun_cases signalling p <;> intro h <;> first | rfl | cases h

/-- From `p` to `q` the mutex wanted is locked, the one released is unlocked, and the others stay
as they are. -/
def Leads (p q : Point) : Prop :=
  ∀ m, q.holds m = true ↔ p.wants = some m ∨ p.holds m = true ∧ p.releases ≠ some m

end Point

namespace InProcess

variable {accepts : Bool} {d : InProcess} {p : Point} {i : ManagerId}

section

attribute [local simp] Point.wants Point.holds Point.holdsState Point.holdsInvoker
  Point.holdsNotification Point.releases

theorem actInvoke_leads (i : ManagerId) (accepts : Bool) (d : InProcess) (p : InvokePoint) :
    (Point.invoke i p).Leads (d.actInvoke i accepts p).1 := by
  intro m
  cases p <;> simp only [actInvoke] <;> (try split) <;> cases m <;> simp

theorem actDisconnect_leads (i : ManagerId) (slots : Option (List ManagerId)) (d : InProcess)
    (p : DisconnectPoint) : (Point.disconnect i p slots).Leads (d.actDisconnect i slots p).1 := by
  intro m
  cases p <;> cases slots <;> simp only [actDisconnect] <;> cases m <;> simp

theorem actOperator_leads (i : ManagerId) (d : InProcess) (p : OperatorPoint) :
    (Point.operator i p).Leads (d.actOperator i p).1 := by
  intro m
  cases p <;> simp only [actOperator] <;> cases m <;> simp

theorem actShutdown_leads (d : InProcess) (p : ShutdownPoint) :
    (Point.shutdown p).Leads (d.actShutdown p).1 := by
  intro m
  fun_cases actShutdown d p <;> (try split) <;> cases m <;> simp

/-- **An action** locks the mutex wanted, or unlocks the one released. -/
theorem act_leads (accepts : Bool) (d : InProcess) (p : Point) : p.Leads (d.act accepts p).1 := by
  cases p with
  | idle => intro m; cases m <;> simp [act]
  | register i locked => intro m; cases locked <;> cases m <;> simp [act, actRegister]
  | invoke i p => exact actInvoke_leads i accepts d p
  | disconnect i p slots => exact actDisconnect_leads i slots d p
  | operator i p => exact actOperator_leads i d p
  | shutdown p => exact actShutdown_leads d p

/-- The slots change under the back end's mutex. -/
theorem act_slots_of_not_holds (h : p.holdsState = false) :
    (d.act accepts p).2.state.slots = d.state.slots := by
  revert h
  cases p with
  | idle => intro _; rfl
  | register i locked => cases locked <;> simp [act, actRegister]
  | invoke i p =>
    cases p <;> simp only [act, actInvoke, Point.holdsState] <;> (try split) <;> simp
  | disconnect i p slots => cases p <;> cases slots <;> simp [act, actDisconnect]
  | operator i p => cases p <;> simp [act, actOperator]
  | shutdown p =>
    simp only [act]
    fun_cases actShutdown d p <;> simp

end

/-- In the signal slots are only disconnected. -/
theorem act_slots_of_signalling (h : p.signalling = true)
    (hi : i ∈ (d.act accepts p).2.state.slots) : i ∈ d.state.slots := by
  revert h
  fun_cases Point.signalling p <;> intro h
  · rename_i slots
    cases slots with
    | nil => exact hi
    | cons j slots =>
      simp only [act, actShutdown] at hi
      split at hi <;> exact hi
  · rename_i j q slots
    cases q <;> first | exact hi | exact List.mem_of_mem_erase hi
  · cases h

/-- The signal is entered from `managers`. -/
theorem act_signalling (h : (d.act accepts p).1.signalling = true) :
    p.signalling = true ∨ p = .shutdown .managers := by
  revert h
  cases p with
  | idle => intro h; cases h
  | register i locked => cases locked <;> intro h <;> cases h
  | invoke i p => cases p <;> simp only [act, actInvoke] <;> (try split) <;> intro h <;> cases h
  | disconnect i p slots =>
    cases slots with
    | some slots => intro _; exact .inl rfl
    | none => cases p <;> intro h <;> cases h
  | operator i p => cases p <;> intro h <;> cases h
  | shutdown p =>
    simp only [act]
    fun_cases actShutdown d p <;> (try split) <;> intro h <;>
      first | exact .inl rfl | exact .inr rfl | cases h

/-- The block of an invoker is entered by locking its mutex. -/
theorem act_inside (h : (d.act accepts p).1.inside = some i) :
    p.inside = some i ∨ p = .invoke i .lock ∨ p = .disconnect i .lock none := by
  revert h
  cases p with
  | idle => intro h; cases h
  | register i locked => cases locked <;> intro h <;> cases h
  | invoke j p =>
    cases p <;> simp only [act, actInvoke] <;> (try split) <;> intro h <;>
      simp_all [Point.inside]
  | disconnect j p slots =>
    cases slots <;> cases p <;> intro h <;> simp_all [act, actDisconnect, Point.inside]
  | operator i p => cases p <;> intro h <;> cases h
  | shutdown p =>
    simp only [act]
    fun_cases actShutdown d p <;> intro h <;> cases h

/-- A slot is called while it is connected. -/
theorem act_called {slots : List ManagerId}
    (h : (d.act accepts p).1 = .disconnect i .lock (some slots)) :
    i ∈ (d.act accepts p).2.state.slots := by
  revert h
  cases p with
  | idle => intro h; cases h
  | register i locked => cases locked <;> intro h <;> cases h
  | invoke j p => cases p <;> simp only [act, actInvoke] <;> (try split) <;> intro h <;> cases h
  | disconnect j p slots => cases slots <;> cases p <;> intro h <;> cases h
  | operator i p => cases p <;> intro h <;> cases h
  | shutdown p =>
    simp only [act]
    fun_cases actShutdown d p <;> intro h <;> first | cases h; assumption | cases h

end InProcess

namespace Locks

variable {w : Locks} {l : LockLabel} {t t' : ThreadId} {m : Mutex} {i : ManagerId}

/-! ## The owners -/

/-- The owners of the mutexes are the threads inside the guarded blocks. -/
def Owned (w : Locks) : Prop := ∀ m t, w.owner m = some t ↔ (w.point t).holds m = true

theorem startCall_holds (d : InProcess) (call : Call) (m : Mutex) :
    (startCall d call).1.holds m = false := by
  cases call <;> cases m <;> rfl

theorem fire_step_data (w : Locks) (t : ThreadId) (accepts : Bool) :
    (w.fire (.step t accepts)).data = (w.data.act accepts (w.point t)).2 := rfl

theorem fire_start_self (w : Locks) (t : ThreadId) (call : Call) :
    (w.fire (.start t call)).point t = (startCall w.data call).1 := Function.update_self ..

theorem fire_start_other (hne : t' ≠ t) (call : Call) :
    (w.fire (.start t call)).point t' = w.point t' := Function.update_of_ne hne ..

theorem fire_step_self (w : Locks) (t : ThreadId) (accepts : Bool) :
    (w.fire (.step t accepts)).point t = (w.data.act accepts (w.point t)).1 :=
  Function.update_self ..

theorem fire_step_other (hne : t' ≠ t) (accepts : Bool) :
    (w.fire (.step t accepts)).point t' = w.point t' := Function.update_of_ne hne ..

theorem Owned.start {call : Call} (h : Owned w) (hg : w.enabled (.start t call) = true) :
    Owned (w.fire (.start t call)) := by
  simp only [enabled, Bool.and_eq_true, decide_eq_true_eq] at hg
  intro m u
  show w.owner m = some u ↔ _
  by_cases hu : u = t
  · subst hu
    rw [fire_start_self, startCall_holds, h m u, hg.1]
    cases m <;> simp [Point.holds, Point.holdsState, Point.holdsInvoker, Point.holdsNotification]
  · rw [fire_start_other hu]
    exact h m u

/-- A mutex that can be locked is held by no other thread. -/
theorem not_owner_of_free (hfree : w.free t m = true) (hne : t' ≠ t) :
    w.owner m ≠ some t' := by
  intro howner
  simp only [free, Bool.or_eq_true, Bool.and_eq_true, decide_eq_true_eq] at hfree
  rcases hfree with hnone | ⟨-, hself⟩
  · rw [hnone] at howner
    cases howner
  · rw [hself] at howner
    exact hne (Option.some.inj howner).symm

theorem Owned.ownerAfter_self (h : Owned w) {q : Point} (hleads : (w.point t).Leads q)
    (m : Mutex) : ownerAfter t (w.point t) w.owner m = some t ↔ q.holds m = true := by
  rw [hleads, ownerAfter, ← h m t]
  cases hw : (w.point t).wants with
  | some m₀ =>
    rw [Point.releases_of_wants hw]
    by_cases hm : m = m₀
    · subst hm
      simp
    · simp [Function.update_of_ne hm, Ne.symm hm]
  | none =>
    cases hr : (w.point t).releases with
    | none => simp
    | some m₀ =>
      by_cases hm : m = m₀
      · subst hm
        simp
      · simp [Function.update_of_ne hm, Ne.symm hm]

theorem Owned.ownerAfter_other {accepts : Bool} (h : Owned w)
    (hg : w.enabled (.step t accepts) = true) (hne : t' ≠ t) (m : Mutex) :
    ownerAfter t (w.point t) w.owner m = some t' ↔ w.owner m = some t' := by
  simp only [enabled, Bool.and_eq_true] at hg
  rw [ownerAfter]
  cases hw : (w.point t).wants with
  | some m₀ =>
    rw [hw] at hg
    by_cases hm : m = m₀
    · subst hm
      simp [Ne.symm hne, not_owner_of_free hg.2 hne]
    · simp [Function.update_of_ne hm]
  | none =>
    cases hr : (w.point t).releases with
    | none => rfl
    | some m₀ =>
      by_cases hm : m = m₀
      · subst hm
        simp [(h m t).mpr (Point.holds_of_releases hr), Ne.symm hne]
      · simp [Function.update_of_ne hm]

theorem Owned.step {accepts : Bool} (h : Owned w) (hg : w.enabled (.step t accepts) = true) :
    Owned (w.fire (.step t accepts)) := by
  intro m u
  show ownerAfter t (w.point t) w.owner m = some u ↔ _
  by_cases hu : u = t
  · subst hu
    rw [fire_step_self]
    exact h.ownerAfter_self (InProcess.act_leads accepts w.data _) m
  · rw [fire_step_other hu, ← h m u]
    exact h.ownerAfter_other hg hu m

/-- The back end's mutex is with one thread. -/
theorem Owned.unique (h : Owned w) (ht : (w.point t).holds m = true)
    (ht' : (w.point t').holds m = true) : t = t' := by
  have howner := (h m t).mpr ht
  rw [(h m t').mpr ht'] at howner
  exact (Option.some.inj howner).symm

/-! ## The order -/

/-- The signal and the blocks of the invokers keep out of each other's way: no thread enters the
block of an invoker whose slot is connected while the signal runs, and none is inside one, with the
back end's mutex still to be locked, when it starts. -/
structure KeepsOrder (p : Locks × LockLabel) : Prop where
  enters : ∀ t accepts i, p.2 = .step t accepts →
    p.1.point t = .invoke i .lock ∨ p.1.point t = .disconnect i .lock none →
    i ∈ p.1.data.state.slots → ∀ d, (p.1.point d).signalling = false
  signals : ∀ d accepts, p.2 = .step d accepts → p.1.point d = .shutdown .managers →
    ∀ t i, (p.1.point t).inside = some i → i ∉ p.1.data.state.slots

/-- **The invariant of the order.** -/
structure Ordered (w : Locks) : Prop where
  owned : Owned w
  called : ∀ t i slots, w.point t = .disconnect i .lock (some slots) → i ∈ w.data.state.slots
  alone : ∀ d, (w.point d).signalling = true → ∀ t i, (w.point t).inside = some i →
    i ∉ w.data.state.slots

theorem Ordered.start {call : Call} (h : Ordered w) (hg : w.enabled (.start t call) = true) :
    Ordered (w.fire (.start t call)) := by
  have hslots : (w.fire (.start t call)).data.state.slots = w.data.state.slots := by
    cases call <;> rfl
  -- the thread that starts is neither in the signal nor inside a block
  have hfresh : ∀ u, (w.fire (.start t call)).point u = w.point u ∨
      ((w.fire (.start t call)).point u).signalling = false ∧
      ((w.fire (.start t call)).point u).inside = none ∧
      ∀ i slots, (w.fire (.start t call)).point u ≠ .disconnect i .lock (some slots) := by
    intro u
    by_cases hut : u = t
    · subst hut
      rw [fire_start_self]
      right
      cases call <;> exact ⟨rfl, rfl, fun _ _ h => nomatch h⟩
    · exact .inl (fire_start_other hut call)
  refine ⟨h.owned.start hg, fun u i slots hu => ?_, fun d hd u i hu => ?_⟩
  · rw [hslots]
    rcases hfresh u with hsame | ⟨-, -, hne⟩
    · exact h.called u i slots (hsame.symm.trans hu)
    · exact absurd hu (hne i slots)
  · rw [hslots]
    rcases hfresh d with hsame | ⟨hnot, -, -⟩
    · rcases hfresh u with hsame' | ⟨-, hnone, -⟩
      · rw [hsame] at hd
        rw [hsame'] at hu
        exact h.alone d hd u i hu
      · rw [hnone] at hu
        cases hu
    · rw [hnot] at hd
      cases hd

/-- While the signal runs the slots are disconnected by the thread that runs it. -/
theorem slots_of_signalling {accepts : Bool} (h : Owned w) {d : ThreadId}
    (hd : (w.point d).signalling = true) (t : ThreadId)
    (hi : i ∈ (w.data.act accepts (w.point t)).2.state.slots) : i ∈ w.data.state.slots := by
  by_cases hdt : t = d
  · subst hdt
    exact InProcess.act_slots_of_signalling hd hi
  · have hnot : (w.point t).holdsState = false := by
      by_contra hholds
      have ht : (w.point t).holds .state = true := (Bool.not_eq_false _).mp hholds
      exact hdt (h.unique ht (m := .state) (Point.holdsState_of_signalling hd))
    rwa [InProcess.act_slots_of_not_holds hnot] at hi

theorem Ordered.step {accepts : Bool} (h : Ordered w) (hkeep : KeepsOrder (w, .step t accepts))
    (hg : w.enabled (.step t accepts) = true) : Ordered (w.fire (.step t accepts)) := by
  refine ⟨h.owned.step hg, fun u i slots hu => ?_, fun d hd u i hu => ?_⟩
  · by_cases hut : u = t
    · subst hut
      rw [fire_step_self] at hu
      exact InProcess.act_called hu
    · -- the thread that calls the slot holds the back end's mutex
      rw [fire_step_other hut] at hu
      have hslot := h.called u i slots hu
      have hnot : (w.point t).holdsState = false := by
        by_contra hholds
        have ht : (w.point t).holds .state = true := (Bool.not_eq_false _).mp hholds
        exact hut (h.owned.unique (m := .state) (by rw [hu]; rfl) ht)
      rwa [fire_step_data, InProcess.act_slots_of_not_holds hnot]
  · have hd' : (w.point d).signalling = true ∨ d = t ∧ w.point t = .shutdown .managers := by
      by_cases hdt : d = t
      · subst hdt
        rw [fire_step_self] at hd
        exact (InProcess.act_signalling hd).imp_right fun hp => ⟨rfl, hp⟩
      · rw [fire_step_other hdt] at hd
        exact .inl hd
    have hu' : (w.point u).inside = some i ∨
        u = t ∧ (w.point t = .invoke i .lock ∨ w.point t = .disconnect i .lock none) := by
      by_cases hut : u = t
      · subst hut
        rw [fire_step_self] at hu
        exact (InProcess.act_inside hu).imp_right fun hp => ⟨rfl, hp⟩
      · rw [fire_step_other hut] at hu
        exact .inl hu
    intro hi
    rw [fire_step_data] at hi
    rcases hd' with hd' | ⟨-, hp⟩
    · have hi' := slots_of_signalling h.owned hd' t hi
      rcases hu' with hu' | ⟨-, hp⟩
      · exact h.alone d hd' u i hu' hi'
      · have hno := hkeep.enters t accepts i rfl hp hi' d
        rw [hd'] at hno
        cases hno
    · rcases hu' with hu' | ⟨-, hp'⟩
      · have hi' : i ∈ w.data.state.slots := by
          rw [hp] at hi
          exact hi
        exact hkeep.signals t accepts rfl hp u i hu' hi'
      · rw [hp] at hp'
        rcases hp' with hp' | hp' <;> cases hp'

/-! ## No cycle -/

end Locks

namespace Point

variable {p : Point} {i : ManagerId}

/-- The rank of a place: a thread waits for one that is further on in the order. -/
def rank (p : Point) : Fin 5 :=
  match p.wants with
  | some (.invoker _) => if p.holdsState then 2 else 0
  | some .state => if p.holdsState then 4 else 1
  | some (.notification _) => 3
  | none => 4

theorem rank_of_holdsState (h : p.holdsState = true) : 1 < p.rank := by
  cases p with
  | idle => cases h
  | register i locked => cases locked <;> simp [rank, wants, holdsState] at h ⊢
  | invoke i p => cases p <;> simp [rank, wants, holdsState] at h ⊢
  | disconnect i p slots =>
    cases slots <;> cases p <;> simp [rank, wants, holdsState] at h ⊢
  | operator i p => cases p <;> simp [rank, wants, holdsState] at h ⊢
  | shutdown p => cases p <;> simp [rank, wants, holdsState] at h ⊢

/-- A thread that holds the mutex of an invoker waits for no other, and for that of the back end
only inside the block. -/
theorem rank_of_holdsInvoker (h : p.holdsInvoker = some i) :
    0 < p.rank ∧ (p.inside = some i ∨ 2 < p.rank) := by
  cases p with
  | idle => cases h
  | register j locked => cases h
  | invoke j p => cases p <;> cases h <;> simp [rank, wants, inside, holdsState]
  | disconnect j p slots =>
    cases slots <;> cases p <;> cases h <;> simp [rank, wants, inside, holdsState]
  | operator j p => cases h
  | shutdown p => cases h

theorem rank_of_holdsNotification (h : p.holdsNotification = some i) : 3 < p.rank := by
  cases p with
  | idle => cases h
  | register j locked => cases h
  | invoke j p => cases p <;> simp [rank, wants, holdsNotification] at h ⊢
  | disconnect j p slots => cases h
  | operator j p => cases p <;> simp [rank, wants, holdsNotification] at h ⊢
  | shutdown p => cases h

/-- Only the signal locks the mutex of an invoker inside that of the back end. -/
theorem eq_of_wants_invoker (h : p.wants = some (.invoker i)) (hholds : p.holdsState = true) :
    ∃ slots, p = .disconnect i .lock (some slots) := by
  revert h
  fun_cases wants p <;> intro h <;> cases h
  · cases hholds
  · rename_i slots
    cases slots with
    | none => cases hholds
    | some slots => exact ⟨slots, rfl⟩

end Point

namespace Locks

variable {w : Locks} {t t' : ThreadId}

/-- **A thread waits for one of a higher rank.** -/
theorem Ordered.rank_lt (h : Ordered w) (hb : w.situation.Blocks t' t) :
    (w.point t).rank < (w.point t').rank := by
  obtain ⟨hne, m, hwants, howner⟩ := hb
  have hwants : (w.point t).wants = some m := hwants
  have hholds := (h.owned m t').mp howner
  cases m with
  | state =>
    have hnot : (w.point t).holdsState = false := by
      by_contra hself
      exact hne (h.owned.unique (m := .state) ((Bool.not_eq_false _).mp hself) hholds)
    rw [Point.rank, hwants]
    simp only [hnot]
    exact Point.rank_of_holdsState hholds
  | invoker i =>
    have hrank := Point.rank_of_holdsInvoker (of_decide_eq_true hholds)
    cases hself : (w.point t).holdsState with
    | false =>
      rw [Point.rank, hwants]
      simp only [hself]
      exact hrank.1
    | true =>
      obtain ⟨slots, hp⟩ := Point.eq_of_wants_invoker hwants hself
      have hslot := h.called t i slots hp
      have hnot : (w.point t').inside ≠ some i := fun hin =>
        h.alone t (by rw [hp]; rfl) t' i hin hslot
      rw [Point.rank, hwants]
      simp only [hself]
      exact hrank.2.resolve_left hnot
  | notification i =>
    rw [Point.rank, hwants]
    exact Point.rank_of_holdsNotification (of_decide_eq_true hholds)

theorem ordered_init : Ordered {} := by
  refine ⟨fun m t => ?_, fun t i slots h => ?_, fun d h => ?_⟩
  · cases m <;> simp [Point.holds, Point.holdsState, Point.holdsInvoker, Point.holdsNotification]
  · cases h
  · cases h

/-- **No lock cycle.**  In every run whose steps keep the signal and the blocks of the invokers
apart, no state has a set of threads each of which waits for a mutex held by another of them. -/
theorem no_lock_cycle {tr : List (Locks × LockLabel)} {r : Except Empty Locks}
    (h : lockMachine.Run {} tr r) (hkeep : ∀ p ∈ tr, KeepsOrder p) :
    Machine.Always (fun w => ∀ S, ¬ w.situation.Deadlock S) tr r := by
  have hordered : Machine.Always Ordered tr r := by
    refine h.invariant (C := fun w l => KeepsOrder (w, l)) ?_ ordered_init hkeep
    intro w l w' hw hkeep hg hf
    cases hf
    cases l with
    | start t call => exact hw.start hg
    | step t accepts => exact hw.step hkeep hg
  constructor
  · intro p hp S
    exact p.1.situation.not_deadlock_of_rank (fun t => (p.1.point t).rank)
      (fun _ _ hb => (hordered.1 p hp).rank_lt hb) S
  · intro w hw S
    exact w.situation.not_deadlock_of_rank (fun t => (w.point t).rank)
      (fun _ _ hb => (hordered.2 w hw).rank_lt hb) S

/-! ## The order can be computed -/

/-- `KeepsOrder`, for the threads below `n`. -/
def keepsOrderBelow (n : ℕ) (p : Locks × LockLabel) : Bool :=
  match p.2 with
  | .start _ _ => true
  | .step t _ => match p.1.point t with
    | .invoke i .lock | .disconnect i .lock none =>
      decide (i ∉ p.1.data.state.slots) || (List.range n).all fun d => !(p.1.point d).signalling
    | .shutdown .managers => (List.range n).all fun u =>
      (p.1.point u).inside.all fun i => decide (i ∉ p.1.data.state.slots)
    | _ => true

theorem keepsOrder_of_below {n : ℕ} {p : Locks × LockLabel}
    (hidle : ∀ t, n ≤ t → p.1.point t = .idle) (h : keepsOrderBelow n p = true) :
    KeepsOrder p := by
  obtain ⟨w, l⟩ := p
  constructor
  · rintro t accepts i rfl hp hi d
    dsimp only at hp
    by_cases hd : n ≤ d
    · rw [hidle d hd]
      rfl
    · rcases hp with hp | hp <;>
      · simp only [keepsOrderBelow, hp, Bool.or_eq_true, decide_eq_true_eq, List.all_eq_true,
          List.mem_range, Bool.not_eq_true'] at h
        exact (h.resolve_left fun hnot => hnot hi) d (by omega)
  · rintro d accepts rfl hp t i hin
    dsimp only at hp
    by_cases ht : n ≤ t
    · rw [hidle t ht] at hin
      cases hin
    · simp only [keepsOrderBelow, hp, List.all_eq_true, List.mem_range] at h
      have hall := h t (by omega)
      rw [hin] at hall
      exact of_decide_eq_true hall

/-- Threads that are not used stay idle. -/
theorem run_idle {n : ℕ} {tr : List (Locks × LockLabel)} {r : Except Empty Locks}
    (h : lockMachine.Run {} tr r) (hused : ∀ p ∈ tr, p.2.thread < n) :
    Machine.Always (fun w => ∀ t, n ≤ t → w.point t = .idle) tr r := by
  refine h.invariant (C := fun _ l => l.thread < n) ?_ (fun _ _ => rfl) hused
  intro w l w' hidle hl _ hf t ht
  cases hf
  have hne : t ≠ l.thread := by omega
  cases l with
  | start t' call => exact (fire_start_other hne call).trans (hidle t ht)
  | step t' accepts => exact (fire_step_other hne accepts).trans (hidle t ht)

/-- A thread takes its next actions. -/
def steps (t : ThreadId) (n : ℕ) : List LockLabel := List.replicate n (.step t true)

/-- Thread 1 constructs the invoker 0 and invokes; thread 3 serves it; thread 2 shuts down. -/
def orderly : List LockLabel :=
  .start 1 (.register 0) :: steps 1 2 ++ .start 1 (.invoke 0) :: steps 1 7 ++
    .start 3 (.operator 0) :: steps 3 5 ++ steps 1 4 ++ .start 2 .shutdown :: steps 2 17

/-- An invocation, and then the shutdown. -/
theorem no_lock_cycle_sample : ∃ (tr : List (Locks × LockLabel)) (w : Locks),
    w.data.state.shutdownState = .shutdownWaitingOnManagerDisconections ∧
      w.data.state.slots = [] ∧
      Machine.Always (fun w => ∀ S, ¬ w.situation.Deadlock S) tr (.ok w : Except Empty Locks) := by
  obtain ⟨w, hrun, hobs⟩ := lockMachine.exec_observed {} orderly
    (fun w => (w.data.state.shutdownState, w.data.state.slots))
    (a := (.shutdownWaitingOnManagerDisconections, [])) (by decide +kernel) (by decide +kernel)
  obtain ⟨hstate, hslots⟩ := by simpa only [Prod.mk.injEq] using hobs
  have hcheck : ((lockMachine.exec {} orderly).1.all fun p =>
      decide (p.2.thread < 4) && keepsOrderBelow 4 p) = true := by
    decide +kernel
  simp only [List.all_eq_true, Bool.and_eq_true, decide_eq_true_eq] at hcheck
  have hidle := run_idle hrun fun p hp => (hcheck p hp).1
  exact ⟨_, w, hstate, hslots,
    no_lock_cycle hrun fun p hp => keepsOrder_of_below (hidle.1 p hp) (hcheck p hp).2⟩

/-- Thread 1 has locked the mutex of its invoker in `disconnect_from_backend` when thread 2 signals
the managers. -/
def crossing : List LockLabel :=
  .start 1 (.register 0) :: steps 1 2 ++ .start 1 (.disconnect 0) :: steps 1 2 ++
    .start 2 .shutdown :: steps 2 10

/-- **A disconnecting invoker and the shutdown wait for each other.** -/
theorem lock_cycle : ¬ ∀ (tr : List (Locks × LockLabel)) (r : Except Empty Locks),
    lockMachine.Run {} tr r →
      Machine.Always (fun w => ∀ S, ¬ w.situation.Deadlock S) tr r := by
  intro h
  obtain ⟨w, hrun, hobs⟩ := lockMachine.exec_observed {} crossing
    (fun w => ((w.point 1).wants, (w.point 2).wants, w.owner .state, w.owner (.invoker 0)))
    (a := (some .state, some (.invoker 0), some 2, some 1)) (by decide +kernel)
    (by decide +kernel)
  obtain ⟨hwants, hwants', howner, howner'⟩ := by simpa only [Prod.mk.injEq] using hobs
  refine (h _ _ hrun).2 w rfl {1, 2} (w.situation.deadlock_pair ?_ ?_)
  · exact ⟨by decide, .state, hwants, howner⟩
  · exact ⟨by decide, .invoker 0, hwants', howner'⟩

end Locks

end RblRpc
