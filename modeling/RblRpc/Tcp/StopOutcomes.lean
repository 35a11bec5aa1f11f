import Mathlib.Data.List.Nodup
import RblRpc.Tcp.LifeSteps

/-!
# What a disconnected front end is

A call of `disconnect_from_backend` waits until its `shutdown_handler` has run and the io service
has stopped, or throws.  A later call returns at once.

* `Settled` — a front end loses its slot when its io service has stopped.
* `Single` — a `shutdown_handler` is posted by one call, unless a call throws.
* `stop_disconnects` — **a call that returns leaves the front end disconnected**, unless one has
  thrown before.
* `managers_disconnected` — **so does the signal all of them.**
-/

namespace RblRpc

open Transition Locking

/-! ## The slots -/

/-- What a thread at a place of `disconnect_from_backend` knows of the front end. -/
def StopPoint.Knows (i : ManagerId) (d : ServerData) : StopPoint → Prop
  | .disconnectLock | .disconnect => (d.frontEnd i).stopped = true
  | .leave .initiated => (d.frontEnd i).shutdownInitiated = true
  | .leave .notConnected | .leave .disconnected => i ∉ d.state.slots
  | _ => True

/-- What a thread knows stays true while the io service stays stopped, the shutdown initiated, and
the slot disconnected. -/
theorem StopPoint.Knows.mono {i : ManagerId} {d d' : ServerData} {r : StopPoint} (h : r.Knows i d)
    (hstopped : (d.frontEnd i).stopped = true → (d'.frontEnd i).stopped = true)
    (hinit : (d.frontEnd i).shutdownInitiated = true → (d'.frontEnd i).shutdownInitiated = true)
    (hslot : i ∉ d.state.slots → i ∉ d'.state.slots) : r.Knows i d' := by
  cases r with
  | disconnectLock => exact hstopped h
  | disconnect => exact hstopped h
  | leave e =>
    cases e with
    | initiated => exact hinit h
    | notConnected => exact hslot h
    | disconnected => exact hslot h
    | threw => trivial
  | _ => trivial

namespace LifeWorld

open ServerData

variable {w w' : LifeWorld} {t u : ServerThread} {c : Choice} {i : ManagerId}

/-- **What a thread in `disconnect_from_backend` learns.** -/
theorem actDisconnect_knows {d d' : ServerData} {r r' : StopPoint} {slots : Option (List ManagerId)}
    (hnodup : d.state.slots.Nodup) (hk : r'.Knows i d)
    (h : d.actDisconnect i slots r' = (.disconnect i r slots, d')) : r.Knows i d' := by
  cases r' with
  | initiated =>
    cases hinit : (d.frontEnd i).shutdownInitiated <;>
      simp only [actDisconnect, hinit] at h <;> cases h
    · trivial
    · exact hinit
  | connected =>
    by_cases hi : i ∈ d.state.slots <;> simp only [actDisconnect, hi] at h <;> cases h
    · trivial
    · exact hi
  | wait =>
    cases hn : (d.frontEnd i).notified <;> simp only [actDisconnect, hn] at h <;> cases h <;>
      trivial
  | poll n =>
    cases hs : (d.frontEnd i).stopped with
    | true =>
      simp only [actDisconnect, hs] at h
      cases h
      exact hs
    | false => cases n <;> simp only [actDisconnect, hs] at h <;> cases h <;> trivial
  | disconnectLock => cases h; exact hk
  | disconnect =>
    cases h
    show i ∉ d.state.slots.erase i
    exact hnodup.not_mem_erase
  | leave e => cases slots <;> cases h
  | _ => cases h; trivial

/-- **The invariant of the slots.**  A front end is built by one thread, is registered once, and
loses its slot when its io service has stopped. -/
structure Settled (w : LifeWorld) : Prop where
  owned : LifePoint.discipline.Owned w.threads
  nodup : w.data.state.slots.Nodup
  building : ∀ t i r, w.point t = .construct i r → (w.data.frontEnd i).allocated = true ∧
    (w.data.frontEnd i).constructed = false
  builder : ∀ t u i r r', w.point t = .construct i r → w.point u = .construct i r' → t = u
  registered : ∀ i ∈ w.data.state.slots, (w.data.frontEnd i).constructed = true
  built : ∀ i, (w.data.frontEnd i).constructed = true → (w.data.frontEnd i).allocated = true
  gone : ∀ i, (w.data.frontEnd i).constructed = true → i ∉ w.data.state.slots →
    (w.data.frontEnd i).stopped = true
  calls : ∀ t i r slots, w.point t = .disconnect i r slots →
    (w.data.frontEnd i).constructed = true ∧ r.Knows i w.data
  starts : ∀ t i locked, w.point t = .start i locked → (w.data.frontEnd i).constructed = true
  io : ∀ t i, (∃ r, w.point t = .io i r) ↔ t = .io i

/-- A mutex is with one thread. -/
theorem Settled.unique {m : FrontEndMutex} (h : Settled w) (ht : (w.point t).holds m = true)
    (hu : (w.point u).holds m = true) : t = u :=
  h.owned.unique (m := m) ht hu

/-- A call leaves the slots and all but `allocated` and the operations of the front ends. -/
theorem startCall_data (d : ServerData) (call : LifeCall) (j : ManagerId) :
    (startCall d call).2.state = d.state ∧
    ∃ a v, (startCall d call).2.frontEnd j = { d.frontEnd j with allocated := a, work := v } ∧
      ((d.frontEnd j).allocated = true → a = true) := by
  have hsame : ∃ a v, d.frontEnd j = { d.frontEnd j with allocated := a, work := v } ∧
      ((d.frontEnd j).allocated = true → a = true) := ⟨_, _, rfl, id⟩
  cases call with
  | startBackEnd =>
    simp only [startCall]
    split <;> exact ⟨rfl, hsame⟩
  | construct i =>
    refine ⟨rfl, ?_⟩
    show ∃ a v, (d.modify i fun f => { f with allocated := true }).frontEnd j = _ ∧ _
    by_cases hj : j = i
    · subst hj
      exact ⟨_, _, ServerData.modify_frontEnd_self _, fun _ => rfl⟩
    · rw [ServerData.modify_frontEnd_other hj]
      exact hsame
  | answer i =>
    refine ⟨rfl, ?_⟩
    show ∃ a v, (d.modify i (·.onWork (·.fromPool))).frontEnd j = _ ∧ _
    by_cases hj : j = i
    · subst hj
      exact ⟨_, _, ServerData.modify_frontEnd_self _, id⟩
    · rw [ServerData.modify_frontEnd_other hj]
      exact hsame
  | _ => exact ⟨rfl, hsame⟩

/-- A call leaves the idle connections. -/
theorem startCall_sameIdle (d : ServerData) (call : LifeCall) (j : ManagerId) :
    (d.frontEnd j).work.SameIdle ((startCall d call).2.frontEnd j).work := by
  cases call with
  | startBackEnd =>
    simp only [startCall]
    split <;> exact .refl _
  | construct i =>
    exact ServerData.sameIdle_modify (f := fun f => { f with allocated := true }) (.refl _) j
  | answer i => exact ServerData.sameIdle_modify (f := (·.onWork (·.fromPool))) ⟨rfl, rfl⟩ j
  | _ => exact .refl _

theorem Settled.start {t : ThreadId} {call : LifeCall} (h : Settled w)
    (hg : w.enabled (.start t call) = true) (hf : w.fire (.start t call) = .ok w') :
    Settled w' := by
  have howned := owned_start h.owned hg hf
  obtain ⟨hdata, hself, hother, -⟩ := fire_start_ok hf
  have hstate : w'.data.state = w.data.state := by rw [hdata, (startCall_data w.data call 0).1]
  have hfront : ∀ j, ∃ a v,
      w'.data.frontEnd j = { w.data.frontEnd j with allocated := a, work := v } ∧
      ((w.data.frontEnd j).allocated = true → a = true) := fun j => by
    rw [hdata]
    exact (startCall_data w.data call j).2
  have hconstructed : ∀ j, (w'.data.frontEnd j).constructed = (w.data.frontEnd j).constructed :=
    fun j => by
      obtain ⟨a, v, heq, -⟩ := hfront j
      rw [heq]
  simp only [enabled, Bool.and_eq_true, decide_eq_true_eq] at hg
  -- a call of the constructor makes a new front end
  have hnew : ∀ i r, (startCall w.data call).1 = .construct i r →
      (w.data.frontEnd i).allocated = false ∧ (w'.data.frontEnd i).allocated = true := by
    intro i r hq
    cases call with
    | startBackEnd =>
      simp only [startCall] at hq
      split at hq <;> cases hq
    | construct j =>
      cases hq
      rw [hdata]
      exact ⟨by simpa [callable] using hg.2, by simp [startCall, ServerData.modify_frontEnd_self]⟩
    | _ => cases hq
  refine ⟨howned, hstate ▸ h.nodup, ?_, ?_, ?_, ?_, ?_, ?_, ?_, fun u i => ?_⟩
  · intro u i r hu
    obtain ⟨a, v, heq, ha⟩ := hfront i
    by_cases hut : u = .user t
    · subst hut
      obtain ⟨hold, hnow⟩ := hnew i r (hself.symm.trans hu)
      refine ⟨hnow, ?_⟩
      by_contra hcon
      rw [Bool.not_eq_false, hconstructed] at hcon
      rw [h.built i hcon] at hold
      cases hold
    · rw [hother u hut] at hu
      rw [heq]
      exact ⟨ha (h.building u i r hu).1, (h.building u i r hu).2⟩
  · intro u u' i r r' hu hu'
    by_cases hut : u = .user t
    · by_cases hut' : u' = .user t
      · exact hut.trans hut'.symm
      · subst hut
        rw [hother u' hut'] at hu'
        have hold := (hnew i r (hself.symm.trans hu)).1
        rw [(h.building u' i r' hu').1] at hold
        cases hold
    · rw [hother u hut] at hu
      by_cases hut' : u' = .user t
      · subst hut'
        have hold := (hnew i r' (hself.symm.trans hu')).1
        rw [(h.building u i r hu).1] at hold
        cases hold
      · rw [hother u' hut'] at hu'
        exact h.builder u u' i r r' hu hu'
  · intro i hi
    rw [hconstructed]
    exact h.registered i (hstate ▸ hi)
  · intro i hi
    obtain ⟨a, v, heq, ha⟩ := hfront i
    rw [heq]
    exact ha (h.built i (hconstructed i ▸ hi))
  · intro i hi hslot
    obtain ⟨a, v, heq, -⟩ := hfront i
    rw [heq]
    exact h.gone i (hconstructed i ▸ hi) (hstate ▸ hslot)
  · intro u i r slots hu
    obtain ⟨a, v, heq, -⟩ := hfront i
    by_cases hut : u = .user t
    · subst hut
      rw [hself] at hu
      cases call with
      | startBackEnd =>
        simp only [startCall] at hu
        split at hu <;> cases hu
      | stop j =>
        cases hu
        exact ⟨by rw [hconstructed]; exact hg.2, trivial⟩
      | _ => cases hu
    · rw [hother u hut] at hu
      obtain ⟨hc, hk⟩ := h.calls u i r slots hu
      refine ⟨by rw [hconstructed]; exact hc, ?_⟩
      exact hk.mono (by rw [heq]; exact id) (by rw [heq]; exact id) (by rw [hstate]; exact id)
  · intro u i locked hu
    rw [hconstructed]
    by_cases hut : u = .user t
    · subst hut
      rw [hself] at hu
      cases call with
      | startBackEnd =>
        simp only [startCall] at hu
        split at hu <;> cases hu
      | start j =>
        cases hu
        exact hg.2
      | _ => cases hu
    · exact h.starts u i locked (hother u hut ▸ hu)
  · by_cases hut : u = .user t
    · subst hut
      rw [hself]
      refine ⟨?_, fun hcon => by cases hcon⟩
      rintro ⟨r, hr⟩
      cases call with
      | startBackEnd =>
        simp only [startCall] at hr
        split at hr <;> cases hr
      | _ => cases hr
    · rw [hother u hut]
      exact h.io u i

/-- A front end that has lost its slot gets no other. -/
theorem Settled.stays_gone (h : Settled w) {q : LifePoint}
    (hact : w.data.act c (w.point t) = .ok (q, w'.data))
    (hi : (w.data.frontEnd i).constructed = true) (hgone : i ∉ w.data.state.slots) :
    i ∉ w'.data.state.slots := by
  intro hmem
  rcases (act_slots hact).mem hmem with hmem | ⟨hp, -⟩
  · exact hgone hmem
  · rw [(h.building t i _ hp).2] at hi
    cases hi

theorem Settled.step (h : Settled w) (hg : w.enabled (.step t c) = true)
    (hf : w.fire (.step t c) = .ok w') : Settled w' := by
  have howned := owned_step h.owned hg hf
  obtain ⟨q, hact, hself, hother, -⟩ := fire_step_ok hf
  have hchanges := fun j => act_changes hact j
  have hslots := act_slots hact
  -- a front end is constructed when it was, or when it is registered
  have hconstructed : ∀ j, (w'.data.frontEnd j).constructed = true →
      (w.data.frontEnd j).constructed = true ∨ w.point t = .construct j .slot :=
    fun j hj => (hchanges j).of_constructed hj
  refine ⟨howned, ?_, ?_, ?_, ?_, ?_, ?_, ?_, ?_, fun u i => ?_⟩
  · cases hslots with
    | same hs => exact hs ▸ h.nodup
    | registered j hp hq hs hc =>
      rw [hs]
      refine h.nodup.append (List.nodup_singleton j) ?_
      rw [List.disjoint_singleton]
      intro hmem
      have hcon := h.registered j hmem
      rw [(h.building t j _ hp).2] at hcon
      cases hcon
    | disconnected j hp hq hs => exact hs ▸ h.nodup.erase j
  · intro u i r hu
    have hat : ∃ r', w.point u = .construct i r' ∧ (u = t → r' ≠ .slot) := by
      by_cases hut : u = t
      · subst hut
        rw [hself] at hu
        subst hu
        obtain ⟨r', hp, hr'⟩ := act_construct_from hact
        exact ⟨r', hp, fun _ => hr'⟩
      · exact ⟨r, (hother u hut) ▸ hu, fun heq => absurd heq hut⟩
    obtain ⟨r', hp, hr'⟩ := hat
    obtain ⟨ha, hc⟩ := h.building u i r' hp
    refine ⟨by rw [(hchanges i).allocated]; exact ha, ?_⟩
    by_contra hcon
    rcases hconstructed i ((Bool.not_eq_false _).mp hcon) with hcon | hslot
    · rw [hcon] at hc
      cases hc
    · obtain rfl := h.builder u t i _ _ hp hslot
      rw [hp] at hslot
      cases hslot
      exact hr' rfl rfl
  · have hat : ∀ u i r, w'.point u = .construct i r → ∃ r', w.point u = .construct i r' := by
      intro u i r hu
      by_cases hut : u = t
      · subst hut
        rw [hself] at hu
        subst hu
        obtain ⟨r', hp, -⟩ := act_construct_from hact
        exact ⟨r', hp⟩
      · exact ⟨r, (hother u hut) ▸ hu⟩
    intro u u' i r r' hu hu'
    obtain ⟨s, hp⟩ := hat u i r hu
    obtain ⟨s', hp'⟩ := hat u' i r' hu'
    exact h.builder u u' i s s' hp hp'
  · intro i hi
    rcases hslots.mem hi with hi | ⟨-, hc⟩
    · exact (hchanges i).constructed_of (h.registered i hi)
    · exact hc
  · intro i hi
    rw [(hchanges i).allocated]
    rcases hconstructed i hi with hi | hp
    · exact h.built i hi
    · exact (h.building t i _ hp).1
  · intro i hi hgone
    by_cases hslot : i ∈ w.data.state.slots
    · obtain ⟨slots, hp⟩ := hslots.lost hslot hgone
      exact (hchanges i).stopped_of (h.calls t i _ slots hp).2
    · rcases hconstructed i hi with hi | hp
      · exact (hchanges i).stopped_of (h.gone i hi hslot)
      · -- a registered front end has its slot
        refine absurd ?_ hgone
        rw [hp] at hact
        simp only [act, actConstruct, Except.ok.injEq, Prod.mk.injEq] at hact
        rw [← hact.2]
        simp [SynchronisedBackEndState.registerInvokerManager]
  · intro u i r slots hu
    by_cases hut : u = t
    · subst hut
      rw [hself] at hu
      subst hu
      rcases act_disconnect_from hact with ⟨r', hp, hdisc⟩ | ⟨rest, hp, rfl, rfl, hmem, hsame⟩
      · obtain ⟨hc, hk⟩ := h.calls u i r' slots hp
        exact ⟨(hchanges i).constructed_of hc, actDisconnect_knows h.nodup hk hdisc⟩
      · exact ⟨(hchanges i).constructed_of (h.registered i hmem), trivial⟩
    · rw [hother u hut] at hu
      obtain ⟨hc, hk⟩ := h.calls u i r slots hu
      exact ⟨(hchanges i).constructed_of hc,
        hk.mono (hchanges i).stopped_of (hchanges i).initiated_of (h.stays_gone hact hc)⟩
  · intro u i locked hu
    refine (hchanges i).constructed_of ?_
    by_cases hut : u = t
    · subst hut
      rw [hself] at hu
      subst hu
      obtain ⟨locked', hp⟩ := act_start_from hact
      exact h.starts u i locked' hp
    · exact h.starts u i locked (hother u hut ▸ hu)
  · by_cases hut : u = t
    · subst hut
      rw [hself, ← h.io u i]
      constructor
      · rintro ⟨r, rfl⟩
        exact act_io_from hact
      · rintro ⟨r, hr⟩
        rw [hr] at hact
        exact actIo_place hact
    · rw [hother u hut]
      exact h.io u i

theorem settled_init : Settled init := by
  refine ⟨fun m t => ?_, List.nodup_nil, ?_, ?_, ?_, ?_, ?_, ?_, ?_, fun t i => ?_⟩
  · cases t <;> cases m <;>
      simp [init, LifePoint.discipline, LifePoint.holds, LifePoint.holdsState,
        LifePoint.holdsFrontEnd, LifePoint.holdsNotification]
  · intro t i r ht
    cases t <;> cases ht
  · intro t u i r r' ht
    cases t <;> cases ht
  · intro i hi
    cases hi
  · intro i hi
    cases hi
  · intro i hi
    cases hi
  · intro t i r slots ht
    cases t <;> cases ht
  · intro t i locked ht
    cases t <;> cases ht
  · cases t with
    | user t =>
      constructor
      · rintro ⟨r, hr⟩
        cases hr
      · intro h
        cases h
    | io j =>
      constructor
      · rintro ⟨r, hr⟩
        cases hr
        rfl
      · rintro ⟨⟩
        exact ⟨_, rfl⟩

/-- **The invariant of the slots holds in every state.** -/
theorem Settled.kept {l : LifeLabel} (h : Settled w) (hg : w.enabled l = true)
    (hf : w.fire l = .ok w') : Settled w' := by
  cases l with
  | start t call => exact h.start hg hf
  | step t c => exact h.step hg hf

end LifeWorld

/-! ## Calls that do not throw -/

/-- The thread has posted the `shutdown_handler`, and not left. -/
def StopPoint.hasPosted : StopPoint → Bool
  | .waitLock | .wait | .asleep | .wakeLock | .woken | .poll _ | .disconnectLock | .disconnect =>
    true
  | _ => false

/-- The front end whose `disconnect_from_backend` throws in this step: its io service has not
stopped when the call has waited for the last time. -/
def LifeWorld.throws (w : LifeWorld) : LifeLabel → Option ManagerId
  | .start _ _ => none
  | .step t _ => match w.point t with
    | .disconnect i (.poll 0) _ => if (w.data.frontEnd i).stopped then none else some i
    | _ => none

namespace LifeWorld

open ServerData

variable {w w' : LifeWorld} {t u : ServerThread} {c : Choice} {i : ManagerId} {l : LifeLabel}

/-- A `shutdown_handler` was posted by a thread that is still waiting for it, or the front end is
disconnected. -/
def Single (i : ManagerId) (w : LifeWorld) : Prop :=
  (w.data.frontEnd i).shutdownInitiated = true ∨ 0 < (w.data.frontEnd i).posted →
    (∃ t r slots, w.point t = .disconnect i r slots ∧ r.hasPosted = true) ∨
      (w.data.frontEnd i).constructed = true ∧ i ∉ w.data.state.slots

/-- A step of a thread past `post` that does not throw keeps it there, or disconnects. -/
theorem hasPosted_next {d d' : ServerData} {r : StopPoint} {slots : Option (List ManagerId)}
    {q : LifePoint} (hr : r.hasPosted = true)
    (hnot : r = .poll 0 → (d.frontEnd i).stopped = true)
    (h : d.actDisconnect i slots r = (q, d')) :
    ∃ r', q = .disconnect i r' slots ∧ (r'.hasPosted = true ∨ r' = .leave .disconnected) := by
  cases r with
  | wait =>
    cases hn : (d.frontEnd i).notified <;> simp only [actDisconnect, hn] at h <;> cases h <;>
      exact ⟨_, rfl, .inl rfl⟩
  | poll n =>
    cases hs : (d.frontEnd i).stopped with
    | true =>
      simp only [actDisconnect, hs] at h
      cases h
      exact ⟨_, rfl, .inl rfl⟩
    | false =>
      cases n with
      | zero =>
        rw [hnot rfl] at hs
        cases hs
      | succ n =>
        simp only [actDisconnect, hs] at h
        cases h
        exact ⟨_, rfl, .inl rfl⟩
  | disconnect => cases h; exact ⟨_, rfl, .inr rfl⟩
  | lock | initiated | connectedLock | connected | post | leave e => cases hr
  | _ => cases h; exact ⟨_, rfl, .inl rfl⟩

theorem Single.step (hs : Settled w) (h : Single i w) (hnot : w.throws (.step t c) ≠ some i)
    (hg : w.enabled (.step t c) = true) (hf : w.fire (.step t c) = .ok w') : Single i w' := by
  have hs' := hs.step hg hf
  obtain ⟨q, hact, hself, hother, -⟩ := fire_step_ok hf
  have hchanges := act_changes hact i
  intro harmed
  -- the handler was there before, or it is posted by this step
  have hbefore : ((w.data.frontEnd i).shutdownInitiated = true ∨
      0 < (w.data.frontEnd i).posted) ∨ ∃ slots, q = .disconnect i .waitLock slots := by
    generalize hd : w'.data.frontEnd i = f' at harmed hchanges
    cases hchanges with
    | posted hp hq => exact .inr ⟨_, hq⟩
    | shutdown hp hq =>
      left
      right
      rw [hp, hq] at hact
      simp only [enabled, hp, runnable, handler_of_close hact, Bool.and_eq_true] at hg
      exact of_decide_eq_true hg.1
    | _ => exact .inl harmed
  rcases hbefore with hbefore | ⟨slots, rfl⟩
  · rcases h hbefore with ⟨u, r, slots, hu, hr⟩ | ⟨hc, hgone⟩
    · by_cases hut : u = t
      · subst hut
        rw [hu] at hact
        have hdisc : w.data.actDisconnect i slots r = (q, w'.data) := by
          simpa [act] using hact
        obtain ⟨r', rfl, hr' | rfl⟩ := hasPosted_next hr (fun hpoll => by
          subst hpoll
          by_contra hrun
          exact hnot (by simp [throws, hu, hrun])) hdisc
        · exact .inl ⟨u, r', slots, hself, hr'⟩
        · exact .inr (hs'.calls u i _ slots hself)
      · exact .inl ⟨u, r, slots, (hother u hut).trans hu, hr⟩
    · exact .inr ⟨hchanges.constructed_of hc, hs.stays_gone hact hc hgone⟩
  · exact .inl ⟨t, .waitLock, slots, hself, rfl⟩

theorem Single.start {t : ThreadId} {call : LifeCall} (h : Single i w)
    (hg : w.enabled (.start t call) = true) (hf : w.fire (.start t call) = .ok w') :
    Single i w' := by
  obtain ⟨hdata, -, hother, -⟩ := fire_start_ok hf
  obtain ⟨hstate, a, v, hfront, -⟩ := startCall_data w.data call i
  rw [← hdata] at hstate hfront
  simp only [enabled, Bool.and_eq_true, decide_eq_true_eq] at hg
  intro harmed
  rw [hfront] at harmed
  rcases h harmed with ⟨u, r, slots, hu, hr⟩ | ⟨hc, hgone⟩
  · have hut : u ≠ .user t := by
      rintro rfl
      rw [hg.1] at hu
      cases hu
    exact .inl ⟨u, r, slots, (hother u hut).trans hu, hr⟩
  · right
    rw [hfront, hstate]
    exact ⟨hc, hgone⟩

theorem single_init : Single i init := by
  rintro (h | h) <;> cases h

/-- Past `lock` the mutex of the front end is held. -/
theorem holds_frontEnd {r : StopPoint} {slots : Option (List ManagerId)}
    (ht : w.point t = .disconnect i r slots) (hr : r ≠ .lock) :
    (w.point t).holds (.frontEnd i) = true := by
  rw [ht]
  simp [LifePoint.holds, LifePoint.holdsFrontEnd, hr]

/-- A place where `disconnect_from_backend` has ended without throwing. -/
theorem disconnected_of_leave (hs : Settled w) (h : Single i w) {e : StopEnd}
    {slots : Option (List ManagerId)} (ht : w.point t = .disconnect i (.leave e) slots)
    (he : e ≠ .threw) : i ∉ w.data.state.slots ∧ (w.data.frontEnd i).stopped = true := by
  obtain ⟨hc, hk⟩ := hs.calls t i _ slots ht
  have hgone : i ∉ w.data.state.slots := by
    cases e with
    | initiated =>
      rcases h (.inl hk) with ⟨u, r, slots', hu, hr⟩ | ⟨-, hgone⟩
      · -- that thread holds the mutex of the front end, and so does `t`
        have hut : u = t := by
          refine hs.unique (holds_frontEnd hu ?_) (holds_frontEnd ht (by simp))
          rintro rfl
          cases hr
        subst hut
        rw [ht] at hu
        cases hu
        cases hr
      · exact hgone
    | notConnected => exact hk
    | disconnected => exact hk
    | threw => exact absurd rfl he
  exact ⟨hgone, hs.gone i hc hgone⟩

/-- **A front end is disconnected by a call that does not throw.**  In a run in which no call of
`disconnect_from_backend` of the front end throws, whenever one is about to return, early or at its
end, its slot is gone and its io service has stopped.  The loop of `shutdown_handler` over idle
connections is taken to be sound. -/
theorem stop_disconnects {tr : List (LifeWorld × LifeLabel)} {r : Except TcpFault LifeWorld}
    (h : lifeCycleMachine.Run init tr r) (hthrows : ∀ p ∈ tr, p.1.throws p.2 ≠ some i) :
    Machine.Always (fun w => ∀ t e slots, w.point t = .disconnect i (.leave e) slots →
      e ≠ .threw → i ∉ w.data.state.slots ∧ (w.data.frontEnd i).stopped = true) tr r := by
  have hinv : Machine.Always (fun w => Settled w ∧ Single i w) tr r := by
    refine h.invariant (C := fun w l => w.throws l ≠ some i) ?_ ⟨settled_init, single_init⟩ hthrows
    rintro w l w' ⟨hs, h⟩ hnot hg hf
    cases l with
    | start t call => exact ⟨hs.start hg hf, h.start hg hf⟩
    | step t c => exact ⟨hs.step hg hf, h.step hs hnot hg hf⟩
  exact ⟨fun p hp t e slots ht he => disconnected_of_leave (hinv.1 p hp).1 (hinv.1 p hp).2 ht he,
    fun w hw t e slots ht he => disconnected_of_leave (hinv.2 w hw).1 (hinv.2 w hw).2 ht he⟩

/-! A run in which the signal disconnects a front end with a client. -/

/-- A thread takes its next actions. -/
def actions (t : ServerThread) (n : ℕ) : List LifeLabel := List.replicate n (.step t {})

/-- The io thread of a front end calls a handler. -/
def handles (i : ManagerId) (h : Handler) : LifeLabel := .step (.io i) { handler := h }

/-- Thread 0 starts the back end and the front end 0, and a client connects. -/
def opening : List LifeLabel :=
  .start 0 .startBackEnd :: actions (.user 0) 2 ++ .start 0 (.construct 0) :: actions (.user 0) 5 ++
    .start 0 (.start 0) :: actions (.user 0) 2 ++
    [handles 0 .none, handles 0 (.completed .accept true)]

/-- The io thread reads the header of the client, calls `shutdown_handler` and the handlers of what
is left, and returns. -/
def closing : List LifeLabel :=
  handles 0 (.completed .header true) :: handles 0 .shutdown :: actions (.io 0) 4 ++
    [handles 0 (.completed .accept false), handles 0 (.completed .body false), handles 0 .none]

/-- Thread 1 signals the front end, and is about to return from its slot. -/
def signalled : List LifeLabel :=
  opening ++ .start 1 .managers :: actions (.user 1) 10 ++ closing ++ actions (.user 1) 6

/-- The call that the signal makes. -/
theorem stop_disconnects_sample : ∃ w : LifeWorld, lifeCycleMachine.Reaches init w ∧
    w.point (.user 1) = .disconnect 0 (.leave .disconnected) (some []) ∧
    0 ∉ w.data.state.slots ∧ (w.data.frontEnd 0).stopped = true := by
  obtain ⟨w, hrun, hpoint⟩ := lifeCycleMachine.exec_observed init signalled
    (fun w => w.point (.user 1)) (a := .disconnect 0 (.leave .disconnected) (some []))
    (by decide +kernel) (by decide +kernel)
  have hthrows : ((lifeCycleMachine.exec init signalled).1.all
      fun p => p.1.throws p.2 = none) = true := by
    decide +kernel
  simp only [List.all_eq_true, decide_eq_true_eq] at hthrows
  exact ⟨w, ⟨_, hrun⟩, hpoint, (stop_disconnects hrun fun p hp => by
    rw [hthrows p hp]
    simp).2 w rfl _ _ _ hpoint (by simp)⟩

end LifeWorld

/-! ## The signal -/

/-- The slots that the signal has yet to disconnect: the one that it is calling, and those it has
not called. -/
def LifePoint.toDisconnect : LifePoint → Option (List ManagerId)
  | .managers (.signal slots) => some slots
  | .disconnect i _ (some slots) => some (i :: slots)
  | _ => none

theorem LifePoint.holds_of_toDisconnect {p : LifePoint} {slots : List ManagerId}
    (h : p.toDisconnect = some slots) : p.holds .state = true := by
  revert h
  fun_cases toDisconnect p <;> intro h <;> cases h <;> simp [holds, holdsState]

namespace LifeWorld

open ServerData

variable {w w' : LifeWorld} {t u : ServerThread} {c : Choice} {i : ManagerId} {l : LifeLabel}

/-- The slots still connected are those that the signal has yet to disconnect. -/
def Listed (w : LifeWorld) : Prop :=
  ∀ t slots, (w.point t).toDisconnect = some slots → ∀ i ∈ w.data.state.slots, i ∈ slots

/-- Where a thread in the signal comes from: the slots are listed, or the first of the list is done
with. -/
theorem act_toDisconnect {d d' : ServerData} {p q : LifePoint} {slots : List ManagerId}
    (h : d.act c p = .ok (q, d')) (hq : q.toDisconnect = some slots) :
    (p = .managers .slots ∧ slots = d.state.slots ∧ d' = d) ∨
      ∃ slots', p.toDisconnect = some slots' ∧ (slots' = slots ∨ ∃ i, slots' = i :: slots ∧
        (i ∉ d.state.slots ∨ ∃ e, p = .disconnect i (.leave e) (some slots) ∧ e ≠ .threw)) := by
  cases act_follows h with
  | disconnect i r r' slots' =>
    cases slots' with
    | none => cases hq
    | some rest => cases hq; exact .inr ⟨_, rfl, .inl rfl⟩
  | called i rest => cases hq; exact .inr ⟨_, rfl, .inl rfl⟩
  | left i e rest r =>
    by_cases he : e = .threw <;>
      simp only [act, actDisconnect, he, Except.ok.injEq, Prod.mk.injEq] at h <;>
      cases h.1 <;> cases hq
    exact .inr ⟨_, rfl, .inr ⟨i, rfl, .inr ⟨e, rfl, he⟩⟩⟩
  | managers r r' =>
    revert h
    simp only [act, Except.ok.injEq, Prod.mk.injEq]
    fun_cases actManagers d r <;> rintro ⟨hr, rfl⟩ <;> cases hr <;> cases hq
    · exact .inl ⟨rfl, rfl, rfl⟩
    · rename_i hmem
      exact .inr ⟨_, rfl, .inr ⟨_, rfl, .inl hmem⟩⟩
  | _ => cases hq

theorem Listed.step (hs : Settled w) (h : Listed w) (hsingle : ∀ i, Single i w)
    (hf : w.fire (.step t c) = .ok w') : Listed w' := by
  obtain ⟨q, hact, hself, hother, -⟩ := fire_step_ok hf
  intro u slots hu i hi
  by_cases hut : u = t
  · subst hut
    rw [hself] at hu
    rcases act_toDisconnect hact hu with ⟨-, rfl, hd⟩ | ⟨slots', hp, hrest⟩
    · rwa [hd] at hi
    · have hi' : i ∈ w.data.state.slots := by
        rcases (act_slots hact).mem hi with hi' | ⟨hcon, -⟩
        · exact hi'
        · rw [hcon] at hp
          cases hp
      have hmem := h u slots' hp i hi'
      rcases hrest with rfl | ⟨j, rfl, hj | ⟨e, hleave, he⟩⟩
      · exact hmem
      · rcases List.mem_cons.mp hmem with rfl | hmem
        · exact absurd hi' hj
        · exact hmem
      · rcases List.mem_cons.mp hmem with rfl | hmem
        · exact absurd hi' (disconnected_of_leave hs (hsingle i) hleave he).1
        · exact hmem
  · -- no other thread registers a front end while the signal holds the mutex
    rw [hother u hut] at hu
    rcases (act_slots hact).mem hi with hi' | ⟨hcon, -⟩
    · exact h u slots hu i hi'
    · have hholds : (w.point t).holds .state = true := by
        rw [hcon]
        rfl
      exact absurd (hs.unique (LifePoint.holds_of_toDisconnect hu) hholds) hut

theorem Listed.start {t : ThreadId} {call : LifeCall} (h : Listed w)
    (hf : w.fire (.start t call) = .ok w') : Listed w' := by
  obtain ⟨hdata, hself, hother, -⟩ := fire_start_ok hf
  have hstate : w'.data.state = w.data.state := by
    rw [hdata, (startCall_data w.data call 0).1]
  intro u slots hu i hi
  rw [hstate] at hi
  by_cases hut : u = .user t
  · subst hut
    rw [hself] at hu
    have hholds := LifePoint.holds_of_toDisconnect hu
    rw [startCall_holds] at hholds
    cases hholds
  · exact h u slots (hother u hut ▸ hu) i hi

/-- **After the signal every front end is disconnected.**  In a run in which no call of
`disconnect_from_backend` throws, when `disconect_managers` has called the slots none is left, and
the io services of all front ends have stopped.  The loop of `shutdown_handler` over idle
connections is taken to be sound. -/
theorem managers_disconnected {tr : List (LifeWorld × LifeLabel)} {r : Except TcpFault LifeWorld}
    (h : lifeCycleMachine.Run init tr r) (hthrows : ∀ p ∈ tr, p.1.throws p.2 = none) :
    Machine.Always (fun w => ∀ t, w.point t = .managers (.signal []) →
      w.data.state.slots = [] ∧ ∀ i, (w.data.frontEnd i).constructed = true →
        (w.data.frontEnd i).stopped = true) tr r := by
  have hinv : Machine.Always (fun w => (Settled w ∧ ∀ i, Single i w) ∧ Listed w) tr r := by
    refine h.invariant (C := fun w l => w.throws l = none) ?_
      ⟨⟨settled_init, fun _ => single_init⟩, ?_⟩ hthrows
    · rintro w l w' ⟨⟨hs, h⟩, hl⟩ hnot hg hf
      cases l with
      | start t call => exact ⟨⟨hs.start hg hf, fun i => (h i).start hg hf⟩, hl.start hf⟩
      | step t c =>
        exact ⟨⟨hs.step hg hf, fun i => (h i).step hs (by rw [hnot]; simp) hg hf⟩, hl.step hs h hf⟩
    · intro t slots ht
      cases t <;> cases ht
  have hstate : ∀ w, (Settled w ∧ ∀ i, Single i w) ∧ Listed w → ∀ t,
      w.point t = .managers (.signal []) → w.data.state.slots = [] ∧
        ∀ i, (w.data.frontEnd i).constructed = true → (w.data.frontEnd i).stopped = true := by
    rintro w ⟨⟨hs, -⟩, hl⟩ t ht
    have hnone : ∀ i, i ∉ w.data.state.slots := by
      intro i hi
      have hmem := hl t [] (by rw [ht]; rfl) i hi
      cases hmem
    exact ⟨List.eq_nil_iff_forall_not_mem.mpr hnone, fun i hi => hs.gone i hi (hnone i)⟩
  exact ⟨fun p hp => hstate p.1 (hinv.1 p hp), fun w hw => hstate w (hinv.2 w hw)⟩

/-- The signal of one front end. -/
theorem managers_disconnected_sample : ∃ w : LifeWorld, lifeCycleMachine.Reaches init w ∧
    w.point (.user 1) = .managers (.signal []) ∧ (w.data.frontEnd 0).constructed = true ∧
    w.data.state.slots = [] ∧ (w.data.frontEnd 0).stopped = true := by
  obtain ⟨w, hrun, hobs⟩ := lifeCycleMachine.exec_observed init
    (signalled ++ actions (.user 1) 1)
    (fun w => (w.point (.user 1), (w.data.frontEnd 0).constructed))
    (a := (.managers (.signal []), true)) (by decide +kernel) (by decide +kernel)
  obtain ⟨hpoint, hconstructed⟩ := Prod.mk.inj hobs
  have hthrows : ((lifeCycleMachine.exec init (signalled ++ actions (.user 1) 1)).1.all
      fun p => p.1.throws p.2 = none) = true := by
    decide +kernel
  simp only [List.all_eq_true, decide_eq_true_eq] at hthrows
  obtain ⟨hslots, hstopped⟩ := (managers_disconnected hrun hthrows).2 w rfl _ hpoint
  exact ⟨w, ⟨_, hrun⟩, hpoint, hconstructed, hslots, hstopped 0 hconstructed⟩

end LifeWorld

end RblRpc
