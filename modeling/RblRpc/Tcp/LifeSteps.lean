import RblRpc.Tcp.LifeCycle

/-!
# What the threads of the front ends do

One lemma for each question about an action: what it does to the front ends, to the slots of the
back end, and to the mutexes, and where a thread in one of the calls comes from.

* `ServerData.act_changes` — **what an action does to a front end.**
* `ServerData.act_slots` — **what it does to the slots.**
* `ServerData.act_leads` — **it locks the mutex wanted, or unlocks the one released.**
* `LifeWorld.fire_step_ok`, `LifeWorld.fire_start_ok` — the two kinds of labels.
-/

namespace RblRpc

open Transition Locking

/-- The idle connections are the same. -/
structure IoWork.SameIdle (v v' : IoWork) : Prop where
  header : v'.pending .header = v.pending .header
  dead : v'.dead = v.dead

theorem IoWork.SameIdle.refl (v : IoWork) : v.SameIdle v := ⟨rfl, rfl⟩

theorem IoWork.SameIdle.inactive {v v' : IoWork} (h : v.SameIdle v') :
    v'.inactive = v.inactive := by
  rw [IoWork.inactive, IoWork.inactive, h.header, h.dead]

/-- Other operations than reading a header. -/
theorem IoWork.SameIdle.begin {op : PendingOperation} (v : IoWork) (hop : op ≠ .header) :
    v.SameIdle (v.begin op) := ⟨Function.update_of_ne hop.symm _ _, rfl⟩

/-! ## What an action does to a front end -/

/-- What an action from `p` to `q` does to the front end `i`. -/
inductive FrontEndLife.Changes (i : ManagerId) (p q : LifePoint) (f : FrontEndLife) :
    FrontEndLife → Prop
  | work (w : IoWork) : Changes i p q f { f with work := w }
  | connected : Changes i p q f { f with connectedToBackend := true }
  | constructed (hp : p = .construct i .slot) : Changes i p q f { f with constructed := true }
  | started (w : IoWork) (hp : p = .start i true) (hf : f.started = false) :
      Changes i p q f
        { f with acceptorOpen := true, acceptingRequests := true, started := true, work := w }
  | posted {slots} (hp : p = .disconnect i .post slots) (hq : q = .disconnect i .waitLock slots) :
      Changes i p q f { f with posted := f.posted + 1 }
  | shutdown (hp : p = .io i .run) (hq : q = .io i .close) :
      Changes i p q f { f with posted := f.posted - 1, shutdownInitiated := true }
  | stopped (hp : p = .io i .run) (hq : q = .io i .returned) :
      Changes i p q f { f with stopped := true }
  | closed (hp : p = .io i .close) (hq : q = .io i .sweep) (hf : f.acceptorOpen = true) :
      Changes i p q f { f with acceptorOpen := false }
  | notified (hp : p = .io i .notify) (hq : q = .io i .run) :
      Changes i p q f { f with notified := true }

/-- From the first place a thread can come to the second: within the same call, or at its end; the
signal calls a slot, and the slot returns to it. -/
inductive LifePoint.Follows : LifePoint → LifePoint → Prop
  | done (p : LifePoint) : Follows p .idle
  | construct (i : ManagerId) (r r' : ConstructPoint) (hr : r ≠ .slot) :
      Follows (.construct i r) (.construct i r')
  | start (i : ManagerId) (l l' : Bool) : Follows (.start i l) (.start i l')
  | disconnect (i : ManagerId) (r r' : StopPoint) (slots : Option (List ManagerId)) :
      Follows (.disconnect i r slots) (.disconnect i r' slots)
  | called (i : ManagerId) (slots : List ManagerId) :
      Follows (.managers (.signal (i :: slots))) (.disconnect i .lock (some slots))
  | left (i : ManagerId) (e : StopEnd) (slots : List ManagerId) (r : ManagersPoint) :
      Follows (.disconnect i (.leave e) (some slots)) (.managers r)
  | managers (r r' : ManagersPoint) : Follows (.managers r) (.managers r')
  | accepting (v l l' : Bool) : Follows (.accepting v l) (.accepting v l')
  | answer (i : ManagerId) (r r' : AnswerPoint) : Follows (.answer i r) (.answer i r')
  | io (i : ManagerId) (r r' : IoServicePoint) : Follows (.io i r) (.io i r')

namespace ServerData

open FrontEndLife

variable {c : Choice} {d d' : ServerData} {p q : LifePoint} {i j : ManagerId}

@[simp] theorem modify_state (f : FrontEndLife → FrontEndLife) :
    (d.modify i f).state = d.state := rfl

@[simp] theorem setState_frontEnd (s : SynchronisedBackEndState) :
    (d.setState s).frontEnd = d.frontEnd := rfl

@[simp] theorem setState_state (s : SynchronisedBackEndState) : (d.setState s).state = s := rfl

theorem modify_frontEnd_self (f : FrontEndLife → FrontEndLife) :
    (d.modify i f).frontEnd i = f (d.frontEnd i) := Function.update_self ..

theorem modify_frontEnd_other (h : j ≠ i) (f : FrontEndLife → FrontEndLife) :
    (d.modify i f).frontEnd j = d.frontEnd j := Function.update_of_ne h ..

/-- An action that changes one front end. -/
theorem changes_modify {f : FrontEndLife → FrontEndLife}
    (h : Changes i p q (d.frontEnd i) (f (d.frontEnd i))) (j : ManagerId) :
    Changes j p q (d.frontEnd j) ((d.modify i f).frontEnd j) := by
  by_cases hj : j = i
  · subst hj
    rw [modify_frontEnd_self]
    exact h
  · rw [modify_frontEnd_other hj]
    exact .work _

/-- A handler, up to the first mutex. -/
theorem run_changes {h : Handler} {succeeds : Bool} {f f' : FrontEndLife} {r : IoServicePoint}
    (hrun : h.run succeeds f = .ok (r, f')) : Changes i (.io i .run) (.io i r) f f' := by
  revert hrun
  fun_cases Handler.run succeeds f h <;> intro hrun <;> cases hrun <;>
    first | exact .work _ | exact .shutdown rfl rfl | exact .stopped rfl rfl

/-- `shutdown_handler` is entered as a handler. -/
theorem handler_of_close (h : d.act c (.io i .run) = .ok (.io i .close, d')) :
    c.handler = .shutdown := by
  obtain ⟨⟨r, f⟩, hrun, hret⟩ := bind_eq_ok.mp (show d.actIo c i .run = _ from h)
  cases hret
  revert hrun
  fun_cases Handler.run c.succeeds (d.frontEnd i) c.handler <;> intro hrun <;> cases hrun
  rfl

/-- **What an action does to the front ends.** -/
theorem act_changes (h : d.act c p = .ok (q, d')) (j : ManagerId) :
    Changes j p q (d.frontEnd j) (d'.frontEnd j) := by
  cases p with
  | idle => cases h; exact .work _
  | construct i r =>
    cases r with
    | connect => cases h; exact changes_modify .connected j
    | slot =>
      cases h
      exact changes_modify (d := d.setState _) (f := fun f => { f with constructed := true })
        (.constructed rfl) j
    | _ => cases h; exact .work _
  | start i locked =>
    cases locked with
    | false => cases h; exact .work _
    | true =>
      simp only [act, actStart, Except.ok.injEq] at h
      split at h
      · rename_i hs
        cases h
        simp only [Bool.and_eq_true, Bool.not_eq_true'] at hs
        exact changes_modify (.started _ rfl hs.1) j
      · cases h
        exact .work _
  | disconnect i r slots =>
    cases r with
    | post => cases h; exact changes_modify (.posted rfl rfl) j
    | leave e => cases slots <;> cases h <;> exact .work _
    | _ => cases h; exact .work _
  | managers r => cases h; exact .work _
  | accepting value locked => cases locked <;> cases h <;> exact .work _
  | answer i r =>
    cases r with
    | write => cases h; exact changes_modify (.work _) j
    | _ => cases h; exact .work _
  | io i r =>
    revert h
    show d.actIo c i r = _ → _
    fun_cases actIo c i d r <;> intro h
    case case2 =>
      obtain ⟨⟨r', f⟩, hrun, hret⟩ := bind_eq_ok.mp h
      cases hret
      exact changes_modify (f := fun _ => f) (run_changes hrun) j
    case case4 s hs hc => cases h; exact changes_modify (d := d.setState s) (.work _) j
    case case5 s hs hc => cases h; exact .work _
    case case6 s hs => cases h; exact changes_modify (d := d.setState s) (.work _) j
    case case8 => cases h; exact changes_modify (d := d.setState _) (.work _) j
    case case9 hc =>
      cases h
      exact changes_modify (.closed rfl rfl (by simpa using (Bool.and_eq_true _ _ ▸ hc).2)) j
    case case11 => cases h; exact changes_modify (.work _) j
    case case14 => cases h; exact changes_modify (.notified rfl rfl) j
    all_goals first | (cases h; exact .work _) | cases h

/-- An action that changes one front end, and not its idle connections. -/
theorem sameIdle_modify {f : FrontEndLife → FrontEndLife}
    (h : (d.frontEnd i).work.SameIdle (f (d.frontEnd i)).work) (j : ManagerId) :
    (d.frontEnd j).work.SameIdle ((d.modify i f).frontEnd j).work := by
  by_cases hj : j = i
  · subst hj
    rw [modify_frontEnd_self]
    exact h
  · rw [modify_frontEnd_other hj]
    exact .refl _

/-- **The idle connections are those of the io thread.** -/
theorem act_sameIdle (h : d.act c p = .ok (q, d')) (hp : ∀ r, p ≠ .io j r) :
    (d.frontEnd j).work.SameIdle (d'.frontEnd j).work := by
  cases p with
  | idle => cases h; exact .refl _
  | construct i r =>
    cases r with
    | connect => cases h; exact sameIdle_modify (.refl _) j
    | slot =>
      cases h
      exact sameIdle_modify (d := d.setState _) (f := fun f => { f with constructed := true })
        (.refl _) j
    | _ => cases h; exact .refl _
  | start i locked =>
    cases locked with
    | false => cases h; exact .refl _
    | true =>
      simp only [act, actStart, Except.ok.injEq] at h
      split at h
      · cases h
        exact sameIdle_modify (.begin _ (by simp)) j
      · cases h
        exact .refl _
  | disconnect i r slots =>
    cases r with
    | post => cases h; exact sameIdle_modify (.refl _) j
    | leave e => cases slots <;> cases h <;> exact .refl _
    | _ => cases h; exact .refl _
  | managers r => cases h; exact .refl _
  | accepting value locked => cases locked <;> cases h <;> exact .refl _
  | answer i r =>
    cases r with
    | write => cases h; exact sameIdle_modify (.begin _ (by simp)) j
    | _ => cases h; exact .refl _
  | io i r =>
    have hj : j ≠ i := by
      rintro rfl
      exact hp r rfl
    have hother : ∀ (d : ServerData) f, ((d.modify i f).frontEnd j) = d.frontEnd j :=
      fun d f => modify_frontEnd_other hj f
    have hsame : d'.frontEnd j = d.frontEnd j := by
      revert h
      show d.actIo c i r = _ → _
      fun_cases actIo c i d r <;> intro h
      case case2 =>
        obtain ⟨⟨r', f⟩, hrun, hret⟩ := bind_eq_ok.mp h
        cases hret
        exact hother _ _
      all_goals first | (cases h; done) | (cases h; rfl) | (cases h; exact hother _ _)
    rw [hsame]
    exact .refl _

/-- What an action does to the slots of the back end. -/
inductive SlotsChange (d : ServerData) (p q : LifePoint) (d' : ServerData) : Prop
  | same (h : d'.state.slots = d.state.slots)
  | registered (i : ManagerId) (hp : p = .construct i .slot) (hq : q = .idle)
      (h : d'.state.slots = d.state.slots ++ [i])
      (hconstructed : (d'.frontEnd i).constructed = true)
  | disconnected (i : ManagerId) {slots} (hp : p = .disconnect i .disconnect slots)
      (hq : q = .disconnect i (.leave .disconnected) slots)
      (h : d'.state.slots = d.state.slots.erase i)

theorem startARequest_slots {s s' : SynchronisedBackEndState} {b : Bool}
    (h : s.startARequest = (b, s')) : s'.slots = s.slots := by
  unfold SynchronisedBackEndState.startARequest at h
  split at h <;> cases h <;> rfl

/-- **The slots** change when a front end is registered, and when it is disconnected. -/
theorem act_slots (h : d.act c p = .ok (q, d')) : SlotsChange d p q d' := by
  cases p with
  | idle => cases h; exact .same rfl
  | construct i r =>
    cases r with
    | slot =>
      cases h
      refine .registered i rfl rfl rfl ?_
      rw [modify_frontEnd_self]
    | _ => cases h; exact .same rfl
  | start i locked =>
    cases locked with
    | false => cases h; exact .same rfl
    | true =>
      simp only [act, actStart, Except.ok.injEq] at h
      split at h <;> cases h <;> exact .same rfl
  | disconnect i r slots =>
    cases r with
    | disconnect => cases h; exact .disconnected i rfl rfl rfl
    | leave e => cases slots <;> cases h <;> exact .same rfl
    | _ => cases h; exact .same rfl
  | managers r => cases h; exact .same rfl
  | accepting value locked =>
    cases locked with
    | false => cases h; exact .same rfl
    | true => cases value <;> cases h <;> exact .same rfl
  | answer i r => cases r <;> cases h <;> exact .same rfl
  | io i r =>
    revert h
    show d.actIo c i r = _ → _
    fun_cases actIo c i d r <;> intro h
    case case2 =>
      obtain ⟨⟨r', f⟩, hrun, hret⟩ := bind_eq_ok.mp h
      cases hret
      exact .same rfl
    case case4 s hs hc => cases h; exact .same (startARequest_slots hs)
    case case5 s hs hc => cases h; exact .same (startARequest_slots hs)
    case case6 s hs => cases h; exact .same (startARequest_slots hs)
    all_goals first | (cases h; exact .same rfl) | cases h

/-- An io thread stays in its program. -/
theorem actIo_place {r : IoServicePoint} (h : d.actIo c i r = .ok (q, d')) :
    ∃ r', q = .io i r' := by
  revert h
  fun_cases actIo c i d r <;> intro h
  case case2 =>
    obtain ⟨⟨r', f⟩, hrun, hret⟩ := bind_eq_ok.mp h
    cases hret
    exact ⟨r', rfl⟩
  all_goals first | (cases h; exact ⟨_, rfl⟩) | cases h

/-- Within `disconnect_from_backend` the thread stays there. -/
theorem actDisconnect_place {r : StopPoint} {slots : Option (List ManagerId)}
    (hr : ∀ e, r ≠ .leave e) (h : d.actDisconnect i slots r = (q, d')) :
    ∃ r', q = .disconnect i r' slots := by
  cases r with
  | leave e => exact absurd rfl (hr e)
  | _ => cases h; exact ⟨_, rfl⟩

/-- **An action stays in the call of its thread**, or ends it. -/
theorem act_follows (h : d.act c p = .ok (q, d')) : p.Follows q := by
  cases p with
  | idle => cases h; exact .done _
  | construct j r =>
    cases r with
    | useable =>
      simp only [act, actConstruct, Except.ok.injEq] at h
      split at h <;> cases h
      · exact .construct _ _ _ (by simp)
      · exact .done _
    | slot => cases h; exact .done _
    | _ => cases h; exact .construct _ _ _ (by simp)
  | start j l =>
    cases l with
    | false => cases h; exact .start _ _ _
    | true =>
      simp only [act, actStart, Except.ok.injEq] at h
      split at h <;> cases h <;> exact .done _
  | disconnect j r slots =>
    have hact : d.actDisconnect j slots r = (q, d') := by simpa [act] using h
    by_cases hr : ∃ e, r = .leave e
    · obtain ⟨e, rfl⟩ := hr
      cases slots <;> cases hact
      · exact .done _
      · exact .left _ _ _ _
    · obtain ⟨r', rfl⟩ := actDisconnect_place (fun e he => hr ⟨e, he⟩) hact
      exact .disconnect _ _ _ _
  | managers r =>
    revert h
    simp only [act, Except.ok.injEq, Prod.mk.injEq]
    fun_cases actManagers d r <;> rintro ⟨rfl, -⟩ <;>
      first | exact .done _ | exact .called _ _ | exact .managers _ _
  | accepting v l => cases l <;> cases h <;> first | exact .done _ | exact .accepting _ _ _
  | answer j r => cases r <;> cases h <;> first | exact .done _ | exact .answer _ _ _
  | io j r =>
    obtain ⟨r', rfl⟩ := actIo_place (show d.actIo c j r = _ from h)
    exact .io _ _ _

/-- A thread in the constructor was there. -/
theorem act_construct_from {r : ConstructPoint} (h : d.act c p = .ok (.construct i r, d')) :
    ∃ r', p = .construct i r' ∧ r' ≠ .slot := by
  cases act_follows h with
  | construct _ r' _ hr => exact ⟨r', rfl, hr⟩

/-- A thread in `start` was there. -/
theorem act_start_from {locked : Bool} (h : d.act c p = .ok (.start i locked, d')) :
    ∃ locked', p = .start i locked' := by
  cases act_follows h with
  | start _ locked' => exact ⟨locked', rfl⟩

/-- A thread in the program of an io thread was there. -/
theorem act_io_from {r : IoServicePoint} (h : d.act c p = .ok (.io i r, d')) :
    ∃ r', p = .io i r' := by
  cases act_follows h with
  | io _ r' => exact ⟨r', rfl⟩

/-- Where a thread in `disconnect_from_backend` comes from: it was there, or the signal calls the
slot. -/
theorem act_disconnect_from {r : StopPoint} {slots : Option (List ManagerId)}
    (h : d.act c p = .ok (.disconnect i r slots, d')) :
    (∃ r', p = .disconnect i r' slots ∧
      d.actDisconnect i slots r' = (.disconnect i r slots, d')) ∨
    ∃ rest, p = .managers (.signal (i :: rest)) ∧ r = .lock ∧ slots = some rest ∧
      i ∈ d.state.slots ∧ d' = d := by
  cases hp : act_follows h with
  | disconnect _ r' =>
    left
    exact ⟨r', rfl, by simpa [act] using h⟩
  | called _ rest =>
    right
    simp only [act, actManagers, Except.ok.injEq, Prod.mk.injEq] at h
    split at h
    · rename_i hmem
      exact ⟨rest, rfl, rfl, rfl, hmem, h.2.symm⟩
    · cases h.1

/-- A front end has a slot that had one, or that is registered. -/
theorem SlotsChange.mem (h : SlotsChange d p q d') (hi : i ∈ d'.state.slots) :
    i ∈ d.state.slots ∨ p = .construct i .slot ∧ (d'.frontEnd i).constructed = true := by
  cases h with
  | same h => exact .inl (h ▸ hi)
  | registered j hp hq h hconstructed =>
    rw [h, List.mem_append, List.mem_singleton] at hi
    rcases hi with hi | rfl
    · exact .inl hi
    · exact .inr ⟨hp, hconstructed⟩
  | disconnected j hp hq h => exact .inl (List.mem_of_mem_erase (h ▸ hi))

/-- A front end that loses its slot is the one that is disconnected. -/
theorem SlotsChange.lost (h : SlotsChange d p q d') (hi : i ∈ d.state.slots)
    (hi' : i ∉ d'.state.slots) : ∃ slots, p = .disconnect i .disconnect slots := by
  cases h with
  | same h => exact absurd (h ▸ hi) hi'
  | registered j hp hq h hconstructed =>
    exact absurd (h ▸ List.mem_append_left _ hi) hi'
  | @disconnected j slots hp hq h =>
    by_cases hij : i = j
    · subst hij
      exact ⟨_, hp⟩
    · exact absurd (h ▸ (List.mem_erase_of_ne hij).mpr hi) hi'

section

attribute [local simp] LifePoint.wants LifePoint.holds LifePoint.holdsState LifePoint.holdsFrontEnd
  LifePoint.holdsNotification LifePoint.releases LifePoint.discipline

theorem actDisconnect_leads (i : ManagerId) (slots : Option (List ManagerId)) (d : ServerData)
    (r : StopPoint) :
    LifePoint.discipline.Leads (.disconnect i r slots) (d.actDisconnect i slots r).1 := by
  intro m
  cases r with
  | leave e =>
    cases slots with
    | none => cases m <;> simp [actDisconnect]
    | some rest => by_cases he : e = .threw <;> cases m <;> simp [actDisconnect, he]
  | poll n =>
    simp only [actDisconnect]
    split
    · cases m <;> cases slots <;> simp
    · cases n <;> cases m <;> cases slots <;> simp
  | _ =>
    cases slots <;> simp only [actDisconnect] <;> (try split) <;> cases m <;> simp

theorem actIo_leads {r : IoServicePoint} (h : d.actIo c i r = .ok (q, d')) :
    LifePoint.discipline.Leads (.io i r) q := by
  intro m
  revert h
  fun_cases actIo c i d r <;> intro h
  case case2 =>
    obtain ⟨⟨r', f⟩, hrun, hret⟩ := bind_eq_ok.mp h
    cases hret
    revert hrun
    fun_cases Handler.run c.succeeds (d.frontEnd i) c.handler <;> intro hrun <;> cases hrun <;>
      cases m <;> simp
  all_goals first | (cases h; cases m <;> simp) | cases h

/-- **An action** locks the mutex wanted, or unlocks the one released. -/
theorem act_leads (h : d.act c p = .ok (q, d')) : LifePoint.discipline.Leads p q := by
  cases p with
  | idle => cases h; intro m; cases m <;> simp
  | construct i r =>
    intro m
    cases r with
    | useable =>
      simp only [act, actConstruct, Except.ok.injEq] at h
      split at h <;> cases h <;> cases m <;> simp
    | _ => cases h; cases m <;> simp
  | start i locked =>
    intro m
    cases locked with
    | false => cases h; cases m <;> simp
    | true =>
      simp only [act, actStart, Except.ok.injEq] at h
      split at h <;> cases h <;> cases m <;> simp
  | disconnect i r slots =>
    have hq : (d.actDisconnect i slots r).1 = q := by
      simp only [act, Except.ok.injEq] at h
      rw [h]
    rw [← hq]
    exact actDisconnect_leads i slots d r
  | managers r =>
    intro m
    revert h
    simp only [act, Except.ok.injEq, Prod.mk.injEq]
    fun_cases actManagers d r <;> rintro ⟨rfl, -⟩ <;> cases m <;> simp
  | accepting value locked => intro m; cases locked <;> cases h <;> cases m <;> simp
  | answer i r => intro m; cases r <;> cases h <;> cases m <;> simp
  | io i r => exact actIo_leads h

end

end ServerData

namespace FrontEndLife

variable {i : ManagerId} {p q : LifePoint} {f f' : FrontEndLife}

/-! What does not change, or only one way. -/

theorem Changes.allocated (h : Changes i p q f f') : f'.allocated = f.allocated := by
  cases h <;> rfl

theorem Changes.stopped_of (h : Changes i p q f f') (hf : f.stopped = true) :
    f'.stopped = true := by
  cases h <;> first | exact hf | rfl

theorem Changes.started_of (h : Changes i p q f f') (hf : f.started = true) :
    f'.started = true := by
  cases h <;> first | exact hf | rfl

theorem Changes.constructed_of (h : Changes i p q f f') (hf : f.constructed = true) :
    f'.constructed = true := by
  cases h <;> first | exact hf | rfl

theorem Changes.initiated_of (h : Changes i p q f f') (hf : f.shutdownInitiated = true) :
    f'.shutdownInitiated = true := by
  cases h <;> first | exact hf | rfl

theorem Changes.of_constructed (h : Changes i p q f f') (hf : f'.constructed = true) :
    f.constructed = true ∨ p = .construct i .slot := by
  cases h <;> first | exact .inl hf | exact .inr ‹_›

end FrontEndLife

namespace LifeWorld

open ServerData

variable {w w' : LifeWorld} {t u : ServerThread} {c : Choice} {i : ManagerId}

/-- A step is an action of its thread. -/
theorem fire_step_ok (h : w.fire (.step t c) = .ok w') :
    ∃ q, w.data.act c (w.point t) = .ok (q, w'.data) ∧ w'.point t = q ∧
      (∀ u, u ≠ t → w'.point u = w.point u) ∧
      w'.threads = LifePoint.discipline.move w.threads t q := by
  obtain ⟨⟨q, d⟩, hact, hret⟩ := bind_eq_ok.mp h
  cases hret
  exact ⟨q, hact, Discipline.move_self, fun u hu => Discipline.move_other hu, rfl⟩

/-- An action makes a step. -/
theorem fire_step_of_act {q : LifePoint} {d' : ServerData}
    (hact : w.data.act c (w.point t) = .ok (q, d')) :
    ∃ w', w.fire (.step t c) = .ok w' ∧ w'.point t = q ∧
      (∀ u, u ≠ t → w'.point u = w.point u) ∧ w'.data = d' := by
  refine ⟨{ threads := LifePoint.discipline.move w.threads t q, data := d' }, ?_,
    Discipline.move_self, fun u hu => Discipline.move_other hu, rfl⟩
  simp only [fire, hact]
  rfl

/-- A call starts at its first place. -/
theorem fire_start_ok {t : ThreadId} {call : LifeCall} (h : w.fire (.start t call) = .ok w') :
    w'.data = (startCall w.data call).2 ∧ w'.point (.user t) = (startCall w.data call).1 ∧
      (∀ u, u ≠ .user t → w'.point u = w.point u) ∧
      w'.threads = w.threads.place (.user t) (startCall w.data call).1 := by
  cases h
  exact ⟨rfl, Threads.place_self, fun u hu => Threads.place_other hu, rfl⟩

/-- The first place of a call is outside of every guarded block. -/
theorem startCall_holds (d : ServerData) (call : LifeCall) (m : FrontEndMutex) :
    (startCall d call).1.holds m = false := by
  cases call with
  | startBackEnd =>
    simp only [startCall]
    split <;> cases m <;> rfl
  | _ => cases m <;> rfl

theorem owned_start {t : ThreadId} {call : LifeCall}
    (h : LifePoint.discipline.Owned w.threads) (hg : w.enabled (.start t call) = true)
    (hf : w.fire (.start t call) = .ok w') : LifePoint.discipline.Owned w'.threads := by
  simp only [enabled, Bool.and_eq_true, decide_eq_true_eq] at hg
  rw [(fire_start_ok hf).2.2.2]
  refine h.place fun m => ?_
  have hidle : w.threads.point (.user t) = .idle := hg.1
  rw [hidle]
  show (startCall w.data call).1.holds m = _
  rw [startCall_holds]
  cases m <;> rfl

theorem owned_step (h : LifePoint.discipline.Owned w.threads)
    (hg : w.enabled (.step t c) = true) (hf : w.fire (.step t c) = .ok w') :
    LifePoint.discipline.Owned w'.threads := by
  simp only [enabled, Bool.and_eq_true] at hg
  obtain ⟨q, hact, -, -, hthreads⟩ := fire_step_ok hf
  rw [hthreads]
  exact h.move hg.2 (act_leads hact)

end LifeWorld

end RblRpc
