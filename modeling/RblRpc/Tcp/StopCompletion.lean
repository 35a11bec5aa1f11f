import RblRpc.Tcp.StopCondition
import RblRpc.Tcp.StopDeadlock

/-!
# Front ends that can be disconnected

Where nothing stands in the way of a call that the signal has made, the io thread can call its
handlers and return while the call waits, and the call can then disconnect the front end.  The
headers that are awaited are read before `shutdown_handler` is called, so that its loop finds no
idle connection.

* `Calling` — the call and the io thread at their places.
* `Calling.finish` — **the io service can stop.**
* `Calling.leave_returned` — **the call ends** when it has.
* `can_disconnect_iff` — **the exact condition for the call to disconnect its front end.**
-/

namespace RblRpc

open Transition Locking

namespace LifeWorld

open ServerData FrontEndLife

variable {w w' : LifeWorld} {t s : ServerThread} {c : Choice} {i : ManagerId} {l : LifeLabel}

/-! ## Runs in which the call goes on -/

/-- A run in which the call goes on, and all steps are defined, leads from the first state to the
second. -/
def Within (s : ServerThread) (i : ManagerId) (w w' : LifeWorld) : Prop :=
  ∃ tr, lifeCycleMachine.Run w tr (.ok w') ∧ ∀ p ∈ tr, p.1.InCall s i ∧ p.1.defined p.2 = true

theorem Within.refl (s : ServerThread) (i : ManagerId) (w : LifeWorld) : Within s i w w :=
  ⟨[], .done w, by simp⟩

theorem Within.trans {w₁ w₂ w₃ : LifeWorld} (h : Within s i w₁ w₂) (h' : Within s i w₂ w₃) :
    Within s i w₁ w₃ := by
  obtain ⟨tr, hrun, hin⟩ := h
  obtain ⟨tr', hrun', hin'⟩ := h'
  refine ⟨tr ++ tr', hrun.append hrun', fun p hp => ?_⟩
  rcases List.mem_append.mp hp with hp | hp
  · exact hin p hp
  · exact hin' p hp

theorem Within.single (hin : w.InCall s i) (hdefined : w.defined l = true)
    (hg : w.enabled l = true) (hf : w.fire l = .ok w') : Within s i w w' := by
  refine ⟨[(w, l)], .step hg hf (.done w'), fun p hp => ?_⟩
  rw [List.mem_singleton.mp hp]
  exact ⟨hin, hdefined⟩

/-- The thread is in its call, at `r`, with `slots` still to be called, and the io thread at `p`. -/
structure Calling (w : LifeWorld) (s : ServerThread) (i : ManagerId) (r : StopPoint)
    (slots : List ManagerId) (p : IoServicePoint) : Prop where
  settled : Settled w
  born : Born w
  point : w.point s = .disconnect i r (some slots)
  posted : r.hasPosted = true
  io : w.point (.io i) = .io i p

variable {r : StopPoint} {slots : List ManagerId} {p : IoServicePoint} {d : ServerData}

theorem Calling.inCall (h : Calling w s i r slots p) : w.InCall s i :=
  ⟨r, slots, h.point, h.posted⟩

theorem Calling.ne_io (h : Calling w s i r slots p) : s ≠ .io i := by
  rintro rfl
  have hcon := h.point
  rw [h.io] at hcon
  cases hcon

/-- The io thread takes an action. -/
theorem Calling.io_step {q : IoServicePoint} (h : Calling w s i r slots p)
    (hrun : runnable c w.data (.io i p) = true)
    (hready : LifePoint.discipline.ready w.threads (.io i) = true)
    (hact : w.data.actIo c i p = .ok (.io i q, d))
    (hdefined : p = .sweep → (w.data.frontEnd i).work.inactive = 0) :
    ∃ w', Within s i w w' ∧ Calling w' s i r slots q ∧ w'.data = d := by
  have hact' : w.data.act c (w.point (.io i)) = .ok (.io i q, d) := by
    rw [h.io]
    exact hact
  have hg : w.enabled (.step (.io i) c) = true := by
    simp only [enabled, h.io, Bool.and_eq_true]
    exact ⟨hrun, hready⟩
  have hd : w.defined (.step (.io i) c) = true := by
    simp only [defined, h.io]
    cases p <;> first | rfl | exact decide_eq_true (hdefined rfl)
  obtain ⟨w', hf, hself, hother, hdata⟩ := fire_step_of_act hact'
  exact ⟨w', .single h.inCall hd hg hf, ⟨h.settled.step hg hf, h.born.step h.settled hg hf,
    (hother s h.ne_io).trans h.point, h.posted, hself⟩, hdata⟩

/-- The thread takes an action in its call. -/
theorem Calling.call_step {q : StopPoint} (h : Calling w s i r slots p)
    (hready : LifePoint.discipline.ready w.threads s = true)
    (hact : w.data.actDisconnect i (some slots) r = (.disconnect i q (some slots), d)) :
    ∃ w', Within s i w w' ∧ w'.point s = .disconnect i q (some slots) ∧
      (q.hasPosted = true → Calling w' s i q slots p) ∧ w'.data = d := by
  have hact' : w.data.act {} (w.point s) = .ok (.disconnect i q (some slots), d) := by
    rw [h.point]
    simp [act, hact]
  have hg : w.enabled (.step s {}) = true := by
    simp only [enabled, h.point, Bool.and_eq_true]
    exact ⟨rfl, hready⟩
  have hd : w.defined (.step s {}) = true := by simp only [defined, h.point]
  obtain ⟨w', hf, hself, hother, hdata⟩ := fire_step_of_act hact'
  exact ⟨w', .single h.inCall hd hg hf, hself, fun hposted => ⟨h.settled.step hg hf,
    h.born.step h.settled hg hf, hself, hposted, (hother _ h.ne_io.symm).trans h.io⟩, hdata⟩

/-! ## What is free -/

/-- A thread that wants no mutex can go on. -/
theorem ready_of_wants_none (h : (w.point t).wants = none) :
    LifePoint.discipline.ready w.threads t = true := by
  show (LifePoint.wants (w.threads.point t)).all _ = true
  rw [show LifePoint.wants (w.threads.point t) = none from h]
  rfl

/-- The call can lock the mutex of the back end, which the signal holds. -/
theorem Calling.ready_state (h : Calling w s i r slots p)
    (hwants : (w.point s).wants = some .state) :
    LifePoint.discipline.ready w.threads s = true := by
  have howner := owner_of_signalled h.settled h.point
  show (LifePoint.wants (w.threads.point s)).all _ = true
  rw [show LifePoint.wants (w.threads.point s) = some .state from hwants]
  simp [Discipline.free, howner, LifePoint.discipline]

/-- The notification object of a front end is held by its caller or its io thread. -/
theorem Calling.holder (h : Calling w s i r slots p)
    (ht : w.threads.owner (.notification i) = some t) :
    t = s ∧ (r = .wait ∨ r = .woken) ∨ t = .io i ∧ p = .notify := by
  have hholds : (w.point t).holds (.notification i) = true := (h.settled.owned _ t).mp ht
  cases hp : w.point t with
  | disconnect j r' slots' =>
    rw [hp] at hholds
    simp only [LifePoint.holds, LifePoint.holdsNotification] at hholds
    split at hholds
    · rename_i hr'
      obtain rfl : j = i := by simpa using hholds
      have hts : t = s := by
        refine h.settled.unique (holds_frontEnd hp ?_) (holds_frontEnd h.point ?_)
        · rintro rfl
          simp at hr'
        · rintro rfl
          cases h.posted
      subst hts
      rw [h.point] at hp
      cases hp
      exact .inl ⟨rfl, hr'⟩
    · cases hholds
  | io j r' =>
    rw [hp] at hholds
    simp only [LifePoint.holds, LifePoint.holdsNotification] at hholds
    split at hholds
    · rename_i hr'
      obtain rfl : j = i := by simpa using hholds
      have hti := (h.settled.io t j).mp ⟨_, hp⟩
      subst hti
      rw [h.io] at hp
      cases hp
      exact .inr ⟨rfl, hr'⟩
    · cases hholds
  | _ =>
    rw [hp] at hholds
    cases hholds

/-- While neither of them is at it, the notification object can be locked. -/
theorem Calling.ready_notification (h : Calling w s i r slots p) (hr : r ≠ .wait) (hr' : r ≠ .woken)
    (hp : p ≠ .notify) (hwants : (w.point t).wants = some (.notification i)) :
    LifePoint.discipline.ready w.threads t = true := by
  have howner : w.threads.owner (.notification i) = none := by
    cases hu : w.threads.owner (.notification i) with
    | none => rfl
    | some u =>
      rcases h.holder hu with ⟨-, hcon | hcon⟩ | ⟨-, hcon⟩
      · exact absurd hcon hr
      · exact absurd hcon hr'
      · exact absurd hcon hp
  show (LifePoint.wants (w.threads.point t)).all _ = true
  rw [show LifePoint.wants (w.threads.point t) = some (.notification i) from hwants]
  simp [Discipline.free, howner]

/-! ## The io service stops -/

/-- The call goes on until the io service has stopped. -/
def Finishes (w : LifeWorld) (s : ServerThread) (i : ManagerId) (r : StopPoint)
    (slots : List ManagerId) : Prop :=
  ∃ w', Within s i w w' ∧ Calling w' s i r slots .returned

theorem Finishes.of_within (h : Within s i w w') (h' : w'.Finishes s i r slots) :
    w.Finishes s i r slots := by
  obtain ⟨w'', hwithin, hcalling⟩ := h'
  exact ⟨w'', h.trans hwithin, hcalling⟩

end LifeWorld

namespace IoWork

/-- The operations in flight. -/
def total (v : IoWork) : ℕ :=
  v.pending .accept + v.pending .header + v.pending .body + v.pending .write +
    v.pending .cancelled

theorem idle_of_total {v : IoWork} (h : v.total = 0) : v.idle = true := by
  simp only [total] at h
  simp only [idle, List.all_cons, List.all_nil, Bool.and_true, Bool.and_eq_true, decide_eq_true_eq]
  omega

theorem exists_pending {v : IoWork} (h : 0 < v.total) : ∃ op, 0 < v.pending op := by
  by_contra hcon
  have hnone : ∀ op, v.pending op = 0 := fun op =>
    Nat.eq_zero_of_not_pos fun hop => hcon ⟨op, hop⟩
  simp [total, hnone] at h

theorem total_done {v : IoWork} {op : PendingOperation} (h : 0 < v.pending op) :
    (v.done op).total + 1 = v.total := by
  cases op <;> simp [total, done] <;> omega

end IoWork

namespace LifeWorld

open ServerData FrontEndLife

variable {w w' : LifeWorld} {s : ServerThread} {i : ManagerId}
variable {r : StopPoint} {slots : List ManagerId} {p : IoServicePoint}

/-- The handler of an operation that failed. -/
theorem run_failed {f : FrontEndLife} {op : PendingOperation} (hop : 0 < f.work.pending op) :
    ∃ v, (Handler.completed op false).run true f = .ok (.run, f.onWork fun _ => v) ∧
      v.total + 1 = f.work.total := by
  have htotal := IoWork.total_done hop
  cases op
  case header => exact ⟨(f.work.done .header).lose, rfl, htotal⟩
  all_goals exact ⟨_, rfl, htotal⟩

/-- Without a `shutdown_handler` the io thread calls the handlers of all operations, with an error,
and returns. -/
theorem Calling.drain {n : ℕ} (h : Calling w s i r slots .run)
    (hposted : (w.data.frontEnd i).posted = 0)
    (hn : (w.data.frontEnd i).work.total = n) : w.Finishes s i r slots := by
  have hready : LifePoint.discipline.ready w.threads (.io i) = true :=
    ready_of_wants_none (by rw [h.io]; rfl)
  induction n generalizing w with
  | zero =>
    have hexhausted : (w.data.frontEnd i).exhausted = true := by
      simp [exhausted, hposted, IoWork.idle_of_total hn]
    obtain ⟨w', hwithin, hcalling, -⟩ :=
      h.io_step (c := { handler := .none }) hexhausted hready rfl (by simp)
    exact ⟨w', hwithin, hcalling⟩
  | succ n ih =>
    obtain ⟨op, hop⟩ := IoWork.exists_pending (v := (w.data.frontEnd i).work) (by omega)
    obtain ⟨v, hrun, htotal⟩ := run_failed hop
    obtain ⟨w', hwithin, hcalling, hdata⟩ := h.io_step
      (c := { handler := .completed op false }) (q := .run)
      (d := w.data.modify i fun _ => (w.data.frontEnd i).onWork fun _ => v)
      (by simpa [runnable, Handler.ready] using hop) hready
      (by simp only [actIo, hrun]; rfl) (by simp)
    have hfront : w'.data.frontEnd i = (w.data.frontEnd i).onWork fun _ => v := by
      rw [hdata, modify_frontEnd_self]
    refine .of_within hwithin (ih hcalling ?_ ?_ (ready_of_wants_none (by rw [hcalling.io]; rfl)))
    · rw [hfront]
      exact hposted
    · rw [hfront]
      show v.total = n
      omega

/-- The call goes on until the io thread is between two handlers and the front end is `ready`; no
`shutdown_handler` is called, and no connection is left to itself. -/
def ReachesRun (w : LifeWorld) (s : ServerThread) (i : ManagerId) (r : StopPoint)
    (slots : List ManagerId) (ready : FrontEndLife → Prop) : Prop :=
  ∃ w', Within s i w w' ∧ Calling w' s i r slots .run ∧
    (w'.data.frontEnd i).posted = (w.data.frontEnd i).posted ∧
    (w'.data.frontEnd i).acceptorOpen = (w.data.frontEnd i).acceptorOpen ∧
    (w'.data.frontEnd i).work.dead ≤ (w.data.frontEnd i).work.dead ∧ ready (w'.data.frontEnd i)

variable {ready : FrontEndLife → Prop}

theorem ReachesRun.of_within (h : Within s i w w')
    (hposted : (w'.data.frontEnd i).posted = (w.data.frontEnd i).posted)
    (hopen : (w'.data.frontEnd i).acceptorOpen = (w.data.frontEnd i).acceptorOpen)
    (hdead : (w'.data.frontEnd i).work.dead ≤ (w.data.frontEnd i).work.dead)
    (h' : w'.ReachesRun s i r slots ready) : w.ReachesRun s i r slots ready := by
  obtain ⟨w'', hwithin, hcalling, hp, ho, hd, hready⟩ := h'
  exact ⟨w'', h.trans hwithin, hcalling, hp.trans hposted, ho.trans hopen, hd.trans hdead, hready⟩

/-- The handler of a header that was read, before and after `shutdown_handler`. -/
theorem run_header (f : FrontEndLife) : ∃ v,
    (Handler.completed .header true).run true f = .ok (.run, f.onWork fun _ => v) ∧
      v.dead = f.work.dead ∧ v.pending .header = f.work.pending .header - 1 := by
  cases hs : f.shutdownInitiated with
  | true =>
    exact ⟨f.work.done .header, by simp [Handler.run, hs, onWork], rfl, by simp [IoWork.done]⟩
  | false =>
    exact ⟨(f.work.done .header).begin .body, by simp [Handler.run, hs, onWork], rfl,
      by simp [IoWork.done, IoWork.begin]⟩

/-- **The headers that are awaited are read**, and no connection is idle but those left. -/
theorem Calling.readHeaders {n : ℕ} (h : Calling w s i r slots .run)
    (hn : (w.data.frontEnd i).work.pending .header = n) :
    w.ReachesRun s i r slots fun f => f.work.pending .header = 0 := by
  induction n generalizing w with
  | zero => exact ⟨w, .refl s i w, h, rfl, rfl, le_rfl, hn⟩
  | succ n ih =>
    obtain ⟨v, hrun, hdead, hheader⟩ := run_header (w.data.frontEnd i)
    obtain ⟨w', hwithin, hcalling, hdata⟩ := h.io_step
      (c := { handler := .completed .header true }) (q := .run)
      (d := w.data.modify i fun _ => (w.data.frontEnd i).onWork fun _ => v)
      (by simp [runnable, Handler.ready, hn]) (ready_of_wants_none (by rw [h.io]; rfl))
      (by simp only [actIo, hrun]; rfl) (by simp)
    have hfront : w'.data.frontEnd i = (w.data.frontEnd i).onWork fun _ => v := by
      rw [hdata, modify_frontEnd_self]
    refine .of_within hwithin (by rw [hfront]; rfl) (by rw [hfront]; rfl)
      (by rw [hfront]; exact hdead.le) (ih hcalling ?_)
    rw [hfront]
    show v.pending .header = n
    omega

theorem Calling.reachesRun_notify (h : Calling w s i r slots .notify) :
    w.ReachesRun s i r slots fun _ => True := by
  obtain ⟨w', hwithin, hcalling, hdata⟩ := h.io_step (c := {}) rfl
    (ready_of_wants_none (by rw [h.io]; rfl)) rfl (by simp)
  exact ⟨w', hwithin, hcalling, by rw [hdata, modify_frontEnd_self],
    by rw [hdata, modify_frontEnd_self], by rw [hdata, modify_frontEnd_self], trivial⟩

theorem Calling.reachesRun_notifyLock (h : Calling w s i r slots .notifyLock) (hr : r ≠ .wait)
    (hr' : r ≠ .woken) : w.ReachesRun s i r slots fun _ => True := by
  obtain ⟨w', hwithin, hcalling, hdata⟩ := h.io_step (c := {}) rfl
    (h.ready_notification hr hr' (by simp) (by rw [h.io]; rfl)) rfl (by simp)
  exact .of_within hwithin (by rw [hdata]) (by rw [hdata]) (by rw [hdata])
    hcalling.reachesRun_notify

/-- The loop finds no idle connection. -/
theorem Calling.reachesRun_sweep (h : Calling w s i r slots .sweep)
    (hinactive : (w.data.frontEnd i).work.inactive = 0) (hr : r ≠ .wait) (hr' : r ≠ .woken) :
    w.ReachesRun s i r slots fun _ => True := by
  obtain ⟨w', hwithin, hcalling, hdata⟩ := h.io_step (c := {}) rfl
    (ready_of_wants_none (by rw [h.io]; rfl)) rfl fun _ => hinactive
  exact .of_within hwithin (by rw [hdata, modify_frontEnd_self]; rfl)
    (by rw [hdata, modify_frontEnd_self]; rfl)
    (by rw [hdata, modify_frontEnd_self]; exact Nat.zero_le _)
    (hcalling.reachesRun_notifyLock hr hr')

/-- The acceptor is open, and closed by the only `shutdown_handler`. -/
theorem Calling.finish_close (h : Calling w s i r slots .close)
    (hposted : (w.data.frontEnd i).posted = 0) (hopen : (w.data.frontEnd i).acceptorOpen = true)
    (hinactive : (w.data.frontEnd i).work.inactive = 0) (hr : r ≠ .wait) (hr' : r ≠ .woken) :
    w.Finishes s i r slots := by
  obtain ⟨w', hwithin, hcalling, hdata⟩ := h.io_step (c := {}) (q := .sweep)
    (d := w.data.modify i fun f => { f with acceptorOpen := false }) rfl
    (ready_of_wants_none (by rw [h.io]; rfl)) (by simp [actIo, hopen]) (by simp)
  have hinactive' : (w'.data.frontEnd i).work.inactive = 0 := by
    rw [hdata, modify_frontEnd_self]
    exact hinactive
  obtain ⟨w'', hwithin', hcalling', hp, -⟩ := hcalling.reachesRun_sweep hinactive' hr hr'
  refine .of_within hwithin (.of_within hwithin' (hcalling'.drain ?_ rfl))
  rw [hp, hdata, modify_frontEnd_self]
  exact hposted

/-- Between two handlers: the headers are read, and the only `shutdown_handler` is called. -/
theorem Calling.finish_run (h : Calling w s i r slots .run)
    (hclosings : (w.data.frontEnd i).posted ≤ (w.data.frontEnd i).acceptorOpen.toNat)
    (hdead : 0 < (w.data.frontEnd i).posted → (w.data.frontEnd i).work.dead = 0)
    (hr : r ≠ .wait) (hr' : r ≠ .woken) : w.Finishes s i r slots := by
  cases hposted : (w.data.frontEnd i).posted with
  | zero => exact h.drain hposted rfl
  | succ n =>
    have hopen : (w.data.frontEnd i).acceptorOpen = true := by
      by_contra hcon
      rw [Bool.not_eq_true] at hcon
      rw [hposted, hcon] at hclosings
      exact absurd hclosings (by simp)
    rw [hposted, hopen] at hclosings
    obtain ⟨w₁, hwithin₁, hcalling₁, hp, ho, hd, hheader⟩ := h.readHeaders rfl
    have hdead₁ := hd.trans (hdead (hposted ▸ Nat.succ_pos n)).le
    obtain ⟨w', hwithin, hcalling, hdata⟩ := hcalling₁.io_step (c := { handler := .shutdown })
      (q := .close) (by simp [runnable, Handler.ready, hp, hposted])
      (ready_of_wants_none (by rw [hcalling₁.io]; rfl)) rfl (by simp)
    refine .of_within hwithin₁ (.of_within hwithin (hcalling.finish_close ?_ ?_ ?_ hr hr')) <;>
      rw [hdata, modify_frontEnd_self]
    · have hle : n + 1 ≤ 1 := hclosings
      show (w₁.data.frontEnd i).posted - 1 = 0
      omega
    · exact ho.trans hopen
    · show (w₁.data.frontEnd i).work.inactive = 0
      rw [IoWork.inactive]
      omega

theorem ReachesRun.finish (h : w.ReachesRun s i r slots ready)
    (hclosings : (w.data.frontEnd i).posted ≤ (w.data.frontEnd i).acceptorOpen.toNat)
    (hdead : 0 < (w.data.frontEnd i).posted → (w.data.frontEnd i).work.dead = 0)
    (hr : r ≠ .wait) (hr' : r ≠ .woken) : w.Finishes s i r slots := by
  obtain ⟨w', hwithin, hcalling, hp, ho, hd, -⟩ := h
  refine .of_within hwithin (hcalling.finish_run (by rw [hp, ho]; exact hclosings) ?_ hr hr')
  rw [hp]
  exact fun hposted => Nat.le_zero.mp (hd.trans (hdead hposted).le)

/-- **The io service can stop** where nothing stands in its way. -/
theorem Calling.finish (h : Calling w s i r slots p) (hc : (w.data.frontEnd i).Completable p)
    (hr : r ≠ .wait) (hr' : r ≠ .woken) : w.Finishes s i r slots := by
  by_cases hstopped : (w.data.frontEnd i).stopped = true
  · have hio := h.io
    rw [(h.born.stopped i).mpr hstopped] at hio
    cases hio
    exact ⟨w, .refl s i w, h⟩
  obtain ⟨hstarted, hwants, hclosings, hsweep⟩ := hc.resolve_left hstopped
  have houtside : (LifePoint.io i p).holds .state = false := by
    by_contra hcon
    refine h.ne_io (h.settled.unique (m := .state) ?_ ?_)
    · rw [h.point]
      rfl
    · rw [h.io]
      exact (Bool.not_eq_false _).mp hcon
  cases p with
  | unborn =>
    obtain ⟨w', hwithin, hcalling, hdata⟩ := h.io_step (c := {}) (q := .run) hstarted
      (ready_of_wants_none (by rw [h.io]; rfl)) rfl (by simp)
    refine .of_within hwithin (hcalling.finish_run ?_ ?_ hr hr') <;> rw [hdata]
    · exact hclosings
    · exact hsweep.posted
  | run => exact h.finish_run hclosings hsweep.posted hr hr'
  | startLock | endLock => cases hwants
  | start | endRpc => cases houtside
  | close =>
    have hone : (w.data.frontEnd i).posted + 1 ≤ (w.data.frontEnd i).acceptorOpen.toNat :=
      hclosings
    have hle := Bool.toNat_le (w.data.frontEnd i).acceptorOpen
    refine h.finish_close (by omega) ?_ (hsweep.called (.inl rfl)) hr hr'
    by_contra hcon
    rw [Bool.not_eq_true] at hcon
    rw [hcon] at hone
    exact absurd hone (by simp)
  | sweep =>
    exact (h.reachesRun_sweep (hsweep.called (.inr rfl)) hr hr').finish hclosings hsweep.posted
      hr hr'
  | notifyLock =>
    exact (h.reachesRun_notifyLock hr hr').finish hclosings hsweep.posted hr hr'
  | notify => exact h.reachesRun_notify.finish hclosings hsweep.posted hr hr'
  | returned => exact ⟨w, .refl s i w, h⟩

/-! ## The call ends -/

/-- The call can disconnect the front end. -/
def CanDisconnect (w : LifeWorld) (s : ServerThread) (i : ManagerId) : Prop :=
  ∃ w' slots, Within s i w w' ∧ w'.point s = .disconnect i (.leave .disconnected) slots

theorem CanDisconnect.of_within (h : Within s i w w') (h' : w'.CanDisconnect s i) :
    w.CanDisconnect s i := by
  obtain ⟨w'', slots, hwithin, hpoint⟩ := h'
  exact ⟨w'', slots, h.trans hwithin, hpoint⟩

/-- From `disconnect` on. -/
theorem Calling.leave (h : Calling w s i .disconnect slots p) : w.CanDisconnect s i := by
  obtain ⟨w', hwithin, hpoint, -, -⟩ := h.call_step (q := .leave .disconnected)
    (ready_of_wants_none (by rw [h.point]; rfl)) rfl
  exact ⟨w', _, hwithin, hpoint⟩

theorem Calling.leave_lock (h : Calling w s i .disconnectLock slots p) : w.CanDisconnect s i := by
  obtain ⟨w', hwithin, -, hcalling, -⟩ := h.call_step (q := .disconnect)
    (h.ready_state (by rw [h.point]; rfl)) rfl
  exact .of_within hwithin (hcalling rfl).leave

/-- The io service has stopped. -/
theorem Calling.leave_poll {n : ℕ} (h : Calling w s i (.poll n) slots .returned) :
    w.CanDisconnect s i := by
  have hstopped := (h.born.stopped i).mp h.io
  obtain ⟨w', hwithin, -, hcalling, -⟩ := h.call_step (q := .disconnectLock)
    (ready_of_wants_none (by rw [h.point]; rfl))
    (d := w.data) (by simp [actDisconnect, hstopped])
  exact .of_within hwithin (hcalling rfl).leave_lock

theorem Calling.leave_woken (h : Calling w s i .woken slots .returned) : w.CanDisconnect s i := by
  obtain ⟨w', hwithin, -, hcalling, -⟩ := h.call_step (q := .poll 5)
    (ready_of_wants_none (by rw [h.point]; rfl)) rfl
  exact .of_within hwithin (hcalling rfl).leave_poll

theorem Calling.leave_wakeLock (h : Calling w s i .wakeLock slots .returned) :
    w.CanDisconnect s i := by
  obtain ⟨w', hwithin, -, hcalling, -⟩ := h.call_step (q := .woken)
    (h.ready_notification (by simp) (by simp) (by simp) (by rw [h.point]; rfl)) rfl
  exact .of_within hwithin (hcalling rfl).leave_woken

/-- A sleeping call may wake up without a notification. -/
theorem Calling.leave_asleep (h : Calling w s i .asleep slots .returned) :
    w.CanDisconnect s i := by
  obtain ⟨w', hwithin, -, hcalling, -⟩ := h.call_step (q := .wakeLock)
    (ready_of_wants_none (by rw [h.point]; rfl)) rfl
  exact .of_within hwithin (hcalling rfl).leave_wakeLock

theorem Calling.leave_wait (h : Calling w s i .wait slots .returned) : w.CanDisconnect s i := by
  have hready := ready_of_wants_none (w := w) (t := s) (by rw [h.point]; rfl)
  cases hn : (w.data.frontEnd i).notified with
  | true =>
    obtain ⟨w', hwithin, -, hcalling, -⟩ := h.call_step (q := .poll 5) hready
      (d := w.data) (by simp [actDisconnect, hn])
    exact .of_within hwithin (hcalling rfl).leave_poll
  | false =>
    obtain ⟨w', hwithin, -, hcalling, -⟩ := h.call_step (q := .asleep) hready
      (d := w.data) (by simp [actDisconnect, hn])
    exact .of_within hwithin (hcalling rfl).leave_asleep

/-- **The call ends** when the io service has stopped. -/
theorem Calling.leave_returned (h : Calling w s i r slots .returned) : w.CanDisconnect s i := by
  cases r with
  | waitLock =>
    obtain ⟨w', hwithin, -, hcalling, -⟩ := h.call_step (q := .wait)
      (h.ready_notification (by simp) (by simp) (by simp) (by rw [h.point]; rfl)) rfl
    exact .of_within hwithin (hcalling rfl).leave_wait
  | wait => exact h.leave_wait
  | asleep => exact h.leave_asleep
  | wakeLock => exact h.leave_wakeLock
  | woken => exact h.leave_woken
  | poll n => exact h.leave_poll
  | disconnectLock => exact h.leave_lock
  | disconnect => exact h.leave
  | _ => cases h.posted

/-- A call that has locked the notification object goes on first. -/
theorem Calling.canDisconnect (h : Calling w s i r slots p)
    (hc : (w.data.frontEnd i).Completable p) : w.CanDisconnect s i := by
  have hother : ∀ {w r}, Calling w s i r slots p → (w.data.frontEnd i).Completable p →
      r ≠ .wait → r ≠ .woken → w.CanDisconnect s i := by
    intro w r h hc hr hr'
    obtain ⟨w', hwithin, hcalling⟩ := h.finish hc hr hr'
    exact .of_within hwithin hcalling.leave_returned
  have hready : (r = .wait ∨ r = .woken) → LifePoint.discipline.ready w.threads s = true := by
    rintro (rfl | rfl) <;> exact ready_of_wants_none (by rw [h.point]; rfl)
  by_cases hr : r = .wait
  · subst hr
    cases hn : (w.data.frontEnd i).notified with
    | true =>
      obtain ⟨w', hwithin, -, hcalling, hdata⟩ := h.call_step (q := .poll 5) (hready (.inl rfl))
        (d := w.data) (by simp [actDisconnect, hn])
      exact .of_within hwithin (hother (hcalling rfl) (hdata ▸ hc) (by simp) (by simp))
    | false =>
      obtain ⟨w', hwithin, -, hcalling, hdata⟩ := h.call_step (q := .asleep) (hready (.inl rfl))
        (d := w.data) (by simp [actDisconnect, hn])
      exact .of_within hwithin (hother (hcalling rfl) (hdata ▸ hc) (by simp) (by simp))
  · by_cases hr' : r = .woken
    · subst hr'
      obtain ⟨w', hwithin, -, hcalling, hdata⟩ := h.call_step (q := .poll 5)
        (hready (.inr rfl)) (d := w.data) rfl
      exact .of_within hwithin (hother (hcalling rfl) (hdata ▸ hc) (by simp) (by simp))
    · exact hother h hc hr hr'

/-- **When the signal can disconnect a front end.** -/
theorem Settled.canDisconnect_iff (h : Settled w) (hborn : Born w) (hin : w.InCall s i) :
    w.CanDisconnect s i ↔ w.Completable i := by
  obtain ⟨p, hp⟩ := (h.io (.io i) i).mpr rfl
  constructor
  · rintro ⟨w', slots, ⟨tr, hrun, hcalls⟩, hpoint⟩
    have hsettled : Settled w' ∧ Born w' := by
      refine Machine.Reaches.invariant (I := fun w => Settled w ∧ Born w) ?_ ⟨tr, hrun⟩ ⟨h, hborn⟩
      rintro w l w' ⟨hs, hb⟩ hg hf
      exact ⟨hs.kept hg hf, hb.kept hs hg hf⟩
    refine Completable.before_run hrun h hborn hcalls w' rfl ?_
    obtain ⟨p', hp'⟩ := (hsettled.1.io (.io i) i).mpr rfl
    obtain ⟨hc, hgone⟩ := hsettled.1.calls s i _ slots hpoint
    exact ⟨p', hp', .inl (hsettled.1.gone i hc hgone)⟩
  · rintro ⟨p', hp', hc⟩
    obtain ⟨r, slots, hpoint, hposted⟩ := hin
    exact Calling.canDisconnect ⟨h, hborn, hpoint, hposted, hp'⟩ hc

/-- **When the signal can disconnect a front end.**  In every state that a run reaches in which a
call that the signal has made waits for the io thread, some continuation in which the call goes on,
and the loop of `shutdown_handler` never meets an idle connection, ends with the front end
disconnected if and only if its io service has stopped, or its io thread was created and is not
about to lock the mutex of the back end, the acceptor is open for the only `shutdown_handler` that
is left, and no connection that a failed header has left is idle when it is called, nor any other
once it is. -/
theorem can_disconnect_iff (h : lifeCycleMachine.Reaches init w) (hin : w.InCall s i) :
    w.CanDisconnect s i ↔ w.Completable i := by
  have hinv : Settled w ∧ Born w := by
    refine h.invariant (I := fun w => Settled w ∧ Born w) ?_ ⟨settled_init, born_init⟩
    rintro w l w' ⟨hs, hb⟩ hg hf
    exact ⟨hs.kept hg hf, hb.kept hs hg hf⟩
  exact hinv.1.canDisconnect_iff hinv.2 hin

/-- What an observer sees of the front end 0 and of thread 1. -/
def seen (w : LifeWorld) : LifePoint × LifePoint × List Bool × List ℕ :=
  (w.point (.user 1), w.point (.io 0),
    [(w.data.frontEnd 0).stopped, (w.data.frontEnd 0).started, (w.data.frontEnd 0).acceptorOpen],
    [(w.data.frontEnd 0).posted, (w.data.frontEnd 0).work.inactive])

/-- The signal posts the `shutdown_handler` of a front end whose client is heard, and waits. -/
def signalledBusy : List LifeLabel :=
  opening ++ handles 0 (.completed .header true) :: .start 1 .managers :: actions (.user 1) 10

/-- The `shutdown_handler` is called while a client is idle. -/
def sweptIdle : List LifeLabel :=
  opening ++ .start 1 .managers :: actions (.user 1) 10 ++ [handles 0 .shutdown]

/-- The signal can disconnect a front end that reads the body of a request, and not one whose io
thread is about to dispatch a request, nor one whose `shutdown_handler` finds an idle connection. -/
theorem can_disconnect_iff_sample :
    (∃ w : LifeWorld, lifeCycleMachine.Reaches init w ∧ w.InCall (.user 1) 0 ∧
      w.CanDisconnect (.user 1) 0) ∧
    (∃ w : LifeWorld, lifeCycleMachine.Reaches init w ∧ w.InCall (.user 1) 0 ∧
      w.point (.io 0) = .io 0 .startLock ∧ ¬w.CanDisconnect (.user 1) 0) ∧
    ∃ w : LifeWorld, lifeCycleMachine.Reaches init w ∧ w.InCall (.user 1) 0 ∧
      w.point (.io 0) = .io 0 .close ∧ ¬w.CanDisconnect (.user 1) 0 := by
  refine ⟨?_, ?_, ?_⟩
  · obtain ⟨w, hrun, hobs⟩ := lifeCycleMachine.exec_observed init signalledBusy seen
      (a := (.disconnect 0 .asleep (some []), .io 0 .run, [false, true, true], [1, 0]))
      (by decide +kernel) (by decide +kernel)
    simp only [seen, Prod.mk.injEq, List.cons.injEq, and_true] at hobs
    obtain ⟨hpoint, hio, ⟨-, hstarted, hopen⟩, hposted, hinactive⟩ := hobs
    have hin : w.InCall (.user 1) 0 := ⟨_, _, hpoint, rfl⟩
    refine ⟨w, ⟨_, hrun⟩, hin, (can_disconnect_iff ⟨_, hrun⟩ hin).mpr
      ⟨_, hio, .inr ⟨hstarted, rfl, ?_, fun _ => ?_, by simp⟩⟩⟩
    · simp [closings, hposted, hopen]
    · exact Nat.eq_zero_of_add_eq_zero_left hinactive
  · obtain ⟨w, hrun, hobs⟩ := lifeCycleMachine.exec_observed init crossed seen
      (a := (.disconnect 0 .asleep (some []), .io 0 .startLock, [false, true, true], [1, 0]))
      (by decide +kernel) (by decide +kernel)
    simp only [seen, Prod.mk.injEq, List.cons.injEq, and_true] at hobs
    obtain ⟨hpoint, hio, ⟨hstopped, -, -⟩, -, -⟩ := hobs
    have hin : w.InCall (.user 1) 0 := ⟨_, _, hpoint, rfl⟩
    refine ⟨w, ⟨_, hrun⟩, hin, hio, fun hcan => ?_⟩
    obtain ⟨p, hp, hc⟩ := (can_disconnect_iff ⟨_, hrun⟩ hin).mp hcan
    rw [hio] at hp
    cases hp
    rcases hc with hc | ⟨-, hwants, -⟩
    · rw [hstopped] at hc
      cases hc
    · cases hwants
  · obtain ⟨w, hrun, hobs⟩ := lifeCycleMachine.exec_observed init sweptIdle seen
      (a := (.disconnect 0 .asleep (some []), .io 0 .close, [false, true, true], [0, 1]))
      (by decide +kernel) (by decide +kernel)
    simp only [seen, Prod.mk.injEq, List.cons.injEq, and_true] at hobs
    obtain ⟨hpoint, hio, ⟨hstopped, -, -⟩, -, hinactive⟩ := hobs
    have hin : w.InCall (.user 1) 0 := ⟨_, _, hpoint, rfl⟩
    refine ⟨w, ⟨_, hrun⟩, hin, hio, fun hcan => ?_⟩
    obtain ⟨p, hp, hc⟩ := (can_disconnect_iff ⟨_, hrun⟩ hin).mp hcan
    rw [hio] at hp
    cases hp
    rcases hc with hc | ⟨-, -, -, hsweep⟩
    · rw [hstopped] at hc
      cases hc
    · rw [hsweep.called (.inl rfl)] at hinactive
      cases hinactive

end LifeWorld

end RblRpc
