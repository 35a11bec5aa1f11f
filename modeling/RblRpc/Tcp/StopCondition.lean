import RblRpc.Tcp.StopOutcomes

/-!
# What stands in the way of a disconnection

While the signal calls the slot of a front end, its thread holds the mutex of the back end and that
of the front end.  An io thread that was not created is not created then, one that needs the mutex
of the back end waits, and a second `shutdown_handler` finds the acceptor closed and throws.  The
loop of `shutdown_handler` is undefined where it finds an idle connection, and a connection whose
header could not be read stays idle.

* `FrontEndLife.Completable` — nothing of this stands in the way.
* `Completable.before` — **what stands in the way stays there** as long as the call waits.
-/

namespace RblRpc

open Transition Locking

/-- The io thread is about to lock the mutex of the back end, for a request. -/
def IoServicePoint.wantsState : IoServicePoint → Bool
  | .startLock | .endLock => true
  | _ => false

namespace FrontEndLife

variable {f f' : FrontEndLife} {r r' : IoServicePoint}

/-- The `shutdown_handler`s that have yet to close the acceptor. -/
def closings (f : FrontEndLife) (r : IoServicePoint) : ℕ :=
  f.posted + if r = .close then 1 else 0

/-- The loop of `shutdown_handler` can find no idle connection: there is none that a failed header
has left, and once the handler is called there is none at all. -/
structure Sweepable (f : FrontEndLife) (r : IoServicePoint) : Prop where
  posted : 0 < f.posted → f.work.dead = 0
  called : r = .close ∨ r = .sweep → f.work.inactive = 0

/-- With its io thread at `r`, the io service has stopped, or it can: the thread was created, it is
not about to lock the mutex of the back end, the acceptor is open for the `shutdown_handler` that
closes it, and the loop of it can find no idle connection. -/
def Completable (f : FrontEndLife) (r : IoServicePoint) : Prop :=
  f.stopped = true ∨
    f.started = true ∧ r.wantsState = false ∧ f.closings r ≤ f.acceptorOpen.toNat ∧ f.Sweepable r

/-- Four members matter, and the idle connections. -/
theorem Completable.congr (h : f'.Completable r) (hstopped : f'.stopped = f.stopped)
    (hstarted : f'.started = f.started) (hposted : f'.posted = f.posted)
    (hopen : f'.acceptorOpen = f.acceptorOpen) (hidle : f.work.SameIdle f'.work) :
    f.Completable r := by
  rcases h with h | ⟨hs, hwants, hclosings, hsweep⟩
  · exact .inl (hstopped.symm.trans h)
  · rw [closings, hposted, hopen] at hclosings
    refine .inr ⟨hstarted.symm.trans hs, hwants, hclosings, fun hp => ?_, fun hcalled => ?_⟩
    · exact hidle.dead.symm.trans (hsweep.posted (hp.trans_eq hposted.symm))
    · exact hidle.inactive.symm.trans (hsweep.called hcalled)

/-- Between these places nothing is called and nothing locked. -/
theorem Completable.moved (h : f.Completable r') (hstarted : f.started = true)
    (hwants : r.wantsState = false) (hclose : r ≠ .close) (hsweep : r ≠ .sweep) :
    f.Completable r := by
  rcases h with h | ⟨-, -, hclosings, hsweepable⟩
  · exact .inl h
  · refine .inr ⟨hstarted, hwants, ?_, hsweepable.posted, fun hcalled => ?_⟩
    · rw [closings, if_neg hclose]
      exact (Nat.le_add_right _ _).trans hclosings
    · exact (hcalled.elim hclose hsweep).elim

/-- The handler of an operation leaves all but the operations and the connections as they are, and
no idle connection that was left is taken up again. -/
theorem run_completed {op : PendingOperation} {ok succeeds : Bool}
    (hrun : (Handler.completed op ok).run succeeds f = .ok (r', f')) :
    ∃ g, f' = f.onWork g ∧ f.work.dead ≤ (g f.work).dead := by
  cases op <;> cases ok
  case header.true =>
    simp only [Handler.run] at hrun
    split at hrun
    · split at hrun <;> cases hrun
      exact ⟨_, rfl, le_rfl⟩
    · cases hrun
      exact ⟨_, rfl, le_rfl⟩
  case header.false =>
    cases hrun
    exact ⟨_, rfl, Nat.le_succ _⟩
  case cancelled.true => cases hrun
  all_goals cases hrun; exact ⟨_, rfl, le_rfl⟩

/-- A handler that leads to a state from which the io service can stop is called in one. -/
theorem completable_of_run {h : Handler} {succeeds : Bool} (hready : h.ready f = true)
    (hstarted : f.started = true) (hrun : h.run succeeds f = .ok (r', f'))
    (hafter : f'.Completable r') : f.Completable .run := by
  by_cases hs : f.stopped = true
  · exact .inl hs
  cases h with
  | completed op ok =>
    obtain ⟨g, rfl, hdead⟩ := run_completed hrun
    obtain ⟨-, -, hclosings, hsweep⟩ := hafter.resolve_left hs
    refine .inr ⟨hstarted, rfl, (Nat.le_add_right _ _).trans hclosings, fun hposted => ?_, by simp⟩
    exact Nat.le_zero.mp (hdead.trans (hsweep.posted hposted).le)
  | shutdown =>
    cases hrun
    obtain ⟨-, -, hclosings, hsweep⟩ := hafter.resolve_left hs
    have hposted : 0 < f.posted := of_decide_eq_true hready
    have hclosings : f.posted - 1 + 1 ≤ f.acceptorOpen.toNat := hclosings
    refine .inr ⟨hstarted, rfl, ?_, fun _ => ?_, by simp⟩
    · show f.posted + 0 ≤ _
      omega
    · exact Nat.eq_zero_of_add_eq_zero_left (hsweep.called (.inl rfl))
  | none =>
    have hready : f.exhausted = true := hready
    simp only [exhausted, Bool.and_eq_true, decide_eq_true_eq] at hready
    refine .inr ⟨hstarted, rfl, ?_, fun hposted => ?_, by simp⟩
    · show f.posted + 0 ≤ _
      rw [hready.1]
      exact Nat.zero_le _
    · rw [hready.1] at hposted
      cases hposted

end FrontEndLife

namespace LifeWorld

open ServerData FrontEndLife

variable {w w' : LifeWorld} {t s : ServerThread} {c : Choice} {i : ManagerId} {l : LifeLabel}

/-- The thread is in a call that the signal has made, and waits for the io thread. -/
def InCall (w : LifeWorld) (s : ServerThread) (i : ManagerId) : Prop :=
  ∃ r slots, w.point s = .disconnect i r (some slots) ∧ r.hasPosted = true

/-- An io thread was created by `start`, and the io service has stopped when it has returned. -/
structure Born (w : LifeWorld) : Prop where
  started : ∀ i r, w.point (.io i) = .io i r → r ≠ .unborn →
    (w.data.frontEnd i).started = true
  stopped : ∀ i, w.point (.io i) = .io i .returned ↔ (w.data.frontEnd i).stopped = true

/-- The front end's io service has stopped, or can. -/
def Completable (w : LifeWorld) (i : ManagerId) : Prop :=
  ∃ r, w.point (.io i) = .io i r ∧ (w.data.frontEnd i).Completable r

/-! ## What stands in the way stays there -/

/-- An action of the io thread while another thread holds the mutex of the back end. -/
theorem completable_of_actIo {d d' : ServerData} {r r' : IoServicePoint}
    (hact : d.actIo c i r = .ok (.io i r', d')) (hrun : runnable c d (.io i r) = true)
    (hstarted : r ≠ .unborn → (d.frontEnd i).started = true)
    (houtside : (LifePoint.io i r).holds .state = false) (hwants : r.wantsState = false)
    (hdefined : r = .sweep → (d.frontEnd i).work.inactive = 0)
    (h : (d'.frontEnd i).Completable r') : (d.frontEnd i).Completable r := by
  cases r with
  | unborn =>
    cases hact
    exact h.moved hrun rfl (by simp) (by simp)
  | run =>
    obtain ⟨⟨r'', f⟩, hrun', hret⟩ := bind_eq_ok.mp hact
    cases hret
    rw [modify_frontEnd_self] at h
    exact completable_of_run hrun (hstarted (by simp)) hrun' h
  | startLock | endLock => cases hwants
  | start | endRpc => cases houtside
  | close =>
    simp only [actIo] at hact
    split at hact
    · rename_i hopen
      cases hact
      simp only [Bool.and_eq_true] at hopen
      rw [modify_frontEnd_self] at h
      rcases h with h | ⟨hs, -, hclosings, hsweep⟩
      · exact .inl h
      · refine .inr ⟨hs, rfl, ?_, hsweep.posted, fun _ => hsweep.called (.inr rfl)⟩
        simp only [closings, hopen.2] at hclosings ⊢
        simpa using hclosings
    · cases hact
  | sweep =>
    simp only [actIo] at hact
    split at hact <;> cases hact
    rw [modify_frontEnd_self] at h
    have hinactive := hdefined rfl
    rcases h with h | ⟨hs, -, hclosings, -⟩
    · exact .inl h
    · exact .inr ⟨hs, rfl, hclosings, fun _ => Nat.eq_zero_of_add_eq_zero_left hinactive,
        fun _ => hinactive⟩
  | notifyLock =>
    cases hact
    exact h.moved (hstarted (by simp)) rfl (by simp) (by simp)
  | notify =>
    cases hact
    rw [modify_frontEnd_self] at h
    have hrun : (d.frontEnd i).Completable .run := h.congr rfl rfl rfl rfl (.refl _)
    exact hrun.moved (hstarted (by simp)) rfl (by simp) (by simp)
  | returned => cases hrun

/-- An io thread returns when its io service has stopped. -/
theorem stopped_of_returned {d d' : ServerData} {r : IoServicePoint}
    (hact : d.act c (.io i r) = .ok (.io i .returned, d')) (hrun : runnable c d (.io i r) = true) :
    (d'.frontEnd i).stopped = true := by
  have hact : d.actIo c i r = .ok (.io i .returned, d') := hact
  revert hact
  fun_cases actIo c i d r <;> intro hact
  case case2 =>
    obtain ⟨⟨r', f⟩, hrun', hret⟩ := bind_eq_ok.mp hact
    cases hret
    rw [modify_frontEnd_self]
    revert hrun'
    fun_cases Handler.run c.succeeds (d.frontEnd i) c.handler <;> intro hrun' <;> cases hrun'
    rfl
  case case15 => cases hrun
  all_goals cases hact

theorem Born.step (hs : Settled w) (h : Born w) (hg : w.enabled (.step t c) = true)
    (hf : w.fire (.step t c) = .ok w') : Born w' := by
  obtain ⟨q, hact, hself, hother, -⟩ := fire_step_ok hf
  refine ⟨fun i r hr hne => ?_, fun i => ?_⟩
  · have hchanges := act_changes hact i
    by_cases hio : .io i = t
    · subst hio
      rw [hself] at hr
      subst hr
      obtain ⟨r', hp⟩ := act_io_from hact
      by_cases hr' : r' = .unborn
      · subst hr'
        simp only [enabled, hp, Bool.and_eq_true] at hg
        exact hchanges.started_of hg.1
      · exact hchanges.started_of (h.started i r' hp hr')
    · rw [hother _ hio] at hr
      exact hchanges.started_of (h.started i r hr hne)
  · have hchanges := act_changes hact i
    by_cases hio : .io i = t
    · subst hio
      obtain ⟨r', hp⟩ := (hs.io (.io i) i).mpr rfl
      simp only [enabled, hp, Bool.and_eq_true] at hg
      rw [hself]
      constructor
      · rintro rfl
        rw [hp] at hact
        exact stopped_of_returned hact hg.1
      · intro hstopped
        have hnot : (w.data.frontEnd i).stopped ≠ true := fun hcon => by
          rw [(h.stopped i).mpr hcon] at hp
          cases hp
          cases hg.1
        generalize w'.data.frontEnd i = f' at hstopped hchanges
        cases hchanges with
        | stopped _ hq => exact hq
        | _ => exact absurd hstopped hnot
    · rw [hother _ hio, h.stopped i]
      refine ⟨hchanges.stopped_of, fun hstopped => ?_⟩
      generalize w'.data.frontEnd i = f' at hstopped hchanges
      cases hchanges with
      | stopped hp _ => exact absurd ((hs.io t i).mp ⟨_, hp⟩).symm hio
      | _ => exact hstopped

theorem Born.start {t : ThreadId} {call : LifeCall} (h : Born w)
    (hf : w.fire (.start t call) = .ok w') : Born w' := by
  obtain ⟨hdata, -, hother, -⟩ := fire_start_ok hf
  have hsame : ∀ i, (w'.data.frontEnd i).started = (w.data.frontEnd i).started ∧
      (w'.data.frontEnd i).stopped = (w.data.frontEnd i).stopped := fun i => by
    obtain ⟨-, a, v, hfront, -⟩ := startCall_data w.data call i
    rw [hdata, hfront]
    exact ⟨rfl, rfl⟩
  refine ⟨fun i r hr hne => ?_, fun i => ?_⟩
  · rw [hother (.io i) (by simp)] at hr
    rw [(hsame i).1]
    exact h.started i r hr hne
  · rw [hother (.io i) (by simp), (hsame i).2]
    exact h.stopped i

theorem born_init : Born init := by
  refine ⟨fun i r hr hne => ?_, fun i => ?_⟩
  · cases hr
    exact absurd rfl hne
  · constructor <;> intro h <;> cases h

theorem Born.kept (hs : Settled w) (h : Born w) (hg : w.enabled l = true)
    (hf : w.fire l = .ok w') : Born w' := by
  cases l with
  | start t call => exact h.start hf
  | step t c => exact h.step hs hg hf

/-- **What stands in the way stays there** while the call waits. -/
theorem Completable.before (hs : Settled w) (hborn : Born w) (hin : w.InCall s i)
    (hdefined : w.defined l = true) (hg : w.enabled l = true) (hf : w.fire l = .ok w')
    (h : w'.Completable i) : w.Completable i := by
  obtain ⟨r', hr', h⟩ := h
  obtain ⟨place, slots, hplace, hposted⟩ := hin
  have hstate : (w.point s).holds .state = true := by rw [hplace]; rfl
  have hfront : (w.point s).holds (.frontEnd i) = true :=
    holds_frontEnd hplace (by rintro rfl; cases hposted)
  cases l with
  | start t call =>
    obtain ⟨hdata, -, hother, -⟩ := fire_start_ok hf
    obtain ⟨-, a, v, heq, -⟩ := startCall_data w.data call i
    have hidle := startCall_sameIdle w.data call i
    rw [← hdata] at heq hidle
    rw [hother (.io i) (by simp)] at hr'
    exact ⟨r', hr', h.congr (by rw [heq]) (by rw [heq]) (by rw [heq]) (by rw [heq]) hidle⟩
  | step t c =>
    obtain ⟨q, hact, hself, hother, -⟩ := fire_step_ok hf
    by_cases hio : .io i = t
    · subst hio
      rw [hself] at hr'
      subst hr'
      obtain ⟨r, hr⟩ := act_io_from hact
      simp only [enabled, hr, Bool.and_eq_true] at hg
      rw [hr] at hact
      have hsio : s ≠ .io i := by
        rintro rfl
        rw [hr] at hplace
        cases hplace
      refine ⟨r, hr, completable_of_actIo hact hg.1 (hborn.started i r hr) ?_ ?_ ?_ h⟩
      · by_contra hcon
        refine hsio (hs.unique hstate ?_)
        rw [hr]
        exact (Bool.not_eq_false _).mp hcon
      · by_contra hcon
        have hwants : (w.point (.io i)).wants = some .state := by
          rw [hr]
          cases r <;> first | rfl | exact absurd rfl hcon
        rw [hs.owned.not_ready hwants hstate hsio] at hg
        cases hg.2
      · rintro rfl
        simpa only [defined, hr, decide_eq_true_eq] using hdefined
    · rw [hother _ hio] at hr'
      refine ⟨r', hr', ?_⟩
      have hchanges := act_changes hact i
      have hidle := act_sameIdle hact (j := i) fun r hr => hio ((hs.io t i).mp ⟨r, hr⟩).symm
      generalize w'.data.frontEnd i = f' at h hchanges hidle
      -- the thread that steps has another place, or holds what `s` holds
      have hnot : ∀ {p : LifePoint}, w.point t = p → p.holds (.frontEnd i) = true → t = s :=
        fun hp hholds => hs.unique (by rw [hp]; exact hholds) hfront
      have hnoio : ∀ {r}, w.point t = .io i r → False :=
        fun hp => hio ((hs.io t i).mp ⟨_, hp⟩).symm
      cases hchanges with
      | started v hp =>
        obtain rfl := hnot hp (by simp [LifePoint.holds, LifePoint.holdsFrontEnd])
        rw [hp] at hplace
        cases hplace
      | posted hp =>
        obtain rfl := hnot hp (by simp [LifePoint.holds, LifePoint.holdsFrontEnd])
        rw [hp] at hplace
        cases hplace
        cases hposted
      | shutdown hp | stopped hp | closed hp | notified hp => exact (hnoio hp).elim
      | work | connected | constructed => exact h.congr rfl rfl rfl rfl hidle

/-- The same along a run in which the call goes on. -/
theorem Completable.before_run {tr : List (LifeWorld × LifeLabel)} {r : Except TcpFault LifeWorld}
    (hrun : lifeCycleMachine.Run w tr r) (hs : Settled w) (hborn : Born w)
    (hin : ∀ p ∈ tr, p.1.InCall s i ∧ p.1.defined p.2 = true) :
    ∀ w', r = .ok w' → w'.Completable i → w.Completable i := by
  induction hrun with
  | done w =>
    rintro w' hr h
    cases hr
    exact h
  | fault hg hf =>
    rintro w' hr
    cases hr
  | step hg hf hrun ih =>
    rintro w' hr h
    obtain ⟨hcall, hdefined⟩ := hin _ (List.mem_cons_self ..)
    refine Completable.before hs hborn hcall hdefined hg hf ?_
    exact ih (hs.kept hg hf) (hborn.kept hs hg hf)
      (fun p hp => hin p (List.mem_cons_of_mem _ hp)) w' hr h

end LifeWorld

end RblRpc
