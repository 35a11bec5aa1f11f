import Mathlib.Data.Finset.Card
import RblRpc.Tcp.Exchange

/-!
# The request counter of the front end

`handle_write_response` decrements `rpc_count()`, and so does `handle_read_body` after it, when
`invoke` has turned the request down.

* `awaiting` — the connections whose body was read and whose response was not started.
* `rpcCount_balance` — in every state the counter is their number less the requests turned down.
* `request_counter_iff` — **between handlers the counter is exact if and only if no request was
  turned down inside `invoke`.**
-/

namespace RblRpc

open Transition

/-- Two finite sets that differ at `c` at most. -/
theorem card_of_differ_at {α : Type} [DecidableEq α] {A B : Finset α} (c : α)
    (h : ∀ x, x ≠ c → (x ∈ B ↔ x ∈ A)) :
    (decide (c ∈ A)).toNat + B.card = (decide (c ∈ B)).toNat + A.card := by
  have herase : B.erase c = A.erase c := by
    ext x
    rw [Finset.mem_erase, Finset.mem_erase]
    exact and_congr_right fun hx => h x hx
  have hcard : ∀ X : Finset α, (decide (c ∈ X)).toNat + (X.erase c).card = X.card := by
    intro X
    by_cases hc : c ∈ X
    · rw [Finset.card_erase_of_mem hc, decide_eq_true hc]
      have := Finset.card_pos.mpr ⟨c, hc⟩
      exact Nat.add_sub_cancel' this
    · rw [Finset.erase_eq_of_notMem hc, decide_eq_false hc]
      exact Nat.zero_add _
  have hA := hcard A
  have hB := hcard B
  rw [herase] at hB
  omega

namespace BackEnd

/-- A request that is admitted is posted. -/
theorem checkRequest_admitted {codec : BasicProtocolCodec} {c : ClientPtr} {b b' : BackEnd}
    {i i' : Invoker} (h : Admitted c b i.clientData)
    (hok : b.checkRequest codec c i = .ok (b', i')) : i'.stage = .posted := by
  obtain ⟨s, hs, hfn⟩ := h.service
  cases checkRequest_step hok with
  | noService hnone => cases hnone.symm.trans hs
  | noFunction hs' hfn' =>
    cases hs.symm.trans hs'
    cases hfn.symm.trans hfn'
  | notSubscribed _ _ hne hsub => cases hsub.symm.trans (h.subscribed hne)
  | greeted _ _ hhello hest => cases hest.symm.trans (h.hello hhello.1 hhello.2)
  | notEstablished _ _ hhello hest => cases hest.symm.trans (h.established hhello)
  | posted => rfl

end BackEnd

/-- The request was turned down inside `invoke`, which has not returned to the io thread's loop. -/
def Phase.turnedDown : Phase → Bool
  | rejected | refused | answered => true
  | _ => false

/-- The second `rpc_count()--`. -/
def TcpLabel.uncounts : TcpLabel → Bool
  | .uncount _ => true
  | _ => false

namespace TcpWorld

/-- The connections whose request body was read and whose response was not started. -/
def awaiting (w : TcpWorld) : Finset ClientPtr :=
  w.members.filter fun c => (w.connections c).ioState = .requestDispatchedActive

/-- The connections whose request was turned down, while `handle_read_body` runs. -/
def turned (w : TcpWorld) : Finset ClientPtr :=
  w.members.filter fun c => w.world.stage c = .rejected ∨
    w.ioPoint.taskOf c = some .answering ∨ w.ioPoint.taskOf c = some .answered

/-- The step does not turn a request down: the back end is accepting requests when a body was
read, and admits the request when it is checked. -/
def Admits (p : TcpWorld × TcpLabel) : Prop :=
  match p.2 with
  | .bodyRead _ _ => p.1.world.state.acceptingRequests = true
  | .check c => BackEnd.Admitted c p.1.world.backEnd (p.1.world.data c)
  | _ => True

variable {codec : BasicProtocolCodec} {messages : ClientMessageCodec} {w w' : TcpWorld}
  {c : ClientPtr} {q q' : Option Phase} {l : TcpLabel}

theorem At.mem_awaiting (hq : w.At c q) (hs : w.Sane c) :
    c ∈ w.awaiting ↔ q.any Phase.unanswered = true := by
  rw [awaiting, Finset.mem_filter]
  cases q with
  | none => exact ⟨fun h => absurd h.1 hq.member, fun h => by cases h⟩
  | some p =>
    rw [hq.ioState]
    refine ⟨fun h => decide_eq_true h.2, fun h => ⟨?_, of_decide_eq_true h⟩⟩
    refine (hq.member hs ?_).2
    rintro rfl
    cases h

theorem At.mem_turned (hq : w.At c q) (hs : w.Sane c) :
    c ∈ w.turned ↔ q.any Phase.turnedDown = true := by
  rw [turned, Finset.mem_filter]
  cases q with
  | none => exact ⟨fun h => absurd h.1 hq.member, fun h => by cases h⟩
  | some p =>
    rw [hq.stage, hq.task]
    have hphase : (p.stage = .rejected ∨ p.task = some .answering ∨ p.task = some .answered) ↔
        p.turnedDown = true := by cases p <;> decide
    rw [hphase]
    refine ⟨fun h => h.2, fun h => ⟨?_, h⟩⟩
    refine (hq.member hs ?_).2
    rintro rfl
    cases h

theorem phaseStep_other (h : PhaseStep c l q q') (hl : l.connection ≠ some c) : q' = q := by
  cases h <;> first | rfl | exact absurd rfl hl

/-! ## What a step does to the two sets -/

theorem bodyRead_accepting {body : Bytes} (hf : w.bodyRead messages c body = .ok w') :
    w'.world.stage c = .accepted ↔ w.world.state.acceptingRequests = true := by
  obtain ⟨request, k, v, -, hv, rfl⟩ := bodyRead_ok hf
  obtain ⟨b, i, rfl, -, -, ⟨ha, -, -, hst, -⟩ | ⟨ha, -, hst, -⟩⟩ := World.request_ok hv
  · exact iff_of_true ((World.stage_setInvoker_self _).trans hst) ha
  · refine iff_of_false (fun h => ?_) (by rw [ha]; exact Bool.false_ne_true)
    have hidle : ((w.world.setBackEnd b).setInvoker c i).stage c = .idle :=
      (World.stage_setInvoker_self i).trans hst
    cases hidle.symm.trans h

theorem check_posted (hf : w.check codec c = .ok w') :
    w'.world.stage c = .posted ↔ BackEnd.Admitted c w.world.backEnd (w.world.data c) := by
  obtain ⟨w₁, h₁, hret⟩ := bind_eq_ok.mp hf
  obtain ⟨v, hv, rfl⟩ := onWorld_ok.mp h₁
  have hworld : w'.world = v := by
    split at hret <;> cases hret <;> rfl
  obtain ⟨b, i, hc, rfl⟩ := World.stepInvoker_ok.mp hv
  rw [hworld, World.stage_setInvoker_self]
  refine ⟨fun hst => ?_, fun hadm => BackEnd.checkRequest_admitted hadm hc⟩
  obtain ⟨cs, -, -, ⟨hst', -⟩ | ⟨hadm, -⟩⟩ := BackEnd.checkRequest_ok hc
  · rw [hst] at hst'
    cases hst'
  · exact hadm

/-- What a step does at the connection it serves: to the unanswered requests and the counter. -/
theorem phaseStep_unanswered (h : PhaseStep c l q q') (hl : l.connection = some c) :
    ((q'.any Phase.unanswered).toNat : ℤ) =
      (q.any Phase.unanswered).toNat + l.counts + l.uncounts.toNat := by
  cases h with
  | other _ hne => exact absurd hl hne
  | sweep | failed => simp [TcpLabel.counts, TcpLabel.uncounts]
  | _ => rfl

open Classical in
/-- ... and to the requests turned down. -/
theorem phaseStep_turned (hq : w.At c q) (hq' : w'.At c q') (h : PhaseStep c l q q')
    (hl : l.connection = some c) (hf : w.fire codec messages l = .ok w') :
    l.uncounts.toNat + (q'.any Phase.turnedDown).toNat =
      (q.any Phase.turnedDown).toNat + if Admits (w, l) then 0 else 1 := by
  cases h with
  | other _ hne => exact absurd hl hne
  | bodyAccepted body =>
    have ha : Admits (w, .bodyRead c body) := (bodyRead_accepting hf).mp hq'.stage
    rw [if_pos ha]
    rfl
  | bodyRefused body =>
    have hnot : ¬Admits (w, .bodyRead c body) := by
      intro ha
      cases ((bodyRead_accepting hf).mpr ha).symm.trans hq'.stage
    rw [if_neg hnot]
    rfl
  | post =>
    have ha : Admits (w, .check c) := (check_posted hf).mp hq'.stage
    rw [if_pos ha]
    rfl
  | reject =>
    have hnot : ¬Admits (w, .check c) := by
      intro ha
      cases ((check_posted hf).mpr ha).symm.trans hq'.stage
    rw [if_neg hnot]
    rfl
  | sweep | failed =>
    rw [if_pos]
    · simp [TcpLabel.uncounts]
    · exact trivial
  | _ =>
    rw [if_pos]
    · rfl
    · exact trivial

/-- A set of connections that their phases decide changes at the connection a step serves. -/
theorem card_step {A : TcpWorld → Finset ClientPtr} {f : Phase → Bool}
    (hA : ∀ {w : TcpWorld} {c : ClientPtr} {q : Option Phase}, w.At c q → w.Sane c →
      (c ∈ A w ↔ q.any f = true))
    (h : w.Disciplined) (hg : w.enabled l = true) (hf : w.fire codec messages l = .ok w') :
    (∃ c q q', l.connection = some c ∧ w.At c q ∧ w'.At c q' ∧ PhaseStep c l q q' ∧
        (q.any f).toNat + (A w').card = (q'.any f).toNat + (A w).card) ∨
      l.connection = none ∧ A w' = A w := by
  have hsame : ∀ c, l.connection ≠ some c → (c ∈ A w' ↔ c ∈ A w) := by
    intro c hl
    obtain ⟨q, hq⟩ := h.placed c
    obtain ⟨q', hstep, hq', hs'⟩ := fire_phaseStep h hq hg hf
    rw [hA hq (h.sane c), hA hq' hs', phaseStep_other hstep hl]
  cases hl : l.connection with
  | none =>
    refine .inr ⟨rfl, Finset.ext fun c => hsame c ?_⟩
    rw [hl]
    exact nofun
  | some c =>
    obtain ⟨q, hq⟩ := h.placed c
    obtain ⟨q', hstep, hq', hs'⟩ := fire_phaseStep h hq hg hf
    refine .inl ⟨c, q, q', rfl, hq, hq', hstep, ?_⟩
    have hcard := card_of_differ_at (A := A w) (B := A w') c fun c' hne =>
      hsame c' fun heq => hne (Option.some.inj (heq.symm.trans hl))
    simp only [hA hq (h.sane c), hA hq' hs', Bool.decide_eq_true] at hcard
    exact hcard

/-- **The counter** moves with the awaiting connections, but for the second decrement. -/
theorem awaiting_step (h : w.Disciplined) (hg : w.enabled l = true)
    (hf : w.fire codec messages l = .ok w') :
    (l.uncounts.toNat : ℤ) + (w.awaiting.card - w.frontEnd.rpcCount) =
      (w'.awaiting.card : ℤ) - w'.frontEnd.rpcCount := by
  have hcount : w'.frontEnd.rpcCount = w.frontEnd.rpcCount + l.counts := by
    rw [fire_frontEnd hg hf]
  rcases card_step At.mem_awaiting h hg hf with ⟨c, q, q', hl, -, -, hstep, hcard⟩ | ⟨hl, heq⟩
  · have hphase := phaseStep_unanswered hstep hl
    omega
  · have hzero : l.counts = 0 ∧ l.uncounts = false := by
      cases l <;> first | exact ⟨rfl, rfl⟩ | cases hl
    rw [heq, hcount, hzero.1, hzero.2]
    simp

open Classical in
/-- **The requests turned down** are those of connections the io thread has not finished with,
and those that it decremented the counter for twice. -/
theorem turned_step (h : w.Disciplined) (hg : w.enabled l = true)
    (hf : w.fire codec messages l = .ok w') :
    (decide (¬Admits (w, l))).toNat + w.turned.card = l.uncounts.toNat + w'.turned.card := by
  rcases card_step At.mem_turned h hg hf with ⟨c, q, q', hl, hq, hq', hstep, hcard⟩ | ⟨hl, heq⟩
  · have hphase := phaseStep_turned hq hq' hstep hl hf
    by_cases ha : Admits (w, l)
    · rw [if_pos ha] at hphase
      simp only [ha, not_true_eq_false, decide_false, Bool.toNat_false]
      omega
    · rw [if_neg ha] at hphase
      simp only [ha, not_false_eq_true, decide_true, Bool.toNat_true]
      omega
  · have hzero : Admits (w, l) ∧ l.uncounts = false := by
      cases l <;> first | exact ⟨trivial, rfl⟩ | cases hl
    rw [heq, hzero.2]
    simp [hzero.1]

/-! ## Runs -/

variable {tr : List (TcpWorld × TcpLabel)}

/-- **In every state** the counter is the number of awaiting connections less the second
decrements. -/
theorem rpcCount_balance (h : w.Disciplined)
    (hrun : (frontEndMachine codec messages).Run w tr (.ok w')) :
    (tr.countP (fun p => p.2.uncounts) : ℤ) + (w.awaiting.card - w.frontEnd.rpcCount) =
      w'.awaiting.card - w'.frontEnd.rpcCount := by
  have hbal : (tr.countP (fun p => p.2.uncounts) : ℤ) + (w.awaiting.card - w.frontEnd.rpcCount) =
      tr.countP (fun _ => false) + (w'.awaiting.card - w'.frontEnd.rpcCount) :=
    hrun.balance (I := Disciplined) (fun w => (w.awaiting.card : ℤ) - w.frontEnd.rpcCount)
      (fun w l w' hI hg hf => ⟨hI.step hg hf, by
        rw [Bool.toNat_false, Nat.cast_zero, zero_add]
        exact awaiting_step hI hg hf⟩) h
  simpa using hbal

open Classical in
theorem turned_balance (h : w.Disciplined)
    (hrun : (frontEndMachine codec messages).Run w tr (.ok w')) :
    tr.countP (fun p => ¬Admits p) + w.turned.card =
      tr.countP (fun p => p.2.uncounts) + w'.turned.card := by
  have hbal : (tr.countP (fun p => decide (¬Admits p)) : ℤ) + w.turned.card =
      tr.countP (fun p => p.2.uncounts) + w'.turned.card :=
    hrun.balance (I := Disciplined) (fun w => (w.turned.card : ℤ))
      (fun w l w' hI hg hf => ⟨hI.step hg hf, by exact_mod_cast turned_step hI hg hf⟩) h
  exact_mod_cast hbal

/-- Between two handlers no request is being turned down. -/
theorem turned_eq_empty (h : w.Disciplined) (hwait : w.ioPoint = .waiting) : w.turned = ∅ := by
  apply Finset.eq_empty_of_forall_notMem
  intro c hc
  obtain ⟨q, hq⟩ := h.placed c
  have hturned := (hq.mem_turned (h.sane c)).mp hc
  cases q with
  | none => cases hturned
  | some p =>
    have htask : p.task = none := by
      rw [← hq.task, hwait]
      rfl
    cases p <;> first | cases hturned; done | cases htask

/-- The counter is the number of connections that await their response; it is not negative, and
0 when all are idle. -/
structure CounterExact (w : TcpWorld) : Prop where
  count : w.frontEnd.rpcCount = w.awaiting.card
  nonneg : 0 ≤ w.frontEnd.rpcCount
  idle : (∀ c ∈ w.members, (w.connections c).ioState = .readHeaderWaitRequestStartInactive) →
    w.frontEnd.rpcCount = 0

theorem counterExact_iff : CounterExact w ↔ w.frontEnd.rpcCount = w.awaiting.card := by
  refine ⟨CounterExact.count, fun h => ⟨h, ?_, fun hidle => ?_⟩⟩
  · rw [h]
    exact Int.natCast_nonneg _
  · rw [h, Int.natCast_eq_zero, Finset.card_eq_zero, awaiting, Finset.filter_eq_empty_iff]
    intro c hc hio
    rw [hidle c hc] at hio
    cases hio

/-- **The request counter, exactly.**  In every run of a front end that ends between two handlers
`rpc_count()` is the number of connections whose body was read and whose response was not started
if and only if no request of the run was turned down inside `invoke`. -/
theorem request_counter_iff (codec : BasicProtocolCodec) (messages : ClientMessageCodec)
    (sourceType : SourceConnectionType) (backendType : DestinationConnectionType)
    (hrun : (frontEndMachine codec messages).Run (init sourceType backendType) tr (.ok w))
    (hwait : w.ioPoint = .waiting) : CounterExact w ↔ ∀ p ∈ tr, Admits p := by
  classical
  have hinit := init_disciplined sourceType backendType
  have h : w.Disciplined := disciplined_reaches ⟨tr, hrun⟩
  have hcount := rpcCount_balance hinit hrun
  have hturned := turned_balance hinit hrun
  rw [turned_eq_empty hinit rfl, turned_eq_empty h hwait, Finset.card_empty, Nat.add_zero,
    Nat.add_zero] at hturned
  have hstart : ((init sourceType backendType).awaiting.card : ℤ) -
      (init sourceType backendType).frontEnd.rpcCount = 0 := rfl
  rw [hstart, Int.add_zero] at hcount
  rw [counterExact_iff]
  constructor
  · intro hexact p hp
    by_contra hno
    have hpos : 0 < tr.countP (fun p => ¬Admits p) :=
      List.countP_pos_iff.mpr ⟨p, hp, decide_eq_true hno⟩
    omega
  · intro hall
    have hzero : tr.countP (fun p => ¬Admits p) = 0 :=
      List.countP_eq_zero.mpr fun p hp => by simp [hall p hp]
    omega

/-- A request of a client that has not said hello, on service 0. -/
def sampleRejected (c : ClientPtr) : List TcpLabel :=
  sampleFrames c [8, 0, 16, 1, 26, 2, 104, 105] ++
    [.check c, .endRejected c, .answerRejected c fun _ => 0, .uncount c]

/-- A hello waits in the pool. -/
theorem request_counter_iff_sample : ∃ (tr : List (TcpWorld × TcpLabel)) (w : TcpWorld),
    w.ioPoint = .waiting ∧ w.awaiting.card = 1 ∧ (CounterExact w ↔ ∀ p ∈ tr, Admits p) := by
  obtain ⟨w, hrun, hobs⟩ := (frontEndMachine basicProtocolCodec clientMessageCodec).exec_observed
    (init .sourceRelay .targetMarshall)
    (sampleAccept 7 ++ sampleFrames 7 sampleHelloBody ++ [.check 7])
    (fun w => (w.ioPoint, w.awaiting.card)) (a := (.waiting, 1))
    (by decide +kernel) (by decide +kernel)
  obtain ⟨hwait, hcard⟩ := Prod.mk.inj hobs
  exact ⟨_, w, hwait, hcard, request_counter_iff _ _ _ _ hrun hwait⟩

/-- **A request that is turned down leaves the counter at -1.** -/
theorem request_counter_negative : ¬ ∀ (codec : BasicProtocolCodec)
    (messages : ClientMessageCodec) (sourceType : SourceConnectionType)
    (backendType : DestinationConnectionType) (tr : List (TcpWorld × TcpLabel)) (w : TcpWorld),
    (frontEndMachine codec messages).Run (init sourceType backendType) tr (.ok w) →
      w.ioPoint = .waiting → CounterExact w := by
  intro h
  obtain ⟨w, hrun, hobs⟩ := (frontEndMachine basicProtocolCodec clientMessageCodec).exec_observed
    (init .sourceRelay .targetMarshall) (sampleAccept 7 ++ sampleRejected 7)
    (fun w => (w.ioPoint, w.frontEnd.rpcCount)) (a := (.waiting, -1))
    (by decide +kernel) (by decide +kernel)
  obtain ⟨hwait, hcount⟩ := Prod.mk.inj hobs
  have hnonneg := (h _ _ _ _ _ w hrun hwait).nonneg
  rw [hcount] at hnonneg
  exact absurd hnonneg (by decide)

end TcpWorld

end RblRpc
