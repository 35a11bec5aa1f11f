import RblRpc.Backend.Faults
import RblRpc.Proto.WireFormat

/-!
# Accounting of the requests

`invoke` has seven exits; the matching decrement of `m_active_rpc_count` is made by `invoke` itself
or, for a posted request, by the invoker on a pool thread.

* `Accounted` — the invariant: the count is the number of requests under way, and a posted request
  is in the queue once.
* `accounted_step`, `accounted_reaches` — it holds in every reachable state.
* `run_requestAccount` — **the account of every run, and what each `invoke` leaves.**
-/

namespace RblRpc

open Transition

namespace World

/-- The account of the requests. -/
structure Accounted (w : World) : Prop where
  connected : ∀ c, w.stage c ≠ .idle → c ∈ w.backEnd.connectedClients
  active : ∀ c, (w.data c).rpcActive = true ↔ w.stage c ≠ .idle
  count : ∃ busy : Finset ClientPtr, (∀ c, c ∈ busy ↔ w.stage c ≠ .idle) ∧
    w.state.activeRpcCount = busy.card
  queue : ∀ c, w.backEnd.ioService.queue.count c = if w.stage c = .posted then 1 else 0

/-- A request is under way. -/
def underWay (w : World) (c : ClientPtr) : ℤ := if w.stage c = .idle then 0 else 1

theorem init_stage (sourceType : SourceConnectionType) (backendType : DestinationConnectionType)
    (c : ClientPtr) : (init sourceType backendType).stage c = .idle := rfl

theorem init_accounted (sourceType : SourceConnectionType)
    (backendType : DestinationConnectionType) : Accounted (init sourceType backendType) := by
  obtain ⟨services, ec, count, heq⟩ := BackEnd.registerAndInitService_writes basicProtocolService
    { sourceType := sourceType, backendType := backendType }
  refine ⟨fun c hc => absurd rfl hc, fun c => by simp [data, stage, init], ⟨∅, fun c => ?_, ?_⟩,
    fun c => ?_⟩
  · simp [stage, init]
  · simp only [state, init, BackEnd.new, heq, Finset.card_empty]
    rfl
  · simp only [init, BackEnd.new, heq, stage, List.count_nil]
    rfl

namespace Accounted

variable {w w' : World} {c : ClientPtr}

theorem active_eq_false (h : Accounted w) (hc : w.stage c = .idle) :
    (w.data c).rpcActive = false :=
  Bool.eq_false_iff.mpr fun ha => (h.active c).mp ha hc

theorem queue_eq_zero (h : Accounted w) (hc : w.stage c ≠ .posted) :
    w.backEnd.ioService.queue.count c = 0 := (h.queue c).trans (if_neg hc)

theorem active_eq_true (h : Accounted w) (hc : w.stage c ≠ .idle) :
    (w.data c).rpcActive = true := (h.active c).mpr hc

/-- A step that leaves the clients alone. -/
theorem of_sameClients (h : Accounted w) (hs : SameClients w w') : Accounted w' := by
  have hstage : ∀ c, w'.stage c = w.stage c := fun c => by rw [stage, hs.invokers]; rfl
  have hdata : ∀ c, w'.data c = w.data c := fun c => by rw [data, hs.invokers]; rfl
  refine ⟨fun c hc => ?_, fun c => ?_, ?_, fun c => ?_⟩
  · rw [hs.connectedClients]
    exact h.connected c (hstage c ▸ hc)
  · rw [hdata, hstage]
    exact h.active c
  · obtain ⟨busy, hbusy, hcount⟩ := h.count
    exact ⟨busy, fun c => by rw [hstage]; exact hbusy c, hs.activeRpcCount.trans hcount⟩
  · rw [hs.queue, hstage]
    exact h.queue c

/-- **A step of client `c`**: what the account asks of the new back end and the new invoker. -/
theorem update {b : BackEnd} {i : Invoker} (h : Accounted w)
    (hothers : ∀ c', c' ≠ c → c' ∈ w.backEnd.connectedClients → c' ∈ b.connectedClients)
    (hconn : i.stage ≠ .idle → c ∈ b.connectedClients)
    (hactive : i.clientData.rpcActive = true ↔ i.stage ≠ .idle)
    (hcount : b.synchronisedState.activeRpcCount =
      w.state.activeRpcCount + (if i.stage = .idle then 0 else 1) - w.underWay c)
    (hqueue : ∀ c', c' ≠ c → b.ioService.queue.count c' = w.backEnd.ioService.queue.count c')
    (hposted : b.ioService.queue.count c = if i.stage = .posted then 1 else 0) :
    Accounted ((w.setBackEnd b).setInvoker c i) := by
  have hself : ((w.setBackEnd b).setInvoker c i).invokers c = i := setInvoker_self _
  have hne : ∀ c', c' ≠ c → ((w.setBackEnd b).setInvoker c i).invokers c' = w.invokers c' :=
    fun c' hc' => setInvoker_ne hc' _
  refine ⟨fun c' hc' => ?_, fun c' => ?_, ?_, fun c' => ?_⟩
  · by_cases heq : c' = c
    · subst heq
      rw [stage, hself] at hc'
      exact hconn hc'
    · rw [stage, hne c' heq] at hc'
      exact hothers c' heq (h.connected c' hc')
  · by_cases heq : c' = c
    · subst heq
      rw [data, stage, hself]
      exact hactive
    · rw [data, stage, hne c' heq]
      exact h.active c'
  · obtain ⟨busy, hbusy, hcard⟩ := h.count
    refine ⟨if i.stage = .idle then busy.erase c else insert c busy, fun c' => ?_, ?_⟩
    · by_cases heq : c' = c
      · subst heq
        rw [stage, hself]
        split <;> simp [*]
      · rw [stage, hne c' heq]
        have := hbusy c'
        split <;> simp only [Finset.mem_erase, Finset.mem_insert, heq, ne_eq, not_false_eq_true,
          true_and, false_or] <;> exact this
    · -- the request of `c` was, or was not, in the count before
      show b.synchronisedState.activeRpcCount = _
      rw [hcount, hcard, underWay]
      by_cases hold : w.stage c = .idle
      · have hnot : c ∉ busy := fun hc => (hbusy c).mp hc hold
        rw [if_pos hold]
        split
        · rw [Finset.erase_eq_of_notMem hnot]; omega
        · rw [Finset.card_insert_of_notMem hnot]; omega
      · have hin : c ∈ busy := (hbusy c).mpr hold
        have hpos : 0 < busy.card := Finset.card_pos.mpr ⟨c, hin⟩
        rw [if_neg hold]
        split
        · rw [Finset.card_erase_of_mem hin]; omega
        · rw [Finset.insert_eq_of_mem hin]; omega
  · by_cases heq : c' = c
    · subst heq
      rw [stage, hself]
      exact hposted
    · rw [stage, hne c' heq]
      exact (hqueue c' heq).trans (h.queue c')

theorem disconnect {reply : ℕ → ServiceReply} (h : Accounted w) (hc : w.stage c = .idle)
    (hd : w.disconnect c reply = .ok w') : Accounted w' := by
  obtain ⟨b, cd, hb, rfl⟩ := disconnect_ok hd
  obtain ⟨-, hsame, -, ⟨cs, calls, rfl⟩, -, -⟩ := BackEnd.disconnect_ok hb
  have hidle : (w.invokers c).stage = .idle := hc
  refine h.update (fun c' hne hmem => Finset.mem_erase.mpr ⟨hne, hmem⟩)
    (fun hn => absurd hidle hn) ?_ ?_ (fun _ _ => rfl) ((h.queue c).trans ?_)
  · rw [hsame.rpcActive]
    exact h.active c
  · rw [underWay, if_pos hc, if_pos hidle, Int.add_zero, Int.sub_zero]
    rfl
  · rfl

theorem disconnectManager (h : Accounted w) (m : ManagerId) :
    Accounted (w.setState (w.state.disconnectManager m)) :=
  h.of_sameClients ⟨rfl, rfl, rfl, rfl⟩

theorem signal {reply : ManagerId → ManagerReply} (h : Accounted w)
    (hfree : w.managersFree reply = true) (hs : w.signalStage reply = .ok w') : Accounted w' := by
  obtain ⟨w₁, threw, hsig, rfl⟩ := signalStage_ok hs
  -- the stages stay as they are, so that the next client a manager disconnects is idle as well
  have hw₁ : Accounted w₁ ∧ w₁.stage = w.stage := by
    refine signalManagers_rule (I := fun w' => Accounted w' ∧ w'.stage = w.stage) ?_ ?_ hsig
      ⟨h, rfl⟩
    · rintro w₁ w₂ ⟨hI, hstage⟩ m hm ⟨c, r⟩ hp hd
      have hidle := of_decide_eq_true (List.all_eq_true.mp (List.all_eq_true.mp hfree m hm) _ hp)
      exact ⟨hI.disconnect (by rw [hstage]; exact hidle) hd, (disconnect_stage hd).trans hstage⟩
    · rintro w₁ ⟨hI, hstage⟩ m -
      exact ⟨hI.disconnectManager m, hstage⟩
  cases threw <;> exact hw₁.1.of_sameClients ⟨rfl, rfl, rfl, rfl⟩

/-- A step of a client keeps the account. -/
theorem step_client {codec : BasicProtocolCodec} {l : Label} (h : Accounted w)
    (hl : l.client = some c) (hg : w.enabled l = true) (hf : fire codec w l = .ok w') :
    Accounted w' := by
  cases l <;> cases hl
  case connect fresh =>
    cases hf
    cases fresh with
    | false =>
      exact ⟨fun c' hc' => Finset.mem_insert_of_mem (h.connected c' hc'), h.active, h.count,
        h.queue⟩
    | true =>
      simp only [enabled, Bool.not_true, Bool.false_or, Bool.and_eq_true,
        decide_eq_true_eq] at hg
      have hbal : w.underWay c = 0 := if_pos hg.2
      have hq := h.queue_eq_zero (c := c) (by rw [hg.2]; decide)
      refine h.update (b := w.backEnd.connect c)
        (fun c' _ hmem => Finset.mem_insert_of_mem hmem) (fun hn => absurd rfl hn)
        (by simp) ?_ (fun _ _ => rfl) hq
      rw [hbal]
      simp [BackEnd.connect, state]
  case disconnect reply =>
    simp only [enabled, Bool.and_eq_true, decide_eq_true_eq] at hg
    exact h.disconnect hg.2 hf
  case request resets r =>
    simp only [enabled, Bool.and_eq_true, decide_eq_true_eq] at hg
    obtain ⟨b, i, rfl, -, -, hcase⟩ := request_ok hf
    have hbal : w.underWay c = 0 := if_pos hg.2
    have hq := h.queue_eq_zero (c := c) (by rw [hg.2]; decide)
    rcases hcase with ⟨-, -, rfl, hst, hact⟩ | ⟨-, rfl, hst, hact⟩
    · refine h.update (fun _ _ hmem => hmem) (fun _ => hg.1) (by simp [hact, hst]) ?_
        (fun _ _ => rfl) (by rw [hst]; exact hq)
      rw [hbal, hst]
      simp [BackEnd.setState]
    · refine h.update (fun _ _ hmem => hmem) (fun _ => hg.1) ?_ ?_
        (fun _ _ => rfl) (by rw [hst]; exact hq)
      · rw [hact, h.active_eq_false hg.2, hst]
        simp
      · rw [hbal, hst]
        simp [state]
  case check =>
    have hst : w.stage c = .accepted := of_decide_eq_true hg
    obtain ⟨b, i, hc, rfl⟩ := stepInvoker_ok.mp hf
    have hbal : w.underWay c = 1 := if_neg (by rw [hst]; decide)
    have hq := h.queue_eq_zero (c := c) (by rw [hst]; decide)
    have hconn := h.connected c (by rw [hst]; decide)
    have hact := h.active_eq_true (c := c) (by rw [hst]; decide)
    obtain ⟨cs, -, -, ⟨hst', rfl, hsame, -⟩ | ⟨-, rfl, rfl⟩⟩ := BackEnd.checkRequest_ok hc
    · refine h.update (fun _ _ hmem => hmem) (fun _ => hconn) ?_ ?_ (fun _ _ => rfl)
        (by rw [hst']; exact hq)
      · exact iff_of_true (hsame.rpcActive.trans hact) (by rw [hst']; decide)
      · rw [hbal, hst']
        simp [BackEnd.setCookies, state]
    · refine h.update (fun _ _ hmem => hmem) (fun _ => hconn) (iff_of_true hact (by simp)) ?_ ?_ ?_
      · rw [hbal]
        simp [BackEnd.setCookies, state]
      · intro c' hne
        simp [List.count_append, Ne.symm hne]
      · simp [List.count_append, hq]
  case take =>
    simp only [enabled, Bool.and_eq_true, decide_eq_true_eq] at hg
    cases hf
    have hst := hg.2
    have hbal : w.underWay c = 1 := if_neg (by rw [hst]; decide)
    have hq : w.backEnd.ioService.queue.count c = 1 := (h.queue c).trans (if_pos hst)
    have hact := h.active_eq_true (c := c) (by rw [hst]; decide)
    refine h.update (fun _ _ hmem => hmem) (fun _ => h.connected c (by rw [hst]; decide))
      (iff_of_true hact (by simp)) ?_ ?_ ?_
    · rw [hbal]
      simp [state]
    · intro c' hne
      simp [List.count_erase_of_ne hne]
    · simp [List.count_erase_self, hq]
  case run reply =>
    have hst : w.stage c = .running := of_decide_eq_true hg
    obtain ⟨b, i, hr, rfl⟩ := stepInvoker_ok.mp hf
    obtain ⟨s, cd, -, rfl, hd, hsame, -, -⟩ := BackEnd.runPosted_ok hr
    obtain ⟨cs, calls, rfl⟩ := hd.eq
    have hbal : w.underWay c = 1 := if_neg (by rw [hst]; decide)
    have hq := h.queue_eq_zero (c := c) (by rw [hst]; decide)
    have hact := h.active_eq_true (c := c) (by rw [hst]; decide)
    refine h.update (fun _ _ hmem => hmem) (fun _ => h.connected c (by rw [hst]; decide))
      ?_ ?_ (fun _ _ => rfl) (by simpa using hq)
    · exact iff_of_true (hsame.rpcActive.trans hact) (by simp)
    · rw [hbal]
      simp [state]
  case finish =>
    obtain ⟨-, rfl⟩ := finish_ok hf
    simp only [enabled, Bool.or_eq_true, decide_eq_true_eq] at hg
    have hbal : w.underWay c = 1 :=
      if_neg (by rcases hg with hg | hg <;> rw [hg] <;> decide)
    have hq := h.queue_eq_zero (c := c) (by rcases hg with hg | hg <;> rw [hg] <;> decide)
    refine h.update (fun _ _ hmem => hmem) (fun hn => absurd rfl hn) (by simp) ?_
      (fun _ _ => rfl) hq
    rw [hbal]
    simp [BackEnd.setState, SynchronisedBackEndState.endARequest]

/-- **Every step keeps the account.** -/
theorem step {codec : BasicProtocolCodec} {l : Label} (h : Accounted w)
    (hg : w.enabled l = true) (hf : fire codec w l = .ok w') : Accounted w' := by
  cases hl : l.client with
  | some c => exact h.step_client hl hg hf
  | none =>
    cases hsig : l.signals with
    | false => exact h.of_sameClients (fire_sameClients hl hsig hf)
    | true =>
      obtain ⟨reply, rfl⟩ := Label.signals_eq_true hsig
      simp only [enabled, Bool.and_eq_true] at hg
      exact h.signal hg.2 hf

end Accounted

/-- **Every reachable state is accounted for.** -/
theorem accounted_reaches {codec : BasicProtocolCodec} {sourceType : SourceConnectionType}
    {backendType : DestinationConnectionType} {w : World}
    (h : (backEndMachine codec).Reaches (init sourceType backendType) w) : Accounted w :=
  h.invariant (fun _ _ _ hI hg hf => hI.step hg hf) (init_accounted _ _)

/-! ## Counting the attempts of a run -/

section Attempts

variable (codec : BasicProtocolCodec) (c : ClientPtr)

/-- `start_a_request` returns true. -/
def starts : World × Label → Bool
  | (w, .request _ _ _) => w.state.acceptingRequests
  | _ => false

/-- The checks of `invoke` leave the request posted. -/
def posts : World × Label → Bool
  | (w, .check c) => (fire codec w (.check c)).toOption.any (·.stage c = .posted)
  | _ => false

/-- A pool thread takes a posted invoker. -/
def takes : World × Label → Bool
  | (_, .take _) => true
  | _ => false

/-- The dispatch of a posted invoker. -/
def dispatches : World × Label → Bool
  | (_, .run _ _) => true
  | _ => false

/-- `end_rpc`. -/
def ends : World × Label → Bool
  | (_, .finish _) => true
  | _ => false

/-- An attempt for client `c`. -/
def ofClient (attempt : World × Label → Bool) (p : World × Label) : Bool :=
  decide (p.2.client = some c) && attempt p

variable {codec c} {w w' : World} {l : Label} {tr : List (World × Label)}

theorem ofClient_of_ne (h : l.client ≠ some c) (attempt : World × Label → Bool) :
    ofClient c attempt (w, l) = false := by
  rw [ofClient, decide_eq_false h, Bool.false_and]

theorem ofClient_of_eq (h : l.client = some c) (attempt : World × Label → Bool) :
    ofClient c attempt (w, l) = attempt (w, l) := by
  rw [ofClient, decide_eq_true h, Bool.true_and]

theorem posts_of_check (h : fire codec w (.check c) = .ok w') :
    posts codec (w, .check c) = decide (w'.stage c = .posted) := by
  rw [posts, h]
  rfl

/-- The balance rule for the stage of one client. -/
theorem balance_of_stage {plus minus : World × Label → Bool} (measure : Stage → ℤ)
    (hstep : ∀ w l w' s s', fire codec w l = .ok w' → w'.stage c = s' → StageStep w c l s s' →
      l.client = some c → (plus (w, l)).toNat + measure s = (minus (w, l)).toNat + measure s')
    (h : (backEndMachine codec).Run w tr (.ok w')) :
    (tr.countP (ofClient c plus) : ℤ) + measure (w.stage c) =
      tr.countP (ofClient c minus) + measure (w'.stage c) := by
  refine h.balance (I := fun _ => True) (fun w => measure (w.stage c)) ?_ trivial
  intro w l w' _ hg hf
  refine ⟨trivial, ?_⟩
  by_cases hl : l.client = some c
  · rw [ofClient_of_eq hl, ofClient_of_eq hl]
    exact hstep w l w' _ _ hf rfl (fire_stageStep c hg hf) hl
  · rw [ofClient_of_ne hl, ofClient_of_ne hl, fire_stage_ne hl hf]

/-- Every accepted request is ended once, or is under way. -/
theorem starts_balance (h : (backEndMachine codec).Run w tr (.ok w')) :
    (tr.countP (ofClient c starts) : ℤ) + w.underWay c =
      tr.countP (ofClient c ends) + w'.underWay c := by
  refine balance_of_stage (fun s => if s = .idle then 0 else 1) ?_ h
  intro w l w' s s' hf hs' hst hl
  cases hst <;> simp_all [starts, ends]

/-- Every posted invoker is taken once, or is in the queue. -/
theorem posts_balance (h : (backEndMachine codec).Run w tr (.ok w')) :
    (tr.countP (ofClient c (posts codec)) : ℤ) + (if w.stage c = .posted then 1 else 0) =
      tr.countP (ofClient c takes) + if w'.stage c = .posted then 1 else 0 := by
  refine balance_of_stage (fun s => if s = .posted then 1 else 0) ?_ h
  intro w l w' s s' hf hs' hst hl
  cases hst
  case reject => simp [posts_of_check hf, hs', takes]
  case post => simp [posts_of_check hf, hs', takes]
  all_goals simp_all [posts, takes]

/-- Every invoker taken is dispatched once, or is about to be. -/
theorem takes_balance (h : (backEndMachine codec).Run w tr (.ok w')) :
    (tr.countP (ofClient c takes) : ℤ) + (if w.stage c = .running then 1 else 0) =
      tr.countP (ofClient c dispatches) + if w'.stage c = .running then 1 else 0 := by
  refine balance_of_stage (fun s => if s = .running then 1 else 0) ?_ h
  intro w l w' s s' hf hs' hst hl
  cases hst <;> simp_all [takes, dispatches]

/-- A step moves the count by the request it starts or ends. -/
theorem fire_count (hg : w.enabled l = true) (hf : fire codec w l = .ok w') :
    ((starts (w, l)).toNat : ℤ) + w.state.activeRpcCount =
      (ends (w, l)).toNat + w'.state.activeRpcCount := by
  cases l
  case connect c fresh =>
    cases hf
    cases fresh <;> rfl
  case disconnect c reply =>
    obtain ⟨b, cd, hd, rfl⟩ := disconnect_ok hf
    obtain ⟨-, -, -, ⟨cs, calls, rfl⟩, -⟩ := BackEnd.disconnect_ok hd
    rfl
  case request c resets r =>
    obtain ⟨b, i, rfl, -, -, ⟨ha, -, rfl, -⟩ | ⟨ha, rfl, -⟩⟩ := request_ok hf
    · show (w.state.acceptingRequests.toNat : ℤ) + w.state.activeRpcCount =
        0 + (w.state.activeRpcCount + 1)
      rw [ha]
      show (1 : ℤ) + w.state.activeRpcCount = _
      omega
    · show (w.state.acceptingRequests.toNat : ℤ) + w.state.activeRpcCount =
        0 + w.state.activeRpcCount
      rw [ha]
      rfl
  case check c =>
    obtain ⟨b, i, hc, rfl⟩ := stepInvoker_ok.mp hf
    obtain ⟨cs, -, -, ⟨-, rfl, -⟩ | ⟨-, rfl, -⟩⟩ := BackEnd.checkRequest_ok hc <;> rfl
  case take c => cases hf; rfl
  case run c reply =>
    obtain ⟨b, i, hr, rfl⟩ := stepInvoker_ok.mp hf
    obtain ⟨s, cd, -, -, hd, -⟩ := BackEnd.runPosted_ok hr
    obtain ⟨cs, calls, rfl⟩ := hd.eq
    rfl
  case finish c =>
    obtain ⟨-, rfl⟩ := finish_ok hf
    show (0 : ℤ) + w.state.activeRpcCount = 1 + (w.state.activeRpcCount - 1)
    omega
  case signalStage reply =>
    obtain ⟨w₁, threw, hs, rfl⟩ := signalStage_ok hf
    have hw₁ : w₁.state.activeRpcCount = w.state.activeRpcCount := by
      refine signalManagers_rule
        (I := fun w' => w'.state.activeRpcCount = w.state.activeRpcCount) ?_ ?_ hs rfl
      · intro w₁ w₂ hI m _ p _ hd
        obtain ⟨b, cd, hb, rfl⟩ := disconnect_ok hd
        obtain ⟨-, -, -, ⟨cs, calls, rfl⟩, -⟩ := BackEnd.disconnect_ok hb
        exact hI
      · exact fun _ hI _ _ => hI
    cases threw <;> exact congrArg (0 + ·) hw₁.symm
  all_goals exact congrArg (0 + ·) (fire_sameClients rfl rfl hf).activeRpcCount.symm

/-- The count is the number of requests accepted and not ended. -/
theorem count_balance (h : (backEndMachine codec).Run w tr (.ok w')) :
    (tr.countP starts : ℤ) + w.state.activeRpcCount =
      tr.countP ends + w'.state.activeRpcCount :=
  h.balance (I := fun _ => True) (fun w => w.state.activeRpcCount)
    (fun _ _ _ _ hg hf => ⟨trivial, fire_count hg hf⟩) trivial

end Attempts

/-! ## The assertions of `start_rpc` and `end_rpc` -/

namespace Accounted

variable {codec : BasicProtocolCodec} {w : World} {c : ClientPtr}

/-- `start_rpc` does not assert. -/
theorem request_total (codec : BasicProtocolCodec) (h : Accounted w) {resets : Bool} {r : ClientRequest}
    (hg : w.enabled (.request c resets r) = true) :
    ∃ w', fire codec w (.request c resets r) = .ok w' := by
  simp only [enabled, Bool.and_eq_true, decide_eq_true_eq] at hg
  have hinactive : (w.invokers c).clientData.rpcActive = false := h.active_eq_false hg.2
  simp only [fire, request, stepInvoker, Invoker.prepare, hinactive]
  cases ha : w.backEnd.synchronisedState.acceptingRequests <;> cases resets <;>
    simp [BackEnd.beginInvoke, SynchronisedBackEndState.startARequest, ha, ClientData.startRpc,
      ClientData.setError, hinactive, bind, Except.bind, pure, Except.pure]

/-- `end_rpc` does not assert. -/
theorem finish_total (codec : BasicProtocolCodec) (h : Accounted w) (hg : w.enabled (.finish c) = true) :
    ∃ w', fire codec w (.finish c) = .ok w' := by
  simp only [enabled, Bool.or_eq_true, decide_eq_true_eq] at hg
  have hactive : (w.invokers c).clientData.rpcActive = true :=
    h.active_eq_true (by rcases hg with hg | hg <;> rw [hg] <;> decide)
  simp [fire, finish, stepInvoker, BackEnd.endRpc, ClientData.endRpc, hactive, bind, Except.bind,
    pure, Except.pure]

/-- **No step asserts in `start_rpc` or `end_rpc`.** -/
theorem fault_ne (h : Accounted w) {l : Label} {f : Fault} (hg : w.enabled l = true)
    (hf : fire codec w l = .error f) :
    f ≠ .assertion .startRpc ∧ f ≠ .assertion .endRpc := by
  have hcases : f.ofClientData = true → f = .assertion .establishClient := by
    intro hcd
    rcases fire_clientFault hf hcd with ⟨c, resets, r, rfl⟩ | ⟨c, rfl⟩ | ⟨rfl, -⟩
    · obtain ⟨w', hok⟩ := h.request_total codec hg
      rw [hok] at hf
      cases hf
    · obtain ⟨w', hok⟩ := h.finish_total codec hg
      rw [hok] at hf
      cases hf
    · rfl
  constructor <;> rintro rfl <;> cases hcases rfl

end Accounted

/-! ## `invoke` as a whole -/

section Invoke

variable {codec : BasicProtocolCodec} {w w' : World} {c : ClientPtr} {resets done : Bool}
  {r : ClientRequest}

theorem setInvoker_twice (b b' : BackEnd) (i i' : Invoker) :
    (((w.setBackEnd b).setInvoker c i).setBackEnd b').setInvoker c i' =
      (w.setBackEnd b').setInvoker c i' := by
  simp [setInvoker, setBackEnd, Function.update_idem]

/-- **`invoke` is its parts in order**: the request is refused, or turned down and ended, or
posted. -/
theorem invoke_parts (hidle : w.stage c = .idle)
    (h : w.invoke codec c resets r = .ok (done, w')) :
    done = true ∧ w.state.acceptingRequests = false ∧
      fire codec w (.request c resets r) = .ok w' ∨
    ∃ w₁, w.state.acceptingRequests = true ∧ fire codec w (.request c resets r) = .ok w₁ ∧
      (done = true ∧ (∃ w₂, fire codec w₁ (.check c) = .ok w₂ ∧ w₂.stage c = .rejected ∧
          fire codec w₂ (.finish c) = .ok w') ∨
        done = false ∧ fire codec w₁ (.check c) = .ok w' ∧ w'.stage c = .posted) := by
  obtain ⟨i, hprep, h⟩ := bind_eq_ok.mp h
  obtain ⟨⟨done', b', i'⟩, hinv, hret⟩ := bind_eq_ok.mp h
  cases hret
  obtain ⟨⟨started, b₁, cd₁⟩, hbegin, hinv⟩ := bind_eq_ok.mp hinv
  have hrequest : fire codec w (.request c resets r) = .ok ((w.setBackEnd b₁).setInvoker c
      { i with clientData := cd₁, stage := if started then .accepted else .idle }) := by
    show w.request c resets r = _
    unfold request
    exact stepInvoker_ok.mpr
      ⟨b₁, _, bind_eq_ok.mpr ⟨i, hprep, bind_eq_ok.mpr ⟨_, hbegin, rfl⟩⟩, rfl⟩
  obtain ⟨-, -, hcase⟩ := BackEnd.beginInvoke_ok hbegin
  cases started with
  | false =>
    cases hinv
    obtain ⟨hs, -⟩ | ⟨-, ha, -⟩ := hcase
    · cases hs
    · have hstage : i.stage = .idle := by
        have hi : i.stage = (w.invokers c).stage := by
          unfold Invoker.prepare at hprep
          cases resets with
          | true =>
            obtain ⟨_, -, hret⟩ := bind_eq_ok.mp hprep
            cases hret
            rfl
          | false => cases hprep; rfl
        exact hi.trans hidle
      refine .inl ⟨rfl, ha, ?_⟩
      rw [hrequest, if_neg Bool.false_ne_true, ← hstage]
  | true =>
    obtain ⟨-, ha, -⟩ | ⟨hs, -⟩ := hcase
    · refine .inr ⟨_, ha, hrequest, ?_⟩
      obtain ⟨⟨b₂, i₂⟩, hcheck, hinv⟩ := bind_eq_ok.mp hinv
      have hfire : fire codec ((w.setBackEnd b₁).setInvoker c
          { i with clientData := cd₁, stage := .accepted }) (.check c) =
            .ok ((w.setBackEnd b₂).setInvoker c i₂) := by
        show stepInvoker c (fun b i => b.checkRequest codec c i) _ = _
        exact stepInvoker_ok.mpr ⟨b₂, i₂, by rw [setInvoker_self]; exact hcheck,
          (setInvoker_twice _ _ _ _).symm⟩
      dsimp only at hinv
      split at hinv
      · rename_i hrej
        obtain ⟨⟨b₃, cd₃⟩, hend, hret⟩ := bind_eq_ok.mp hinv
        cases hret
        refine .inl ⟨rfl, _, hfire, (stage_setInvoker_self _).trans hrej, ?_⟩
        show finish c _ = _
        unfold finish
        refine stepInvoker_ok.mpr ⟨b₃, _, ?_, (setInvoker_twice _ _ _ _).symm⟩
        rw [setInvoker_self]
        exact bind_eq_ok.mpr ⟨_, hend, rfl⟩
      · rename_i hrej
        cases hinv
        refine .inr ⟨rfl, hfire, (stage_setInvoker_self _).trans ?_⟩
        obtain ⟨cs, -, -, ⟨hst, -⟩ | ⟨-, -, rfl⟩⟩ := BackEnd.checkRequest_ok hcheck
        · exact absurd hst hrej
        · rfl
    · cases hs

/-- The established flags and the subscribed pairs are the same. -/
structure SameAdmission (w w' : World) : Prop where
  established : ∀ c, (w'.data c).clientEstablished = (w.data c).clientEstablished
  subscribed : ∀ s c, w'.backEnd.clientServiceCookies.isSubscribed s c =
    w.backEnd.clientServiceCookies.isSubscribed s c

theorem SameAdmission.trans {w₁ w₂ w₃ : World} (h : SameAdmission w₁ w₂)
    (h' : SameAdmission w₂ w₃) : SameAdmission w₁ w₃ :=
  ⟨fun c => (h'.established c).trans (h.established c),
    fun s c => (h'.subscribed s c).trans (h.subscribed s c)⟩

theorem sameAdmission_setInvoker {b : BackEnd} {i : Invoker}
    (hid : SameIdentity (w.data c) i.clientData)
    (hsub : ∀ s k, b.clientServiceCookies.isSubscribed s k =
      w.backEnd.clientServiceCookies.isSubscribed s k) :
    SameAdmission w ((w.setBackEnd b).setInvoker c i) := by
  refine ⟨fun c' => ?_, hsub⟩
  by_cases heq : c' = c
  · subst heq
    rw [data, setInvoker_self]
    exact hid.clientEstablished
  · rw [data, setInvoker_ne heq]
    rfl

/-- **No part of `invoke`** establishes, subscribes or unsubscribes a client. -/
theorem sameAdmission_of_parts {l : Label} (hl : l.ofInvoke = true)
    (h : fire codec w l = .ok w') : SameAdmission w w' := by
  cases l <;> cases hl
  case request c resets r =>
    obtain ⟨b, i, rfl, -, hid, ⟨-, -, rfl, -⟩ | ⟨-, rfl, -⟩⟩ := request_ok h <;>
      exact sameAdmission_setInvoker hid fun _ _ => rfl
  case check c =>
    obtain ⟨b, i, hc, rfl⟩ := stepInvoker_ok.mp h
    obtain ⟨cs, -, hsub, ⟨-, rfl, -, hid⟩ | ⟨-, rfl, rfl⟩⟩ := BackEnd.checkRequest_ok hc
    · exact sameAdmission_setInvoker hid hsub
    · exact sameAdmission_setInvoker (.refl _) hsub
  case finish c =>
    obtain ⟨-, rfl⟩ := finish_ok h
    exact sameAdmission_setInvoker ⟨rfl, rfl⟩ fun _ _ => rfl

/-- `invoke` is a run of the machine, and all its attempts are of one client. -/
theorem invoke_run (hmem : c ∈ w.backEnd.connectedClients) (hidle : w.stage c = .idle)
    (h : w.invoke codec c resets r = .ok (done, w')) :
    ∃ tr, (backEndMachine codec).Run w tr (.ok w') ∧ SameAdmission w w' ∧
      (done = true → (tr.countP starts : ℤ) = tr.countP ends ∧ w'.stage c = .idle) ∧
      (done = false → (tr.countP starts : ℤ) = tr.countP ends + 1 ∧ w'.stage c = .posted) := by
  have hg : w.enabled (.request c resets r) = true := by
    simp [enabled, hmem, hidle]
  rcases invoke_parts hidle h with ⟨rfl, ha, h₁⟩ | ⟨w₁, ha, h₁, hcase⟩
  · refine ⟨[(w, .request c resets r)], .step hg h₁ (.done _), sameAdmission_of_parts rfl h₁,
      fun _ => ⟨by simp [starts, ends, ha], ?_⟩, by simp⟩
    obtain ⟨b, i, rfl, -, -, ⟨ha', -⟩ | ⟨-, -, hst, -⟩⟩ := request_ok h₁
    · rw [ha] at ha'
      cases ha'
    · rw [stage_setInvoker_self, hst]
  · have hst₁ : w₁.stage c = .accepted := by
      obtain ⟨b, i, rfl, -, -, ⟨-, -, -, hst, -⟩ | ⟨ha', -⟩⟩ := request_ok h₁
      · rw [stage_setInvoker_self, hst]
      · rw [ha] at ha'
        cases ha'
    have hg₁ : w₁.enabled (.check c) = true := by simp [enabled, hst₁]
    have hsame₁ : SameAdmission w w₁ := sameAdmission_of_parts rfl h₁
    rcases hcase with ⟨rfl, w₂, h₂, hst₂, h₃⟩ | ⟨rfl, h₂, hst₂⟩
    · have hg₂ : w₂.enabled (.finish c) = true := by simp [enabled, hst₂]
      refine ⟨[(w, .request c resets r), (w₁, .check c), (w₂, .finish c)],
        .step hg h₁ (.step hg₁ h₂ (.step hg₂ h₃ (.done _))),
        (hsame₁.trans (sameAdmission_of_parts rfl h₂)).trans
          (sameAdmission_of_parts rfl h₃),
        fun _ => ⟨by simp [starts, ends, ha], ?_⟩, by simp⟩
      obtain ⟨-, rfl⟩ := finish_ok h₃
      exact stage_setInvoker_self _
    · exact ⟨[(w, .request c resets r), (w₁, .check c)], .step hg h₁ (.step hg₁ h₂ (.done _)),
        hsame₁.trans (sameAdmission_of_parts rfl h₂), by simp,
        fun _ => ⟨by simp [starts, ends, ha], hst₂⟩⟩

end Invoke

/-! ## The account of every run -/

/-- What a run to `w` has done to the requests, and what an `invoke` does from there. -/
structure RequestAccount (codec : BasicProtocolCodec) (tr : List (World × Label)) (w : World) :
    Prop where
  count : ∃ busy : Finset ClientPtr, (∀ c, c ∈ busy ↔ (w.data c).rpcActive = true) ∧
    (∀ c, c ∈ busy ↔ w.stage c ≠ .idle) ∧ w.state.activeRpcCount = busy.card
  ended : (tr.countP starts : ℤ) = tr.countP ends + w.state.activeRpcCount
  endedOnce : ∀ c, (tr.countP (ofClient c starts) : ℤ) =
    tr.countP (ofClient c ends) + w.underWay c
  taken : ∀ c, (tr.countP (ofClient c (posts codec)) : ℤ) =
    tr.countP (ofClient c takes) + w.backEnd.ioService.queue.count c
  dispatched : ∀ c, (tr.countP (ofClient c takes) : ℤ) =
    tr.countP (ofClient c dispatches) + if w.stage c = .running then 1 else 0
  asserts : ∀ l f, w.enabled l = true → fire codec w l = .error f →
    f ≠ .assertion .startRpc ∧ f ≠ .assertion .endRpc
  parts : ∀ l w', l.ofInvoke = true → fire codec w l = .ok w' → SameAdmission w w'
  invokeTrue : ∀ c resets r w', w.enabled (.request c resets r) = true →
    w.invoke codec c resets r = .ok (true, w') →
    w'.state.activeRpcCount = w.state.activeRpcCount ∧ w'.stage c = .idle ∧ SameAdmission w w'
  invokeFalse : ∀ c resets r w', w.enabled (.request c resets r) = true →
    w.invoke codec c resets r = .ok (false, w') →
    w'.backEnd.ioService.queue.count c = 1 ∧
      w'.state.activeRpcCount = w.state.activeRpcCount + 1 ∧
      ∀ tr' w'', (backEndMachine codec).Run w' tr' (.ok w'') →
        (tr'.countP (ofClient c takes) : ℤ) + w''.backEnd.ioService.queue.count c =
            tr'.countP (ofClient c (posts codec)) + 1 ∧
          (tr'.countP (ofClient c ends) : ℤ) + w''.underWay c =
            tr'.countP (ofClient c starts) + 1

theorem Accounted.queue_cast {w : World} (h : Accounted w) (c : ClientPtr) :
    (w.backEnd.ioService.queue.count c : ℤ) = if w.stage c = .posted then 1 else 0 := by
  rw [h.queue c]
  split <;> rfl

/-- **The account of every run**: the count of active requests is the number of clients with an
active RPC and of the requests accepted and not ended, no assertion of `start_rpc` or `end_rpc`
fires, an `invoke` that returns true leaves count, established flags and subscriptions, and one
that returns false leaves one dispatch, and the request is ended once or under way. -/
theorem run_requestAccount (codec : BasicProtocolCodec) (sourceType : SourceConnectionType)
    (backendType : DestinationConnectionType) {tr : List (World × Label)} {w : World}
    (h : (backEndMachine codec).Run (init sourceType backendType) tr (.ok w)) :
    RequestAccount codec tr w := by
  have hacc : Accounted w := accounted_reaches ⟨tr, h⟩
  have hinit := init_accounted sourceType backendType
  have hcount₀ : (init sourceType backendType).state.activeRpcCount = 0 := by
    obtain ⟨busy, hbusy, hcard⟩ := hinit.count
    rw [hcard, Finset.eq_empty_of_forall_notMem fun c hc => (hbusy c).mp hc rfl]
    rfl
  refine
    { count := ?_
      ended := by
        have := count_balance h
        rw [hcount₀] at this
        omega
      endedOnce := fun c => by
        have := starts_balance (c := c) h
        rwa [show (init sourceType backendType).underWay c = 0 from rfl, Int.add_zero] at this
      taken := fun c => by
        rw [hacc.queue_cast c]
        have := posts_balance (c := c) h
        rwa [if_neg (by rw [init_stage]; decide),
          Int.add_zero] at this
      dispatched := fun c => by
        have := takes_balance (c := c) h
        rwa [if_neg (by rw [init_stage]; decide),
          Int.add_zero] at this
      asserts := fun l f hg hf => hacc.fault_ne hg hf
      parts := fun l w' hl hf => sameAdmission_of_parts hl hf
      invokeTrue := fun c resets r w' hg hinv => ?_
      invokeFalse := fun c resets r w' hg hinv => ?_ }
  · obtain ⟨busy, hbusy, hcard⟩ := hacc.count
    exact ⟨busy, fun c => (hbusy c).trans (hacc.active c).symm, hbusy, hcard⟩
  · simp only [enabled, Bool.and_eq_true, decide_eq_true_eq] at hg
    obtain ⟨tr', hrun, hsame, htrue, -⟩ := invoke_run hg.1 hg.2 hinv
    obtain ⟨hbal, hst⟩ := htrue rfl
    have := count_balance hrun
    exact ⟨by omega, hst, hsame⟩
  · simp only [enabled, Bool.and_eq_true, decide_eq_true_eq] at hg
    obtain ⟨tr', hrun, -, -, hfalse⟩ := invoke_run hg.1 hg.2 hinv
    obtain ⟨hbal, hst⟩ := hfalse rfl
    have hcount := count_balance hrun
    have hacc' : Accounted w' := accounted_reaches ⟨tr ++ tr', h.append hrun⟩
    refine ⟨(hacc'.queue c).trans (if_pos hst), by omega, fun tr'' w'' hrun' => ?_⟩
    have hacc'' : Accounted w'' :=
      accounted_reaches ⟨tr ++ tr' ++ tr'', (h.append hrun).append hrun'⟩
    have hposts := posts_balance (c := c) hrun'
    have hstarts := starts_balance (c := c) hrun'
    rw [if_pos hst] at hposts
    rw [underWay, hst, if_neg (by decide)] at hstarts
    rw [hacc''.queue_cast c]
    exact ⟨hposts.symm, hstarts.symm⟩

end World

end RblRpc
