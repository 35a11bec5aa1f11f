import RblRpc.Tcp.Exchange

/-!
# The set of connections

`m_connections` grows in `handle_accept` and shrinks in `disconnect_client`, which throws when the
connection is not in it.  The loop of `shutdown_handler` over idle connections is taken to be sound
here.

* `fire_members` — **what a step does to `m_connections`.**
* `disconnects_once_iff` — connections are disconnected at most once exactly in the runs in which
  no read of a header completes that `shutdown_handler` has closed the socket of.
* `only_shrinks_iff` — after a shutdown the set only shrinks exactly in the runs in which no accept
  completes any more.
-/

namespace RblRpc

open Transition

/-- The connection that a completed accept makes. -/
def TcpLabel.accepts : TcpLabel → Option ClientPtr
  | .accept c _ => some c
  | _ => none

/-- `handle_accept` ends with `start_accept`. -/
def TcpLabel.startsAccept (l : TcpLabel) : Bool := l.accepts.isSome

/-- The connection whose handler is called without an error. -/
def TcpLabel.completes : TcpLabel → Option ClientPtr
  | .headerRead c _ _ _ _ | .bodyRead c _ | .responseWritten c => some c
  | _ => none

/-- The operations on open sockets and acceptors succeed. -/
def TcpLabel.closes : TcpLabel → Bool
  | .headerRead _ _ _ closes _ | .shutdown closes | .sweep _ closes _ => closes
  | _ => true

/-- The step is one of the front end. -/
def TcpLabel.ofFrontEnd : TcpLabel → Bool
  | .backEnd _ => false
  | _ => true

namespace TcpWorld

/-- The step calls `disconnect_client` with `c`. -/
def callsDisconnect (c : ClientPtr) (p : TcpWorld × TcpLabel) : Bool := p.1.disconnects p.2 = some c

def acceptsConnection (c : ClientPtr) (p : TcpWorld × TcpLabel) : Bool := p.2.accepts = some c

/-- The connections that the loop of `shutdown_handler` has disconnected, after a further step. -/
def closedAfter (closed : Finset ClientPtr) (w : TcpWorld) : TcpLabel → Finset ClientPtr
  | .accept c _ => closed.erase c
  | .sweep c closes reply =>
    if w.disconnects (.sweep c closes reply) = some c then insert c closed else closed
  | _ => closed

/-- The step is no completed read of a header of a connection that `shutdown_handler` has
disconnected. -/
def NotLate (closed : Finset ClientPtr) (_ : TcpWorld) (l : TcpLabel) : Prop :=
  ∀ c header fresh closes reply, l = .headerRead c header fresh closes reply → c ∉ closed

/-- A header that is read without an error is one of a member. -/
def ReadsMember (w : TcpWorld) (l : TcpLabel) : Prop :=
  ∀ c header fresh closes reply, l = .headerRead c header fresh closes reply → c ∈ w.members

variable {codec : BasicProtocolCodec} {messages : ClientMessageCodec} {w w' : TcpWorld}
  {c : ClientPtr} {l : TcpLabel} {k : Connection}

/-! ## What a step does to the set -/

theorem members_store (hk : k.connected = decide (c ∈ w.members)) :
    (w.store c k).members = w.members := by
  ext c'
  rw [mem_store, hk, decide_eq_true_eq]
  split
  · rename_i heq
    rw [heq]
  · exact Iff.rfl

theorem members_store_closed (hk : k.connected = false) :
    (w.store c k).members = w.members.erase c := by
  unfold store
  rw [hk]
  rfl

/-- **What a step does to `m_connections`.** -/
theorem fire_members (hg : w.enabled l = true) (hf : w.fire codec messages l = .ok w') :
    (∃ c, l.accepts = some c ∧ w.disconnects l = none ∧ w'.members = insert c w.members) ∨
    (∃ c, l.accepts = none ∧ w.disconnects l = some c ∧ c ∈ w.members ∧
      w'.members = w.members.erase c) ∨
    l.accepts = none ∧ w.disconnects l = none ∧ w'.members = w.members := by
  cases l with
  | accept c fresh =>
    cases hf
    exact .inl ⟨c, rfl, rfl, rfl⟩
  | headerRead c header fresh closes reply =>
    obtain ⟨w₁, h₁, h₂⟩ := bind_eq_ok.mp hf
    obtain ⟨k, hk, rfl⟩ := onConnection_ok.mp h₁
    rw [(release_kept h₂).2.2]
    obtain ⟨-, ⟨hsd, hmem, hclosed⟩ | ⟨hsd, hsame, -⟩⟩ := Connection.handleReadHeader_ok hk
    · have hmem' := members_store_closed (w := w) (c := c) (k := k) (by rw [hclosed])
      exact .inr (.inl ⟨c, rfl, if_pos hsd, of_decide_eq_true hmem, hmem'⟩)
    · refine .inr (.inr ⟨rfl, if_neg ?_, members_store hsame⟩)
      rw [show w.frontEnd.shutdownInitiated = false from hsd]
      exact Bool.false_ne_true
  | sweep c closes reply =>
    obtain ⟨left, hat, -⟩ := sweep_enabled hg
    simp only [fire, sweep, hat] at hf
    split at hf
    · rename_i hio
      obtain ⟨w₁, h₁, h₂⟩ := bind_eq_ok.mp hf
      obtain ⟨k, hk, rfl⟩ := onConnection_ok.mp h₁
      obtain ⟨hmem, rfl⟩ := Connection.disconnectClient_ok_connected hk
      rw [(release_kept h₂).2.2]
      exact .inr (.inl ⟨c, rfl, if_pos hio, of_decide_eq_true hmem, members_store_closed rfl⟩)
    · rename_i hio
      cases hf
      exact .inr (.inr ⟨rfl, if_neg hio, rfl⟩)
  | shutdown closes =>
    simp only [fire, shutdown] at hf
    split at hf <;> cases hf
    exact .inr (.inr ⟨rfl, rfl, rfl⟩)
  | bodyRead c body =>
    obtain ⟨request, k, v, hk, -, rfl⟩ := bodyRead_ok hf
    exact .inr (.inr ⟨rfl, rfl, members_store (beginReadBody_eq hk).2.2.1⟩)
  | answerRejected c fresh | answerRan c fresh =>
    obtain ⟨w₁, h₁, hret⟩ := bind_eq_ok.mp hf
    obtain ⟨k, hk, rfl⟩ := onConnection_ok.mp h₁
    cases hret
    exact .inr (.inr ⟨rfl, rfl, members_store (Connection.handleWriteResponse_ok hk).2.1⟩)
  | uncount c =>
    obtain ⟨w₁, h₁, hret⟩ := bind_eq_ok.mp hf
    obtain ⟨k, hk, rfl⟩ := onConnection_ok.mp h₁
    cases hret
    cases hk
    exact .inr (.inr ⟨rfl, rfl, members_store rfl⟩)
  | responseWritten c =>
    obtain ⟨k, hk, rfl⟩ := onConnection_ok.mp hf
    rw [Connection.handleResetForNextRequest_ok hk]
    exact .inr (.inr ⟨rfl, rfl, members_store rfl⟩)
  | failed c reply => exact .inr (.inr ⟨rfl, rfl, (release_kept hf).2.2⟩)
  | check c =>
    obtain ⟨w₁, h₁, hret⟩ := bind_eq_ok.mp hf
    obtain ⟨v, -, rfl⟩ := onWorld_ok.mp h₁
    split at hret <;> cases hret <;> exact .inr (.inr ⟨rfl, rfl, rfl⟩)
  | endRejected c | endRan c =>
    obtain ⟨w₁, h₁, hret⟩ := bind_eq_ok.mp hf
    obtain ⟨v, -, rfl⟩ := onWorld_ok.mp h₁
    cases hret
    exact .inr (.inr ⟨rfl, rfl, rfl⟩)
  | take c =>
    obtain ⟨v, -, rfl⟩ := onWorld_ok.mp hf
    exact .inr (.inr ⟨rfl, rfl, rfl⟩)
  | run c reply =>
    obtain ⟨v, -, rfl⟩ := (onWorld_ok (f := (World.fire codec · (.run c reply)))).mp hf
    exact .inr (.inr ⟨rfl, rfl, rfl⟩)
  | backEnd bl =>
    obtain ⟨v, -, rfl⟩ := (onWorld_ok (f := (World.fire codec · bl))).mp hf
    exact .inr (.inr ⟨rfl, rfl, rfl⟩)
  | acceptFailed | swept =>
    cases hf
    exact .inr (.inr ⟨rfl, rfl, rfl⟩)

/-- While `shutdown_handler` loops, what it has yet to look at are members. -/
def Sweeps (w : TcpWorld) : Prop := ∀ left, w.ioPoint = .sweeping left → left ⊆ w.members

theorem Sweeps.step (hw : w.Sweeps) (hg : w.enabled l = true)
    (hf : w.fire codec messages l = .ok w') : w'.Sweeps := by
  intro left hat
  rcases fire_left hg hf hat with ⟨-, rfl⟩ | ⟨left₀, hat₀, rfl⟩
  · exact Finset.Subset.refl _
  have hsub := hw left₀ hat₀
  have hbusy : w.ioPoint ≠ .waiting := by
    rw [hat₀]
    exact nofun
  rcases fire_members hg hf with ⟨c, hacc, -, hm⟩ | ⟨c, -, hd, -, hm⟩ | ⟨-, -, hm⟩
  · rw [hm]
    exact (Finset.sdiff_subset.trans hsub).trans (Finset.subset_insert c _)
  · cases l with
    | headerRead c' header fresh closes reply =>
      simp only [enabled, Bool.and_eq_true, decide_eq_true_eq] at hg
      exact absurd hg.1.1 hbusy
    | sweep c' closes reply =>
      obtain ⟨-, rfl⟩ : _ ∧ c' = c := by
        simpa only [disconnects, Option.ite_none_right_eq_some, Option.some.injEq] using hd
      rw [hm, TcpLabel.looksAt, Finset.sdiff_singleton_eq_erase]
      exact Finset.erase_subset_erase c' hsub
    | _ => cases hd
  · rw [hm]
    exact Finset.sdiff_subset.trans hsub

/-! ## The calls of `disconnect_client` -/

/-- **A member is disconnected**, unless it is a read header that calls it. -/
theorem disconnects_member (hw : w.Sweeps) (hg : w.enabled l = true)
    (hd : w.disconnects l = some c) (hread : w.ReadsMember l) : c ∈ w.members := by
  cases l with
  | headerRead c' header fresh closes reply =>
    obtain ⟨-, rfl⟩ : _ ∧ c' = c := by
      simpa only [disconnects, Option.ite_none_right_eq_some, Option.some.injEq] using hd
    exact hread _ _ _ _ _ rfl
  | sweep c' closes reply =>
    obtain ⟨-, rfl⟩ : _ ∧ c' = c := by
      simpa only [disconnects, Option.ite_none_right_eq_some, Option.some.injEq] using hd
    obtain ⟨left, hat, hc⟩ := sweep_enabled hg
    exact hw left hat hc
  | _ => cases hd

/-- **Disconnecting a member** throws nothing while the operations on its socket succeed. -/
theorem disconnects_closes (hg : w.enabled l = true) (hd : w.disconnects l = some c)
    (hmem : c ∈ w.members) (hcl : l.closes = true) :
    w.fire codec messages l ≠ .error (.frontEnd .frontEndException) := by
  have hclose : ∀ k : Connection, k.connected = decide (c ∈ w.members) →
      ∀ x, Connection.disconnectClient l.closes k ≠ .error x := by
    intro k hk x
    rw [Connection.disconnectClient, hcl, hk, decide_eq_true hmem]
    exact nofun
  intro hf
  cases l with
  | headerRead c' header fresh closes reply =>
    obtain ⟨hsd, rfl⟩ : w.frontEnd.shutdownInitiated = true ∧ c' = c := by
      simpa only [disconnects, Option.ite_none_right_eq_some, Option.some.injEq] using hd
    rcases bind_eq_error.mp hf with herr | ⟨w₁, -, herr⟩
    · obtain ⟨x, hx, -⟩ := onConnection_error.mp herr
      have hsd' : ((w.view c').receive header).frontEnd.shutdownInitiated = true := hsd
      rw [Connection.handleReadHeader, if_pos hsd'] at hx
      exact hclose _ rfl x hx
    · obtain ⟨f, herr⟩ := release_error herr
      cases herr
  | sweep c' closes reply =>
    obtain ⟨hio, rfl⟩ : _ ∧ c' = c := by
      simpa only [disconnects, Option.ite_none_right_eq_some, Option.some.injEq] using hd
    obtain ⟨left, hat, -⟩ := sweep_enabled hg
    have hio' : ((w.goto (.sweeping (left.erase c'))).connections c').ioState =
        .readHeaderWaitRequestStartInactive := hio
    simp only [fire, sweep, hat] at hf
    rw [if_pos hio'] at hf
    rcases bind_eq_error.mp hf with herr | ⟨w₁, -, herr⟩
    · obtain ⟨x, hx, -⟩ := onConnection_error.mp herr
      exact hclose _ rfl x hx
    · obtain ⟨f, herr⟩ := release_error herr
      cases herr
  | _ => cases hd

/-- **A handler without an error is one of a member**, unless it reads a header. -/
theorem completes_member (h : w.Disciplined) (hg : w.enabled l = true)
    (hc : l.completes = some c) (hread : w.ReadsMember l) : c ∈ w.members := by
  obtain ⟨q, hq⟩ := h.placed c
  have hmember : ∀ op, (w.connections c).operation = some op → op ≠ .readHeader →
      c ∈ w.members := by
    intro op hop hne
    rcases hq.of_operation hop with ⟨-, heq⟩ | ⟨p, rfl, hp⟩
    · exact absurd heq hne
    · refine (hq.member (h.sane c) ?_).2
      rintro rfl
      cases op <;> first | exact hne rfl | cases hp
  cases l with
  | headerRead c' header fresh closes reply =>
    cases hc
    exact hread _ _ _ _ _ rfl
  | bodyRead c' body =>
    cases hc
    simp only [enabled, Bool.and_eq_true, decide_eq_true_eq] at hg
    exact hmember _ hg.2 (by rintro ⟨⟩)
  | responseWritten c' =>
    cases hc
    simp only [enabled, Bool.and_eq_true, decide_eq_true_eq] at hg
    obtain ⟨-, hop⟩ := hg
    split at hop
    · rename_i n hwrites
      exact hmember _ hwrites (by rintro ⟨⟩)
    · cases hop
  | _ => cases hc

/-! ## What `shutdown_handler` has disconnected -/

/-- The connections that `shutdown_handler` has disconnected are those that were removed while the
read of a header was in flight. -/
structure ClosedBy (closed : Finset ClientPtr) (w : TcpWorld) : Prop where
  disciplined : w.Disciplined
  removed : ∀ c ∈ closed, c ∉ w.members
  swept : ∀ c, (w.connections c).operation = some .readHeader → c ∉ w.members → c ∈ closed

variable {closed : Finset ClientPtr}

theorem closedAfter_of_accepts (h : l.accepts = some c) :
    closedAfter closed w l = closed.erase c := by
  cases l <;> cases h
  rfl

theorem closedAfter_of_disconnects (h : w.disconnects l = some c) :
    closedAfter closed w l = closed ∨ closedAfter closed w l = insert c closed := by
  cases l with
  | headerRead c' header fresh closes reply => exact .inl rfl
  | sweep c' closes reply =>
    obtain ⟨-, rfl⟩ : _ ∧ c' = c := by
      simpa only [disconnects, Option.ite_none_right_eq_some, Option.some.injEq] using h
    exact .inr (if_pos h)
  | _ => cases h

theorem closedAfter_of_none (ha : l.accepts = none) (hd : w.disconnects l = none) :
    closedAfter closed w l = closed := by
  cases l with
  | accept c fresh => cases ha
  | sweep c closes reply => exact if_neg (by rw [hd]; exact nofun)
  | _ => rfl

theorem mem_closedAfter_other (hl : l.connection ≠ some c) :
    c ∈ closedAfter closed w l ↔ c ∈ closed := by
  have hne : ∀ c', l.connection = some c' → c ≠ c' :=
    fun c' h heq => hl (h.trans (congrArg some heq.symm))
  cases l with
  | accept c' fresh =>
    rw [closedAfter, Finset.mem_erase]
    exact and_iff_right (hne c' rfl)
  | sweep c' closes reply =>
    rw [closedAfter]
    split
    · rw [Finset.mem_insert]
      exact or_iff_right (hne c' rfl)
    · exact Iff.rfl
  | _ => exact Iff.rfl

theorem headerRead_leaves {header : Bytes} {fresh : ℕ → UInt8} {closes : Bool}
    {reply : ℕ → ServiceReply} (hf : w.headerRead c header fresh closes reply = .ok w') :
    (w'.connections c).operation ≠ some .readHeader := by
  obtain ⟨w₁, h₁, h₂⟩ := bind_eq_ok.mp hf
  obtain ⟨k, hk, rfl⟩ := onConnection_ok.mp h₁
  rw [release_operation h₂, modify_connections_self, store_connections_self]
  obtain ⟨-, ⟨-, -, rfl⟩ | ⟨-, -, -, n, hbody⟩⟩ := Connection.handleReadHeader_ok hk
  · exact nofun
  · rw [hbody]
    exact nofun

theorem ClosedBy.step (h : ClosedBy closed w) (hg : w.enabled l = true)
    (hf : w.fire codec messages l = .ok w') : ClosedBy (closedAfter closed w l) w' := by
  refine ⟨h.disciplined.step hg hf, ?_, ?_⟩
  · intro c hc
    rcases fire_members hg hf with ⟨c', hacc, -, hm⟩ | ⟨c', -, hd, -, hm⟩ | ⟨hacc, hd, hm⟩
    · rw [closedAfter_of_accepts hacc, Finset.mem_erase] at hc
      rw [hm, Finset.mem_insert, not_or]
      exact ⟨hc.1, h.removed c hc.2⟩
    · rw [hm, Finset.mem_erase, not_and]
      intro hne
      rcases (closedAfter_of_disconnects hd :
        closedAfter closed w l = closed ∨ _) with heq | heq <;> rw [heq] at hc
      · exact h.removed c hc
      · exact h.removed c ((Finset.mem_insert.mp hc).resolve_left hne)
    · rw [closedAfter_of_none hacc hd] at hc
      rw [hm]
      exact h.removed c hc
  · intro c hop hout
    obtain ⟨q, hq⟩ := h.disciplined.placed c
    obtain ⟨q', hstep, hq', -⟩ := fire_phaseStep h.disciplined hq hg hf
    -- a member that waits for a header loses its place to the loop only
    have hswept : ∀ closes reply, l = .sweep c closes reply → c ∈ closedAfter closed w l := by
      rintro closes reply rfl
      rcases fire_members hg hf with ⟨c', hacc, -⟩ | ⟨c', -, hd, -⟩ | ⟨hacc, hd, hm⟩
      · cases hacc
      · obtain ⟨-, rfl⟩ : _ ∧ c = c' := by
          simpa only [disconnects, Option.ite_none_right_eq_some, Option.some.injEq] using hd
        rw [closedAfter, if_pos hd]
        exact Finset.mem_insert_self c closed
      · rw [closedAfter_of_none hacc hd]
        rw [hm] at hout
        rw [sweep_operation hg hf] at hop
        exact h.swept c hop hout
    cases hstep with
    | other _ hne =>
      have hsame := fire_sameConnection hne hg hf
      rw [hsame.connection] at hop
      exact (mem_closedAfter_other hne).mpr (h.swept c hop fun hm => hout (hsame.member.mpr hm))
    | accept fresh => exact absurd (by cases hf; exact Finset.mem_insert_self _ _) hout
    | headerRead header fresh closes reply | headerClosed header fresh closes reply =>
      exact absurd hop (headerRead_leaves hf)
    | responseWritten =>
      rcases fire_members hg hf with ⟨c', hacc, -⟩ | ⟨c', -, hd, -⟩ | ⟨-, -, hm⟩
      · cases hacc
      · cases hd
      · rw [hm] at hout
        exact absurd (hq.member (h.disciplined.sane c) (by decide)).2 hout
    | failed reply | failedClosed reply | failedAbsent reply =>
      rw [failed_operation hf] at hop
      cases hop
    | sweep closes reply | sweepClosed closes reply => exact hswept closes reply rfl
    | _ => cases hq'.operation _ hop

/-! ## The theorems -/

/-- Connections are disconnected at most once in a run: `disconnect_client` is called with members;
at most once between two accepts that make the connection; it does not throw while the operations
on open sockets succeed; and no handler without an error is one of a connection that was removed. -/
structure DisconnectsOnce (codec : BasicProtocolCodec) (messages : ClientMessageCodec)
    (tr : List (TcpWorld × TcpLabel)) : Prop where
  members : ∀ p ∈ tr, ∀ c, p.1.disconnects p.2 = some c → c ∈ p.1.members
  once : ∀ c mid, mid <:+: tr → (∀ p ∈ mid, acceptsConnection c p = false) →
    mid.countP (callsDisconnect c) ≤ 1
  quiet : ∀ p ∈ tr, ∀ c, p.1.disconnects p.2 = some c → p.2.closes = true →
    p.1.fire codec messages p.2 ≠ .error (.frontEnd .frontEndException)
  handlers : ∀ p ∈ tr, ∀ c, p.2.completes = some c → c ∈ p.1.members

/-- Calls with members use up the membership. -/
theorem calls_le {tr : List (TcpWorld × TcpLabel)} {r : Except FrontEndFault TcpWorld}
    (hrun : (frontEndMachine codec messages).Run w tr r)
    (hmem : ∀ p ∈ tr, ∀ c, p.1.disconnects p.2 = some c → c ∈ p.1.members) (c : ClientPtr) :
    tr.countP (callsDisconnect c) ≤
      (decide (c ∈ w.members)).toNat + tr.countP (acceptsConnection c) := by
  refine hrun.count_le (C := fun w l => ∀ c, w.disconnects l = some c → c ∈ w.members)
    (fun w => (decide (c ∈ w.members)).toNat) ?_ ?_ hmem
  · intro w l hC _
    by_cases hd : w.disconnects l = some c
    · rw [decide_eq_true (hC c hd)]
      exact Bool.toNat_le _
    · rw [callsDisconnect, decide_eq_false hd]
      exact Nat.zero_le _
  · intro w l w' hC hg hf
    rcases fire_members hg hf with ⟨c', hacc, hd, hm⟩ | ⟨c', hacc, hd, hmem', hm⟩ | ⟨hacc, hd, hm⟩ <;>
      simp only [callsDisconnect, acceptsConnection, hacc, hd, hm]
    · by_cases hc : c = c'
      · subst hc
        simp
      · simp [hc, Ne.symm hc]
    · by_cases hc : c = c'
      · subst hc
        simp [hmem']
      · simp [hc, Ne.symm hc]
    · simp

/-- **Disconnecting at most once, exactly.**  In every run of a front end every connection is
disconnected at most once and no handler acts on a disconnected one, if and only if no read of a
header completes without an error after `shutdown_handler` has disconnected its connection. -/
theorem disconnects_once_iff (codec : BasicProtocolCodec) (messages : ClientMessageCodec)
    (sourceType : SourceConnectionType) (backendType : DestinationConnectionType)
    {tr : List (TcpWorld × TcpLabel)} {r : Except FrontEndFault TcpWorld}
    (hrun : (frontEndMachine codec messages).Run (init sourceType backendType) tr r) :
    DisconnectsOnce codec messages tr ↔ Machine.Along closedAfter NotLate ∅ tr := by
  have hlate : Machine.Along closedAfter NotLate ∅ tr ↔ ∀ p ∈ tr, ReadsMember p.1 p.2 := by
    refine hrun.along_iff (J := ClosedBy) (fun _ _ _ _ hJ hg hf => hJ.step hg hf) ?_
      ⟨init_disciplined _ _, fun c hc => absurd hc (Finset.notMem_empty c),
        fun c hop => by cases hop⟩
    intro closed w l hJ hg
    refine forall_congr' fun c => forall_congr' fun header => forall_congr' fun fresh =>
      forall_congr' fun closes => forall_congr' fun reply => imp_congr_right ?_
    rintro rfl
    have hg : w.enabled (.headerRead c header fresh closes reply) = true := hg
    simp only [enabled, Bool.and_eq_true, decide_eq_true_eq] at hg
    constructor
    · intro hc
      by_contra hout
      exact hc (hJ.swept c hg.1.2 hout)
    · exact fun hmem hc => hJ.removed c hc hmem
  rw [hlate]
  constructor
  · rintro h ⟨w, l⟩ hp c header fresh closes reply rfl
    exact h.handlers _ hp c rfl
  · intro hread
    have hinv := hrun.invariant (I := fun w => w.Disciplined ∧ w.Sweeps) (C := fun _ _ => True)
      (fun _ _ _ hI _ hg hf => ⟨hI.1.step hg hf, hI.2.step hg hf⟩)
      ⟨init_disciplined _ _, fun left hleft => by cases hleft⟩ fun _ _ => trivial
    have hmembers : ∀ p ∈ tr, ∀ c, p.1.disconnects p.2 = some c → c ∈ p.1.members := by
      intro p hp c hd
      exact disconnects_member (hinv.1 p hp).2 (hrun.guard p hp) hd (hread p hp)
    refine ⟨hmembers, ?_, ?_, ?_⟩
    · rintro c (_ | ⟨p, mid⟩) hmid hacc
      · exact Nat.zero_le _
      · obtain ⟨-, r₁, hseg⟩ := hrun.of_infix hmid
        have hle := calls_le hseg (fun q hq => hmembers q (hmid.subset hq)) c
        rw [List.countP_eq_zero.mpr fun q hq => Bool.eq_false_iff.mp (hacc q hq)] at hle
        exact hle.trans (Bool.toNat_le _)
    · intro p hp c hd hcl
      exact disconnects_closes (hrun.guard p hp) hd (hmembers p hp c hd) hcl
    · intro p hp c hc
      exact completes_member (hinv.1 p hp).1 (hrun.guard p hp) hc (hread p hp)

/-- A client waits in the shutdown; its read is aborted. -/
def sampleShutdown (c : ClientPtr) : List TcpLabel :=
  sampleAccept c ++ [.shutdown true, .sweep c true fun _ => {}, .swept]

theorem disconnects_once_iff_sample : ∃ (tr : List (TcpWorld × TcpLabel)) (w : TcpWorld),
    w.members = ∅ ∧ tr.countP (callsDisconnect 7) = 1 ∧
      (DisconnectsOnce basicProtocolCodec clientMessageCodec tr ↔
        Machine.Along closedAfter NotLate ∅ tr) := by
  obtain ⟨w, hrun, hobs⟩ := (frontEndMachine basicProtocolCodec clientMessageCodec).exec_observed
    (init .sourceRelay .targetMarshall) (sampleShutdown 7 ++ [.failed 7 fun _ => {}])
    (fun w => w.members) (a := ∅) (by decide +kernel) (by decide +kernel)
  exact ⟨_, w, hobs, by decide +kernel, disconnects_once_iff _ _ _ _ hrun⟩

/-- **A header that is read behind the shutdown** has its connection disconnected again. -/
theorem disconnected_twice : ¬ ∀ (codec : BasicProtocolCodec) (messages : ClientMessageCodec)
    (sourceType : SourceConnectionType) (backendType : DestinationConnectionType)
    (tr : List (TcpWorld × TcpLabel)) (r : Except FrontEndFault TcpWorld),
    (frontEndMachine codec messages).Run (init sourceType backendType) tr r →
      DisconnectsOnce codec messages tr := by
  intro h
  let labels := sampleShutdown 7 ++
    [.headerRead 7 [0, 0, 0, 0, 8, 0, 0, 0] (fun _ => 0) true fun _ => {}]
  have hrun := (frontEndMachine basicProtocolCodec clientMessageCodec).exec_run_fault
    (init .sourceRelay .targetMarshall) labels (f := .frontEnd .frontEndException)
    (by decide +kernel) (by decide +kernel)
  have hlate : ((frontEndMachine basicProtocolCodec clientMessageCodec).exec
      (init .sourceRelay .targetMarshall) labels).1.any
        (fun p => callsDisconnect 7 p && decide (7 ∉ p.1.members)) = true := by
    decide +kernel
  obtain ⟨p, hp, hcall⟩ := List.any_eq_true.mp hlate
  simp only [callsDisconnect, Bool.and_eq_true, decide_eq_true_eq] at hcall
  exact hcall.2 ((h _ _ _ _ _ _ hrun).members p hp 7 hcall.1)

/-! ## After a shutdown -/

/-- The step is no completed accept after `shutdown_handler` has closed the acceptor. -/
def NoLateAccept (p : TcpWorld × TcpLabel) : Prop :=
  p.1.frontEnd.shutdownInitiated = true → p.2.accepts = none

/-- After a shutdown no step inserts a connection, starts an accept, or connects a client to the
back end through the front end. -/
structure OnlyShrinks (codec : BasicProtocolCodec) (messages : ClientMessageCodec)
    (tr : List (TcpWorld × TcpLabel)) : Prop where
  members : ∀ p ∈ tr, p.1.frontEnd.shutdownInitiated = true →
    ∀ w', p.1.fire codec messages p.2 = .ok w' → w'.members ⊆ p.1.members
  accepts : ∀ p ∈ tr, p.1.frontEnd.shutdownInitiated = true → p.2.startsAccept = false
  clients : ∀ p ∈ tr, p.1.frontEnd.shutdownInitiated = true → p.2.ofFrontEnd = true →
    ∀ w', p.1.fire codec messages p.2 = .ok w' →
      w'.world.backEnd.connectedClients ⊆ p.1.world.backEnd.connectedClients

/-- **Only the constructor of a connection connects a client.** -/
theorem fire_clients (h : w.Disciplined) (hg : w.enabled l = true)
    (hf : w.fire codec messages l = .ok w') (hfe : l.ofFrontEnd = true) (hacc : l.accepts = none) :
    w'.world.backEnd.connectedClients ⊆ w.world.backEnd.connectedClients := by
  cases fire_backEndStep h hg hf with
  | none hsame => rw [hsame]
  | @client b c hl hb hnew _ hfb =>
    rw [World.fire_connectedClients hb hfb]
    cases b with
    | connect c' fresh =>
      -- of the steps that renew their client data, `bodyRead` has a request
      cases l with
      | accept c fresh => cases hacc
      | bodyRead c body =>
        obtain ⟨request, k, v, -, hv, hw'⟩ := bodyRead_ok hf
        have hreq : World.fire codec w.world (.request c false request) = .ok v := hv
        have hsame := World.fire_connectedClients rfl hreq
        have hv' : w'.world = v := by rw [hw']; rfl
        rw [← World.fire_connectedClients hb hfb, hv', hsame]
      | _ => cases hnew
    | disconnect c' reply => exact Finset.erase_subset _ _
    | _ => exact Finset.Subset.refl _
  | other hl =>
    subst hl
    cases hfe

/-- **The connections after a shutdown, exactly.**  In every run of a front end nothing is added to
`m_connections` after a shutdown, if and only if no accept completes without an error any more. -/
theorem only_shrinks_iff (codec : BasicProtocolCodec) (messages : ClientMessageCodec)
    (sourceType : SourceConnectionType) (backendType : DestinationConnectionType)
    {tr : List (TcpWorld × TcpLabel)} {r : Except FrontEndFault TcpWorld}
    (hrun : (frontEndMachine codec messages).Run (init sourceType backendType) tr r) :
    OnlyShrinks codec messages tr ↔ ∀ p ∈ tr, NoLateAccept p := by
  have hinv := hrun.invariant (I := Disciplined) (C := fun _ _ => True)
    (fun _ _ _ hI _ hg hf => hI.step hg hf) (init_disciplined _ _) fun _ _ => trivial
  constructor
  · rintro h ⟨w, l⟩ hp hsd
    cases l with
    | accept c fresh =>
      have hg : w.enabled (.accept c fresh) = true := hrun.guard _ hp
      simp only [enabled, unused, Bool.and_eq_true, Bool.not_eq_true'] at hg
      obtain ⟨_ | p, hq⟩ := (hinv.1 _ hp).placed c
      · have hsub := h.members _ hp hsd (w.accept c fresh) rfl
        exact absurd (hsub (Finset.mem_insert_self c _)) hq.member
      · cases hq.alive.symm.trans hg.1.2.1
    | _ => rfl
  · intro hno
    refine ⟨fun p hp hsd w' hf => ?_, fun p hp hsd => ?_, fun p hp hsd hfe w' hf => ?_⟩
    · rcases fire_members (hrun.guard p hp) hf with
        ⟨c, hacc, -⟩ | ⟨c, -, -, -, hm⟩ | ⟨-, -, hm⟩
      · rw [hno p hp hsd] at hacc
        cases hacc
      · rw [hm]
        exact Finset.erase_subset _ _
      · rw [hm]
    · rw [TcpLabel.startsAccept, hno p hp hsd]
      rfl
    · exact fire_clients (hinv.1 p hp) (hrun.guard p hp) hf hfe (hno p hp hsd)

theorem only_shrinks_iff_sample : ∃ (tr : List (TcpWorld × TcpLabel)) (w : TcpWorld),
    w.frontEnd.shutdownInitiated = true ∧ w.members = ∅ ∧
      (OnlyShrinks basicProtocolCodec clientMessageCodec tr ↔ ∀ p ∈ tr, NoLateAccept p) := by
  obtain ⟨w, hrun, hobs⟩ := (frontEndMachine basicProtocolCodec clientMessageCodec).exec_observed
    (init .sourceRelay .targetMarshall)
    (sampleShutdown 7 ++ [.acceptFailed, .failed 7 fun _ => {}])
    (fun w => (w.frontEnd.shutdownInitiated, w.members)) (a := (true, ∅))
    (by decide +kernel) (by decide +kernel)
  obtain ⟨hsd, hmem⟩ := Prod.mk.inj hobs
  exact ⟨_, w, hsd, hmem, only_shrinks_iff _ _ _ _ hrun⟩

/-- **A client that is accepted behind the shutdown** of a front end without connections is
connected. -/
theorem grows_after_shutdown : ¬ ∀ (codec : BasicProtocolCodec) (messages : ClientMessageCodec)
    (sourceType : SourceConnectionType) (backendType : DestinationConnectionType)
    (tr : List (TcpWorld × TcpLabel)) (r : Except FrontEndFault TcpWorld),
    (frontEndMachine codec messages).Run (init sourceType backendType) tr r →
      OnlyShrinks codec messages tr := by
  intro h
  obtain ⟨w, hrun, hobs⟩ := (frontEndMachine basicProtocolCodec clientMessageCodec).exec_observed
    (init .sourceRelay .targetMarshall)
    [.backEnd (.poolSize 1), .backEnd .start, .shutdown true, .swept]
    (fun w => (w.frontEnd.shutdownInitiated, w.members, w.enabled (.accept 9 fun _ => 0)))
    (a := (true, ∅, true)) (by decide +kernel) (by decide +kernel)
  simp only [Prod.mk.injEq] at hobs
  obtain ⟨hsd, hmem, hg⟩ := hobs
  have hlate := hrun.append (Machine.Run.step (l := TcpLabel.accept 9 fun _ => 0) hg rfl (.done _))
  have hsub := (h _ _ _ _ _ _ hlate).members (w, _)
    (List.mem_append_right _ List.mem_cons_self) hsd _ rfl
  have hin := hsub (Finset.mem_insert_self 9 _)
  rw [hmem] at hin
  exact absurd hin (Finset.notMem_empty 9)

end TcpWorld

end RblRpc
