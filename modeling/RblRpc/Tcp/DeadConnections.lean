import RblRpc.Tcp.Exchange

/-!
# Dead connections

A handler that is called with an error prints it.  The connection stays in `m_connections`, which
alone holds its invoker, unless a shutdown has removed it before: the loop of `shutdown_handler`
over idle connections is taken to be sound here.

* `Lively` — the connections in `m_connections` that wait for something have an operation in
  flight.
* `Gone` — what is left of a destroyed invoker is no client of the back end.
* `dead_released_iff` — **dead connections are released exactly in the runs in which operations
  fail only after their connection was removed.**
-/

namespace RblRpc

open Transition

namespace TcpWorld

/-- A read, a write or a dispatch of the connection is outstanding. -/
def active (w : TcpWorld) (c : ClientPtr) : Bool :=
  (w.connections c).operation.isSome || w.world.stage c = .posted || w.world.stage c = .running ||
    w.world.stage c = .ran || (w.connections c).poolAnswers

/-- The members that wait for their socket have an operation in flight. -/
def Lively (w : TcpWorld) : Prop :=
  ∀ c ∈ w.members, (w.connections c).ioState ≠ .requestDispatchedActive →
    (w.connections c).operation.isSome = true

/-- A handler that is left of a destroyed invoker belongs to no client of the back end. -/
def Gone (w : TcpWorld) : Prop :=
  ∀ c, (w.connections c).alive = false → (w.connections c).operation.isSome = true →
    c ∉ w.world.backEnd.connectedClients

/-- The step is no failure of an operation of a member. -/
def FailsRemoved (p : TcpWorld × TcpLabel) : Prop :=
  ∀ c reply, p.2 = .failed c reply → c ∉ p.1.members

variable {codec : BasicProtocolCodec} {messages : ClientMessageCodec} {w w' : TcpWorld}
  {c : ClientPtr} {q q' : Option Phase} {l : TcpLabel}

/-! ## The operation a step leaves in flight -/

theorem headerRead_operation {header : Bytes} {fresh : ℕ → UInt8} {closes : Bool}
    {reply : ℕ → ServiceReply} (hf : w.headerRead c header fresh closes reply = .ok w') :
    (w'.connections c).operation.isSome = true ∨
      (w'.connections c).operation = none ∧ c ∉ w'.members := by
  obtain ⟨w₁, h₁, h₂⟩ := bind_eq_ok.mp hf
  obtain ⟨k, hk, rfl⟩ := onConnection_ok.mp h₁
  have hop : (w'.connections c).operation = k.operation := by
    rw [release_operation h₂, modify_connections_self, store_connections_self]
  have hmem : c ∈ w'.members ↔ k.connected = true := by
    rw [(release_kept h₂).2.2]
    exact mem_store.trans (by rw [if_pos rfl])
  rw [hop, hmem]
  obtain ⟨-, ⟨-, -, rfl⟩ | ⟨-, -, -, n, hbody⟩⟩ := Connection.handleReadHeader_ok hk
  · exact .inr ⟨rfl, Bool.false_ne_true⟩
  · rw [hbody]
    exact .inl rfl

theorem writes_operation (h : w.writes c = true) : (w.connections c).operation.isSome = true := by
  unfold writes at h
  split at h
  · rename_i hop
    rw [hop]
    rfl
  · cases h

theorem sweep_members {closes : Bool} {reply : ℕ → ServiceReply}
    (hg : w.enabled (.sweep c closes reply) = true) (hf : w.sweep c closes reply = .ok w') :
    w'.members ⊆ w.members := by
  obtain ⟨-, left, hat⟩ := sweep_ok hg hf
  simp only [sweep, hat] at hf
  split at hf
  · obtain ⟨w₁, h₁, h₂⟩ := bind_eq_ok.mp hf
    obtain ⟨k, hk, rfl⟩ := onConnection_ok.mp h₁
    obtain ⟨-, rfl⟩ := Connection.disconnectClient_ok_connected hk
    rw [(release_kept h₂).2.2]
    exact Finset.erase_subset _ _
  · cases hf
    exact Finset.Subset.refl _

/-- **Every step keeps the members lively**, unless an operation of one fails. -/
theorem Lively.step (hl : w.Lively) (h : w.Disciplined) (hok : FailsRemoved (w, l))
    (hg : w.enabled l = true) (hf : w.fire codec messages l = .ok w') : w'.Lively := by
  intro c hc hio
  obtain ⟨q, hq⟩ := h.placed c
  obtain ⟨q', hstep, hq', -⟩ := fire_phaseStep h hq hg hf
  cases hstep with
  | other _ hne =>
    have hsame := fire_sameConnection hne hg hf
    rw [hsame.connection] at hio ⊢
    exact hl c (hsame.member.mp hc) hio
  | accept fresh =>
    cases hf
    rw [accept, modify_connections_self, store_connections_self]
    rfl
  | headerRead header fresh closes reply =>
    rcases headerRead_operation hf with hop | ⟨-, hout⟩
    · exact hop
    · exact absurd hc hout
  | headerClosed | failedClosed | failedAbsent | sweepClosed => exact absurd hc hq'.member
  | bodyAccepted | bodyRefused | reject | post | endRejected | take | run | endRan =>
    exact absurd hq'.ioState hio
  | answerRejected fresh | answerRan fresh =>
    obtain ⟨w₁, h₁, hret⟩ := bind_eq_ok.mp hf
    have hop := writes_operation (writeResponse_writes h₁)
    cases hret
    first | exact hop | (rw [modify_connections_self]; exact hop)
  | uncount =>
    rw [uncount_operation hf]
    refine hl c ?_ ?_
    · exact (hq.member (h.sane c) (by decide)).2
    · rw [hq.ioState]
      decide
  | responseWritten =>
    obtain ⟨k, hk, rfl⟩ := onConnection_ok.mp hf
    rw [store_connections_self, Connection.handleResetForNextRequest_ok hk]
    rfl
  | failed reply =>
    have hmem : w'.members = w.members := (release_kept hf).2.2
    rw [hmem] at hc
    exact absurd hc (hok c reply rfl)
  | sweep closes reply =>
    rw [sweep_operation hg hf]
    refine hl c (sweep_members hg hf hc) ?_
    cases q with
    | none => exact absurd hc hq'.member
    | some p =>
      rw [hq.ioState]
      rwa [hq'.ioState] at hio

/-! ## The destructor -/

/-- **The destructor disconnects the client.** -/
theorem release_disconnected {reply : ℕ → ServiceReply} (hf : w.release c reply = .ok w')
    (ha : (w.connections c).alive = true) (ha' : (w'.connections c).alive = false) :
    c ∉ w'.world.backEnd.connectedClients := by
  rcases release_ok hf with ⟨-, -, -, v, hv, rfl⟩ | ⟨-, rfl⟩
  · have hfire : World.fire basicProtocolCodec w.world (.disconnect c reply) = .ok v := hv
    show c ∉ v.backEnd.connectedClients
    rw [World.fire_connectedClients rfl hfire]
    exact Finset.notMem_erase c _
  · rw [ha] at ha'
    cases ha'

theorem release_of_mem {reply : ℕ → ServiceReply} (hc : c ∈ w.members) :
    w.release c reply = .ok w := by
  unfold release
  rw [decide_eq_false (not_not_intro hc), Bool.and_false, if_neg Bool.false_ne_true]

theorem headerRead_disconnected {header : Bytes} {fresh : ℕ → UInt8} {closes : Bool}
    {reply : ℕ → ServiceReply} (hf : w.headerRead c header fresh closes reply = .ok w')
    (ha : (w.connections c).alive = true) (ha' : (w'.connections c).alive = false) :
    c ∉ w'.world.backEnd.connectedClients := by
  obtain ⟨w₁, h₁, h₂⟩ := bind_eq_ok.mp hf
  obtain ⟨k, hk, rfl⟩ := onConnection_ok.mp h₁
  refine release_disconnected h₂ ?_ ha'
  rw [modify_connections_self, store_connections_self]
  exact ha

/-- The loop of `shutdown_handler` disconnects members only. -/
theorem sweep_disconnected {closes : Bool} {reply : ℕ → ServiceReply}
    (hg : w.enabled (.sweep c closes reply) = true) (hf : w.sweep c closes reply = .ok w')
    (hio : (w.connections c).ioState = .readHeaderWaitRequestStartInactive) :
    c ∈ w.members ∧ ((w.connections c).alive = true → (w'.connections c).alive = false →
      c ∉ w'.world.backEnd.connectedClients) := by
  obtain ⟨-, left, hat⟩ := sweep_ok hg hf
  simp only [sweep, hat] at hf
  split at hf
  · obtain ⟨w₁, h₁, h₂⟩ := bind_eq_ok.mp hf
    obtain ⟨k, hk, rfl⟩ := onConnection_ok.mp h₁
    obtain ⟨hmem, rfl⟩ := Connection.disconnectClient_ok_connected hk
    refine ⟨of_decide_eq_true hmem, fun ha ha' => release_disconnected h₂ ?_ ha'⟩
    rw [store_connections_self]
    exact ha
  · rename_i hne
    exact absurd hio hne

/-- **Every step keeps what is gone gone.** -/
theorem Gone.step (hgone : w.Gone) (h : w.Disciplined) (hg : w.enabled l = true)
    (hf : w.fire codec messages l = .ok w') : w'.Gone := by
  intro c ha hop
  obtain ⟨q, hq⟩ := h.placed c
  obtain ⟨q', hstep, hq', -⟩ := fire_phaseStep h hq hg hf
  cases hstep with
  | other _ hne =>
    have hsame := fire_sameConnection hne hg hf
    rw [hsame.connection] at ha hop
    have hused : w.unused c = false := by
      rw [unused, Option.isNone_eq_false_iff.mpr hop, Bool.and_false]
    rw [((fire_backEndStep h hg hf).elsewhere hne hg hused).2]
    exact hgone c ha hop
  | headerClosed header fresh closes reply => exact headerRead_disconnected hf hq.alive ha
  | failedClosed | failedAbsent =>
    rw [failed_operation hf] at hop
    cases hop
  | sweepClosed closes reply => exact (sweep_disconnected hg hf hq.ioState).2 hq.alive ha
  | sweep closes reply =>
    cases q with
    | none => exact absurd (sweep_disconnected hg hf hq.ioState).1 hq.member
    | some p =>
      rw [hq'.alive] at ha
      cases ha
  | _ =>
    rw [hq'.alive] at ha
    cases ha

/-! ## Failures -/

/-- **A failure of a member** leaves it a member. -/
theorem failed_member (codec : BasicProtocolCodec) (messages : ClientMessageCodec)
    (reply : ℕ → ServiceReply) (hc : c ∈ w.members) :
    ∃ w', w.fire codec messages (.failed c reply) = .ok w' ∧ c ∈ w'.members := by
  let w' := (w.modify c fun k => { k with operation := none }).modify c fun k =>
    { k with handlerOwns := false }
  have hc' : c ∈ w'.members := hc
  exact ⟨w', release_of_mem hc', hc⟩

/-- **A failure after the removal** releases the connection. -/
theorem failed_removed {reply : ℕ → ServiceReply} (hgone : w.Gone)
    (hg : w.enabled (.failed c reply) = true) (hf : w.failed c reply = .ok w')
    (hc : c ∉ w.members) :
    c ∉ w'.members ∧ c ∉ w'.world.backEnd.connectedClients := by
  have hmem : w'.members = w.members := (release_kept hf).2.2
  refine ⟨by rwa [hmem], ?_⟩
  cases ha : (w.connections c).alive with
  | true =>
    refine release_disconnected hf ?_ ?_
    · rw [modify_connections_self, modify_connections_self]
      exact ha
    · rcases release_ok hf with ⟨-, -, -, v, -, rfl⟩ | ⟨hkept, -⟩
      · rw [modify_connections_self]
      · rw [modify_connections_self, modify_connections_self] at hkept
        exact absurd (hkept ha rfl) hc
  | false =>
    simp only [enabled, Bool.and_eq_true] at hg
    rcases release_ok hf with ⟨ha', -⟩ | ⟨-, rfl⟩
    · rw [modify_connections_self, modify_connections_self] at ha'
      cases ha.symm.trans ha'
    · exact hgone c ha hg.2

/-- Between two handlers the members of a lively state are active. -/
theorem Lively.active (hl : w.Lively) (h : w.Disciplined) (hwait : w.ioPoint = .waiting)
    (hc : c ∈ w.members) : w.active c = true := by
  obtain ⟨_ | p, hq⟩ := h.placed c
  · exact absurd hc hq.member
  · have htask : p.task = none := by
      rw [← hq.task, hwait]
      rfl
    have hlive := hl c hc
    rw [hq.ioState] at hlive
    rw [TcpWorld.active, hq.stage, hq.poolAnswers]
    cases p <;> first
      | (cases htask; done)
      | (rw [hlive (by decide)]; rfl)
      | simp [Phase.stage, Phase.poolAnswers]

/-- Dead connections are released in a run: after the handler of a failure the connection is not
in `m_connections` and its client is disconnected; and between two handlers every member has a
read, a write or a dispatch outstanding. -/
structure DeadReleased (codec : BasicProtocolCodec) (messages : ClientMessageCodec)
    (tr : List (TcpWorld × TcpLabel)) (r : Except FrontEndFault TcpWorld) : Prop where
  released : ∀ p ∈ tr, ∀ c reply w', p.2 = .failed c reply →
    p.1.fire codec messages p.2 = .ok w' →
      c ∉ w'.members ∧ c ∉ w'.world.backEnd.connectedClients
  active : Machine.Always (fun w => w.ioPoint = .waiting → ∀ c ∈ w.members, w.active c = true) tr r

/-- **Dead connections, exactly.**  In every run of a front end dead connections are released if
and only if every operation that fails is of a connection that `m_connections` no longer holds. -/
theorem dead_released_iff (codec : BasicProtocolCodec) (messages : ClientMessageCodec)
    (sourceType : SourceConnectionType) (backendType : DestinationConnectionType)
    {tr : List (TcpWorld × TcpLabel)} {r : Except FrontEndFault TcpWorld}
    (hrun : (frontEndMachine codec messages).Run (init sourceType backendType) tr r) :
    DeadReleased codec messages tr r ↔ ∀ p ∈ tr, FailsRemoved p := by
  constructor
  · rintro hdead ⟨w, l⟩ hp c reply rfl hc
    obtain ⟨w', hf, hc'⟩ := failed_member codec messages reply hc
    exact (hdead.released _ hp c reply w' rfl hf).1 hc'
  · intro hok
    have hinv := hrun.invariant (I := fun w => w.Disciplined ∧ w.Lively ∧ w.Gone)
      (C := fun w l => FailsRemoved (w, l))
      (fun _ _ _ hI hC hg hf => ⟨hI.1.step hg hf, hI.2.1.step hI.1 hC hg hf,
        hI.2.2.step hI.1 hg hf⟩)
      ⟨init_disciplined _ _, fun c hc => absurd hc (Finset.notMem_empty c),
        fun c _ hop => by cases hop⟩ hok
    refine ⟨?_, ?_, ?_⟩
    · rintro ⟨w, l⟩ hp c reply w' rfl hf
      obtain ⟨-, -, hgone⟩ := hinv.1 _ hp
      exact failed_removed hgone (hrun.guard _ hp) hf (hok _ hp c reply rfl)
    · intro p hp hwait c hc
      obtain ⟨h, hlive, -⟩ := hinv.1 p hp
      exact hlive.active h hwait hc
    · intro w hw hwait c hc
      obtain ⟨h, hlive, -⟩ := hinv.2 w hw
      exact hlive.active h hwait hc

/-- A shutdown closes the socket of a client that waits; its read is aborted. -/
theorem dead_released_iff_sample : ∃ (tr : List (TcpWorld × TcpLabel)) (w : TcpWorld),
    w.members = ∅ ∧ 7 ∉ w.world.backEnd.connectedClients ∧
      (DeadReleased basicProtocolCodec clientMessageCodec tr (.ok w) ↔
        ∀ p ∈ tr, FailsRemoved p) := by
  obtain ⟨w, hrun, hobs⟩ := (frontEndMachine basicProtocolCodec clientMessageCodec).exec_observed
    (init .sourceRelay .targetMarshall)
    (sampleAccept 7 ++ [.shutdown true, .sweep 7 true fun _ => {}, .swept, .failed 7 fun _ => {}])
    (fun w => (w.members, decide (7 ∈ w.world.backEnd.connectedClients))) (a := (∅, false))
    (by decide +kernel) (by decide +kernel)
  obtain ⟨hmem, hconn⟩ := Prod.mk.inj hobs
  exact ⟨_, w, hmem, of_decide_eq_false hconn, dead_released_iff _ _ _ _ hrun⟩

/-- **A client that closes its socket stays connected.** -/
theorem dead_connection_kept : ¬ ∀ (codec : BasicProtocolCodec) (messages : ClientMessageCodec)
    (sourceType : SourceConnectionType) (backendType : DestinationConnectionType)
    (tr : List (TcpWorld × TcpLabel)) (r : Except FrontEndFault TcpWorld),
    (frontEndMachine codec messages).Run (init sourceType backendType) tr r →
      DeadReleased codec messages tr r := by
  intro h
  obtain ⟨w, hrun, hobs⟩ := (frontEndMachine basicProtocolCodec clientMessageCodec).exec_observed
    (init .sourceRelay .targetMarshall) (sampleAccept 7 ++ [.failed 7 fun _ => {}])
    (fun w => (w.ioPoint, decide (7 ∈ w.members), w.active 7)) (a := (.waiting, true, false))
    (by decide +kernel) (by decide +kernel)
  simp only [Prod.mk.injEq, decide_eq_true_eq] at hobs
  obtain ⟨hwait, hmem, hdead⟩ := hobs
  have hactive := (h _ _ _ _ _ _ hrun).active.2 w rfl hwait 7 hmem
  rw [hdead] at hactive
  cases hactive

end TcpWorld

end RblRpc
