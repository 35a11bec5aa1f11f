import RblRpc.Tcp.Phases

/-!
# How a connection moves between its phases

* `PhaseStep`, `fire_phaseStep` — **what a step does to the phase of a connection.**
* `fire_frontEnd` — what it does to `rpc_count()` and to the shutdown flag.
* `disciplined_reaches` — every connection is in a phase or absent in every reachable state.
* `backEnd_reaches` — **the back end of such a state is one that `backEndMachine` reaches.**
-/

namespace RblRpc

open Transition

/-! ## What a step does to the phase of a connection -/

/-- The steps of connection `c` between its phases; `none` is no connection. -/
inductive PhaseStep (c : ClientPtr) : TcpLabel → Option Phase → Option Phase → Prop
  | other {l : TcpLabel} (q : Option Phase) (h : l.connection ≠ some c) : PhaseStep c l q q
  | accept (fresh : ℕ → UInt8) : PhaseStep c (.accept c fresh) none (some .header)
  | headerRead (header : Bytes) (fresh : ℕ → UInt8) (closes : Bool) (reply : ℕ → ServiceReply) :
    PhaseStep c (.headerRead c header fresh closes reply) (some .header) (some .body)
  | headerClosed (header : Bytes) (fresh : ℕ → UInt8) (closes : Bool) (reply : ℕ → ServiceReply) :
    PhaseStep c (.headerRead c header fresh closes reply) (some .header) none
  | bodyAccepted (body : Bytes) : PhaseStep c (.bodyRead c body) (some .body) (some .accepted)
  | bodyRefused (body : Bytes) : PhaseStep c (.bodyRead c body) (some .body) (some .refused)
  | reject : PhaseStep c (.check c) (some .accepted) (some .rejected)
  | post : PhaseStep c (.check c) (some .accepted) (some .posted)
  | endRejected : PhaseStep c (.endRejected c) (some .rejected) (some .refused)
  | answerRejected (fresh : ℕ → UInt8) :
    PhaseStep c (.answerRejected c fresh) (some .refused) (some .answered)
  | uncount : PhaseStep c (.uncount c) (some .answered) (some .writing)
  | take : PhaseStep c (.take c) (some .posted) (some .running)
  | run (reply : ServiceReply) : PhaseStep c (.run c reply) (some .running) (some .ran)
  | endRan : PhaseStep c (.endRan c) (some .ran) (some .poolAnswering)
  | answerRan (fresh : ℕ → UInt8) :
    PhaseStep c (.answerRan c fresh) (some .poolAnswering) (some .writing)
  | responseWritten : PhaseStep c (.responseWritten c) (some .writing) (some .header)
  | failed (reply : ℕ → ServiceReply) {op : IoOperation} {p : Phase} (h : p.carries op = true)
    (hp : p.task = none) : PhaseStep c (.failed c reply) (some p) (some p)
  | failedClosed (reply : ℕ → ServiceReply) :
    PhaseStep c (.failed c reply) (some .header) none
  | failedAbsent (reply : ℕ → ServiceReply) : PhaseStep c (.failed c reply) none none
  | sweep (closes : Bool) (reply : ℕ → ServiceReply) (q : Option Phase) :
    PhaseStep c (.sweep c closes reply) q q
  | sweepClosed (closes : Bool) (reply : ℕ → ServiceReply) :
    PhaseStep c (.sweep c closes reply) (some .header) none

namespace TcpWorld

variable {codec : BasicProtocolCodec} {messages : ClientMessageCodec} {w w' : TcpWorld}
  {c : ClientPtr} {q : Option Phase} {p : Phase}

/-- The step takes `c` to a phase that follows `q`. -/
def Moves (c : ClientPtr) (l : TcpLabel) (q : Option Phase) (w' : TcpWorld) : Prop :=
  ∃ q', PhaseStep c l q q' ∧ w'.At c q' ∧ w'.Sane c

/-- A connection with an operation in flight is in the phase of the operation. -/
theorem At.of_operation (hq : w.At c q) {op : IoOperation}
    (hop : (w.connections c).operation = some op) :
    q = none ∧ op = .readHeader ∨ ∃ p, q = some p ∧ p.carries op = true := by
  cases q with
  | none => exact .inl ⟨rfl, hq.operation op hop⟩
  | some p => exact .inr ⟨p, rfl, hq.operation op hop⟩

theorem accept_moves {fresh : ℕ → UInt8} (hq : w.At c q)
    (hg : w.enabled (.accept c fresh) = true) :
    Moves c (.accept c fresh) q (w.accept c fresh) := by
  simp only [enabled, unused, Bool.and_eq_true, decide_eq_true_eq, Bool.not_eq_true'] at hg
  obtain ⟨⟨⟨hwait, -⟩, hdead, -⟩, -⟩ := hg
  have hc : (w.accept c fresh).connections c = { (w.connections c) with
      ioState := .readHeaderWaitRequestStartInactive
      buffer := Buffer.new fresh
      flags := 0
      operation := some .readHeader
      handlerOwns := true
      alive := true
      poolAnswers := false } := by
    rw [accept, modify_connections_self, store_connections_self]
    rfl
  have hmem : c ∈ (w.accept c fresh).members := mem_store.mpr (by rw [if_pos rfl]; rfl)
  have hstage : (w.accept c fresh).world.stage c = .idle := World.stage_setInvoker_self _
  have hconn : c ∈ (w.accept c fresh).world.backEnd.connectedClients := Finset.mem_insert_self ..
  cases q with
  | some p =>
    rw [hq.alive] at hdead
    cases hdead
  | none =>
    refine ⟨some .header, .accept fresh, ⟨?_, ?_, hstage, hq.task, ?_, ?_⟩, ⟨?_, ?_, ?_, ?_⟩⟩
    · rw [hc]
    · rw [hc]; rfl
    · rw [hc]; rfl
    · rw [hc]
      rintro op ⟨⟩
      rfl
    · exact fun _ => hconn
    · exact fun _ _ => hmem
    · rw [hc]
      exact fun _ => rfl
    · exact fun _ hn => absurd hmem hn

/-- **The destructor** leaves an absent connection. -/
theorem release_absent {v : World}
    (hio : (w.connections c).ioState = .readHeaderWaitRequestStartInactive)
    (hop : ∀ op, (w.connections c).operation = some op → op = .readHeader)
    (howns : (w.connections c).handlerOwns = false)
    (hpool : (w.connections c).poolAnswers = false) (htask : w.ioPoint.taskOf c = none)
    (hmem : c ∉ w.members) (hsd : (w.connections c).operation = some .readHeader →
      w.frontEnd.shutdownInitiated = true) :
    Absent (({ w with world := v } : TcpWorld).modify c fun k => { k with alive := false }) c ∧
      Sane (({ w with world := v } : TcpWorld).modify c fun k => { k with alive := false }) c := by
  have hc : ((({ w with world := v } : TcpWorld).modify c fun k =>
      { k with alive := false }).connections c) = { (w.connections c) with alive := false } :=
    modify_connections_self _
  refine ⟨⟨?_, ?_, htask, ?_, ?_, hmem⟩, ⟨?_, ?_, ?_, ?_⟩⟩ <;> rw [hc]
  · exact hio
  · exact hpool
  · exact hop
  · exact fun ha => by cases ha
  · exact fun ha => by cases ha
  · intro ho
    rw [show (w.connections c).handlerOwns = true from ho] at howns
    cases howns
  · exact fun h _ => hsd h

theorem headerRead_moves {header : Bytes} {fresh : ℕ → UInt8} {closes : Bool}
    {reply : ℕ → ServiceReply} (hq : w.At c q) (hs : w.Sane c)
    (hg : w.enabled (.headerRead c header fresh closes reply) = true)
    (hf : w.headerRead c header fresh closes reply = .ok w') :
    Moves c (.headerRead c header fresh closes reply) q w' := by
  simp only [enabled, Bool.and_eq_true, decide_eq_true_eq] at hg
  obtain ⟨⟨-, hop⟩, -⟩ := hg
  obtain ⟨w₁, h₁, h₂⟩ := bind_eq_ok.mp hf
  obtain ⟨k, hk, rfl⟩ := onConnection_ok.mp h₁
  have hc : ((w.store c k).modify c fun k => { k with handlerOwns := false }).connections c =
      { (w.connections c) with
        ioState := k.invoker.ioState
        buffer := k.invoker.buffer
        flags := k.invoker.clientData.flags
        operation := k.operation
        handlerOwns := false } := by
    rw [modify_connections_self, store_connections_self]
  have hmem : c ∈ (w.store c k).members ↔ k.connected = true :=
    mem_store.trans (by rw [if_pos rfl])
  obtain ⟨hfe, ⟨hsd, hmember, rfl⟩ | ⟨hsd, hsame, hio, n, hbody⟩⟩ :=
    Connection.handleReadHeader_ok hk
  · -- disconnected: the destructor runs
    have hmember : c ∈ w.members := of_decide_eq_true hmember
    rcases hq.of_operation hop with ⟨rfl, -⟩ | ⟨p, rfl, hp⟩
    · exact absurd hmember hq.member
    · cases p <;> cases hp
      rcases release_ok h₂ with ⟨-, -, -, v, -, rfl⟩ | ⟨hkept, -⟩
      · refine ⟨none, .headerClosed .., ?_⟩
        apply release_absent
        · rw [hc]
          exact hq.ioState
        · rw [hc]
          rintro op ⟨⟩
        · rw [hc]
        · rw [hc]
          exact hq.poolAnswers
        · exact hq.task
        · exact fun hm => by cases hmem.mp hm
        · rw [hc]
          rintro ⟨⟩
      · rw [hc] at hkept
        cases hmem.mp (hkept hq.alive rfl)
  · have hmember : c ∈ w.members := by
      by_contra hn
      have hsd' : w.frontEnd.shutdownInitiated = true := hs.removed hop hn
      rw [show w.frontEnd.shutdownInitiated = false from hsd] at hsd'
      cases hsd'
    have hmember' : c ∈ (w.store c k).members := by
      rw [hmem, hsame]
      exact decide_eq_true hmember
    rcases hq.of_operation hop with ⟨rfl, -⟩ | ⟨p, rfl, hp⟩
    · exact absurd hmember hq.member
    · cases p <;> cases hp
      rcases release_ok h₂ with ⟨-, -, hout, -⟩ | ⟨-, rfl⟩
      · exact absurd hmember' hout
      · refine ⟨some .body, .headerRead .., ⟨?_, ?_, hq.stage, hq.task, ?_, ?_⟩, ⟨?_, ?_, ?_, ?_⟩⟩
        · rw [hc]; exact hq.alive
        · rw [hc]; exact hio
        · rw [hc]; exact hq.poolAnswers
        · rw [hc, show k.operation = _ from hbody]
          rintro op ⟨⟩
          rfl
        · exact fun _ => hs.connected hq.alive
        · exact fun _ _ => hmember'
        · rw [hc]
          exact fun h => by cases h
        · exact fun _ hn => absurd hmember' hn

theorem failed_moves {reply : ℕ → ServiceReply} (hq : w.At c q) (hs : w.Sane c)
    (hg : w.enabled (.failed c reply) = true) (hf : w.failed c reply = .ok w') :
    Moves c (.failed c reply) q w' := by
  simp only [enabled, Bool.and_eq_true, decide_eq_true_eq] at hg
  obtain ⟨op, hop⟩ := Option.isSome_iff_exists.mp hg.2
  have hc : ((w.modify c fun k => { k with operation := none }).modify c fun k =>
      { k with handlerOwns := false }).connections c =
        { (w.connections c) with operation := none, handlerOwns := false } := by
    rw [modify_connections_self, modify_connections_self]
  have hwait : w.ioPoint.taskOf c = none := by rw [hg.1]; rfl
  rcases release_ok hf with ⟨ha, -, hout, v, -, rfl⟩ | ⟨hkept, rfl⟩
  · -- removed before: the handler was the last to hold it
    rw [hc] at ha
    change (w.connections c).alive = true at ha
    have howns : (w.connections c).handlerOwns = true := by
      by_contra hno
      exact hout (hs.held ha (Bool.eq_false_iff.mpr hno))
    rw [hs.owns howns] at hop
    cases hop
    rcases hq.of_operation (hs.owns howns) with ⟨rfl, -⟩ | ⟨p, rfl, hp⟩
    · rw [hq.alive] at ha
      cases ha
    · cases p <;> cases hp
      refine ⟨none, .failedClosed reply, ?_⟩
      apply release_absent
      · rw [hc]
        exact hq.ioState
      · rw [hc]
        rintro op ⟨⟩
      · rw [hc]
      · rw [hc]
        exact hq.poolAnswers
      · exact hwait
      · exact hout
      · rw [hc]
        rintro ⟨⟩
  · rw [hc] at hkept
    have hsane : Sane ((w.modify c fun k => { k with operation := none }).modify c fun k =>
        { k with handlerOwns := false }) c := by
      refine ⟨?_, ?_, ?_, ?_⟩ <;> rw [hc]
      · exact hs.connected
      · exact fun ha _ => hkept ha rfl
      · exact fun h => by cases h
      · exact fun h => by cases h
    cases q with
    | none =>
      refine ⟨none, .failedAbsent reply, ⟨?_, ?_, hwait, ?_, ?_, hq.member⟩, hsane⟩ <;> rw [hc]
      · exact hq.alive
      · exact hq.ioState
      · exact hq.poolAnswers
      · rintro op ⟨⟩
    | some p =>
      have hp := hq.operation op hop
      have htask : p.task = none := hq.task.symm.trans hwait
      refine ⟨some p, .failed reply hp htask, ⟨?_, ?_, hq.stage, hq.task, ?_, ?_⟩, hsane⟩ <;>
        rw [hc]
      · exact hq.alive
      · exact hq.ioState
      · exact hq.poolAnswers
      · rintro op ⟨⟩

theorem sweep_moves {closes : Bool} {reply : ℕ → ServiceReply} (hq : w.At c q) (hs : w.Sane c)
    (hsweep : ∀ left, w.ioPoint = .sweeping left → w.frontEnd.shutdownInitiated = true)
    (hg : w.enabled (.sweep c closes reply) = true) (hf : w.sweep c closes reply = .ok w') :
    Moves c (.sweep c closes reply) q w' := by
  obtain ⟨left, hat, -⟩ := sweep_enabled hg
  have hsd := hsweep left hat
  simp only [sweep, hat] at hf
  split at hf
  · rename_i hio
    obtain ⟨w₁, h₁, h₂⟩ := bind_eq_ok.mp hf
    obtain ⟨k, hk, rfl⟩ := onConnection_ok.mp h₁
    obtain ⟨hmember, rfl⟩ := Connection.disconnectClient_ok_connected hk
    have hmember : c ∈ w.members := of_decide_eq_true hmember
    generalize hw₁ : (w.goto (.sweeping (left.erase c))).store c _ = w₁ at h₁ h₂
    have hc : w₁.connections c = w.connections c := by
      rw [← hw₁, store_connections_self]
      rfl
    have hout : c ∉ w₁.members := by
      rw [← hw₁, mem_store, if_pos rfl]
      exact Bool.false_ne_true
    have htask : w₁.ioPoint.taskOf c = none := by rw [← hw₁]; rfl
    have hworld : w₁.world = w.world := by rw [← hw₁]; rfl
    have hsd' : w₁.frontEnd.shutdownInitiated = true := by rw [← hw₁]; exact hsd
    cases q with
    | none => exact absurd hmember hq.member
    | some p =>
      have hp : p.ioState = .readHeaderWaitRequestStartInactive := hq.ioState.symm.trans hio
      cases p <;> cases hp
      rcases release_ok h₂ with ⟨-, howns, -, v, -, rfl⟩ | ⟨hkept, rfl⟩
      · refine ⟨none, .sweepClosed closes reply, ?_⟩
        apply release_absent
        · rw [hc]
          exact hq.ioState
        · rw [hc]
          intro op hop
          have hop' := hq.operation op hop
          cases op <;> first | rfl | cases hop'
        · exact howns
        · rw [hc]
          exact hq.poolAnswers
        · exact htask
        · exact hout
        · exact fun _ => hsd'
      · refine ⟨some .header, .sweep .., ⟨?_, ?_, ?_, htask, ?_, ?_⟩, ⟨?_, ?_, ?_, ?_⟩⟩
        · rw [hc]; exact hq.alive
        · rw [hc]; exact hq.ioState
        · rw [hworld]; exact hq.stage
        · rw [hc]; exact hq.poolAnswers
        · rw [hc]; exact hq.operation
        · rw [hc, hworld]; exact hs.connected
        · exact hkept
        · rw [hc]; exact hs.owns
        · exact fun _ _ => hsd'
  · cases hf
    have htask : w.ioPoint.taskOf c = none := by rw [hat]; rfl
    refine ⟨q, .sweep .., ?_, ⟨hs.connected, hs.held, hs.owns, hs.removed⟩⟩
    cases q with
    | none => exact ⟨hq.alive, hq.ioState, rfl, hq.poolAnswers, hq.operation, hq.member⟩
    | some p =>
      exact ⟨hq.alive, hq.ioState, hq.stage, htask.symm.trans hq.task, hq.poolAnswers,
        hq.operation⟩

theorem Sane.congr (hs : w.Sane c)
    (hconn : c ∈ w.world.backEnd.connectedClients → c ∈ w'.world.backEnd.connectedClients)
    (ha : (w'.connections c).alive = (w.connections c).alive)
    (ho : (w'.connections c).handlerOwns = (w.connections c).handlerOwns)
    (hop : (w'.connections c).operation = (w.connections c).operation)
    (hm : c ∈ w'.members ↔ c ∈ w.members)
    (hsd : w.frontEnd.shutdownInitiated = true → w'.frontEnd.shutdownInitiated = true) :
    w'.Sane c := by
  refine ⟨?_, ?_, ?_, ?_⟩
  · rw [ha]
    exact fun h => hconn (hs.connected h)
  · rw [ha, ho, hm]
    exact hs.held
  · rw [ho, hop]
    exact hs.owns
  · rw [hop, hm]
    exact fun h hn => hsd (hs.removed h hn)

/-- Past its header a connection is held by `m_connections` alone. -/
theorem InPhase.member (hq : w.InPhase c p) (hs : w.Sane c) (hp : p ≠ .header) :
    (w.connections c).handlerOwns = false ∧ c ∈ w.members := by
  have howns : (w.connections c).handlerOwns = false := by
    rw [Bool.eq_false_iff]
    intro h
    have hcarries := hq.operation _ (hs.owns h)
    cases p <;> first | exact hp rfl | cases hcarries
  exact ⟨howns, hs.held hq.alive howns⟩

/-- A handler that keeps the connection in `m_connections`. -/
theorem Sane.store {k : Connection} (hs : w.Sane c) (howns : (w.connections c).handlerOwns = false)
    (hmem : c ∈ w.members) (hk : k.connected = decide (c ∈ w.members)) : (w.store c k).Sane c := by
  have hmem' : c ∈ (w.store c k).members := by
    rw [mem_store, if_pos rfl, hk]
    exact decide_eq_true hmem
  refine ⟨?_, fun _ _ => hmem', ?_, fun _ hn => absurd hmem' hn⟩ <;> rw [store_connections_self]
  · exact hs.connected
  · intro ho
    rw [show (w.connections c).handlerOwns = true from ho] at howns
    cases howns

/-- `handle_write_response` of a connection, from the io thread or from a pool thread. -/
theorem writeResponse_store {fresh : ℕ → UInt8} (hq : w.InPhase c p) (hs : w.Sane c)
    (hp : p ≠ .header)
    (hf : w.onConnection c (Connection.handleWriteResponse messages fresh) = .ok w') :
    w'.Sane c ∧ w'.world = w.world ∧ w'.ioPoint = w.ioPoint ∧
      (w'.connections c).alive = true ∧
      (w'.connections c).poolAnswers = (w.connections c).poolAnswers ∧
      (w'.connections c).ioState = .requestResponseWriteActive ∧
      ∃ n, (w'.connections c).operation = some (.writeResponse n) := by
  obtain ⟨k, hk, rfl⟩ := onConnection_ok.mp hf
  obtain ⟨-, hconn, hio, hop⟩ := Connection.handleWriteResponse_ok hk
  obtain ⟨howns, hmem⟩ := hq.member hs hp
  refine ⟨hs.store howns hmem hconn, rfl, rfl, ?_⟩
  rw [store_connections_self]
  exact ⟨hq.alive, rfl, hio, hop⟩

/-- **`handle_read_body` up to `start_rpc`.** -/
theorem bodyRead_ok {body : Bytes} (h : w.bodyRead messages c body = .ok w') :
    ∃ request k v, ((w.view c).receive body).beginReadBody messages body.length = (request, k) ∧
      World.request c false request w.world = .ok v ∧
      w' = ({ w.store c k with world := v } : TcpWorld).goto
        (.reading c (if v.stage c = .accepted then .invoking else .answering)) := by
  obtain ⟨w₁, h₁, hret⟩ := bind_eq_ok.mp h
  obtain ⟨v, hv, rfl⟩ := onWorld_ok.mp h₁
  cases hret
  exact ⟨_, _, v, rfl, hv, rfl⟩

/-- What `handle_read_body` sets before `invoke`. -/
theorem beginReadBody_eq {body : Bytes} {request : ClientRequest} {k : Connection}
    (h : ((w.view c).receive body).beginReadBody messages body.length = (request, k)) :
    k.invoker.ioState = .requestDispatchedActive ∧ k.operation = none ∧
      k.connected = decide (c ∈ w.members) ∧
      k.frontEnd = { w.frontEnd with rpcCount := w.frontEnd.rpcCount + 1 } := by
  obtain ⟨-, rfl⟩ := Prod.mk.inj h
  exact ⟨rfl, rfl, rfl, rfl⟩

theorem bodyRead_moves {body : Bytes} (hq : w.At c q) (hs : w.Sane c)
    (hg : w.enabled (.bodyRead c body) = true) (hf : w.bodyRead messages c body = .ok w') :
    Moves c (.bodyRead c body) q w' := by
  simp only [enabled, Bool.and_eq_true, decide_eq_true_eq] at hg
  rcases hq.of_operation hg.2 with ⟨rfl, hop⟩ | ⟨p, rfl, hp⟩
  · cases hop
  cases p <;> cases hp
  obtain ⟨howns, hmem⟩ := hq.member hs (by decide)
  obtain ⟨request, k, v, hk, hv, rfl⟩ := bodyRead_ok hf
  obtain ⟨hio, hop, hconn, -⟩ := beginReadBody_eq hk
  have hstore := hs.store howns hmem hconn
  have hfire : World.fire basicProtocolCodec w.world (.request c false request) = .ok v := hv
  have hmemv : c ∈ v.backEnd.connectedClients :=
    World.fire_connected_self rfl (fun _ h => by cases h) hfire (hs.connected hq.alive)
  have hst : w.world.stage c = .idle := hq.stage
  have hgw : w.world.enabled (.request c false request) = true := by
    simp only [World.enabled, hst, hs.connected hq.alive, decide_true, Bool.and_self]
  have hstage := World.fire_stageStep c hgw hfire
  rw [hst] at hstage
  have hphase : ∀ p : Phase, p.ioState = .requestDispatchedActive → p.stage = v.stage c →
      p.poolAnswers = false →
      p.task = some (if v.stage c = .accepted then .invoking else .answering) →
      InPhase (({ w.store c k with world := v } : TcpWorld).goto
        (.reading c (if v.stage c = .accepted then .invoking else .answering))) c p := by
    intro p hpio hpst hppool hptask
    refine ⟨?_, ?_, hpst.symm, ?_, ?_, ?_⟩
    · show ((w.store c k).connections c).alive = true
      rw [store_connections_self]
      exact hq.alive
    · show ((w.store c k).connections c).ioState = p.ioState
      rw [store_connections_self, hpio]
      exact hio
    · rw [hptask]
      exact taskOf_reading_self c _
    · show ((w.store c k).connections c).poolAnswers = p.poolAnswers
      rw [store_connections_self, hppool]
      exact hq.poolAnswers
    · show ∀ op, ((w.store c k).connections c).operation = some op → _
      rw [store_connections_self, show k.operation = none from hop]
      rintro op ⟨⟩
  have hsane : Sane (({ w.store c k with world := v } : TcpWorld).goto
      (.reading c (if v.stage c = .accepted then .invoking else .answering))) c :=
    hstore.congr (fun _ => hmemv) rfl rfl rfl Iff.rfl id
  have hcase : v.stage c = .accepted ∨ v.stage c = .idle := by
    generalize v.stage c = s' at hstage
    cases hstage with
    | other _ h => exact absurd rfl h
    | accept => exact .inl rfl
    | refuse => exact .inr rfl
  rcases hcase with hst' | hst'
  · exact ⟨some .accepted, .bodyAccepted body, hphase .accepted rfl hst'.symm rfl
      (by rw [hst']; rfl), hsane⟩
  · exact ⟨some .refused, .bodyRefused body, hphase .refused rfl hst'.symm rfl
      (by rw [hst']; rfl), hsane⟩

/-! ### `invoke` and the pool threads -/

theorem At.of_reading {t : IoTask} (hq : w.At c q) (hat : w.ioPoint = .reading c t) :
    ∃ p, q = some p ∧ p.task = some t := by
  have htask : w.ioPoint.taskOf c = some t := by rw [hat, taskOf_reading_self]
  cases q with
  | none =>
    rw [hq.task] at htask
    cases htask
  | some p => exact ⟨p, rfl, hq.task.symm.trans htask⟩

/-- A step of the back end for the connection moves the stage of its request. -/
theorem InPhase.world {v : World} {p' : Phase} (hq : w.InPhase c p) (hst : v.stage c = p'.stage)
    (hio : p'.ioState = p.ioState) (htask : p'.task = p.task)
    (hpool : p'.poolAnswers = p.poolAnswers)
    (hop : ∀ op, p.carries op = true → p'.carries op = true) :
    InPhase { w with world := v } c p' :=
  ⟨hq.alive, hq.ioState.trans hio.symm, hst, hq.task.trans htask.symm,
    hq.poolAnswers.trans hpool.symm, fun op h => hop op (hq.operation op h)⟩

theorem Sane.world {v : World} {bl : Label} (hs : w.Sane c) (hcl : bl.client = some c)
    (hne : ∀ reply, bl ≠ .disconnect c reply) (hv : World.fire codec w.world bl = .ok v) :
    Sane { w with world := v } c :=
  hs.congr (World.fire_connected_self hcl hne hv) rfl rfl rfl Iff.rfl id

theorem check_moves (hq : w.At c q) (hs : w.Sane c) (hg : w.enabled (.check c) = true)
    (hf : w.check codec c = .ok w') : Moves c (.check c) q w' := by
  simp only [enabled, Bool.and_eq_true, decide_eq_true_eq] at hg
  obtain ⟨hat, hgw⟩ := hg
  have hst : w.world.stage c = .accepted := of_decide_eq_true hgw
  obtain ⟨p, rfl, hp⟩ := hq.of_reading hat
  have hp' : p.stage = .accepted := hq.stage.symm.trans hst
  cases p <;> cases hp <;> cases hp'
  obtain ⟨w₁, h₁, hret⟩ := bind_eq_ok.mp hf
  obtain ⟨v, hv, rfl⟩ := onWorld_ok.mp h₁
  have hsane : Sane { w with world := v } c := hs.world rfl (fun _ h => by cases h) hv
  have hcase : v.stage c = .rejected ∨ v.stage c = .posted := by
    have hstage := World.fire_stageStep c hgw hv
    rw [hst] at hstage
    generalize v.stage c = s' at hstage
    cases hstage with
    | other _ h => exact absurd rfl h
    | reject => exact .inl rfl
    | post => exact .inr rfl
  rcases hcase with hst' | hst'
  · simp only [hst', reduceCtorEq, if_false] at hret
    cases hret
    exact ⟨some .rejected, .reject, hq.world hst' rfl rfl rfl (fun op h => by cases h), hsane⟩
  · simp only [hst', if_true] at hret
    cases hret
    exact ⟨some .posted, .post, ⟨hq.alive, hq.ioState, hst', rfl, hq.poolAnswers,
      fun op h => absurd (hq.operation op h) Bool.false_ne_true⟩,
      hsane.congr id rfl rfl rfl Iff.rfl id⟩

theorem endRejected_moves (hq : w.At c q) (hs : w.Sane c)
    (hg : w.enabled (.endRejected c) = true) (hf : w.endRejected c = .ok w') :
    Moves c (.endRejected c) q w' := by
  simp only [enabled, Bool.and_eq_true, decide_eq_true_eq] at hg
  obtain ⟨hat, hst⟩ := hg
  obtain ⟨p, rfl, hp⟩ := hq.of_reading hat
  have hp' : p.stage = .rejected := hq.stage.symm.trans hst
  cases p <;> cases hp <;> cases hp'
  obtain ⟨w₁, h₁, hret⟩ := bind_eq_ok.mp hf
  obtain ⟨v, hv, rfl⟩ := onWorld_ok.mp h₁
  cases hret
  have hv' : World.fire basicProtocolCodec w.world (.finish c) = .ok v := hv
  have hsane : Sane { w with world := v } c := hs.world rfl (fun _ h => by cases h) hv'
  have hst' : v.stage c = .idle := by
    obtain ⟨-, rfl⟩ := World.finish_ok hv
    exact World.stage_setInvoker_self _
  exact ⟨some .refused, .endRejected, ⟨hq.alive, hq.ioState, hst', taskOf_reading_self c _,
    hq.poolAnswers, fun op h => absurd (hq.operation op h) Bool.false_ne_true⟩,
    hsane.congr id rfl rfl rfl Iff.rfl id⟩

theorem answerRejected_moves {fresh : ℕ → UInt8} (hq : w.At c q) (hs : w.Sane c)
    (hg : w.enabled (.answerRejected c fresh) = true)
    (hf : w.answerRejected messages c fresh = .ok w') :
    Moves c (.answerRejected c fresh) q w' := by
  obtain ⟨p, rfl, hp⟩ := hq.of_reading (of_decide_eq_true hg)
  cases p <;> cases hp
  obtain ⟨w₁, h₁, hret⟩ := bind_eq_ok.mp hf
  cases hret
  obtain ⟨hsane, hworld, -, ha, hpool, hio, n, hop⟩ :=
    writeResponse_store hq hs (by decide) h₁
  refine ⟨some .answered, .answerRejected fresh, ⟨ha, hio, ?_, taskOf_reading_self c _,
    hpool.trans hq.poolAnswers, ?_⟩, hsane.congr id rfl rfl rfl Iff.rfl id⟩
  · show w₁.world.stage c = _
    rw [hworld]
    exact hq.stage
  · show ∀ op, (w₁.connections c).operation = some op → _
    rw [hop]
    rintro op ⟨⟩
    rfl

theorem uncount_moves (hq : w.At c q) (hs : w.Sane c) (hg : w.enabled (.uncount c) = true)
    (hf : w.uncount c = .ok w') : Moves c (.uncount c) q w' := by
  obtain ⟨p, rfl, hp⟩ := hq.of_reading (of_decide_eq_true hg)
  cases p <;> cases hp
  obtain ⟨w₁, h₁, hret⟩ := bind_eq_ok.mp hf
  obtain ⟨k, hk, rfl⟩ := onConnection_ok.mp h₁
  cases hret
  cases hk
  obtain ⟨howns, hmem⟩ := hq.member hs (by decide)
  have hsane := hs.store (k := (w.view c).addRpcCount (-1)) howns hmem rfl
  refine ⟨some .writing, .uncount, ⟨?_, ?_, hq.stage, rfl, ?_, ?_⟩,
    hsane.congr id rfl rfl rfl Iff.rfl id⟩
  · show ((w.store c _).connections c).alive = true
    rw [store_connections_self]
    exact hq.alive
  · show ((w.store c _).connections c).ioState = _
    rw [store_connections_self]
    exact hq.ioState
  · show ((w.store c _).connections c).poolAnswers = _
    rw [store_connections_self]
    exact hq.poolAnswers
  · show ∀ op, ((w.store c _).connections c).operation = some op → _
    rw [store_connections_self]
    intro op hop
    have hcarries := hq.operation op hop
    cases op <;> first | rfl | cases hcarries

theorem take_moves (hq : w.At c q) (hs : w.Sane c) (hg : w.enabled (.take c) = true)
    (hf : w.onWorld (World.take c) = .ok w') : Moves c (.take c) q w' := by
  simp only [enabled, Bool.and_eq_true] at hg
  obtain ⟨v, hv, rfl⟩ := onWorld_ok.mp hf
  have hv' : World.fire basicProtocolCodec w.world (.take c) = .ok v := hv
  have hst : w.world.stage c = .posted := by
    simp only [World.enabled, Bool.and_eq_true, decide_eq_true_eq] at hg
    exact hg.2.2
  have hst' : v.stage c = .running := by
    cases hv
    exact World.stage_setInvoker_self _
  cases q with
  | none =>
    rw [hq.alive] at hg
    cases hg.1
  | some p =>
    have hp : p.stage = .posted := hq.stage.symm.trans hst
    cases p <;> cases hp
    exact ⟨some .running, .take, hq.world hst' rfl rfl rfl (fun op h => by cases h),
      hs.world rfl (fun _ h => by cases h) hv'⟩

theorem run_moves {reply : ServiceReply} (hq : w.At c q) (hs : w.Sane c)
    (hg : w.enabled (.run c reply) = true)
    (hf : w.onWorld (World.fire codec · (.run c reply)) = .ok w') :
    Moves c (.run c reply) q w' := by
  simp only [enabled, Bool.and_eq_true] at hg
  obtain ⟨v, hv, rfl⟩ := onWorld_ok.mp hf
  have hst : w.world.stage c = .running := of_decide_eq_true hg.2
  have hst' : v.stage c = .ran := by
    have hstage := World.fire_stageStep c hg.2 hv
    rw [hst] at hstage
    generalize v.stage c = s' at hstage ⊢
    cases hstage with
    | other _ h => exact absurd rfl h
    | run => rfl
  cases q with
  | none =>
    rw [hq.alive] at hg
    cases hg.1
  | some p =>
    have hp : p.stage = .running := hq.stage.symm.trans hst
    cases p <;> cases hp
    exact ⟨some .ran, .run reply, hq.world hst' rfl rfl rfl (fun op h => by cases h),
      hs.world rfl (fun _ h => by cases h) hv⟩

theorem endRan_moves (hq : w.At c q) (hs : w.Sane c) (hg : w.enabled (.endRan c) = true)
    (hf : w.endRan c = .ok w') : Moves c (.endRan c) q w' := by
  simp only [enabled, Bool.and_eq_true, decide_eq_true_eq] at hg
  obtain ⟨ha, hst⟩ := hg
  obtain ⟨w₁, h₁, hret⟩ := bind_eq_ok.mp hf
  obtain ⟨v, hv, rfl⟩ := onWorld_ok.mp h₁
  cases hret
  have hv' : World.fire basicProtocolCodec w.world (.finish c) = .ok v := hv
  have hst' : v.stage c = .idle := by
    obtain ⟨-, rfl⟩ := World.finish_ok hv
    exact World.stage_setInvoker_self _
  have hsane : Sane { w with world := v } c := hs.world rfl (fun _ h => by cases h) hv'
  cases q with
  | none =>
    rw [hq.alive] at ha
    cases ha
  | some p =>
    have hp : p.stage = .ran := hq.stage.symm.trans hst
    cases p <;> cases hp
    refine ⟨some .poolAnswering, .endRan, ⟨?_, ?_, hst', hq.task, ?_, ?_⟩,
      hsane.congr id ?_ ?_ ?_ Iff.rfl id⟩ <;> rw [modify_connections_self]
    · exact hq.alive
    · exact hq.ioState
    · rfl
    · intro op hop
      exact absurd (hq.operation op hop) Bool.false_ne_true

theorem answerRan_moves {fresh : ℕ → UInt8} (hq : w.At c q) (hs : w.Sane c)
    (hg : w.enabled (.answerRan c fresh) = true)
    (hf : w.answerRan messages c fresh = .ok w') : Moves c (.answerRan c fresh) q w' := by
  have hpool : (w.connections c).poolAnswers = true := hg
  obtain ⟨w₁, h₁, hret⟩ := bind_eq_ok.mp hf
  cases hret
  cases q with
  | none =>
    rw [hq.poolAnswers] at hpool
    cases hpool
  | some p =>
    have hp : p.poolAnswers = true := hq.poolAnswers.symm.trans hpool
    cases p <;> cases hp
    obtain ⟨hsane, hworld, hpoint, ha, -, hio, n, hop⟩ :=
      writeResponse_store hq hs (by decide) h₁
    refine ⟨some .writing, .answerRan fresh, ⟨?_, ?_, ?_, ?_, ?_, ?_⟩,
      hsane.congr id ?_ ?_ ?_ Iff.rfl id⟩
    · rw [modify_connections_self]; exact ha
    · rw [modify_connections_self]; exact hio
    · show w₁.world.stage c = _
      rw [hworld]
      exact hq.stage
    · show w₁.ioPoint.taskOf c = _
      rw [hpoint]
      exact hq.task
    · rw [modify_connections_self]; rfl
    · rw [modify_connections_self]
      show ∀ op, (w₁.connections c).operation = some op → _
      rw [hop]
      rintro op ⟨⟩
      rfl
    · rw [modify_connections_self]
    · rw [modify_connections_self]
    · rw [modify_connections_self]

theorem responseWritten_moves (hq : w.At c q) (hs : w.Sane c)
    (hg : w.enabled (.responseWritten c) = true)
    (hf : w.onConnection c Connection.handleResetForNextRequest = .ok w') :
    Moves c (.responseWritten c) q w' := by
  simp only [enabled, Bool.and_eq_true, decide_eq_true_eq] at hg
  obtain ⟨hwait, hop⟩ := hg
  obtain ⟨n, hop⟩ : ∃ n, (w.connections c).operation = some (.writeResponse n) := by
    split at hop
    · exact ⟨_, ‹_›⟩
    · cases hop
  obtain ⟨k, hk, rfl⟩ := onConnection_ok.mp hf
  have hk := Connection.handleResetForNextRequest_ok hk
  have htask : w.ioPoint.taskOf c = none := by rw [hwait]; rfl
  rcases hq.of_operation hop with ⟨rfl, hop'⟩ | ⟨p, rfl, hp⟩
  · cases hop'
  have hptask : p.task = none := hq.task.symm.trans htask
  cases p <;> cases hp <;> cases hptask
  obtain ⟨howns, hmem⟩ := hq.member hs (by decide)
  subst hk
  refine ⟨some .header, .responseWritten, ⟨?_, ?_, hq.stage, htask, ?_, ?_⟩,
    hs.store howns hmem rfl⟩ <;> rw [store_connections_self]
  · exact hq.alive
  · rfl
  · exact hq.poolAnswers
  · rintro op ⟨⟩
    rfl

/-! ### The invariant -/

theorem SameConnection.at (h : SameConnection c w w') (hq : w.At c q)
    (hst : (w.connections c).alive = true → w'.world.stage c = w.world.stage c) :
    w'.At c q := by
  cases q with
  | none =>
    refine ⟨?_, ?_, h.task.trans hq.task, ?_, ?_, fun hm => hq.member (h.member.mp hm)⟩ <;>
      rw [h.connection]
    · exact hq.alive
    · exact hq.ioState
    · exact hq.poolAnswers
    · exact hq.operation
  | some p =>
    refine ⟨?_, ?_, (hst hq.alive).trans hq.stage, h.task.trans hq.task, ?_, ?_⟩ <;>
      rw [h.connection]
    · exact hq.alive
    · exact hq.ioState
    · exact hq.poolAnswers
    · exact hq.operation

theorem release_kept {reply : ℕ → ServiceReply} (h : w.release c reply = .ok w') :
    w'.frontEnd = w.frontEnd ∧ w'.ioPoint = w.ioPoint ∧ w'.members = w.members := by
  rcases release_ok h with ⟨-, -, -, v, -, rfl⟩ | ⟨-, rfl⟩ <;> exact ⟨rfl, rfl, rfl⟩

end TcpWorld

/-- What a step adds to `rpc_count()`. -/
def TcpLabel.counts : TcpLabel → Int
  | .bodyRead _ _ => 1
  | .answerRejected _ _ | .uncount _ | .answerRan _ _ => -1
  | _ => 0

/-- What the loop of `shutdown_handler` has looked at with the step. -/
def TcpLabel.looksAt : TcpLabel → Finset ClientPtr
  | .sweep c _ _ => {c}
  | _ => ∅

/-- The step is the first of `shutdown_handler`. -/
def TcpLabel.shutsDown : TcpLabel → Bool
  | .shutdown _ => true
  | _ => false

namespace TcpWorld

variable {codec : BasicProtocolCodec} {messages : ClientMessageCodec} {w w' : TcpWorld}
  {c : ClientPtr} {q : Option Phase} {l : TcpLabel}

theorem headerRead_ok {header : Bytes} {fresh : ℕ → UInt8} {closes : Bool}
    {reply : ℕ → ServiceReply} (h : w.headerRead c header fresh closes reply = .ok w') :
    w'.frontEnd = w.frontEnd ∧ w'.ioPoint = w.ioPoint := by
  obtain ⟨w₁, h₁, h₂⟩ := bind_eq_ok.mp h
  obtain ⟨k, hk, rfl⟩ := onConnection_ok.mp h₁
  obtain ⟨hfe, hpoint, -⟩ := release_kept h₂
  exact ⟨hfe.trans (Connection.handleReadHeader_ok hk).1, hpoint⟩

theorem writeResponse_frontEnd {fresh : ℕ → UInt8}
    (h : w.onConnection c (Connection.handleWriteResponse messages fresh) = .ok w') :
    w'.frontEnd = { w.frontEnd with rpcCount := w.frontEnd.rpcCount + -1 } := by
  obtain ⟨k, hk, rfl⟩ := onConnection_ok.mp h
  exact (Connection.handleWriteResponse_ok hk).1

theorem sweep_ok {closes : Bool} {reply : ℕ → ServiceReply}
    (hg : w.enabled (.sweep c closes reply) = true) (h : w.sweep c closes reply = .ok w') :
    w'.frontEnd = w.frontEnd ∧ ∃ left, w.ioPoint = .sweeping left := by
  obtain ⟨left, hat, -⟩ := sweep_enabled hg
  refine ⟨?_, left, hat⟩
  simp only [sweep, hat] at h
  split at h
  · obtain ⟨w₁, h₁, h₂⟩ := bind_eq_ok.mp h
    obtain ⟨k, hk, rfl⟩ := onConnection_ok.mp h₁
    obtain ⟨-, rfl⟩ := Connection.disconnectClient_ok_connected hk
    exact (release_kept h₂).1
  · cases h
    rfl

/-- **What a step does to the members of `TcpFrontEnd`.** -/
theorem fire_frontEnd (hg : w.enabled l = true) (hf : w.fire codec messages l = .ok w') :
    w'.frontEnd =
      { rpcCount := w.frontEnd.rpcCount + l.counts
        shutdownInitiated := w.frontEnd.shutdownInitiated || l.shutsDown } := by
  have hsame : ∀ fe : TcpFrontEnd, fe = ⟨fe.rpcCount + 0, fe.shutdownInitiated || false⟩ :=
    fun fe => by rw [Int.add_zero, Bool.or_false]
  have hcount : ∀ (fe : TcpFrontEnd) (n : Int), ({ fe with rpcCount := fe.rpcCount + n } : TcpFrontEnd)
      = ⟨fe.rpcCount + n, fe.shutdownInitiated || false⟩ := fun fe n => by rw [Bool.or_false]
  cases l with
  | accept c fresh | acceptFailed | swept =>
    cases hf
    exact hsame _
  | headerRead c header fresh closes reply => exact (headerRead_ok hf).1.trans (hsame _)
  | bodyRead c body =>
    obtain ⟨request, k, v, hk, -, rfl⟩ := bodyRead_ok hf
    exact (beginReadBody_eq hk).2.2.2.trans (hcount _ 1)
  | check c =>
    obtain ⟨w₁, h₁, hret⟩ := bind_eq_ok.mp hf
    obtain ⟨v, hv, rfl⟩ := onWorld_ok.mp h₁
    split at hret <;> cases hret <;> exact hsame _
  | endRejected c | endRan c =>
    obtain ⟨w₁, h₁, hret⟩ := bind_eq_ok.mp hf
    obtain ⟨v, hv, rfl⟩ := onWorld_ok.mp h₁
    cases hret
    exact hsame _
  | answerRejected c fresh | answerRan c fresh =>
    obtain ⟨w₁, h₁, hret⟩ := bind_eq_ok.mp hf
    cases hret
    exact (writeResponse_frontEnd h₁).trans (hcount _ (-1))
  | uncount c =>
    obtain ⟨w₁, h₁, hret⟩ := bind_eq_ok.mp hf
    obtain ⟨k, hk, rfl⟩ := onConnection_ok.mp h₁
    cases hret
    cases hk
    exact hcount _ (-1)
  | take c =>
    obtain ⟨v, hv, rfl⟩ := onWorld_ok.mp hf
    exact hsame _
  | run c reply =>
    obtain ⟨v, hv, rfl⟩ := (onWorld_ok (f := (World.fire codec · (.run c reply)))).mp hf
    exact hsame _
  | backEnd bl =>
    obtain ⟨v, hv, rfl⟩ := (onWorld_ok (f := (World.fire codec · bl))).mp hf
    exact hsame _
  | responseWritten c =>
    obtain ⟨k, hk, rfl⟩ := onConnection_ok.mp hf
    have hk := Connection.handleResetForNextRequest_ok hk
    subst hk
    exact hsame _
  | failed c reply => exact (release_kept hf).1.trans (hsame _)
  | sweep c closes reply => exact (sweep_ok hg hf).1.trans (hsame _)
  | shutdown closes =>
    simp only [fire, shutdown] at hf
    split at hf <;> cases hf
    simp [TcpLabel.counts, TcpLabel.shutsDown]

/-- **The loop of `shutdown_handler`** begins with the members, and looks at one after the other. -/
theorem fire_left (hg : w.enabled l = true) (hf : w.fire codec messages l = .ok w')
    {left : Finset ClientPtr} (hat : w'.ioPoint = .sweeping left) :
    (∃ closes, l = .shutdown closes) ∧ left = w'.members ∨
      ∃ left₀, w.ioPoint = .sweeping left₀ ∧ left = left₀ \ l.looksAt := by
  have hkept : ∀ {p : IoPoint}, w'.ioPoint = p → p = w.ioPoint →
      ∃ left₀, w.ioPoint = .sweeping left₀ ∧ left = left₀ \ ∅ := by
    rintro p rfl hp
    exact ⟨left, hp.symm.trans hat, Finset.sdiff_empty.symm⟩
  cases l with
  | accept c fresh | acceptFailed =>
    cases hf
    exact .inr (hkept rfl rfl)
  | swept =>
    cases hf
    cases hat
  | headerRead c header fresh closes reply => exact .inr (hkept rfl (headerRead_ok hf).2)
  | bodyRead c body =>
    obtain ⟨request, k, v, hk, -, rfl⟩ := bodyRead_ok hf
    cases hat
  | check c =>
    obtain ⟨w₁, h₁, hret⟩ := bind_eq_ok.mp hf
    obtain ⟨v, hv, rfl⟩ := onWorld_ok.mp h₁
    split at hret <;> cases hret
    · cases hat
    · exact .inr (hkept rfl rfl)
  | endRejected c | answerRejected c fresh | uncount c =>
    obtain ⟨w₁, h₁, hret⟩ := bind_eq_ok.mp hf
    cases hret
    cases hat
  | endRan c =>
    obtain ⟨w₁, h₁, hret⟩ := bind_eq_ok.mp hf
    obtain ⟨v, hv, rfl⟩ := onWorld_ok.mp h₁
    cases hret
    exact .inr (hkept rfl rfl)
  | answerRan c fresh =>
    obtain ⟨w₁, h₁, hret⟩ := bind_eq_ok.mp hf
    obtain ⟨k, hk, rfl⟩ := onConnection_ok.mp h₁
    cases hret
    exact .inr (hkept rfl rfl)
  | take c =>
    obtain ⟨v, hv, rfl⟩ := onWorld_ok.mp hf
    exact .inr (hkept rfl rfl)
  | run c reply =>
    obtain ⟨v, hv, rfl⟩ := (onWorld_ok (f := (World.fire codec · (.run c reply)))).mp hf
    exact .inr (hkept rfl rfl)
  | backEnd bl =>
    obtain ⟨v, hv, rfl⟩ := (onWorld_ok (f := (World.fire codec · bl))).mp hf
    exact .inr (hkept rfl rfl)
  | responseWritten c =>
    obtain ⟨k, hk, rfl⟩ := onConnection_ok.mp hf
    exact .inr (hkept rfl rfl)
  | failed c reply => exact .inr (hkept rfl (release_kept hf).2.1)
  | shutdown closes =>
    simp only [fire, shutdown] at hf
    split at hf <;> cases hf
    cases hat
    exact .inl ⟨⟨closes, rfl⟩, rfl⟩
  | sweep c closes reply =>
    obtain ⟨left₀, hleft, -⟩ := sweep_enabled hg
    refine .inr ⟨left₀, hleft, Eq.trans ?_ (Finset.sdiff_singleton_eq_erase c left₀).symm⟩
    simp only [fire, sweep, hleft] at hf
    split at hf
    · obtain ⟨w₁, h₁, h₂⟩ := bind_eq_ok.mp hf
      obtain ⟨k, -, rfl⟩ := onConnection_ok.mp h₁
      cases (release_kept h₂).2.1.symm.trans hat
      rfl
    · cases hf
      cases hat
      rfl

/-- The io thread is in the loop of `shutdown_handler` only after it began. -/
theorem fire_sweeping (h : w.Disciplined) (hg : w.enabled l = true)
    (hf : w.fire codec messages l = .ok w') {left : Finset ClientPtr}
    (hat : w'.ioPoint = .sweeping left) : w'.frontEnd.shutdownInitiated = true := by
  rw [fire_frontEnd hg hf]
  rcases fire_left hg hf hat with ⟨⟨closes, rfl⟩, -⟩ | ⟨left₀, hleft, -⟩
  · rw [TcpLabel.shutsDown, Bool.or_true]
  · rw [h.sweeping left₀ hleft, Bool.true_or]

theorem fire_moves_self (h : w.Disciplined) (hq : w.At c q) (hl : l.connection = some c)
    (hg : w.enabled l = true) (hf : w.fire codec messages l = .ok w') : Moves c l q w' := by
  have hs := h.sane c
  cases l <;> cases hl
  case accept fresh =>
    cases hf
    exact accept_moves hq hg
  case headerRead header fresh closes reply => exact headerRead_moves hq hs hg hf
  case bodyRead body => exact bodyRead_moves hq hs hg hf
  case check => exact check_moves hq hs hg hf
  case endRejected => exact endRejected_moves hq hs hg hf
  case answerRejected fresh => exact answerRejected_moves hq hs hg hf
  case uncount => exact uncount_moves hq hs hg hf
  case take => exact take_moves hq hs hg hf
  case run reply => exact run_moves hq hs hg hf
  case endRan => exact endRan_moves hq hs hg hf
  case answerRan fresh => exact answerRan_moves hq hs hg hf
  case responseWritten => exact responseWritten_moves hq hs hg hf
  case failed reply => exact failed_moves hq hs hg hf
  case sweep closes reply => exact sweep_moves hq hs h.sweeping hg hf

theorem fire_moves_other (h : w.Disciplined) (hq : w.At c q) (hl : l.connection ≠ some c)
    (hg : w.enabled l = true) (hf : w.fire codec messages l = .ok w') : Moves c l q w' := by
  have hs := h.sane c
  have hsame := fire_sameConnection hl hg hf
  have hstep := fire_backEndStep h hg hf
  refine ⟨q, .other q hl, hsame.at hq fun ha => ?_, ?_, ?_, ?_, ?_⟩
  · rw [World.stage, (hstep.elsewhere hl hg (unused_of_alive ha)).1]
    rfl
  · rw [hsame.connection]
    exact fun ha => (hstep.elsewhere hl hg (unused_of_alive ha)).2.mpr (hs.connected ha)
  · rw [hsame.connection, hsame.member]
    exact hs.held
  · rw [hsame.connection]
    exact hs.owns
  · rw [hsame.connection, hsame.member, fire_frontEnd hg hf]
    intro hop hn
    rw [hs.removed hop hn, Bool.true_or]

/-- **Every step moves a connection from a phase to one that follows it**, and keeps it sane. -/
theorem fire_phaseStep (h : w.Disciplined) (hq : w.At c q) (hg : w.enabled l = true)
    (hf : w.fire codec messages l = .ok w') : Moves c l q w' := by
  by_cases hl : l.connection = some c
  · exact fire_moves_self h hq hl hg hf
  · exact fire_moves_other h hq hl hg hf

/-- **Every step keeps the discipline.** -/
theorem Disciplined.step (h : w.Disciplined) (hg : w.enabled l = true)
    (hf : w.fire codec messages l = .ok w') : w'.Disciplined := by
  refine ⟨fun c => ?_, fun c => ?_, fun left hat => fire_sweeping h hg hf hat,
    (fire_backEndStep h hg hf).accounted h.accounted⟩
  · obtain ⟨q, hq⟩ := h.placed c
    obtain ⟨q', -, hq', -⟩ := fire_phaseStep h hq hg hf
    exact ⟨q', hq'⟩
  · obtain ⟨q, hq⟩ := h.placed c
    obtain ⟨q', -, -, hs'⟩ := fire_phaseStep h hq hg hf
    exact hs'

theorem init_disciplined (sourceType : SourceConnectionType)
    (backendType : DestinationConnectionType) :
    (init sourceType backendType).Disciplined := by
  refine ⟨fun c => ⟨none, rfl, rfl, rfl, rfl, ?_, Finset.notMem_empty c⟩, fun c => ?_, ?_,
    World.init_accounted _ _⟩
  · rintro op ⟨⟩
  · refine ⟨?_, ?_, ?_, ?_⟩ <;> rintro ⟨⟩
  · rintro left ⟨⟩

/-- **Every reachable state is disciplined.** -/
theorem disciplined_reaches {sourceType : SourceConnectionType}
    {backendType : DestinationConnectionType}
    (h : (frontEndMachine codec messages).Reaches (init sourceType backendType) w) :
    w.Disciplined :=
  h.invariant (fun _ _ _ hI hg hf => hI.step hg hf) (init_disciplined _ _)

/-- **The back end of a reachable state is one that `backEndMachine` reaches.** -/
theorem backEnd_reaches {sourceType : SourceConnectionType}
    {backendType : DestinationConnectionType}
    (h : (frontEndMachine codec messages).Reaches (init sourceType backendType) w) :
    (backEndMachine codec).Reaches (.init sourceType backendType) w.world := by
  refine (h.invariant (I := fun w => w.Disciplined ∧
    (backEndMachine codec).Reaches (.init sourceType backendType) w.world) ?_
    ⟨init_disciplined _ _, .refl _⟩).2
  rintro w l w' ⟨hd, tr, hrun⟩ hg hf
  refine ⟨hd.step hg hf, ?_⟩
  cases fire_backEndStep hd hg hf with
  | none heq => rw [heq]; exact ⟨tr, hrun⟩
  | @client bl _ _ _ _ hgw hfw => exact ⟨_, hrun.append (.step (l := bl) hgw hfw (.done _))⟩
  | @other bl _ hgw hfw => exact ⟨_, hrun.append (.step (l := bl) hgw hfw (.done _))⟩

end TcpWorld

end RblRpc
