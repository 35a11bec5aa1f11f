import RblRpc.Backend.Disconnection
import RblRpc.Tcp.BufferSafety
import RblRpc.Tcp.Connections

/-!
# The life of a connection

A live connection is in one of eleven phases, which `io_state`, the stage of its request, the io
thread and the pool threads tell apart.

* `Phase` — the phases, with what each means in the state; `InPhase`, `Absent`.
* `Disciplined` — the invariant: every connection is in a phase or absent.
* `fire_sameConnection` — a step of one connection leaves the others alone.
* `fire_performs`, `fire_backEndStep` — **every step of the front end is at most one step of the
  back end.**
-/

namespace RblRpc

open Transition

/-! ## What the steps of other clients leave alone -/

namespace World

variable {codec : BasicProtocolCodec} {w w' : World} {c : ClientPtr} {l : Label}

theorem signalStage_elsewhere (codec : BasicProtocolCodec) {reply : ManagerId → ManagerReply}
    (hf : w.signalStage reply = .ok w')
    (hne : ∀ m ∈ w.state.slots, ∀ p ∈ (reply m).disconnects, p.1 ≠ c) :
    w'.invokers c = w.invokers c ∧
      (c ∈ w'.backEnd.connectedClients ↔ c ∈ w.backEnd.connectedClients) := by
  obtain ⟨w₁, threw, hs, rfl⟩ := signalStage_ok hf
  have hw₁ : w₁.invokers c = w.invokers c ∧
      (c ∈ w₁.backEnd.connectedClients ↔ c ∈ w.backEnd.connectedClients) := by
    refine signalManagers_rule (I := fun w' => w'.invokers c = w.invokers c ∧
      (c ∈ w'.backEnd.connectedClients ↔ c ∈ w.backEnd.connectedClients)) ?_
      (fun _ hI _ _ => hI) hs ⟨rfl, Iff.rfl⟩
    rintro w₁ w₂ ⟨hi, hc⟩ m hm p hp hd
    have hd' : fire codec w₁ (.disconnect p.1 p.2) = .ok w₂ := hd
    have hcp : c ≠ p.1 := (hne m hm p hp).symm
    exact ⟨(fire_invoker_other rfl hcp hd').trans hi, (fire_connected_ne rfl hcp hd').trans hc⟩
  cases threw <;> exact hw₁

/-- **A step that does not concern `c`** leaves its invoker and its connection alone. -/
theorem fire_elsewhere (hl : l.client ≠ some c)
    (hsig : ∀ reply, l = .signalStage reply →
      ∀ m ∈ w.state.slots, ∀ p ∈ (reply m).disconnects, p.1 ≠ c)
    (hf : fire codec w l = .ok w') : w'.invokers c = w.invokers c ∧
      (c ∈ w'.backEnd.connectedClients ↔ c ∈ w.backEnd.connectedClients) := by
  cases hcl : l.client with
  | some c' =>
    have hne : c ≠ c' := fun heq => hl (hcl.trans (congrArg some heq.symm))
    exact ⟨fire_invoker_other hcl hne hf, fire_connected_ne hcl hne hf⟩
  | none =>
    cases hs : l.signals with
    | true =>
      obtain ⟨reply, rfl⟩ := Label.signals_eq_true hs
      exact signalStage_elsewhere codec hf (hsig reply rfl)
    | false =>
      have hsame := fire_sameClients hcl hs hf
      rw [hsame.invokers, hsame.connectedClients]
      exact ⟨rfl, Iff.rfl⟩

end World

/-! ## The operations on the state -/

namespace TcpWorld

variable {w w' : TcpWorld} {c c' : ClientPtr} {k : Connection}

theorem onConnection_ok {f : Connection → Except TcpFault Connection} :
    w.onConnection c f = .ok w' ↔ ∃ k, f (w.view c) = .ok k ∧ w' = w.store c k := by
  unfold onConnection
  rw [bind_eq_ok]
  constructor
  · rintro ⟨k, hk, hret⟩
    cases hret
    exact ⟨k, mapError_eq_ok.mp hk, rfl⟩
  · rintro ⟨k, hk, rfl⟩
    exact ⟨k, mapError_eq_ok.mpr hk, rfl⟩

theorem onWorld_ok {f : World → Except Fault World} :
    w.onWorld f = .ok w' ↔ ∃ v, f w.world = .ok v ∧ w' = { w with world := v } := by
  unfold onWorld
  rw [bind_eq_ok]
  constructor
  · rintro ⟨v, hv, hret⟩
    cases hret
    exact ⟨v, mapError_eq_ok.mp hv, rfl⟩
  · rintro ⟨v, hv, rfl⟩
    exact ⟨v, mapError_eq_ok.mpr hv, rfl⟩

theorem onConnection_error {f : Connection → Except TcpFault Connection} {e : FrontEndFault} :
    w.onConnection c f = .error e ↔ ∃ x, f (w.view c) = .error x ∧ .frontEnd x = e := by
  unfold onConnection
  rw [bind_eq_error, mapError_eq_error]
  exact or_iff_left fun ⟨_, _, hret⟩ => nomatch hret

theorem onWorld_error {f : World → Except Fault World} {e : FrontEndFault} :
    w.onWorld f = .error e ↔ ∃ x, f w.world = .error x ∧ .backEnd x = e := by
  unfold onWorld
  rw [bind_eq_error, mapError_eq_error]
  exact or_iff_left fun ⟨_, _, hret⟩ => nomatch hret

theorem store_connections_self : (w.store c k).connections c =
    { w.connections c with
      ioState := k.invoker.ioState
      buffer := k.invoker.buffer
      flags := k.invoker.clientData.flags
      operation := k.operation } := Function.update_self ..

theorem store_connections_ne (h : c' ≠ c) : (w.store c k).connections c' = w.connections c' :=
  Function.update_of_ne h ..

theorem mem_store : c' ∈ (w.store c k).members ↔
    if c' = c then k.connected = true else c' ∈ w.members := by
  by_cases hc : c' = c <;> cases hk : k.connected <;> simp [store, hk, hc]

theorem modify_connections_self (f : TcpConnection → TcpConnection) :
    (w.modify c f).connections c = f (w.connections c) := Function.update_self ..

theorem modify_connections_ne (h : c' ≠ c) (f : TcpConnection → TcpConnection) :
    (w.modify c f).connections c' = w.connections c' := Function.update_of_ne h ..

/-- **The destructor**, if nothing holds the invoker. -/
theorem release_ok {reply : ℕ → ServiceReply} (h : w.release c reply = .ok w') :
    ((w.connections c).alive = true ∧ (w.connections c).handlerOwns = false ∧ c ∉ w.members ∧
        ∃ v, w.world.disconnect c reply = .ok v ∧
          w' = ({ w with world := v } : TcpWorld).modify c fun k => { k with alive := false }) ∨
      ((w.connections c).alive = true → (w.connections c).handlerOwns = false → c ∈ w.members) ∧
        w' = w := by
  unfold release at h
  split at h
  · rename_i hheld
    simp only [Bool.and_eq_true, Bool.not_eq_true', decide_eq_true_eq] at hheld
    obtain ⟨w₁, hd, hret⟩ := bind_eq_ok.mp h
    obtain ⟨v, hv, rfl⟩ := onWorld_ok.mp hd
    cases hret
    exact .inl ⟨hheld.1.1, hheld.1.2, hheld.2, v, hv, rfl⟩
  · rename_i hheld
    cases h
    refine .inr ⟨fun ha ho => ?_, rfl⟩
    by_contra hm
    simp only [ha, ho, hm] at hheld
    exact hheld rfl

theorem release_error {reply : ℕ → ServiceReply} {e : FrontEndFault}
    (h : w.release c reply = .error e) : ∃ f, e = .backEnd f := by
  unfold release at h
  split at h
  · rcases bind_eq_error.mp h with hd | ⟨_, _, hret⟩
    · obtain ⟨f, -, rfl⟩ := onWorld_error.mp hd
      exact ⟨f, rfl⟩
    · cases hret
  · cases h

end TcpWorld

/-! ## The handlers of one connection -/

namespace Connection

variable {c c' : Connection}

theorem disconnectClient_ok_connected {closes : Bool} (h : disconnectClient closes c = .ok c') :
    c.connected = true ∧ c' = { c with connected := false } := by
  refine ⟨?_, disconnectClient_ok h⟩
  unfold disconnectClient at h
  split at h
  · rename_i hc
    exact (Bool.and_eq_true _ _ ▸ hc).2
  · cases h

/-- **`handle_read_header`** disconnects once a shutdown was initiated, and reads the body before. -/
theorem handleReadHeader_ok {fresh : ℕ → UInt8} {closes : Bool}
    (h : handleReadHeader fresh closes c = .ok c') : c'.frontEnd = c.frontEnd ∧
      (c.frontEnd.shutdownInitiated = true ∧ c.connected = true ∧
          c' = { c with operation := none, connected := false } ∨
        c.frontEnd.shutdownInitiated = false ∧ c'.connected = c.connected ∧
          c'.invoker.ioState = .readBodyRequestActive ∧
          ∃ n, c'.operation = some (.readBody n)) := by
  unfold handleReadHeader at h
  split at h
  · rename_i hsd
    obtain ⟨hc, rfl⟩ := disconnectClient_ok_connected h
    exact ⟨rfl, .inl ⟨hsd, hc, rfl⟩⟩
  · rename_i hsd
    obtain ⟨-, rfl⟩ := startIo_eq_ok.mp h
    refine ⟨?_, .inr ⟨Bool.eq_false_iff.mpr hsd, ?_, rfl, _, rfl⟩⟩ <;>
    · dsimp only [setIoState]
      split <;> rfl

/-- **`handle_write_response`** counts the request as answered and starts the write. -/
theorem handleWriteResponse_ok {codec : ClientMessageCodec} {fresh : ℕ → UInt8}
    (h : handleWriteResponse codec fresh c = .ok c') :
    c'.frontEnd = { c.frontEnd with rpcCount := c.frontEnd.rpcCount + -1 } ∧
      c'.connected = c.connected ∧ c'.invoker.ioState = .requestResponseWriteActive ∧
      ∃ n, c'.operation = some (.writeResponse n) := by
  obtain ⟨-, rfl⟩ := startIo_eq_ok.mp h
  exact ⟨rfl, rfl, rfl, _, rfl⟩

theorem handleResetForNextRequest_ok (h : handleResetForNextRequest c = .ok c') :
    c' = { setIoState .readHeaderWaitRequestStartInactive c with operation := some .readHeader } :=
  (startIo_eq_ok.mp h).2

end Connection

/-! ## The phases -/

/-- The phases of a live connection: it reads a header or a body; `invoke` has accepted the
request, turned it down, or returned true; the request is posted, runs or has run in the pool; a
pool thread is about to write the response; `handle_read_body` or a pool thread has started to. -/
inductive Phase where
  | header
  | body
  | accepted
  | rejected
  | refused
  | posted
  | running
  | ran
  | poolAnswering
  | answered
  | writing
  deriving DecidableEq, Repr

namespace Phase

def ioState : Phase → IoState
  | header => .readHeaderWaitRequestStartInactive
  | body => .readBodyRequestActive
  | answered | writing => .requestResponseWriteActive
  | _ => .requestDispatchedActive

def stage : Phase → Stage
  | accepted => .accepted
  | rejected => .rejected
  | posted => .posted
  | running => .running
  | ran => .ran
  | _ => .idle

/-- What the io thread does for the connection. -/
def task : Phase → Option IoTask
  | accepted | rejected => some .invoking
  | refused => some .answering
  | answered => some .answered
  | _ => none

def poolAnswers (p : Phase) : Bool := p = poolAnswering

/-- The operations that can be in flight. -/
def carries : Phase → IoOperation → Bool
  | header, .readHeader | body, .readBody _ | answered, .writeResponse _
  | writing, .writeResponse _ => true
  | _, _ => false

end Phase

namespace TcpWorld

/-- Connection `c` is live and in phase `p`. -/
structure InPhase (w : TcpWorld) (c : ClientPtr) (p : Phase) : Prop where
  alive : (w.connections c).alive = true
  ioState : (w.connections c).ioState = p.ioState
  stage : w.world.stage c = p.stage
  task : w.ioPoint.taskOf c = p.task
  poolAnswers : (w.connections c).poolAnswers = p.poolAnswers
  operation : ∀ op, (w.connections c).operation = some op → p.carries op = true

/-- `c` is no connection; the read of a header may be left of one. -/
structure Absent (w : TcpWorld) (c : ClientPtr) : Prop where
  alive : (w.connections c).alive = false
  ioState : (w.connections c).ioState = .readHeaderWaitRequestStartInactive
  task : w.ioPoint.taskOf c = none
  poolAnswers : (w.connections c).poolAnswers = false
  operation : ∀ op, (w.connections c).operation = some op → op = .readHeader
  member : c ∉ w.members

/-- The phase of `c`, if it is a connection. -/
def At (w : TcpWorld) (c : ClientPtr) : Option Phase → Prop
  | none => Absent w c
  | some p => InPhase w c p

/-- What holds of connection `c` in every phase: the back end knows it, `m_connections` or the
handler in flight holds it, and it is removed by nothing but a shutdown. -/
structure Sane (w : TcpWorld) (c : ClientPtr) : Prop where
  connected : (w.connections c).alive = true → c ∈ w.world.backEnd.connectedClients
  held : (w.connections c).alive = true → (w.connections c).handlerOwns = false → c ∈ w.members
  owns : (w.connections c).handlerOwns = true → (w.connections c).operation = some .readHeader
  removed : (w.connections c).operation = some .readHeader → c ∉ w.members →
    w.frontEnd.shutdownInitiated = true

/-- The invariant of the front end. -/
structure Disciplined (w : TcpWorld) : Prop where
  placed : ∀ c, ∃ q, w.At c q
  sane : ∀ c, w.Sane c
  sweeping : ∀ left, w.ioPoint = .sweeping left → w.frontEnd.shutdownInitiated = true
  accounted : World.Accounted w.world

/-! ## What a step leaves alone -/

/-- The connection of `c` and where the io thread is for it are the same. -/
structure SameConnection (c : ClientPtr) (w w' : TcpWorld) : Prop where
  connection : w'.connections c = w.connections c
  task : w'.ioPoint.taskOf c = w.ioPoint.taskOf c
  member : c ∈ w'.members ↔ c ∈ w.members

end TcpWorld

/-- The connection a step serves. -/
def TcpLabel.connection : TcpLabel → Option ClientPtr
  | .accept c _ | .headerRead c _ _ _ _ | .bodyRead c _ | .check c | .endRejected c
  | .answerRejected c _ | .uncount c | .take c | .run c _ | .endRan c | .answerRan c _
  | .responseWritten c | .failed c _ | .sweep c _ _ => some c
  | .acceptFailed | .shutdown _ | .swept | .backEnd _ => none

namespace TcpWorld

variable {codec : BasicProtocolCodec} {messages : ClientMessageCodec} {w w' : TcpWorld}
  {c c' : ClientPtr} {k : Connection} {l : TcpLabel}

theorem sweep_enabled {closes : Bool} {reply : ℕ → ServiceReply}
    (hg : w.enabled (.sweep c closes reply) = true) :
    ∃ left, w.ioPoint = .sweeping left ∧ c ∈ left := by
  simp only [enabled] at hg
  split at hg
  · exact ⟨_, ‹_›, of_decide_eq_true hg⟩
  · cases hg

theorem SameConnection.trans {w₁ w₂ w₃ : TcpWorld} (h : SameConnection c w₁ w₂)
    (h' : SameConnection c w₂ w₃) : SameConnection c w₁ w₃ :=
  ⟨h'.connection.trans h.connection, h'.task.trans h.task, h'.member.trans h.member⟩

theorem sameConnection_store (h : c ≠ c') : SameConnection c w (w.store c' k) :=
  ⟨store_connections_ne h, rfl, mem_store.trans (by rw [if_neg h])⟩

theorem sameConnection_modify (h : c ≠ c') (f : TcpConnection → TcpConnection) :
    SameConnection c w (w.modify c' f) :=
  ⟨modify_connections_ne h f, rfl, Iff.rfl⟩

theorem sameConnection_goto {p : IoPoint} (h : p.taskOf c = w.ioPoint.taskOf c) :
    SameConnection c w (w.goto p) := ⟨rfl, h, Iff.rfl⟩

theorem sameConnection_onConnection {f : Connection → Except TcpFault Connection} (h : c ≠ c')
    (hf : w.onConnection c' f = .ok w') : SameConnection c w w' := by
  obtain ⟨k, -, rfl⟩ := onConnection_ok.mp hf
  exact sameConnection_store h

theorem sameConnection_onWorld {f : World → Except Fault World} (hf : w.onWorld f = .ok w') :
    SameConnection c w w' := by
  obtain ⟨v, -, rfl⟩ := onWorld_ok.mp hf
  exact ⟨rfl, rfl, Iff.rfl⟩

theorem sameConnection_release {reply : ℕ → ServiceReply} (h : c ≠ c')
    (hf : w.release c' reply = .ok w') : SameConnection c w w' := by
  rcases release_ok hf with ⟨-, -, -, v, -, rfl⟩ | ⟨-, rfl⟩
  · exact ⟨modify_connections_ne h _, rfl, Iff.rfl⟩
  · exact ⟨rfl, rfl, Iff.rfl⟩

theorem taskOf_reading_ne (h : c ≠ c') (t : IoTask) : (IoPoint.reading c' t).taskOf c = none :=
  if_neg h.symm

theorem taskOf_reading_self (c : ClientPtr) (t : IoTask) :
    (IoPoint.reading c t).taskOf c = some t := if_pos rfl

/-- **A step of another connection, or of none,** leaves connection `c` alone. -/
theorem fire_sameConnection (hl : l.connection ≠ some c) (hg : w.enabled l = true)
    (hf : w.fire codec messages l = .ok w') : SameConnection c w w' := by
  have hne : ∀ c', l.connection = some c' → c ≠ c' :=
    fun c' h heq => hl (h.trans (congrArg some heq.symm))
  cases l with
  | accept c' fresh =>
    cases hf
    have hworld : SameConnection c w { w with world := w.world.connect c' true } :=
      ⟨rfl, rfl, Iff.rfl⟩
    exact hworld.trans
      ((sameConnection_store (hne c' rfl)).trans (sameConnection_modify (hne c' rfl) _))
  | acceptFailed =>
    cases hf
    exact ⟨rfl, rfl, Iff.rfl⟩
  | headerRead c' header fresh closes reply =>
    obtain ⟨w₁, h₁, h₂⟩ := bind_eq_ok.mp hf
    exact (sameConnection_onConnection (hne c' rfl) h₁).trans
      ((sameConnection_modify (hne c' rfl) _).trans (sameConnection_release (hne c' rfl) h₂))
  | bodyRead c' body =>
    simp only [enabled, Bool.and_eq_true, decide_eq_true_eq] at hg
    obtain ⟨w₁, h₁, hret⟩ := bind_eq_ok.mp hf
    cases hret
    have hsame := (sameConnection_store (hne c' rfl)).trans (sameConnection_onWorld h₁)
    refine hsame.trans (sameConnection_goto ?_)
    rw [taskOf_reading_ne (hne c' rfl), hsame.task, hg.1]
    rfl
  | check c' =>
    simp only [enabled, Bool.and_eq_true, decide_eq_true_eq] at hg
    obtain ⟨w₁, h₁, hret⟩ := bind_eq_ok.mp hf
    have hsame : SameConnection c w w₁ := sameConnection_onWorld h₁
    split at hret <;> cases hret
    · refine hsame.trans (sameConnection_goto ?_)
      rw [hsame.task, hg.1, taskOf_reading_ne (hne c' rfl)]
      rfl
    · exact hsame
  | endRejected c' =>
    simp only [enabled, Bool.and_eq_true, decide_eq_true_eq] at hg
    obtain ⟨w₁, h₁, hret⟩ := bind_eq_ok.mp hf
    cases hret
    have hsame : SameConnection c w w₁ := sameConnection_onWorld h₁
    refine hsame.trans (sameConnection_goto ?_)
    rw [hsame.task, hg.1, taskOf_reading_ne (hne c' rfl), taskOf_reading_ne (hne c' rfl)]
  | answerRejected c' fresh =>
    have hat : w.ioPoint = .reading c' .answering := of_decide_eq_true hg
    obtain ⟨w₁, h₁, hret⟩ := bind_eq_ok.mp hf
    cases hret
    have hsame := sameConnection_onConnection (hne c' rfl) h₁
    refine hsame.trans (sameConnection_goto ?_)
    rw [hsame.task, hat, taskOf_reading_ne (hne c' rfl), taskOf_reading_ne (hne c' rfl)]
  | uncount c' =>
    have hat : w.ioPoint = .reading c' .answered := of_decide_eq_true hg
    obtain ⟨w₁, h₁, hret⟩ := bind_eq_ok.mp hf
    cases hret
    have hsame := sameConnection_onConnection (hne c' rfl) h₁
    refine hsame.trans (sameConnection_goto ?_)
    rw [hsame.task, hat, taskOf_reading_ne (hne c' rfl)]
    rfl
  | take c' => exact sameConnection_onWorld hf
  | run c' reply =>
    exact sameConnection_onWorld (f := (World.fire codec · (.run c' reply))) hf
  | endRan c' =>
    obtain ⟨w₁, h₁, hret⟩ := bind_eq_ok.mp hf
    cases hret
    exact (sameConnection_onWorld h₁).trans (sameConnection_modify (hne c' rfl) _)
  | answerRan c' fresh =>
    obtain ⟨w₁, h₁, hret⟩ := bind_eq_ok.mp hf
    cases hret
    exact (sameConnection_onConnection (hne c' rfl) h₁).trans
      (sameConnection_modify (hne c' rfl) _)
  | responseWritten c' => exact sameConnection_onConnection (hne c' rfl) hf
  | failed c' reply =>
    exact (sameConnection_modify (hne c' rfl) _).trans
      ((sameConnection_modify (hne c' rfl) _).trans (sameConnection_release (hne c' rfl) hf))
  | shutdown closes =>
    simp only [enabled, Bool.and_eq_true, decide_eq_true_eq] at hg
    simp only [fire, shutdown] at hf
    split at hf <;> cases hf
    exact ⟨rfl, by rw [hg.1]; rfl, Iff.rfl⟩
  | sweep c' closes reply =>
    obtain ⟨left, hat, -⟩ := sweep_enabled hg
    simp only [fire, sweep, hat] at hf
    have hgoto : SameConnection c w (w.goto (.sweeping (left.erase c'))) :=
      sameConnection_goto (by rw [hat]; rfl)
    split at hf
    · obtain ⟨w₁, h₁, h₂⟩ := bind_eq_ok.mp hf
      exact hgoto.trans ((sameConnection_onConnection (hne c' rfl) h₁).trans
        (sameConnection_release (hne c' rfl) h₂))
    · cases hf
      exact hgoto
  | swept =>
    cases hf
    refine sameConnection_goto ?_
    rw [show w.ioPoint = .sweeping ∅ from of_decide_eq_true hg]
    rfl
  | backEnd bl => exact sameConnection_onWorld (f := (World.fire codec · bl)) hf

/-! ## What a step does to the back end -/

end TcpWorld

/-- The operation gives the client a new request, or new client data. -/
def Label.renews : Label → Bool
  | .connect _ _ | .request _ _ _ => true
  | _ => false

/-- The step gives its connection a new request, or is its first. -/
def TcpLabel.renews : TcpLabel → Bool
  | .accept _ _ | .bodyRead _ _ => true
  | _ => false

/-- The operation on the back end that a step is made of, if it is one. -/
inductive TcpLabel.Does : TcpLabel → Label → Prop
  | accept (c fresh) : Does (.accept c fresh) (.connect c true)
  | headerRead (c header fresh closes reply) :
    Does (.headerRead c header fresh closes reply) (.disconnect c reply)
  | bodyRead (c body request) : Does (.bodyRead c body) (.request c false request)
  | check (c) : Does (.check c) (.check c)
  | endRejected (c) : Does (.endRejected c) (.finish c)
  | take (c) : Does (.take c) (.take c)
  | run (c reply) : Does (.run c reply) (.run c reply)
  | endRan (c) : Does (.endRan c) (.finish c)
  | failed (c reply) : Does (.failed c reply) (.disconnect c reply)
  | sweep (c closes reply) : Does (.sweep c closes reply) (.disconnect c reply)
  | backEnd (b) : Does (.backEnd b) b

namespace TcpWorld

variable {codec : BasicProtocolCodec} {messages : ClientMessageCodec} {w w' : TcpWorld}
  {c : ClientPtr} {l : TcpLabel}

/-- The step is one of the back end, which serves the connection the step serves; or it leaves the
back end alone. -/
inductive BackEndStep (codec : BasicProtocolCodec) (w : TcpWorld) (l : TcpLabel) (w' : TcpWorld) :
    Prop
  | none (h : w'.world = w.world)
  | client {b : Label} {c : ClientPtr} (hl : l.connection = some c) (hb : b.client = some c)
    (hnew : b.renews = l.renews) (hg : w.world.enabled b = true)
    (hf : World.fire codec w.world b = .ok w'.world)
  | other {b : Label} (hl : l = .backEnd b) (hg : w.world.enabled b = true)
    (hf : World.fire codec w.world b = .ok w'.world)

theorem Phase.carries_idle {p : Phase} {op : IoOperation} (h : p.carries op = true) :
    p.stage = .idle := by
  cases p <;> cases op <;> first | rfl | cases h

/-- A connection with an operation in flight has no request under way. -/
theorem Disciplined.idle_of_operation (h : Disciplined w) {op : IoOperation}
    (ha : (w.connections c).alive = true) (hop : (w.connections c).operation = some op) :
    w.world.stage c = .idle := by
  obtain ⟨_ | p, hq⟩ := h.placed c
  · rw [hq.alive] at ha
    cases ha
  · rw [hq.stage]
    exact Phase.carries_idle (hq.operation op hop)

/-- A step without an operation on the back end, or with one. -/
def Performs (codec : BasicProtocolCodec) (w : TcpWorld) (l : TcpLabel) (w' : TcpWorld) : Prop :=
  w'.world = w.world ∨ ∃ b, l.Does b ∧ w.world.enabled b = true ∧
    World.fire codec w.world b = .ok w'.world

theorem release_performs {reply : ℕ → ServiceReply} {w₀ : TcpWorld}
    (hf : w.release c reply = .ok w') (hworld : w.world = w₀.world)
    (hl : l.Does (.disconnect c reply))
    (hidle : (w.connections c).alive = true → w₀.world.stage c = .idle ∧
      c ∈ w₀.world.backEnd.connectedClients) : Performs codec w₀ l w' := by
  rcases release_ok hf with ⟨ha, -, -, v, hv, rfl⟩ | ⟨-, rfl⟩
  · obtain ⟨hst, hmem⟩ := hidle ha
    rw [hworld] at hv
    refine .inr ⟨_, hl, ?_, hv⟩
    simp only [World.enabled, hst, hmem, decide_true, Bool.and_self]
  · exact .inl hworld

/-- **Every step of the front end is at most one operation on the back end.** -/
theorem fire_performs (h : Disciplined w) (hg : w.enabled l = true)
    (hf : w.fire codec messages l = .ok w') : Performs codec w l w' := by
  cases l with
  | accept c fresh =>
    cases hf
    simp only [enabled, Bool.and_eq_true] at hg
    exact .inr ⟨_, .accept c fresh, hg.2, rfl⟩
  | headerRead c header fresh closes reply =>
    simp only [enabled, Bool.and_eq_true, decide_eq_true_eq] at hg
    obtain ⟨w₁, h₁, h₂⟩ := bind_eq_ok.mp hf
    obtain ⟨k, -, rfl⟩ := onConnection_ok.mp h₁
    refine release_performs h₂ rfl (.headerRead ..) fun ha => ?_
    rw [modify_connections_self, store_connections_self] at ha
    exact ⟨h.idle_of_operation ha hg.1.2, (h.sane c).connected ha⟩
  | bodyRead c body =>
    simp only [enabled, Bool.and_eq_true, decide_eq_true_eq] at hg
    obtain ⟨w₁, h₁, hret⟩ := bind_eq_ok.mp hf
    obtain ⟨v, hv, rfl⟩ := onWorld_ok.mp h₁
    cases hret
    obtain ⟨_ | p, hq⟩ := h.placed c
    · cases hq.operation _ hg.2
    · refine .inr ⟨_, .bodyRead c body _, ?_, hv⟩
      simp only [World.enabled, h.idle_of_operation hq.alive hg.2, (h.sane c).connected hq.alive,
        decide_true, Bool.and_self]
  | check c =>
    simp only [enabled, Bool.and_eq_true] at hg
    obtain ⟨w₁, h₁, hret⟩ := bind_eq_ok.mp hf
    obtain ⟨v, hv, rfl⟩ := onWorld_ok.mp h₁
    refine .inr ⟨_, .check c, hg.2, hv.trans ?_⟩
    split at hret <;> cases hret <;> rfl
  | endRejected c =>
    simp only [enabled, Bool.and_eq_true, decide_eq_true_eq] at hg
    obtain ⟨w₁, h₁, hret⟩ := bind_eq_ok.mp hf
    obtain ⟨v, hv, rfl⟩ := onWorld_ok.mp h₁
    cases hret
    refine .inr ⟨_, .endRejected c, ?_, hv⟩
    simp only [World.enabled, hg.2, decide_true, Bool.true_or]
  | take c =>
    simp only [enabled, Bool.and_eq_true] at hg
    obtain ⟨v, hv, rfl⟩ := onWorld_ok.mp hf
    exact .inr ⟨_, .take c, hg.2, hv⟩
  | run c reply =>
    simp only [enabled, Bool.and_eq_true] at hg
    obtain ⟨v, hv, rfl⟩ := (onWorld_ok (f := (World.fire codec · (.run c reply)))).mp hf
    exact .inr ⟨_, .run c reply, hg.2, hv⟩
  | endRan c =>
    simp only [enabled, Bool.and_eq_true, decide_eq_true_eq] at hg
    obtain ⟨w₁, h₁, hret⟩ := bind_eq_ok.mp hf
    obtain ⟨v, hv, rfl⟩ := onWorld_ok.mp h₁
    cases hret
    refine .inr ⟨_, .endRan c, ?_, hv⟩
    simp only [World.enabled, hg.2, decide_true, Bool.or_true]
  | failed c reply =>
    simp only [enabled, Bool.and_eq_true, decide_eq_true_eq] at hg
    obtain ⟨op, hop⟩ := Option.isSome_iff_exists.mp hg.2
    refine release_performs hf rfl (.failed ..) fun ha => ?_
    rw [modify_connections_self, modify_connections_self] at ha
    exact ⟨h.idle_of_operation ha hop, (h.sane c).connected ha⟩
  | shutdown closes =>
    simp only [fire, shutdown] at hf
    split at hf <;> cases hf
    exact .inl rfl
  | sweep c closes reply =>
    obtain ⟨left, hat, -⟩ := sweep_enabled hg
    simp only [fire, sweep, hat] at hf
    split at hf
    · rename_i hio
      obtain ⟨w₁, h₁, h₂⟩ := bind_eq_ok.mp hf
      obtain ⟨k, -, rfl⟩ := onConnection_ok.mp h₁
      refine release_performs h₂ rfl (.sweep ..) fun ha => ?_
      rw [store_connections_self] at ha
      change (w.connections c).alive = true at ha
      refine ⟨?_, (h.sane c).connected ha⟩
      obtain ⟨_ | p, hq⟩ := h.placed c
      · rw [hq.alive] at ha
        cases ha
      · rw [hq.stage]
        have hp : p.ioState = .readHeaderWaitRequestStartInactive := hq.ioState.symm.trans hio
        cases p <;> first | rfl | cases hp
    · cases hf
      exact .inl rfl
  | backEnd bl =>
    simp only [enabled, Bool.and_eq_true] at hg
    obtain ⟨v, hv, rfl⟩ := (onWorld_ok (f := (World.fire codec · bl))).mp hf
    exact .inr ⟨_, .backEnd bl, hg.2, hv⟩
  | acceptFailed | swept =>
    cases hf
    exact .inl rfl
  | uncount c | answerRejected c fresh | answerRan c fresh =>
    obtain ⟨w₁, h₁, hret⟩ := bind_eq_ok.mp hf
    obtain ⟨k, -, rfl⟩ := onConnection_ok.mp h₁
    cases hret
    exact .inl rfl
  | responseWritten c =>
    obtain ⟨k, -, rfl⟩ := onConnection_ok.mp hf
    exact .inl rfl

/-- **Every step of the front end is at most one step of the back end.** -/
theorem fire_backEndStep (h : Disciplined w) (hg : w.enabled l = true)
    (hf : w.fire codec messages l = .ok w') : BackEndStep codec w l w' := by
  rcases fire_performs h hg hf with hsame | ⟨b, hdoes, hgb, hfb⟩
  · exact .none hsame
  · cases hdoes with
    | backEnd => exact .other rfl hgb hfb
    | _ => exact .client rfl rfl rfl hgb hfb

theorem BackEndStep.accounted (hs : BackEndStep codec w l w') (h : World.Accounted w.world) :
    World.Accounted w'.world := by
  cases hs with
  | none heq => rwa [heq]
  | client _ _ _ hg hf => exact h.step hg hf
  | other _ hg hf => exact h.step hg hf

theorem unused_of_alive (ha : (w.connections c).alive = true) : w.unused c = false := by
  rw [unused, ha]
  rfl

/-- **A step of another connection, or of none,** leaves the request and the back end's record of a
connection alone. -/
theorem BackEndStep.elsewhere (hs : BackEndStep codec w l w') (hl : l.connection ≠ some c)
    (hg : w.enabled l = true) (hused : w.unused c = false) :
    w'.world.invokers c = w.world.invokers c ∧
      (c ∈ w'.world.backEnd.connectedClients ↔ c ∈ w.world.backEnd.connectedClients) := by
  cases hs with
  | none heq => rw [heq]; exact ⟨rfl, Iff.rfl⟩
  | @client bl c' hl' hbl _ _ hf =>
    refine World.fire_elsewhere ?_ ?_ hf
    · rw [hbl, ← hl']
      exact hl
    · rintro reply rfl
      cases hbl
  | @other bl hl' _ hf =>
    subst hl'
    simp only [enabled, Bool.and_eq_true] at hg
    refine World.fire_elsewhere ?_ ?_ hf
    · intro hcl
      have hforeign : bl.client.all w.unused = true := by
        have := hg.1
        cases bl <;> first | exact this | cases hcl
      rw [hcl, Option.all_some, hused] at hforeign
      cases hforeign
    · rintro reply rfl m hm p hp rfl
      have hall := List.all_eq_true.mp (List.all_eq_true.mp hg.1 m hm) p hp
      rw [hused] at hall
      cases hall

end TcpWorld

end RblRpc
