import Mathlib.Data.Set.Card
import RblRpc.Backend.Faults
import RblRpc.Lib.Pairing
import RblRpc.Tcp.ConnectionSet
import RblRpc.Tcp.DeadConnections

/-!
# The connected clients

Model of `InProcessInvoker` next to the connections of a TCP front end, over one back end.  The
constructor of an in-process invoker connects it under the mutex of the managers and then stores the
connection of its slot; `disconnect_from_backend` is called by its user, by the signal of the
shutdown and by the destructor, each under `m_mutex`, between two invocations.

* `InProcessInvoker`, `Invokers` — the invokers in the process, and the front end.
* `invokerMachine` — every order of constructions, disconnections, destructions, of the steps of the
  front end, and of the other operations on the back end.
* `Matched` — the connected clients are those of the live connections and the connected invokers.
* `clients_counted` — **`client_count` counts them, in every run.**
-/

namespace RblRpc

open Transition Pairing

/-- `InProcessInvoker`, the sole owner of its client data.  `slot`: its slot, while
`m_sig_connection` is connected; `assigned`: the constructor has stored `m_sig_connection`. -/
structure InProcessInvoker where
  alive : Bool := false
  connected : Bool := false
  slot : Option ManagerId := none
  assigned : Bool := false

/-- The front end over its back end, and the in-process invokers by the addresses of their client
data. -/
structure Invokers where
  frontEnd : TcpWorld
  inProcess : ClientPtr → InProcessInvoker := fun _ => {}

/-- What happens to an in-process invoker, or a step of the front end, the pool threads and the
other users of the back end.  `reply` is what `unsubscribe` does. -/
inductive InvokerLabel where
  | construct (c : ClientPtr) (m : ManagerId)
  | assign (c : ClientPtr)
  | disconnect (c : ClientPtr) (reply : ℕ → ServiceReply)
  | signal (c : ClientPtr) (reply : ℕ → ServiceReply)
  | destroy (c : ClientPtr) (reply : ℕ → ServiceReply)
  | frontEnd (l : TcpLabel)

namespace Invokers

def backEnd (s : Invokers) : BackEnd := s.frontEnd.world.backEnd

def setInProcess (c : ClientPtr) (i : InProcessInvoker) (s : Invokers) : Invokers :=
  { s with inProcess := Function.update s.inProcess c i }

/-- `register_invoker_manager`, within the constructor: `connect_to_backend`, then the slot. -/
def construct (c : ClientPtr) (m : ManagerId) (s : Invokers) : Invokers :=
  let w := s.frontEnd.world.connect c true
  let w := w.setState (w.state.registerInvokerManager m)
  setInProcess c { alive := true, connected := true, slot := some m }
    { s with frontEnd := { s.frontEnd with world := w } }

/-- `m_sig_connection->disconnect()`. -/
def disconnectSlot (c : ClientPtr) (s : Invokers) : Except FrontEndFault Invokers :=
  let i := s.inProcess c
  if i.assigned then
    match i.slot with
    | some m =>
      let w := s.frontEnd.world
      .ok (setInProcess c { i with slot := none }
        { s with frontEnd := { s.frontEnd with world := w.setState (w.state.disconnectManager m) } })
    | none => .ok s
  else .error (.backEnd .invalidPointer)

/-- `disconnect_from_backend`. -/
def disconnectFromBackend (c : ClientPtr) (reply : ℕ → ServiceReply) (s : Invokers) :
    Except FrontEndFault Invokers :=
  if (s.inProcess c).connected then do
    let w ← s.frontEnd.onWorld (World.disconnect c reply)
    disconnectSlot c (setInProcess c { s.inProcess c with connected := false }
      { s with frontEnd := w })
  else disconnectSlot c s

/-- `~InProcessInvoker`, of an invoker whose client data is `unique()`. -/
def destroy (c : ClientPtr) (reply : ℕ → ServiceReply) (s : Invokers) :
    Except FrontEndFault Invokers :=
  if (s.inProcess c).connected then do
    let s ← disconnectFromBackend c reply s
    return setInProcess c { s.inProcess c with alive := false } s
  else .ok (setInProcess c { s.inProcess c with alive := false } s)

/-- `m` is the slot of an in-process invoker. -/
def ownsSlot (s : Invokers) (m : ManagerId) : Prop :=
  ∃ c ∈ s.backEnd.connectedClients, (s.inProcess c).slot = some m

instance (s : Invokers) (m : ManagerId) : Decidable (s.ownsSlot m) :=
  inferInstanceAs (Decidable (∃ c ∈ s.backEnd.connectedClients, (s.inProcess c).slot = some m))

/-- `m_mutex` is free: the invoker is between two invocations. -/
def free (c : ClientPtr) (reply : ℕ → ServiceReply) (s : Invokers) : Bool :=
  !(s.inProcess c).connected || s.frontEnd.world.enabled (.disconnect c reply)

/-- The other users of the back end leave the clients to their invokers, and the slots of the
in-process invokers alone.  A signal that ends without an exception has called each of these. -/
def leavesClients (s : Invokers) : Label → Bool
  | .connect _ _ | .disconnect _ _ => false
  | .registerManager m | .disconnectManager m => !s.ownsSlot m
  | .signalStage reply => s.frontEnd.world.state.slots.all fun m =>
    (reply m).disconnects.isEmpty && (!s.ownsSlot m ||
      !(reply m).detaches && !(reply m).throws &&
        s.frontEnd.world.state.slots.any fun m' => (reply m').throws)
  | _ => true

/-- When a step can be taken: a new client data takes an address that no other has. -/
def enabled (s : Invokers) : InvokerLabel → Bool
  | .construct c m => !(s.inProcess c).alive && s.frontEnd.unused c &&
    s.frontEnd.world.enabled (.connect c true) && decide (m ∉ s.frontEnd.world.state.slots)
  | .assign c => (s.inProcess c).alive && !(s.inProcess c).assigned
  | .disconnect c reply => (s.inProcess c).alive && (s.inProcess c).assigned && s.free c reply
  | .signal c reply => s.frontEnd.world.point = .signal && (s.inProcess c).slot.isSome &&
    s.free c reply
  | .destroy c reply => (s.inProcess c).alive && (s.inProcess c).assigned && s.free c reply
  | .frontEnd l => s.frontEnd.enabled l && match l with
    | .accept c _ => !(s.inProcess c).alive
    | .backEnd b => s.leavesClients b
    | _ => true

def fire (codec : BasicProtocolCodec) (messages : ClientMessageCodec) (s : Invokers) :
    InvokerLabel → Except FrontEndFault Invokers
  | .construct c m => .ok (s.construct c m)
  | .assign c => .ok (s.setInProcess c { s.inProcess c with assigned := true })
  | .disconnect c reply => s.disconnectFromBackend c reply
  | .signal c reply => s.disconnectFromBackend c reply
  | .destroy c reply => s.destroy c reply
  | .frontEnd l => do
    let w ← s.frontEnd.fire codec messages l
    return { s with frontEnd := w }

/-- No invoker yet. -/
def init (sourceType : SourceConnectionType) (backendType : DestinationConnectionType) : Invokers where
  frontEnd := .init sourceType backendType

end Invokers

/-- Every order of what happens to the invokers. -/
def invokerMachine (codec : BasicProtocolCodec) (messages : ClientMessageCodec) :
    Machine Invokers InvokerLabel FrontEndFault where
  guard := Invokers.enabled
  fire := Invokers.fire codec messages

/-! ## The connections of the front end -/

namespace TcpWorld

variable {codec : BasicProtocolCodec} {messages : ClientMessageCodec} {w w' : TcpWorld}
  {c : ClientPtr} {l : TcpLabel}

/-- An operation on the back end that connects and disconnects nobody. -/
def keepsClients (w : TcpWorld) : Label → Prop
  | .connect _ _ | .disconnect _ _ => False
  | .signalStage reply => ∀ m ∈ w.world.state.slots, (reply m).disconnects = []
  | _ => True

/-- Such an operation leaves the connected clients alone. -/
theorem keepsClients_mem {b : Label} {v : World} (hkeeps : w.keepsClients b)
    (hf : World.fire codec w.world b = .ok v) :
    c ∈ v.backEnd.connectedClients ↔ c ∈ w.world.backEnd.connectedClients := by
  cases hcl : b.client with
  | some c' =>
    rw [World.fire_connectedClients hcl hf]
    cases b <;> first | exact hkeeps.elim | exact Iff.rfl
  | none =>
    refine (World.fire_elsewhere (fun h => ?_) (fun reply hl m hm p hp => ?_) hf).2
    · rw [hcl] at h
      cases h
    · subst hl
      rw [hkeeps m hm] at hp
      cases hp

/-- **A step of the front end** leaves an invoker and its client's record alone, constructs the
invoker and connects the client, or destroys the invoker and disconnects the client. -/
theorem fire_lifetime (h : w.Disciplined) (hg : w.enabled l = true)
    (hf : w.fire codec messages l = .ok w') (hkeeps : ∀ b, l = .backEnd b → w.keepsClients b)
    (c : ClientPtr) :
    (w'.connections c).alive = (w.connections c).alive ∧
        (c ∈ w'.world.backEnd.connectedClients ↔ c ∈ w.world.backEnd.connectedClients) ∧
        l.accepts ≠ some c ∨
      (w'.connections c).alive = true ∧ c ∈ w'.world.backEnd.connectedClients ∧
        l.accepts = some c ∨
      (w.connections c).alive = true ∧ (w'.connections c).alive = false ∧
        c ∉ w'.world.backEnd.connectedClients ∧ l.accepts ≠ some c := by
  obtain ⟨q, hq⟩ := h.placed c
  obtain ⟨q', hstep, hq', hsane⟩ := fire_phaseStep h hq hg hf
  cases hstep with
  | other _ hne =>
    refine .inl ⟨congrArg TcpConnection.alive (fire_sameConnection hne hg hf).connection, ?_,
      fun hacc => ?_⟩
    · cases fire_backEndStep h hg hf with
      | none hsame => rw [hsame]
      | client hl hb _ _ hfb =>
        exact World.fire_connected_ne hb (fun heq => hne (hl.trans (congrArg some heq.symm))) hfb
      | other hl _ hfb => exact keepsClients_mem (hkeeps _ hl) hfb
    · cases l <;> first | cases hacc; done | skip
      cases hacc
      exact hne rfl
  | accept fresh => exact .inr (.inl ⟨hq'.alive, hsane.connected hq'.alive, rfl⟩)
  | headerClosed header fresh closes reply =>
    exact .inr (.inr ⟨hq.alive, hq'.alive, headerRead_disconnected hf hq.alive hq'.alive,
      nofun⟩)
  | failedClosed reply =>
    refine .inr (.inr ⟨hq.alive, hq'.alive, release_disconnected hf ?_ hq'.alive, nofun⟩)
    rw [modify_connections_self, modify_connections_self]
    exact hq.alive
  | sweepClosed closes reply =>
    exact .inr (.inr ⟨hq.alive, hq'.alive,
      (sweep_disconnected hg hf hq.ioState).2 hq.alive hq'.alive, nofun⟩)
  | failedAbsent reply =>
    refine .inl ⟨hq'.alive.trans hq.alive.symm, ?_, nofun⟩
    rcases release_ok hf with ⟨ha, -⟩ | ⟨-, rfl⟩
    · rw [modify_connections_self, modify_connections_self] at ha
      cases hq.alive.symm.trans ha
    · exact Iff.rfl
  | sweep closes reply =>
    cases q with
    | none => exact absurd (sweep_disconnected hg hf hq.ioState).1 hq.member
    | some p =>
      exact .inl ⟨hq'.alive.trans hq.alive.symm, iff_of_true (hsane.connected hq'.alive)
        ((h.sane c).connected hq.alive), nofun⟩
  | _ =>
    exact .inl ⟨hq'.alive.trans hq.alive.symm, iff_of_true (hsane.connected hq'.alive)
      ((h.sane c).connected hq.alive), nofun⟩

/-- An address that no connection has gets one by an accept only. -/
theorem fire_unused (h : w.Disciplined) (hg : w.enabled l = true)
    (hf : w.fire codec messages l = .ok w') (hacc : l.accepts ≠ some c)
    (hunused : w.unused c = true) : w'.unused c = true := by
  obtain ⟨q, hq⟩ := h.placed c
  obtain ⟨q', hstep, hq', -⟩ := fire_phaseStep h hq hg hf
  simp only [unused, Bool.and_eq_true, Bool.not_eq_true', Option.isNone_iff_eq_none] at hunused ⊢
  cases hstep with
  | other _ hne => rw [(fire_sameConnection hne hg hf).connection]; exact hunused
  | accept fresh => exact absurd rfl hacc
  | failedAbsent reply => exact ⟨hq'.alive, failed_operation hf⟩
  | sweep closes reply =>
    cases q with
    | none => exact absurd (sweep_disconnected hg hf hq.ioState).1 hq.member
    | some p => cases hunused.1.symm.trans hq.alive
  | _ => cases hunused.1.symm.trans hq.alive

/-- **The destructor of a connection disconnects a connected client**, so the assertion holds. -/
theorem release_connected {reply : ℕ → ServiceReply}
    (hconn : (w.connections c).alive = true → c ∈ w.world.backEnd.connectedClients) :
    w.release c reply ≠ .error (.backEnd (.assertion .clientConnected)) := by
  intro h
  unfold release at h
  split at h
  · rename_i hheld
    simp only [Bool.and_eq_true] at hheld
    rcases bind_eq_error.mp h with hd | ⟨_, -, hret⟩
    · obtain ⟨f, hdisc, hfault⟩ := onWorld_error.mp hd
      cases hfault
      exact (World.disconnect_fault hdisc rfl).2 (hconn hheld.1.1)
    · cases hret
  · cases h

/-- Managers that disconnect nobody are signalled without a fault. -/
theorem signalStage_silent {v : World} {reply : ManagerId → ManagerReply} {f : Fault}
    (hsilent : ∀ m ∈ v.state.slots, (reply m).disconnects = []) :
    v.signalStage reply ≠ .error f := by
  have hall : ∀ (ms : List ManagerId) (v : World), (∀ m ∈ ms, (reply m).disconnects = []) →
      World.signalManagers reply ms v ≠ .error f := by
    intro ms
    induction ms with
    | nil => exact fun _ _ => nofun
    | cons m ms ih =>
      intro v hms h
      rcases bind_eq_error.mp h with h | ⟨v', -, h⟩
      · unfold World.signalManager at h
        rw [hms m List.mem_cons_self] at h
        cases h
      · split at h
        · cases h
        · exact ih v' (fun m' hm' => hms m' (List.mem_cons_of_mem _ hm')) h
  intro h
  rcases bind_eq_error.mp h with h | ⟨_, -, h⟩
  · exact hall _ v hsilent h
  · cases h

/-- **No step of the front end raises the assertion of `BackEnd::disconnect`.** -/
theorem fire_connected (h : w.Disciplined) (hkeeps : ∀ b, l = .backEnd b → w.keepsClients b) :
    w.fire codec messages l ≠ .error (.backEnd (.assertion .clientConnected)) := by
  intro hf
  have hworld : ∀ {v : TcpWorld} (b : Label), (∀ c reply, b ≠ .disconnect c reply) →
      b.signals = false → v.onWorld (World.fire codec · b) ≠
        .error (.backEnd (.assertion .clientConnected)) := by
    intro v b hdisc hsig he
    obtain ⟨f, hfire, hfault⟩ := onWorld_error.mp he
    cases hfault
    rcases World.fire_clientConnected hfire with ⟨c, reply, hb, -⟩ | hb
    · exact hdisc c reply hb
    · exact Bool.false_ne_true (hsig.symm.trans hb)
  have hconnection : ∀ {v : TcpWorld} {c : ClientPtr} {f : Connection → Except TcpFault Connection},
      v.onConnection c f ≠ .error (.backEnd (.assertion .clientConnected)) := by
    intro v c f he
    obtain ⟨f, -, hfault⟩ := onConnection_error.mp he
    cases hfault
  cases l with
  | headerRead c header fresh closes reply =>
    rcases bind_eq_error.mp hf with hf | ⟨w₁, h₁, hf⟩
    · exact hconnection hf
    · obtain ⟨k, -, rfl⟩ := onConnection_ok.mp h₁
      refine release_connected (w := (w.store c k).modify c fun k => { k with handlerOwns := false })
        (fun ha => (h.sane c).connected ?_) hf
      rwa [modify_connections_self, store_connections_self] at ha
  | bodyRead c body =>
    rcases bind_eq_error.mp hf with hf | ⟨_, -, hf⟩
    · exact hworld (.request c false (w.parsed messages c body)) nofun rfl hf
    · cases hf
  | check c =>
    rcases bind_eq_error.mp hf with hf | ⟨_, -, hf⟩
    · exact hworld (.check c) nofun rfl hf
    · cases hf
  | endRejected c | endRan c =>
    rcases bind_eq_error.mp hf with hf | ⟨_, -, hf⟩
    · exact hworld (.finish c) nofun rfl hf
    · cases hf
  | answerRejected c fresh | uncount c | answerRan c fresh =>
    rcases bind_eq_error.mp hf with hf | ⟨_, -, hf⟩
    · exact hconnection hf
    · cases hf
  | take c => exact hworld (.take c) nofun rfl hf
  | run c reply => exact hworld (.run c reply) nofun rfl hf
  | responseWritten c => exact hconnection hf
  | failed c reply =>
    refine release_connected (w := (w.modify c fun k => { k with operation := none }).modify c
      fun k => { k with handlerOwns := false }) (fun ha => (h.sane c).connected ?_) hf
    rwa [modify_connections_self, modify_connections_self] at ha
  | shutdown closes =>
    simp only [fire, shutdown] at hf
    split at hf <;> cases hf
  | sweep c closes reply =>
    have hbody : ∀ v : TcpWorld,
        (if (v.connections c).ioState = .readHeaderWaitRequestStartInactive then do
          let v ← v.onConnection c (Connection.disconnectClient closes)
          v.release c reply
        else return v : Except FrontEndFault TcpWorld) =
          .error (.backEnd (.assertion .clientConnected)) →
        v.connections = w.connections → v.world = w.world → False := by
      intro v he hconns hv
      split at he
      · rcases bind_eq_error.mp he with he | ⟨w₁, h₁, he⟩
        · exact hconnection he
        · obtain ⟨k, -, rfl⟩ := onConnection_ok.mp h₁
          refine release_connected (w := v.store c k) (fun ha => ?_) he
          rw [store_connections_self, hconns] at ha
          show c ∈ v.world.backEnd.connectedClients
          rw [hv]
          exact (h.sane c).connected ha
      · cases he
    simp only [fire, sweep] at hf
    cases hat : w.ioPoint <;> rw [hat] at hf <;> exact hbody _ hf rfl rfl
  | backEnd b =>
    cases hsig : b.signals with
    | true =>
      obtain ⟨reply, rfl⟩ := Label.signals_eq_true hsig
      obtain ⟨f, hfire, -⟩ := (onWorld_error (f := (World.fire codec · (.signalStage reply)))).mp hf
      exact signalStage_silent (hkeeps _ rfl) hfire
    | false =>
      refine hworld b ?_ hsig hf
      rintro c reply rfl
      exact hkeeps _ rfl
  | accept | acceptFailed | swept => cases hf

end TcpWorld

/-! ## The invariant -/

namespace Invokers

variable {codec : BasicProtocolCodec} {messages : ClientMessageCodec} {s s' : Invokers}
  {c : ClientPtr} {m : ManagerId} {reply : ℕ → ServiceReply} {l : InvokerLabel}

/-- **The connected clients are those of the live connections and of the connected in-process
invokers**, and no client data belongs to both. -/
structure Matched (s : Invokers) : Prop where
  disciplined : s.frontEnd.Disciplined
  clients : ∀ c, c ∈ s.backEnd.connectedClients ↔
    (s.frontEnd.connections c).alive = true ∨ (s.inProcess c).connected = true
  alive : ∀ c, (s.inProcess c).connected = true → (s.inProcess c).alive = true
  slots : ∀ c, (s.inProcess c).slot.isSome = true → (s.inProcess c).connected = true
  apart : ∀ c, (s.inProcess c).alive = true → s.frontEnd.unused c = true

theorem Matched.not_connection (h : Matched s) (hc : (s.inProcess c).alive = true) :
    (s.frontEnd.connections c).alive = false := by
  have hunused := h.apart c hc
  simp only [TcpWorld.unused, Bool.and_eq_true, Bool.not_eq_true'] at hunused
  exact hunused.1

theorem init_matched (sourceType : SourceConnectionType) (backendType : DestinationConnectionType) :
    Matched (init sourceType backendType) := by
  refine ⟨TcpWorld.init_disciplined _ _, fun c => ?_, nofun, nofun, nofun⟩
  refine iff_of_false (fun hc => ?_) (by rintro (hc | hc) <;> cases hc)
  obtain ⟨services, ec, count, heq⟩ := BackEnd.registerAndInitService_writes basicProtocolService
    { sourceType := sourceType, backendType := backendType }
  simp only [init, backEnd, TcpWorld.init, World.init, BackEnd.new, heq] at hc
  exact absurd hc (Finset.notMem_empty c)

@[simp] theorem setInProcess_self (i : InProcessInvoker) :
    (s.setInProcess c i).inProcess c = i := Function.update_self ..

theorem setInProcess_ne {c' : ClientPtr} (hne : c' ≠ c) (i : InProcessInvoker) :
    (s.setInProcess c i).inProcess c' = s.inProcess c' := Function.update_of_ne hne ..

/-- What a disconnection of `c` leaves. -/
structure Disconnected (c : ClientPtr) (s s' : Invokers) : Prop where
  disciplined : s'.frontEnd.Disciplined
  connections : s'.frontEnd.connections = s.frontEnd.connections
  clients : ∀ c', c' ∈ s'.backEnd.connectedClients ↔
    c' ∈ s.backEnd.connectedClients ∧ ¬(c' = c ∧ (s.inProcess c).connected = true)
  other : ∀ c', c' ≠ c → s'.inProcess c' = s.inProcess c'
  alive : (s'.inProcess c).alive = (s.inProcess c).alive
  connected : (s'.inProcess c).connected = false
  slot : (s'.inProcess c).slot = none

/-- `m_sig_connection->disconnect()` touches the slot only. -/
theorem disconnectSlot_ok (hd : s.frontEnd.Disciplined)
    (hconn : (s.inProcess c).connected = false) (hf : s.disconnectSlot c = .ok s') :
    Disconnected c s s' := by
  have hnone : ∀ c', ¬(c' = c ∧ (s.inProcess c).connected = true) := fun _ h =>
    Bool.false_ne_true (hconn.symm.trans h.2)
  unfold disconnectSlot at hf
  dsimp only at hf
  split at hf
  · split at hf
    · rename_i m hm
      cases hf
      have hstep : s.frontEnd.fire basicProtocolCodec clientMessageCodec
          (.backEnd (.disconnectManager m)) = .ok _ := rfl
      refine ⟨hd.step (l := .backEnd (.disconnectManager m)) rfl hstep, rfl,
        fun c' => (and_iff_left (hnone c')).symm, fun c' hne => setInProcess_ne hne _, ?_, ?_, ?_⟩
      all_goals simp [hconn]
    · rename_i hnone'
      cases hf
      exact ⟨hd, rfl, fun c' => (and_iff_left (hnone c')).symm, fun _ _ => rfl, rfl, hconn, hnone'⟩
  · cases hf

/-- **`disconnect_from_backend`** leaves the client disconnected. -/
theorem disconnectFromBackend_ok (hd : s.frontEnd.Disciplined)
    (hunused : s.frontEnd.unused c = true) (hfree : s.free c reply = true)
    (hf : s.disconnectFromBackend c reply = .ok s') : Disconnected c s s' := by
  unfold disconnectFromBackend at hf
  cases hconn : (s.inProcess c).connected with
  | false =>
    rw [hconn, if_neg Bool.false_ne_true] at hf
    exact disconnectSlot_ok hd hconn hf
  | true =>
    rw [hconn, if_pos rfl] at hf
    obtain ⟨w, hw, hf⟩ := bind_eq_ok.mp hf
    obtain ⟨v, hv, rfl⟩ := TcpWorld.onWorld_ok.mp hw
    simp only [free, hconn, Bool.not_true, Bool.false_or] at hfree
    have hg : s.frontEnd.enabled (.backEnd (.disconnect c reply)) = true := by
      simp only [TcpWorld.enabled, TcpWorld.foreign, Label.client, Option.all_some, hunused, hfree,
        Bool.and_self]
    have hstep : s.frontEnd.fire basicProtocolCodec clientMessageCodec
        (.backEnd (.disconnect c reply)) = .ok { s.frontEnd with world := v } :=
      TcpWorld.onWorld_ok.mpr ⟨v, hv, rfl⟩
    have hfire : World.fire basicProtocolCodec s.frontEnd.world (.disconnect c reply) = .ok v := hv
    have hslot := disconnectSlot_ok (hd.step hg hstep) (by simp) hf
    refine ⟨hslot.disciplined, hslot.connections, fun c' => ?_, fun c' hne => ?_, ?_,
      hslot.connected, hslot.slot⟩
    · rw [hslot.clients c', setInProcess_self]
      simp only [Bool.false_eq_true, and_false, not_false_eq_true, and_true]
      show c' ∈ v.backEnd.connectedClients ↔ _
      rw [World.fire_connectedClients rfl hfire]
      show c' ∈ Finset.erase _ c ↔ _
      rw [Finset.mem_erase, and_comm, hconn, eq_self, and_true]
      exact Iff.rfl
    · exact (hslot.other c' hne).trans (setInProcess_ne hne _)
    · rw [hslot.alive, setInProcess_self]

/-- **A disconnection keeps the invariant.** -/
theorem Matched.disconnected (h : Matched s) (hd : Disconnected c s s')
    (hc : (s.inProcess c).alive = true) : Matched s' := by
  have hother : ∀ {c'}, c' ≠ c → s'.inProcess c' = s.inProcess c' := fun hne => hd.other _ hne
  refine ⟨hd.disciplined, fun c' => ?_, fun c' hconn => ?_, fun c' hslot => ?_, fun c' ha => ?_⟩
  · rw [hd.clients, h.clients c', hd.connections]
    by_cases hne : c' = c
    · subst hne
      rw [h.not_connection hc, hd.connected]
      simp
    · rw [hother hne]
      exact and_iff_left fun hcon => hne hcon.1
  · by_cases hne : c' = c
    · subst hne
      exact absurd (hd.connected.symm.trans hconn) Bool.false_ne_true
    · rw [hother hne] at hconn ⊢
      exact h.alive c' hconn
  · by_cases hne : c' = c
    · subst hne
      rw [hd.slot] at hslot
      cases hslot
    · rw [hother hne] at hslot ⊢
      exact h.slots c' hslot
  · rw [TcpWorld.unused, hd.connections]
    refine h.apart c' ?_
    by_cases hne : c' = c
    · subst hne
      exact hc
    · rwa [hother hne] at ha

/-- The invoker of `c` changes, and with it the record of its client. -/
theorem Matched.update (h : Matched s) {w : TcpWorld} {i : InProcessInvoker} (hd : w.Disciplined)
    (hconns : w.connections = s.frontEnd.connections)
    (hself : c ∈ w.world.backEnd.connectedClients ↔
      (s.frontEnd.connections c).alive = true ∨ i.connected = true)
    (hother : ∀ c', c' ≠ c →
      (c' ∈ w.world.backEnd.connectedClients ↔ c' ∈ s.backEnd.connectedClients))
    (halive : i.connected = true → i.alive = true)
    (hslot : i.slot.isSome = true → i.connected = true)
    (hunused : i.alive = true → s.frontEnd.unused c = true) :
    Matched (setInProcess c i { s with frontEnd := w }) := by
  refine ⟨hd, fun c' => ?_, fun c' => ?_, fun c' => ?_, fun c' => ?_⟩
  · show c' ∈ w.world.backEnd.connectedClients ↔ (w.connections c').alive = true ∨ _
    rw [hconns]
    by_cases hne : c' = c
    · subst hne
      rw [setInProcess_self]
      exact hself
    · rw [setInProcess_ne hne]
      exact (hother c' hne).trans (h.clients c')
  · by_cases hne : c' = c
    · subst hne
      rw [setInProcess_self]
      exact halive
    · rw [setInProcess_ne hne]
      exact h.alive c'
  · by_cases hne : c' = c
    · subst hne
      rw [setInProcess_self]
      exact hslot
    · rw [setInProcess_ne hne]
      exact h.slots c'
  · show _ → w.unused c' = true
    rw [TcpWorld.unused, hconns]
    by_cases hne : c' = c
    · subst hne
      rw [setInProcess_self]
      exact hunused
    · rw [setInProcess_ne hne]
      exact h.apart c'

/-- **The constructor keeps the invariant.** -/
theorem Matched.construct (h : Matched s) (hg : s.enabled (.construct c m) = true) :
    Matched (s.construct c m) := by
  simp only [enabled, Bool.and_eq_true, Bool.not_eq_true', decide_eq_true_eq] at hg
  obtain ⟨⟨⟨-, hunused⟩, hfresh⟩, -⟩ := hg
  have hguard : s.frontEnd.enabled (.backEnd (.connect c true)) = true := by
    simp only [TcpWorld.enabled, TcpWorld.foreign, Label.client, Option.all_some, hunused, hfresh,
      Bool.and_self]
  have hconnect : s.frontEnd.fire basicProtocolCodec clientMessageCodec
      (.backEnd (.connect c true)) = .ok _ := rfl
  have hregister : ∀ w : TcpWorld, w.fire basicProtocolCodec clientMessageCodec
      (.backEnd (.registerManager m)) = .ok _ := fun _ => rfl
  have hd := (h.disciplined.step hguard hconnect).step (l := .backEnd (.registerManager m)) rfl
    (hregister _)
  refine h.update hd rfl (iff_of_true (Finset.mem_insert_self c _) (.inr rfl)) (fun c' hne => ?_)
    (fun _ => rfl) (fun _ => rfl) fun _ => hunused
  show c' ∈ insert c s.backEnd.connectedClients ↔ _
  rw [Finset.mem_insert]
  exact or_iff_right hne

/-- What the steps of the front end leave of the clients. -/
theorem keepsClients_of_enabled {t : TcpLabel} (hg : s.enabled (.frontEnd t) = true) (b : Label)
    (hl : t = .backEnd b) : s.frontEnd.keepsClients b := by
  subst hl
  simp only [enabled, Bool.and_eq_true] at hg
  have hleaves := hg.2
  cases b with
  | connect | disconnect => cases hleaves
  | signalStage reply =>
    intro m hm
    have hall := List.all_eq_true.mp hleaves m hm
    simp only [Bool.and_eq_true, List.isEmpty_iff] at hall
    exact hall.1
  | _ => trivial

/-- **A step of the front end keeps the invariant.** -/
theorem Matched.frontEnd {t : TcpLabel} {w : TcpWorld} (h : Matched s)
    (hg : s.enabled (.frontEnd t) = true) (hf : s.frontEnd.fire codec messages t = .ok w) :
    Matched { s with frontEnd := w } := by
  have hkeeps := keepsClients_of_enabled hg
  simp only [enabled, Bool.and_eq_true] at hg
  obtain ⟨hg, haddr⟩ := hg
  have hlife := TcpWorld.fire_lifetime h.disciplined hg hf hkeeps
  have hapart : ∀ c, (s.inProcess c).alive = true → t.accepts ≠ some c := by
    intro c ha hacc
    cases t with
    | accept c' fresh =>
      cases hacc
      have hdead : (s.inProcess c).alive = false := by simpa using haddr
      exact Bool.false_ne_true (hdead.symm.trans ha)
    | _ => cases hacc
  refine ⟨h.disciplined.step hg hf, fun c => ?_, h.alive, h.slots, fun c ha =>
    TcpWorld.fire_unused h.disciplined hg hf (hapart c ha) (h.apart c ha)⟩
  show c ∈ w.world.backEnd.connectedClients ↔ (w.connections c).alive = true ∨ _
  rcases hlife c with ⟨ha, hmem, -⟩ | ⟨ha, hmem, -⟩ | ⟨hwas, ha, hmem, -⟩
  · rw [hmem, ha]
    exact h.clients c
  · exact iff_of_true hmem (.inl ha)
  · rw [ha]
    refine iff_of_false hmem ?_
    rintro (hc | hc)
    · cases hc
    · exact Bool.false_ne_true ((h.not_connection (h.alive c hc)).symm.trans hwas)

/-- **The destructor** disconnects the invoker. -/
theorem destroy_ok (h : Matched s) (hg : s.enabled (.destroy c reply) = true)
    (hf : s.destroy c reply = .ok s') :
    ∃ s₁, Disconnected c s s₁ ∧ s' = s₁.setInProcess c { s₁.inProcess c with alive := false } := by
  simp only [enabled, Bool.and_eq_true] at hg
  obtain ⟨⟨ha, -⟩, hfree⟩ := hg
  unfold destroy at hf
  cases hconn : (s.inProcess c).connected with
  | true =>
    rw [hconn, if_pos rfl] at hf
    obtain ⟨s₁, h₁, hret⟩ := bind_eq_ok.mp hf
    cases hret
    exact ⟨s₁, disconnectFromBackend_ok h.disciplined (h.apart c ha) hfree h₁, rfl⟩
  | false =>
    rw [hconn, if_neg Bool.false_ne_true] at hf
    cases hf
    refine ⟨s, ⟨h.disciplined, rfl, fun c' => ?_, fun _ _ => rfl, rfl, hconn, ?_⟩, rfl⟩
    · rw [hconn]
      simp
    · by_contra hslot
      exact Bool.false_ne_true (hconn.symm.trans (h.slots c (Option.isSome_iff_ne_none.mpr hslot)))

/-- **Every step keeps the invariant.** -/
theorem Matched.step (h : Matched s) (hg : s.enabled l = true)
    (hf : s.fire codec messages l = .ok s') : Matched s' := by
  cases l with
  | construct c m =>
    cases hf
    exact h.construct hg
  | assign c =>
    cases hf
    exact h.update h.disciplined rfl (h.clients c) (fun _ _ => Iff.rfl) (h.alive c) (h.slots c)
      (h.apart c)
  | disconnect c reply =>
    simp only [enabled, Bool.and_eq_true] at hg
    exact h.disconnected (disconnectFromBackend_ok h.disciplined (h.apart c hg.1.1) hg.2 hf) hg.1.1
  | signal c reply =>
    simp only [enabled, Bool.and_eq_true] at hg
    have ha := h.alive c (h.slots c hg.1.2)
    exact h.disconnected (disconnectFromBackend_ok h.disciplined (h.apart c ha) hg.2 hf) ha
  | destroy c reply =>
    obtain ⟨s₁, hd, rfl⟩ := destroy_ok h hg hf
    simp only [enabled, Bool.and_eq_true] at hg
    have h₁ := h.disconnected hd hg.1.1
    refine h₁.update h₁.disciplined rfl (h₁.clients c) (fun _ _ => Iff.rfl) (fun hc => ?_)
      (h₁.slots c) nofun
    exact absurd (hd.connected.symm.trans hc) Bool.false_ne_true
  | frontEnd t =>
    obtain ⟨w, hw, hret⟩ := bind_eq_ok.mp hf
    cases hret
    exact h.frontEnd hg hw

/-! ## The calls of `connect` and `disconnect` -/

/-- The client data of `c` is connected. -/
def held (c : ClientPtr) (s : Invokers) : Option Unit :=
  if c ∈ s.backEnd.connectedClients then some () else none

/-- The step destroys the connection of `c`, whose destructor calls `BackEnd::disconnect`. -/
def destroysConnection (codec : BasicProtocolCodec) (messages : ClientMessageCodec) (c : ClientPtr)
    (w : TcpWorld) (t : TcpLabel) : Bool :=
  match w.fire codec messages t with
  | .ok w' => (w.connections c).alive && !(w'.connections c).alive
  | .error _ => false

/-- The call of `BackEnd::connect` or `BackEnd::disconnect` for the client data of `c`. -/
def clientCall (codec : BasicProtocolCodec) (messages : ClientMessageCodec) (c : ClientPtr)
    (p : Invokers × InvokerLabel) : Option (Event Unit) :=
  match p.2 with
  | .construct c' _ => if c' = c then some (.opened ()) else none
  | .assign _ => none
  | .disconnect c' _ | .signal c' _ | .destroy c' _ =>
    if c' = c ∧ (p.1.inProcess c').connected = true then some (.closed ()) else none
  | .frontEnd t =>
    if t.accepts = some c then some (.opened ())
    else if destroysConnection codec messages c p.1.frontEnd t then some (.closed ())
    else none

theorem held_of_mem (h : c ∈ s.backEnd.connectedClients) : held c s = some () := if_pos h

theorem held_of_notMem (h : c ∉ s.backEnd.connectedClients) : held c s = none := if_neg h

theorem held_congr
    (h : c ∈ s'.backEnd.connectedClients ↔ c ∈ s.backEnd.connectedClients) :
    held c s' = held c s := by
  rw [held, held, if_congr h rfl rfl]

/-- A disconnection is one call for a connected invoker, and none for another. -/
theorem paired_disconnected {c' : ClientPtr} (h : Matched s)
    (hclients : ∀ k, k ∈ s'.backEnd.connectedClients ↔
      k ∈ s.backEnd.connectedClients ∧ ¬(k = c' ∧ (s.inProcess c').connected = true)) :
    Paired (held c s) (if c' = c ∧ (s.inProcess c').connected = true then some (Event.closed ())
      else none).toList (held c s') := by
  split
  · rename_i hcall
    obtain ⟨rfl, hconn⟩ := hcall
    rw [held_of_mem ((h.clients c').mpr (.inr hconn)),
      held_of_notMem fun hc => ((hclients c').mp hc).2 ⟨rfl, hconn⟩]
    exact .closed (.nil none)
  · rename_i hcall
    have hsame : held c s' = held c s := by
      refine held_congr ((hclients c).trans (and_iff_left fun hcon => hcall ?_))
      obtain ⟨rfl, hconn⟩ := hcon
      exact ⟨rfl, hconn⟩
    rw [hsame]
    exact .nil _

/-- **A step connects a client that is not connected, or disconnects one that is.** -/
theorem paired_step (c : ClientPtr) (h : Matched s) (hg : s.enabled l = true)
    (hf : s.fire codec messages l = .ok s') :
    Paired (held c s) (clientCall codec messages c (s, l)).toList (held c s') := by
  cases l with
  | construct c' m =>
    cases hf
    simp only [enabled, Bool.and_eq_true, World.enabled, Bool.not_true, Bool.false_or,
      decide_eq_true_eq] at hg
    simp only [clientCall]
    split
    · rename_i heq
      subst heq
      rw [held_of_notMem hg.1.2.1, held_of_mem (Finset.mem_insert_self c' _)]
      exact .opened (.nil _)
    · rename_i hne
      have hsame : held c (s.construct c' m) = held c s := by
        refine held_congr ?_
        show c ∈ insert c' s.backEnd.connectedClients ↔ _
        rw [Finset.mem_insert]
        exact or_iff_right fun heq => hne heq.symm
      rw [hsame]
      exact .nil _
  | assign c' =>
    cases hf
    exact .nil _
  | disconnect c' reply =>
    simp only [enabled, Bool.and_eq_true] at hg
    exact paired_disconnected h
      (disconnectFromBackend_ok h.disciplined (h.apart c' hg.1.1) hg.2 hf).clients
  | signal c' reply =>
    simp only [enabled, Bool.and_eq_true] at hg
    exact paired_disconnected h (disconnectFromBackend_ok h.disciplined
      (h.apart c' (h.alive c' (h.slots c' hg.1.2))) hg.2 hf).clients
  | destroy c' reply =>
    obtain ⟨s₁, hd, rfl⟩ := destroy_ok h hg hf
    exact paired_disconnected h hd.clients
  | frontEnd t =>
    obtain ⟨w, hw, hret⟩ := bind_eq_ok.mp hf
    cases hret
    have hlife := TcpWorld.fire_lifetime h.disciplined (by
      simp only [enabled, Bool.and_eq_true] at hg
      exact hg.1) hw (keepsClients_of_enabled hg) c
    simp only [clientCall, destroysConnection, hw]
    rcases hlife with ⟨ha, hmem, hacc⟩ | ⟨-, hmem, hacc⟩ | ⟨hwas, ha, hmem, hacc⟩
    · have hsame : held c { s with frontEnd := w } = held c s := held_congr hmem
      rw [if_neg hacc, ha, Bool.and_not_self, if_neg Bool.false_ne_true, hsame]
      exact .nil _
    · have hfresh : c ∉ s.backEnd.connectedClients := by
        cases t with
        | accept c' fresh =>
          cases hacc
          simp only [enabled, TcpWorld.enabled, Bool.and_eq_true, World.enabled, Bool.not_true,
            Bool.false_or, decide_eq_true_eq] at hg
          exact hg.1.2.1
        | _ => cases hacc
      rw [if_pos hacc, held_of_notMem hfresh, held_of_mem (s := { s with frontEnd := w }) hmem]
      exact .opened (.nil _)
    · rw [if_neg hacc, hwas, ha, if_pos (by rfl),
        held_of_mem ((h.clients c).mpr (.inl hwas)),
        held_of_notMem (s := { s with frontEnd := w }) hmem]
      exact .closed (.nil _)

/-- A step that faults has called `disconnect` for a connected client at most. -/
theorem paired_fault (c : ClientPtr) (h : Matched s) {f : FrontEndFault}
    (hf : s.fire codec messages l = .error f) :
    ∃ t, Paired (held c s) (clientCall codec messages c (s, l)).toList t := by
  have hclosed : ∀ c', ∃ t, Paired (held c s) (if c' = c ∧ (s.inProcess c').connected = true
      then some (Event.closed ()) else none).toList t := by
    intro c'
    split
    · rename_i hcall
      rw [held_of_mem ((h.clients c).mpr (.inr (hcall.1 ▸ hcall.2)))]
      exact ⟨none, .closed (.nil none)⟩
    · exact ⟨_, .nil _⟩
  cases l with
  | construct | assign => cases hf
  | disconnect c' | signal c' | destroy c' => exact hclosed c'
  | frontEnd t =>
    rcases bind_eq_error.mp hf with hw | ⟨_, -, hret⟩
    · have hacc : t.accepts ≠ some c := by
        intro hacc
        cases t with
        | accept => cases hw
        | _ => cases hacc
      simp only [clientCall, destroysConnection, hw, if_neg hacc, if_neg Bool.false_ne_true]
      exact ⟨_, .nil _⟩
    · cases hret

theorem disconnectSlot_fault {f : FrontEndFault} (hf : s.disconnectSlot c = .error f) :
    f = .backEnd .invalidPointer := by
  unfold disconnectSlot at hf
  dsimp only at hf
  split at hf
  · split at hf <;> cases hf
  · cases hf
    rfl

theorem disconnectFromBackend_fault (h : Matched s) :
    s.disconnectFromBackend c reply ≠ .error (.backEnd (.assertion .clientConnected)) := by
  intro hf
  unfold disconnectFromBackend at hf
  split at hf
  · rename_i hconn
    rcases bind_eq_error.mp hf with hw | ⟨_, -, hslot⟩
    · obtain ⟨f, hdisc, hfault⟩ := TcpWorld.onWorld_error.mp hw
      cases hfault
      exact (World.disconnect_fault hdisc rfl).2 ((h.clients c).mpr (.inr hconn))
    · cases disconnectSlot_fault hslot
  · cases disconnectSlot_fault hf

/-- **No step raises the assertion of `BackEnd::disconnect`.** -/
theorem fire_connected (h : Matched s) (hg : s.enabled l = true) :
    s.fire codec messages l ≠ .error (.backEnd (.assertion .clientConnected)) := by
  intro hf
  cases l with
  | construct | assign => cases hf
  | disconnect c reply | signal c reply => exact disconnectFromBackend_fault h hf
  | destroy c reply =>
    simp only [fire, destroy] at hf
    split at hf
    · rcases bind_eq_error.mp hf with hf | ⟨_, -, hret⟩
      · exact disconnectFromBackend_fault h hf
      · cases hret
    · cases hf
  | frontEnd t =>
    rcases bind_eq_error.mp hf with hw | ⟨_, -, hret⟩
    · exact TcpWorld.fire_connected h.disciplined (keepsClients_of_enabled hg) hw
    · cases hret

/-! ## The count -/

/-- `client_count()`. -/
def clientCount (s : Invokers) : ℕ := s.backEnd.connectedClients.card

/-- `client_count` is the number of live connection invokers and of connected in-process invokers. -/
def Counted (s : Invokers) : Prop :=
  s.clientCount = {c | (s.frontEnd.connections c).alive = true}.ncard +
    {c | (s.inProcess c).connected = true}.ncard

/-- The two kinds of invokers share no client. -/
theorem Matched.counted (h : Matched s) : Counted s := by
  have hunion : (s.backEnd.connectedClients : Set ClientPtr) =
      {c | (s.frontEnd.connections c).alive = true} ∪ {c | (s.inProcess c).connected = true} :=
    Set.ext fun c => h.clients c
  have hdisjoint : Disjoint {c | (s.frontEnd.connections c).alive = true}
      {c | (s.inProcess c).connected = true} := by
    refine Set.disjoint_left.mpr fun c ha hc => ?_
    exact Bool.false_ne_true ((h.not_connection (h.alive c hc)).symm.trans ha)
  have hfinite := s.backEnd.connectedClients.finite_toSet
  rw [hunion, Set.finite_union] at hfinite
  rw [Counted, clientCount, ← Set.ncard_coe_finset, hunion,
    Set.ncard_union_eq hdisjoint hfinite.1 hfinite.2]

/-- The clients are accounted for in a run: they are counted, a client data is disconnected at most
once after each time it was connected, and the assertion of `BackEnd::disconnect` holds. -/
structure ClientsCounted (codec : BasicProtocolCodec) (messages : ClientMessageCodec)
    (tr : List (Invokers × InvokerLabel)) (r : Except FrontEndFault Invokers) : Prop where
  counted : Machine.Always Counted tr r
  once : ∀ c, ∃ t, Paired none (tr.filterMap (clientCall codec messages c)) t
  asserts : r ≠ .error (.backEnd (.assertion .clientConnected))

end Invokers

open Invokers

/-- **The connected clients are accounted for**, in every run of in-process invokers and of the
connections of a front end. -/
theorem clients_counted (codec : BasicProtocolCodec) (messages : ClientMessageCodec)
    (sourceType : SourceConnectionType) (backendType : DestinationConnectionType)
    {tr : List (Invokers × InvokerLabel)} {r : Except FrontEndFault Invokers}
    (hrun : (invokerMachine codec messages).Run (init sourceType backendType) tr r) :
    ClientsCounted codec messages tr r := by
  have hinit := init_matched sourceType backendType
  have hinv := hrun.invariant (I := Matched) (C := fun _ _ => True)
    (fun _ _ _ hI _ hg hf => hI.step hg hf) hinit fun _ _ => trivial
  have hpaired : ∀ {tr s'}, (invokerMachine codec messages).Run (init sourceType backendType) tr
      (.ok s') → ∀ c, Paired none (tr.filterMap (clientCall codec messages c)) (held c s') := by
    intro tr s' hrun c
    have hnone : held c (init sourceType backendType) = none :=
      held_of_notMem fun hc => by
        rcases (hinit.clients c).mp hc with hc | hc <;> cases hc
    rw [← hnone]
    exact hrun.paired (fun _ _ _ hI hg hf => ⟨hI.step hg hf, paired_step c hI hg hf⟩) hinit
  refine ⟨⟨fun p hp => (hinv.1 p hp).counted, fun s' hr => (hinv.2 s' hr).counted⟩, fun c => ?_,
    fun hr => ?_⟩
  · cases r with
    | ok s' => exact ⟨_, hpaired hrun c⟩
    | error f =>
      obtain ⟨tr', p, rfl, hrun', hf⟩ := hrun.fault_last
      have hp : Matched p.1 := hinv.1 p (List.mem_append_right _ List.mem_cons_self)
      obtain ⟨t, ht⟩ := paired_fault c hp hf
      have hlast : [p].filterMap (clientCall codec messages c) =
          (clientCall codec messages c p).toList := by
        rw [List.filterMap_cons]
        cases clientCall codec messages c p <;> rfl
      rw [List.filterMap_append, hlast]
      exact ⟨t, (hpaired hrun' c).append ht⟩
  · subst hr
    obtain ⟨p, hp, hf⟩ := hrun.fault_attempt
    exact fire_connected (hinv.1 p hp) (hrun.guard p hp) hf

/-- Two invokers in the process and a connection: one is disconnected by its user, twice, and one by
the shutdown. -/
def sampleInvokers : List InvokerLabel :=
  [.frontEnd (.backEnd (.poolSize 1)), .frontEnd (.backEnd .start), .construct 7 70, .assign 7,
   .construct 8 80, .assign 8, .frontEnd (.accept 9 fun _ => 0), .disconnect 8 fun _ => {},
   .disconnect 8 fun _ => {}, .frontEnd (.backEnd .initiateShutdown),
   .frontEnd (.backEnd .stopStage), .frontEnd (.backEnd .rpcStage), .signal 7 fun _ => {},
   .frontEnd (.backEnd (.signalStage fun _ => {})), .destroy 7 fun _ => {}, .destroy 8 fun _ => {}]

theorem clients_counted_sample : ∃ tr s, tr.map (fun p => p.1.clientCount) =
    [0, 0, 0, 1, 1, 2, 2, 3, 2, 2, 2, 2, 2, 1, 1, 1] ∧ s.clientCount = 1 ∧
      ClientsCounted basicProtocolCodec clientMessageCodec tr (.ok s) := by
  have hadm : (invokerMachine basicProtocolCodec clientMessageCodec).admits
      (init .sourceRelay .targetMarshall) sampleInvokers = true := by decide +kernel
  have hobs : ((invokerMachine basicProtocolCodec clientMessageCodec).exec
      (init .sourceRelay .targetMarshall) sampleInvokers).1.map (fun p => p.1.clientCount) =
        [0, 0, 0, 1, 1, 2, 2, 3, 2, 2, 2, 2, 2, 1, 1, 1] := by decide +kernel
  obtain ⟨s, hrun, hend⟩ := (invokerMachine basicProtocolCodec clientMessageCodec).exec_observed
    (init .sourceRelay .targetMarshall) sampleInvokers clientCount (a := 1) hadm (by decide +kernel)
  exact ⟨_, s, hobs, hend, clients_counted _ _ _ _ hrun⟩

end RblRpc
