import RblRpc.Lib.Traversal
import RblRpc.Tcp.ConnectionSet

/-!
# The loop of `shutdown_handler`

`BOOST_FOREACH` walks `m_connections` itself, and `disconnect_client` erases from it the connection
that the iterator is at.  The steps of the io thread go over a copy; here the iterator is modelled.

* `shutdownHandler` — the handler with its walk over the `std::set`.
* `shutdownTurn_sweep` — a turn of it is a `sweep` of the io thread.
* `copy_sound` — over a copy the same turns would be sound for every set of connections.
* `shutdown_traversal_iff` — **the walk is sound exactly if no connection is idle.**
-/

namespace RblRpc

open Transition Traversal

/-- The order in which a `std::set` keeps its elements. -/
structure SetOrder (members : Finset ClientPtr) where
  elems : List ClientPtr
  nodup : elems.Nodup
  mem_iff : ∀ c, c ∈ elems ↔ c ∈ members

/-- What the handler works on, with the connections whose sockets `disconnect_client` has closed. -/
structure ShutdownLoop where
  world : TcpWorld
  closed : Finset ClientPtr := ∅

namespace ShutdownLoop

/-- `TcpFrontEnd::disconnect_client`. -/
def disconnectClient (c : ClientPtr) (closes : Bool) (s : ShutdownLoop) :
    Except FrontEndFault ShutdownLoop := do
  let w ← s.world.onConnection c (Connection.disconnectClient closes)
  return { world := w, closed := insert c s.closed }

/-- The body of the loop.  At its end `inv` goes out of scope. -/
def shutdownTurn (closes : ClientPtr → Bool) (reply : ClientPtr → ℕ → ServiceReply)
    (c : ClientPtr) (s : ShutdownLoop) : Except FrontEndFault ShutdownLoop :=
  if (s.world.connections c).ioState = .readHeaderWaitRequestStartInactive then do
    let s ← s.disconnectClient c (closes c)
    let w ← s.world.release c (reply c)
    return { s with world := w }
  else .ok s

/-- The elements of `m_connections`. -/
def connections {members : Finset ClientPtr} (order : SetOrder members) (s : ShutdownLoop) :
    List ClientPtr :=
  order.elems.filter fun c => c ∈ s.world.members

end ShutdownLoop

namespace TcpWorld

open ShutdownLoop

/-- `shutdown_handler`: the connections visited, and how it ends.  `acceptorCloses`: cancelling and
closing the acceptor succeed; `closes`: so do shutting down and closing the socket. -/
def shutdownHandler (w : TcpWorld) (order : SetOrder w.members) (acceptorCloses : Bool)
    (closes : ClientPtr → Bool) (reply : ClientPtr → ℕ → ServiceReply) :
    List ClientPtr × Except (Traversal.Fault FrontEndFault) ShutdownLoop :=
  match w.shutdown acceptorCloses with
  | .error f => ([], .error (.body f))
  | .ok w' =>
    let s : ShutdownLoop := { world := w' }
    walk (ShutdownLoop.connections order) (shutdownTurn closes reply) w.members.card
      (ShutdownLoop.connections order s).head? s

/-- The connection waits for the header of a request. -/
def idle (w : TcpWorld) (c : ClientPtr) : Bool :=
  (w.connections c).ioState = .readHeaderWaitRequestStartInactive

/-- A walk from `w` on is sound: it visits every connection once, does not advance from an erased
element, disconnects and erases the idle connections and leaves the others. -/
structure TraversalSound (w : TcpWorld)
    (r : List ClientPtr × Except (Traversal.Fault FrontEndFault) ShutdownLoop) : Prop where
  visits : ∀ c, r.1.count c = if c ∈ w.members then 1 else 0
  advances : r.2 ≠ .error .erased
  outcome : ∃ s, r.2 = .ok s ∧
    (∀ c, c ∈ s.closed ↔ c ∈ w.members ∧ w.idle c = true) ∧
    ∀ c, c ∈ s.world.members ↔ c ∈ w.members ∧ w.idle c = false

end TcpWorld

namespace ShutdownLoop

variable {closes : ClientPtr → Bool} {reply : ClientPtr → ℕ → ServiceReply} {c c' : ClientPtr}
  {s s' : ShutdownLoop}

/-! ## A turn -/

theorem disconnectClient_ok {b : Bool} (h : s.disconnectClient c b = .ok s') :
    c ∈ s.world.members ∧ s'.closed = insert c s.closed ∧
      s'.world.members = s.world.members.erase c ∧
      ∀ c', (s'.world.connections c').ioState = (s.world.connections c').ioState := by
  obtain ⟨w, hw, hret⟩ := bind_eq_ok.mp h
  obtain ⟨k, hk, rfl⟩ := TcpWorld.onConnection_ok.mp hw
  cases hret
  obtain ⟨hmem, rfl⟩ := Connection.disconnectClient_ok_connected hk
  refine ⟨of_decide_eq_true hmem, rfl, TcpWorld.members_store_closed rfl, fun c' => ?_⟩
  by_cases hc : c' = c
  · subst hc
    rw [TcpWorld.store_connections_self]
    rfl
  · rw [TcpWorld.store_connections_ne hc]

/-- **A turn for an idle connection** disconnects and erases it. -/
theorem shutdownTurn_idle (hidle : s.world.idle c = true)
    (h : shutdownTurn closes reply c s = .ok s') :
    s'.closed = insert c s.closed ∧ s'.world.members = s.world.members.erase c ∧
      ∀ c', s'.world.idle c' = s.world.idle c' := by
  rw [shutdownTurn, if_pos (of_decide_eq_true hidle)] at h
  obtain ⟨s₁, h₁, h⟩ := bind_eq_ok.mp h
  obtain ⟨w, h₂, hret⟩ := bind_eq_ok.mp h
  cases hret
  obtain ⟨-, hclosed, hmem, hio⟩ := disconnectClient_ok h₁
  refine ⟨hclosed, (TcpWorld.release_kept h₂).2.2.trans hmem, fun c' => ?_⟩
  have hsame : (w.connections c').ioState = (s₁.world.connections c').ioState := by
    rcases TcpWorld.release_ok h₂ with ⟨-, -, -, v, -, rfl⟩ | ⟨-, rfl⟩
    · by_cases hc : c' = c
      · subst hc
        rw [TcpWorld.modify_connections_self]
      · rw [TcpWorld.modify_connections_ne hc]
    · rfl
  rw [TcpWorld.idle, TcpWorld.idle, hsame, hio]

/-- A turn for another connection does nothing. -/
theorem shutdownTurn_active (hidle : s.world.idle c = false) :
    shutdownTurn closes reply c s = .ok s :=
  if_neg (of_decide_eq_false hidle)

/-- **A turn of the loop is a `sweep` of the io thread.** -/
theorem shutdownTurn_sweep {left : Finset ClientPtr} {w : TcpWorld}
    (hat : w.ioPoint = .sweeping left) :
    w.sweep c (closes c) (reply c) =
      (shutdownTurn closes reply c { s with world := w.goto (.sweeping (left.erase c)) }).map
        ShutdownLoop.world := by
  unfold TcpWorld.sweep shutdownTurn disconnectClient
  rw [hat]
  dsimp only
  split
  · simp only [Except.map, bind_assoc, pure_bind]
    cases TcpWorld.onConnection c (Connection.disconnectClient (closes c))
      (w.goto (.sweeping (left.erase c))) with
    | error f => rfl
    | ok w₁ =>
      cases hr : w₁.release c (reply c) <;> simp [hr, bind, Except.bind, pure, Except.pure]
  · rfl

end ShutdownLoop

namespace TcpWorld

open ShutdownLoop

variable {w : TcpWorld} {closes : ClientPtr → Bool} {reply : ClientPtr → ℕ → ServiceReply}

theorem shutdown_ok {b : Bool} {w' : TcpWorld} (h : w.shutdown b = .ok w') :
    w'.members = w.members ∧ w'.connections = w.connections := by
  unfold shutdown at h
  split at h <;> cases h
  exact ⟨rfl, rfl⟩

/-! ## The walk over a copy -/

/-- `shutdown_handler` with a loop over a copy of `m_connections`. -/
def shutdownCopy (w : TcpWorld) (order : SetOrder w.members) (acceptorCloses : Bool)
    (closes : ClientPtr → Bool) (reply : ClientPtr → ℕ → ServiceReply) :
    Except FrontEndFault ShutdownLoop := do
  let w' ← w.shutdown acceptorCloses
  walkCopy (shutdownTurn closes reply) order.elems { world := w' }

/-- What the turns for the connections `done` leave. -/
structure TurnsDone (w : TcpWorld) (done : List ClientPtr) (s : ShutdownLoop) : Prop where
  closed : ∀ c, c ∈ s.closed ↔ c ∈ done ∧ w.idle c = true
  members : ∀ c, c ∈ s.world.members ↔ c ∈ w.members ∧ ¬(c ∈ done ∧ w.idle c = true)
  idle : ∀ c, s.world.idle c = w.idle c

theorem TurnsDone.turn {done : List ClientPtr} {c : ClientPtr} {s s' : ShutdownLoop}
    (h : w.TurnsDone done s) (hf : shutdownTurn closes reply c s = .ok s') :
    w.TurnsDone (done ++ [c]) s' := by
  cases hidle : w.idle c with
  | true =>
    obtain ⟨hclosed, hmem, hsame⟩ := shutdownTurn_idle ((h.idle c).trans hidle) hf
    refine ⟨fun c' => ?_, fun c' => ?_, fun c' => (hsame c').trans (h.idle c')⟩
    · rw [hclosed, Finset.mem_insert, h.closed, List.mem_append, List.mem_singleton]
      grind
    · rw [hmem, Finset.mem_erase, h.members, List.mem_append, List.mem_singleton]
      grind
  | false =>
    rw [shutdownTurn_active ((h.idle c).trans hidle)] at hf
    cases hf
    refine ⟨fun c' => ?_, fun c' => ?_, h.idle⟩
    · rw [h.closed, List.mem_append, List.mem_singleton]
      grind
    · rw [h.members, List.mem_append, List.mem_singleton]
      grind

/-- **Over a copy the loop is sound**, for every set of connections: it is the iterator that fails. -/
theorem copy_sound (order : SetOrder w.members) {b : Bool} {s : ShutdownLoop}
    (h : w.shutdownCopy order b closes reply = .ok s) :
    (∀ c, c ∈ s.closed ↔ c ∈ w.members ∧ w.idle c = true) ∧
      ∀ c, c ∈ s.world.members ↔ c ∈ w.members ∧ w.idle c = false := by
  obtain ⟨w', hw', hwalk⟩ := bind_eq_ok.mp h
  obtain ⟨hmem, hconn⟩ := shutdown_ok hw'
  have hstart : w.TurnsDone [] { world := w' } := by
    refine ⟨fun c => by simp, fun c => by simp [hmem], fun c => ?_⟩
    rw [idle, idle, hconn]
  have hdone := walkCopy_ok (I := w.TurnsDone) (fun _ _ _ _ hI _ hf => hI.turn hf)
    [] order.nodup hstart hwalk
  rw [List.nil_append] at hdone
  refine ⟨fun c => ?_, fun c => ?_⟩
  · rw [hdone.closed, order.mem_iff]
  · rw [hdone.members, order.mem_iff]
    cases w.idle c <;> simp

/-! ## The walk over the set -/

theorem connections_start (order : SetOrder w.members) {s : ShutdownLoop}
    (hs : s.world.members = w.members) : ShutdownLoop.connections order s = order.elems := by
  refine List.filter_eq_self.mpr fun c hc => decide_eq_true ?_
  rw [hs]
  exact (order.mem_iff c).mp hc

theorem elems_length (order : SetOrder w.members) : order.elems.length = w.members.card := by
  rw [← List.toFinset_card_of_nodup order.nodup]
  congr 1
  ext c
  rw [List.mem_toFinset, order.mem_iff]

theorem connections_erased {order : SetOrder w.members} {c : ClientPtr} {s s' : ShutdownLoop}
    (hidle : s.world.idle c = true) (h : shutdownTurn closes reply c s = .ok s') :
    c ∉ ShutdownLoop.connections order s' := by
  intro hc
  have hmem := of_decide_eq_true (List.mem_filter.mp hc).2
  rw [(shutdownTurn_idle hidle h).2.1] at hmem
  exact Finset.notMem_erase c _ hmem

/-- **How the handler ends**: behind the last connection if none is idle, else at the first idle
one, whose turn throws or leaves the iterator at an erased element. -/
theorem shutdownHandler_cases (order : SetOrder w.members) (closes : ClientPtr → Bool)
    (reply : ClientPtr → ℕ → ServiceReply) :
    (∀ c ∈ order.elems, w.idle c = false) ∧ (∃ s : ShutdownLoop, s.closed = ∅ ∧
        s.world.members = w.members ∧
        w.shutdownHandler order true closes reply = (order.elems, .ok s)) ∨
      ∃ pre c post f, order.elems = pre ++ c :: post ∧ w.idle c = true ∧
        (∀ c' ∈ pre, w.idle c' = false) ∧ (f = .erased ∨ ∃ e, f = .body e) ∧
        w.shutdownHandler order true closes reply = (pre ++ [c], .error f) := by
  obtain ⟨w', hw'⟩ : ∃ w', w.shutdown true = .ok w' := ⟨_, rfl⟩
  obtain ⟨hmem, hconn⟩ := shutdown_ok hw'
  have hidle : ∀ c, w'.idle c = w.idle c := fun c => by rw [idle, idle, hconn]
  have hstart := connections_start order (s := { world := w' }) hmem
  have hskip : ∀ pre post, order.elems = pre ++ post → (∀ c ∈ pre, w.idle c = false) →
      w.shutdownHandler order true closes reply =
        let r := walk (ShutdownLoop.connections order) (shutdownTurn closes reply) post.length
          post.head? { world := w' }
        (pre ++ r.1, r.2) := by
    intro pre post hsplit hpre
    have hlen : w.members.card = pre.length + post.length := by
      rw [← elems_length order, hsplit, List.length_append]
    unfold shutdownHandler
    rw [hw']
    dsimp only
    rw [hstart, hlen, hsplit]
    refine walk_skip [] (hstart.trans hsplit) (hstart ▸ order.nodup) (fun c hc => ?_) _
    exact shutdownTurn_active ((hidle c).trans (hpre c hc))
  cases hfirst : order.elems.find? w.idle with
  | none =>
    have hall : ∀ c ∈ order.elems, w.idle c = false := fun c hc =>
      Bool.eq_false_iff.mpr (List.find?_eq_none.mp hfirst c hc)
    refine .inl ⟨hall, { world := w' }, rfl, hmem, ?_⟩
    rw [hskip order.elems [] (List.append_nil _).symm hall]
    exact Prod.ext (List.append_nil _) rfl
  | some c =>
    obtain ⟨hc, pre, post, hsplit, hpre⟩ := List.find?_eq_some_iff_append.mp hfirst
    have hpre' : ∀ c' ∈ pre, w.idle c' = false := fun c' hc' => by simpa using hpre c' hc'
    have hrun := hskip pre (c :: post) hsplit hpre'
    have hc' : w'.idle c = true := (hidle c).trans hc
    cases hturn : shutdownTurn closes reply c { world := w' } with
    | error f =>
      refine .inr ⟨pre, c, post, .body f, hsplit, hc, hpre', .inr ⟨f, rfl⟩, ?_⟩
      rw [hrun, List.length_cons, List.head?_cons, walk_throws hturn]
    | ok s' =>
      refine .inr ⟨pre, c, post, .erased, hsplit, hc, hpre', .inl rfl, ?_⟩
      rw [hrun, List.length_cons, List.head?_cons, walk_erased hturn (connections_erased hc' hturn)]

/-- **The traversal, exactly.**  For every set of connections and every order of it the loop of
`shutdown_handler` is sound if and only if no connection is idle. -/
theorem shutdown_traversal_iff (w : TcpWorld) (order : SetOrder w.members)
    (reply : ClientPtr → ℕ → ServiceReply) :
    w.TraversalSound (w.shutdownHandler order true (fun _ => true) reply) ↔
      ∀ c ∈ w.members, w.idle c = false := by
  rcases shutdownHandler_cases order (fun _ => true) reply with
    ⟨hall, s, hclosed, hmem, hrun⟩ | ⟨pre, c, post, f, hsplit, hc, -, -, hrun⟩
  · have hall' : ∀ c ∈ w.members, w.idle c = false := fun c hc => hall c ((order.mem_iff c).mpr hc)
    refine iff_of_true ?_ hall'
    rw [hrun]
    refine ⟨fun c => ?_, nofun, s, rfl, fun c => ?_, fun c => ?_⟩
    · rw [order.nodup.count]
      exact if_congr (order.mem_iff c) rfl rfl
    · rw [hclosed]
      simpa using fun hc => hall' c hc
    · rw [hmem]
      exact (and_iff_left_of_imp (hall' c)).symm
  · refine iff_of_false ?_ fun hall => ?_
    · rintro ⟨-, -, s, hs, -⟩
      rw [hrun] at hs
      cases hs
    · have hmem : c ∈ w.members := by
        rw [← order.mem_iff, hsplit]
        exact List.mem_append_right _ List.mem_cons_self
      rw [hall c hmem] at hc
      cases hc

/-- **A client that waits when the front end shuts down.** -/
theorem idle_connection_unsound : ¬ ∀ (codec : BasicProtocolCodec) (messages : ClientMessageCodec)
    (sourceType : SourceConnectionType) (backendType : DestinationConnectionType) (w : TcpWorld),
    (frontEndMachine codec messages).Reaches (init sourceType backendType) w →
      w.ioPoint = .waiting → ∀ (order : SetOrder w.members) (reply : ClientPtr → ℕ → ServiceReply),
        w.TraversalSound (w.shutdownHandler order true (fun _ => true) reply) := by
  intro h
  obtain ⟨w, hrun, hobs⟩ := (frontEndMachine basicProtocolCodec clientMessageCodec).exec_observed
    (init .sourceRelay .targetMarshall) (sampleAccept 7)
    (fun w => (w.ioPoint, w.members, w.idle 7)) (a := (.waiting, {7}, true))
    (by decide +kernel) (by decide +kernel)
  simp only [Prod.mk.injEq] at hobs
  obtain ⟨hwait, hmem, hidle⟩ := hobs
  have order : SetOrder w.members :=
    { elems := [7], nodup := List.nodup_singleton 7, mem_iff := fun c => by simp [hmem] }
  have hsound := h _ _ _ _ w ⟨_, hrun⟩ hwait order fun _ _ => {}
  rcases shutdownHandler_cases order (fun _ => true) (fun _ _ => {}) with
    ⟨hall, -⟩ | ⟨pre, c, post, f, -, -, -, -, hend⟩
  · rw [hall 7 ((order.mem_iff 7).mpr (by simp [hmem]))] at hidle
    cases hidle
  · obtain ⟨s, hs, -⟩ := hsound.outcome
    rw [hend] at hs
    cases hs

end TcpWorld

end RblRpc
