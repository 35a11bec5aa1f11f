import RblRpc.Backend.Establishment
import RblRpc.Backend.Teardown
import RblRpc.Lib.Pairing
import RblRpc.Tcp.Discipline

/-!
# Requests and responses of a connection

The history of a connection is read off a run: the bodies that were read, the calls of
`handle_write_response`, and the writes that completed.

* `exchange`, `completions` — bodies and responses, bodies and completed writes.
* `exchanged_step`, `completed_step` — **a step opens a request where none is open, closes the one
  that is, or leaves it as it is.**
* `distance` — how many steps a request is from its response; `distance_le` — no step takes it back.
* `disconnects_idle` — `disconnect_client` is applied to idle connections only.
-/

namespace RblRpc

open Transition Pairing

namespace World

variable {codec : BasicProtocolCodec} {w w' : World} {c : ClientPtr} {l : Label}

/-- Only a new request changes the request in the client data. -/
theorem fire_request_kept (hl : l.client = some c) (hnew : l.renews = false)
    (hf : fire codec w l = .ok w') : (w'.data c).request = (w.data c).request := by
  cases l <;> cases hl
  case connect => cases hnew
  case request => cases hnew
  case disconnect reply =>
    obtain ⟨b, cd, hd, rfl⟩ := disconnect_ok hf
    rw [data, setInvoker_self]
    exact (BackEnd.disconnect_ok hd).2.1.request
  case check =>
    obtain ⟨b, i, hc, rfl⟩ := stepInvoker_ok.mp hf
    rw [data, setInvoker_self]
    obtain ⟨cs, -, -, ⟨-, -, hcd, -⟩ | ⟨-, -, rfl⟩⟩ := BackEnd.checkRequest_ok hc
    · exact hcd.request
    · rfl
  case take =>
    cases hf
    rw [data, setInvoker_self]
    rfl
  case run reply =>
    obtain ⟨b, i, hr, rfl⟩ := stepInvoker_ok.mp hf
    obtain ⟨s, cd, -, rfl, -, hcd, -⟩ := BackEnd.runPosted_ok hr
    rw [data, setInvoker_self]
    exact hcd.request
  case finish =>
    obtain ⟨-, rfl⟩ := finish_ok hf
    rw [data, setInvoker_self]

end World

/-- The request of the phase has no response yet. -/
def Phase.unanswered (p : Phase) : Bool := p.ioState = .requestDispatchedActive

/-- How many steps the phase is from `handle_write_response`. -/
def Phase.distance : Phase → ℕ
  | accepted => 5
  | posted => 4
  | running => 3
  | rejected | ran => 2
  | refused | poolAnswering => 1
  | _ => 0

namespace TcpWorld

/-- The body of a request was read, and its response was not started. -/
def unanswered (w : TcpWorld) (c : ClientPtr) : Bool :=
  (w.connections c).alive && (w.connections c).ioState = .requestDispatchedActive

/-- The response of the connection is being written. -/
def writes (w : TcpWorld) (c : ClientPtr) : Bool :=
  match (w.connections c).operation with
  | some (.writeResponse _) => true
  | _ => false

/-- The body of a request was read, and its response was not written. -/
def outstanding (w : TcpWorld) (c : ClientPtr) : Bool := w.unanswered c || w.writes c

/-- The request the connection is at, if `b`. -/
def slot (w : TcpWorld) (c : ClientPtr) (b : Bool) : Option ClientRequest :=
  if b then some (w.world.data c).request else none

/-- The request in a body. -/
def parsed (messages : ClientMessageCodec) (c : ClientPtr) (body : Bytes) (w : TcpWorld) :
    ClientRequest :=
  (((w.view c).receive body).beginReadBody messages body.length).1

/-- A body is read, or `handle_write_response` is called: in `handle_read_body` or in
`operator()`. -/
def exchanged (messages : ClientMessageCodec) (c : ClientPtr) :
    TcpWorld × TcpLabel → Option (Event ClientRequest)
  | (w, .bodyRead c' body) => if c' = c then some (.opened (w.parsed messages c body)) else none
  | (w, .answerRejected c' _) | (w, .answerRan c' _) =>
    if c' = c then some (.closed (w.world.data c).request) else none
  | _ => none

/-- A body is read, or the write of a response completes. -/
def completed (messages : ClientMessageCodec) (c : ClientPtr) :
    TcpWorld × TcpLabel → Option (Event ClientRequest)
  | (w, .bodyRead c' body) => if c' = c then some (.opened (w.parsed messages c body)) else none
  | (w, .responseWritten c') | (w, .failed c' _) =>
    if c' = c ∧ w.writes c = true then some (.closed (w.world.data c).request) else none
  | _ => none

/-- The bodies and responses of a run. -/
def exchange (messages : ClientMessageCodec) (c : ClientPtr) (tr : List (TcpWorld × TcpLabel)) :
    List (Event ClientRequest) := tr.filterMap (exchanged messages c)

/-- The bodies and completed writes of a run. -/
def completions (messages : ClientMessageCodec) (c : ClientPtr)
    (tr : List (TcpWorld × TcpLabel)) : List (Event ClientRequest) :=
  tr.filterMap (completed messages c)

/-- How many steps the request of `c` is from `handle_write_response`. -/
def distance (w : TcpWorld) (c : ClientPtr) : ℕ :=
  if (w.connections c).alive then
    match w.world.stage c with
    | .accepted => 5
    | .posted => 4
    | .running => 3
    | .rejected | .ran => 2
    | .idle =>
      if (w.connections c).poolAnswers || w.ioPoint.taskOf c = some .answering then 1 else 0
  else 0

/-- The connection `disconnect_client` is applied to. -/
def disconnects (w : TcpWorld) : TcpLabel → Option ClientPtr
  | .headerRead c _ _ _ _ => if w.frontEnd.shutdownInitiated then some c else none
  | .sweep c _ _ =>
    if (w.connections c).ioState = .readHeaderWaitRequestStartInactive then some c else none
  | _ => none

variable {codec : BasicProtocolCodec} {messages : ClientMessageCodec} {w w' : TcpWorld}
  {c : ClientPtr} {q : Option Phase} {l : TcpLabel}

theorem At.unanswered (hq : w.At c q) : w.unanswered c = q.any Phase.unanswered := by
  cases q with
  | none => rw [TcpWorld.unanswered, hq.alive]; rfl
  | some p => rw [TcpWorld.unanswered, hq.alive, hq.ioState]; rfl

theorem At.distance (hq : w.At c q) : w.distance c = q.elim 0 Phase.distance := by
  cases q with
  | none => rw [TcpWorld.distance, hq.alive]; rfl
  | some p =>
    rw [TcpWorld.distance, hq.alive, hq.stage, hq.poolAnswers, hq.task]
    cases p <;> rfl

/-- Only a phase that writes a response has its write in flight. -/
theorem At.writes (hq : w.At c q) (h : w.writes c = true) :
    q = some .answered ∨ q = some .writing := by
  unfold TcpWorld.writes at h
  split at h
  · rename_i n hop
    rcases hq.of_operation hop with ⟨-, hne⟩ | ⟨p, rfl, hp⟩
    · cases hne
    · cases p <;> first | exact .inl rfl | exact .inr rfl | cases hp
  · cases h

/-- **Only `handle_read_body` changes the request** of a live connection. -/
theorem request_kept (h : w.Disciplined) (hg : w.enabled l = true)
    (hf : w.fire codec messages l = .ok w') (ha : (w.connections c).alive = true)
    (hl : l.connection = some c → l.renews = false) :
    (w'.world.data c).request = (w.world.data c).request := by
  have hstep := fire_backEndStep h hg hf
  by_cases hc : l.connection = some c
  · cases hstep with
    | none heq => rw [heq]
    | @client b c' hl' hb hnew hgw hfw =>
      have hcc : c' = c := Option.some.inj (hl'.symm.trans hc)
      subst hcc
      exact World.fire_request_kept hb (hnew.trans (hl hc)) hfw
    | @other b hl' _ _ =>
      subst hl'
      cases hc
  · rw [World.data, (hstep.elsewhere hc hg (unused_of_alive ha)).1]
    rfl

/-- `handle_read_body` leaves the request it parsed in the client data. -/
theorem bodyRead_request {body : Bytes} (hf : w.bodyRead messages c body = .ok w') :
    (w'.world.data c).request = w.parsed messages c body := by
  obtain ⟨request, k, v, hk, hv, rfl⟩ := bodyRead_ok hf
  obtain ⟨b, i, rfl, hreq, -⟩ := World.request_ok hv
  rw [parsed, hk]
  show ((World.setInvoker c i _).invokers c).clientData.request = request
  rw [World.setInvoker_self]
  exact hreq

theorem slot_kept {b : Bool}
    (h : b = true → (w'.world.data c).request = (w.world.data c).request) :
    w'.slot c b = w.slot c b := by
  cases b with
  | false => rfl
  | true => rw [slot, slot, h rfl]

theorem exchanged_other (h : l.connection ≠ some c) : exchanged messages c (w, l) = none := by
  cases l <;> first | rfl | exact if_neg fun heq => h (congrArg some heq)

theorem completed_other (h : l.connection ≠ some c) : completed messages c (w, l) = none := by
  cases l <;> first
    | rfl
    | exact if_neg fun heq => h (congrArg some heq)
    | exact if_neg fun heq => h (congrArg some heq.1)

/-- What a step does to a slot that it neither opens nor closes. -/
theorem paired_kept {b b' : Bool} {e : Option (Event ClientRequest)} (he : e = none) (hb : b' = b)
    (hreq : b = true → (w'.world.data c).request = (w.world.data c).request) :
    Paired (w.slot c b) e.toList (w'.slot c b') := by
  rw [he, hb, slot_kept hreq]
  exact .nil _

/-- **A step** reads a body where no request is unanswered, answers the unanswered request, or
leaves it as it is. -/
theorem exchanged_step (h : w.Disciplined) (hg : w.enabled l = true)
    (hf : w.fire codec messages l = .ok w') :
    Paired (w.slot c (w.unanswered c)) (exchanged messages c (w, l)).toList
      (w'.slot c (w'.unanswered c)) := by
  obtain ⟨q, hq⟩ := h.placed c
  obtain ⟨q', hstep, hq', -⟩ := fire_phaseStep h hq hg hf
  rw [hq.unanswered, hq'.unanswered]
  have hkept : (l.connection = some c → l.renews = false) → q.any Phase.unanswered = true →
      (w'.world.data c).request = (w.world.data c).request := by
    intro hl hun
    cases q with
    | none => cases hun
    | some p => exact request_kept h hg hf hq.alive hl
  cases hstep with
  | other _ hl => exact paired_kept (exchanged_other hl) rfl (hkept fun hc => absurd hc hl)
  | bodyAccepted body | bodyRefused body =>
    rw [exchanged, if_pos rfl, ← bodyRead_request hf]
    exact .opened (.nil _)
  | answerRejected fresh | answerRan fresh =>
    rw [exchanged, if_pos rfl]
    exact .closed (.nil _)
  | accept | headerRead | headerClosed | responseWritten | failedClosed | failedAbsent
  | sweepClosed | uncount =>
    exact paired_kept rfl rfl fun hun => by cases hun
  | reject | post | endRejected | take | run | endRan | failed | sweep =>
    exact paired_kept rfl rfl (hkept fun _ => rfl)

theorem At.outstanding (hq : w.At c q) (h₁ : q ≠ some .answered) (h₂ : q ≠ some .writing) :
    w.outstanding c = q.any Phase.unanswered := by
  have hwrites : w.writes c = false := by
    rw [Bool.eq_false_iff]
    intro hw
    rcases hq.writes hw with h | h
    · exact h₁ h
    · exact h₂ h
  rw [TcpWorld.outstanding, hq.unanswered, hwrites, Bool.or_false]

theorem writes_congr (h : (w'.connections c).operation = (w.connections c).operation) :
    w'.writes c = w.writes c := by
  rw [writes, h]
  rfl

/-- `handle_write_response` starts the write. -/
theorem writeResponse_writes {fresh : ℕ → UInt8}
    (hf : w.onConnection c (Connection.handleWriteResponse messages fresh) = .ok w') :
    w'.writes c = true := by
  obtain ⟨k, hk, rfl⟩ := onConnection_ok.mp hf
  obtain ⟨-, -, -, n, hop⟩ := Connection.handleWriteResponse_ok hk
  rw [writes, store_connections_self, hop]

theorem uncount_operation (hf : w.uncount c = .ok w') :
    (w'.connections c).operation = (w.connections c).operation := by
  obtain ⟨w₁, h₁, hret⟩ := bind_eq_ok.mp hf
  obtain ⟨k, hk, rfl⟩ := onConnection_ok.mp h₁
  cases hret
  cases hk
  show ((w.store c _).connections c).operation = _
  rw [store_connections_self]
  rfl

/-- The destructor changes nothing of the connection but that it is alive. -/
theorem release_connection {reply : ℕ → ServiceReply} (hf : w.release c reply = .ok w') :
    ∃ a, w'.connections c = { w.connections c with alive := a } := by
  rcases release_ok hf with ⟨-, -, -, v, -, rfl⟩ | ⟨-, rfl⟩
  · exact ⟨false, modify_connections_self _⟩
  · exact ⟨_, rfl⟩

theorem release_operation {reply : ℕ → ServiceReply} (hf : w.release c reply = .ok w') :
    (w'.connections c).operation = (w.connections c).operation := by
  obtain ⟨a, ha⟩ := release_connection hf
  rw [ha]

/-- Nor does the loop of `shutdown_handler`. -/
theorem sweep_connection {closes : Bool} {reply : ℕ → ServiceReply}
    (hg : w.enabled (.sweep c closes reply) = true) (hf : w.sweep c closes reply = .ok w') :
    ∃ a, w'.connections c = { w.connections c with alive := a } := by
  obtain ⟨left, hat, -⟩ := sweep_enabled hg
  simp only [sweep, hat] at hf
  split at hf
  · obtain ⟨w₁, h₁, h₂⟩ := bind_eq_ok.mp hf
    obtain ⟨k, hk, rfl⟩ := onConnection_ok.mp h₁
    obtain ⟨-, rfl⟩ := Connection.disconnectClient_ok_connected hk
    obtain ⟨a, ha⟩ := release_connection h₂
    rw [store_connections_self] at ha
    exact ⟨a, ha⟩
  · cases hf
    exact ⟨_, rfl⟩

theorem sweep_operation {closes : Bool} {reply : ℕ → ServiceReply}
    (hg : w.enabled (.sweep c closes reply) = true) (hf : w.sweep c closes reply = .ok w') :
    (w'.connections c).operation = (w.connections c).operation := by
  obtain ⟨a, ha⟩ := sweep_connection hg hf
  rw [ha]

theorem failed_operation {reply : ℕ → ServiceReply} (hf : w.failed c reply = .ok w') :
    (w'.connections c).operation = none := by
  rw [release_operation hf, modify_connections_self, modify_connections_self]

/-- **A step** reads a body where no request is outstanding, completes the write of the one that
is, or leaves it as it is. -/
theorem completed_step (h : w.Disciplined) (hg : w.enabled l = true)
    (hf : w.fire codec messages l = .ok w') :
    Paired (w.slot c (w.outstanding c)) (completed messages c (w, l)).toList
      (w'.slot c (w'.outstanding c)) := by
  obtain ⟨q, hq⟩ := h.placed c
  obtain ⟨q', hstep, hq', -⟩ := fire_phaseStep h hq hg hf
  have hkept : (l.connection = some c → l.renews = false) → q ≠ none →
      (w'.world.data c).request = (w.world.data c).request := by
    intro hl hne
    cases q with
    | none => exact absurd rfl hne
    | some p => exact request_kept h hg hf hq.alive hl
  have hcongr : w'.writes c = w.writes c → q'.any Phase.unanswered = q.any Phase.unanswered →
      w'.outstanding c = w.outstanding c := by
    intro hw hun
    rw [outstanding, outstanding, hq.unanswered, hq'.unanswered, hw, hun]
  cases hstep with
  | other _ hl =>
    have hsame := fire_sameConnection hl hg hf
    refine paired_kept (completed_other hl)
      (hcongr (writes_congr (by rw [hsame.connection])) rfl) fun hout => ?_
    refine hkept (fun hc => absurd hc hl) ?_
    rintro rfl
    rw [hq.outstanding nofun nofun] at hout
    cases hout
  | bodyAccepted body | bodyRefused body =>
    rw [hq.outstanding (by decide) (by decide), hq'.outstanding (by decide) (by decide), completed,
      if_pos rfl, ← bodyRead_request hf]
    exact .opened (.nil _)
  | accept | headerRead | headerClosed | sweepClosed =>
    rw [hq.outstanding (by decide) (by decide), hq'.outstanding (by decide) (by decide)]
    exact paired_kept rfl rfl fun hun => by cases hun
  | reject | post | endRejected | take | run | endRan =>
    rw [hq.outstanding (by decide) (by decide), hq'.outstanding (by decide) (by decide)]
    exact paired_kept rfl rfl fun _ => hkept (fun _ => rfl) nofun
  | answerRejected fresh | answerRan fresh =>
    obtain ⟨w₁, h₁, hret⟩ := bind_eq_ok.mp hf
    have hw : w'.writes c = true := by
      rw [← writeResponse_writes h₁]
      cases hret
      apply writes_congr
      first | rfl | rw [modify_connections_self]
    rw [hq.outstanding (by decide) (by decide), outstanding, hw, Bool.or_true]
    exact paired_kept rfl rfl fun _ => hkept (fun _ => rfl) nofun
  | uncount =>
    exact paired_kept rfl (hcongr (writes_congr (uncount_operation hf)) rfl) fun _ =>
      hkept (fun _ => rfl) nofun
  | sweep closes reply =>
    refine paired_kept rfl (hcongr (writes_congr (sweep_operation hg hf)) rfl) fun hout =>
      hkept (fun _ => rfl) ?_
    rintro rfl
    rw [hq.outstanding nofun nofun] at hout
    cases hout
  | responseWritten =>
    have hw : w.writes c = true := by
      simp only [enabled, Bool.and_eq_true] at hg
      exact hg.2
    rw [hq'.outstanding (by decide) (by decide), outstanding, hw, Bool.or_true, completed,
      if_pos ⟨rfl, hw⟩]
    exact .closed (.nil _)
  | @failed reply op p hcarries htask =>
    have hun : (some p).any Phase.unanswered = false := by
      cases p <;> cases op <;> first | rfl | cases hcarries
    have hw' : w'.writes c = false := by rw [writes, failed_operation hf]
    rw [outstanding, outstanding, hq.unanswered, hq'.unanswered, hun, hw']
    cases hw : w.writes c with
    | true =>
      rw [completed, if_pos ⟨rfl, hw⟩]
      exact .closed (.nil _)
    | false =>
      refine paired_kept (if_neg ?_) rfl fun hf => by cases hf
      rintro ⟨-, hw'⟩
      rw [hw] at hw'
      cases hw'
  | failedClosed reply | failedAbsent reply =>
    have hw : w.writes c = false := by
      rw [Bool.eq_false_iff]
      intro hw
      rcases hq.writes hw with heq | heq <;> cases heq
    rw [hq.outstanding (by decide) (by decide), hq'.outstanding (by decide) (by decide)]
    refine paired_kept (if_neg ?_) rfl fun hun => by cases hun
    rintro ⟨-, hw'⟩
    rw [hw] at hw'
    cases hw'

/-! ## How far a request is from its response -/

theorem At.distance_pos (hq : w.At c q) : 0 < w.distance c ↔ w.unanswered c = true := by
  rw [hq.distance, hq.unanswered]
  cases q with
  | none => exact ⟨fun h => absurd h (lt_irrefl 0), fun h => by cases h⟩
  | some p => cases p <;> decide

theorem distance_le {q' : Option Phase} (h : PhaseStep c l q q')
    (hun : q.any Phase.unanswered = true) :
    q'.elim 0 Phase.distance ≤ q.elim 0 Phase.distance := by
  cases h <;> first | exact le_refl _ | (cases hun; done) | decide

theorem taskOf_eq_some {p : IoPoint} {t : IoTask} (h : p.taskOf c = some t) :
    p = .reading c t := by
  unfold IoPoint.taskOf at h
  split at h
  · split at h
    · rename_i heq
      rw [heq, Option.some.inj h]
    · cases h
  · cases h

/-- `disconnect_client` is applied where the next header is read. -/
theorem disconnects_idle (h : w.Disciplined) (hg : w.enabled l = true)
    (hd : w.disconnects l = some c) :
    (w.connections c).ioState = .readHeaderWaitRequestStartInactive := by
  cases l with
  | headerRead c' header fresh closes reply =>
    simp only [enabled, Bool.and_eq_true, decide_eq_true_eq] at hg
    simp only [disconnects] at hd
    split at hd <;> cases hd
    obtain ⟨q, hq⟩ := h.placed c
    rcases hq.of_operation hg.1.2 with ⟨rfl, -⟩ | ⟨p, rfl, hp⟩
    · exact hq.ioState
    · cases p <;> cases hp
      exact hq.ioState
  | sweep c' closes reply =>
    simp only [disconnects] at hd
    split at hd <;> cases hd
    assumption
  | _ => cases hd

/-- The pool is started, and a client connects over TCP. -/
def sampleAccept (c : ClientPtr) : List TcpLabel :=
  [.backEnd (.poolSize 1), .backEnd .start, .accept c fun _ => 0]

/-- A client sends the frame of a body. -/
def sampleFrames (c : ClientPtr) (body : Bytes) : List TcpLabel :=
  [.headerRead c ([0, 0, 0, 0] ++ LittleEndian.le32 (UInt32.ofNat (8 + body.length))) (fun _ => 0)
    true fun _ => {}, .bodyRead c body]

/-- The frame of a hello. -/
def sampleHelloBody : Bytes :=
  clientMessageCodec.serializeRequest ⟨0, 0, World.sampleHello⟩

end TcpWorld

end RblRpc
