import RblRpc.Tcp.MalformedBodies

/-!
# Requests to disconnect

`request_disconect` sets a flag that `invoke`, `handle_write_response` and
`handle_reset_for_next_request` do not look at.

* `PoolClear` — the invariant: no client with a request in the pool has been told to disconnect.
* `served_no_more` — a client that was told to disconnect is served no more in the runs in which
  the checks turn its requests down anyway, and it reads no response.
* `responseWritten_kept` — **a connection whose response was written stays.**
-/

namespace RblRpc

open Transition

/-- The client whose request the step dispatches to a service. -/
def TcpLabel.dispatches : TcpLabel → Option ClientPtr
  | .run c _ | .backEnd (.run c _) => some c
  | _ => none

/-- The client whose request the step checks. -/
def TcpLabel.checks : TcpLabel → Option ClientPtr
  | .check c | .backEnd (.check c) => some c
  | _ => none

/-- `request_disconect` was called for the client. -/
def World.toldOff (w : World) (c : ClientPtr) : Bool := (w.data c).shouldDisconect

/-- No client with a request in the pool has been told to disconnect. -/
def World.PoolClear (w : World) : Prop := ∀ c, w.inPool c → w.toldOff c = false

namespace World

variable {codec : BasicProtocolCodec} {w w' : World} {c : ClientPtr} {l : Label}

/-- A client with a request in the pool is disconnected by no manager. -/
theorem fire_invoker_inPool (hl : l.client ≠ some c) (hpool : w'.inPool c)
    (hg : w.enabled l = true) (hf : fire codec w l = .ok w') : w'.invokers c = w.invokers c := by
  refine (fire_elsewhere hl ?_ hf).1
  rintro reply rfl m hm p hp rfl
  simp only [enabled, Bool.and_eq_true] at hg
  have hidle : w.stage p.1 = .idle :=
    of_decide_eq_true (List.all_eq_true.mp (List.all_eq_true.mp hg.2 m hm) p hp)
  rw [inPool, signalStage_stage hf, hidle] at hpool
  rcases hpool with h | h <;> cases h

/-- **A step that admits no client that was told to disconnect** keeps such requests out of the
pool. -/
theorem PoolClear.step (h : w.PoolClear) (hg : w.enabled l = true)
    (hf : fire codec w l = .ok w')
    (hchecks : ∀ c, l = .check c → w.toldOff c = true → ¬ BackEnd.Admitted c w.backEnd (w.data c)) :
    w'.PoolClear := by
  intro c hpool
  by_cases hl : l.client = some c
  · have hstep := fire_stageStep_self hl hg hf
    change w'.stage c = .posted ∨ w'.stage c = .running at hpool
    generalize hs : w.stage c = s at hstep
    generalize hs' : w'.stage c = s' at hstep hpool
    cases hstep with
    | other _ hne => exact absurd hl hne
    | connect fresh =>
      cases hf
      cases fresh with
      | false => exact h c (by rw [inPool, hs]; exact hpool)
      | true =>
        have hidle : (w.connect c true).stage c = .idle := stage_setInvoker_self _
        rw [hidle] at hs'
        subst hs'
        rcases hpool with h | h <;> cases h
    | disconnect reply =>
      simp only [enabled, Bool.and_eq_true, decide_eq_true_eq] at hg
      rw [hg.2] at hs
      subst hs
      rcases hpool with h | h <;> cases h
    | post =>
      obtain ⟨b, i, hc, rfl⟩ := stepInvoker_ok.mp hf
      rw [stage_setInvoker_self] at hs'
      obtain ⟨cs, -, -, ⟨hst, -⟩ | ⟨hadm, -, rfl⟩⟩ := BackEnd.checkRequest_ok hc
      · cases hst.symm.trans hs'
      · rw [toldOff, data, setInvoker_self]
        exact Bool.eq_false_iff.mpr fun htold => hchecks c rfl htold hadm
    | take =>
      cases hf
      rw [toldOff, data, setInvoker_self]
      exact h c (.inl hs)
    | accept | refuse | reject | run | finishRejected | finishRan =>
      rcases hpool with h | h <;> cases h
  · have hsame := fire_invoker_inPool hl hpool hg hf
    rw [toldOff, data, hsame]
    refine h c ?_
    rw [inPool, stage, ← hsame]
    exact hpool

end World

namespace TcpWorld

/-- A client that was told to disconnect is served no more: no request of it is dispatched, and its
connection is disconnected when the response has been written. -/
structure ServedNoMore (codec : BasicProtocolCodec) (messages : ClientMessageCodec)
    (tr : List (TcpWorld × TcpLabel)) : Prop where
  dispatched : ∀ p ∈ tr, ∀ c, p.2.dispatches = some c → p.1.world.toldOff c = false
  disconnected : ∀ p ∈ tr, ∀ c, p.2 = .responseWritten c → p.1.world.toldOff c = true →
    ∀ w', p.1.fire codec messages p.2 = .ok w' → c ∉ w'.members

/-- Of a client that was told to disconnect the step does not check a request that passes all
checks, and does not complete the write of a response. -/
structure TurnsAway (p : TcpWorld × TcpLabel) : Prop where
  checks : ∀ c, p.2.checks = some c → p.1.world.toldOff c = true →
    ¬ BackEnd.Admitted c p.1.world.backEnd (p.1.world.data c)
  written : ∀ c, p.2 = .responseWritten c → p.1.world.toldOff c = false

variable {codec : BasicProtocolCodec} {messages : ClientMessageCodec} {w w' : TcpWorld}
  {c : ClientPtr} {l : TcpLabel}

theorem poolClear_step (h : w.world.PoolClear) (hd : w.Disciplined)
    (hchecks : ∀ c, l.checks = some c → w.world.toldOff c = true →
      ¬ BackEnd.Admitted c w.world.backEnd (w.world.data c))
    (hg : w.enabled l = true) (hf : w.fire codec messages l = .ok w') : w'.world.PoolClear := by
  rcases fire_performs hd hg hf with hsame | ⟨b, hdoes, hgb, hfb⟩
  · rwa [hsame]
  · refine h.step hgb hfb ?_
    rintro c rfl
    refine hchecks c ?_
    cases hdoes <;> rfl

/-- A dispatch is one of a request in the pool. -/
theorem dispatches_inPool (hg : w.enabled l = true) (hl : l.dispatches = some c) :
    w.world.inPool c := by
  cases l with
  | run c' reply =>
    cases hl
    simp only [enabled, Bool.and_eq_true] at hg
    exact .inr (of_decide_eq_true hg.2)
  | backEnd b =>
    cases b with
    | run c' reply =>
      cases hl
      simp only [enabled, Bool.and_eq_true] at hg
      exact .inr (of_decide_eq_true hg.2)
    | _ => cases hl
  | _ => cases hl

/-- **A connection whose response was written stays**, whatever its client was told. -/
theorem responseWritten_kept (h : w.Disciplined) (hg : w.enabled (.responseWritten c) = true)
    (hf : w.fire codec messages (.responseWritten c) = .ok w') : c ∈ w'.members := by
  obtain ⟨q, hq⟩ := h.placed c
  obtain ⟨q', hstep, hq', -⟩ := fire_phaseStep h hq hg hf
  cases hstep with
  | other _ hne => exact absurd rfl hne
  | responseWritten =>
    obtain ⟨k, hk, rfl⟩ := onConnection_ok.mp hf
    rw [mem_store, if_pos rfl, Connection.handleResetForNextRequest_ok hk]
    exact decide_eq_true (hq.member (h.sane c) (by decide)).2

/-- **Served no more.**  In every run of a front end in which the checks of `invoke` turn down what
the clients ask that were told to disconnect, and in which no response of theirs is written, they
are served no more. -/
theorem served_no_more (codec : BasicProtocolCodec) (messages : ClientMessageCodec)
    (sourceType : SourceConnectionType) (backendType : DestinationConnectionType)
    {tr : List (TcpWorld × TcpLabel)} {r : Except FrontEndFault TcpWorld}
    (hrun : (frontEndMachine codec messages).Run (init sourceType backendType) tr r)
    (haway : ∀ p ∈ tr, TurnsAway p) : ServedNoMore codec messages tr := by
  have hinv := hrun.invariant (I := fun w => w.Disciplined ∧ w.world.PoolClear)
    (C := fun w l => TurnsAway (w, l))
    (fun _ _ _ hI hC hg hf => ⟨hI.1.step hg hf, poolClear_step hI.2 hI.1 hC.checks hg hf⟩)
    ⟨init_disciplined _ _, fun c hpool => by rcases hpool with h | h <;> cases h⟩ haway
  refine ⟨fun p hp c hl => ?_, fun p hp c hl htold => ?_⟩
  · exact (hinv.1 p hp).2 c (dispatches_inPool (hrun.guard p hp) hl)
  · rw [(haway p hp).written c hl] at htold
    cases htold

/-- The hello of a client that expects another target. -/
def sampleMismatch : Bytes :=
  clientMessageCodec.serializeRequest ⟨0, 0, (basicProtocolCodec.helloRequest.serializeToString
    ⟨.sourceRelay, .targetRelay, ascii "node"⟩).getD []⟩

/-- A request is posted, dispatched and answered. -/
def sampleServe (c : ClientPtr) (body : Bytes) : List TcpLabel :=
  sampleFrames c body ++ [.check c, .take c, .run c {}, .endRan c, .answerRan c fun _ => 0]

/-- A client that was told to disconnect asks for services that there are not only, and no response
is written. -/
def sparesToldOff (w : TcpWorld) : TcpLabel → Bool
  | .check c | .backEnd (.check c) => !w.world.toldOff c ||
    (w.world.backEnd.serviceAt
      (w.world.data c).request.serviceOrdinal.toUInt16).join.isNone
  | .responseWritten _ => false
  | _ => true

/-- Two clients are told to disconnect.  One closes its socket; the other, which is in the process
of the back end, asks for a service that there is not. -/
def sampleToldOff : List TcpLabel :=
  let inProcess : List Label := [.connect 8 true] ++
    serve 8 ⟨0, 0, (basicProtocolCodec.helloRequest.serializeToString
      ⟨.sourceRelay, .targetRelay, ascii "node"⟩).getD []⟩ {} ++
    [.request 8 true { serviceOrdinal := 3 }, .check 8, .finish 8]
  sampleAccept 7 ++ sampleServe 7 sampleMismatch ++ [.failed 7 fun _ => {}] ++
    inProcess.map .backEnd

theorem served_no_more_sample : ∃ (tr : List (TcpWorld × TcpLabel)) (w : TcpWorld),
    w.world.toldOff 7 = true ∧ (∃ p ∈ tr, p.2.checks = some 8 ∧ p.1.world.toldOff 8 = true) ∧
      ServedNoMore basicProtocolCodec clientMessageCodec tr := by
  obtain ⟨w, hrun, hobs⟩ := (frontEndMachine basicProtocolCodec clientMessageCodec).exec_observed
    (init .sourceRelay .targetMarshall) sampleToldOff (fun w => w.world.toldOff 7) (a := true)
    (by decide +kernel) (by decide +kernel)
  have hall : ((frontEndMachine basicProtocolCodec clientMessageCodec).exec
      (init .sourceRelay .targetMarshall) sampleToldOff).1.all
        (fun p => sparesToldOff p.1 p.2) = true := by
    decide +kernel
  have hlater : ((frontEndMachine basicProtocolCodec clientMessageCodec).exec
      (init .sourceRelay .targetMarshall) sampleToldOff).1.any
        (fun p => p.2.checks = some 8 && p.1.world.toldOff 8) = true := by
    decide +kernel
  obtain ⟨p, hp, hchecked⟩ := List.any_eq_true.mp hlater
  rw [Bool.and_eq_true, decide_eq_true_eq] at hchecked
  refine ⟨_, w, hobs, ⟨p, hp, hchecked⟩, served_no_more _ _ _ _ hrun fun p hp => ?_⟩
  have hp' := List.all_eq_true.mp hall p hp
  obtain ⟨v, l⟩ := p
  have hturned : ∀ c, l.checks = some c → sparesToldOff v l = (!v.world.toldOff c ||
      (v.world.backEnd.serviceAt
        (v.world.data c).request.serviceOrdinal.toUInt16).join.isNone) := by
    intro c hl
    cases l with
    | check c' =>
      cases hl
      rfl
    | backEnd b =>
      cases b with
      | check c' =>
        cases hl
        rfl
      | _ => cases hl
    | _ => cases hl
  refine ⟨fun c hl htold hadm => ?_, fun c hl => ?_⟩
  · obtain ⟨s, hs, -⟩ := hadm.service
    dsimp only at hl htold hs hp'
    rw [hturned c hl, htold, hs] at hp'
    cases hp'
  · dsimp only at hl
    subst hl
    cases hp'

/-- **A client that was told to disconnect** is served again. -/
theorem told_off_served : ¬ ∀ (codec : BasicProtocolCodec) (messages : ClientMessageCodec)
    (sourceType : SourceConnectionType) (backendType : DestinationConnectionType)
    (tr : List (TcpWorld × TcpLabel)) (r : Except FrontEndFault TcpWorld),
    (frontEndMachine codec messages).Run (init sourceType backendType) tr r →
      ServedNoMore codec messages tr := by
  intro h
  let labels := sampleAccept 7 ++ sampleServe 7 sampleMismatch ++
    [.responseWritten 7] ++ sampleServe 7 sampleHelloBody
  obtain ⟨w, hrun, -⟩ := (frontEndMachine basicProtocolCodec clientMessageCodec).exec_observed
    (init .sourceRelay .targetMarshall) labels (fun w => (w.world.data 7).clientEstablished)
    (a := true) (by decide +kernel) (by decide +kernel)
  have hserved : ((frontEndMachine basicProtocolCodec clientMessageCodec).exec
      (init .sourceRelay .targetMarshall) labels).1.any
        (fun p => p.2.dispatches = some 7 && p.1.world.toldOff 7) = true := by
    decide +kernel
  obtain ⟨p, hp, hdispatch⟩ := List.any_eq_true.mp hserved
  simp only [Bool.and_eq_true, decide_eq_true_eq] at hdispatch
  have hnot := (h _ _ _ _ _ _ hrun).dispatched p hp 7 hdispatch.1
  rw [hdispatch.2] at hnot
  cases hnot

end TcpWorld

end RblRpc
