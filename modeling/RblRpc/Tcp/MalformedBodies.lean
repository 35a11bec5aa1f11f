import RblRpc.Tcp.Exchange

/-!
# Bodies that do not parse

`handle_read_body` does not look at what `ParseFromArray` returns.

* `ReadFits` — what is read into the buffer is the body.
* `body_invoked` — **every body is handed to `invoke`**, with whatever was parsed of it.
* `malformed_executed` — no body that does not parse is kept from being executed.
-/

namespace RblRpc

open Transition

/-- The connection whose `handle_write_response` the step calls. -/
def TcpLabel.answers : TcpLabel → Option ClientPtr
  | .answerRejected c _ | .answerRan c _ => some c
  | _ => none

/-- The connection whose body the step reads. -/
def TcpLabel.reads : TcpLabel → Option ClientPtr
  | .bodyRead c _ => some c
  | _ => none

namespace TcpWorld

/-- A body that is being read fits in the buffer. -/
def ReadFits (w : TcpWorld) : Prop :=
  ∀ c n, (w.connections c).operation = some (.readBody n) → n ≤ (w.connections c).buffer.size

/-- `invoke` was called for `c` with `request`; the io thread is within it or back from it. -/
structure Invoked (c : ClientPtr) (request : ClientRequest) (w w' : TcpWorld) : Prop where
  begun : World.request c false request w.world = .ok w'.world
  ioThread : w'.ioPoint = .reading c .invoking ∨ w'.ioPoint = .reading c .answering

/-- The steps of a trace before the next body of `c` is read. -/
def beforeNextBody (c : ClientPtr) (tr : List (TcpWorld × TcpLabel)) :
    List (TcpWorld × TcpLabel) := tr.takeWhile fun p => p.2.reads ≠ some c

/-- A body of `c` that is read in `w` is not executed: it is not handed to `invoke`; and in what
comes `after`, up to the next body, no service function runs, what `hello` changes stays, and no
response reports success. -/
structure NotExecuted (codec : BasicProtocolCodec) (messages : ClientMessageCodec) (c : ClientPtr)
    (body : Bytes) (w : TcpWorld) (after : List (TcpWorld × TcpLabel)) : Prop where
  invoked : ∀ w', w.fire codec messages (.bodyRead c body) = .ok w' →
    ¬ Invoked c (messages.parseRequest body).2 w w'
  run : ∀ p ∈ beforeNextBody c after, ∀ reply, p.2 ≠ .run c reply
  hello : ∀ p ∈ beforeNextBody c after,
    (p.1.world.data c).shouldDisconect = (w.world.data c).shouldDisconect ∧
      (p.1.world.data c).clientEstablished = (w.world.data c).clientEstablished
  answers : ∀ p ∈ beforeNextBody c after, p.2.answers = some c →
    (p.1.world.data c).response.error ≠ some .requestSuccess

variable {codec : BasicProtocolCodec} {messages : ClientMessageCodec} {w w' : TcpWorld}
  {c : ClientPtr} {l : TcpLabel}

/-! ## What is parsed -/

theorem headerRead_fits {header : Bytes} {fresh : ℕ → UInt8} {closes : Bool}
    {reply : ℕ → ServiceReply} (hf : w.headerRead c header fresh closes reply = .ok w') {n : ℕ}
    (hop : (w'.connections c).operation = some (.readBody n)) :
    n ≤ (w'.connections c).buffer.size := by
  obtain ⟨w₁, h₁, h₂⟩ := bind_eq_ok.mp hf
  obtain ⟨k, hk, rfl⟩ := onConnection_ok.mp h₁
  obtain ⟨a, ha⟩ := release_connection h₂
  rw [modify_connections_self, store_connections_self] at ha
  rw [ha] at hop ⊢
  unfold Connection.handleReadHeader at hk
  split at hk
  · rw [Connection.disconnectClient_ok hk] at hop
    cases hop
  · obtain ⟨hle, rfl⟩ := Connection.startIo_eq_ok.mp hk
    cases hop
    exact hle

theorem ReadFits.step (hw : w.ReadFits) (h : w.Disciplined) (hg : w.enabled l = true)
    (hf : w.fire codec messages l = .ok w') : w'.ReadFits := by
  intro c n hop
  obtain ⟨q, hq⟩ := h.placed c
  obtain ⟨q', hstep, hq', -⟩ := fire_phaseStep h hq hg hf
  cases hstep with
  | other _ hne =>
    have hsame := fire_sameConnection hne hg hf
    rw [hsame.connection] at hop ⊢
    exact hw c n hop
  | headerRead header fresh closes reply | headerClosed header fresh closes reply =>
    exact headerRead_fits hf hop
  | failed reply | failedClosed reply | failedAbsent reply =>
    rw [failed_operation hf] at hop
    cases hop
  | sweep closes reply =>
    obtain ⟨a, ha⟩ := sweep_connection hg hf
    rw [ha] at hop ⊢
    exact hw c n hop
  | _ => cases hq'.operation _ hop

/-- **What is parsed is the body.** -/
theorem parsed_eq {body : Bytes} (hw : w.ReadFits) (hg : w.enabled (.bodyRead c body) = true) :
    w.parsed messages c body = (messages.parseRequest body).2 := by
  simp only [enabled, Bool.and_eq_true, decide_eq_true_eq] at hg
  have hinput : ((w.view c).receive body).parseInput body.length = body :=
    Buffer.take_write (hw c _ hg.2)
  rw [parsed, Connection.beginReadBody, hinput]

/-- **Every body is handed to `invoke`.** -/
theorem body_invoked (codec : BasicProtocolCodec) {body : Bytes} (hw : w.ReadFits)
    (h : w.Disciplined) (hg : w.enabled (.bodyRead c body) = true) :
    ∃ w', w.fire codec messages (.bodyRead c body) = .ok w' ∧
      Invoked c (messages.parseRequest body).2 w w' := by
  have hparsed : w.parsed messages c body = _ := parsed_eq hw hg
  simp only [enabled, Bool.and_eq_true, decide_eq_true_eq] at hg
  have hrequest : w.world.enabled (.request c false (w.parsed messages c body)) = true := by
    obtain ⟨_ | p, hq⟩ := h.placed c
    · cases hq.operation _ hg.2
    · simp only [World.enabled, h.idle_of_operation hq.alive hg.2,
        (h.sane c).connected hq.alive, decide_true, Bool.and_self]
  obtain ⟨v, hv⟩ := h.accounted.request_total codec hrequest
  have hv : World.request c false (w.parsed messages c body) w.world = .ok v := hv
  have hstored : (w.store c (((w.view c).receive body).beginReadBody messages body.length).2).onWorld
      (World.request c false (w.parsed messages c body)) = .ok
        { w.store c (((w.view c).receive body).beginReadBody messages body.length).2 with
          world := v } := onWorld_ok.mpr ⟨v, hv, rfl⟩
  refine ⟨_, bind_eq_ok.mpr ⟨_, hstored, rfl⟩, ?_, ?_⟩
  · rw [← hparsed]
    exact hv
  · dsimp only [goto]
    split
    · exact .inl rfl
    · exact .inr rfl

/-! ## The theorem -/

theorem readFits_reaches {sourceType : SourceConnectionType}
    {backendType : DestinationConnectionType}
    (h : (frontEndMachine codec messages).Reaches (init sourceType backendType) w) :
    w.Disciplined ∧ w.ReadFits :=
  h.invariant (I := fun w => w.Disciplined ∧ w.ReadFits)
    (fun _ _ _ hI hg hf => ⟨hI.1.step hg hf, hI.2.step hI.1 hg hf⟩)
    ⟨init_disciplined _ _, fun _ _ hop => by cases hop⟩

/-- **No body that does not parse is kept from being executed**: in every run of a front end, and
for every connection in whatever state. -/
theorem malformed_executed (codec : BasicProtocolCodec) (messages : ClientMessageCodec)
    (sourceType : SourceConnectionType) (backendType : DestinationConnectionType)
    {tr after : List (TcpWorld × TcpLabel)} {r : Except FrontEndFault TcpWorld} {w : TcpWorld}
    {c : ClientPtr} {body : Bytes}
    (hrun : (frontEndMachine codec messages).Run (init sourceType backendType) tr r)
    (hread : (w, .bodyRead c body) :: after <:+ tr)
    (_hmalformed : (messages.parseRequest body).1 = false) :
    ¬ NotExecuted codec messages c body w after := by
  intro h
  have hp : (w, TcpLabel.bodyRead c body) ∈ tr := hread.subset List.mem_cons_self
  obtain ⟨hd, hfits⟩ := readFits_reaches (hrun.reaches hp)
  obtain ⟨w', hf, hinvoked⟩ := body_invoked codec hfits hd (hrun.guard _ hp)
  exact h.invoked w' hf hinvoked

/-- A hello with the tag of a further field behind it. -/
def sampleMalformedBody : Bytes := sampleHelloBody ++ [8]

theorem malformed_executed_sample : ∃ (tr after : List (TcpWorld × TcpLabel)) (w : TcpWorld),
    (clientMessageCodec.parseRequest []).1 = false ∧ (w, .bodyRead 7 []) :: after <:+ tr ∧
      ¬ NotExecuted basicProtocolCodec clientMessageCodec 7 [] w after := by
  have hadmits : (frontEndMachine basicProtocolCodec clientMessageCodec).admits
      (init .sourceRelay .targetMarshall)
      (sampleAccept 7 ++ (sampleFrames 7 []).take 1 ++ .bodyRead 7 [] :: []) = true := by
    decide +kernel
  obtain ⟨w, -, hread⟩ := Machine.exec_at _ _ _ _ _ hadmits
  have hmalformed : (clientMessageCodec.parseRequest []).1 = false := by decide +kernel
  exact ⟨_, _, w, hmalformed, hread,
    malformed_executed _ _ _ _ (Machine.exec_run hadmits) hread hmalformed⟩

/-- **A body that does not parse** establishes its client. -/
theorem malformed_body_establishes : ¬ ∀ (codec : BasicProtocolCodec)
    (messages : ClientMessageCodec) (sourceType : SourceConnectionType)
    (backendType : DestinationConnectionType) (tr after : List (TcpWorld × TcpLabel))
    (r : Except FrontEndFault TcpWorld) (w : TcpWorld) (c : ClientPtr) (body : Bytes),
    (frontEndMachine codec messages).Run (init sourceType backendType) tr r →
    (w, .bodyRead c body) :: after <:+ tr → (messages.parseRequest body).1 = false →
      NotExecuted codec messages c body w after := by
  intro h
  let before := sampleAccept 7 ++ (sampleFrames 7 sampleMalformedBody).take 1
  let rest : List TcpLabel :=
    [.check 7, .take 7, .run 7 {}, .endRan 7, .answerRan 7 fun _ => 0, .responseWritten 7]
  have hadmits : (frontEndMachine basicProtocolCodec clientMessageCodec).admits
      (init .sourceRelay .targetMarshall)
      (before ++ .bodyRead 7 sampleMalformedBody :: rest) = true := by
    decide +kernel
  obtain ⟨w, hw, hread⟩ := Machine.exec_at _ _ _ _ _ hadmits
  have hnew : ((frontEndMachine basicProtocolCodec clientMessageCodec).exec
      (init .sourceRelay .targetMarshall) before).2.toOption.map
        (fun w => (w.world.data 7).clientEstablished) = some false := by
    decide +kernel
  have hkept := (h _ _ _ _ _ _ _ w 7 sampleMalformedBody (Machine.exec_run hadmits) hread
    (by decide +kernel)).hello
  have hchanged : (beforeNextBody 7 (((frontEndMachine basicProtocolCodec clientMessageCodec).exec
      (init .sourceRelay .targetMarshall)
      (before ++ .bodyRead 7 sampleMalformedBody :: rest)).1.drop (before.length + 1))).any
        (fun p => (p.1.world.data 7).clientEstablished) = true := by
    decide +kernel
  obtain ⟨p, hp, hestablished⟩ := List.any_eq_true.mp hchanged
  rw [hw] at hnew
  have hnew' : (w.world.data 7).clientEstablished = false := Option.some.inj hnew
  rw [(hkept p hp).2, hnew'] at hestablished
  cases hestablished

end TcpWorld

end RblRpc
