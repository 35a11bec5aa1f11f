import RblRpc.Client.Factory
import RblRpc.Tcp.Invoker

/-!
# Calls over a broken connection

`TcpInvoker` as the invoker of a generated client.  A write or a read that fails sets
`m_error_code`, which no caller looks at; `reset` cleared the response, and a cleared response
says `REQUEST_SUCCESS`.

* `tcpInvoker` — `TcpInvoker` as an `InvokerBase`.
* `TcpLink.Fails`, `TcpLink.Broken` — a call that fails, at any of the three points; a connection
  all of whose calls fail.
* `transport_failure_unnoticed` — **a call that fails returns the default result**, and the factory
  reports success.
-/

namespace RblRpc

/-- What one call of `invoke` meets: what its arrays hold, and what the socket does. -/
structure SocketCall where
  fresh₁ : ℕ → UInt8
  fresh₂ : ℕ → UInt8
  peer : Peer

/-- A `TcpInvoker`, and what its calls will meet. -/
structure TcpLink where
  invoker : TcpInvoker
  calls : ℕ → SocketCall

/-- A fault of `TcpInvoker`. -/
inductive TcpInvokerFault where
  | assertion (a : Assertion)
  | socket (f : TcpFault)
  deriving DecidableEq

namespace TcpInvoker

/-- `reset`. -/
def reset (i : TcpInvoker) : Except TcpInvokerFault TcpInvoker :=
  if i.clientData.rpcActive then .error (.assertion .resetInactive)
  else .ok { i with
    clientData := { i.clientData with request := {}, response := {}, errorCode := {} } }

/-- `request()` is filled in. -/
def setRequest (r : ClientRequest) (i : TcpInvoker) : TcpInvoker :=
  { i with clientData := { i.clientData with request := r } }

/-- **A call that fails leaves the client data alone**: the error is in `m_error_code` only. -/
theorem clientData_of_failed {codec : ClientMessageCodec} {i i' : TcpInvoker} {peer : Peer}
    {fresh₁ fresh₂ : ℕ → UInt8} {b : Bool} (h : i.invoke codec fresh₁ fresh₂ peer = .ok (b, i'))
    (herr : i'.errorCode.isError = true) : i'.clientData = i.clientData := by
  unfold TcpInvoker.invoke at h
  dsimp only at h
  obtain ⟨_, -, h⟩ := bind_eq_ok.mp h
  split at h
  · -- the write failed
    cases h
    rfl
  · obtain ⟨_, -, h⟩ := bind_eq_ok.mp h
    split at h
    · -- the read of the header failed
      cases h
      rfl
    · obtain ⟨_, -, h⟩ := bind_eq_ok.mp h
      split at h
      · -- the read of the body failed
        cases h
        rfl
      · cases h
        cases herr

end TcpInvoker

/-- `TcpInvoker` as an `InvokerBase`; each call of `invoke` uses up what it meets. -/
def tcpInvoker (codec : ClientMessageCodec) : InvokerBase TcpInvokerFault TcpLink where
  isUseable l := l.invoker.useable
  reset l := do return { l with invoker := ← l.invoker.reset }
  setRequest r l := { l with invoker := l.invoker.setRequest r }
  invoke l :=
    match l.invoker.invoke codec (l.calls 0).fresh₁ (l.calls 0).fresh₂ (l.calls 0).peer with
    | .error f => .error (.socket f)
    | .ok (b, i) => .ok (b, { invoker := i, calls := fun n => l.calls (n + 1) })
  response l := l.invoker.clientData.response

namespace TcpLink

variable {codec : ClientMessageCodec} {l : TcpLink} {r : ClientRequest}

/-- The request `r` is sent over `l`, and the write or a read fails. -/
def Fails (codec : ClientMessageCodec) (r : ClientRequest) (l : TcpLink) : Prop :=
  ∃ res l', (tcpInvoker codec).exchange r l = .ok (res, l') ∧ l'.invoker.errorCode.isError = true

/-- Every call fails from now on. -/
def Broken (codec : ClientMessageCodec) (l : TcpLink) : Prop :=
  l.invoker.clientData.rpcActive = false ∧ ∀ n i r, i.clientData.rpcActive = false →
    Fails codec r { invoker := i, calls := fun k => l.calls (n + k) }

/-- **A request that fails has the response that `reset` left**, and the connection stays. -/
theorem exchange_of_fails (h : l.Fails codec r) :
    ∃ l', (tcpInvoker codec).exchange r l = .ok ({}, l') ∧
      l'.invoker.clientData.rpcActive = false ∧ l'.calls = fun n => l.calls (n + 1) := by
  obtain ⟨res, l', hex, herr⟩ := h
  unfold InvokerBase.exchange at hex
  obtain ⟨l₁, h₁, h₂⟩ := bind_eq_ok.mp hex
  obtain ⟨i₁, hreset, hl₁⟩ := bind_eq_ok.mp h₁
  cases hl₁
  obtain ⟨⟨b, l₂⟩, hinvoke, h₃⟩ := bind_eq_ok.mp h₂
  cases h₃
  have hi₁ : l.invoker.clientData.rpcActive = false ∧ i₁ = { l.invoker with
      clientData := { l.invoker.clientData with request := {}, response := {}, errorCode := {} } } := by
    unfold TcpInvoker.reset at hreset
    split at hreset
    · cases hreset
    · rename_i hactive
      cases hreset
      exact ⟨Bool.eq_false_iff.mpr hactive, rfl⟩
  obtain ⟨hactive, rfl⟩ := hi₁
  dsimp only [tcpInvoker] at hinvoke
  split at hinvoke
  · cases hinvoke
  · rename_i b' i' hi
    cases hinvoke
    have hcd := TcpInvoker.clientData_of_failed hi herr
    refine ⟨{ invoker := i', calls := fun n => l.calls (n + 1) }, hex.trans ?_, ?_, rfl⟩
    · rw [show (tcpInvoker codec).response _ = i'.clientData.response from rfl, hcd]
      rfl
    · rw [hcd]
      exact hactive

theorem Broken.fails (h : l.Broken codec) (r : ClientRequest) : l.Fails codec r := by
  have := h.2 0 l.invoker r h.1
  simpa using this

/-- A request over a broken connection leaves a broken connection. -/
theorem Broken.exchange (h : l.Broken codec) (r : ClientRequest) :
    ∃ l', (tcpInvoker codec).exchange r l = .ok ({}, l') ∧ l'.Broken codec := by
  obtain ⟨l', hex, hactive, hcalls⟩ := exchange_of_fails (h.fails r)
  refine ⟨l', hex, hactive, fun n i r' hi => ?_⟩
  have := h.2 (n + 1) i r' hi
  simp only [hcalls]
  simpa [Nat.add_assoc, Nat.add_comm 1] using this

variable {I O : Type} (input : MessageCodec I) (output : MessageCodec O) (req : I)
  {methodId : UInt16} {o : ClientServiceBase}

/-- What a generated method makes of the response that `reset` left. -/
theorem runOn_callMethod_of_exchange {l' : TcpLink}
    (hr : o.requestOf methodId ((input.serializeToString req).getD []) = some r)
    (hex : (tcpInvoker codec).exchange r l = .ok ({}, l')) :
    (o.callMethod (tcpInvoker codec) input output methodId req).runOn l =
      .ok (.ok (output.parseFromString []).2, l') := by
  rw [ClientServiceBase.runOn_callMethod l hr, hex]
  rfl

/-- **A generated method whose call fails returns what the empty string parses to.** -/
theorem Fails.runOn_callMethod (h : l.Fails codec r)
    (hr : o.requestOf methodId ((input.serializeToString req).getD []) = some r) :
    ∃ l', (o.callMethod (tcpInvoker codec) input output methodId req).runOn l =
      .ok (.ok (output.parseFromString []).2, l') := by
  obtain ⟨l', hex, -⟩ := exchange_of_fails h
  exact ⟨l', runOn_callMethod_of_exchange input output req hr hex⟩

open ServiceClientFactory BasicProtocolClient

/-- A method of `basic_protocol` over a broken connection. -/
theorem Broken.runOn_basic {bpc : ClientServiceBase} (h : l.Broken codec) (hbpc : Bound bpc)
    [Inhabited O] {output : MessageCodec O} (hout : output.ParsesEmpty) {i : ℕ} (hi : i < 5) :
    ∃ l', (bpc.callMethod (tcpInvoker codec) input output (UInt16.ofNat i) req).runOn l =
      .ok (.ok default, l') ∧ l'.Broken codec := by
  obtain ⟨l', hex, hl'⟩ := h.exchange ⟨0, UInt32.ofNat i, (input.serializeToString req).getD []⟩
  refine ⟨l', ?_, hl'⟩
  rw [runOn_callMethod_of_exchange input output req (hbpc.requestOf hi _) hex,
    show _ = default from hout]

end TcpLink

/-! ## The factory -/

open ServiceClientFactory BasicProtocolClient

variable {codec : ClientMessageCodec} {bcodec : BasicProtocolCodec} {l : TcpLink}
  {side : ClientSide TcpLink} {α : Type}

/-- The call `x` returns, whatever it does. -/
def ReturnsNormally {F σ : Type} (x : ClientCall F σ α) (s : σ) : Prop :=
  ∃ a s', x.runOn s = .ok (.ok a, s')

/-- **The constructor reports success** over a broken connection. -/
theorem new_of_broken (hempty : bcodec.ParsesEmpty) (h : l.Broken codec)
    (huse : l.invoker.useable = true) (name : Bytes) (sourceType : SourceConnectionType)
    (destType : DestinationConnectionType) :
    ReturnsNormally (ServiceClientFactory.new (tcpInvoker codec) bcodec name sourceType destType)
      l := by
  obtain ⟨bpc, hbpc, hrun⟩ := runOn_basicProtocolClient (F := TcpInvokerFault) (σ := TcpLink)
  obtain ⟨l₁, hhello, h₁⟩ := h.runOn_basic bcodec.helloRequest ⟨sourceType, destType, name⟩ hbpc
    hempty.helloResponse (i := 0) (by omega)
  obtain ⟨l₂, hlist, h₂⟩ := h₁.runOn_basic bcodec.listServicesRequest {} hbpc
    hempty.listServicesResponse (i := 1) (by omega)
  refine ⟨{ name := name, bpc := bpc, services := .empty }, l₂, ?_⟩
  have huse' : (!(tcpInvoker codec).isUseable l) = false := congrArg Bool.not huse
  unfold ServiceClientFactory.new
  rw [Call.runOn_bind_of_ok (Call.runOn_get l), huse', if_neg Bool.false_ne_true,
    Call.runOn_bind_of_ok (hrun l)]
  refine (Call.runOn_bind_of_ok hhello).trans ?_
  rw [if_neg (by decide)]
  refine (Call.runOn_bind_of_ok hlist).trans ?_
  rfl

/-- A call of the factory on its client, over a broken connection. -/
theorem runOn_rpc_of_broken {I O : Type} [Inhabited O] (input : MessageCodec I) (req : I)
    {output : MessageCodec O} (hout : output.ParsesEmpty) (hvalid : side.factory.Valid)
    (h : side.invoker.Broken codec) {i : ℕ} (hi : i < 5) :
    ∃ l', (ClientSide.rpc fun bpc =>
        bpc.callMethod (tcpInvoker codec) input output (UInt16.ofNat i) req).runOn side =
      .ok (.ok default, { side with invoker := l' }) ∧ l'.Broken codec := by
  obtain ⟨l', hrun, hl'⟩ := h.runOn_basic input req hvalid.bpc hout hi
  refine ⟨l', ?_, hl'⟩
  rw [ClientSide.runOn_rpc, hrun]
  rfl

/-- The client of a service whose methods cannot be listed is made without any of them. -/
theorem makeClient_of_broken (side : ClientSide TcpLink) (hempty : bcodec.ParsesEmpty)
    (hvalid : side.factory.Valid) (h : side.invoker.Broken codec) {o : UInt16} (ho : (side.factory.services.at? o.toNat).isSome)
    {methods : List Bytes} {client : ClientServiceBase}
    (hclient : ClientServiceBase.construct methods = .ok client)
    (hfull : ∀ i < client.serviceMethodMap.size,
      (client.serviceMethodMap.atOrdinal (UInt16.ofNat i)).isSome = true) :
    ReturnsNormally (makeClient (tcpInvoker codec) bcodec methods o) side := by
  have h' : (ClientSide.mk (side.factory.setClient o client) side.invoker).invoker.Broken codec := h
  obtain ⟨l', hlist, -⟩ := runOn_rpc_of_broken bcodec.listMethodsRequest ⟨o.toUInt32⟩
    hempty.listMethodsResponse (hvalid.setClient o client) h' (i := 4) (by omega)
  have hat : (side.factory.setClient o client).client? o = some client := by
    obtain ⟨e, he⟩ := Option.isSome_iff_exists.mp ho
    rw [client?_setClient, if_pos rfl, he]
    rfl
  refine ⟨{ client with serviceOrdinal := some o, isSubscribed := true }, ?_, ?_⟩
  · exact ⟨(side.factory.setClient o client).setClient o
      { client with serviceOrdinal := some o, isSubscribed := true }, l'⟩
  unfold makeClient
  rw [hclient]
  refine (Call.runOn_bind_of_ok rfl).trans ?_
  refine (Call.runOn_bind_of_ok rfl).trans ?_
  refine (Call.runOn_bind_of_ok hlist).trans ?_
  rw [if_neg (by decide)]
  refine (Call.runOn_bind_of_ok rfl).trans ?_
  rw [Call.runOn_bind, runOn_clientAt, hat, Call.runOn_ofOption_some]
  refine (Call.runOn_bind_of_ok (runOn_checkMethods_iff.mpr ⟨rfl, rfl, ?_⟩)).trans rfl
  intro i hi
  exact hfull i (List.mem_range.mp hi)

/-- **`subscribe_service` reports success** over a broken connection: the service is known and was
not subscribed to, and the client class has a map without holes. -/
theorem subscribeService_of_broken (hempty : bcodec.ParsesEmpty) (hvalid : side.factory.Valid)
    (h : side.invoker.Broken codec) {serviceName : Bytes} {methods : List Bytes}
    {e : OidContainerEntry (Option ClientServiceBase)} {client : ClientServiceBase}
    (he : side.factory.lookup serviceName = .ok e) (hnone : e.entry = none)
    (hcount : e.ordinal < side.factory.serviceCount)
    (hclient : ClientServiceBase.construct methods = .ok client)
    (hfull : ∀ i < client.serviceMethodMap.size,
      (client.serviceMethodMap.atOrdinal (UInt16.ofNat i)).isSome = true)
    (requestData : Option Bytes) (hasResponseData : Bool) :
    ReturnsNormally (subscribeService (tcpInvoker codec) bcodec serviceName requestData
      hasResponseData methods) side := by
  obtain ⟨l', hsub, h'⟩ := runOn_rpc_of_broken bcodec.subscribeServiceRequest
    ⟨e.ordinal.toUInt32, requestData⟩ hempty.subscribeServiceResponse hvalid h (i := 2) (by omega)
  have hat : (side.factory.services.at? e.ordinal.toNat).isSome := by
    rw [(hvalid.lookup he).1]
    rfl
  obtain ⟨a, side', hmake⟩ := makeClient_of_broken ⟨side.factory, l'⟩ hempty hvalid h' hat hclient
    hfull
  refine ⟨a, side', ?_⟩
  unfold subscribeService
  rw [Call.runOn_bind, runOn_entryNamed, he]
  dsimp only
  rw [hnone, Option.isSome_none, if_neg Bool.false_ne_true,
    Call.runOn_bind_of_ok (Call.runOn_get side), if_neg (UInt16.not_le.mpr hcount)]
  refine (Call.runOn_bind_of_ok hsub).trans ?_
  rw [if_neg (by decide), if_neg fun hc => hc.1 rfl]
  exact hmake

/-- **`unsubscribe_service` reports success** over a broken connection. -/
theorem unsubscribeService_of_broken (hempty : bcodec.ParsesEmpty) (hvalid : side.factory.Valid)
    (h : side.invoker.Broken codec) {serviceName : Bytes}
    {e : OidContainerEntry (Option ClientServiceBase)} {client : ClientServiceBase}
    (he : side.factory.lookup serviceName = .ok e) (hsome : e.entry = some client) :
    ReturnsNormally (unsubscribeService (tcpInvoker codec) bcodec serviceName) side := by
  obtain ⟨l', hunsub, -⟩ := runOn_rpc_of_broken bcodec.unsubscribeServiceRequest
    ⟨e.ordinal.toUInt32⟩ hempty.unsubscribeServiceResponse hvalid h (i := 3) (by omega)
  refine ⟨(), ⟨side.factory.setClient e.ordinal { client with isSubscribed := false }, l'⟩, ?_⟩
  unfold unsubscribeService
  rw [Call.runOn_bind, runOn_entryNamed, he]
  dsimp only
  rw [hsome]
  refine (Call.runOn_bind_of_ok hunsub).trans ?_
  rw [if_neg (by decide)]
  rfl

/-! ## A connection that cannot be written to -/

/-- A call of `invoke` whose write fails. -/
theorem TcpInvoker.invoke_of_writeError (codec : ClientMessageCodec) (i : TcpInvoker)
    {peer : Peer} (fresh₁ fresh₂ : ℕ → UInt8)
    (hwrite : peer.writeError.isError = true) :
    ∃ b, i.invoke codec fresh₁ fresh₂ peer =
      .ok (false, { i with buffer := b, errorCode := peer.writeError }) := by
  refine ⟨(i.buffer.growTo fresh₁ (msgSize codec i.clientData.request).toNat).write
    (requestFrame codec i.clientData.request), ?_⟩
  unfold TcpInvoker.invoke
  dsimp only
  rw [checkRange_of_le (by rw [Buffer.size_write, Buffer.size_growTo]; omega), hwrite]
  rfl

/-- A request whose write fails. -/
theorem TcpLink.fails_of_writeError {r : ClientRequest}
    (hactive : l.invoker.clientData.rpcActive = false)
    (hwrite : (l.calls 0).peer.writeError.isError = true) : l.Fails codec r := by
  obtain ⟨cd, hreset⟩ : ∃ cd, l.invoker.reset = .ok { l.invoker with clientData := cd } := by
    unfold TcpInvoker.reset
    rw [hactive, if_neg Bool.false_ne_true]
    exact ⟨_, rfl⟩
  obtain ⟨b, hinvoke⟩ := TcpInvoker.invoke_of_writeError codec
    (({ l.invoker with clientData := cd } : TcpInvoker).setRequest r) (l.calls 0).fresh₁
    (l.calls 0).fresh₂ hwrite
  refine ⟨cd.response, ⟨{ l.invoker with
      buffer := b
      clientData := { cd with request := r }
      errorCode := (l.calls 0).peer.writeError }, fun n => l.calls (n + 1)⟩, ?_, hwrite⟩
  unfold InvokerBase.exchange tcpInvoker
  dsimp only [bind, Except.bind, pure, Except.pure]
  rw [hreset]
  dsimp only
  rw [hinvoke]
  rfl

theorem echo_fits : (ascii "echo").length < 32 := by decide

theorem echo_nulFree : (0 : UInt8) ∉ ascii "echo" := by decide

def echoName : OidName := ⟨ascii "echo", echo_fits, echo_nulFree⟩

/-- A client with one method, `echo`. -/
def echoClient (serviceOrdinal : Option UInt16) (ordinal : UInt16) : ClientServiceBase where
  serviceOrdinal := serviceOrdinal
  serviceMethodMap := ⟨[⟨⟨echoName, 0⟩, ordinal⟩], [0]⟩

/-- The services of a factory: `basic_protocol`, and a service `echo` with its client. -/
def echoServices (client : Option ClientServiceBase) : OidContainer (Option ClientServiceBase) where
  entries := [⟨⟨⟨ascii "basic_protocol", by decide, by decide⟩, 0⟩, none⟩, ⟨⟨echoName, 1⟩, client⟩]
  nameIndex := [0, 1]

theorem echoServices_built (client : Option ClientServiceBase) :
    buildTable [(ascii "basic_protocol", none), (ascii "echo", client)] =
      .ok (echoServices client) := rfl

theorem echoServices_wf (client : Option ClientServiceBase) : (echoServices client).WF := by
  have hnames : DistinctNames [ascii "basic_protocol", ascii "echo"] := by
    refine ⟨fun n hn => ?_, by decide⟩
    simp only [List.mem_cons, List.not_mem_nil, or_false] at hn
    rcases hn with rfl | rfl <;> exact ⟨by decide, by decide, by decide⟩
  have htable : TableOf [(ascii "basic_protocol", none), (ascii "echo", client)]
      (echoServices client) := tableOf_buildTable hnames (echoServices_built client)
  exact htable.wf

theorem eof_isError : (⟨2, .misc⟩ : ErrorCode).isError = true := rfl

/-- A connection the peer has closed: every write fails. -/
def brokenLink : TcpLink where
  invoker := { buffer := ⟨[]⟩, clientData := {} }
  calls _ :=
    { fresh₁ := fun _ => 0
      fresh₂ := fun _ => 0
      peer := { writeError := ⟨32, .system⟩, incoming := [], readError_isError := eof_isError } }

theorem brokenLink_broken (codec : ClientMessageCodec) : brokenLink.Broken codec :=
  ⟨rfl, fun _ _ _ hi => TcpLink.fails_of_writeError hi rfl⟩

/-! ## Failures at every point -/

/-- **Transport failures go unnoticed.**  Whatever the request, the state earlier calls left and
the point of the failure: a generated method whose call fails returns the default message.  Over a
broken connection the constructor, `subscribe_service` and `unsubscribe_service` return as if they
had succeeded. -/
theorem transport_failure_unnoticed (codec : ClientMessageCodec) :
    (∀ {I O : Type} [Inhabited O] (input : MessageCodec I) (output : MessageCodec O)
        (o : ClientServiceBase) (methodId : UInt16) (req : I) (r : ClientRequest) (l : TcpLink),
      output.ParsesEmpty → o.requestOf methodId ((input.serializeToString req).getD []) = some r →
      l.Fails codec r →
      ∃ l', (o.callMethod (tcpInvoker codec) input output methodId req).runOn l =
        .ok (.ok default, l')) ∧
    ∀ bcodec : BasicProtocolCodec, bcodec.ParsesEmpty →
      (∀ (l : TcpLink) name sourceType destType, l.Broken codec → l.invoker.useable = true →
        ReturnsNormally
          (ServiceClientFactory.new (tcpInvoker codec) bcodec name sourceType destType) l) ∧
      (∀ (side : ClientSide TcpLink) serviceName requestData hasResponseData methods e client,
        side.factory.Valid → side.invoker.Broken codec →
        side.factory.lookup serviceName = .ok e → e.entry = none →
        e.ordinal < side.factory.serviceCount →
        ClientServiceBase.construct methods = .ok client →
        (∀ i < client.serviceMethodMap.size,
          (client.serviceMethodMap.atOrdinal (UInt16.ofNat i)).isSome = true) →
        ReturnsNormally (subscribeService (tcpInvoker codec) bcodec serviceName requestData
          hasResponseData methods) side) ∧
      (∀ (side : ClientSide TcpLink) serviceName e client,
        side.factory.Valid → side.invoker.Broken codec →
        side.factory.lookup serviceName = .ok e → e.entry = some client →
        ReturnsNormally (unsubscribeService (tcpInvoker codec) bcodec serviceName) side) := by
  constructor
  · intro I O _ input output o methodId req r l hout hr hfails
    obtain ⟨l', hrun⟩ := hfails.runOn_callMethod input output req hr
    exact ⟨l', by rw [hrun, show (output.parseFromString []).2 = default from hout]⟩
  · intro bcodec hempty
    refine ⟨fun l name sourceType destType h huse => new_of_broken hempty h huse _ _ _, ?_, ?_⟩
    · intro side serviceName requestData hasResponseData methods e client hvalid h he hnone hcount
        hclient hfull
      exact subscribeService_of_broken hempty hvalid h he hnone hcount hclient hfull _ _
    · intro side serviceName e client hvalid h he hsome
      exact unsubscribeService_of_broken hempty hvalid h he hsome

theorem transport_failure_unnoticed_sample :
    (∃ l', ((echoClient (some 1) 0).callMethod (tcpInvoker clientMessageCodec)
        basicProtocolCodec.listMethodsRequest basicProtocolCodec.listMethodsResponse 0 ⟨7⟩).runOn
          brokenLink = .ok (.ok {}, l')) ∧
      ReturnsNormally (ServiceClientFactory.new (tcpInvoker clientMessageCodec) basicProtocolCodec
        (ascii "node") .sourceGenerator .targetRelay) brokenLink ∧
      ∃ bpc, ReturnsNormally (subscribeService (tcpInvoker clientMessageCodec) basicProtocolCodec
          (ascii "echo") none false [ascii "echo"])
          ⟨⟨ascii "node", bpc, echoServices none⟩, brokenLink⟩ ∧
        ReturnsNormally (unsubscribeService (tcpInvoker clientMessageCodec) basicProtocolCodec
          (ascii "echo"))
          ⟨⟨ascii "node", bpc, echoServices (some (echoClient (some 1) 0))⟩, brokenLink⟩ := by
  obtain ⟨hmethod, hfactory⟩ := transport_failure_unnoticed clientMessageCodec
  obtain ⟨hnew, hsubscribe, hunsubscribe⟩ := hfactory _ basicProtocolCodec_parsesEmpty
  obtain ⟨bpc, hbpc, -⟩ := runOn_basicProtocolClient (F := TcpInvokerFault) (σ := TcpLink)
  have hbroken := brokenLink_broken clientMessageCodec
  refine ⟨?_, hnew _ _ _ _ hbroken rfl, bpc, ?_, ?_⟩
  · exact hmethod _ _ _ _ _ _ _ basicProtocolCodec_parsesEmpty.listMethodsResponse rfl
      (hbroken.fails _)
  · refine hsubscribe _ _ _ _ _ _ _ ⟨hbpc, echoServices_wf _⟩ hbroken rfl rfl
      (show (1 : UInt16) < 2 by decide) rfl ?_
    intro i hi
    have hzero : i = 0 := Nat.lt_one_iff.mp hi
    subst hzero
    rfl
  · exact hunsubscribe _ _ _ _ ⟨hbpc, echoServices_wf _⟩ hbroken rfl rfl

/-- **A write that fails is reported as a success.** -/
theorem failed_call_returns : ¬ ∀ (codec : ClientMessageCodec) (I O : Type) [Inhabited O]
    (input : MessageCodec I) (output : MessageCodec O) (o : ClientServiceBase) (methodId : UInt16)
    (req : I) (r : ClientRequest) (l : TcpLink),
    output.ParsesEmpty → o.requestOf methodId ((input.serializeToString req).getD []) = some r →
    l.Fails codec r →
    ¬ ∃ l', (o.callMethod (tcpInvoker codec) input output methodId req).runOn l =
      .ok (.ok default, l') := by
  intro h
  refine h clientMessageCodec _ _ basicProtocolCodec.listMethodsRequest
    basicProtocolCodec.listMethodsResponse (echoClient (some 1) 0) 0 ⟨7⟩ _ brokenLink
    basicProtocolCodec_parsesEmpty.listMethodsResponse rfl
    ((brokenLink_broken clientMessageCodec).fails _) ?_
  exact ((brokenLink_broken clientMessageCodec).fails ⟨1, 0, _⟩).runOn_callMethod
    basicProtocolCodec.listMethodsRequest basicProtocolCodec.listMethodsResponse ⟨7⟩ rfl

end RblRpc
