import RblRpc.Backend.World

/-!
# What the steps of the back end do

One lemma for each step that serves a client: all that a completed step changed.  The steps that
serve none leave the invokers alone.

* `checkRequest_step`, `runPosted_dispatch` — the ways in which the parts of `invoke` return.
* `beginInvoke_ok`, `checkRequest_ok`, `endRpc_ok`, `runPosted_ok` — what they leave.
* `request_ok`, `check_ok`, `run_ok`, `finish_ok`, `disconnect_ok` — the steps of a client.
* `fire_sameClients`, `fire_sameRecords` — the other steps.
* `signalManagers_rule` — what disconnecting clients and managers keeps, `f_disc_invoker_sig` keeps.
-/

namespace RblRpc

open Transition

/-! ## What the parts of a request do -/

namespace BackEnd

/-- **The start of `invoke`**: the request is counted and made active, or refused. -/
theorem beginInvoke_ok {b b' : BackEnd} {cd cd' : ClientData} {started : Bool}
    (h : b.beginInvoke cd = .ok (started, b', cd')) :
    SameIdentity cd cd' ∧ cd'.request = cd.request ∧
      (started = true ∧ b.synchronisedState.acceptingRequests = true ∧ cd.rpcActive = false ∧
        b' = b.setState { b.synchronisedState with
          activeRpcCount := b.synchronisedState.activeRpcCount + 1 } ∧ cd'.rpcActive = true ∨
      started = false ∧ b.synchronisedState.acceptingRequests = false ∧ b' = b ∧
        cd'.rpcActive = cd.rpcActive) := by
  unfold beginInvoke at h
  cases ha : b.synchronisedState.acceptingRequests with
  | true =>
    rw [SynchronisedBackEndState.startARequest, if_pos ha] at h
    obtain ⟨cd₁, hcd₁, hret⟩ := bind_eq_ok.mp h
    cases hret
    obtain ⟨hidle, rfl⟩ := ClientData.startRpc_eq_ok.mp hcd₁
    exact ⟨⟨rfl, rfl⟩, rfl, .inl ⟨rfl, rfl, hidle, rfl, rfl⟩⟩
  | false =>
    rw [SynchronisedBackEndState.startARequest, if_neg (Bool.eq_false_iff.mp ha)] at h
    cases h
    exact ⟨⟨rfl, rfl⟩, rfl, .inr ⟨rfl, rfl, rfl, rfl⟩⟩

/-- What held when a request was posted. -/
structure Admitted (c : ClientPtr) (b : BackEnd) (cd : ClientData) : Prop where
  service : ∃ s, b.serviceAt cd.request.serviceOrdinal.toUInt16 = some (some s) ∧
    s.containsFunctionAtOrdinal cd.request.requestOrdinal.toUInt16 = true
  subscribed : cd.request.serviceOrdinal ≠ 0 →
    b.clientServiceCookies.isSubscribed cd.request.serviceOrdinal.toUInt16.toNat c = true
  hello : cd.request.serviceOrdinal = 0 → cd.request.requestOrdinal = 0 →
    cd.clientEstablished = false
  established : ¬(cd.request.serviceOrdinal = 0 ∧ cd.request.requestOrdinal = 0) →
    cd.clientEstablished = true

/-- The checks look at the services and the subscriptions, the request and whether the client is
established. -/
theorem Admitted.congr {c : ClientPtr} {b b' : BackEnd} {cd cd' : ClientData}
    (h : Admitted c b cd) (hservices : b'.services = b.services)
    (hsub : ∀ s, b'.clientServiceCookies.isSubscribed s c =
      b.clientServiceCookies.isSubscribed s c)
    (hreq : cd'.request = cd.request) (hest : cd'.clientEstablished = cd.clientEstablished) :
    Admitted c b' cd' := by
  refine ⟨?_, ?_, ?_, ?_⟩
  · obtain ⟨s, hs, hf⟩ := h.service
    refine ⟨s, ?_, by rw [hreq]; exact hf⟩
    rw [hreq, BackEnd.serviceAt, hservices]
    exact hs
  · rw [hreq, hsub]
    exact h.subscribed
  · rw [hreq, hest]
    exact h.hello
  · rw [hreq, hest]
    exact h.established

/-- What the checks of `invoke` leave: the first that fails turns the request down, and one that
passes them all is posted. -/
inductive CheckStep (codec : BasicProtocolCodec) (c : ClientPtr) (b : BackEnd) (i : Invoker) :
    BackEnd → Invoker → Prop
  | noService (service : b.serviceAt i.clientData.request.serviceOrdinal.toUInt16 = none) :
    CheckStep codec c b i b
      (reject .invokeNoServiceWithOrdinalError .requestNoServiceWithOrdinal i)
  | noFunction {s : Service}
    (service : b.serviceAt i.clientData.request.serviceOrdinal.toUInt16 = some (some s))
    (function : s.containsFunctionAtOrdinal i.clientData.request.requestOrdinal.toUInt16 = false) :
    CheckStep codec c b i b
      (reject .invokeNoRequestWithOrdinalError .requestNoFunctionWithOrdinal
        { i with service := i.clientData.request.serviceOrdinal.toUInt16 })
  | notSubscribed {cs : ClientServiceCookies} {s : Service}
    (service : b.serviceAt i.clientData.request.serviceOrdinal.toUInt16 = some (some s))
    (cookie : b.clientServiceCookies.createOrRetrieveCookie
      i.clientData.request.serviceOrdinal.toUInt16 c = .ok cs)
    (ordinal : i.clientData.request.serviceOrdinal ≠ 0)
    (subscribed : b.clientServiceCookies.isSubscribed
      i.clientData.request.serviceOrdinal.toUInt16.toNat c = false) :
    CheckStep codec c b i (b.setCookies cs)
      (reject .invokeClientNotSubscribed .requestNotSubscribed
        { i with
          service := i.clientData.request.serviceOrdinal.toUInt16
          clientCookie := i.clientData.request.serviceOrdinal.toUInt16 })
  | greeted {cs : ClientServiceCookies} {s : Service}
    (service : b.serviceAt i.clientData.request.serviceOrdinal.toUInt16 = some (some s))
    (cookie : b.clientServiceCookies.createOrRetrieveCookie
      i.clientData.request.serviceOrdinal.toUInt16 c = .ok cs)
    (hello : i.clientData.request.serviceOrdinal = 0 ∧ i.clientData.request.requestOrdinal = 0)
    (established : i.clientData.clientEstablished = true) :
    CheckStep codec c b i (b.setCookies cs)
      (rejectHello codec
        { i with
          service := i.clientData.request.serviceOrdinal.toUInt16
          clientCookie := i.clientData.request.serviceOrdinal.toUInt16 })
  | notEstablished {cs : ClientServiceCookies} {s : Service}
    (service : b.serviceAt i.clientData.request.serviceOrdinal.toUInt16 = some (some s))
    (cookie : b.clientServiceCookies.createOrRetrieveCookie
      i.clientData.request.serviceOrdinal.toUInt16 c = .ok cs)
    (hello : ¬(i.clientData.request.serviceOrdinal = 0 ∧ i.clientData.request.requestOrdinal = 0))
    (established : i.clientData.clientEstablished = false) :
    CheckStep codec c b i (b.setCookies cs)
      (reject .notEstablished .requestClientNotEstablished
        { i with
          service := i.clientData.request.serviceOrdinal.toUInt16
          clientCookie := i.clientData.request.serviceOrdinal.toUInt16 })
  | posted {cs : ClientServiceCookies}
    (cookie : b.clientServiceCookies.createOrRetrieveCookie
      i.clientData.request.serviceOrdinal.toUInt16 c = .ok cs)
    (admitted : Admitted c b i.clientData) :
    CheckStep codec c b i
      { b.setCookies cs with ioService := { b.ioService with queue := b.ioService.queue ++ [c] } }
      { i with
        service := i.clientData.request.serviceOrdinal.toUInt16
        clientCookie := i.clientData.request.serviceOrdinal.toUInt16
        stage := .posted }

theorem checkRequest_step {codec : BasicProtocolCodec} {c : ClientPtr} {b b' : BackEnd}
    {i i' : Invoker} (h : b.checkRequest codec c i = .ok (b', i')) :
    CheckStep codec c b i b' i' := by
  unfold checkRequest at h
  dsimp only at h
  split at h
  · rename_i hnone
    cases h
    exact .noService hnone
  · cases h
  · rename_i service hservice
    split at h
    · rename_i hfn
      cases h
      exact .noFunction hservice ((Bool.not_eq_true' _).mp hfn)
    · rename_i hfn
      have hfunction : service.containsFunctionAtOrdinal
          i.clientData.request.requestOrdinal.toUInt16 = true := by simpa using hfn
      obtain ⟨cs, hcs, h⟩ := bind_eq_ok.mp h
      rw [ClientServiceCookies.isSubscribed_createOrRetrieveCookie hcs] at h
      split at h
      · rename_i hgate
        cases h
        exact .notSubscribed hservice hcs hgate.1 hgate.2
      · rename_i hgate
        have hsub : i.clientData.request.serviceOrdinal ≠ 0 →
            b.clientServiceCookies.isSubscribed
              i.clientData.request.serviceOrdinal.toUInt16.toNat c = true := by
          intro hne
          by_contra hs
          exact hgate ⟨hne, Bool.eq_false_iff.mpr hs⟩
        split at h
        · rename_i hhello
          split at h
          · rename_i hest
            cases h
            exact .greeted hservice hcs hhello hest
          · rename_i hest
            cases h
            exact .posted hcs ⟨⟨service, hservice, hfunction⟩, hsub,
              fun _ _ => Bool.eq_false_iff.mpr hest, fun hn => absurd hhello hn⟩
        · rename_i hhello
          split at h
          · rename_i hest
            cases h
            exact .notEstablished hservice hcs hhello hest
          · rename_i hest
            cases h
            exact .posted hcs ⟨⟨service, hservice, hfunction⟩, hsub,
              fun h0 h1 => absurd ⟨h0, h1⟩ hhello, fun _ => (Bool.not_eq_false _).mp hest⟩

/-- **The checks of `invoke`**: a cookie may be created, which subscribes nobody; the request is
turned down, or it passed every check and is posted. -/
theorem checkRequest_ok {codec : BasicProtocolCodec} {c : ClientPtr} {b b' : BackEnd}
    {i i' : Invoker} (h : b.checkRequest codec c i = .ok (b', i')) :
    ∃ cs, ClientServiceCookies.SameShape b.clientServiceCookies cs ∧
      (∀ s k, cs.isSubscribed s k = b.clientServiceCookies.isSubscribed s k) ∧
      (i'.stage = .rejected ∧ b' = b.setCookies cs ∧ SameClient i.clientData i'.clientData ∧
          SameIdentity i.clientData i'.clientData ∨
        Admitted c b i.clientData ∧
          b' = { b.setCookies cs with
            ioService := { b.ioService with queue := b.ioService.queue ++ [c] } } ∧
          i' = { i with
            service := i.clientData.request.serviceOrdinal.toUInt16
            clientCookie := i.clientData.request.serviceOrdinal.toUInt16
            stage := .posted }) := by
  cases checkRequest_step h with
  | noService | noFunction =>
    exact ⟨_, .refl _, fun _ _ => rfl, .inl ⟨rfl, rfl, ⟨rfl, rfl, rfl⟩, ⟨rfl, rfl⟩⟩⟩
  | notSubscribed _ hcs | greeted _ hcs | notEstablished _ hcs =>
    exact ⟨_, (ClientServiceCookies.createOrRetrieveCookie_ok hcs).1,
      ClientServiceCookies.isSubscribed_createOrRetrieveCookie hcs,
      .inl ⟨rfl, rfl, ⟨rfl, rfl, rfl⟩, ⟨rfl, rfl⟩⟩⟩
  | posted hcs hadm =>
    exact ⟨_, (ClientServiceCookies.createOrRetrieveCookie_ok hcs).1,
      ClientServiceCookies.isSubscribed_createOrRetrieveCookie hcs, .inr ⟨hadm, rfl, rfl⟩⟩

/-- **A request that is turned down** failed a check.  Its response says so, but for a second
hello, whose response is the answer to it. -/
theorem checkRequest_rejected {codec : BasicProtocolCodec} {c : ClientPtr} {b b' : BackEnd}
    {i i' : Invoker} (h : b.checkRequest codec c i = .ok (b', i')) (hrej : i'.stage = .rejected) :
    ¬Admitted c b i.clientData ∧
      b.serviceAt i.clientData.request.serviceOrdinal.toUInt16 ≠ some none ∧
      (i'.clientData.response.getError ≠ .requestSuccess ∨
        i.clientData.request.serviceOrdinal = 0 ∧ i.clientData.request.requestOrdinal = 0 ∧
          i'.clientData = (rejectHello codec i).clientData) := by
  have hlive : ∀ {s : Service},
      b.serviceAt i.clientData.request.serviceOrdinal.toUInt16 = some (some s) →
        b.serviceAt i.clientData.request.serviceOrdinal.toUInt16 ≠ some none := by
    intro s hs hnone
    cases hnone.symm.trans hs
  cases checkRequest_step h with
  | noService hnone =>
    refine ⟨fun hadm => ?_, ?_, .inl (fun he => nomatch he)⟩
    · obtain ⟨s, hs, -⟩ := hadm.service
      cases hnone.symm.trans hs
    · rw [hnone]
      exact fun hn => nomatch hn
  | noFunction hservice hfn =>
    refine ⟨fun hadm => ?_, hlive hservice, .inl (fun he => nomatch he)⟩
    obtain ⟨s, hs, hcontains⟩ := hadm.service
    cases hservice.symm.trans hs
    cases hfn.symm.trans hcontains
  | notSubscribed hservice _ hne hsub =>
    refine ⟨fun hadm => ?_, hlive hservice, .inl (fun he => nomatch he)⟩
    cases hsub.symm.trans (hadm.subscribed hne)
  | greeted hservice _ hhello hest =>
    refine ⟨fun hadm => ?_, hlive hservice, .inr ⟨hhello.1, hhello.2, rfl⟩⟩
    cases hest.symm.trans (hadm.hello hhello.1 hhello.2)
  | notEstablished hservice _ hhello hest =>
    refine ⟨fun hadm => ?_, hlive hservice, .inl (fun he => nomatch he)⟩
    cases hest.symm.trans (hadm.established hhello)
  | posted => cases hrej

theorem endRpc_ok {b b' : BackEnd} {cd cd' : ClientData} (h : b.endRpc cd = .ok (b', cd')) :
    cd.rpcActive = true ∧ b' = b.setState b.synchronisedState.endARequest ∧
      cd' = { cd with rpcActive := false } := by
  obtain ⟨cd₁, hcd₁, hret⟩ := bind_eq_ok.mp h
  cases hret
  obtain ⟨hactive, rfl⟩ := ClientData.endRpc_eq_ok.mp hcd₁
  exact ⟨hactive, rfl, rfl⟩

/-- What the pool does with a posted invoker whose dispatch returns. -/
theorem runPosted_dispatch {codec : BasicProtocolCodec} {c : ClientPtr} {reply : ServiceReply}
    {b b' : BackEnd} {i i' : Invoker} (h : b.runPosted codec c reply i = .ok (b', i')) :
    ∃ s cd', b.serviceAt i.service = some (some s) ∧
      s.dispatch codec i.clientCookie c reply (b.logCall (.dispatch i.service.toNat c))
        i.clientData = .ok (b', cd') ∧
      i' = { i with clientData := cd', stage := .ran } := by
  unfold runPosted at h
  split at h
  · rename_i s hs
    obtain ⟨⟨b₁, cd₁⟩, hd, hret⟩ := bind_eq_ok.mp h
    cases hret
    exact ⟨s, cd₁, hs, hd, rfl⟩
  · cases h

/-- **The dispatch of a posted invoker.** -/
theorem runPosted_ok {codec : BasicProtocolCodec} {c : ClientPtr} {reply : ServiceReply}
    {b b' : BackEnd} {i i' : Invoker} (h : b.runPosted codec c reply i = .ok (b', i')) :
    ∃ s cd', b.serviceAt i.service = some (some s) ∧
      i' = { i with clientData := cd', stage := .ran } ∧
      Dispatched (s.impl = .basicProtocol ∧
          requestedMethod i.clientData.request = some .hello)
        (s.impl = .basicProtocol ∧
          requestedMethod i.clientData.request = some .rpcSubscribeService)
        c b i.clientData b' cd' := by
  obtain ⟨s, cd', hs, hd, rfl⟩ := runPosted_dispatch h
  obtain ⟨hb, hcd, hid, hsub⟩ := dispatch_ok hd
  have hlog : Serves b (b.logCall (.dispatch i.service.toNat c)) :=
    .logCall rfl rfl
  have hhistory := hlog.trans hb.history
  obtain ⟨cs, calls, rfl⟩ := hb.eq
  exact ⟨s, cd', hs, rfl, ⟨⟨_, _, rfl⟩, hb.shape, hb.others, hhistory⟩, hcd, hid, hsub⟩

end BackEnd

namespace World

variable {w w' : World} {c : ClientPtr}

theorem stepInvoker_ok {f : BackEnd → Invoker → Except Fault (BackEnd × Invoker)} :
    stepInvoker c f w = .ok w' ↔ ∃ b i, f w.backEnd (w.invokers c) = .ok (b, i) ∧
      w' = (w.setBackEnd b).setInvoker c i := by
  unfold stepInvoker
  rw [bind_eq_ok]
  constructor
  · rintro ⟨⟨b, i⟩, hf, hret⟩
    cases hret
    exact ⟨b, i, hf, rfl⟩
  · rintro ⟨b, i, hf, rfl⟩
    exact ⟨(b, i), hf, rfl⟩

@[simp] theorem setInvoker_backEnd (i : Invoker) : (w.setInvoker c i).backEnd = w.backEnd := rfl

@[simp] theorem setBackEnd_backEnd (b : BackEnd) : (w.setBackEnd b).backEnd = b := rfl

@[simp] theorem setBackEnd_invokers (b : BackEnd) : (w.setBackEnd b).invokers = w.invokers := rfl

@[simp] theorem setInvoker_self (i : Invoker) : (w.setInvoker c i).invokers c = i :=
  Function.update_self ..

theorem setInvoker_ne {c' : ClientPtr} (h : c' ≠ c) (i : Invoker) :
    (w.setInvoker c i).invokers c' = w.invokers c' :=
  Function.update_of_ne h ..

/-- **A new request.** -/
theorem request_ok {resets : Bool} {r : ClientRequest} (h : w.request c resets r = .ok w') :
    ∃ b i, w' = (w.setBackEnd b).setInvoker c i ∧ i.clientData.request = r ∧
      SameIdentity (w.data c) i.clientData ∧
      (w.state.acceptingRequests = true ∧ (w.data c).rpcActive = false ∧
          b = w.backEnd.setState { w.state with activeRpcCount := w.state.activeRpcCount + 1 } ∧
          i.stage = .accepted ∧ i.clientData.rpcActive = true ∨
        w.state.acceptingRequests = false ∧ b = w.backEnd ∧ i.stage = .idle ∧
          i.clientData.rpcActive = (w.data c).rpcActive) := by
  obtain ⟨b, i, hf, rfl⟩ := stepInvoker_ok.mp h
  obtain ⟨i₁, hprep, hf⟩ := bind_eq_ok.mp hf
  have hi₁ : i₁.clientData.request = r ∧ SameIdentity (w.data c) i₁.clientData ∧
      i₁.clientData.rpcActive = (w.data c).rpcActive := by
    unfold Invoker.prepare at hprep
    cases resets with
    | true =>
      simp only [if_true] at hprep
      obtain ⟨_, -, hret⟩ := bind_eq_ok.mp hprep
      cases hret
      exact ⟨rfl, ⟨rfl, rfl⟩, rfl⟩
    | false =>
      simp only [Bool.false_eq_true, if_false] at hprep
      cases hprep
      exact ⟨rfl, ⟨rfl, rfl⟩, rfl⟩
  obtain ⟨⟨started, b₁, cd₁⟩, hbegin, hret⟩ := bind_eq_ok.mp hf
  cases hret
  obtain ⟨hid, hreq, hcase⟩ := BackEnd.beginInvoke_ok hbegin
  refine ⟨b, _, rfl, hreq.trans hi₁.1, hi₁.2.1.trans hid, ?_⟩
  rcases hcase with ⟨rfl, ha, hactive, hb, hcd⟩ | ⟨rfl, ha, hb, hcd⟩
  · exact .inl ⟨ha, hi₁.2.2.symm.trans hactive, hb, rfl, hcd⟩
  · exact .inr ⟨ha, hb, rfl, hcd.trans hi₁.2.2⟩

/-- **The end of a request.** -/
theorem finish_ok (h : w.finish c = .ok w') : (w.data c).rpcActive = true ∧
    w' = (w.setBackEnd (w.backEnd.setState w.state.endARequest)).setInvoker c
      { w.invokers c with clientData := { w.data c with rpcActive := false }, stage := .idle } := by
  obtain ⟨b, i, hf, rfl⟩ := stepInvoker_ok.mp h
  obtain ⟨⟨b₁, cd₁⟩, hend, hret⟩ := bind_eq_ok.mp hf
  cases hret
  obtain ⟨hactive, rfl, rfl⟩ := BackEnd.endRpc_ok hend
  exact ⟨hactive, rfl⟩

/-- **A disconnection.** -/
theorem disconnect_ok {reply : ℕ → ServiceReply} (h : w.disconnect c reply = .ok w') :
    ∃ b cd, w.backEnd.disconnect c reply (w.data c) = .ok (b, cd) ∧
      w' = (w.setBackEnd b).setInvoker c { w.invokers c with clientData := cd } := by
  obtain ⟨b, i, hf, rfl⟩ := stepInvoker_ok.mp h
  obtain ⟨⟨b₁, cd₁⟩, hd, hret⟩ := bind_eq_ok.mp hf
  cases hret
  exact ⟨b, cd₁, hd, rfl⟩

theorem stage_setInvoker_ne {c' : ClientPtr} (h : c' ≠ c) (b : BackEnd) (i : Invoker) :
    ((w.setBackEnd b).setInvoker c i).stage c' = w.stage c' := by
  rw [stage, setInvoker_ne h]
  rfl

theorem stage_setInvoker_self (i : Invoker) : (w.setInvoker c i).stage c = i.stage := by
  rw [stage, setInvoker_self]

theorem disconnect_stage {reply : ℕ → ServiceReply} (h : w.disconnect c reply = .ok w') :
    w'.stage = w.stage := by
  obtain ⟨b, cd, -, rfl⟩ := disconnect_ok h
  funext c'
  by_cases hc : c' = c
  · subst hc
    exact stage_setInvoker_self _
  · exact stage_setInvoker_ne hc _ _

/-! ## What a step leaves alone -/

/-- The clients, their invokers and their requests are the same. -/
structure SameClients (w w' : World) : Prop where
  invokers : w'.invokers = w.invokers
  connectedClients : w'.backEnd.connectedClients = w.backEnd.connectedClients
  queue : w'.backEnd.ioService.queue = w.backEnd.ioService.queue
  activeRpcCount : w'.state.activeRpcCount = w.state.activeRpcCount

/-- What the operations of an application on the back end write is the same. -/
structure SameControl (w w' : World) : Prop where
  acceptingRequests : w'.state.acceptingRequests = w.state.acceptingRequests
  slots : w'.state.slots = w.state.slots
  shutdownState : w'.state.shutdownState = w.state.shutdownState
  isSealed : w'.backEnd.isSealed = w.backEnd.isSealed
  stopped : w'.backEnd.ioService.stopped = w.backEnd.ioService.stopped
  services : w'.backEnd.services = w.backEnd.services
  backendType : w'.backEnd.backendType = w.backEnd.backendType
  sourceType : w'.backEnd.sourceType = w.backEnd.sourceType
  point : w'.point = w.point
  result : w'.result = w.result

theorem SameControl.refl (w : World) : SameControl w w :=
  ⟨rfl, rfl, rfl, rfl, rfl, rfl, rfl, rfl, rfl, rfl⟩

theorem SameControl.trans {w₁ w₂ w₃ : World} (h : SameControl w₁ w₂) (h' : SameControl w₂ w₃) :
    SameControl w₁ w₃ :=
  ⟨h'.acceptingRequests.trans h.acceptingRequests, h'.slots.trans h.slots,
    h'.shutdownState.trans h.shutdownState, h'.isSealed.trans h.isSealed,
    h'.stopped.trans h.stopped, h'.services.trans h.services, h'.backendType.trans h.backendType,
    h'.sourceType.trans h.sourceType, h'.point.trans h.point, h'.result.trans h.result⟩

theorem disconnect_sameControl {reply : ℕ → ServiceReply} (h : w.disconnect c reply = .ok w') :
    SameControl w w' := by
  obtain ⟨b, cd, hd, rfl⟩ := disconnect_ok h
  obtain ⟨-, -, -, ⟨cs, calls, rfl⟩, -, -⟩ := BackEnd.disconnect_ok hd
  exact ⟨rfl, rfl, rfl, rfl, rfl, rfl, rfl, rfl, rfl, rfl⟩

theorem checkRequest_sameControl {codec : BasicProtocolCodec}
    (h : w.stepInvoker c (fun b i => b.checkRequest codec c i) = .ok w') : SameControl w w' := by
  obtain ⟨b, i, hc, rfl⟩ := stepInvoker_ok.mp h
  obtain ⟨cs, -, -, ⟨-, rfl, -⟩ | ⟨-, rfl, -⟩⟩ := BackEnd.checkRequest_ok hc <;>
    exact ⟨rfl, rfl, rfl, rfl, rfl, rfl, rfl, rfl, rfl, rfl⟩

theorem runPosted_sameControl {codec : BasicProtocolCodec} {reply : ServiceReply}
    (h : w.stepInvoker c (fun b i => b.runPosted codec c reply i) = .ok w') :
    SameControl w w' := by
  obtain ⟨b, i, hr, rfl⟩ := stepInvoker_ok.mp h
  obtain ⟨s, cd, -, -, hd, -⟩ := BackEnd.runPosted_ok hr
  obtain ⟨cs, calls, rfl⟩ := hd.eq
  exact ⟨rfl, rfl, rfl, rfl, rfl, rfl, rfl, rfl, rfl, rfl⟩

/-- **A step that serves a client** writes none of what the application does. -/
theorem fire_sameControl {codec : BasicProtocolCodec} {l : Label} (hl : l.client = some c)
    (h : fire codec w l = .ok w') : SameControl w w' := by
  cases l <;> cases hl
  case connect fresh =>
    cases h
    cases fresh <;> exact ⟨rfl, rfl, rfl, rfl, rfl, rfl, rfl, rfl, rfl, rfl⟩
  case disconnect reply => exact disconnect_sameControl h
  case request resets r =>
    obtain ⟨b, i, rfl, -, -, ⟨-, -, rfl, -⟩ | ⟨-, rfl, -⟩⟩ := request_ok h <;>
      exact ⟨rfl, rfl, rfl, rfl, rfl, rfl, rfl, rfl, rfl, rfl⟩
  case check => exact checkRequest_sameControl h
  case take =>
    cases h
    exact ⟨rfl, rfl, rfl, rfl, rfl, rfl, rfl, rfl, rfl, rfl⟩
  case run reply => exact runPosted_sameControl h
  case finish =>
    obtain ⟨-, rfl⟩ := finish_ok h
    exact ⟨rfl, rfl, rfl, rfl, rfl, rfl, rfl, rfl, rfl, rfl⟩

/-- **A step that serves a client** keeps the slots of the cookie store. -/
theorem fire_sameShape {codec : BasicProtocolCodec} {l : Label} (hl : l.client = some c)
    (h : fire codec w l = .ok w') : ClientServiceCookies.SameShape
      w.backEnd.clientServiceCookies w'.backEnd.clientServiceCookies := by
  cases l <;> cases hl
  case connect fresh =>
    cases h
    cases fresh <;> exact .refl _
  case disconnect reply =>
    obtain ⟨b, cd, hd, rfl⟩ := disconnect_ok h
    obtain ⟨-, -, -, -, hr, -⟩ := BackEnd.disconnect_ok hd
    exact hr.shape
  case request resets r =>
    obtain ⟨b, i, rfl, -, -, ⟨-, -, rfl, -⟩ | ⟨-, rfl, -⟩⟩ := request_ok h <;> exact .refl _
  case check =>
    obtain ⟨b, i, hc, rfl⟩ := stepInvoker_ok.mp h
    obtain ⟨cs, hshape, -, ⟨-, rfl, -⟩ | ⟨-, rfl, -⟩⟩ := BackEnd.checkRequest_ok hc <;>
      exact hshape
  case take =>
    cases h
    exact .refl _
  case run reply =>
    obtain ⟨b, i, hr, rfl⟩ := stepInvoker_ok.mp h
    obtain ⟨s, cd, -, -, hd, -⟩ := BackEnd.runPosted_ok hr
    exact hd.shape
  case finish =>
    obtain ⟨-, rfl⟩ := finish_ok h
    exact .refl _

theorem stopStage_backEnd (w : World) : ∃ s, w.stopStage.backEnd = w.backEnd.setState s := by
  unfold stopStage
  split <;> exact ⟨_, rfl⟩

theorem rpcStage_backEnd (w : World) : ∃ s, w.rpcStage.backEnd = w.backEnd.setState s := by
  unfold rpcStage
  split
  · split <;> exact ⟨_, rfl⟩
  · exact ⟨_, rfl⟩

theorem stopStage_sameClients (w : World) : SameClients w w.stopStage := by
  unfold stopStage
  split <;> exact ⟨rfl, rfl, rfl, rfl⟩

theorem rpcStage_sameClients (w : World) : SameClients w w.rpcStage := by
  unfold rpcStage
  split
  · split <;> exact ⟨rfl, rfl, rfl, rfl⟩
  · exact ⟨rfl, rfl, rfl, rfl⟩

/-- The third test: the step ends, or goes on to the join. -/
theorem managerStage_ok (h : w.managerStage = .ok w') :
    w.state.shutdownState = .shutdownWaitingOnManagerDisconections ∧ w' = w.goto .join ∧
      (w.state.slots = [] → w.backEnd.connectedClients = ∅) ∨
    w.state.shutdownState ≠ .shutdownWaitingOnManagerDisconections ∧
      w' = w.leave (.returned .shutdownWaitingOnManagerDisconections) := by
  unfold managerStage at h
  split at h
  · rename_i hst
    split at h
    · obtain ⟨_, hassert, hret⟩ := bind_eq_ok.mp h
      cases hret
      have hcard := of_decide_eq_true (boostAssert_eq_ok.mp hassert)
      exact .inl ⟨hst, rfl, fun _ => Finset.card_eq_zero.mp hcard⟩
    · rename_i hcount
      cases h
      exact .inl ⟨hst, rfl, fun hslots => absurd (congrArg List.length hslots) hcount⟩
  · rename_i hst
    cases h
    exact .inr ⟨hst, rfl⟩

/-- A step of the teardown loop: a service was torn down, or the loop ended. -/
theorem teardownStage_ok {i : ℕ} (hp : w.point = .teardown i) (h : w.teardownStage = .ok w') :
    (i < w.backEnd.services.occupiedSize ∧ ∃ b e, w.backEnd.teardownService i = .ok (b, e) ∧
      w' = match e with
        | some e => (w.setBackEnd b).leave (.threw e)
        | none => (w.setBackEnd b).goto (.teardown (i + 1))) ∨
    ¬ i < w.backEnd.services.occupiedSize ∧ w' = w.leave (.returned .shutdownComplete) := by
  unfold teardownStage at h
  rw [hp] at h
  dsimp only at h
  split at h
  · rename_i hi
    obtain ⟨⟨b, e⟩, ht, hret⟩ := bind_eq_ok.mp h
    refine .inl ⟨hi, b, e, ht, ?_⟩
    cases e <;> cases hret <;> rfl
  · rename_i hi
    cases h
    exact .inr ⟨hi, rfl⟩

/-- What the teardown loop writes. -/
theorem teardownStage_writes (h : w.teardownStage = .ok w') : ∃ services ec calls p r,
    w' = { w.setBackEnd { w.backEnd with services := services, ec := ec, calls := calls } with
      point := p, result := r } := by
  cases hp : w.point
  case teardown i =>
    rcases teardownStage_ok hp h with ⟨-, b, e, ht, rfl⟩ | ⟨-, rfl⟩
    · obtain ⟨⟨ec, rfl⟩, -⟩ | ⟨services, ec, -, rfl⟩ := BackEnd.teardownService_ok ht <;>
        cases e <;> exact ⟨_, _, _, _, _, rfl⟩
    · exact ⟨_, _, _, _, _, rfl⟩
  all_goals
    unfold teardownStage at h
    rw [hp] at h
    cases h
    exact ⟨_, _, _, _, _, rfl⟩

theorem teardownStage_sameClients (h : w.teardownStage = .ok w') : SameClients w w' := by
  obtain ⟨services, ec, calls, p, r, rfl⟩ := teardownStage_writes h
  exact ⟨rfl, rfl, rfl, rfl⟩

theorem start_ok {codec : BasicProtocolCodec} (h : fire codec w .start = .ok w') :
    ∃ b e, w.backEnd.start = .ok (b, e) ∧ w' = w.setBackEnd b := by
  obtain ⟨⟨b, e⟩, hs, hret⟩ := bind_eq_ok.mp h
  cases hret
  exact ⟨b, e, hs, rfl⟩

/-- **A step that serves no client** leaves the clients alone, unless it signals the managers. -/
theorem fire_sameClients {codec : BasicProtocolCodec} {l : Label} (hl : l.client = none)
    (hsig : l.signals = false) (h : fire codec w l = .ok w') : SameClients w w' := by
  cases l <;> cases hl
  case registerService s =>
    cases h
    obtain ⟨services, ec, count, heq⟩ := BackEnd.registerAndInitService_writes s w.backEnd
    refine ⟨rfl, ?_, ?_, ?_⟩ <;> simp only [setBackEnd_backEnd, state, heq]
  case start =>
    obtain ⟨b, e, hs, rfl⟩ := start_ok h
    obtain ⟨-, ⟨-, rfl, -⟩ | ⟨-, -, -, cs₀, cs, -, -, rfl⟩⟩ := BackEnd.start_ok hs <;>
      exact ⟨rfl, rfl, rfl, rfl⟩
  case initiateShutdown =>
    cases h
    refine ⟨rfl, rfl, rfl, ?_⟩
    show w.state.checkAndInitiateShutdown.2.activeRpcCount = w.state.activeRpcCount
    unfold SynchronisedBackEndState.checkAndInitiateShutdown
    split <;> rfl
  case stopStage => cases h; exact stopStage_sameClients w
  case rpcStage => cases h; exact rpcStage_sameClients w
  case signalStage reply => cases hsig
  case managerStage =>
    rcases managerStage_ok h with ⟨-, rfl, -⟩ | ⟨-, rfl⟩ <;> exact ⟨rfl, rfl, rfl, rfl⟩
  case teardownStage => exact teardownStage_sameClients h
  all_goals
    cases h
    exact ⟨rfl, rfl, rfl, rfl⟩

/-- The registry, the cookies, the history and the flags of the pool are the same. -/
structure SameRecords (w w' : World) : Prop where
  isSealed : w'.backEnd.isSealed = w.backEnd.isSealed
  services : w'.backEnd.services = w.backEnd.services
  serviceCount : w'.backEnd.serviceCount = w.backEnd.serviceCount
  cookies : w'.backEnd.clientServiceCookies = w.backEnd.clientServiceCookies
  calls : w'.backEnd.calls = w.backEnd.calls
  stopped : w'.backEnd.ioService.stopped = w.backEnd.ioService.stopped

theorem sameRecords_of_setState {s : SynchronisedBackEndState}
    (h : w'.backEnd = w.backEnd.setState s) : SameRecords w w' := by
  constructor <;> rw [h] <;> rfl

/-- **A step that serves no client** writes none of the records, but for these. -/
theorem fire_sameRecords {codec : BasicProtocolCodec} {l : Label} (hl : l.client = none)
    (h : fire codec w l = .ok w') : SameRecords w w' ∨ (∃ s, l = .registerService s) ∨
      l = .start ∨ (∃ reply, l = .signalStage reply) ∨ l = .joinStage ∨ l = .teardownStage := by
  cases l <;> cases hl
  case registerService s => exact .inr (.inl ⟨s, rfl⟩)
  case start => exact .inr (.inr (.inl rfl))
  case signalStage reply => exact .inr (.inr (.inr (.inl ⟨reply, rfl⟩)))
  case joinStage => exact .inr (.inr (.inr (.inr (.inl rfl))))
  case teardownStage => exact .inr (.inr (.inr (.inr (.inr rfl))))
  case stopStage =>
    cases h
    obtain ⟨s, heq⟩ := stopStage_backEnd w
    exact .inl (sameRecords_of_setState heq)
  case rpcStage =>
    cases h
    obtain ⟨s, heq⟩ := rpcStage_backEnd w
    exact .inl (sameRecords_of_setState heq)
  case managerStage =>
    rcases managerStage_ok h with ⟨-, rfl, -⟩ | ⟨-, rfl⟩ <;>
      exact .inl ⟨rfl, rfl, rfl, rfl, rfl, rfl⟩
  all_goals
    cases h
    exact .inl ⟨rfl, rfl, rfl, rfl, rfl, rfl⟩

/-! ## The managers -/

section Managers

variable {I : World → Prop} {reply : ManagerId → ManagerReply}

theorem disconnectClients_rule {cs : List (ClientPtr × (ℕ → ServiceReply))}
    (hdisc : ∀ w w', I w → ∀ p ∈ cs, disconnect p.1 p.2 w = .ok w' → I w')
    (h : disconnectClients cs w = .ok w') (hw : I w) : I w' := by
  induction cs generalizing w with
  | nil => cases h; exact hw
  | cons p cs ih =>
    obtain ⟨w₁, h₁, h₂⟩ := bind_eq_ok.mp h
    exact ih (fun w w' hI q hq => hdisc w w' hI q (List.mem_cons_of_mem _ hq)) h₂
      (hdisc w w₁ hw p List.mem_cons_self h₁)

theorem signalManager_rule {m : ManagerId} {r : ManagerReply}
    (hdisc : ∀ w w', I w → ∀ p ∈ r.disconnects, disconnect p.1 p.2 w = .ok w' → I w')
    (hdetach : ∀ w, I w → I (w.setState (w.state.disconnectManager m)))
    (h : signalManager m r w = .ok w') (hw : I w) : I w' := by
  obtain ⟨w₁, h₁, h₂⟩ := bind_eq_ok.mp h
  have hw₁ : I w₁ := disconnectClients_rule hdisc h₁ hw
  split at h₂ <;> cases h₂
  · exact hdetach w₁ hw₁
  · exact hw₁

/-- **The rule for `f_disc_invoker_sig`.** -/
theorem signalManagers_rule {ms : List ManagerId} {threw : Bool}
    (hdisc : ∀ w w', I w → ∀ m ∈ ms, ∀ p ∈ (reply m).disconnects,
      disconnect p.1 p.2 w = .ok w' → I w')
    (hdetach : ∀ w, I w → ∀ m ∈ ms, I (w.setState (w.state.disconnectManager m)))
    (h : signalManagers reply ms w = .ok (w', threw)) (hw : I w) : I w' := by
  induction ms generalizing w with
  | nil => cases h; exact hw
  | cons m ms ih =>
    obtain ⟨w₁, h₁, h₂⟩ := bind_eq_ok.mp h
    have hw₁ : I w₁ := signalManager_rule (fun w w' hI => hdisc w w' hI m List.mem_cons_self)
      (fun w hI => hdetach w hI m List.mem_cons_self) h₁ hw
    split at h₂
    · cases h₂; exact hw₁
    · exact ih (fun w w' hI m' hm' => hdisc w w' hI m' (List.mem_cons_of_mem _ hm'))
        (fun w hI m' hm' => hdetach w hI m' (List.mem_cons_of_mem _ hm')) h₂ hw₁

/-- The managers were signalled, and the step ends or goes on. -/
theorem signalStage_ok (h : w.signalStage reply = .ok w') :
    ∃ w₁ threw, signalManagers reply w.state.slots w = .ok (w₁, threw) ∧
      w' = if threw then w₁.leave .managerThrew else w₁.goto .managerTest := by
  obtain ⟨⟨w₁, threw⟩, hs, hret⟩ := bind_eq_ok.mp h
  cases hret
  exact ⟨w₁, threw, hs, rfl⟩

theorem signalStage_stage (h : w.signalStage reply = .ok w') : w'.stage = w.stage := by
  obtain ⟨w₁, threw, hs, rfl⟩ := signalStage_ok h
  have hw₁ : w₁.stage = w.stage := signalManagers_rule (I := fun w' => w'.stage = w.stage)
    (fun _ _ hI _ _ _ _ hd => (disconnect_stage hd).trans hI) (fun _ hI _ _ => hI) hs rfl
  cases threw <;> exact hw₁

end Managers

/-! ## The stages of a request -/

/-- What a step does to the stage of client `c`. -/
inductive StageStep (w : World) (c : ClientPtr) : Label → Stage → Stage → Prop
  | other {l : Label} (s : Stage) (h : l.client ≠ some c) : StageStep w c l s s
  | connect (fresh : Bool) (s : Stage) : StageStep w c (.connect c fresh) s s
  | disconnect (reply : ℕ → ServiceReply) (s : Stage) : StageStep w c (.disconnect c reply) s s
  | accept (resets : Bool) (r : ClientRequest) (h : w.state.acceptingRequests = true) :
    StageStep w c (.request c resets r) .idle .accepted
  | refuse (resets : Bool) (r : ClientRequest) (h : w.state.acceptingRequests = false) :
    StageStep w c (.request c resets r) .idle .idle
  | reject : StageStep w c (.check c) .accepted .rejected
  | post : StageStep w c (.check c) .accepted .posted
  | take : StageStep w c (.take c) .posted .running
  | run (reply : ServiceReply) : StageStep w c (.run c reply) .running .ran
  | finishRejected : StageStep w c (.finish c) .rejected .idle
  | finishRan : StageStep w c (.finish c) .ran .idle

theorem fire_stageStep_self {codec : BasicProtocolCodec} {l : Label} (hl : l.client = some c)
    (hg : w.enabled l = true) (hf : fire codec w l = .ok w') :
    StageStep w c l (w.stage c) (w'.stage c) := by
  cases l <;> cases hl
  case connect fresh =>
    cases hf
    cases fresh with
    | false => exact .connect _ _
    | true =>
      simp only [enabled, Bool.not_true, Bool.false_or, Bool.and_eq_true,
        decide_eq_true_eq] at hg
      have hst : (w.connect c true).stage c = .idle := stage_setInvoker_self _
      rw [hst, hg.2]
      exact .connect _ _
  case disconnect reply =>
    rw [disconnect_stage hf]
    exact .disconnect _ _
  case request resets r =>
    simp only [enabled, Bool.and_eq_true, decide_eq_true_eq] at hg
    obtain ⟨b, i, rfl, -, -, hcase⟩ := request_ok hf
    rw [hg.2, stage_setInvoker_self]
    rcases hcase with ⟨ha, -, -, hst, -⟩ | ⟨ha, -, hst, -⟩ <;> rw [hst]
    · exact .accept _ _ ha
    · exact .refuse _ _ ha
  case check =>
    obtain ⟨b, i, hc, rfl⟩ := stepInvoker_ok.mp hf
    rw [show w.stage c = .accepted from of_decide_eq_true hg, stage_setInvoker_self]
    obtain ⟨cs, -, -, ⟨hst, -⟩ | ⟨-, -, rfl⟩⟩ := BackEnd.checkRequest_ok hc
    · rw [hst]
      exact .reject
    · exact .post
  case take =>
    simp only [enabled, Bool.and_eq_true, decide_eq_true_eq] at hg
    cases hf
    rw [hg.2, stage_setInvoker_self]
    exact .take
  case run reply =>
    obtain ⟨b, i, hr, rfl⟩ := stepInvoker_ok.mp hf
    obtain ⟨s, cd, -, rfl, -⟩ := BackEnd.runPosted_ok hr
    rw [show w.stage c = .running from of_decide_eq_true hg, stage_setInvoker_self]
    exact .run _
  case finish =>
    obtain ⟨-, rfl⟩ := finish_ok hf
    simp only [enabled, Bool.or_eq_true, decide_eq_true_eq] at hg
    rw [stage_setInvoker_self]
    rcases hg with hg | hg <;> rw [hg]
    · exact .finishRejected
    · exact .finishRan

theorem fire_invoker_other {codec : BasicProtocolCodec} {l : Label} {c' : ClientPtr}
    (hl : l.client = some c') (hne : c ≠ c') (hf : fire codec w l = .ok w') :
    w'.invokers c = w.invokers c := by
  cases l <;> cases hl
  case connect fresh =>
    cases hf
    cases fresh with
    | false => rfl
    | true => exact setInvoker_ne hne _
  case disconnect reply =>
    obtain ⟨b, cd, -, rfl⟩ := disconnect_ok hf
    exact setInvoker_ne hne _
  case request resets r =>
    obtain ⟨b, i, rfl, -⟩ := request_ok hf
    exact setInvoker_ne hne _
  case take =>
    cases hf
    exact setInvoker_ne hne _
  case finish =>
    obtain ⟨-, rfl⟩ := finish_ok hf
    exact setInvoker_ne hne _
  all_goals
    obtain ⟨b, i, -, rfl⟩ := stepInvoker_ok.mp hf
    exact setInvoker_ne hne _

theorem fire_stage_ne {codec : BasicProtocolCodec} {l : Label} (hl : l.client ≠ some c)
    (hf : fire codec w l = .ok w') : w'.stage c = w.stage c := by
  cases hcl : l.client with
  | none =>
    cases hsig : l.signals with
    | false =>
      rw [stage, (fire_sameClients hcl hsig hf).invokers]
      rfl
    | true =>
      obtain ⟨reply, rfl⟩ := Label.signals_eq_true hsig
      rw [signalStage_stage hf]
  | some c' =>
    have hne : c ≠ c' := fun heq => hl (hcl.trans (congrArg some heq.symm))
    rw [stage, fire_invoker_other hcl hne hf]
    rfl

/-- **Every step moves the stage of a client along.** -/
theorem fire_stageStep {codec : BasicProtocolCodec} {l : Label} (c : ClientPtr)
    (hg : w.enabled l = true) (hf : fire codec w l = .ok w') :
    StageStep w c l (w.stage c) (w'.stage c) := by
  by_cases hl : l.client = some c
  · exact fire_stageStep_self hl hg hf
  · rw [fire_stage_ne hl hf]
    exact .other _ hl

end World

end RblRpc
