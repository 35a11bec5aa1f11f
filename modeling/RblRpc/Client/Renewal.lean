import RblRpc.Client.Answering

/-!
# Renewing a subscription

`unsubscribe_service` makes the server forget a subscription, but not the factory: the client object
stays in `entry()`, and `subscribe_service` throws where it finds one.

* `Renewal`, `Renewed` — a subscription that nothing on the back end stands against, and that it
  succeeds.
* `Session.renewed_iff` — **it succeeds exactly when the factory has no client of the service**.
* `subscription_renewed_iff` — over runs.
* `subscribed_once` — after a first subscription every other one throws.
-/

namespace RblRpc

open World ServiceClientFactory Transition BackEnd

/-! ## Subscriptions that should succeed -/

/-- `subscribe_service` for a service `s` that is listed and accepts, of a client that is not
subscribed to it on the back end, into a class of the service. -/
structure Renewal (c : ClientPtr) (side : ClientSide ServerLink) (serviceName : Bytes)
    (methods : List Bytes) (reply : ServiceReply) (e : OidContainerEntry (Option ClientServiceBase))
    (s : Service) (fs : List (Bytes × (BasicMethod ⊕ ApplicationMethod))) : Prop where
  listed : side.factory.lookup serviceName = .ok e
  service : side.invoker.world.backEnd.serviceAt e.ordinal = some (some s)
  unsubscribed :
    side.invoker.world.backEnd.clientServiceCookies.isSubscribed e.ordinal.toNat c = false
  accepts : (answering e.ordinal reply).errorCode.isError = false
  classOf : ClassOf s fs methods

/-- The request `r` is for the function of `s` under the name `n`, and passes the checks of the back
end unless it is a second hello. -/
structure Addresses (c : ClientPtr) (o : UInt16) (s : Service)
    (fs : List (Bytes × (BasicMethod ⊕ ApplicationMethod))) (n : Bytes) (r : ClientRequest)
    (w : World) : Prop where
  service : r.serviceOrdinal = o.toUInt32
  function : ∃ name f, (name, f) ∈ fs ∧ foldCase name = foldCase n ∧
    s.functionAt r.requestOrdinal.toUInt16 = some f
  admitted : ¬r.isHello → Admitted c w.backEnd (w.received c r)

/-- **Method `i` of the client, with the name `n`, can be called**: whatever the messages and
whatever the function does, it sends one request for the function; and a function of an application
runs, and the call ends. -/
def CanCall (codec : BasicProtocolCodec) (c : ClientPtr) (resets : Bool)
    (client : ClientServiceBase) (o : UInt16) (s : Service)
    (fs : List (Bytes × (BasicMethod ⊕ ApplicationMethod))) (l : ServerLink) (i : ℕ)
    (n : Bytes) : Prop :=
  ∀ (I O : Type) (input : MessageCodec I) (output : MessageCodec O) (req : I)
    (reply : ServiceReply), ∃ r,
    (client.callMethod (lossFree codec c resets reply) input output (UInt16.ofNat i) req).runOn l =
      (((lossFree codec c resets reply).exchange r l).mapError .invoker).map
        (fun p => (ClientServiceBase.readResponse output p.1, p.2)) ∧
    Addresses c o s fs n r l.world ∧
    (s.impl ≠ .basicProtocol → ∃ res l', (lossFree codec c resets reply).exchange r l =
      .ok (res, l') ∧ ∃ s' b b' cd cd', Ran codec c r reply l.world res l'.world s' b b' cd cd')

/-- **The subscription succeeds**: the call returns a client that is subscribed, as the server has
it too, and whose methods can be called. -/
def Renewed (codec : BasicProtocolCodec) (c : ClientPtr) (resets : Bool) (o : UInt16) (s : Service)
    (fs : List (Bytes × (BasicMethod ⊕ ApplicationMethod))) (methods : List Bytes)
    (r : Except (ClientFault LinkFault)
      (Except ClientException ClientServiceBase × ClientSide ServerLink)) : Prop :=
  ∃ client side', r = .ok (.ok client, side') ∧ client.isSubscribed = true ∧
    side'.invoker.world.backEnd.clientServiceCookies.isSubscribed o.toNat c = true ∧
    ∀ i n, methods[i]? = some n → CanCall codec c resets client o s fs side'.invoker i n

/-- The factory has made no client of the service, counts the service, and the caller has an object
for the result string, if there is one. -/
structure Unmade (side : ClientSide ServerLink) (serviceName : Bytes) (hasResponseData : Bool)
    (reply : ServiceReply) (e : OidContainerEntry (Option ClientServiceBase)) : Prop where
  asks : Asks side.factory serviceName e
  object : (answering e.ordinal reply).output.getD [] = [] ∨ hasResponseData = true

variable {codec : BasicProtocolCodec} {c : ClientPtr} {resets : Bool} {reply : ServiceReply}
  {side side' : ClientSide ServerLink} {l l' : ServerLink} {o : UInt16} {bpc : ClientServiceBase}
  {serviceName : Bytes} {requestData : Option Bytes} {hasResponseData : Bool} {methods : List Bytes}
  {e : OidContainerEntry (Option ClientServiceBase)} {s : Service}
  {fs : List (Bytes × (BasicMethod ⊕ ApplicationMethod))}

/-- **An accepted subscription** is marked on the server, whose answer says so. -/
theorem runOn_rpcSubscribeService_accepted (hasResponseData : Bool) {data : Option Bytes}
    {answer : Except ClientException SubscribeServiceResponse} (h : Serving c l.world)
    (hcodec : codec.Lawful) (hbpc : Bound bpc) (ho : o.toNat < l.world.backEnd.services.size)
    (hnot : l.world.backEnd.clientServiceCookies.isSubscribed o.toNat c = false)
    (haccepts : (answering o reply).errorCode.isError = false)
    (hrun : (BasicProtocolClient.rpcSubscribeService (lossFree codec c resets reply) codec
      ⟨o.toUInt32, data⟩ bpc).runOn l = .ok (answer, l')) :
    l'.world.backEnd.clientServiceCookies.isSubscribed o.toNat c = true ∧
      (TakesFor hasResponseData answer ↔
        (answering o reply).output.getD [] = [] ∨ hasResponseData = true) := by
  have htakes := takesFor_iff hcodec hasResponseData (answering o reply)
  rw [haccepts] at htakes
  by_cases hzero : o = 0
  · obtain ⟨hflag, rfl⟩ := (runOn_rpcSubscribeService_exceptions hasResponseData h hcodec hbpc ho
      hrun).2 hzero hnot
    rw [answering, if_pos hzero] at htakes ⊢
    exact ⟨hflag, htakes.trans (and_iff_left fun hf => nomatch hf)⟩
  · obtain ⟨-, hown⟩ := runOn_rpcSubscribeService h hcodec hbpc ho hrun
    obtain ⟨hflag, rfl⟩ := hown hzero hnot
    rw [answering, if_neg hzero] at htakes haccepts ⊢
    rw [haccepts] at hflag
    exact ⟨hflag, htakes.trans (and_iff_left fun hf => nomatch hf)⟩

/-- A subscription that is asked for and accepted, into a class of the service, makes a client. -/
theorem Session.subscribe_returns (h : Session c side) (hlive : Live codec c side.invoker.world)
    (hcodec : codec.Lawful) (hrenewal : Renewal c side serviceName methods reply e s fs)
    (hunmade : Unmade side serviceName hasResponseData reply e) (resets : Bool)
    (requestData : Option Bytes) :
    ∃ client i side', (ServiceClientFactory.subscribeService (lossFree codec c resets reply) codec
        serviceName requestData hasResponseData methods).runOn side = .ok (.ok client, side') ∧
      OnlySubscription codec c e.ordinal side.invoker.world (ServerLink.world i) ∧
      i.world.backEnd.clientServiceCookies.isSubscribed e.ordinal.toNat c = true ∧
      Made codec c methods e.ordinal i.world side'.invoker.world client := by
  obtain ⟨hasks, hobject⟩ := hunmade
  obtain ⟨hlists, -, hlt⟩ := h.asks hasks
  have hlegal : ∀ n ∈ methods, n ≠ [] ∧ (0 : UInt8) ∉ n := fun n hn =>
    ⟨(hrenewal.classOf.client.legal n hn).nonempty, (hrenewal.classOf.client.legal n hn).nulFree⟩
  -- the server accepts
  obtain ⟨⟨answer, i⟩, hcall⟩ := runOn_rpcSubscribeService_total resets reply hcodec h.valid.bpc
    hlive h.serving.established hrenewal.service requestData
  obtain ⟨hflag, htakes⟩ := runOn_rpcSubscribeService_accepted hasResponseData
    h.serving hcodec h.valid.bpc hlt hrenewal.unsubscribed hrenewal.accepts hcall
  obtain ⟨honly, -⟩ := runOn_rpcSubscribeService h.serving hcodec h.valid.bpc hlt hcall
  obtain ⟨res, rfl, herr, hstring⟩ := htakes.mpr hobject
  -- the client is made and bound
  obtain ⟨side₁, hside₁⟩ : ∃ side₁ : ClientSide ServerLink, side₁ = { side with invoker := i } :=
    ⟨_, rfl⟩
  have hrpc : (ClientSide.rpc (BasicProtocolClient.rpcSubscribeService
      (lossFree codec c resets reply) codec ⟨e.ordinal.toUInt32, requestData⟩)).runOn side =
        .ok (.ok res, side₁) :=
    runOn_rpc_eq_ok.mpr ⟨i, hcall, hside₁⟩
  have hlive₁ : Live codec c side₁.invoker.world :=
    (keptBy_live e.ordinal).rpc _ _ _ _ _ _ _ hlive hrpc
  have hservices : i.world.backEnd.services = side.invoker.world.backEnd.services :=
    honly.advances.control.services
  obtain ⟨mes, made, hmatched⟩ := hrenewal.classOf.matched
  obtain ⟨client, side', hmake⟩ := makeClient_total resets reply hcodec hmatched hlegal hlive₁
    (by rw [hside₁]; exact honly.advances.serving) (by rw [hside₁]; exact h.valid)
    (by rw [hside₁]; exact hlists) (by rw [hside₁, serviceAt, hservices]; exact hrenewal.service)
  have hrun : (ServiceClientFactory.subscribeService (lossFree codec c resets reply) codec
      serviceName requestData hasResponseData methods).runOn side = .ok (.ok client, side') := by
    unfold ServiceClientFactory.subscribeService
    rw [Call.runOn_bind_of_ok (a := e) (t := side) (by rw [runOn_entryNamed, hasks.lookup]),
      if_neg (by rw [hasks.fresh]; exact Bool.false_ne_true),
      Call.runOn_bind_of_ok (Call.runOn_get side), if_neg (UInt16.not_le.mpr hasks.ordinal),
      Call.runOn_bind_of_ok hrpc, if_neg (not_not.mpr herr), if_neg ?_]
    · exact hmake
    · rintro ⟨hne, hno⟩
      rcases hstring with hempty | hdata
      · exact hne hempty
      · rw [hno] at hdata
        cases hdata
  subst hside₁
  have hvalid : Valid ({ side with invoker := i } : ClientSide ServerLink).factory := h.valid
  have hlt' : e.ordinal.toNat < i.world.backEnd.services.size := by
    rw [hservices]
    exact hlt
  rcases makeClient_lossFree hcodec hlegal hvalid honly.advances.serving hlists hlt' hmake with
    ⟨x, -, hres, -⟩ | ⟨client', hres, -, -, hmade⟩
  · cases hres
  · cases hres
    exact ⟨client, i, side', hrun, honly, hflag, hmade⟩

/-- **The methods of a client that was made can be called.** -/
theorem Made.canCall {w : World} {client : ClientServiceBase}
    (hmade : Made codec c methods o w l.world client) (hlive : Live codec c l.world)
    (hclass : ClassOf s fs methods) (hs : w.backEnd.serviceAt o = some (some s))
    (hsub : w.backEnd.clientServiceCookies.isSubscribed o.toNat c = true) {i : ℕ} {n : Bytes}
    (hn : methods[i]? = some n) : CanCall codec c resets client o s fs l i n := by
  intro I O input output req reply
  obtain ⟨mes, made, hmatched⟩ := hclass.matched
  obtain ⟨made', s', mes', hconstruct, hs', hmes', hrebound⟩ := hmade.bound
  cases hs.symm.trans hs'
  cases hmatched.listed.symm.trans hmes'
  cases hmatched.constructed.symm.trans hconstruct
  obtain ⟨name, f, v, hmem, hfold, hv, hf⟩ := hmatched.binds _ hrebound i n hn
  have hreq : client.requestOf (UInt16.ofNat i) ((input.serializeToString req).getD []) =
      some ⟨o.toUInt32, v.toUInt32, (input.serializeToString req).getD []⟩ := by
    rw [ClientServiceBase.requestOf, hmade.serviceOrdinal, hv]
    rfl
  have hservice : l.world.backEnd.serviceAt o = some (some s) := by
    rw [serviceAt, hmade.advances.control.services]
    exact hs
  have hsub' : l.world.backEnd.clientServiceCookies.isSubscribed o.toNat c = true :=
    (hmade.subscriptions _).trans hsub
  have hest := hmade.advances.serving.established
  refine ⟨_, ClientServiceBase.runOn_callMethod l hreq, ⟨rfl, ⟨name, f, hmem, hfold, ?_⟩, ?_⟩,
    fun happ => application_answered resets reply _ hlive hest hservice hf happ hsub'⟩
  · show s.functionAt v.toUInt32.toUInt16 = some f
    rw [UInt16.toUInt16_toUInt32]
    exact hf
  · exact admitted_of_functionAt _ hest hservice hf fun _ => hsub'

/-- **A subscription that nothing on the back end stands against succeeds exactly when the factory
has made no client of the service**, counts it, and the caller takes what the service says. -/
theorem Session.renewed_iff (h : Session c side) (hlive : Live codec c side.invoker.world)
    (hcodec : codec.Lawful) (hrenewal : Renewal c side serviceName methods reply e s fs)
    (resets : Bool) (requestData : Option Bytes) (hasResponseData : Bool) :
    Renewed codec c resets e.ordinal s fs methods
        ((ServiceClientFactory.subscribeService (lossFree codec c resets reply) codec serviceName
          requestData hasResponseData methods).runOn side) ↔
      Unmade side serviceName hasResponseData reply e := by
  constructor
  · rintro ⟨client, side', hrun, -⟩
    rcases runOn_subscribeService hrun with
      ⟨-, -, x, hres⟩ | ⟨e', answer, i, hasks, hcall, ⟨-, -, x, hres⟩ | ⟨htakes, -⟩⟩
    · cases hres
    · cases hres
    · obtain rfl : e' = e := Except.ok.inj (hasks.lookup.symm.trans hrenewal.listed)
      obtain ⟨-, -, hlt⟩ := h.asks hasks
      exact ⟨hasks, (runOn_rpcSubscribeService_accepted hasResponseData h.serving hcodec h.valid.bpc
        hlt hrenewal.unsubscribed hrenewal.accepts hcall).2.mp htakes⟩
  · intro hunmade
    obtain ⟨client, i, side', hrun, honly, hflag, hmade⟩ :=
      h.subscribe_returns hlive hcodec hrenewal hunmade resets requestData
    have hlive' : Live codec c side'.invoker.world :=
      keptBy_live.subscribeService _ _ _ _ _ _ _ hlive hrun
    refine ⟨client, side', hrun, hmade.isSubscribed, (hmade.subscriptions _).trans hflag,
      fun j n hn => hmade.canCall hlive' hrenewal.classOf ?_ hflag hn⟩
    rw [serviceAt, honly.advances.control.services]
    exact hrenewal.service

/-! ## Runs -/

/-- A call that should subscribe does. -/
def Renews (codec : BasicProtocolCodec) (c : ClientPtr) (resets : Bool)
    (side : ClientSide ServerLink) : FactoryCall → Prop
  | .subscribeService serviceName requestData hasResponseData methods reply =>
    ∀ e s fs, Renewal c side serviceName methods reply e s fs →
      Renewed codec c resets e.ordinal s fs methods
        ((ServiceClientFactory.subscribeService (lossFree codec c resets reply) codec serviceName
          requestData hasResponseData methods).runOn side)
  | _ => True

/-- A call that should subscribe is the first for its service. -/
def FirstTime (c : ClientPtr) (side : ClientSide ServerLink) : FactoryCall → Prop
  | .subscribeService serviceName _ hasResponseData methods reply =>
    ∀ e s fs, Renewal c side serviceName methods reply e s fs →
      Unmade side serviceName hasResponseData reply e
  | _ => True

/-- **Subscriptions are renewed, exactly.**  In a run of the calls on a factory, of any length and
in any order, every call that should subscribe does if and only if the factory had made no client
of its service. -/
theorem subscription_renewed_iff (hcodec : codec.Lawful) (hstart : Started codec c resets side)
    {tr : List (ClientSide ServerLink × FactoryCall)}
    {r : Except (ClientFault LinkFault) (ClientSide ServerLink)}
    (hrun : (factoryMachine codec c resets).Run side tr r) :
    (∀ p ∈ tr, Renews codec c resets p.1 p.2) ↔ ∀ p ∈ tr, FirstTime c p.1 p.2 := by
  refine hrun.each_iff (J := fun side => Session c side ∧ Live codec c side.invoker.world)
    (fun side₁ call side₂ hJ _ hg hf => ?_) (fun side₁ call hJ _ => ?_)
    ⟨(hstart.session hcodec).1, hstart.live hcodec⟩
  · exact ⟨hJ.1.step hcodec hg hf, FactoryCall.keeps (fun _ => keptBy_live) hJ.2 hf⟩
  · obtain ⟨hsession, hlive⟩ := hJ
    cases call with
    | getService serviceName => exact Iff.rfl
    | subscribeService serviceName requestData hasResponseData methods reply =>
      refine forall₃_congr fun e s fs => forall_congr' fun hrenewal => ?_
      exact hsession.renewed_iff hlive hcodec hrenewal resets requestData hasResponseData
    | unsubscribeService serviceName reply => exact Iff.rfl

/-- `subscribe_service` throws where the factory has a client of the service. -/
theorem subscribeService_of_client {F σ : Type} {side : ClientSide σ} {inv : InvokerBase F σ}
    (hlookup : side.factory.lookup serviceName = .ok e) (hclient : e.entry.isSome = true) :
    (ServiceClientFactory.subscribeService inv codec serviceName requestData hasResponseData
      methods).runOn side = .ok (.error .backEnd, side) := by
  unfold ServiceClientFactory.subscribeService
  rw [Call.runOn_bind_of_ok (a := e) (t := side) (by rw [runOn_entryNamed, hlookup]),
    if_pos hclient]
  rfl

/-- **A service is subscribed to once.**  After a `subscribe_service` that returned, whatever calls
follow, every other one for the service throws, and leaves everything as it is. -/
theorem subscribed_once {side₀ side₁ : ClientSide ServerLink} {client : ClientServiceBase}
    {serviceName' : Bytes} {requestData' : Option Bytes} {hasResponseData' : Bool}
    {methods' : List Bytes} {reply' : ServiceReply}
    {e' : OidContainerEntry (Option ClientServiceBase)} (hcodec : codec.Lawful)
    (hstart : Started codec c resets side₀)
    (hreach : (factoryMachine codec c resets).Reaches side₀ side)
    (hlegal : ∀ n ∈ methods, n ≠ [] ∧ (0 : UInt8) ∉ n)
    (hlookup : side.factory.lookup serviceName = .ok e)
    (hrun : (ServiceClientFactory.subscribeService (lossFree codec c resets reply) codec serviceName
      requestData hasResponseData methods).runOn side = .ok (.ok client, side₁))
    (hreach' : (factoryMachine codec c resets).Reaches side₁ side')
    (hlookup' : side'.factory.lookup serviceName' = .ok e') (hsame : e'.ordinal = e.ordinal) :
    (ServiceClientFactory.subscribeService (lossFree codec c resets reply') codec serviceName'
      requestData' hasResponseData' methods').runOn side' = .ok (.error .backEnd, side') := by
  have hstep : ∀ s call s', Session c s → (factoryMachine codec c resets).guard s call = true →
      (factoryMachine codec c resets).fire s call = .ok s' → Session c s' :=
    fun _ _ _ hI hg hf => hI.step hcodec hg hf
  have hsession := hreach.invariant hstep (hstart.session hcodec).1
  rcases hsession.subscribeService hcodec hlegal hrun with
    ⟨-, -, x, hres⟩ | ⟨e₁, answer, i, hasks, honly, -, ⟨-, -, x, hres⟩ |
      ⟨-, _, -, hclient, hother, hmade⟩⟩
  · cases hres
  · cases hres
  · obtain rfl : e₁ = e := Except.ok.inj (hasks.lookup.symm.trans hlookup)
    have hsession₁ : Session c side₁ :=
      hsession.advance (honly.advances.trans hmade.advances) hother
    have hsession' := hreach'.invariant hstep hsession₁
    have hstays : (side'.factory.client? e₁.ordinal).isSome = true :=
      hreach'.invariant (I := fun s => (s.factory.client? e₁.ordinal).isSome = true)
        (fun _ _ _ hI _ hf => FactoryCall.keeps (fun _ => keptBy_client e₁.ordinal) hI hf)
        (by rw [hclient]; rfl)
    obtain ⟨-, hentry⟩ := hsession'.valid.lookup hlookup'
    refine subscribeService_of_client hlookup' ?_
    rw [← hentry, hsame]
    exact hstays

/-! ## The service with two methods, again -/

/-- Two such services. -/
def archiveLabels : List Label :=
  [.poolSize 1, .registerService storeService,
    .registerService { storeService with name := ascii "Archive" }, .start, .connect 7 true]

/-- One service is subscribed to and unsubscribed from, and then the other is subscribed to. -/
theorem subscription_renewed_iff_sample : ∃ (side' : ClientSide ServerLink)
    (tr : List (ClientSide ServerLink × FactoryCall)),
    tr.map (fun p => ((p.1.factory.client? 1).isSome, (p.1.factory.client? 2).isSome)) =
      [(false, false), (true, false), (true, false)] ∧
      ((∀ p ∈ tr, Renews basicProtocolCodec 7 true p.1 p.2) ↔ ∀ p ∈ tr, FirstTime 7 p.1 p.2) ∧
      (side'.factory.client? 2).isSome = true := by
  obtain ⟨side, hside⟩ := Option.isSome_iff_exists.mp
    (show (startFactory archiveLabels).isSome = true by decide +kernel)
  have hstart := started_of_startFactory (by decide +kernel) hside
  have hrun : (startFactory archiveLabels).map (fun side =>
      let m := factoryMachine basicProtocolCodec 7 true
      let calls : List FactoryCall :=
        [.subscribeService (ascii "store") none false [ascii "get", ascii "set"] {},
          .unsubscribeService (ascii "store") {},
          .subscribeService (ascii "archive") none false [ascii "get", ascii "set"] {}]
      (m.admits side calls, (m.exec side calls).1.map fun p =>
        ((p.1.factory.client? 1).isSome, (p.1.factory.client? 2).isSome),
        (m.exec side calls).2.toOption.map fun side' => (side'.factory.client? 2).isSome)) =
      some (true, [(false, false), (true, false), (true, false)], some true) := by decide +kernel
  rw [hside] at hrun
  obtain ⟨hadm, hobs⟩ := Prod.mk.inj (Option.some.inj hrun)
  obtain ⟨hclients, hobs⟩ := Prod.mk.inj hobs
  obtain ⟨side', hexec, hclient⟩ :=
    (factoryMachine basicProtocolCodec 7 true).exec_observed side _ _ hadm hobs
  exact ⟨side', _, hclients, subscription_renewed_iff basicProtocolCodec_lawful hstart hexec,
    hclient⟩

/-- The factory has a client of the service at ordinal 1, which is `store` with this dispatch table,
and is not subscribed on the back end. -/
def storeForgotten (t : Option (OidContainer ApplicationMethod)) (side : ClientSide ServerLink) :
    Bool :=
  match side.factory.lookup (ascii "store"), side.invoker.world.backEnd.serviceAt 1 with
  | .ok e, some (some ⟨_, .application t', _, _⟩) =>
    decide (e.ordinal = 1) && e.entry.isSome && decide (t = some t') &&
      !side.invoker.world.backEnd.clientServiceCookies.isSubscribed 1 7
  | _, _ => false

theorem storeForgotten_eq_true {t : Option (OidContainer ApplicationMethod)}
    (h : storeForgotten t side = true) : ∃ e s t', side.factory.lookup (ascii "store") = .ok e ∧
      side.invoker.world.backEnd.serviceAt 1 = some (some s) ∧ s.impl = .application t' ∧
      e.ordinal = 1 ∧ e.entry.isSome = true ∧ t = some t' ∧
      side.invoker.world.backEnd.clientServiceCookies.isSubscribed 1 7 = false := by
  unfold storeForgotten at h
  split at h
  · rename_i e name t' init teardown hlookup hs
    simp only [Bool.and_eq_true, decide_eq_true_eq, Bool.not_eq_true'] at h
    obtain ⟨⟨⟨hord, hclient⟩, ht⟩, hsub⟩ := h
    exact ⟨e, _, t', hlookup, hs, rfl, hord, hclient, ht, hsub⟩
  · cases h

/-- A service with the table of `store` is one for clients with the methods `get` and `set`. -/
theorem store_classOf {t : OidContainer ApplicationMethod} (himpl : s.impl = .application t)
    (ht : buildTable storeMethods = .ok t) :
    ClassOf s (storeMethods.map fun p => (p.1, .inr p.2)) [ascii "get", ascii "set"] := by
  refine ⟨?_, by decide +kernel, by decide +kernel, fun n => ?_⟩
  · rw [Service.Declares, himpl]
    exact ⟨storeMethods, ht, rfl⟩
  · have hfold : ((storeMethods.map fun p =>
        (p.1, (.inr p.2 : BasicMethod ⊕ ApplicationMethod))).map (·.1)).map foldCase =
          [ascii "get", ascii "set"].map foldCase := by decide +kernel
    rw [hfold]

/-- **A subscription is not renewed**: the service was subscribed to and unsubscribed from. -/
theorem renewal_throws : ¬ ∀ (codec : BasicProtocolCodec) (c : ClientPtr) (resets : Bool)
    (side : ClientSide ServerLink) (tr : List (ClientSide ServerLink × FactoryCall))
    (r : Except (ClientFault LinkFault) (ClientSide ServerLink)), codec.Lawful →
    Started codec c resets side → (factoryMachine codec c resets).Run side tr r →
    ∀ p ∈ tr, Renews codec c resets p.1 p.2 := by
  intro h
  obtain ⟨side, hside, hstart⟩ := startFactory_store
  have hrun : (startFactory storeLabels).map (fun side =>
      ((factoryMachine basicProtocolCodec 7 true).admits side subscribedAndNot,
        ((factoryMachine basicProtocolCodec 7 true).exec side subscribedAndNot).2.toOption.map
          (storeForgotten (buildTable storeMethods).toOption))) = some (true, some true) := by
    decide +kernel
  rw [hside] at hrun
  obtain ⟨hadm, hobs⟩ := Prod.mk.inj (Option.some.inj hrun)
  obtain ⟨side', hexec, hobs⟩ := (factoryMachine basicProtocolCodec 7 true).exec_observed side _ _
    hadm hobs
  obtain ⟨e, s, t, hlookup, hs, himpl, hord, hclient, ht, hunsubscribed⟩ :=
    storeForgotten_eq_true hobs
  have hbuild : buildTable storeMethods = .ok t := by
    cases hb : buildTable storeMethods with
    | error x =>
      rw [hb] at ht
      cases ht
    | ok t' =>
      rw [hb] at ht
      cases ht
      rfl
  -- the third call throws, although nothing on the back end stands against it
  have hthrows : (ServiceClientFactory.subscribeService (lossFree basicProtocolCodec 7 true {})
      basicProtocolCodec (ascii "store") none false [ascii "get", ascii "set"]).runOn side' =
        .ok (.error .backEnd, side') := subscribeService_of_client hlookup hclient
  have hguard : (FactoryCall.subscribeService (ascii "store") none false
      [ascii "get", ascii "set"] {}).enabled = true := by decide +kernel
  have hlast : (factoryMachine basicProtocolCodec 7 true).Run side'
      [(side', .subscribeService (ascii "store") none false [ascii "get", ascii "set"] {})]
      (.ok side') := .step hguard (Call.map_eq_ok.mpr ⟨_, hthrows, rfl⟩) (.done _)
  have hrenews := h _ _ _ _ _ _ basicProtocolCodec_lawful hstart (hexec.append hlast) _
    (List.mem_append_right _ List.mem_cons_self)
  obtain ⟨client, side₃, hrun₃, -⟩ := hrenews e s _
    ⟨hlookup, by rw [hord]; exact hs, by rw [hord]; exact hunsubscribed, by rw [hord]; rfl,
      store_classOf himpl hbuild⟩
  rw [hthrows] at hrun₃
  cases hrun₃

end RblRpc
