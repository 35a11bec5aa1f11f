import RblRpc.Client.Agreement

/-!
# Refused subscriptions

A service refuses a subscription through the error code of the client data, which is not in the
response; the field of the response that would say so is not set then, and reads as its first
enumerator, which is success.

* `Marked` — the server subscribes the client in a call.
* `RefusalReported` — a call returns only if it was marked; else it throws and makes no client.
* `Unnoticed` — the calls that are refused and do not see it.
* `refusal_reported_iff` — **these are exactly the calls whose refusal is not reported.**
-/

namespace RblRpc

open World ServiceClientFactory Transition

/-- Between `w` and `w'` the cookie of `c` for the service at `o` was marked as subscribed. -/
def Marked (c : ClientPtr) (o : UInt16) (w w' : World) : Prop :=
  w.backEnd.clientServiceCookies.isSubscribed o.toNat c = false ∧
    w'.backEnd.clientServiceCookies.isSubscribed o.toNat c = true

/-- A `subscribe_service` that the server did not accept throws, and leaves no client. -/
structure RefusalReported (c : ClientPtr) (o : UInt16) (side : ClientSide ServerLink)
    (res : Except ClientException ClientServiceBase) (side' : ClientSide ServerLink) : Prop where
  throws : ¬Marked c o side.invoker.world side'.invoker.world → ∃ x, res = .error x
  noClient : ¬Marked c o side.invoker.world side'.invoker.world → side'.factory.client? o = none

/-- The service is an application's and refuses, protobuf serialises the response without its
required field, and nothing else stops the client. -/
structure Unnoticed (codec : BasicProtocolCodec) (c : ClientPtr) (o : UInt16)
    (hasResponseData : Bool) (methods : List Bytes) (reply : ServiceReply) (w : World) : Prop where
  application : o ≠ 0
  asked : w.backEnd.clientServiceCookies.isSubscribed o.toNat c = false
  refused : reply.errorCode.isError = true
  serialized :
    (codec.subscribeServiceResponse.serializeToString (subscribeAnswer reply)).isSome = true
  completes : Completes hasResponseData methods reply

variable {codec : BasicProtocolCodec} {c : ClientPtr} {resets : Bool} {reply : ServiceReply}
  {side side' : ClientSide ServerLink} {o : UInt16} {l l' : ServerLink} {bpc : ClientServiceBase}

/-! ## The answers of the server -/

namespace BasicProtocolImpl

variable {b b' : BackEnd} {cd cd' : ClientData} {data : Option Bytes}
  {out : SubscribeServiceResponse}

/-- A client that is subscribed is told so; `basic_protocol` refuses nobody. -/
theorem rpcSubscribeService_exceptions
    (h : rpcSubscribeService c reply b cd ⟨o.toUInt32, data⟩ = .ok (b', cd', out))
    (ho : o.toNat < b.services.size) (hno : cd.errorCode = {}) :
    (b.clientServiceCookies.isSubscribed o.toNat c = true →
      out = { error := some .serviceAllreadySubscribed }) ∧
    ((∀ s, b.serviceAt o = some (some s) → s.impl = .basicProtocol) →
      b.clientServiceCookies.isSubscribed o.toNat c = false →
      b'.clientServiceCookies.isSubscribed o.toNat c = true ∧ out = subscribeAnswer {}) := by
  have hord : (o.toUInt32).toUInt16 = o := UInt16.toUInt16_toUInt32 o
  cases rpcSubscribeService_step h with
  | outOfRange hrange => exact absurd ((UInt16.toNat_toUInt32 o).trans_lt ho) hrange
  | allready _ _ hsub =>
    rw [hord] at hsub
    exact ⟨fun _ => rfl, fun _ hnot => by cases hsub.symm.trans hnot⟩
  | called _ _ hsub hs hanswer hset =>
    rw [hord] at hsub hs hset
    refine ⟨fun hyes => absurd (hsub.symm.trans hyes) Bool.false_ne_true, fun hbasic _ => ?_⟩
    have hflag := ClientServiceCookies.isSubscribed_setCookie hset
    rw [callReply, hbasic _ hs] at hanswer
    subst hanswer
    refine ⟨(hflag o.toNat c).trans ((if_pos ⟨rfl, rfl⟩).trans ?_), ?_⟩
    · simp [ServiceReply.applyTo, hno, ErrorCode.isError]
    · simp [subscribeAnswer, ServiceReply.applyTo, hno, ErrorCode.isError]

end BasicProtocolImpl

/-- **`rpc_subscribe_service`** of a client that is subscribed, or to `basic_protocol`. -/
theorem runOn_rpcSubscribeService_exceptions {data : Option Bytes} (hasResponseData : Bool)
    {res : Except ClientException SubscribeServiceResponse} (h : Serving c l.world)
    (hcodec : codec.Lawful) (hbpc : Bound bpc) (ho : o.toNat < l.world.backEnd.services.size)
    (hrun : (BasicProtocolClient.rpcSubscribeService (lossFree codec c resets reply) codec
      ⟨o.toUInt32, data⟩ bpc).runOn l = .ok (res, l')) :
    (l.world.backEnd.clientServiceCookies.isSubscribed o.toNat c = true →
      ¬TakesFor hasResponseData res) ∧
    (o = 0 → l.world.backEnd.clientServiceCookies.isSubscribed o.toNat c = false →
      l'.world.backEnd.clientServiceCookies.isSubscribed o.toNat c = true ∧
        res = delivered codec.subscribeServiceResponse (subscribeAnswer {})) := by
  obtain ⟨b, b', cd, cd', out, hhandled, hno, himpl, rfl⟩ := h.dispatched hbpc
    (m := .rpcSubscribeService) (by decide) rfl rfl hcodec.subscribeServiceRequest
    (fun _ _ _ _ _ himpl => congrArg ClientResponse.error
      (BasicProtocolImpl.rpcSubscribeService_response himpl)) hrun
  obtain ⟨htold, hbasic⟩ := BasicProtocolImpl.rpcSubscribeService_exceptions himpl
    (by rw [hhandled.services]; exact ho) hno
  constructor
  · intro hsub
    obtain rfl := htold ((hhandled.before _ _).trans hsub)
    rw [delivered_of_initialized hcodec.subscribeServiceResponse rfl]
    rintro ⟨r, hr, herr, -⟩
    cases hr
    cases herr
  · rintro rfl hnot
    obtain ⟨hflag, hout⟩ := hbasic (fun s hs => by
      rw [hhandled.serviceAt] at hs
      exact (h.sound.registry.typed 0 s hs).mpr rfl) ((hhandled.before _ _).trans hnot)
    rw [hhandled.after, hout]
    exact ⟨hflag, rfl⟩

/-! ## Calls -/

/-- A client that is not told of a subscription makes none. -/
theorem Session.noClient_of_error (h : Session c side) (hcodec : codec.Lawful) {serviceName : Bytes}
    {requestData : Option Bytes} {hasResponseData : Bool} {methods : List Bytes}
    {res : Except ClientException ClientServiceBase} {e : OidContainerEntry (Option ClientServiceBase)}
    (hnames : ∀ n ∈ methods, n ≠ [] ∧ (0 : UInt8) ∉ n) (hasks : Asks side.factory serviceName e)
    (hrun : (ServiceClientFactory.subscribeService (lossFree codec c resets reply) codec serviceName
      requestData hasResponseData methods).runOn side = .ok (res, side'))
    (herror : ∃ x, res = .error x) : side'.factory.client? e.ordinal = none := by
  obtain ⟨x, rfl⟩ := herror
  obtain ⟨-, hnone, -⟩ := h.asks hasks
  rcases h.subscribeService hcodec hnames hrun with
    ⟨-, rfl, -⟩ | ⟨e', answer, i, -, -, -, ⟨-, rfl, -⟩ | ⟨-, client, hres, -⟩⟩
  · exact hnone
  · exact hnone
  · cases hres

/-- **A call that returns was accepted, or its refusal went unnoticed.** -/
theorem Session.marked_or_unnoticed (h : Session c side) (hcodec : codec.Lawful)
    {serviceName : Bytes} {requestData : Option Bytes} {hasResponseData : Bool}
    {methods : List Bytes} {client : ClientServiceBase}
    {e : OidContainerEntry (Option ClientServiceBase)}
    (hnames : ∀ n ∈ methods, n ≠ [] ∧ (0 : UInt8) ∉ n) (hasks : Asks side.factory serviceName e)
    (hrun : (ServiceClientFactory.subscribeService (lossFree codec c resets reply) codec serviceName
      requestData hasResponseData methods).runOn side = .ok (.ok client, side')) :
    Marked c e.ordinal side.invoker.world side'.invoker.world ∨
      Unnoticed codec c e.ordinal hasResponseData methods reply side.invoker.world := by
  rcases runOn_subscribeService hrun with
    ⟨hno, -⟩ | ⟨e', answer, i, hasks', hcall, ⟨-, -, x, hres⟩ | ⟨htakes, hmake⟩⟩
  · exact absurd hasks (hno e)
  · cases hres
  · obtain rfl : e' = e := Except.ok.inj (hasks'.lookup.symm.trans hasks.lookup)
    obtain ⟨hlists, -, hlt⟩ := h.asks hasks
    obtain ⟨honly, hanswer⟩ := runOn_rpcSubscribeService h.serving hcodec h.valid.bpc hlt hcall
    obtain ⟨htold, hbasic⟩ := runOn_rpcSubscribeService_exceptions hasResponseData
      h.serving hcodec h.valid.bpc hlt hcall
    have hnot : side.invoker.world.backEnd.clientServiceCookies.isSubscribed e'.ordinal.toNat c =
        false := by
      by_contra hsub
      exact htold (Bool.eq_true_of_not_eq_false hsub) htakes
    have hlt' : e'.ordinal.toNat < i.world.backEnd.services.size := by
      rw [honly.advances.control.services]
      exact hlt
    have hvalid : Valid ({ side with invoker := i } : ClientSide ServerLink).factory := h.valid
    rcases makeClient_lossFree hcodec hnames hvalid honly.advances.serving hlists hlt' hmake with
      ⟨x, -, hres, -⟩ | ⟨client', -, -, -, hmade⟩
    · cases hres
    · have hafter := hmade.subscriptions e'.ordinal.toNat
      by_cases ho : e'.ordinal = 0
      · exact .inl ⟨hnot, hafter.trans (hbasic ho hnot).1⟩
      · obtain ⟨hflag, rfl⟩ := hanswer ho hnot
        obtain ⟨hstring, hser⟩ := (takesFor_iff hcodec _ _).mp htakes
        obtain ⟨made, s, mes, hconstruct, -⟩ := hmade.bound
        cases hrefused : reply.errorCode.isError with
        | false =>
          rw [hrefused] at hflag
          exact .inl ⟨hnot, hafter.trans hflag⟩
        | true => exact .inr ⟨ho, hnot, hrefused, hser hrefused, hstring, made, hconstruct⟩

/-- **A refusal that goes unnoticed**: the call returns, and the server has marked nothing. -/
theorem Session.returns_of_unnoticed (h : Session c side) (hcodec : codec.Lawful)
    {serviceName : Bytes} {requestData : Option Bytes} {hasResponseData : Bool}
    {methods : List Bytes} {res : Except ClientException ClientServiceBase}
    {e : OidContainerEntry (Option ClientServiceBase)}
    (hnames : ∀ n ∈ methods, n ≠ [] ∧ (0 : UInt8) ∉ n) (hasks : Asks side.factory serviceName e)
    (hrun : (ServiceClientFactory.subscribeService (lossFree codec c resets reply) codec serviceName
      requestData hasResponseData methods).runOn side = .ok (res, side'))
    (hmissed : Unnoticed codec c e.ordinal hasResponseData methods reply side.invoker.world) :
    (∃ client, res = .ok client) ∧
      ¬Marked c e.ordinal side.invoker.world side'.invoker.world := by
  rcases h.subscribeService hcodec hnames hrun with
    ⟨hno, -, -⟩ | ⟨e', answer, i, hasks', -, hanswer, hrest⟩
  · exact absurd hasks (hno e)
  · obtain rfl : e' = e := Except.ok.inj (hasks'.lookup.symm.trans hasks.lookup)
    obtain ⟨hflag, rfl⟩ := hanswer hmissed.application hmissed.asked
    obtain ⟨hstring, made, hconstruct⟩ := hmissed.completes
    rcases hrest with ⟨htakes | ⟨x, hx⟩, -, -⟩ | ⟨-, client, rfl, -, -, hmade⟩
    · exact absurd ((takesFor_iff hcodec _ _).mpr ⟨hstring, fun _ => hmissed.serialized⟩) htakes
    · rw [hconstruct] at hx
      cases hx
    · refine ⟨⟨client, rfl⟩, fun hmarked => ?_⟩
      have hafter := hmarked.2
      rw [hmade.subscriptions, hflag, hmissed.refused] at hafter
      cases hafter

/-- **A refused subscription is reported**, after any calls on a factory, exactly when it does not go
unnoticed. -/
theorem refusal_reported_iff {side₀ : ClientSide ServerLink} {serviceName : Bytes}
    {requestData : Option Bytes} {hasResponseData : Bool} {methods : List Bytes}
    {res : Except ClientException ClientServiceBase}
    {e : OidContainerEntry (Option ClientServiceBase)} (hcodec : codec.Lawful)
    (hstart : Started codec c resets side₀)
    (hreach : (factoryMachine codec c resets).Reaches side₀ side)
    (hnames : ∀ n ∈ methods, n ≠ [] ∧ (0 : UInt8) ∉ n) (hasks : Asks side.factory serviceName e)
    (hrun : (ServiceClientFactory.subscribeService (lossFree codec c resets reply) codec serviceName
      requestData hasResponseData methods).runOn side = .ok (res, side')) :
    RefusalReported c e.ordinal side res side' ↔
      ¬Unnoticed codec c e.ordinal hasResponseData methods reply side.invoker.world := by
  have hsession : Session c side := hreach.invariant
    (fun _ _ _ hI hg hf => hI.step hcodec hg hf) (hstart.session hcodec).1
  constructor
  · intro hreported hmissed
    obtain ⟨⟨client, rfl⟩, hno⟩ := hsession.returns_of_unnoticed hcodec hnames hasks hrun hmissed
    obtain ⟨x, hx⟩ := hreported.throws hno
    cases hx
  · intro hnoticed
    have hthrows : ¬Marked c e.ordinal side.invoker.world side'.invoker.world →
        ∃ x, res = .error x := by
      intro hno
      cases res with
      | error x => exact ⟨x, rfl⟩
      | ok client =>
        rcases hsession.marked_or_unnoticed hcodec hnames hasks hrun with hmarked | hmissed
        · exact absurd hmarked hno
        · exact absurd hmissed hnoticed
    exact ⟨hthrows, fun hno =>
      hsession.noClient_of_error hcodec hnames hasks hrun (hthrows hno)⟩

/-- The entry of the factory under a name, if a subscription asks for it. -/
def askedEntry (side : ClientSide ServerLink) (serviceName : Bytes) :
    Option (OidContainerEntry (Option ClientServiceBase)) :=
  match side.factory.lookup serviceName with
  | .ok e => if e.entry.isNone ∧ e.ordinal < side.factory.serviceCount then some e else none
  | .error _ => none

theorem asks_of_askedEntry {serviceName : Bytes}
    {e : OidContainerEntry (Option ClientServiceBase)} (h : askedEntry side serviceName = some e) :
    Asks side.factory serviceName e := by
  unfold askedEntry at h
  split at h
  · rename_i e' he'
    split at h
    · rename_i hcond
      cases h
      exact ⟨he', Option.isNone_iff_eq_none.mp hcond.1, hcond.2⟩
    · cases h
  · cases h

/-- A refusal with a result string that the caller has no object for. -/
theorem refusal_reported_iff_sample : ∃ (side side' : ClientSide ServerLink)
    (res : Except ClientException ClientServiceBase)
    (e : OidContainerEntry (Option ClientServiceBase)), res = .error .backEnd ∧
      (RefusalReported 7 e.ordinal side res side' ↔
        ¬Unnoticed basicProtocolCodec 7 e.ordinal false [ascii "get", ascii "set"]
          { errorCode := { value := 1 }, output := some (ascii "no") } side.invoker.world) := by
  obtain ⟨side, hside, hstart⟩ := startFactory_store
  have hobs : (startFactory storeLabels).map (fun side =>
      ((askedEntry side (ascii "store")).isSome,
        (Call.thrown ((ServiceClientFactory.subscribeService (lossFree basicProtocolCodec 7 true
          { errorCode := { value := 1 }, output := some (ascii "no") }) basicProtocolCodec
          (ascii "store") none false [ascii "get", ascii "set"]).runOn side)).map (·.1))) =
      some (true, some .backEnd) := by decide +kernel
  rw [hside] at hobs
  obtain ⟨hasks, hthrows⟩ := Prod.mk.inj (Option.some.inj hobs)
  obtain ⟨e, he⟩ := Option.isSome_iff_exists.mp hasks
  obtain ⟨⟨x, side'⟩, hthrown, hx⟩ := Option.map_eq_some_iff.mp hthrows
  exact ⟨side, side', _, e, congrArg Except.error hx,
    refusal_reported_iff basicProtocolCodec_lawful hstart (.refl _) (by decide +kernel)
      (asks_of_askedEntry he) (Call.thrown_eq_some hthrown)⟩

/-- **A refused `subscribe_service` returns.** -/
theorem refused_subscription_returns : ¬ ∀ (codec : BasicProtocolCodec) (c : ClientPtr)
    (resets : Bool) (reply : ServiceReply) (side side' : ClientSide ServerLink)
    (serviceName : Bytes) (requestData : Option Bytes) (hasResponseData : Bool)
    (methods : List Bytes) (res : Except ClientException ClientServiceBase)
    (e : OidContainerEntry (Option ClientServiceBase)), codec.Lawful →
    Started codec c resets side → (∀ n ∈ methods, n ≠ [] ∧ (0 : UInt8) ∉ n) →
    Asks side.factory serviceName e →
    (ServiceClientFactory.subscribeService (lossFree codec c resets reply) codec serviceName
      requestData hasResponseData methods).runOn side = .ok (res, side') →
    RefusalReported c e.ordinal side res side' := by
  intro h
  obtain ⟨side, hside, hstart⟩ := startFactory_store
  have hobs : (startFactory storeLabels).map (fun side =>
      ((askedEntry side (ascii "store")).map (·.ordinal),
        (Call.returned ((ServiceClientFactory.subscribeService (lossFree basicProtocolCodec 7 true
          { errorCode := { value := 1 } }) basicProtocolCodec (ascii "store") none false
          [ascii "get", ascii "set"]).runOn side)).map fun p =>
            p.2.invoker.world.backEnd.clientServiceCookies.isSubscribed 1 7)) =
      some (some 1, some false) := by decide +kernel
  rw [hside] at hobs
  obtain ⟨hasks, hreturns⟩ := Prod.mk.inj (Option.some.inj hobs)
  obtain ⟨e, he, hord⟩ := Option.map_eq_some_iff.mp hasks
  obtain ⟨⟨client, side'⟩, hreturned, hsub⟩ := Option.map_eq_some_iff.mp hreturns
  have hreported := h _ _ _ _ _ _ _ _ _ _ _ _ basicProtocolCodec_lawful hstart (by decide +kernel)
    (asks_of_askedEntry he) (Call.returned_eq_some hreturned)
  rw [hord] at hreported
  obtain ⟨x, hx⟩ := hreported.throws fun hmarked => by
    have hafter := hmarked.2
    rw [show (1 : UInt16).toNat = 1 from rfl, hsub] at hafter
    cases hafter
  cases hx

end RblRpc
