import RblRpc.Client.LossFree

/-!
# Calls of `basic_protocol` over a loss-free transport

What a client gets of each method of `basic_protocol`, and what the method leaves on the back end.

* `delivered` — what the client makes of a response message that the server serialises.
* `Serving.dispatched` — **a method other than hello runs, and its response is the client's**.
* `runOn_hello`, `runOn_listServices`, `runOn_rpcSubscribeService` … — the methods.
-/

namespace RblRpc

open World

/-! ## What the client gets of a response -/

/-- What a generated method makes of a response message that the server serialises. -/
def delivered {O : Type} (output : MessageCodec O) (m : O) : Except ClientException O :=
  match output.serializeToString m with
  | none => .error (.invoker .requestStringSerializeError)
  | some b => .ok (output.parseFromString b).2

theorem readResponse_storeResponse {O : Type} {output : MessageCodec O} {m : O} {cd : ClientData}
    (h : cd.response.error = some .requestSuccess) :
    ClientServiceBase.readResponse output (storeResponse (output.serializeToString m) cd).response =
      delivered output m := by
  unfold delivered ClientServiceBase.readResponse
  cases output.serializeToString m with
  | none => rfl
  | some b =>
    have herr : (storeResponse (some b) cd).response.getError = .requestSuccess := by
      rw [storeResponse, ClientResponse.getError]
      dsimp only
      rw [h]
      rfl
    rw [if_neg (not_not.mpr herr)]
    rfl

/-- An initialised message arrives. -/
theorem delivered_of_initialized {O : Type} {output : MessageCodec O} {initialized : O → Bool}
    (h : output.Lawful initialized) {m : O} (hm : initialized m = true) :
    delivered output m = .ok m := by
  obtain ⟨b, hs, hp⟩ := h.roundTrip m hm
  rw [delivered, hs]
  exact congrArg (fun p => Except.ok p.2) hp

/-- A message that is not either cannot be serialised, or arrives as it is. -/
theorem delivered_of_unset {O : Type} {output : MessageCodec O} {initialized : O → Bool}
    (h : output.Lawful initialized) {m : O} (hm : initialized m = false) :
    delivered output m = match output.serializeToString m with
      | none => .error (.invoker .requestStringSerializeError)
      | some _ => .ok m := by
  unfold delivered
  rcases h.unset m hm with hs | ⟨b, hs, hp⟩
  · rw [hs]
  · rw [hs]
    exact congrArg (fun p => Except.ok p.2) hp

/-! ## A method other than hello -/

variable {codec : BasicProtocolCodec} {c : ClientPtr} {resets : Bool} {reply : ServiceReply}
  {w w' : World} {b b' : BackEnd} {cd : ClientData} {l l' : ServerLink} {bpc : ClientServiceBase}

/-- A method ran for `c` between `w` and `w'`: it found `b` and `cd`, and left `b'`. -/
structure Handled (codec : BasicProtocolCodec) (c : ClientPtr) (w w' : World) (b b' : BackEnd)
    (cd : ClientData) : Prop where
  advances : Advances codec c w w'
  services : b.services = w.backEnd.services
  before : ∀ s k, b.clientServiceCookies.isSubscribed s k =
    w.backEnd.clientServiceCookies.isSubscribed s k
  after : w'.backEnd.clientServiceCookies = b'.clientServiceCookies

theorem Handled.serviceAt (h : Handled codec c w w' b b' cd) (o : UInt16) :
    b.serviceAt o = w.backEnd.serviceAt o := by
  rw [BackEnd.serviceAt, h.services]
  rfl

/-- **A method of `basic_protocol` other than hello runs, and its response is the client's.** -/
theorem Serving.dispatched {I O : Type} {input : MessageCodec I} {output : MessageCodec O}
    {impl : BackEnd → ClientData → I → Except Fault (BackEnd × ClientData × O)} {req : I} {k : ℕ}
    {m : BasicMethod} {res : Except ClientException O} (h : Serving c l.world)
    (hbpc : ServiceClientFactory.Bound bpc) (hk : 1 ≤ k) (hm : basicMethodAt k = some m)
    (hdispatch : dispatchBasic codec c reply m = runMethod input output impl)
    (hinput : input.Lawful fun _ => true)
    (hkeeps : ∀ b cd b' cd' out, impl b cd req = .ok (b', cd', out) →
      cd'.response.error = cd.response.error)
    (hrun : (bpc.callMethod (lossFree codec c resets reply) input output (UInt16.ofNat k) req).runOn
      l = .ok (res, l')) :
    ∃ b b' cd cd' out, Handled codec c l.world l'.world b b' cd ∧ cd.errorCode = {} ∧
      impl b cd req = .ok (b', cd', out) ∧ res = delivered output out := by
  have hlt := (basicMethodAt_ordinal hm).1
  obtain ⟨string, hser, hparse⟩ := hinput.roundTrip req rfl
  rw [ClientServiceBase.runOn_callMethod l (r := ⟨0, UInt32.ofNat k, string⟩)
    (by rw [hser]; exact hbpc.requestOf hlt string)] at hrun
  obtain ⟨⟨resp, l₁⟩, hex, heq⟩ := Call.map_eq_ok.mp hrun
  cases heq
  have hex' := exchange_lossFree (mapError_eq_ok.mp hex)
  obtain ⟨s, b, b', cd, cd', hran, hd⟩ := h.ran hk hm hex'
  rw [hdispatch] at hd
  rcases runMethod_ok hd with ⟨hfail, -, -⟩ | ⟨req', cd₁, out, hp, himpl, rfl⟩
  · rw [hran.request, hparse] at hfail
    cases hfail
  · rw [hran.request, hparse] at hp
    cases hp
    refine ⟨b, b', cd, cd₁, out, ⟨h.advances hex', hran.services, hran.subscriptions, hran.cookies⟩,
      hran.noError.2, himpl, ?_⟩
    rw [hran.response]
    exact readResponse_storeResponse ((hkeeps _ _ _ _ _ himpl).trans hran.noError.1)

/-! ## The methods -/

/-- The answer of `hello`. -/
theorem BasicProtocolImpl.hello_answer {cd' : ClientData} {hr : HelloRequest} {out : HelloResponse}
    (h : BasicProtocolImpl.hello b cd hr = .ok (cd', out)) :
    cd'.response = cd.response ∧ out.errorType.isSome = true ∧
      (out.getErrorType = .noHelloErrors → cd'.clientEstablished = true) := by
  unfold BasicProtocolImpl.hello at h
  split at h
  · cases h
    exact ⟨rfl, rfl, fun hno => nomatch hno⟩
  · split at h
    · cases h
      exact ⟨rfl, rfl, fun hno => nomatch hno⟩
    · obtain ⟨cd₁, hest, hret⟩ := bind_eq_ok.mp h
      cases hret
      obtain ⟨-, rfl⟩ := ClientData.establishClient_eq_ok.mp hest
      exact ⟨rfl, rfl, fun _ => rfl⟩

/-- **`hello`**: a client it succeeds for is established, and has no subscription yet. -/
theorem runOn_hello {req : HelloRequest} {hres : HelloResponse} (hsound : Sound l.world)
    (hcodec : codec.Lawful) (hbpc : ServiceClientFactory.Bound bpc)
    (hrun : (BasicProtocolClient.hello (lossFree codec c resets reply) codec req bpc).runOn l =
      .ok (.ok hres, l')) (hno : hres.getErrorType = .noHelloErrors) :
    Advances codec c l.world l'.world ∧ ∀ o : UInt16, o ≠ 0 →
      l'.world.backEnd.clientServiceCookies.isSubscribed o.toNat c = false := by
  obtain ⟨string, hser, hparse⟩ := hcodec.helloRequest.roundTrip req rfl
  unfold BasicProtocolClient.hello at hrun
  rw [ClientServiceBase.runOn_callMethod l (r := ⟨0, UInt32.ofNat 0, string⟩)
    (by rw [hser]; exact hbpc.requestOf (by decide) string)] at hrun
  obtain ⟨⟨resp, l₁⟩, hex, heq⟩ := Call.map_eq_ok.mp hrun
  obtain ⟨hread, rfl⟩ := Prod.mk.inj heq
  have hex' := exchange_lossFree (mapError_eq_ok.mp hex)
  obtain ⟨hctl, -, hdown | ⟨s, b, b', cd, cd', hran⟩⟩ := exchange_ok hex'
  · -- refused, or answered that the client was established before
    unfold ClientServiceBase.readResponse at hread
    rcases hdown.response with herr | ⟨-, hstr⟩
    · rw [if_pos herr] at hread
      cases hread
    · split at hread
      · cases hread
      · obtain ⟨string', hser', hparse'⟩ := hcodec.helloResponse.roundTrip
          { errorType := some .clientAllreadyEstablished } rfl
        rw [hstr, hser'] at hread
        dsimp only [Option.getD] at hread
        rw [hparse'] at hread
        cases hread
        cases hno
  · obtain ⟨m, hm, hd⟩ := hran.basic hsound rfl
    cases hm
    simp only [dispatchBasic] at hd
    rcases runMethod_ok hd with ⟨hfail, -, -⟩ | ⟨req', cd₁, out, hp, himpl, rfl⟩
    · rw [hran.request, hparse] at hfail
      cases hfail
    · obtain ⟨⟨cd₂, out₂⟩, hhello, hret⟩ := bind_eq_ok.mp himpl
      cases hret
      obtain ⟨hresp, hset, hest⟩ := BasicProtocolImpl.hello_answer hhello
      rw [hran.response, readResponse_storeResponse
        ((congrArg ClientResponse.error hresp).trans hran.noError.1),
        delivered_of_initialized hcodec.helloResponse hset] at hread
      cases hread
      have hreach := exchange_reaches hex'
      refine ⟨⟨⟨?_, hctl.acceptingRequests.trans hran.accepting, ?_⟩, hctl, hreach⟩, ?_⟩
      · exact hreach.invariant (fun _ _ _ hI hg hf => hI.step hg hf) hsound
      · rw [hran.established]
        exact (storeResponse_sameIdentity _ _).clientEstablished.trans (hest hno)
      · intro o ho
        rw [hran.cookies, hran.subscriptions]
        by_contra hsub
        have hadm := hsound.gated.subscribed hran.running o ho c (Bool.eq_true_of_not_eq_false hsub)
        have hnew : (l.world.data c).clientEstablished = false := hran.admitted.hello rfl rfl
        cases hadm.2.symm.trans hnew

/-- The listing looks at the services only. -/
theorem BasicProtocolImpl.listServices_congr (h : b'.services = b.services) :
    BasicProtocolImpl.listServices b' = BasicProtocolImpl.listServices b := by
  unfold BasicProtocolImpl.listServices
  rw [h]

/-- Every entry of the listing is that of a service. -/
theorem BasicProtocolImpl.listServices_mem {out : ListServicesResponse}
    (h : BasicProtocolImpl.listServices b = .ok out) : ∀ se ∈ out.services, ∃ i e,
      b.services.at? i = some e ∧ se = ⟨e.ordinal.toUInt32, e.name.str⟩ := by
  intro se hse
  obtain ⟨entries, hmap, hret⟩ := bind_eq_ok.mp h
  cases hret
  obtain ⟨i, -, hi⟩ := (mem_of_mapM hmap se).mp hse
  split at hi
  · cases hi
  · rename_i e he
    cases hi
    exact ⟨(UInt32.ofNat i).toNat, e, he, rfl⟩

/-- **`list_services`** lists the services of the back end. -/
theorem runOn_listServices {res : Except ClientException ListServicesResponse}
    (h : Serving c l.world) (hcodec : codec.Lawful) (hbpc : ServiceClientFactory.Bound bpc)
    (hrun : (BasicProtocolClient.listServices (lossFree codec c resets reply) codec {} bpc).runOn l =
      .ok (res, l')) :
    Advances codec c l.world l'.world ∧
      (∀ s, l'.world.backEnd.clientServiceCookies.isSubscribed s c =
        l.world.backEnd.clientServiceCookies.isSubscribed s c) ∧
      ∃ out, res = .ok out ∧ BasicProtocolImpl.listServices l.world.backEnd = .ok out := by
  obtain ⟨b, b', cd, cd', out, hhandled, -, himpl, rfl⟩ := h.dispatched hbpc le_rfl
    (m := .listServices) rfl rfl hcodec.listServicesRequest (fun _ _ _ _ _ himpl => by
      obtain ⟨out, -, hret⟩ := bind_eq_ok.mp himpl
      cases hret
      rfl) hrun
  obtain ⟨out₁, hlist, hret⟩ := bind_eq_ok.mp himpl
  cases hret
  refine ⟨hhandled.advances, fun s => by rw [hhandled.after, hhandled.before], out,
    delivered_of_initialized hcodec.listServicesResponse rfl, ?_⟩
  rw [← BasicProtocolImpl.listServices_congr hhandled.services]
  exact hlist

/-- What `rpc_subscribe_service` answers a client that is not subscribed. -/
def subscribeAnswer (reply : ServiceReply) : SubscribeServiceResponse where
  error := if reply.errorCode.isError then none else some .noSubscribeServiceError
  subscribeResultString := some (reply.output.getD [])

/-- What `rpc_unsubscribe_service` answers a client, that is subscribed or is not. -/
def unsubscribeAnswer (subscribed : Bool) : UnsubscribeServiceResponse where
  error := some (if subscribed then .noSubscribeServiceError else .noSubscriptionForService)

/-- The subscription of `c` to the service at `o` may change, and no other. -/
structure OnlySubscription (codec : BasicProtocolCodec) (c : ClientPtr) (o : UInt16)
    (w w' : World) : Prop where
  advances : Advances codec c w w'
  others : ∀ s, s ≠ o.toNat → w'.backEnd.clientServiceCookies.isSubscribed s c =
    w.backEnd.clientServiceCookies.isSubscribed s c

namespace BasicProtocolImpl

variable {cd' : ClientData} {o : UInt16}

theorem rpcSubscribeService_response {req : SubscribeServiceRequest}
    {out : SubscribeServiceResponse}
    (h : rpcSubscribeService c reply b cd req = .ok (b', cd', out)) :
    cd'.response = cd.response := by
  cases rpcSubscribeService_step h <;> rfl

theorem rpcUnsubscribeService_response {req : UnsubscribeServiceRequest}
    {out : UnsubscribeServiceResponse}
    (h : rpcUnsubscribeService c reply b cd req = .ok (b', cd', out)) :
    cd'.response = cd.response := by
  cases rpcUnsubscribeService_step h <;> rfl

/-- The answer of `rpc_subscribe_service`, and the subscription it leaves. -/
theorem rpcSubscribeService_answer {data : Option Bytes} {out : SubscribeServiceResponse}
    (h : rpcSubscribeService c reply b cd ⟨o.toUInt32, data⟩ = .ok (b', cd', out))
    (ho : o.toNat < b.services.size) :
    (∀ s, s ≠ o.toNat → b'.clientServiceCookies.isSubscribed s c =
      b.clientServiceCookies.isSubscribed s c) ∧
    ((∀ s, b.serviceAt o = some (some s) → s.impl ≠ .basicProtocol) →
      b.clientServiceCookies.isSubscribed o.toNat c = false →
      b'.clientServiceCookies.isSubscribed o.toNat c = !reply.errorCode.isError ∧
        out = subscribeAnswer reply) := by
  have hord : (o.toUInt32).toUInt16 = o := UInt16.toUInt16_toUInt32 o
  cases rpcSubscribeService_step h with
  | outOfRange hrange => exact absurd ((UInt16.toNat_toUInt32 o).trans_lt ho) hrange
  | allready _ hcs hsub =>
    have hkeep := ClientServiceCookies.isSubscribed_createOrRetrieveCookie hcs
    rw [hord] at hsub
    exact ⟨fun s _ => hkeep s c, fun _ hnot => by cases hsub.symm.trans hnot⟩
  | @called cs cs' s r _ hcs _ hs hanswer hset =>
    rw [hord] at hs hset
    have hkeep := ClientServiceCookies.isSubscribed_createOrRetrieveCookie hcs
    have hflag := ClientServiceCookies.isSubscribed_setCookie hset
    refine ⟨fun s' hs' => ?_, fun happ _ => ?_⟩
    · exact (hflag s' c).trans ((if_neg fun hc => hs' hc.1).trans (hkeep s' c))
    · have hreply : r = reply := by
        rw [hanswer, callReply]
        split
        · rename_i himpl
          exact absurd himpl (happ s hs)
        · rfl
      rw [hreply] at hflag ⊢
      refine ⟨(hflag o.toNat c).trans (if_pos ⟨rfl, rfl⟩), ?_⟩
      unfold subscribeAnswer ServiceReply.applyTo
      cases reply.errorCode.isError <;> rfl

/-- The answer of `rpc_unsubscribe_service`, and the subscription it leaves. -/
theorem rpcUnsubscribeService_answer {out : UnsubscribeServiceResponse}
    (h : rpcUnsubscribeService c reply b cd ⟨o.toUInt32⟩ = .ok (b', cd', out))
    (ho : o.toNat < b.services.size) :
    (∀ s, s ≠ o.toNat → b'.clientServiceCookies.isSubscribed s c =
      b.clientServiceCookies.isSubscribed s c) ∧
    b'.clientServiceCookies.isSubscribed o.toNat c = false ∧
    out = unsubscribeAnswer (b.clientServiceCookies.isSubscribed o.toNat c) := by
  have hord : (o.toUInt32).toUInt16 = o := UInt16.toUInt16_toUInt32 o
  cases rpcUnsubscribeService_step h with
  | outOfRange hrange => exact absurd ((UInt16.toNat_toUInt32 o).trans_lt ho) hrange
  | notSubscribed _ hcs hsub =>
    have hkeep := ClientServiceCookies.isSubscribed_createOrRetrieveCookie hcs
    rw [hord] at hsub
    exact ⟨fun s _ => hkeep s c, (hkeep _ _).trans hsub, by rw [hsub]; rfl⟩
  | called _ hcs hsub _ _ hdel =>
    have hkeep := ClientServiceCookies.isSubscribed_createOrRetrieveCookie hcs
    rw [hord] at hsub hdel
    have hflag := ClientServiceCookies.isSubscribed_deleteCookie hdel
    refine ⟨fun s' hs' => ?_, (hflag _ _).trans (if_pos ⟨rfl, rfl⟩), by rw [hsub]; rfl⟩
    exact (hflag s' c).trans ((if_neg fun hc => hs' hc.1).trans (hkeep s' c))

end BasicProtocolImpl

variable {o : UInt16}

/-- A service other than `basic_protocol` is an application's. -/
theorem Serving.application (h : Serving c w) (ho : o ≠ 0) {s : Service}
    (hs : w.backEnd.serviceAt o = some (some s)) : s.impl ≠ .basicProtocol := fun himpl =>
  ho ((h.sound.registry.typed o s hs).mp himpl)

/-- **`rpc_subscribe_service`** of a service that exists. -/
theorem runOn_rpcSubscribeService {data : Option Bytes}
    {res : Except ClientException SubscribeServiceResponse} (h : Serving c l.world)
    (hcodec : codec.Lawful) (hbpc : ServiceClientFactory.Bound bpc)
    (ho : o.toNat < l.world.backEnd.services.size)
    (hrun : (BasicProtocolClient.rpcSubscribeService (lossFree codec c resets reply) codec
      ⟨o.toUInt32, data⟩ bpc).runOn l = .ok (res, l')) :
    OnlySubscription codec c o l.world l'.world ∧ (o ≠ 0 →
      l.world.backEnd.clientServiceCookies.isSubscribed o.toNat c = false →
      l'.world.backEnd.clientServiceCookies.isSubscribed o.toNat c = !reply.errorCode.isError ∧
        res = delivered codec.subscribeServiceResponse (subscribeAnswer reply)) := by
  obtain ⟨b, b', cd, cd', out, hhandled, -, himpl, rfl⟩ := h.dispatched hbpc
    (m := .rpcSubscribeService) (by decide) rfl rfl hcodec.subscribeServiceRequest
    (fun _ _ _ _ _ himpl => congrArg ClientResponse.error
      (BasicProtocolImpl.rpcSubscribeService_response himpl)) hrun
  obtain ⟨hothers, hown⟩ := BasicProtocolImpl.rpcSubscribeService_answer himpl
    (by rw [hhandled.services]; exact ho)
  refine ⟨⟨hhandled.advances, fun s hs => ?_⟩, fun hne hnot => ?_⟩
  · rw [hhandled.after, hothers s hs, hhandled.before]
  · obtain ⟨hflag, hout⟩ := hown
      (fun s hs => h.application hne (by rw [← hhandled.serviceAt]; exact hs))
      (by rw [hhandled.before]; exact hnot)
    exact ⟨by rw [hhandled.after]; exact hflag, by rw [hout]⟩

/-- **`rpc_unsubscribe_service`** of a service that exists. -/
theorem runOn_rpcUnsubscribeService {res : Except ClientException UnsubscribeServiceResponse}
    (h : Serving c l.world) (hcodec : codec.Lawful) (hbpc : ServiceClientFactory.Bound bpc)
    (ho : o.toNat < l.world.backEnd.services.size)
    (hrun : (BasicProtocolClient.rpcUnsubscribeService (lossFree codec c resets reply) codec
      ⟨o.toUInt32⟩ bpc).runOn l = .ok (res, l')) :
    OnlySubscription codec c o l.world l'.world ∧
      l'.world.backEnd.clientServiceCookies.isSubscribed o.toNat c = false ∧
      res = .ok (unsubscribeAnswer
        (l.world.backEnd.clientServiceCookies.isSubscribed o.toNat c)) := by
  obtain ⟨b, b', cd, cd', out, hhandled, -, himpl, rfl⟩ := h.dispatched hbpc
    (m := .rpcUnsubscribeService) (by decide) rfl rfl hcodec.unsubscribeServiceRequest
    (fun _ _ _ _ _ himpl => congrArg ClientResponse.error
      (BasicProtocolImpl.rpcUnsubscribeService_response himpl)) hrun
  obtain ⟨hothers, hflag, hout⟩ := BasicProtocolImpl.rpcUnsubscribeService_answer himpl
    (by rw [hhandled.services]; exact ho)
  refine ⟨⟨hhandled.advances, fun s hs => ?_⟩, by rw [hhandled.after]; exact hflag, ?_⟩
  · rw [hhandled.after, hothers s hs, hhandled.before]
  · rw [hout, delivered_of_initialized hcodec.unsubscribeServiceResponse rfl, hhandled.before]

/-- **`list_methods`** of a service that exists. -/
theorem runOn_listMethods {res : Except ClientException ListMethodsResponse}
    (h : Serving c l.world) (hcodec : codec.Lawful) (hbpc : ServiceClientFactory.Bound bpc)
    (ho : o.toNat < l.world.backEnd.services.size)
    (hrun : (BasicProtocolClient.listMethods (lossFree codec c resets reply) codec
      ⟨o.toUInt32⟩ bpc).runOn l = .ok (res, l')) :
    Advances codec c l.world l'.world ∧
      (∀ s, l'.world.backEnd.clientServiceCookies.isSubscribed s c =
        l.world.backEnd.clientServiceCookies.isSubscribed s c) ∧
      ∃ s methods, l.world.backEnd.serviceAt o = some (some s) ∧
        s.produceMethodList = .ok methods ∧
        res = .ok { error := some .noListMethodError, methods := methods } := by
  obtain ⟨b, b', cd, cd', out, hhandled, -, himpl, rfl⟩ := h.dispatched hbpc (m := .listMethods)
    (by decide) rfl rfl hcodec.listMethodsRequest (fun b cd b' cd' out himpl => by
      obtain ⟨⟨cd₁, out₁⟩, hlist, hret⟩ := bind_eq_ok.mp himpl
      cases hret
      unfold BasicProtocolImpl.listMethods at hlist
      split at hlist
      · cases hlist
        rfl
      · split at hlist
        · cases hlist
        · cases hlist
        · obtain ⟨methods, -, hret⟩ := bind_eq_ok.mp hlist
          cases hret
          rfl) hrun
  obtain ⟨⟨cd₁, out₁⟩, hlist, hret⟩ := bind_eq_ok.mp himpl
  cases hret
  unfold BasicProtocolImpl.listMethods at hlist
  rw [if_neg (by rw [hhandled.services, UInt16.toNat_toUInt32]; exact not_not.mpr ho),
    UInt16.toUInt16_toUInt32] at hlist
  split at hlist
  · cases hlist
  · cases hlist
  · rename_i s hs
    obtain ⟨methods, hmethods, hret⟩ := bind_eq_ok.mp hlist
    cases hret
    refine ⟨hhandled.advances, fun s => by rw [hhandled.after, hhandled.before], s, methods, ?_,
      hmethods, delivered_of_initialized hcodec.listMethodsResponse rfl⟩
    rw [← hhandled.serviceAt]
    exact hs

end RblRpc
