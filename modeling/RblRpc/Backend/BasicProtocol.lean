import RblRpc.Backend.BackEnd

/-!
# `BasicProtocolImpl` and the dispatch of requests

The handlers of `basic_protocol`, the generated dispatch functions around them (parse, call,
serialise), and the dispatch of a service.

* `hello`, `listServices`, `rpcSubscribeService`, `rpcUnsubscribeService`, `listMethods`.
* `runMethod` — a generated dispatch function.
* `Service.dispatch` — `dispatch(client_cookie, client_data)`.
* `rpcSubscribeService_step`, `rpcUnsubscribeService_step`, `dispatchApplication_cases`,
  `dispatch_cases` — all the ways in which they return.
* `dispatch_ok` — what a dispatch leaves.
-/

namespace RblRpc

namespace BasicProtocolImpl

def hello (b : BackEnd) (cd : ClientData) (hr : HelloRequest) :
    Except Fault (ClientData × HelloResponse) :=
  if b.backendType ≠ hr.expectedTarget then
    .ok ((cd.assignError .clientTargetTypeMismatch).requestDisconect,
      { errorType := some .destinationExpectationMismatch })
  else if b.sourceType ≠ hr.sourceType then
    .ok ((cd.assignError .clientSourceTypeMismatch).requestDisconect,
      { errorType := some .sourceExpectationMismatch })
  else do
    let cd ← ClientData.establishClient { cd with name := hr.nodeName }
    return (cd, { errorType := some .noHelloErrors })

def listServices (b : BackEnd) : Except Fault ListServicesResponse := do
  let services ← (List.range b.services.size).mapM fun i =>
    match b.services.entryAtOrdinal (UInt32.ofNat i) with
    | none => .error .invalidPointer
    | some e => .ok ⟨e.ordinal.toUInt32, e.name.str⟩
  return { services := services }

/-- What `subscribe` and `unsubscribe` of a service do; those of `basic_protocol` do nothing. -/
def callReply (s : Service) (cd : ClientData) (cookie : ClientCookie) (reply : ServiceReply) :
    ServiceReply :=
  match s.impl with
  | .basicProtocol => { errorCode := cd.errorCode, cookieBase := cookie.cookieBase }
  | .application _ => reply

/-- `rpc_subscribe_service`.  An accepted subscription leaves no error code. -/
def rpcSubscribeService (c : ClientPtr) (reply : ServiceReply) (b : BackEnd) (cd : ClientData)
    (req : SubscribeServiceRequest) :
    Except Fault (BackEnd × ClientData × SubscribeServiceResponse) :=
  if ¬ req.serviceOrdinal.toNat < b.services.size then
    .ok (b, cd.assignError .subscribeNoServiceWithOrdinal,
      { error := some .serviceOrdinalNotInUse })
  else do
    let o := req.serviceOrdinal.toUInt16
    let cookies ← b.clientServiceCookies.createOrRetrieveCookie o c
    let b := b.setCookies cookies
    let cookie := (cookies.lookup o.toNat c).getD {}
    if cookie.subscribed then
      return (b, cd.assignError .allreadySubscribed, { error := some .serviceAllreadySubscribed })
    match b.serviceAt o with
    | none => .error (.assertion .subscribeService)
    | some none => .error .invalidPointer
    | some (some s) =>
      let reply := callReply s cd cookie reply
      let cd := reply.applyTo cd
      let accepted := !cd.errorCode.isError
      let cookies ← cookies.setCookie o c
        { cookieBase := reply.cookieBase, subscribed := accepted }
      return ((b.setCookies cookies).logCall (.subscribe o.toNat c accepted), cd,
        { error := if accepted then some .noSubscribeServiceError else none
          subscribeResultString := some (reply.output.getD []) })

/-- `rpc_unsubscribe_service`. -/
def rpcUnsubscribeService (c : ClientPtr) (reply : ServiceReply) (b : BackEnd) (cd : ClientData)
    (req : UnsubscribeServiceRequest) :
    Except Fault (BackEnd × ClientData × UnsubscribeServiceResponse) :=
  if ¬ req.serviceOrdinal.toNat < b.services.size then
    .ok (b, cd.assignError .subscribeNoServiceWithOrdinal,
      { error := some .serviceOrdinalNotInUse })
  else do
    let o := req.serviceOrdinal.toUInt16
    let cookies ← b.clientServiceCookies.createOrRetrieveCookie o c
    let b := b.setCookies cookies
    let cookie := (cookies.lookup o.toNat c).getD {}
    if !cookie.subscribed then
      return (b, cd.assignError .notSubscribed, { error := some .noSubscriptionForService })
    match b.serviceAt o with
    | none => .error .invalidPointer
    | some none => .error .invalidPointer
    | some (some s) =>
      let cd := (callReply s cd cookie reply).applyTo cd
      let (_, cookies) ← cookies.deleteCookie o c
      return ((b.setCookies cookies).logCall (.unsubscribe o.toNat c), cd,
        { error := some .noSubscribeServiceError })

/-- `list_methods`. -/
def listMethods (b : BackEnd) (cd : ClientData) (req : ListMethodsRequest) :
    Except Fault (ClientData × ListMethodsResponse) :=
  if ¬ req.serviceOrdinal.toNat < b.services.size then
    .ok (cd.assignError .listMethodNoServiceWithOrdinal, { error := some .noServiceWithOrdinal })
  else
    match b.serviceAt req.serviceOrdinal.toUInt16 with
    | none => .error .invalidPointer
    | some none => .error .invalidPointer
    | some (some s) => do
      let methods ← s.produceMethodList
      return (cd, { error := some .noListMethodError, methods := methods })

end BasicProtocolImpl

/-- The end of a generated dispatch function: the response string, or the serialising error. -/
def storeResponse (output : Option Bytes) (cd : ClientData) : ClientData :=
  let cd := { cd with response := { cd.response with responseString := some (output.getD []) } }
  match output with
  | some _ => cd
  | none =>
    (cd.assignError .invokeResponseStringSerializeError).setError .requestStringSerializeError

/-- A request string that does not parse. -/
def rejectRequestString (cd : ClientData) : ClientData :=
  (cd.assignError .invokeRequestStringParseError).setError .requestStringParseError

/-- A generated dispatch function. -/
def runMethod {I O : Type} (input : MessageCodec I) (output : MessageCodec O)
    (impl : BackEnd → ClientData → I → Except Fault (BackEnd × ClientData × O))
    (b : BackEnd) (cd : ClientData) : Except Fault (BackEnd × ClientData) :=
  match input.parseFromString cd.request.requestString with
  | (false, _) => .ok (b, rejectRequestString cd)
  | (true, m_in) => do
    let (b, cd, m_out) ← impl b cd m_in
    return (b, storeResponse (output.serializeToString m_out) cd)

/-- The dispatch functions of `basic_protocol`. -/
def dispatchBasic (codec : BasicProtocolCodec) (c : ClientPtr) (reply : ServiceReply) :
    BasicMethod → BackEnd → ClientData → Except Fault (BackEnd × ClientData)
  | .hello => runMethod codec.helloRequest codec.helloResponse fun b cd req => do
    let (cd, res) ← BasicProtocolImpl.hello b cd req
    return (b, cd, res)
  | .listServices => runMethod codec.listServicesRequest codec.listServicesResponse
    fun b cd _ => do return (b, cd, ← BasicProtocolImpl.listServices b)
  | .rpcSubscribeService =>
    runMethod codec.subscribeServiceRequest codec.subscribeServiceResponse
      (BasicProtocolImpl.rpcSubscribeService c reply)
  | .rpcUnsubscribeService =>
    runMethod codec.unsubscribeServiceRequest codec.unsubscribeServiceResponse
      (BasicProtocolImpl.rpcUnsubscribeService c reply)
  | .listMethods => runMethod codec.listMethodsRequest codec.listMethodsResponse
    fun b cd req => do
      let (cd, res) ← BasicProtocolImpl.listMethods b cd req
      return (b, cd, res)

/-- The dispatch function of a method of the service at `o`. -/
def dispatchApplication (o : UInt16) (c : ClientPtr) (reply : ServiceReply) (b : BackEnd)
    (cd : ClientData) : Except Fault (BackEnd × ClientData) :=
  if !reply.parses then .ok (b, rejectRequestString cd)
  else
    match b.clientServiceCookies.lookup o.toNat c with
    | none => .error .invalidPointer
    | some cookie => do
      let cookies ← b.clientServiceCookies.setCookie o c
        { cookie with cookieBase := reply.cookieBase }
      return (b.setCookies cookies, storeResponse reply.output (reply.applyTo cd))

/-- `dispatch(client_cookie, client_data)` of the service at `o`, for client `c`. -/
def Service.dispatch (codec : BasicProtocolCodec) (o : UInt16) (c : ClientPtr)
    (reply : ServiceReply) (s : Service) (b : BackEnd) (cd : ClientData) :
    Except Fault (BackEnd × ClientData) :=
  match s.impl with
  | .basicProtocol =>
    match basicProtocolTable.atOrdinal cd.request.requestOrdinal.toUInt16 with
    | none => .error .invalidPointer
    | some m => dispatchBasic codec c reply m b cd
  | .application t =>
    match t.atOrdinal cd.request.requestOrdinal.toUInt16 with
    | none => .error .invalidPointer
    | some _ => dispatchApplication o c reply b cd

/-! ## What a dispatch leaves -/

/-- A call for client `c` writes the history and the cookies of `c` only. -/
structure OnlyCookies (c : ClientPtr) (b b' : BackEnd) : Prop where
  eq : ∃ cs calls, b' = { b with clientServiceCookies := cs, calls := calls }
  shape : ClientServiceCookies.SameShape b.clientServiceCookies b'.clientServiceCookies
  others : ∀ s k, k ≠ c →
    b'.clientServiceCookies.lookup s k = b.clientServiceCookies.lookup s k
  history : BackEnd.Serves b b'

theorem OnlyCookies.refl (c : ClientPtr) (b : BackEnd) : OnlyCookies c b b :=
  ⟨⟨_, _, rfl⟩, .refl _, fun _ _ _ => rfl, .of_eq rfl⟩

/-- Creating or retrieving a cookie of `c`. -/
theorem OnlyCookies.createOrRetrieveCookie {c : ClientPtr} {b : BackEnd} {o : UInt16}
    {cs : ClientServiceCookies} (h : b.clientServiceCookies.createOrRetrieveCookie o c = .ok cs) :
    OnlyCookies c b (b.setCookies cs) := by
  obtain ⟨hshape, hlook⟩ := ClientServiceCookies.createOrRetrieveCookie_ok h
  refine ⟨⟨_, _, rfl⟩, hshape, fun s k hk => ?_, .of_eq rfl⟩
  exact (hlook s k).trans (if_neg fun hc => hk hc.2)

/-- No subscription of the client is new. -/
def NoNewSubscription (c : ClientPtr) (b b' : BackEnd) : Prop :=
  ∀ s, b'.clientServiceCookies.isSubscribed s c = true →
    b.clientServiceCookies.isSubscribed s c = true

section Response

variable (output : Option Bytes) (cd : ClientData)

theorem storeResponse_sameClient : SameClient cd (storeResponse output cd) := by
  cases output <;> exact ⟨rfl, rfl, rfl⟩

theorem storeResponse_sameIdentity : SameIdentity cd (storeResponse output cd) := by
  cases output <;> exact ⟨rfl, rfl⟩

theorem rejectRequestString_sameClient : SameClient cd (rejectRequestString cd) := ⟨rfl, rfl, rfl⟩

theorem rejectRequestString_sameIdentity : SameIdentity cd (rejectRequestString cd) := ⟨rfl, rfl⟩

theorem applyTo_sameClient (r : ServiceReply) : SameClient cd (r.applyTo cd) := ⟨rfl, rfl, rfl⟩

theorem applyTo_sameIdentity (r : ServiceReply) : SameIdentity cd (r.applyTo cd) := ⟨rfl, rfl⟩

end Response

/-- **A generated dispatch function**: the request string did not parse, or the method ran. -/
theorem runMethod_ok {I O : Type} {input : MessageCodec I} {output : MessageCodec O}
    {impl : BackEnd → ClientData → I → Except Fault (BackEnd × ClientData × O)}
    {b b' : BackEnd} {cd cd' : ClientData} (h : runMethod input output impl b cd = .ok (b', cd')) :
    ((input.parseFromString cd.request.requestString).1 = false ∧ b' = b ∧
      cd' = rejectRequestString cd) ∨
    ∃ req cd₁ res, input.parseFromString cd.request.requestString = (true, req) ∧
      impl b cd req = .ok (b', cd₁, res) ∧
      cd' = storeResponse (output.serializeToString res) cd₁ := by
  unfold runMethod at h
  split at h
  · rename_i hp
    cases h
    exact .inl ⟨by rw [hp], rfl, rfl⟩
  · rename_i req hp
    obtain ⟨⟨b₁, cd₁, res⟩, himpl, hret⟩ := bind_eq_ok.mp h
    cases hret
    exact .inr ⟨req, cd₁, res, hp, himpl, rfl⟩

namespace BasicProtocolImpl

/-- `hello` establishes a client that was not, or changes neither flag nor name. -/
theorem hello_ok {b : BackEnd} {cd cd' : ClientData} {hr : HelloRequest} {res : HelloResponse}
    (h : hello b cd hr = .ok (cd', res)) : SameClient cd cd' ∧
      (SameIdentity cd cd' ∨ cd.clientEstablished = false ∧ cd'.clientEstablished = true) := by
  unfold hello at h
  split at h
  · cases h; exact ⟨⟨rfl, rfl, rfl⟩, .inl ⟨rfl, rfl⟩⟩
  · split at h
    · cases h; exact ⟨⟨rfl, rfl, rfl⟩, .inl ⟨rfl, rfl⟩⟩
    · obtain ⟨cd₁, hest, hret⟩ := bind_eq_ok.mp h
      cases hret
      obtain ⟨hne, rfl⟩ := ClientData.establishClient_eq_ok.mp hest
      exact ⟨⟨rfl, rfl, rfl⟩, .inr ⟨hne, rfl⟩⟩

theorem listMethods_ok {b : BackEnd} {cd cd' : ClientData} {req : ListMethodsRequest}
    {res : ListMethodsResponse} (h : listMethods b cd req = .ok (cd', res)) :
    SameClient cd cd' ∧ SameIdentity cd cd' := by
  unfold listMethods at h
  split at h
  · cases h; exact ⟨⟨rfl, rfl, rfl⟩, ⟨rfl, rfl⟩⟩
  · split at h
    · cases h
    · cases h
    · obtain ⟨ms, -, hret⟩ := bind_eq_ok.mp h
      cases hret; exact ⟨.refl _, .refl _⟩

/-- What `rpc_subscribe_service` leaves and answers: no service has the ordinal, the client is
subscribed, or the service is called. -/
inductive SubscribeStep (c : ClientPtr) (reply : ServiceReply) (b : BackEnd) (cd : ClientData)
    (req : SubscribeServiceRequest) : BackEnd → ClientData → SubscribeServiceResponse → Prop
  | outOfRange (range : ¬ req.serviceOrdinal.toNat < b.services.size) :
    SubscribeStep c reply b cd req b (cd.assignError .subscribeNoServiceWithOrdinal)
      { error := some .serviceOrdinalNotInUse }
  | allready {cs : ClientServiceCookies} (range : req.serviceOrdinal.toNat < b.services.size)
    (cookie : b.clientServiceCookies.createOrRetrieveCookie req.serviceOrdinal.toUInt16 c = .ok cs)
    (subscribed :
      b.clientServiceCookies.isSubscribed req.serviceOrdinal.toUInt16.toNat c = true) :
    SubscribeStep c reply b cd req (b.setCookies cs) (cd.assignError .allreadySubscribed)
      { error := some .serviceAllreadySubscribed }
  | called {cs cs' : ClientServiceCookies} {s : Service} {r : ServiceReply}
    (range : req.serviceOrdinal.toNat < b.services.size)
    (cookie : b.clientServiceCookies.createOrRetrieveCookie req.serviceOrdinal.toUInt16 c = .ok cs)
    (subscribed :
      b.clientServiceCookies.isSubscribed req.serviceOrdinal.toUInt16.toNat c = false)
    (service : b.serviceAt req.serviceOrdinal.toUInt16 = some (some s))
    (answer : r = callReply s cd
      ((b.clientServiceCookies.lookup req.serviceOrdinal.toUInt16.toNat c).getD {}) reply)
    (set : cs.setCookie req.serviceOrdinal.toUInt16 c
      { cookieBase := r.cookieBase, subscribed := !(r.applyTo cd).errorCode.isError } = .ok cs') :
    SubscribeStep c reply b cd req
      ((b.setCookies cs').logCall (.subscribe req.serviceOrdinal.toUInt16.toNat c
        (!(r.applyTo cd).errorCode.isError)))
      (r.applyTo cd)
      { error := if !(r.applyTo cd).errorCode.isError then some .noSubscribeServiceError else none
        subscribeResultString := some (r.output.getD []) }

theorem rpcSubscribeService_step {c : ClientPtr} {reply : ServiceReply} {b b' : BackEnd}
    {cd cd' : ClientData} {req : SubscribeServiceRequest} {res : SubscribeServiceResponse}
    (h : rpcSubscribeService c reply b cd req = .ok (b', cd', res)) :
    SubscribeStep c reply b cd req b' cd' res := by
  unfold rpcSubscribeService at h
  split at h
  · rename_i hrange
    cases h
    exact .outOfRange hrange
  · rename_i hrange
    obtain ⟨cs, hcs, h⟩ := bind_eq_ok.mp h
    dsimp only at h
    rw [ClientServiceCookies.lookup_createOrRetrieveCookie hcs, Option.getD_some,
      ClientServiceCookies.subscribed_getD] at h
    split at h
    · rename_i hsub
      cases h
      exact .allready (not_not.mp hrange) hcs hsub
    · rename_i hsub
      split at h
      · cases h
      · cases h
      · rename_i s hs
        obtain ⟨cs', hcs', hret⟩ := bind_eq_ok.mp h
        cases hret
        exact .called (not_not.mp hrange) hcs (Bool.eq_false_iff.mpr hsub) hs rfl hcs'

/-- What `rpc_unsubscribe_service` leaves and answers. -/
inductive UnsubscribeStep (c : ClientPtr) (reply : ServiceReply) (b : BackEnd) (cd : ClientData)
    (req : UnsubscribeServiceRequest) : BackEnd → ClientData → UnsubscribeServiceResponse → Prop
  | outOfRange (range : ¬ req.serviceOrdinal.toNat < b.services.size) :
    UnsubscribeStep c reply b cd req b (cd.assignError .subscribeNoServiceWithOrdinal)
      { error := some .serviceOrdinalNotInUse }
  | notSubscribed {cs : ClientServiceCookies}
    (range : req.serviceOrdinal.toNat < b.services.size)
    (cookie : b.clientServiceCookies.createOrRetrieveCookie req.serviceOrdinal.toUInt16 c = .ok cs)
    (subscribed :
      b.clientServiceCookies.isSubscribed req.serviceOrdinal.toUInt16.toNat c = false) :
    UnsubscribeStep c reply b cd req (b.setCookies cs) (cd.assignError .notSubscribed)
      { error := some .noSubscriptionForService }
  | called {cs cs' : ClientServiceCookies} {s : Service} {r : ServiceReply} {found : CookieResult}
    (range : req.serviceOrdinal.toNat < b.services.size)
    (cookie : b.clientServiceCookies.createOrRetrieveCookie req.serviceOrdinal.toUInt16 c = .ok cs)
    (subscribed :
      b.clientServiceCookies.isSubscribed req.serviceOrdinal.toUInt16.toNat c = true)
    (service : b.serviceAt req.serviceOrdinal.toUInt16 = some (some s))
    (answer : r = callReply s cd
      ((b.clientServiceCookies.lookup req.serviceOrdinal.toUInt16.toNat c).getD {}) reply)
    (delete : cs.deleteCookie req.serviceOrdinal.toUInt16 c = .ok (found, cs')) :
    UnsubscribeStep c reply b cd req
      ((b.setCookies cs').logCall (.unsubscribe req.serviceOrdinal.toUInt16.toNat c))
      (r.applyTo cd) { error := some .noSubscribeServiceError }

theorem rpcUnsubscribeService_step {c : ClientPtr} {reply : ServiceReply} {b b' : BackEnd}
    {cd cd' : ClientData} {req : UnsubscribeServiceRequest} {res : UnsubscribeServiceResponse}
    (h : rpcUnsubscribeService c reply b cd req = .ok (b', cd', res)) :
    UnsubscribeStep c reply b cd req b' cd' res := by
  unfold rpcUnsubscribeService at h
  split at h
  · rename_i hrange
    cases h
    exact .outOfRange hrange
  · rename_i hrange
    obtain ⟨cs, hcs, h⟩ := bind_eq_ok.mp h
    dsimp only at h
    rw [ClientServiceCookies.lookup_createOrRetrieveCookie hcs, Option.getD_some,
      ClientServiceCookies.subscribed_getD] at h
    split at h
    · rename_i hsub
      cases h
      exact .notSubscribed (not_not.mp hrange) hcs ((Bool.not_eq_true' _).mp hsub)
    · rename_i hsub
      split at h
      · cases h
      · cases h
      · rename_i s hs
        obtain ⟨⟨found, cs'⟩, hcs', hret⟩ := bind_eq_ok.mp h
        cases hret
        exact .called (not_not.mp hrange) hcs (by simpa using hsub) hs rfl hcs'

/-- **`rpc_subscribe_service`** writes the cookie of the service asked for, and accepts only
without an error code. -/
theorem rpcSubscribeService_ok {c : ClientPtr} {reply : ServiceReply} {b b' : BackEnd}
    {cd cd' : ClientData} {req : SubscribeServiceRequest} {res : SubscribeServiceResponse}
    (h : rpcSubscribeService c reply b cd req = .ok (b', cd', res)) :
    OnlyCookies c b b' ∧ SameClient cd cd' ∧ SameIdentity cd cd' := by
  cases rpcSubscribeService_step h with
  | outOfRange => exact ⟨.refl _ _, ⟨rfl, rfl, rfl⟩, ⟨rfl, rfl⟩⟩
  | allready _ hcs =>
    exact ⟨.createOrRetrieveCookie hcs, ⟨rfl, rfl, rfl⟩, ⟨rfl, rfl⟩⟩
  | called _ hcs _ _ _ hcs' =>
    have hcookie := OnlyCookies.createOrRetrieveCookie hcs
    obtain ⟨hshape, -, hlook⟩ := ClientServiceCookies.setCookie_ok hcs'
    refine ⟨⟨⟨_, _, rfl⟩, hcookie.shape.trans hshape, fun s k hk => ?_, .logCall rfl rfl⟩,
      applyTo_sameClient _ _, applyTo_sameIdentity _ _⟩
    exact (hlook s k).trans ((if_neg (fun hc => hk hc.2)).trans (hcookie.others s k hk))

theorem rpcUnsubscribeService_ok {c : ClientPtr} {reply : ServiceReply} {b b' : BackEnd}
    {cd cd' : ClientData} {req : UnsubscribeServiceRequest} {res : UnsubscribeServiceResponse}
    (h : rpcUnsubscribeService c reply b cd req = .ok (b', cd', res)) :
    OnlyCookies c b b' ∧ SameClient cd cd' ∧ SameIdentity cd cd' ∧ NoNewSubscription c b b' := by
  cases rpcUnsubscribeService_step h with
  | outOfRange => exact ⟨.refl _ _, ⟨rfl, rfl, rfl⟩, ⟨rfl, rfl⟩, fun _ hs => hs⟩
  | notSubscribed _ hcs =>
    refine ⟨.createOrRetrieveCookie hcs, ⟨rfl, rfl, rfl⟩, ⟨rfl, rfl⟩, fun s hs => ?_⟩
    exact (ClientServiceCookies.isSubscribed_createOrRetrieveCookie hcs s c).symm.trans hs
  | called _ hcs _ _ _ hcs' =>
    have hcookie := OnlyCookies.createOrRetrieveCookie hcs
    obtain ⟨hshape, hlook⟩ := ClientServiceCookies.deleteCookie_ok hcs'
    refine ⟨⟨⟨_, _, rfl⟩, hcookie.shape.trans hshape, fun s k hk => ?_, .logCall rfl rfl⟩,
      applyTo_sameClient _ _, applyTo_sameIdentity _ _, fun s hs => ?_⟩
    · exact (hlook s k).trans ((if_neg (fun hc => hk hc.2)).trans (hcookie.others s k hk))
    · have hs' := (ClientServiceCookies.isSubscribed_deleteCookie hcs' s c).symm.trans hs
      split at hs'
      · cases hs'
      · exact (ClientServiceCookies.isSubscribed_createOrRetrieveCookie hcs s c).symm.trans hs'

end BasicProtocolImpl

/-- What the dispatch of a method leaves.  Only `hello` changes the identity of the client, and
only by establishing it; only `rpc_subscribe_service` subscribes it. -/
structure Dispatched (hello subscribe : Prop) (c : ClientPtr) (b : BackEnd) (cd : ClientData)
    (b' : BackEnd) (cd' : ClientData) : Prop where
  backEnd : OnlyCookies c b b'
  client : SameClient cd cd'
  identity : SameIdentity cd cd' ∨
    hello ∧ cd.clientEstablished = false ∧ cd'.clientEstablished = true
  subscriptions : ¬subscribe → NoNewSubscription c b b'

/-- Storing or refusing the response string adds nothing to what the method left. -/
theorem runMethod_dispatched {I O : Type} {input : MessageCodec I} {output : MessageCodec O}
    {impl : BackEnd → ClientData → I → Except Fault (BackEnd × ClientData × O)}
    {hello subscribe : Prop} {c : ClientPtr} {b b' : BackEnd} {cd cd' : ClientData}
    (himpl : ∀ req cd₁ res, impl b cd req = .ok (b', cd₁, res) →
      Dispatched hello subscribe c b cd b' cd₁)
    (h : runMethod input output impl b cd = .ok (b', cd')) :
    Dispatched hello subscribe c b cd b' cd' := by
  rcases runMethod_ok h with ⟨-, rfl, rfl⟩ | ⟨req, cd₁, res, -, hrun, rfl⟩
  · exact ⟨.refl _ _, rejectRequestString_sameClient _, .inl (rejectRequestString_sameIdentity _),
      fun _ _ hs => hs⟩
  · obtain ⟨hb, hcd, hid, hsub⟩ := himpl req cd₁ res hrun
    have hst := storeResponse_sameIdentity (output.serializeToString res) cd₁
    refine ⟨hb, hcd.trans (storeResponse_sameClient _ _), ?_, hsub⟩
    rcases hid with hid | ⟨hh, h0, h1⟩
    · exact .inl ⟨hst.name.trans hid.name, hst.clientEstablished.trans hid.clientEstablished⟩
    · exact .inr ⟨hh, h0, hst.clientEstablished.trans h1⟩

/-- **What a dispatch of `basic_protocol` leaves.** -/
theorem dispatchBasic_ok {codec : BasicProtocolCodec} {c : ClientPtr} {reply : ServiceReply}
    {m : BasicMethod} {b b' : BackEnd} {cd cd' : ClientData}
    (h : dispatchBasic codec c reply m b cd = .ok (b', cd')) :
    Dispatched (m = .hello) (m = .rpcSubscribeService) c b cd b' cd' := by
  cases m <;> simp only [dispatchBasic] at h <;>
    refine runMethod_dispatched (fun req cd₁ res himpl => ?_) h
  case hello =>
    obtain ⟨⟨cd₂, r⟩, hh, hret⟩ := bind_eq_ok.mp himpl
    cases hret
    obtain ⟨hsame, hid⟩ := BasicProtocolImpl.hello_ok hh
    exact ⟨.refl _ _, hsame, hid.imp id fun he => ⟨rfl, he⟩, fun _ _ hs => hs⟩
  case listServices =>
    obtain ⟨r, -, hret⟩ := bind_eq_ok.mp himpl
    cases hret
    exact ⟨.refl _ _, .refl _, .inl (.refl _), fun _ _ hs => hs⟩
  case rpcSubscribeService =>
    obtain ⟨honly, hsame, hid⟩ := BasicProtocolImpl.rpcSubscribeService_ok himpl
    exact ⟨honly, hsame, .inl hid, fun hne => absurd rfl hne⟩
  case rpcUnsubscribeService =>
    obtain ⟨honly, hsame, hid, hsub⟩ := BasicProtocolImpl.rpcUnsubscribeService_ok himpl
    exact ⟨honly, hsame, .inl hid, fun _ => hsub⟩
  case listMethods =>
    obtain ⟨⟨cd₂, r⟩, hl, hret⟩ := bind_eq_ok.mp himpl
    cases hret
    obtain ⟨hsame, hid⟩ := BasicProtocolImpl.listMethods_ok hl
    exact ⟨.refl _ _, hsame, .inl hid, fun _ _ hs => hs⟩

/-- A request string that does not parse is rejected; else the service's object is stored. -/
theorem dispatchApplication_cases {o : UInt16} {c : ClientPtr} {reply : ServiceReply}
    {b b' : BackEnd} {cd cd' : ClientData}
    (h : dispatchApplication o c reply b cd = .ok (b', cd')) :
    (reply.parses = false ∧ b' = b ∧ cd' = rejectRequestString cd) ∨
    reply.parses = true ∧ ∃ cookie cs, b.clientServiceCookies.lookup o.toNat c = some cookie ∧
      b.clientServiceCookies.setCookie o c { cookie with cookieBase := reply.cookieBase } = .ok cs ∧
      b' = b.setCookies cs ∧ cd' = storeResponse reply.output (reply.applyTo cd) := by
  unfold dispatchApplication at h
  split at h
  · rename_i hparse
    cases h
    exact .inl ⟨by simpa using hparse, rfl, rfl⟩
  · rename_i hparse
    split at h
    · cases h
    · rename_i cookie hcookie
      obtain ⟨cs, hcs, hret⟩ := bind_eq_ok.mp h
      cases hret
      exact .inr ⟨by simpa using hparse, cookie, cs, hcookie, hcs, rfl, rfl⟩

/-- **What a dispatch of another service leaves.** -/
theorem dispatchApplication_ok {o : UInt16} {c : ClientPtr} {reply : ServiceReply}
    {b b' : BackEnd} {cd cd' : ClientData}
    (h : dispatchApplication o c reply b cd = .ok (b', cd')) :
    Dispatched False False c b cd b' cd' := by
  rcases dispatchApplication_cases h with ⟨-, rfl, rfl⟩ | ⟨-, cookie, cs, hcookie, hcs, rfl, rfl⟩
  · exact ⟨.refl _ _, rejectRequestString_sameClient _, .inl (rejectRequestString_sameIdentity _),
      fun _ _ hs => hs⟩
  · obtain ⟨hshape, -, hlook⟩ := ClientServiceCookies.setCookie_ok hcs
    refine ⟨⟨⟨_, _, rfl⟩, hshape, fun s k hk => ?_, .of_eq rfl⟩,
      (applyTo_sameClient _ _).trans (storeResponse_sameClient _ _),
      .inl ⟨(storeResponse_sameIdentity _ _).name,
        (storeResponse_sameIdentity _ _).clientEstablished⟩, fun _ s hs => ?_⟩
    · exact (hlook s k).trans (if_neg (fun hc => hk hc.2))
    · have hs' : cs.isSubscribed s c = true := hs
      rw [ClientServiceCookies.isSubscribed, hlook] at hs'
      split at hs'
      · rename_i heq
        rw [ClientServiceCookies.isSubscribed, heq.1, hcookie]
        exact hs'
      · exact hs'

/-- The method of `basic_protocol` a request asks for: the ordinal is narrowed to 16 bits. -/
def requestedMethod (r : ClientRequest) : Option BasicMethod :=
  basicMethodAt r.requestOrdinal.toUInt16.toNat

/-- A dispatch that returns ran a method of `basic_protocol`, or a function of another service. -/
theorem dispatch_cases {codec : BasicProtocolCodec} {o : UInt16} {c : ClientPtr}
    {reply : ServiceReply} {s : Service} {b b' : BackEnd} {cd cd' : ClientData}
    (h : s.dispatch codec o c reply b cd = .ok (b', cd')) :
    (s.impl = .basicProtocol ∧ ∃ m, requestedMethod cd.request = some m ∧
      dispatchBasic codec c reply m b cd = .ok (b', cd')) ∨
    ∃ t, s.impl = .application t ∧ dispatchApplication o c reply b cd = .ok (b', cd') := by
  unfold Service.dispatch at h
  split at h
  · rename_i himpl
    rw [basicProtocolTable_atOrdinal] at h
    split at h
    · cases h
    · rename_i m hm
      exact .inl ⟨himpl, m, hm, h⟩
  · rename_i t himpl
    split at h
    · cases h
    · exact .inr ⟨t, himpl, h⟩

/-- **What a dispatch leaves.** -/
theorem dispatch_ok {codec : BasicProtocolCodec} {o : UInt16} {c : ClientPtr}
    {reply : ServiceReply} {s : Service} {b b' : BackEnd} {cd cd' : ClientData}
    (h : s.dispatch codec o c reply b cd = .ok (b', cd')) :
    Dispatched (s.impl = .basicProtocol ∧ requestedMethod cd.request = some .hello)
      (s.impl = .basicProtocol ∧ requestedMethod cd.request = some .rpcSubscribeService)
      c b cd b' cd' := by
  rcases dispatch_cases h with ⟨himpl, m, hm, h⟩ | ⟨t, -, h⟩
  · obtain ⟨h₁, h₂, h₃, h₄⟩ := dispatchBasic_ok h
    refine ⟨h₁, h₂, h₃.imp id fun ⟨hh, he⟩ => ⟨⟨himpl, hh ▸ hm⟩, he⟩, fun hne => h₄ ?_⟩
    rintro rfl
    exact hne ⟨himpl, hm⟩
  · obtain ⟨h₁, h₂, h₃, h₄⟩ := dispatchApplication_ok h
    exact ⟨h₁, h₂, h₃.imp id fun he => he.1.elim, fun _ => h₄ id⟩

end RblRpc
