import RblRpc.Backend.Disconnection
import RblRpc.Backend.SessionServer

/-!
# The handlers and the server they implement

What `invoke` and the dispatch of a request do to the data of a client is what the session server
says of its session, wherever they return.

* `BackEnd.directory`, `BackEnd.session`, `ClientData.answer` — what is seen of a back end.
* `ClientData.Clean` — the client data of a request that no check has turned down.
* `checkRequest_serves` — the checks give the verdict of the server.
* `dispatch_serves` — **a dispatch is a call of the server.**
-/

namespace RblRpc

open Transition BackEnd

/-- What the client is answered. -/
def ClientData.answer (cd : ClientData) : Answer := ⟨cd.response, cd.errorCode⟩

/-- The start of `invoke` cleared the error code and set the error of the response. -/
structure ClientData.Clean (cd : ClientData) : Prop where
  errorCode : cd.errorCode = {}
  error : cd.response.error = some .requestSuccess

namespace BackEnd

/-- The services as clients find them. -/
def directory (b : BackEnd) : Directory where
  size := b.services.size
  at? i := (b.services.at? i).map fun e => ⟨e.name.str, e.entry⟩

/-- The session of client `c`. -/
def session (c : ClientPtr) (b : BackEnd) (cd : ClientData) : ClientSession where
  identity := if cd.clientEstablished then some cd.name else none
  subscribed s := b.clientServiceCookies.isSubscribed s c
  string := cd.response.responseString

/-- The server has the services and the types of the back end. -/
structure Backs (b : BackEnd) (q : SessionServer) : Prop where
  directory : q.directory = b.directory
  sourceType : q.sourceType = b.sourceType
  backendType : q.backendType = b.backendType

variable {codec : BasicProtocolCodec} {b b' : BackEnd} {c : ClientPtr} {cd cd' : ClientData}
  {q : SessionServer} {reply : ServiceReply} {o : UInt16} {s : Service}

theorem session_identity_isSome (c : ClientPtr) (b : BackEnd) (cd : ClientData) :
    (b.session c cd).identity.isSome = cd.clientEstablished := by
  unfold session
  cases cd.clientEstablished <;> rfl

@[simp] theorem session_subscribed (c : ClientPtr) (b : BackEnd) (cd : ClientData) (s : ℕ) :
    (b.session c cd).subscribed s = b.clientServiceCookies.isSubscribed s c := rfl

theorem session_congr (hid : SameIdentity cd cd')
    (hstring : cd'.response.responseString = cd.response.responseString)
    (hsub : ∀ s, b'.clientServiceCookies.isSubscribed s c =
      b.clientServiceCookies.isSubscribed s c) : b'.session c cd' = b.session c cd := by
  unfold session
  simp only [hid.name, hid.clientEstablished, hstring, hsub]

/-- A cookie that is retrieved, and an error code, change nothing. -/
theorem session_assignError {cs : ClientServiceCookies}
    (hcs : b.clientServiceCookies.createOrRetrieveCookie o c = .ok cs) (cd : ClientData)
    (e : ECode) : (b.setCookies cs).session c (cd.assignError e) = b.session c cd :=
  session_congr ⟨rfl, rfl⟩ rfl fun s =>
    ClientServiceCookies.isSubscribed_createOrRetrieveCookie hcs s c

theorem directory_at? (b : BackEnd) (i : ℕ) :
    b.directory.at? i = (b.services.at? i).map fun e => ⟨e.name.str, e.entry⟩ := rfl

theorem directory_none (h : b.serviceAt o = none) : b.directory.at? o.toNat = none := by
  rw [serviceAt_eq, Option.map_eq_none_iff] at h
  rw [directory_at?, h]
  rfl

theorem directory_some {x : Option Service} (h : b.serviceAt o = some x) :
    ∃ name, b.directory.at? o.toNat = some ⟨name, x⟩ := by
  rw [serviceAt_eq, Option.map_eq_some_iff] at h
  obtain ⟨e, he, rfl⟩ := h
  exact ⟨_, by rw [directory_at?, he]; rfl⟩

theorem Backs.service (hq : b.Backs q) (h : b.serviceAt o = some (some s)) :
    q.service o.toNat = some s := by
  obtain ⟨name, hat⟩ := directory_some h
  rw [SessionServer.service, hq.directory, hat]
  rfl

/-- An ordinal below the number of services has 16 bits. -/
theorem toUInt16_toNat (hfits : b.services.size ≤ 2 ^ 16) {n : UInt32}
    (hn : n.toNat < b.services.size) : n.toUInt16.toNat = n.toNat := by
  rw [UInt32.toNat_toUInt16]
  omega

/-! ## The checks -/

/-- The verdict on a request to a service that is there. -/
theorem Backs.verdict_eq (hq : b.Backs q) (cd : ClientData) {r : ClientRequest}
    (hs : b.serviceAt r.serviceOrdinal.toUInt16 = some (some s)) :
    q.verdict (b.session c cd) r = some
      (if !s.containsFunctionAtOrdinal r.requestOrdinal.toUInt16 then
        .refused .invokeNoRequestWithOrdinalError .requestNoFunctionWithOrdinal
      else if r.serviceOrdinal ≠ 0 ∧
          b.clientServiceCookies.isSubscribed r.serviceOrdinal.toUInt16.toNat c = false then
        .refused .invokeClientNotSubscribed .requestNotSubscribed
      else if r.serviceOrdinal = 0 ∧ r.requestOrdinal = 0 then
        if cd.clientEstablished then .greeted else .granted s
      else if cd.clientEstablished then .granted s
      else .refused .notEstablished .requestClientNotEstablished) := by
  obtain ⟨name, hat⟩ := directory_some hs
  rw [SessionServer.verdict, hq.directory, hat]
  simp only [Option.map_some, session_identity_isSome]
  rfl

/-- **What passes the checks** is granted. -/
theorem Backs.granted (hq : b.Backs q) (hadm : Admitted c b cd)
    (hs : b.serviceAt cd.request.serviceOrdinal.toUInt16 = some (some s)) :
    q.verdict (b.session c cd) cd.request = some (.granted s) := by
  obtain ⟨s', hs', hf⟩ := hadm.service
  cases hs.symm.trans hs'
  have hsub : ¬(cd.request.serviceOrdinal ≠ 0 ∧ b.clientServiceCookies.isSubscribed
      cd.request.serviceOrdinal.toUInt16.toNat c = false) := by
    rintro ⟨hne, hno⟩
    cases hno.symm.trans (hadm.subscribed hne)
  rw [hq.verdict_eq cd hs, hf, Bool.not_true, if_neg Bool.false_ne_true, if_neg hsub]
  by_cases hh : cd.request.serviceOrdinal = 0 ∧ cd.request.requestOrdinal = 0
  · rw [if_pos hh, hadm.hello hh.1 hh.2, if_neg Bool.false_ne_true]
  · rw [if_neg hh, hadm.established hh, if_pos rfl]

/-- **The checks of `invoke`** give the verdict: a request that is turned down has its answer, and
one that is posted leaves the session. -/
theorem checkRequest_serves (reply : ServiceReply) {i i' : Invoker} (hq : b.Backs q)
    (hclean : i.clientData.Clean) (h : b.checkRequest codec c i = .ok (b', i')) :
    i'.stage = .rejected ∧
        q.serve (b.session c i.clientData) codec i.clientData.request true reply =
          some (b'.session c i'.clientData, i'.clientData.answer) ∨
      i'.stage = .posted ∧ i'.clientData = i.clientData ∧
        b'.session c i'.clientData = b.session c i.clientData := by
  unfold checkRequest at h
  dsimp only at h
  split at h
  · rename_i hnone
    cases h
    have hverdict : q.verdict (b.session c i.clientData) i.clientData.request =
        some (.refused .invokeNoServiceWithOrdinalError .requestNoServiceWithOrdinal) := by
      rw [SessionServer.verdict, hq.directory, directory_none hnone]
    exact .inl ⟨rfl, (SessionServer.serve_refused hverdict reply).trans rfl⟩
  · cases h
  · rename_i service hservice
    have hverdict := hq.verdict_eq (c := c) i.clientData hservice
    split at h
    · rename_i hfn
      cases h
      rw [if_pos hfn] at hverdict
      exact .inl ⟨rfl, (SessionServer.serve_refused hverdict reply).trans rfl⟩
    · rename_i hfn
      obtain ⟨cs, hcs, h⟩ := bind_eq_ok.mp h
      have hsub := ClientServiceCookies.isSubscribed_createOrRetrieveCookie hcs
      have hsession : (b.setCookies cs).session c i.clientData = b.session c i.clientData :=
        session_congr (.refl _) rfl fun s => hsub s c
      rw [hsub] at h
      rw [if_neg hfn] at hverdict
      split at h
      · rename_i hgate
        cases h
        rw [if_pos hgate] at hverdict
        refine .inl ⟨rfl, (SessionServer.serve_refused hverdict reply).trans ?_⟩
        rw [← hsession]
        rfl
      · rename_i hgate
        rw [if_neg hgate] at hverdict
        split at h
        · rename_i hhello
          rw [if_pos hhello] at hverdict
          split at h
          · rename_i hest
            cases h
            rw [if_pos hest] at hverdict
            refine .inl ⟨rfl, (SessionServer.serve_greeted hverdict reply).trans ?_⟩
            rw [← hsession]
            have herror := hclean.error
            simp only [ClientSession.greet, rejectHello, ClientData.answer, ClientData.assignError,
              ClientData.requestDisconect, herror]
            rfl
          · cases h
            exact .inr ⟨rfl, rfl, hsession⟩
        · rename_i hhello
          rw [if_neg hhello] at hverdict
          split at h
          · rename_i hest
            cases h
            rw [hest, if_neg Bool.false_ne_true] at hverdict
            refine .inl ⟨rfl, (SessionServer.serve_refused hverdict reply).trans ?_⟩
            rw [← hsession]
            rfl
          · cases h
            exact .inr ⟨rfl, rfl, hsession⟩

/-! ## The handlers -/

/-- What a handler leaves and answers is what `f` says of the session. -/
def Handles {O : Type} (c : ClientPtr) (cd : ClientData)
    (f : Option (ClientSession × ErrorCode × O))
    (b' : BackEnd) (cd' : ClientData) (res : O) : Prop :=
  cd'.response = cd.response ∧ f = some (b'.session c cd', cd'.errorCode, res)

theorem storeResponse_serves (cd : ClientData) {output : Option Bytes}
    (herror : cd.response.error = some .requestSuccess) :
    (b.session c cd).say cd.errorCode output =
      (b.session c (storeResponse output cd), (storeResponse output cd).answer) := by
  cases output with
  | none => rfl
  | some bytes =>
    simp only [ClientSession.say, storeResponse, ClientData.answer, herror]
    rfl

/-- **A generated dispatch function** is a method of the server. -/
theorem runMethod_serves {I O : Type} {input : MessageCodec I} {output : MessageCodec O}
    {impl : BackEnd → ClientData → I → Except Fault (BackEnd × ClientData × O)}
    {f : I → Option (ClientSession × ErrorCode × O)} (hclean : cd.Clean)
    (himpl : ∀ req cd₁ res, impl b cd req = .ok (b', cd₁, res) →
      Handles c cd (f req) b' cd₁ res)
    (h : runMethod input output impl b cd = .ok (b', cd')) :
    SessionServer.method (b.session c cd) input output f cd.request.requestString =
      some (b'.session c cd', cd'.answer) := by
  unfold SessionServer.method
  rcases runMethod_ok h with ⟨hparse, rfl, rfl⟩ | ⟨req, cd₁, res, hparse, hrun, rfl⟩
  · split
    · rfl
    · rename_i hp
      rw [hp] at hparse
      cases hparse
  · obtain ⟨hresponse, hf⟩ := himpl req cd₁ res hrun
    rw [hparse]
    dsimp only
    rw [hf]
    exact congrArg some (storeResponse_serves _ (by rw [hresponse]; exact hclean.error))

theorem hello_serves (hq : b.Backs q) (hclean : cd.Clean) {req : HelloRequest}
    {res : HelloResponse} (h : BasicProtocolImpl.hello b cd req = .ok (cd', res)) :
    Handles c cd (q.hello (b.session c cd) req) b cd' res := by
  unfold BasicProtocolImpl.hello at h
  unfold SessionServer.hello
  rw [hq.backendType, hq.sourceType, session_identity_isSome]
  split at h
  · rename_i htype
    cases h
    exact ⟨rfl, if_pos htype⟩
  · rename_i htype
    rw [if_neg htype]
    split at h
    · rename_i hsource
      cases h
      exact ⟨rfl, if_pos hsource⟩
    · rename_i hsource
      rw [if_neg hsource]
      obtain ⟨cd₁, hest, hret⟩ := bind_eq_ok.mp h
      cases hret
      obtain ⟨hnew, rfl⟩ := ClientData.establishClient_eq_ok.mp hest
      have hnew : cd.clientEstablished = false := hnew
      rw [hnew, if_neg Bool.false_ne_true]
      refine ⟨rfl, ?_⟩
      simp only [hclean.errorCode]
      rfl

/-- The entries of a list, one by one. -/
theorem mapM_toOption {α β : Type} {f : α → Except Fault β} {g : α → Option β} {xs : List α}
    {ys : List β} (h : xs.mapM f = .ok ys) (hfg : ∀ x ∈ xs, ∀ y, f x = .ok y → g x = some y) :
    xs.mapM g = some ys := by
  induction xs generalizing ys with
  | nil =>
    cases h
    rfl
  | cons x xs ih =>
    rw [List.mapM_cons] at h ⊢
    obtain ⟨y, hy, h⟩ := bind_eq_ok.mp h
    obtain ⟨zs, hzs, hret⟩ := bind_eq_ok.mp h
    cases hret
    rw [hfg x List.mem_cons_self y hy, ih hzs fun z hz => hfg z (List.mem_cons_of_mem _ hz)]
    rfl

theorem listServices_serves (hq : b.Backs q) (hwf : b.services.WF)
    (hfits : b.services.size ≤ 2 ^ 16) {res : ListServicesResponse}
    (h : BasicProtocolImpl.listServices b = .ok res) : q.listServices = some res := by
  obtain ⟨services, hmap, hret⟩ := bind_eq_ok.mp h
  cases hret
  have hservices := mapM_toOption (g := fun i =>
    (q.directory.at? i).map fun l => (⟨UInt32.ofNat i, l.name⟩ : ServiceEntry)) hmap ?_
  · rw [SessionServer.listServices]
    have hsize : q.directory.size = b.services.size := by rw [hq.directory]; rfl
    rw [hsize, hservices]
    rfl
  · intro i hi entry hentry
    have hlt : i < b.services.size := List.mem_range.mp hi
    have hof : (UInt32.ofNat i).toNat = i := by
      rw [UInt32.toNat_ofNat']
      omega
    split at hentry
    · cases hentry
    · rename_i e he
      cases hentry
      rw [OidContainer.entryAtOrdinal, hof] at he
      have hord : e.ordinal.toUInt32 = UInt32.ofNat i := by
        apply UInt32.toNat_inj.mp
        rw [UInt16.toNat_toUInt32, hof]
        exact hwf.ordinal i e he
      rw [hq.directory, directory_at?, he, hord]
      rfl

/-- The session after a cookie was written. -/
theorem session_setCookie (cd cd' : ClientData) {cs cs' : ClientServiceCookies}
    {cookie : ClientCookie}
    (hcs : b.clientServiceCookies.createOrRetrieveCookie o c = .ok cs)
    (hset : cs.setCookie o c cookie = .ok cs') (hid : SameIdentity cd cd')
    (hresponse : cd'.response = cd.response) :
    (b.setCookies cs').session c cd' =
      (b.session c cd).setSubscribed o.toNat cookie.subscribed := by
  have hsub : ∀ s, cs'.isSubscribed s c =
      Function.update (b.session c cd).subscribed o.toNat cookie.subscribed s := by
    intro s
    rw [ClientServiceCookies.isSubscribed_setCookie hset, Function.update_apply,
      ClientServiceCookies.isSubscribed_createOrRetrieveCookie hcs]
    simp [session]
  unfold session ClientSession.setSubscribed
  simp only [hid.name, hid.clientEstablished, hresponse]
  congr 1
  exact funext hsub

theorem called_eq (reply : ServiceReply) (s : Service) (hclean : cd.Clean) (cookie : ClientCookie) :
    (BasicProtocolImpl.callReply s cd cookie reply).errorCode = (s.called reply).errorCode ∧
      (BasicProtocolImpl.callReply s cd cookie reply).output = (s.called reply).output := by
  unfold BasicProtocolImpl.callReply Service.called
  cases s.impl with
  | basicProtocol => exact ⟨hclean.errorCode, rfl⟩
  | application t => exact ⟨rfl, rfl⟩

theorem subscribe_serves (hq : b.Backs q) (hfits : b.services.size ≤ 2 ^ 16) (hclean : cd.Clean)
    {req : SubscribeServiceRequest} {res : SubscribeServiceResponse}
    (h : BasicProtocolImpl.rpcSubscribeService c reply b cd req = .ok (b', cd', res)) :
    Handles c cd (q.subscribe (b.session c cd) reply req) b' cd' res := by
  have hsize : q.directory.size = b.services.size := by rw [hq.directory]; rfl
  unfold SessionServer.subscribe
  simp only [hsize]
  cases BasicProtocolImpl.rpcSubscribeService_step h with
  | outOfRange hrange => exact ⟨rfl, if_pos hrange⟩
  | allready hrange hcs hsub =>
    rw [toUInt16_toNat hfits hrange, ← session_subscribed c b cd] at hsub
    rw [if_neg (not_not.mpr hrange), if_pos hsub]
    have hsession := session_assignError hcs cd .allreadySubscribed
    exact ⟨rfl, by rw [hsession]; rfl⟩
  | @called cs cs' s r hrange hcs hsub hs hr hset =>
    have hservice := hq.service hs
    rw [toUInt16_toNat hfits hrange] at hsub hservice
    rw [← session_subscribed c b cd] at hsub
    rw [if_neg (not_not.mpr hrange), hsub, if_neg Bool.false_ne_true, hservice, Option.map_some]
    obtain ⟨hcode, houtput⟩ := called_eq reply s hclean
      ((b.clientServiceCookies.lookup req.serviceOrdinal.toUInt16.toNat c).getD {})
    refine ⟨rfl, ?_⟩
    have hsession := session_setCookie cd (r.applyTo cd) hcs hset ⟨rfl, rfl⟩ rfl
    rw [toUInt16_toNat hfits hrange] at hsession
    have hlog : ((b.setCookies cs').logCall (.subscribe req.serviceOrdinal.toUInt16.toNat c
        (!(r.applyTo cd).errorCode.isError))).session c (r.applyTo cd) =
          (b.setCookies cs').session c (r.applyTo cd) := rfl
    rw [← hr] at hcode houtput
    rw [hlog, hsession, ← hcode, ← houtput]
    rfl

/-- The session after a cookie was deleted. -/
theorem session_deleteCookie (cd cd' : ClientData) {cs cs' : ClientServiceCookies}
    {found : CookieResult}
    (hcs : b.clientServiceCookies.createOrRetrieveCookie o c = .ok cs)
    (hdelete : cs.deleteCookie o c = .ok (found, cs')) (hid : SameIdentity cd cd')
    (hresponse : cd'.response = cd.response) :
    (b.setCookies cs').session c cd' = (b.session c cd).setSubscribed o.toNat false := by
  have hsub : ∀ s, cs'.isSubscribed s c =
      Function.update (b.session c cd).subscribed o.toNat false s := by
    intro s
    rw [ClientServiceCookies.isSubscribed_deleteCookie hdelete, Function.update_apply,
      ClientServiceCookies.isSubscribed_createOrRetrieveCookie hcs]
    simp
  unfold session ClientSession.setSubscribed
  simp only [hid.name, hid.clientEstablished, hresponse]
  congr 1
  exact funext hsub

theorem unsubscribe_serves (hq : b.Backs q) (hfits : b.services.size ≤ 2 ^ 16) (hclean : cd.Clean)
    {req : UnsubscribeServiceRequest} {res : UnsubscribeServiceResponse}
    (h : BasicProtocolImpl.rpcUnsubscribeService c reply b cd req = .ok (b', cd', res)) :
    Handles c cd (q.unsubscribe (b.session c cd) reply req) b' cd' res := by
  have hsize : q.directory.size = b.services.size := by rw [hq.directory]; rfl
  unfold SessionServer.unsubscribe
  simp only [hsize]
  cases BasicProtocolImpl.rpcUnsubscribeService_step h with
  | outOfRange hrange => exact ⟨rfl, if_pos hrange⟩
  | notSubscribed hrange hcs hsub =>
    rw [toUInt16_toNat hfits hrange, ← session_subscribed c b cd] at hsub
    rw [if_neg (not_not.mpr hrange), hsub, Bool.not_false, if_pos rfl]
    have hsession := session_assignError hcs cd .notSubscribed
    exact ⟨rfl, by rw [hsession]; rfl⟩
  | @called cs cs' s r found hrange hcs hsub hs hr hdelete =>
    have hservice := hq.service hs
    rw [toUInt16_toNat hfits hrange] at hsub hservice
    rw [← session_subscribed c b cd] at hsub
    rw [if_neg (not_not.mpr hrange), hsub, Bool.not_true, if_neg Bool.false_ne_true, hservice,
      Option.map_some]
    obtain ⟨hcode, -⟩ := called_eq reply s hclean
      ((b.clientServiceCookies.lookup req.serviceOrdinal.toUInt16.toNat c).getD {})
    refine ⟨rfl, ?_⟩
    have hsession := session_deleteCookie cd (r.applyTo cd) hcs hdelete ⟨rfl, rfl⟩ rfl
    rw [toUInt16_toNat hfits hrange] at hsession
    have hlog : ((b.setCookies cs').logCall
        (.unsubscribe req.serviceOrdinal.toUInt16.toNat c)).session c (r.applyTo cd) =
          (b.setCookies cs').session c (r.applyTo cd) := rfl
    rw [← hr] at hcode
    rw [hlog, hsession, ← hcode]
    rfl

theorem listMethods_serves (hq : b.Backs q) (hfits : b.services.size ≤ 2 ^ 16) (hclean : cd.Clean)
    {req : ListMethodsRequest} {res : ListMethodsResponse}
    (h : BasicProtocolImpl.listMethods b cd req = .ok (cd', res)) :
    Handles c cd (q.listMethods (b.session c cd) req) b cd' res := by
  have hsize : q.directory.size = b.services.size := by rw [hq.directory]; rfl
  unfold BasicProtocolImpl.listMethods at h
  unfold SessionServer.listMethods
  simp only [hsize]
  split at h
  · rename_i hrange
    cases h
    exact ⟨rfl, if_pos hrange⟩
  · rename_i hrange
    rw [if_neg hrange]
    split at h
    · cases h
    · cases h
    · rename_i s hs
      have hservice := hq.service hs
      rw [toUInt16_toNat hfits (not_not.mp hrange)] at hservice
      obtain ⟨methods, hmethods, hret⟩ := bind_eq_ok.mp h
      cases hret
      refine ⟨rfl, ?_⟩
      rw [hservice, Option.bind_some, hmethods, hclean.errorCode]
      rfl

/-! ## The dispatch -/

/-- **A dispatch of `basic_protocol`** is a call of the server's own methods. -/
theorem dispatchBasic_serves (hq : b.Backs q) (hwf : b.services.WF)
    (hfits : b.services.size ≤ 2 ^ 16) (hclean : cd.Clean) {m : BasicMethod}
    (h : dispatchBasic codec c reply m b cd = .ok (b', cd')) :
    q.basicMethod (b.session c cd) codec reply cd.request.requestString m =
      some (b'.session c cd', cd'.answer) := by
  cases m <;> simp only [dispatchBasic] at h <;> simp only [SessionServer.basicMethod] <;>
    refine runMethod_serves hclean (fun req cd₁ res himpl => ?_) h
  case hello =>
    obtain ⟨⟨cd₂, r⟩, hh, hret⟩ := bind_eq_ok.mp himpl
    cases hret
    exact hello_serves hq hclean hh
  case listServices =>
    obtain ⟨r, hl, hret⟩ := bind_eq_ok.mp himpl
    cases hret
    refine ⟨rfl, ?_⟩
    rw [listServices_serves hq hwf hfits hl, Option.map_some, hclean.errorCode]
  case rpcSubscribeService => exact subscribe_serves hq hfits hclean himpl
  case rpcUnsubscribeService => exact unsubscribe_serves hq hfits hclean himpl
  case listMethods =>
    obtain ⟨⟨cd₂, r⟩, hl, hret⟩ := bind_eq_ok.mp himpl
    cases hret
    exact listMethods_serves hq hfits hclean hl

/-- A function of another service keeps the subscriptions, and answers as it likes. -/
theorem dispatchApplication_serves (hclean : cd.Clean)
    (h : dispatchApplication o c reply b cd = .ok (b', cd')) :
    (if reply.parses then some ((b.session c cd).say reply.errorCode reply.output)
      else some ((b.session c cd).refuse .invokeRequestStringParseError
        .requestStringParseError)) = some (b'.session c cd', cd'.answer) := by
  rcases dispatchApplication_cases h with
    ⟨hparse, rfl, rfl⟩ | ⟨hparse, cookie, cs, hcookie, hcs, rfl, rfl⟩
  · rw [hparse]
    rfl
  · rw [hparse, if_pos rfl]
    have hsub : ∀ s, cs.isSubscribed s c = b.clientServiceCookies.isSubscribed s c := by
      intro s
      rw [ClientServiceCookies.isSubscribed_setCookie hcs]
      split
      · rename_i heq
        rw [heq.1, ClientServiceCookies.isSubscribed, hcookie]
        rfl
      · rfl
    have hsession : b.session c cd = (b.setCookies cs).session c (reply.applyTo cd) :=
      (session_congr ⟨rfl, rfl⟩ rfl hsub).symm
    rw [hsession]
    exact congrArg some (storeResponse_serves (reply.applyTo cd) hclean.error)

/-- **A dispatch is a call of the server.** -/
theorem dispatch_serves (cd : ClientData) (hq : b.Backs q) (hwf : b.services.WF)
    (hfits : b.services.size ≤ 2 ^ 16) (hclean : cd.Clean)
    (h : s.dispatch codec o c reply b cd = .ok (b', cd')) :
    q.call (b.session c cd) codec cd.request reply s = some (b'.session c cd', cd'.answer) := by
  unfold SessionServer.call
  rcases dispatch_cases h with ⟨himpl, m, hm, h⟩ | ⟨t, himpl, h⟩
  · rw [himpl]
    unfold requestedMethod at hm
    dsimp only
    rw [hm, Option.bind_some]
    exact dispatchBasic_serves hq hwf hfits hclean h
  · rw [himpl]
    exact dispatchApplication_serves hclean h

/-- What a dispatch that returns found: the function is there. -/
theorem dispatch_function (h : s.dispatch codec o c reply b cd = .ok (b', cd')) :
    s.containsFunctionAtOrdinal cd.request.requestOrdinal.toUInt16 = true := by
  rw [Service.dispatch] at h
  rw [Service.containsFunctionAtOrdinal]
  cases himpl : s.impl with
  | basicProtocol =>
    simp only [himpl] at h
    cases hm : basicProtocolTable.atOrdinal cd.request.requestOrdinal.toUInt16 with
    | none =>
      simp only [hm] at h
      cases h
    | some m => simp
  | application t =>
    simp only [himpl] at h
    cases hm : t.atOrdinal cd.request.requestOrdinal.toUInt16 with
    | none =>
      simp only [hm] at h
      cases h
    | some m => simp [hm]

end BackEnd

end RblRpc
