import RblRpc.Backend.Subscriptions

/-!
# The objects behind the cookies

A service keeps its object for a client behind a cookie: `create_cookie` allocates it, and
`destroy_cookie` or the destructor of the cookie deletes it.  What a service does with its cookie in
one call is a list of operations; the events of a step follow the code that calls it.

* `CookieOp.perform`, `destroyCookie`, `destructor` — the members of `ClientCookie`.
* `objects` — the objects created and deleted in a step, by service and client.
* `objects_paired` — **each object is deleted where it was created, and before the next one is.**
* `ledger_paired` — the same over a run, and over the life of the cookie store.
-/

namespace RblRpc

open Transition Pairing

/-- What a service does with its cookie. -/
inductive CookieOp where
  | createCookie (object : ℕ)
  | destroyCookie
  deriving DecidableEq

/-- `destroy_cookie`. -/
def ClientCookie.destroyCookie (base : Option ℕ) : List (Event ℕ) × Option ℕ :=
  ((base.map Event.closed).toList, none)

/-- `~ClientCookie`. -/
def ClientCookie.destructor (base : Option ℕ) : List (Event ℕ) := (base.map Event.closed).toList

/-- An operation on the object of a cookie; `none`: the assertion of `create_cookie` fails. -/
def CookieOp.perform : CookieOp → Option ℕ → Option (List (Event ℕ) × Option ℕ)
  | .createCookie _, some _ => none
  | .createCookie object, none => some ([.opened object], some object)
  | .destroyCookie, base => some (ClientCookie.destroyCookie base)

/-- The operations of one call. -/
def performAll : List CookieOp → Option ℕ → Option (List (Event ℕ) × Option ℕ)
  | [], base => some ([], base)
  | op :: ops, base => do
    let (es, base) ← op.perform base
    let (es', base) ← performAll ops base
    return (es ++ es', base)

/-- `destroy_cookie`, and the destructor of the entry that `delete_cookie` erases. -/
def removeCookie (base : Option ℕ) : List (Event ℕ) :=
  (ClientCookie.destroyCookie base).1 ++
    ClientCookie.destructor (ClientCookie.destroyCookie base).2

theorem removeCookie_paired (base : Option ℕ) : Paired base (removeCookie base) none :=
  (Paired.close base).append (.nil none)

theorem performAll_paired {ops : List CookieOp} {base base' : Option ℕ} {es : List (Event ℕ)}
    (h : performAll ops base = some (es, base')) : Paired base es base' := by
  induction ops generalizing base es with
  | nil =>
    cases h
    exact .nil _
  | cons op ops ih =>
    simp only [performAll, Option.bind_eq_bind, Option.bind_eq_some_iff] at h
    obtain ⟨⟨es₁, base₁⟩, h₁, ⟨es₂, base₂⟩, h₂, hret⟩ := h
    cases hret
    refine Paired.append ?_ (ih h₂)
    cases op with
    | createCookie object =>
      cases base with
      | some a => cases h₁
      | none =>
        cases h₁
        exact .opened (.nil _)
    | destroyCookie =>
      cases h₁
      exact .close base

/-- What the service at `s` does with the cookie of `c` when it is called in a step. -/
abbrev Script := ℕ → ClientPtr → List CookieOp

/-- The events of a step, by service and client. -/
abbrev Objects := ℕ → ClientPtr → List (Event ℕ)

/-- Events at one cookie. -/
def Objects.at (s : ℕ) (c : ClientPtr) (es : List (Event ℕ)) : Objects :=
  fun s' c' => if s' = s ∧ c' = c then es else []

namespace BackEnd

/-- The object behind a cookie; there is none behind a cookie yet to be created. -/
def cookieBase (b : BackEnd) (s : ℕ) (c : ClientPtr) : Option ℕ :=
  (b.clientServiceCookies.lookup s c).bind (·.cookieBase)

/-- The service at `s` is called for client `c`. -/
def called (script : Script) (b : BackEnd) (s : ℕ) (c : ClientPtr) :
    List (Event ℕ) × Option ℕ :=
  (performAll (script s c) (b.cookieBase s c)).getD ([], b.cookieBase s c)

/-- The service `rpc_subscribe_service` calls; `subscribe` of `basic_protocol` does nothing. -/
def subscribed (c : ClientPtr) (b : BackEnd) (req : SubscribeServiceRequest) : Option ℕ :=
  let o := req.serviceOrdinal.toUInt16.toNat
  if req.serviceOrdinal.toNat < b.services.size ∧
      b.clientServiceCookies.isSubscribed o c = false ∧ o ≠ 0 then some o else none

/-- The service `rpc_unsubscribe_service` calls. -/
def unsubscribed (c : ClientPtr) (b : BackEnd) (req : UnsubscribeServiceRequest) : Option ℕ :=
  let o := req.serviceOrdinal.toUInt16.toNat
  if req.serviceOrdinal.toNat < b.services.size ∧
      b.clientServiceCookies.isSubscribed o c = true then some o else none

/-- The service whose function or `subscribe` a dispatch calls; the cookie stays. -/
def callsKeeping (codec : BasicProtocolCodec) (c : ClientPtr) (reply : ServiceReply)
    (b : BackEnd) (i : Invoker) : Option ℕ :=
  match b.serviceAt i.service with
  | some (some s) => match s.impl with
    | .basicProtocol =>
      if requestedMethod i.clientData.request = some .rpcSubscribeService then
        match codec.subscribeServiceRequest.parseFromString
            i.clientData.request.requestString with
        | (true, req) => b.subscribed c req
        | (false, _) => none
      else none
    | .application _ => if reply.parses then some i.clientCookie.toNat else none
  | _ => none

/-- The service whose `unsubscribe` a dispatch calls; the cookie is removed. -/
def callsRemoving (codec : BasicProtocolCodec) (c : ClientPtr) (b : BackEnd) (i : Invoker) :
    Option ℕ :=
  match b.serviceAt i.service with
  | some (some s) => match s.impl with
    | .basicProtocol =>
      if requestedMethod i.clientData.request = some .rpcUnsubscribeService then
        match codec.unsubscribeServiceRequest.parseFromString
            i.clientData.request.requestString with
        | (true, req) => b.unsubscribed c req
        | (false, _) => none
      else none
    | .application _ => none
  | _ => none

/-- The events of a dispatch. -/
def runObjects (codec : BasicProtocolCodec) (script : Script) (c : ClientPtr)
    (reply : ServiceReply) (b : BackEnd) (i : Invoker) : Objects :=
  match b.callsKeeping codec c reply i with
  | some s => .at s c (b.called script s c).1
  | none => match b.callsRemoving codec c i with
    | some s => .at s c ((b.called script s c).1 ++ removeCookie (b.called script s c).2)
    | none => fun _ _ => []

/-- The loop of `disconnect` comes to the service at `s`. -/
def cleansUp (b : BackEnd) (s : ℕ) : Bool :=
  b.isSealed && !b.ioService.stopped && decide (1 ≤ s) && decide (s < b.services.size)

/-- The events of `disconnect`: each turn of its loop concerns the cookie of its service. -/
def disconnectObjects (script : Script) (c : ClientPtr) (b : BackEnd) : Objects := fun s k =>
  if k = c ∧ b.cleansUp s = true then
    if b.clientServiceCookies.isSubscribed s c then
      (b.called script s c).1 ++ removeCookie (b.called script s c).2
    else removeCookie (b.cookieBase s c)
  else []

end BackEnd

namespace BackEnd

variable {codec : BasicProtocolCodec} {b b' : BackEnd} {c : ClientPtr} {cd cd' : ClientData}
  {reply : ServiceReply}

/-- A cookie that is created has no object. -/
theorem cookieBase_createOrRetrieveCookie {cs : ClientServiceCookies} {o : UInt16}
    (h : b.clientServiceCookies.createOrRetrieveCookie o c = .ok cs) (s : ℕ) (k : ClientPtr) :
    (cs.lookup s k).bind (·.cookieBase) = b.cookieBase s k := by
  rw [(ClientServiceCookies.createOrRetrieveCookie_ok h).2]
  split
  · rename_i hsk
    rw [cookieBase, hsk.1, hsk.2]
    cases b.clientServiceCookies.lookup o.toNat c <;> rfl
  · rfl

/-- **`rpc_subscribe_service`** leaves the object the service leaves. -/
theorem rpcSubscribeService_base (hreg : RegistrySound b) {req : SubscribeServiceRequest}
    {res : SubscribeServiceResponse}
    (h : BasicProtocolImpl.rpcSubscribeService c reply b cd req = .ok (b', cd', res))
    (s : ℕ) (k : ClientPtr) : b'.cookieBase s k =
      if b.subscribed c req = some s ∧ k = c then reply.cookieBase
      else b.cookieBase s k := by
  cases BasicProtocolImpl.rpcSubscribeService_step h with
  | outOfRange hrange =>
    have hnone : b.subscribed c req = none := if_neg fun hc => hrange hc.1
    rw [hnone, if_neg (by simp)]
  | allready _ hcs hsub =>
    have hnone : b.subscribed c req = none := by
      refine if_neg fun hc => ?_
      cases hsub.symm.trans hc.2.1
    rw [hnone, if_neg (by simp)]
    exact cookieBase_createOrRetrieveCookie hcs s k
  | @called cs cs' service r hrange hcs hsub hservice hanswer hcs' =>
    have hsome : b.subscribed c req = if req.serviceOrdinal.toUInt16.toNat = 0 then none
        else some req.serviceOrdinal.toUInt16.toNat := by
      simp only [subscribed, hrange, hsub, true_and]
      split <;> simp_all
    have htyped := hreg.typed _ service hservice
    show (cs'.lookup s k).bind (·.cookieBase) = _
    rw [(ClientServiceCookies.setCookie_ok hcs').2.2, hsome]
    by_cases hsk : s = req.serviceOrdinal.toUInt16.toNat ∧ k = c
    · obtain ⟨rfl, rfl⟩ := hsk
      rw [if_pos ⟨rfl, rfl⟩, Option.bind_some, hanswer]
      cases himpl : service.impl with
      | basicProtocol =>
        have hzero : req.serviceOrdinal.toUInt16.toNat = 0 :=
          congrArg UInt16.toNat (htyped.mp himpl)
        rw [if_pos hzero, if_neg (by simp), BasicProtocolImpl.callReply, himpl, cookieBase]
        cases b.clientServiceCookies.lookup req.serviceOrdinal.toUInt16.toNat k <;> rfl
      | application t =>
        have hne : req.serviceOrdinal.toUInt16.toNat ≠ 0 := by
          intro hzero
          have himpl' := htyped.mpr (UInt16.toNat_inj.mp hzero)
          rw [himpl] at himpl'
          cases himpl'
        rw [if_neg hne, if_pos ⟨rfl, rfl⟩, BasicProtocolImpl.callReply, himpl]
    · rw [if_neg hsk, if_neg]
      · exact cookieBase_createOrRetrieveCookie hcs s k
      · rintro ⟨hs, hk⟩
        split at hs
        · cases hs
        · exact hsk ⟨(Option.some.inj hs).symm, hk⟩

/-- **`rpc_unsubscribe_service`** removes the cookie of a subscription. -/
theorem rpcUnsubscribeService_base {req : UnsubscribeServiceRequest}
    {res : UnsubscribeServiceResponse}
    (h : BasicProtocolImpl.rpcUnsubscribeService c reply b cd req = .ok (b', cd', res))
    (s : ℕ) (k : ClientPtr) : b'.cookieBase s k =
      if b.unsubscribed c req = some s ∧ k = c then none else b.cookieBase s k := by
  cases BasicProtocolImpl.rpcUnsubscribeService_step h with
  | outOfRange hrange =>
    have hnone : b.unsubscribed c req = none := if_neg fun hc => hrange hc.1
    rw [hnone, if_neg (by simp)]
  | notSubscribed _ hcs hsub =>
    have hnone : b.unsubscribed c req = none := by
      refine if_neg fun hc => ?_
      cases hsub.symm.trans hc.2
    rw [hnone, if_neg (by simp)]
    exact cookieBase_createOrRetrieveCookie hcs s k
  | @called cs cs' service r found hrange hcs hsub hservice hanswer hcs' =>
    have hsome : b.unsubscribed c req = some req.serviceOrdinal.toUInt16.toNat :=
      if_pos ⟨hrange, hsub⟩
    show (cs'.lookup s k).bind (·.cookieBase) = _
    rw [(ClientServiceCookies.deleteCookie_ok hcs').2, hsome]
    by_cases hsk : s = req.serviceOrdinal.toUInt16.toNat ∧ k = c
    · obtain ⟨rfl, rfl⟩ := hsk
      rw [if_pos ⟨rfl, rfl⟩, if_pos ⟨rfl, rfl⟩]
      rfl
    · rw [if_neg hsk, if_neg fun hc => hsk ⟨(Option.some.inj hc.1).symm, hc.2⟩]
      exact cookieBase_createOrRetrieveCookie hcs s k

/-- The function of another service leaves the object it leaves. -/
theorem dispatchApplication_base {o : UInt16}
    (h : dispatchApplication o c reply b cd = .ok (b', cd')) (s : ℕ) (k : ClientPtr) :
    b'.cookieBase s k =
      if reply.parses = true ∧ s = o.toNat ∧ k = c then reply.cookieBase
      else b.cookieBase s k := by
  rcases dispatchApplication_cases h with ⟨hparse, rfl, -⟩ | ⟨hparse, cookie, cs, -, hcs, rfl, -⟩
  · rw [if_neg fun hc => by simp [hc.1] at hparse]
  · show (cs.lookup s k).bind (·.cookieBase) = _
    rw [(ClientServiceCookies.setCookie_ok hcs).2.2, hparse]
    by_cases hsk : s = o.toNat ∧ k = c
    · rw [if_pos hsk, if_pos ⟨rfl, hsk⟩]
      rfl
    · rw [if_neg hsk, if_neg fun hc => hsk hc.2]
      rfl

/-- The dispatch functions of `basic_protocol`. -/
theorem dispatchBasic_base (hreg : RegistrySound b) {m : BasicMethod}
    (hm : requestedMethod cd.request = some m)
    (h : dispatchBasic codec c reply m b cd = .ok (b', cd')) (s : ℕ) (k : ClientPtr) :
    b'.cookieBase s k =
      if (if m = .rpcSubscribeService then
          match codec.subscribeServiceRequest.parseFromString cd.request.requestString with
          | (true, req) => b.subscribed c req
          | (false, _) => none
        else none) = some s ∧ k = c then reply.cookieBase
      else if (if m = .rpcUnsubscribeService then
          match codec.unsubscribeServiceRequest.parseFromString cd.request.requestString with
          | (true, req) => b.unsubscribed c req
          | (false, _) => none
        else none) = some s ∧ k = c then none
      else b.cookieBase s k := by
  cases m <;> simp only [dispatchBasic] at h
  case rpcSubscribeService =>
    rcases runMethod_ok h with ⟨hp, rfl, -⟩ | ⟨req, cd₁, res, hp, hrun, -⟩
    · obtain ⟨req, hp⟩ : ∃ req, codec.subscribeServiceRequest.parseFromString
          cd.request.requestString = (false, req) := ⟨_, Prod.ext hp rfl⟩
      simp [hp]
    · simpa [hp] using rpcSubscribeService_base hreg hrun s k
  case rpcUnsubscribeService =>
    rcases runMethod_ok h with ⟨hp, rfl, -⟩ | ⟨req, cd₁, res, hp, hrun, -⟩
    · obtain ⟨req, hp⟩ : ∃ req, codec.unsubscribeServiceRequest.parseFromString
          cd.request.requestString = (false, req) := ⟨_, Prod.ext hp rfl⟩
      simp [hp]
    · simpa [hp] using rpcUnsubscribeService_base hrun s k
  all_goals
    have hsame : b' = b := by
      rcases runMethod_ok h with ⟨-, rfl, -⟩ | ⟨req, cd₁, res, -, hrun, -⟩
      · rfl
      · obtain ⟨_, -, hret⟩ := bind_eq_ok.mp hrun
        cases hret
        rfl
    simp [hsame]

/-- **A dispatch** leaves the object of the service it calls, or removes the cookie, and leaves
every other cookie its object. -/
theorem runPosted_base (hreg : RegistrySound b) {i i' : Invoker}
    (h : b.runPosted codec c reply i = .ok (b', i')) (s : ℕ) (k : ClientPtr) :
    b'.cookieBase s k =
      if b.callsKeeping codec c reply i = some s ∧ k = c then reply.cookieBase
      else if b.callsRemoving codec c i = some s ∧ k = c then none
      else b.cookieBase s k := by
  obtain ⟨service, cd', hservice, hd, -⟩ := runPosted_dispatch h
  have hlog : RegistrySound (b.logCall (.dispatch i.service.toNat c)) :=
    hreg.of_shape rfl rfl (.refl _)
  rcases dispatch_cases hd with ⟨himpl, m, hm, hd⟩ | ⟨t, himpl, hd⟩
  · have hbase := dispatchBasic_base hlog hm hd s k
    simp only [callsKeeping, callsRemoving, hservice, himpl, hm, Option.some.injEq]
    exact hbase
  · have hbase := dispatchApplication_base hd s k
    simp only [callsKeeping, callsRemoving, hservice, himpl]
    rw [hbase]
    by_cases hp : reply.parses = true
    · simp only [hp, if_true, true_and, Option.some.injEq, reduceCtorEq, false_and, if_false,
        eq_comm (a := s)]
      rfl
    · simp only [hp, false_and, if_false, Bool.false_eq_true, reduceCtorEq]
      rfl

/-- **`disconnect`** removes the cookies of the client its loop comes to. -/
theorem disconnect_base {replies : ℕ → ServiceReply} (hfits : b.services.size ≤ 2 ^ 16)
    (h : b.disconnect c replies cd = .ok (b', cd')) (s : ℕ) (k : ClientPtr) :
    b'.cookieBase s k = if k = c ∧ b.cleansUp s = true then none else b.cookieBase s k := by
  obtain ⟨-, -, -, -, hr, -⟩ := disconnect_ok h
  have hof : ∀ i, i < b.services.size → (UInt16.ofNat i).toNat = i :=
    fun i hi => UInt16.toNat_ofNat_of_lt (hi.trans_le hfits)
  rw [cookieBase, cookieBase]
  split
  · rename_i hc
    obtain ⟨rfl, hclean⟩ := hc
    simp only [cleansUp, Bool.and_eq_true, decide_eq_true_eq] at hclean
    obtain ⟨⟨hrun, hpos⟩, hlt⟩ := hclean
    rw [if_pos (by simpa using hrun)] at hr
    have hmem : s ∈ List.range' 1 (b.services.size - 1) := by
      rw [List.mem_range'_1]
      omega
    have hnone := hr.removed s hmem
    rw [hof s hlt] at hnone
    rw [hnone]
    rfl
  · rename_i hc
    rw [hr.kept s k]
    by_cases hk : k = c
    · refine .inr fun i hi heq => ?_
      split at hi
      · rename_i hrun
        obtain ⟨hpos, hlt⟩ := List.mem_range'_1.mp hi
        rw [hof i (by omega)] at heq
        refine hc ⟨hk, ?_⟩
        simp only [cleansUp, Bool.and_eq_true, decide_eq_true_eq]
        exact ⟨⟨by simpa using hrun, by omega⟩, by omega⟩
      · cases hi
    · exact .inl hk

end BackEnd

namespace World

open BackEnd

/-- The clients the managers disconnect when they are signalled. -/
def signalled (reply : ManagerId → ManagerReply) : List ManagerId → List ClientPtr
  | [] => []
  | m :: ms => (reply m).disconnects.map (·.1) ++
      if (reply m).throws then [] else signalled reply ms

/-- **The objects created and deleted in a step.** -/
def objects (codec : BasicProtocolCodec) (script : Script) (w : World) : Label → Objects
  | .run c reply => w.backEnd.runObjects codec script c reply (w.invokers c)
  | .disconnect c _ => w.backEnd.disconnectObjects script c
  | .signalStage reply => fun s k =>
    if k ∈ signalled reply w.state.slots then w.backEnd.disconnectObjects script k s k else []
  | _ => fun _ _ => []

/-- The services call `create_cookie` only where its assertion holds, and leave the object the
reply says; `basic_protocol` leaves its cookies alone. -/
structure Respects (codec : BasicProtocolCodec) (script : Script) (w : World) (l : Label) :
    Prop where
  asserts : ∀ s c, (performAll (script s c) (w.backEnd.cookieBase s c)).isSome = true
  replies : ∀ c reply, l = .run c reply → ∀ s,
    w.backEnd.callsKeeping codec c reply (w.invokers c) = some s →
    (w.backEnd.called script s c).2 = reply.cookieBase
  basic : ∀ c, script 0 c = []

variable {codec : BasicProtocolCodec} {script : Script} {w w' : World} {c : ClientPtr} {l : Label}

/-! ## The cookies the managers remove -/

theorem cleansUp_disconnect {replies : ℕ → ServiceReply} (hd : w.disconnect c replies = .ok w')
    (s : ℕ) : w'.backEnd.cleansUp s = w.backEnd.cleansUp s := by
  have hsame := disconnect_sameControl hd
  rw [cleansUp, hsame.isSealed, hsame.stopped, hsame.services]
  rfl

theorem disconnectClients_base {cs : List (ClientPtr × (ℕ → ServiceReply))}
    (hfits : FitsOrdinals w) (h : disconnectClients cs w = .ok w') (s : ℕ) :
    FitsOrdinals w' ∧ w'.backEnd.cleansUp s = w.backEnd.cleansUp s ∧
      ∀ k, w'.backEnd.cookieBase s k =
        if k ∈ cs.map (·.1) ∧ w.backEnd.cleansUp s = true then none
        else w.backEnd.cookieBase s k := by
  induction cs generalizing w with
  | nil =>
    cases h
    exact ⟨hfits, rfl, fun k => by simp⟩
  | cons p cs ih =>
    obtain ⟨w₁, h₁, h₂⟩ := bind_eq_ok.mp h
    have hclean := cleansUp_disconnect h₁ s
    have hfits₁ : FitsOrdinals w₁ := by
      rw [FitsOrdinals, (disconnect_sameControl h₁).services]
      exact hfits
    obtain ⟨hfits', hclean', hbase'⟩ := ih hfits₁ h₂
    refine ⟨hfits', hclean'.trans hclean, fun k => ?_⟩
    obtain ⟨b, cd, hb, rfl⟩ := disconnect_ok h₁
    have hbase := disconnect_base hfits hb s k
    rw [hbase', hclean, setInvoker_backEnd, setBackEnd_backEnd, hbase]
    by_cases hk : k = p.1 <;> by_cases hmem : k ∈ cs.map (·.1) <;>
      cases w.backEnd.cleansUp s <;> simp [hk, hmem]

/-- **Signalling the managers** removes the cookies of the clients they disconnect. -/
theorem signalManagers_base {reply : ManagerId → ManagerReply} {ms : List ManagerId}
    {threw : Bool} (hfits : FitsOrdinals w) (h : signalManagers reply ms w = .ok (w', threw))
    (s : ℕ) (k : ClientPtr) : w'.backEnd.cookieBase s k =
      if k ∈ signalled reply ms ∧ w.backEnd.cleansUp s = true then none
      else w.backEnd.cookieBase s k := by
  induction ms generalizing w with
  | nil =>
    cases h
    simp [signalled]
  | cons m ms ih =>
    obtain ⟨w₁, h₁, h₂⟩ := bind_eq_ok.mp h
    obtain ⟨w₂, hdisc, hret⟩ := bind_eq_ok.mp h₁
    obtain ⟨hfits₂, hclean, hbase⟩ := disconnectClients_base hfits hdisc s
    have hw₁ : w₁.backEnd.cookieBase s k = w₂.backEnd.cookieBase s k ∧
        w₁.backEnd.cleansUp s = w₂.backEnd.cleansUp s ∧ FitsOrdinals w₁ := by
      split at hret <;> cases hret <;> exact ⟨rfl, rfl, hfits₂⟩
    split at h₂
    · rename_i hthrows
      cases h₂
      rw [hw₁.1, hbase, signalled, if_pos hthrows, List.append_nil]
    · rename_i hthrows
      rw [ih hw₁.2.2 h₂, hw₁.1, hw₁.2.1, hclean, hbase, signalled, if_neg hthrows]
      by_cases hmem : k ∈ (reply m).disconnects.map (·.1) <;>
        by_cases hrest : k ∈ signalled reply ms <;>
        cases w.backEnd.cleansUp s <;> simp [hmem, hrest]

/-! ## The events of a step -/

theorem called_paired {b : BackEnd} {s : ℕ}
    (h : (performAll (script s c) (b.cookieBase s c)).isSome = true) :
    Paired (b.cookieBase s c) (b.called script s c).1 (b.called script s c).2 := by
  obtain ⟨⟨es, base⟩, heq⟩ := Option.isSome_iff_exists.mp h
  rw [called, heq]
  exact performAll_paired heq

theorem disconnectObjects_paired {b : BackEnd} {s : ℕ}
    (h : (performAll (script s c) (b.cookieBase s c)).isSome = true)
    (hclean : b.cleansUp s = true) :
    Paired (b.cookieBase s c) (b.disconnectObjects script c s c) none := by
  rw [disconnectObjects, if_pos ⟨rfl, hclean⟩]
  split
  · exact (called_paired h).append (removeCookie_paired _)
  · exact removeCookie_paired _

/-- A dispatch calls a service that keeps its cookie, or one that loses it. -/
theorem callsRemoving_of_keeping {b : BackEnd} {i : Invoker} {reply : ServiceReply} {s : ℕ}
    (h : b.callsKeeping codec c reply i = some s) : b.callsRemoving codec c i = none := by
  unfold callsKeeping at h
  unfold callsRemoving
  split at h
  · split at h
    · rename_i himpl
      split at h
      · rename_i hm
        simp [hm]
      · cases h
    · simp
  · cases h

theorem runObjects_paired {b b' : BackEnd} {reply : ServiceReply} {i i' : Invoker}
    (hreg : RegistrySound b) (h : b.runPosted codec c reply i = .ok (b', i'))
    (hasserts : ∀ s c, (performAll (script s c) (b.cookieBase s c)).isSome = true)
    (hreply : ∀ s, b.callsKeeping codec c reply i = some s →
      (b.called script s c).2 = reply.cookieBase) (s : ℕ) (k : ClientPtr) :
    Paired (b.cookieBase s k) (b.runObjects codec script c reply i s k) (b'.cookieBase s k) := by
  rw [runPosted_base hreg h, runObjects]
  cases hkeep : b.callsKeeping codec c reply i with
  | some s₀ =>
    rw [callsRemoving_of_keeping hkeep]
    by_cases hsk : s = s₀ ∧ k = c
    · obtain ⟨rfl, rfl⟩ := hsk
      have hcall := called_paired (hasserts s k)
      rw [hreply s hkeep] at hcall
      simpa [Objects.at] using hcall
    · have hsk' : ¬(s₀ = s ∧ k = c) := fun hc => hsk ⟨hc.1.symm, hc.2⟩
      simp only [Objects.at, if_neg hsk, Option.some.injEq, if_neg hsk', reduceCtorEq, false_and,
        if_false]
      exact .nil _
  | none =>
    cases hremove : b.callsRemoving codec c i with
    | some s₀ =>
      by_cases hsk : s = s₀ ∧ k = c
      · obtain ⟨rfl, rfl⟩ := hsk
        have hcall := (called_paired (hasserts s k)).append (removeCookie_paired _)
        simpa [Objects.at] using hcall
      · have hsk' : ¬(s₀ = s ∧ k = c) := fun hc => hsk ⟨hc.1.symm, hc.2⟩
        simp only [Objects.at, if_neg hsk, Option.some.injEq, if_neg hsk', reduceCtorEq,
          false_and, if_false]
        exact .nil _
    | none =>
      simp only [reduceCtorEq, false_and, if_false]
      exact .nil _

theorem base_of_cookie {b b' : BackEnd} {s : ℕ}
    (h : b'.clientServiceCookies.lookup s c = b.clientServiceCookies.lookup s c) :
    b'.cookieBase s c = b.cookieBase s c := by
  rw [cookieBase, h]
  rfl

theorem objects_paired_client (hsound : Sound w) (hfits : FitsOrdinals w)
    (hresp : Respects codec script w l) (hl : l.client = some c)
    (hf : fire codec w l = .ok w') (s : ℕ) (k : ClientPtr) :
    Paired (w.backEnd.cookieBase s k) (objects codec script w l s k)
      (w'.backEnd.cookieBase s k) := by
  cases l <;> cases hl
  case connect fresh =>
    cases hf
    cases fresh <;> exact .nil _
  case disconnect reply =>
    obtain ⟨b, cd, hb, rfl⟩ := disconnect_ok hf
    rw [setInvoker_backEnd, setBackEnd_backEnd, disconnect_base hfits hb, objects]
    split
    · rename_i hc
      rw [hc.1]
      exact disconnectObjects_paired (hresp.asserts s c) hc.2
    · rename_i hc
      rw [disconnectObjects, if_neg hc]
      exact .nil _
  case request resets r =>
    obtain ⟨b, i, rfl, -, -, ⟨-, -, rfl, -⟩ | ⟨-, rfl, -⟩⟩ := request_ok hf <;> exact .nil _
  case check =>
    obtain ⟨b, i, hc, rfl⟩ := stepInvoker_ok.mp hf
    have hbase : b.cookieBase s k = w.backEnd.cookieBase s k := by
      rcases checkRequest_cookies hc with heq | hcs
      · rw [cookieBase, heq]
        rfl
      · exact cookieBase_createOrRetrieveCookie hcs s k
    rw [setInvoker_backEnd, setBackEnd_backEnd, hbase]
    exact .nil _
  case take =>
    cases hf
    exact .nil _
  case run reply =>
    obtain ⟨b, i, hr, rfl⟩ := stepInvoker_ok.mp hf
    exact runObjects_paired hsound.registry hr hresp.asserts (hresp.replies c reply rfl) s k
  case finish =>
    obtain ⟨-, rfl⟩ := finish_ok hf
    exact .nil _

/-- **The objects of a step**: each one is deleted where it was created, before the next one is
created there; what is left is the object behind the cookie. -/
theorem objects_paired (hsound : Sound w) (hfits : FitsOrdinals w)
    (hresp : Respects codec script w l) (hf : fire codec w l = .ok w') (s : ℕ) (k : ClientPtr) :
    Paired (w.backEnd.cookieBase s k) (objects codec script w l s k)
      (w'.backEnd.cookieBase s k) := by
  cases hl : l.client with
  | some c => exact objects_paired_client hsound hfits hresp hl hf s k
  | none =>
    cases hsig : l.signals with
    | true =>
      obtain ⟨reply, rfl⟩ := Label.signals_eq_true hsig
      obtain ⟨w₁, threw, hs, rfl⟩ := signalStage_ok hf
      have hbase := signalManagers_base hfits hs s k
      have hw₁ : (if threw then w₁.leave .managerThrew else w₁.goto .managerTest).backEnd =
          w₁.backEnd := by cases threw <;> rfl
      rw [hw₁, hbase, objects]
      dsimp only
      by_cases hk : k ∈ signalled reply w.state.slots
      · rw [if_pos hk]
        cases hclean : w.backEnd.cleansUp s with
        | true =>
          rw [if_pos ⟨hk, rfl⟩]
          exact disconnectObjects_paired (hresp.asserts s k) hclean
        | false =>
          rw [if_neg (by simp), disconnectObjects, if_neg (by simp [hclean])]
          exact .nil _
      · rw [if_neg hk, if_neg fun hc => hk hc.1]
        exact .nil _
    | false =>
      rw [base_of_cookie (fire_lookup_server hsound.registry hl hsig hf s k)]
      cases l <;> first | exact .nil _ | (cases hl; done) | cases hsig

/-! ## The events of a run -/

/-- The objects created and deleted in a run, by service and client. -/
def ledger (codec : BasicProtocolCodec) (tr : List (World × Label)) (scripts : List Script) :
    Objects := fun s c =>
  (List.zipWith (fun p script => objects codec script p.1 p.2 s c) tr scripts).flatten

/-- **The objects of a run.** -/
theorem ledger_paired {tr : List (World × Label)} {scripts : List Script}
    (h : (backEndMachine codec).Run w tr (.ok w')) (hsound : Sound w) (hfits : FitsOrdinals w)
    (hscripts : List.Forall₂ (fun p script => Respects codec script p.1 p.2) tr scripts)
    (s : ℕ) (c : ClientPtr) :
    Paired (w.backEnd.cookieBase s c) (ledger codec tr scripts s c)
      (w'.backEnd.cookieBase s c) := by
  generalize hr : (Except.ok w' : Except Fault World) = r at h
  induction h generalizing scripts with
  | done w =>
    cases hr
    cases hscripts
    exact .nil _
  | fault => cases hr
  | @step w w₁ l tr r hg hf _ ih =>
    cases hscripts with
    | @cons _ script _ scripts hresp hscripts =>
      have hfirst := objects_paired hsound hfits hresp hf s c
      exact hfirst.append (ih (hsound.step hg hf) (hfits.step hsound hg hf) hscripts hr)

end World

end RblRpc
