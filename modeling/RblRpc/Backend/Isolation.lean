import RblRpc.Backend.Implementations
import RblRpc.Lib.Unwinding

/-!
# Client isolation

All clients share the services, the cookie store and the state of the back end.  What a client sees
of them is its own client data and its own cookies; the steps of the others change neither.

* `AgreeOn`, `Agrees`, `Alike` — stores, back ends and worlds that look alike to a client.
* `dispatch_agrees`, `checkRequest_agrees` etc. — a call for the client does alike in them.
* `Services`, `Serves` — service implementations that read and write only what they are given.
* `clients_isolated` — **a client is answered as if it were alone, exactly** as long as no dispatch
  of another client strands.
-/

namespace RblRpc

open Transition

/-! ## The cookies of a client -/

namespace ClientServiceCookies

variable {cs cs' : ClientServiceCookies} {o : UInt16} {k : ClientPtr}

/-- The stores hold the same cookies for client `k`, in the same slots. -/
structure AgreeOn (k : ClientPtr) (cs cs' : ClientServiceCookies) : Prop where
  shape : SameShape cs cs'
  lookup : ∀ s, cs'.lookup s k = cs.lookup s k

theorem AgreeOn.refl (k : ClientPtr) (cs : ClientServiceCookies) : AgreeOn k cs cs :=
  ⟨.refl cs, fun _ => rfl⟩

theorem AgreeOn.isSubscribed (h : AgreeOn k cs cs') (s : ℕ) :
    cs'.isSubscribed s k = cs.isSubscribed s k := by
  rw [ClientServiceCookies.isSubscribed, h.lookup]
  rfl

/-- The operations look at the shape first. -/
theorem mapAt_error (h : SameShape cs cs') {f : Fault} (hm : cs.mapAt o = .error f) :
    cs'.mapAt o = .error f := by
  have hlast : cs'.lastOrdinal = cs.lastOrdinal := by rw [lastOrdinal, lastOrdinal, h.length]
  have hactive := h.isActive o.toNat
  unfold isActive at hactive
  cases hv : cs.serviceCookieVector[o.toNat]? with
  | none =>
    have hlen := List.getElem?_eq_none_iff.mp hv
    rw [mapAt, hv] at hm
    rw [mapAt, hlast, List.getElem?_eq_none (by rw [h.length]; exact hlen)]
    exact hm
  | some x =>
    obtain ⟨x', hv'⟩ : ∃ x', cs'.serviceCookieVector[o.toNat]? = some x' := by
      have hlt := (List.getElem?_eq_some_iff.mp hv).1
      rw [← h.length] at hlt
      exact ⟨_, List.getElem?_eq_getElem hlt⟩
    cases x with
    | some m =>
      rw [mapAt_eq_ok.mpr hv] at hm
      cases hm
    | none =>
      rw [hv, hv'] at hactive
      cases x' with
      | some m' => cases hactive
      | none =>
        rw [mapAt, hv] at hm
        rw [mapAt, hlast, hv']
        exact hm

theorem createOrRetrieveCookie_agrees (h : AgreeOn k cs cs') (o : UInt16) :
    Outcomes (AgreeOn k) (cs.createOrRetrieveCookie o k) (cs'.createOrRetrieveCookie o k) := by
  cases hm : cs.mapAt o with
  | error f =>
    rw [createOrRetrieveCookie, createOrRetrieveCookie, hm, mapAt_error h.shape hm]
    exact .error f
  | ok m =>
    have hactive : cs.isActive o.toNat = true := by rw [isActive, mapAt_eq_ok.mp hm]; rfl
    obtain ⟨cs₁, hcs₁⟩ := createOrRetrieveCookie_total hactive k
    obtain ⟨cs₂, hcs₂⟩ := createOrRetrieveCookie_total ((h.shape.isActive _).trans hactive) k
    rw [hcs₁, hcs₂]
    obtain ⟨hshape₁, hlook₁⟩ := createOrRetrieveCookie_ok hcs₁
    obtain ⟨hshape₂, hlook₂⟩ := createOrRetrieveCookie_ok hcs₂
    refine .ok ⟨⟨fun s => ?_, ?_⟩, fun s => ?_⟩
    · rw [hshape₁.isActive, hshape₂.isActive, h.shape.isActive]
    · rw [hshape₁.length, hshape₂.length, h.shape.length]
    · rw [hlook₁, hlook₂, h.lookup, h.lookup]

theorem deleteCookie_agrees (h : AgreeOn k cs cs') (o : UInt16) :
    Outcomes (fun p q => AgreeOn k p.2 q.2) (cs.deleteCookie o k) (cs'.deleteCookie o k) := by
  cases hm : cs.mapAt o with
  | error f =>
    rw [deleteCookie, deleteCookie, hm, mapAt_error h.shape hm]
    exact .error f
  | ok m =>
    have hactive : cs.isActive o.toNat = true := by rw [isActive, mapAt_eq_ok.mp hm]; rfl
    obtain ⟨r₁, cs₁, hcs₁⟩ := deleteCookie_total hactive k
    obtain ⟨r₂, cs₂, hcs₂⟩ := deleteCookie_total ((h.shape.isActive _).trans hactive) k
    rw [hcs₁, hcs₂]
    obtain ⟨hshape₁, hlook₁⟩ := deleteCookie_ok hcs₁
    obtain ⟨hshape₂, hlook₂⟩ := deleteCookie_ok hcs₂
    refine .ok ⟨⟨fun s => ?_, ?_⟩, fun s => ?_⟩
    · rw [hshape₁.isActive, hshape₂.isActive, h.shape.isActive]
    · rw [hshape₁.length, hshape₂.length, h.shape.length]
    · rw [hlook₁, hlook₂, h.lookup]

/-- Writing through a pointer fails where there is no cookie. -/
theorem setCookie_error (h : cs.lookup o.toNat k = none) (c : ClientCookie) :
    cs.setCookie o k c = .error .invalidPointer := by
  unfold setCookie
  rw [lookup] at h
  cases hv : cs.serviceCookieVector[o.toNat]?.join with
  | none => rfl
  | some m =>
    rw [hv, Option.bind_some] at h
    dsimp only
    rw [h]

theorem setCookie_agrees (h : AgreeOn k cs cs') (o : UInt16) (c : ClientCookie) :
    Outcomes (AgreeOn k) (cs.setCookie o k c) (cs'.setCookie o k c) := by
  cases hl : cs.lookup o.toNat k with
  | none =>
    rw [setCookie_error hl, setCookie_error ((h.lookup _).trans hl)]
    exact .error _
  | some c₀ =>
    have hsome : (cs.lookup o.toNat k).isSome = true := by rw [hl]; rfl
    obtain ⟨cs₁, hcs₁⟩ := setCookie_total hsome c
    obtain ⟨cs₂, hcs₂⟩ := setCookie_total (by rw [h.lookup]; exact hsome) c
    rw [hcs₁, hcs₂]
    obtain ⟨hshape₁, -, hlook₁⟩ := setCookie_ok hcs₁
    obtain ⟨hshape₂, -, hlook₂⟩ := setCookie_ok hcs₂
    refine .ok ⟨⟨fun s => ?_, ?_⟩, fun s => ?_⟩
    · rw [hshape₁.isActive, hshape₂.isActive, h.shape.isActive]
    · rw [hshape₁.length, hshape₂.length, h.shape.length]
    · rw [hlook₁, hlook₂, h.lookup]

end ClientServiceCookies

/-! ## Back ends that look alike -/

/-- What client `c` sees of two back ends is the same. -/
structure Agrees (c : ClientPtr) (b b' : BackEnd) : Prop where
  services : b'.services = b.services
  sourceType : b'.sourceType = b.sourceType
  backendType : b'.backendType = b.backendType
  acceptingRequests :
    b'.synchronisedState.acceptingRequests = b.synchronisedState.acceptingRequests
  isSealed : b'.isSealed = b.isSealed
  stopped : b'.ioService.stopped = b.ioService.stopped
  connected : c ∈ b'.connectedClients ↔ c ∈ b.connectedClients
  cookies : ClientServiceCookies.AgreeOn c b.clientServiceCookies b'.clientServiceCookies

/-- What a call for `c` leaves of them, and what it returns, is the same. -/
def AnswersAlike {α : Type} (c : ClientPtr) (p q : BackEnd × α) : Prop :=
  Agrees c p.1 q.1 ∧ p.2 = q.2

section Handlers

variable {codec : BasicProtocolCodec} {c : ClientPtr} {reply : ServiceReply} {b b' : BackEnd}
  {cd : ClientData} {o : UInt16}

namespace Agrees

theorem refl (c : ClientPtr) (b : BackEnd) : Agrees c b b :=
  ⟨rfl, rfl, rfl, rfl, rfl, rfl, Iff.rfl, .refl c _⟩

theorem setCookies {cs cs' : ClientServiceCookies} (h : Agrees c b b')
    (hcs : ClientServiceCookies.AgreeOn c cs cs') :
    Agrees c (b.setCookies cs) (b'.setCookies cs') :=
  { h with cookies := hcs }

theorem logCall (h : Agrees c b b') (call : ServiceCall) :
    Agrees c (b.logCall call) (b'.logCall call) := { h with }

theorem serviceAt (h : Agrees c b b') (o : UInt16) : b'.serviceAt o = b.serviceAt o := by
  rw [BackEnd.serviceAt, h.services]
  rfl

theorem ret {α : Type} (h : Agrees c b b') (a : α) :
    Outcomes (AnswersAlike c) (.ok (b, a) : Except Fault _) (.ok (b', a)) := .ok ⟨h, rfl⟩

end Agrees

namespace BasicProtocolImpl

theorem hello_agrees (h : Agrees c b b') (hr : HelloRequest) : hello b' cd hr = hello b cd hr := by
  unfold hello
  rw [h.sourceType, h.backendType]

theorem listServices_agrees (h : Agrees c b b') : listServices b' = listServices b := by
  unfold listServices
  rw [h.services]

theorem listMethods_agrees (h : Agrees c b b') (req : ListMethodsRequest) :
    listMethods b' cd req = listMethods b cd req := by
  unfold listMethods
  rw [h.services, h.serviceAt]

theorem rpcSubscribeService_agrees (h : Agrees c b b') (req : SubscribeServiceRequest) :
    Outcomes (AnswersAlike c) (rpcSubscribeService c reply b cd req)
      (rpcSubscribeService c reply b' cd req) := by
  unfold rpcSubscribeService
  rw [h.services]
  split
  · exact h.ret _
  · refine (ClientServiceCookies.createOrRetrieveCookie_agrees h.cookies _).bind
      fun cs cs' hcs => ?_
    have hb := h.setCookies hcs
    dsimp only
    rw [hcs.lookup, hb.serviceAt]
    split
    · exact hb.ret _
    · split
      · exact .error _
      · exact .error _
      · exact (ClientServiceCookies.setCookie_agrees hcs _ _).bind fun cs cs' hcs =>
          ((hb.setCookies hcs).logCall _).ret _

theorem rpcUnsubscribeService_agrees (h : Agrees c b b') (req : UnsubscribeServiceRequest) :
    Outcomes (AnswersAlike c) (rpcUnsubscribeService c reply b cd req)
      (rpcUnsubscribeService c reply b' cd req) := by
  unfold rpcUnsubscribeService
  rw [h.services]
  split
  · exact h.ret _
  · refine (ClientServiceCookies.createOrRetrieveCookie_agrees h.cookies _).bind
      fun cs cs' hcs => ?_
    have hb := h.setCookies hcs
    dsimp only
    rw [hcs.lookup, hb.serviceAt]
    split
    · exact hb.ret _
    · split
      · exact .error _
      · exact .error _
      · exact (ClientServiceCookies.deleteCookie_agrees hcs _).bind fun p q hcs =>
          ((hb.setCookies hcs).logCall _).ret _

end BasicProtocolImpl

theorem runMethod_agrees {I O : Type} {input : MessageCodec I} {output : MessageCodec O}
    {impl : BackEnd → ClientData → I → Except Fault (BackEnd × ClientData × O)}
    (h : Agrees c b b')
    (himpl : ∀ req, Outcomes (AnswersAlike c) (impl b cd req) (impl b' cd req)) :
    Outcomes (AnswersAlike c) (runMethod input output impl b cd)
      (runMethod input output impl b' cd) := by
  unfold runMethod
  split
  · exact h.ret _
  · refine (himpl _).bind ?_
    rintro ⟨b₁, x⟩ ⟨b₂, y⟩ ⟨hb, hxy⟩
    cases hxy
    exact hb.ret _

theorem dispatchBasic_agrees (h : Agrees c b b') (m : BasicMethod) :
    Outcomes (AnswersAlike c) (dispatchBasic codec c reply m b cd)
      (dispatchBasic codec c reply m b' cd) := by
  cases m <;> simp only [dispatchBasic] <;> refine runMethod_agrees h fun req => ?_
  case hello =>
    rw [BasicProtocolImpl.hello_agrees h]
    exact (Outcomes.same (fun _ => rfl) _).bind fun p q hpq => hpq ▸ h.ret _
  case listServices =>
    rw [BasicProtocolImpl.listServices_agrees h]
    exact (Outcomes.same (fun _ => rfl) _).bind fun p q hpq => hpq ▸ h.ret _
  case rpcSubscribeService => exact BasicProtocolImpl.rpcSubscribeService_agrees h req
  case rpcUnsubscribeService => exact BasicProtocolImpl.rpcUnsubscribeService_agrees h req
  case listMethods =>
    rw [BasicProtocolImpl.listMethods_agrees h]
    exact (Outcomes.same (fun _ => rfl) _).bind fun p q hpq => hpq ▸ h.ret _

theorem dispatchApplication_agrees (h : Agrees c b b') :
    Outcomes (AnswersAlike c) (dispatchApplication o c reply b cd)
      (dispatchApplication o c reply b' cd) := by
  unfold dispatchApplication
  rw [h.cookies.lookup]
  split
  · exact h.ret _
  · split
    · exact .error _
    · exact (ClientServiceCookies.setCookie_agrees h.cookies _ _).bind fun cs cs' hcs =>
        (h.setCookies hcs).ret _

/-- **A dispatch for the client** does alike. -/
theorem dispatch_agrees (h : Agrees c b b') (s : Service) :
    Outcomes (AnswersAlike c) (s.dispatch codec o c reply b cd)
      (s.dispatch codec o c reply b' cd) := by
  unfold Service.dispatch
  split
  · split
    · exact .error _
    · exact dispatchBasic_agrees h _
  · split
    · exact .error _
    · exact dispatchApplication_agrees h

namespace BackEnd

variable {i : Invoker}

theorem runPosted_agrees (h : Agrees c b b') :
    Outcomes (AnswersAlike c) (b.runPosted codec c reply i) (b'.runPosted codec c reply i) := by
  unfold runPosted
  rw [h.serviceAt]
  split
  · refine (dispatch_agrees (h.logCall _) _).bind ?_
    rintro ⟨b₁, x⟩ ⟨b₂, y⟩ ⟨hb, hxy⟩
    cases hxy
    exact hb.ret _
  · exact .error _

theorem beginInvoke_agrees (h : Agrees c b b') :
    Outcomes (fun p q => p.1 = q.1 ∧ AnswersAlike c p.2 q.2) (b.beginInvoke cd)
      (b'.beginInvoke cd) := by
  unfold beginInvoke
  have hacc := h.acceptingRequests
  cases ha : b.synchronisedState.acceptingRequests with
  | true =>
    rw [ha] at hacc
    rw [SynchronisedBackEndState.startARequest, SynchronisedBackEndState.startARequest, if_pos ha,
      if_pos hacc]
    refine (Outcomes.same (fun _ => rfl) _).bind fun cd cd' hcd => ?_
    subst hcd
    exact .ok ⟨rfl, { h with acceptingRequests := h.acceptingRequests }, rfl⟩
  | false =>
    rw [ha] at hacc
    rw [SynchronisedBackEndState.startARequest, SynchronisedBackEndState.startARequest,
      if_neg (Bool.eq_false_iff.mp ha), if_neg (Bool.eq_false_iff.mp hacc)]
    exact .ok ⟨rfl, h, rfl⟩

theorem post_agrees (h : Agrees c b b') (i : Invoker) :
    AnswersAlike c (post c b i) (post c b' i) := ⟨{ h with }, rfl⟩

/-- **The checks of `invoke` for the client** do alike. -/
theorem checkRequest_agrees (h : Agrees c b b') :
    Outcomes (AnswersAlike c) (b.checkRequest codec c i) (b'.checkRequest codec c i) := by
  unfold checkRequest
  dsimp only
  rw [h.serviceAt]
  split
  · exact h.ret _
  · exact .error _
  · split
    · exact h.ret _
    · refine (ClientServiceCookies.createOrRetrieveCookie_agrees h.cookies _).bind
        fun cs cs' hcs => ?_
      have hb := h.setCookies hcs
      rw [hcs.isSubscribed]
      split
      · exact hb.ret _
      · split
        · split
          · exact hb.ret _
          · exact .ok (post_agrees hb _)
        · split
          · exact hb.ret _
          · exact .ok (post_agrees hb _)

theorem endRpc_agrees (h : Agrees c b b') :
    Outcomes (AnswersAlike c) (b.endRpc cd) (b'.endRpc cd) := by
  unfold endRpc
  exact (Outcomes.same (fun _ => rfl) _).bind fun p q hpq => hpq ▸ .ok ⟨{ h with }, rfl⟩

/-! ### Disconnection -/

theorem unsubscribeClient_agrees (h : Agrees c b b') (s : Option Service) :
    Outcomes (AnswersAlike c) (unsubscribeClient c o reply s b cd)
      (unsubscribeClient c o reply s b' cd) := by
  unfold unsubscribeClient
  rw [h.cookies.isSubscribed]
  split
  · cases s with
    | none => exact .error _
    | some _ => exact (h.logCall _).ret _
  · exact h.ret _

theorem disconnectService_agrees {replies : ℕ → ServiceReply} (h : Agrees c b b') (n : ℕ) :
    Outcomes (AnswersAlike c) (disconnectService c replies n b cd)
      (disconnectService c replies n b' cd) := by
  unfold disconnectService
  refine (ClientServiceCookies.createOrRetrieveCookie_agrees h.cookies _).bind fun cs cs' hcs => ?_
  rw [h.serviceAt]
  split
  · exact .error _
  · refine (unsubscribeClient_agrees (h.setCookies hcs) _).bind ?_
    rintro ⟨b₁, x⟩ ⟨b₂, y⟩ ⟨hb, hxy⟩
    cases hxy
    exact (ClientServiceCookies.deleteCookie_agrees hb.cookies _).bind fun p q hcs =>
      (hb.setCookies hcs).ret _

theorem disconnectServices_agrees {replies : ℕ → ServiceReply} {is : List ℕ}
    (h : Agrees c b b') : Outcomes (AnswersAlike c) (disconnectServices c replies is b cd)
      (disconnectServices c replies is b' cd) := by
  induction is generalizing b b' cd with
  | nil => exact h.ret _
  | cons n is ih =>
    refine (disconnectService_agrees h n).bind ?_
    rintro ⟨b₁, x⟩ ⟨b₂, y⟩ ⟨hb, hxy⟩
    cases hxy
    exact ih hb

/-- **The disconnection of the client** does alike. -/
theorem disconnect_agrees {replies : ℕ → ServiceReply} (h : Agrees c b b') :
    Outcomes (AnswersAlike c) (b.disconnect c replies cd) (b'.disconnect c replies cd) := by
  have hclean : Outcomes (AnswersAlike c) (b.cleanUp c replies cd) (b'.cleanUp c replies cd) := by
    unfold cleanUp
    rw [h.isSealed, h.stopped, h.services]
    split
    · exact disconnectServices_agrees h
    · exact h.ret _
  refine hclean.bind ?_
  rintro ⟨b₁, x⟩ ⟨b₂, y⟩ ⟨hb, hxy⟩
  cases hxy
  dsimp only at hb ⊢
  rw [show decide (c ∈ b₂.connectedClients) = decide (c ∈ b₁.connectedClients) from
    decide_eq_decide.mpr hb.connected]
  refine (Outcomes.same (fun _ => rfl) _).bind fun _ _ _ => .ok ⟨{ hb with connected := ?_ }, rfl⟩
  simp

end BackEnd

end Handlers

/-! ## Worlds that look alike -/

namespace World

variable {codec : BasicProtocolCodec} {w w' v : World} {c c' : ClientPtr} {l : Label}

/-- What client `c` sees of two worlds is the same: its invoker, and what is served to it. -/
structure Alike (c : ClientPtr) (w v : World) : Prop where
  invoker : v.invokers c = w.invokers c
  backEnd : Agrees c w.backEnd v.backEnd

theorem Alike.refl (c : ClientPtr) (w : World) : Alike c w w := ⟨rfl, .refl c _⟩

theorem stepInvoker_alike {f : BackEnd → Invoker → Except Fault (BackEnd × Invoker)}
    (h : Alike c w v)
    (hf : ∀ i, Outcomes (AnswersAlike c) (f w.backEnd i) (f v.backEnd i)) :
    Outcomes (Alike c) (stepInvoker c f w) (stepInvoker c f v) := by
  unfold stepInvoker
  rw [h.invoker]
  refine (hf _).bind ?_
  rintro ⟨b₁, x⟩ ⟨b₂, y⟩ ⟨hb, hxy⟩
  cases hxy
  exact .ok ⟨by rw [setInvoker_self, setInvoker_self], hb⟩

/-- **The steps of the client** are enabled alike ... -/
theorem enabled_alike (hl : l.client = some c) (h : Alike c w v) : v.enabled l = w.enabled l := by
  have hstage : v.stage c = w.stage c := congrArg Invoker.stage h.invoker
  cases l <;> cases hl <;>
    simp only [enabled, hstage, h.backEnd.connected, h.backEnd.isSealed, h.backEnd.stopped]

/-- ... and do alike. -/
theorem fire_alike (hl : l.client = some c) (h : Alike c w v) :
    Outcomes (Alike c) (fire codec w l) (fire codec v l) := by
  cases l <;> cases hl
  case connect fresh =>
    refine .ok ⟨?_, ?_⟩
    · cases fresh with
      | false => exact h.invoker
      | true =>
        show (v.setInvoker c {}).invokers c = (w.setInvoker c {}).invokers c
        rw [setInvoker_self, setInvoker_self]
    · have hb : Agrees c (w.backEnd.connect c) (v.backEnd.connect c) :=
        { h.backEnd with
          connected := iff_of_true (Finset.mem_insert_self ..) (Finset.mem_insert_self ..) }
      cases fresh <;> exact hb
  case disconnect replies =>
    simp only [fire, disconnect]
    refine stepInvoker_alike h fun i => (BackEnd.disconnect_agrees h.backEnd).bind ?_
    rintro ⟨b₁, x⟩ ⟨b₂, y⟩ ⟨hb, hxy⟩
    cases hxy
    exact hb.ret _
  case request resets r =>
    simp only [fire, request]
    refine stepInvoker_alike h fun i => (Outcomes.same (fun _ => rfl) _).bind fun i _ hi => ?_
    subst hi
    refine (BackEnd.beginInvoke_agrees h.backEnd).bind ?_
    rintro ⟨started, b₁, x⟩ ⟨_, b₂, y⟩ ⟨hs, hb, hxy⟩
    cases hs
    cases hxy
    exact hb.ret _
  case check => exact stepInvoker_alike h fun i => BackEnd.checkRequest_agrees h.backEnd
  case take =>
    simp only [fire, take]
    exact stepInvoker_alike h fun i => .ok ⟨{ h.backEnd with }, rfl⟩
  case run reply => exact stepInvoker_alike h fun i => BackEnd.runPosted_agrees h.backEnd
  case finish =>
    simp only [fire, finish]
    refine stepInvoker_alike h fun i => (BackEnd.endRpc_agrees h.backEnd).bind ?_
    rintro ⟨b₁, x⟩ ⟨b₂, y⟩ ⟨hb, hxy⟩
    cases hxy
    exact hb.ret _

/-- **The steps of another client** change nothing that `c` sees. -/
theorem alike_other (hl : l.client = some c') (hne : c ≠ c') (h : Alike c w v)
    (hf : fire codec w l = .ok w') : Alike c w' v := by
  have hcontrol := fire_sameControl hl hf
  have hshape := fire_sameShape hl hf
  have hcookies := h.backEnd.cookies
  refine ⟨h.invoker.trans (fire_invoker_other hl hne hf).symm,
    h.backEnd.services.trans hcontrol.services.symm,
    h.backEnd.sourceType.trans hcontrol.sourceType.symm,
    h.backEnd.backendType.trans hcontrol.backendType.symm,
    h.backEnd.acceptingRequests.trans hcontrol.acceptingRequests.symm,
    h.backEnd.isSealed.trans hcontrol.isSealed.symm,
    h.backEnd.stopped.trans hcontrol.stopped.symm,
    h.backEnd.connected.trans (fire_connected_ne hl hne hf).symm,
    ⟨fun s => (hcookies.shape.isActive s).trans (hshape.isActive s).symm,
      hcookies.shape.length.trans hshape.length.symm⟩,
    fun s => (hcookies.lookup s).trans (fire_lookup_client hl hne hf s).symm⟩

/-- What the implementations write for the client is alike ... -/
theorem Alike.afterwards {l : ServiceLabel} (h : Alike c w v) (hl : l.1.client = some c) :
    Alike c (w.afterwards l) (v.afterwards l) := by
  obtain ⟨l, writes⟩ := l
  have hwrites : Alike c (w.applyWrites c writes) (v.applyWrites c writes) := by
    refine ⟨?_, h.backEnd⟩
    rw [applyWrites, applyWrites, setInvoker_self, setInvoker_self, data, data, h.invoker]
  cases l <;> cases hl
  case run => exact hwrites
  case disconnect => exact hwrites
  all_goals exact h

/-- ... and what they write for another it does not see. -/
theorem Alike.afterwards_other {l : ServiceLabel} (h : Alike c w v) (hl : l.1.client = some c')
    (hne : c ≠ c') : Alike c (w.afterwards l) v := by
  obtain ⟨l, writes⟩ := l
  have hwrites : Alike c (w.applyWrites c' writes) v :=
    ⟨h.invoker.trans (applyWrites_ne hne).symm, h.backEnd⟩
  cases l <;> cases hl
  case run => exact hwrites
  case disconnect => exact hwrites
  all_goals exact h

/-- The unwinding conditions: `c` owns the labels that serve it. -/
theorem unwinding (codec : BasicProtocolCodec) (c : ClientPtr) :
    (serviceMachine codec).Unwinding (fun l => l.1.client = some c) (Alike c)
      (fun _ l => l.1.client.isSome = true) where
  own w v l h _ hl hg := by
    have hl := of_decide_eq_true hl
    exact ⟨(enabled_alike hl h).trans hg, (fire_alike hl h).map fun _ _ h' => h'.afterwards hl⟩
  others w v l w' h hC hl _ hf := by
    obtain ⟨c', hc'⟩ := Option.isSome_iff_exists.mp hC
    obtain ⟨w₁, hf₁, rfl⟩ := serviceMachine_ok.mp hf
    have hne : c ≠ c' := fun heq => of_decide_eq_false hl (heq ▸ hc')
    exact (alike_other hc' hne h hf₁).afterwards_other hc' hne

end World

/-! ## The theorem -/

/-- The implementations behind the services: what a call, and what each `unsubscribe` of a
disconnection, leaves.  They read the client data and the cookies of the client that they are
called for, and write the same. -/
structure Services where
  call : ClientPtr → ClientData → UInt16 → (ℕ → Option ClientCookie) → ServiceReply × ClientWrites
  unsubscribe : ClientPtr → ClientData → (ℕ → Option ClientCookie) →
    (ℕ → ServiceReply) × ClientWrites

/-- The calls of a step are served by these services. -/
def Services.Serves (services : Services) (w : World) : ServiceLabel → Prop
  | (.run c reply, writes) =>
    (reply, writes) = services.call c (w.data c) (w.invokers c).service (w.cookie · c)
  | (.disconnect c reply, writes) =>
    (reply, writes) = services.unsubscribe c (w.data c) (w.cookie · c)
  | _ => True

/-- The step ends a request, if it leaves the client without one: `invoke` returned true before
`start_rpc`, or after `end_rpc`. -/
def Label.ends : Label → Bool
  | .request _ _ _ | .finish _ => true
  | _ => false

namespace World

variable {codec : BasicProtocolCodec} {w v : World} {c : ClientPtr} {l : ServiceLabel}

/-- What `c` receives when a step ends its request: the response, and the error code. -/
def answer (codec : BasicProtocolCodec) (c : ClientPtr) (p : World × ServiceLabel) :
    Option (ClientResponse × ErrorCode) :=
  if p.2.1.client = some c ∧ p.2.1.ends = true then
    match fire codec p.1 p.2.1 with
    | .ok w => if w.stage c = .idle then some ((w.data c).response, (w.data c).errorCode) else none
    | .error _ => none
  else none

/-- What `c` receives in a run. -/
def answers (codec : BasicProtocolCodec) (c : ClientPtr) (tr : List (World × ServiceLabel)) :
    List (ClientResponse × ErrorCode) := tr.filterMap (answer codec c)

theorem Alike.answer (h : Alike c w v) (l : ServiceLabel) :
    answer codec c (v, l) = answer codec c (w, l) := by
  unfold World.answer
  split
  · rename_i hl
    have hout : Outcomes (Alike c) (fire codec w l.1) (fire codec v l.1) := fire_alike hl.1 h
    cases hw : fire codec w l.1 with
    | ok w' =>
      obtain ⟨v', hv, h'⟩ := hout.of_ok hw
      rw [hv]
      dsimp only
      rw [stage, data, h'.invoker]
      rfl
    | error f =>
      rw [hout.of_error hw]
  · rfl

theorem answer_other (hl : l.1.client ≠ some c) : answer codec c (w, l) = none :=
  if_neg fun h => hl h.1

theorem Alike.serves {services : Services} (h : Alike c w v) (hl : l.1.client = some c)
    (hs : services.Serves w l) : services.Serves v l := by
  have hdata : v.data c = w.data c := congrArg Invoker.clientData h.invoker
  have hcookies : (v.cookie · c) = (w.cookie · c) := funext h.backEnd.cookies.lookup
  obtain ⟨l, writes⟩ := l
  cases l <;> cases hl
  case run reply =>
    show (reply, writes) = services.call c (v.data c) (v.invokers c).service (v.cookie · c)
    rw [hdata, hcookies, h.invoker]
    exact hs
  case disconnect reply =>
    show (reply, writes) = services.unsubscribe c (v.data c) (v.cookie · c)
    rw [hdata, hcookies]
    exact hs
  all_goals exact trivial

/-- Client `c` is isolated in a run from `w₀`: what it receives, and the subscriptions it is left
with, are those of the run in which only `c` takes its steps; and a fault that ends the run ends
this one too. -/
def Isolated (codec : BasicProtocolCodec) (services : Services) (w₀ : World)
    (tr : List (World × ServiceLabel)) (r : Except Fault World) (c : ClientPtr) : Prop :=
  ∃ tr' r', (serviceMachine codec).Run w₀ tr' r' ∧
    tr'.map Prod.snd = (tr.map Prod.snd).filter (fun l => l.1.client = some c) ∧
    (∀ p ∈ tr', services.Serves p.1 p.2) ∧ answers codec c tr' = answers codec c tr ∧
    (∀ w, r = .ok w → ∃ w', r' = .ok w' ∧
      ∀ s, w'.backEnd.clientServiceCookies.isSubscribed s c =
        w.backEnd.clientServiceCookies.isSubscribed s c) ∧
    ∀ f, r = .error f → r' = .error f

/-- The dispatch of a request of another client than `c`, which strands. -/
def StrandsOther (codec : BasicProtocolCodec) (c : ClientPtr) (p : World × ServiceLabel) : Prop :=
  ∃ c' reply, c' ≠ c ∧ p.2.1 = .run c' reply ∧ p.1.stranded codec c' = true

/-- The clients of a back end that lasts and was started leave it so. -/
theorem lasting_run {w₀ : World} {tr : List (World × ServiceLabel)} {r : Except Fault World}
    (hrun : (serviceMachine codec).Run w₀ tr r)
    (hclients : ∀ p ∈ tr, p.2.1.client.isSome = true) (hlasting : Lasting w₀)
    (hsealed : w₀.backEnd.isSealed = true) :
    Machine.Always (fun w => Lasting w ∧ w.backEnd.isSealed = true) tr r := by
  refine hrun.invariant (C := fun _ l => l.1.client.isSome = true) ?_ ⟨hlasting, hsealed⟩ hclients
  rintro w l w' ⟨hw, hs⟩ hC hg hf
  obtain ⟨c, hc⟩ := Option.isSome_iff_exists.mp hC
  obtain ⟨w₁, hf₁, rfl⟩ := serviceMachine_ok.mp hf
  refine ⟨afterwards_lasting hw hc hg hf₁, ?_⟩
  rw [afterwards_backEnd]
  exact fire_sealed hs hf₁

/-- **Client isolation.**  In every interleaving of what the clients of a started back end do, each
client receives the responses and error codes, and is left with the subscriptions, of the run in
which only that client takes its steps, exactly if no dispatch of another client strands. -/
theorem clients_isolated (codec : BasicProtocolCodec) (services : Services)
    (sourceType : SourceConnectionType) (backendType : DestinationConnectionType) {w₀ : World}
    {tr : List (World × ServiceLabel)} {r : Except Fault World}
    (hreach : (serviceMachine codec).Reaches (init sourceType backendType) w₀)
    (hstarted : w₀.backEnd.isSealed = true) (hnot : ¬w₀.waitsForManagers)
    (hrun : (serviceMachine codec).Run w₀ tr r)
    (hclients : ∀ p ∈ tr, p.2.1.client.isSome = true)
    (hserved : ∀ p ∈ tr, services.Serves p.1 p.2) (c : ClientPtr) :
    Isolated codec services w₀ tr r c ↔ ∀ p ∈ tr, ¬StrandsOther codec c p := by
  have hlasting := lasting_run hrun hclients ⟨attended_reaches hreach, hnot⟩ hstarted
  obtain ⟨tr', r', hrun', hsame, hend, hfaults⟩ :=
    (unwinding codec c).purge hrun hclients (Alike.refl c w₀)
  have hlabels : tr'.map Prod.snd = (tr.map Prod.snd).filter fun l => l.1.client = some c := by
    rw [Machine.labels_of_sameAttempt hsame, List.filter_map]
    rfl
  constructor
  · rintro ⟨tr₂, r₂, hrun₂, hlabels₂, -, -, -, hfault⟩ p hp ⟨c', reply, hne, hl, hstranded⟩
    obtain ⟨hw, -⟩ := hlasting.1 p hp
    have hg : p.1.enabled (.run c' reply) = true := hl ▸ hrun.guard p hp
    -- the dispatch of the other client faults, and ends the run
    cases hf : (serviceMachine codec).fire p.1 p.2 with
    | ok w' =>
      obtain ⟨w₁, hf₁, -⟩ := serviceMachine_ok.mp hf
      rw [hl] at hf₁
      have := (hw.run_ok_iff (of_decide_eq_true hg) reply).mp ⟨w₁, hf₁⟩
      rw [hstranded] at this
      cases this
    | error f =>
      obtain ⟨hr, hlast⟩ := hrun.of_fault hp hf
      have hexec := hrun'.exec_eq
      rw [hlabels, ← hlabels₂, hrun₂.exec_eq, hfault f hr] at hexec
      obtain ⟨q, hq, hmine, hfq⟩ := (hfaults f).mp (Prod.ext_iff.mp hexec).2.symm
      obtain ⟨-, hlast'⟩ := hrun.of_fault hq hfq
      rw [hlast] at hlast'
      cases hlast'
      have hmine := of_decide_eq_true hmine
      rw [hl] at hmine
      exact hne (Option.some.inj hmine)
  · intro hno
    refine ⟨tr', r', hrun', hlabels, ?_, ?_, fun w hw => ?_, ?_⟩
    · have hown : ∀ p ∈ tr', p.2.1.client = some c ∧ services.Serves p.1 p.2 := by
        refine Machine.forall_of_sameAttempt hsame
          (P := fun p : World × ServiceLabel => p.2.1.client = some c ∧ services.Serves p.1 p.2)
          (fun w v l h hp => ⟨hp.1, h.serves hp.1 hp.2⟩) fun p hp => ?_
        obtain ⟨hp, hl⟩ := List.mem_filter.mp hp
        exact ⟨of_decide_eq_true hl, hserved p hp⟩
      exact fun p hp => (hown p hp).2
    · rw [answers, Machine.filterMap_of_sameAttempt hsame fun w v l h => (h.answer l).symm,
        List.filterMap_filter]
      refine List.filterMap_congr fun p _ => ?_
      split
      · rfl
      · rename_i hl
        exact (answer_other (of_decide_eq_false (Bool.eq_false_iff.mpr hl))).symm
    · obtain ⟨w', hw', halike⟩ := hend w hw
      exact ⟨w', hw', halike.backEnd.cookies.isSubscribed⟩
    · rintro f rfl
      obtain ⟨p, hp, hf⟩ := hrun.fault_attempt
      obtain ⟨c', hc'⟩ := Option.isSome_iff_exists.mp (hclients p hp)
      refine (hfaults f).mpr ⟨p, hp, decide_eq_true ?_, hf⟩
      by_contra hne
      obtain ⟨hw, hs⟩ := hlasting.1 p hp
      -- a step of another client returns
      have hreturns : ∃ w', fire codec p.1 p.2.1 = .ok w' := by
        refine hw.fire_total hs hc' (hrun.guard p hp) fun reply hl => ?_
        rw [← Bool.not_eq_true]
        refine fun hstranded => hno p hp ⟨c', reply, ?_, hl, hstranded⟩
        rintro rfl
        exact hne hc'
      obtain ⟨w', hok⟩ := hreturns
      rw [serviceMachine_error.mp hf] at hok
      cases hok

/-- Services that write an error to the response of their caller. -/
def sampleServices : Services where
  call _ _ _ _ := ({}, ⟨.setError .requestNotSubscribed, fun _ => rfl, fun _ h => h⟩)
  unsubscribe _ _ _ := (fun _ => {}, .none)

/-- What these services write in a step. -/
def sampleWrites (l : Label) : ServiceLabel :=
  match l with
  | .run c reply => (.run c reply, (sampleServices.call c {} 0 fun _ => none).2)
  | l => (l, .none)

/-- A step of a client, but no disconnection, that these services serve. -/
def servesSample : Label → Bool
  | .run _ reply => decide (reply = {})
  | .disconnect _ _ => false
  | l => l.client.isSome

theorem serves_sample {l : Label} (h : servesSample l = true) :
    (sampleWrites l).1.client.isSome = true ∧
      ∀ w, sampleServices.Serves w (sampleWrites l) := by
  cases l with
  | run c reply =>
    refine ⟨rfl, fun w => ?_⟩
    rw [of_decide_eq_true h]
    rfl
  | disconnect => cases h
  | connect | request | check | take | finish => exact ⟨rfl, fun _ => trivial⟩
  | _ => cases h

/-- The dispatch of another client than `c` strands. -/
def strandsOther (codec : BasicProtocolCodec) (c : ClientPtr) (p : World × ServiceLabel) : Bool :=
  match p.2.1 with
  | .run c' _ => decide (c' ≠ c) && p.1.stranded codec c'
  | _ => false

theorem StrandsOther.computed {p : World × ServiceLabel} (h : StrandsOther codec c p) :
    strandsOther codec c p = true := by
  obtain ⟨c', reply, hne, hl, hs⟩ := h
  rw [strandsOther, hl]
  exact Bool.and_eq_true_iff.mpr ⟨decide_eq_true hne, hs⟩

/-- Two clients are connected, and established. -/
def sampleClients : List ServiceLabel :=
  (startUp 7 ++ [Label.connect 8 true] ++ serve 7 ⟨0, 0, sampleHello⟩ {} ++
    serve 8 ⟨0, 0, sampleHello⟩ {}).map sampleWrites

/-- Both list the services, at the same time. -/
def sampleInterleaving : List ServiceLabel :=
  [Label.request 7 true ⟨0, 1, []⟩, .request 8 true ⟨0, 1, []⟩, .check 8, .check 7, .take 8,
    .take 7, .run 8 {}, .run 7 {}, .finish 8, .request 8 true ⟨0, 0, sampleHello⟩,
    .finish 7].map sampleWrites

/-- A client lists the services while another one is served, and turned down. -/
theorem clients_isolated_sample : ∃ w₀ tr r, (answers basicProtocolCodec 7 tr).length = 1 ∧
    tr.length = 11 ∧ Isolated basicProtocolCodec sampleServices w₀ tr r 7 := by
  let m := serviceMachine basicProtocolCodec
  obtain ⟨w₀, hrun, hobs⟩ := m.exec_observed (init .sourceRelay .targetMarshall) sampleClients
    (fun w => (w.backEnd.isSealed, w.requestsStopped, m.admits w sampleInterleaving,
      (m.exec w sampleInterleaving).1.all fun p => !strandsOther basicProtocolCodec 7 p,
      (answers basicProtocolCodec 7 (m.exec w sampleInterleaving).1).length,
      (m.exec w sampleInterleaving).1.length))
    (a := (true, false, true, true, 1, 11)) (by decide +kernel) (by decide +kernel)
  simp only [Prod.mk.injEq] at hobs
  obtain ⟨hsealed, hstopped, hadmits, hnone, hanswers, hlength⟩ := hobs
  have hwaits : ¬w₀.waitsForManagers := fun hwaits =>
    Bool.false_ne_true (hstopped.symm.trans (waitsForManagers_stopped hwaits))
  have hlabels : ∀ p ∈ (m.exec w₀ sampleInterleaving).1,
      p.2.1.client.isSome = true ∧ sampleServices.Serves p.1 p.2 := by
    intro p hp
    obtain ⟨l, hl, heq⟩ := List.mem_map.mp (Machine.exec_mem hp)
    have hserves := serves_sample (List.all_eq_true.mp (by decide) l hl)
    rw [← heq]
    exact ⟨hserves.1, hserves.2 p.1⟩
  refine ⟨w₀, _, _, hanswers, hlength, (clients_isolated basicProtocolCodec sampleServices _ _
    ⟨_, hrun⟩ hsealed hwaits (Machine.exec_run hadmits)
    (fun p hp => (hlabels p hp).1) (fun p hp => (hlabels p hp).2) 7).mpr fun p hp hs => ?_⟩
  have := List.all_eq_true.mp hnone p hp
  rw [hs.computed] at this
  cases this

/-- A request of one client waits in the pool while the other's `(0, 65536)` is dispatched. -/
def sampleStranding : List ServiceLabel :=
  [Label.request 8 true ⟨0, 65536, sampleHello⟩, .check 8, .request 7 true ⟨0, 1, []⟩, .check 7,
    .take 7, .take 8, .run 8 {}].map sampleWrites

/-- **A client goes without its answer** when the dispatch of another strands. -/
theorem client_not_isolated : ¬ ∀ (codec : BasicProtocolCodec) (services : Services)
    (sourceType : SourceConnectionType) (backendType : DestinationConnectionType) (w₀ : World)
    (tr : List (World × ServiceLabel)) (r : Except Fault World) (c : ClientPtr), codec.Lawful →
    (serviceMachine codec).Reaches (init sourceType backendType) w₀ →
    w₀.backEnd.isSealed = true → ¬w₀.waitsForManagers → (serviceMachine codec).Run w₀ tr r →
    (∀ p ∈ tr, p.2.1.client.isSome = true) → (∀ p ∈ tr, services.Serves p.1 p.2) →
      Isolated codec services w₀ tr r c := by
  intro h
  let m := serviceMachine basicProtocolCodec
  obtain ⟨w₀, hrun, hobs⟩ := m.exec_observed (init .sourceRelay .targetMarshall) sampleClients
    (fun w => (w.backEnd.isSealed, w.requestsStopped, m.admits w sampleStranding,
      Machine.faultOf (m.exec w sampleStranding).2,
      Machine.faultOf (m.exec w (((m.exec w sampleStranding).1.map Prod.snd).filter
        fun l => l.1.client = some 7)).2))
    (a := (true, false, true, some (.assertion .establishClient), none))
    (by decide +kernel) (by decide +kernel)
  simp only [Prod.mk.injEq] at hobs
  obtain ⟨hsealed, hstopped, hadmits, hfault, halone⟩ := hobs
  have hwaits : ¬w₀.waitsForManagers := fun hwaits =>
    Bool.false_ne_true (hstopped.symm.trans (waitsForManagers_stopped hwaits))
  have hlabels : ∀ p ∈ (m.exec w₀ sampleStranding).1,
      p.2.1.client.isSome = true ∧ sampleServices.Serves p.1 p.2 := by
    intro p hp
    obtain ⟨l, hl, heq⟩ := List.mem_map.mp (Machine.exec_mem hp)
    have hserves := serves_sample (List.all_eq_true.mp (by decide) l hl)
    rw [← heq]
    exact ⟨hserves.1, hserves.2 p.1⟩
  obtain ⟨tr', r', hrun', hown, -, -, -, hends⟩ := h _ sampleServices _ _ w₀ _ _ 7
    basicProtocolCodec_lawful ⟨_, hrun⟩ hsealed hwaits
    (Machine.exec_run_fault m w₀ sampleStranding hadmits hfault)
    (fun p hp => (hlabels p hp).1) (fun p hp => (hlabels p hp).2)
  rw [← hown, hrun'.exec_eq, hends _ rfl] at halone
  cases halone

end World

end RblRpc
