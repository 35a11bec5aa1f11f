import RblRpc.Backend.Frame
import RblRpc.Backend.Registry

/-!
# The response string while a request is served

`BackEnd::invoke` sets the error of a response but never clears its string.  Nothing that serves a
request reads the string: two clients that differ in it are served alike, and still differ in it
afterwards unless a new one is stored.

* `ClientData.repeatsHello`, `BackEnd.parsesPosted` — the two places where a string is stored.
* `checkRequest_withString`, `runPosted_withString` — the parts of a request.
* `checked_withString`, `ran_withString` etc. — the steps of the client.
* `request_cleared` — a request whose client data was cleared before it.
-/

namespace RblRpc

open Transition

namespace ClientData

/-- The client data with another response string. -/
def withString (t : Option Bytes) (cd : ClientData) : ClientData :=
  { cd with response := { cd.response with responseString := t } }

/-- `response().Clear()`. -/
def clearResponse (cd : ClientData) : ClientData := { cd with response := {} }

/-- A hello of a client that is established. -/
def repeatsHello (cd : ClientData) : Bool :=
  cd.request.serviceOrdinal = 0 && cd.request.requestOrdinal = 0 && cd.clientEstablished

end ClientData

/-- The string a request leaves: a new one when it is `stored`, else the old one. -/
def Invoker.withString (t : Option Bytes) (i : Invoker) : Invoker :=
  { i with clientData := i.clientData.withString t }

/-- The request string of a method of `basic_protocol` parses. -/
def BasicProtocolCodec.parsesRequest (codec : BasicProtocolCodec) (s : Bytes) : BasicMethod → Bool
  | .hello => (codec.helloRequest.parseFromString s).1
  | .listServices => (codec.listServicesRequest.parseFromString s).1
  | .rpcSubscribeService => (codec.subscribeServiceRequest.parseFromString s).1
  | .rpcUnsubscribeService => (codec.unsubscribeServiceRequest.parseFromString s).1
  | .listMethods => (codec.listMethodsRequest.parseFromString s).1

/-- The request string of a request to the service parses. -/
def Service.parsesRequest (codec : BasicProtocolCodec) (reply : ServiceReply) (r : ClientRequest)
    (s : Service) : Bool :=
  match s.impl with
  | .basicProtocol => (requestedMethod r).any (codec.parsesRequest r.requestString)
  | .application _ => reply.parses

/-- The request string of a posted invoker parses. -/
def BackEnd.parsesPosted (codec : BasicProtocolCodec) (reply : ServiceReply) (i : Invoker)
    (b : BackEnd) : Bool :=
  match b.serviceAt i.service with
  | some (some s) => s.parsesRequest codec reply i.clientData.request
  | _ => false

/-! ## The handlers -/

namespace BasicProtocolImpl

variable (b : BackEnd) (cd : ClientData) (t : Option Bytes)

theorem hello_withString (hr : HelloRequest) :
    hello b (cd.withString t) hr = (hello b cd hr).map fun p => (p.1.withString t, p.2) := by
  unfold hello
  split
  · rfl
  · split
    · rfl
    · unfold ClientData.establishClient
      cases h : cd.clientEstablished <;> simp [ClientData.withString, h] <;> rfl

theorem callReply_withString (s : Service) (cookie : ClientCookie) (reply : ServiceReply) :
    callReply s (cd.withString t) cookie reply = callReply s cd cookie reply := by
  unfold callReply
  cases s.impl <;> rfl

theorem rpcSubscribeService_withString (c : ClientPtr) (reply : ServiceReply)
    (req : SubscribeServiceRequest) :
    rpcSubscribeService c reply b (cd.withString t) req =
      (rpcSubscribeService c reply b cd req).map fun p => (p.1, p.2.1.withString t, p.2.2) := by
  unfold rpcSubscribeService
  split
  · rfl
  · refine bind_eq_map fun cookies => ?_
    dsimp only
    split
    · rfl
    · split
      · rfl
      · rfl
      · rw [callReply_withString]
        exact bind_eq_map fun cookies => rfl

theorem rpcUnsubscribeService_withString (c : ClientPtr) (reply : ServiceReply)
    (req : UnsubscribeServiceRequest) :
    rpcUnsubscribeService c reply b (cd.withString t) req =
      (rpcUnsubscribeService c reply b cd req).map fun p =>
        (p.1, p.2.1.withString t, p.2.2) := by
  unfold rpcUnsubscribeService
  split
  · rfl
  · refine bind_eq_map fun cookies => ?_
    dsimp only
    split
    · rfl
    · split
      · rfl
      · rfl
      · rw [callReply_withString]
        exact bind_eq_map fun p => rfl

theorem listMethods_withString (req : ListMethodsRequest) :
    listMethods b (cd.withString t) req =
      (listMethods b cd req).map fun p => (p.1.withString t, p.2) := by
  unfold listMethods
  split
  · rfl
  · split
    · rfl
    · rfl
    · exact bind_eq_map fun methods => rfl

end BasicProtocolImpl

/-! ## The dispatch -/

section Dispatch

variable {codec : BasicProtocolCodec} {b : BackEnd} {cd : ClientData} (t : Option Bytes)

/-- What a dispatch leaves of a client that was given another response string. -/
def keepString (stored : Bool) (p : BackEnd × ClientData) : BackEnd × ClientData :=
  (p.1, if stored then p.2 else p.2.withString t)

theorem storeResponse_withString (output : Option Bytes) (cd : ClientData) :
    storeResponse output (cd.withString t) = storeResponse output cd := by
  cases output <;> rfl

/-- **A generated dispatch function** stores a string exactly when the request string parses. -/
theorem runMethod_withString {I O : Type} {input : MessageCodec I} {output : MessageCodec O}
    {impl : BackEnd → ClientData → I → Except Fault (BackEnd × ClientData × O)}
    (himpl : ∀ req, impl b (cd.withString t) req =
      (impl b cd req).map fun p => (p.1, p.2.1.withString t, p.2.2)) :
    runMethod input output impl b (cd.withString t) =
      (runMethod input output impl b cd).map
        (keepString t (input.parseFromString cd.request.requestString).1) := by
  unfold runMethod
  rw [show (cd.withString t).request = cd.request from rfl]
  cases hp : input.parseFromString cd.request.requestString with
  | mk parsed req =>
    cases parsed with
    | false => rfl
    | true =>
      dsimp only
      rw [himpl]
      cases impl b cd req with
      | error x => rfl
      | ok p => exact congrArg (fun cd => Except.ok (p.1, cd)) (storeResponse_withString t _ _)

theorem dispatchBasic_withString (c : ClientPtr) (reply : ServiceReply) (m : BasicMethod) :
    dispatchBasic codec c reply m b (cd.withString t) =
      (dispatchBasic codec c reply m b cd).map
        (keepString t (codec.parsesRequest cd.request.requestString m)) := by
  cases m <;> simp only [dispatchBasic, BasicProtocolCodec.parsesRequest]
  case hello =>
    refine runMethod_withString t fun req => ?_
    rw [BasicProtocolImpl.hello_withString]
    cases BasicProtocolImpl.hello b cd req <;> rfl
  case listServices =>
    refine runMethod_withString t fun req => ?_
    cases BasicProtocolImpl.listServices b <;> rfl
  case rpcSubscribeService =>
    exact runMethod_withString t fun req =>
      BasicProtocolImpl.rpcSubscribeService_withString b cd t c reply req
  case rpcUnsubscribeService =>
    exact runMethod_withString t fun req =>
      BasicProtocolImpl.rpcUnsubscribeService_withString b cd t c reply req
  case listMethods =>
    refine runMethod_withString t fun req => ?_
    rw [BasicProtocolImpl.listMethods_withString]
    cases BasicProtocolImpl.listMethods b cd req <;> rfl

theorem dispatchApplication_withString (o : UInt16) (c : ClientPtr) (reply : ServiceReply) :
    dispatchApplication o c reply b (cd.withString t) =
      (dispatchApplication o c reply b cd).map (keepString t reply.parses) := by
  unfold dispatchApplication
  cases reply.parses with
  | false => rfl
  | true =>
    simp only [Bool.not_true, Bool.false_eq_true, if_false]
    cases b.clientServiceCookies.lookup o.toNat c with
    | none => rfl
    | some cookie =>
      refine bind_eq_map fun cookies => ?_
      exact congrArg (fun cd => Except.ok (b.setCookies cookies, cd))
        (storeResponse_withString t reply.output (reply.applyTo cd))

/-- **The dispatch of a service** stores a string exactly when the request string parses. -/
theorem dispatch_withString (o : UInt16) (c : ClientPtr) (reply : ServiceReply) (s : Service) :
    s.dispatch codec o c reply b (cd.withString t) =
      (s.dispatch codec o c reply b cd).map
        (keepString t (s.parsesRequest codec reply cd.request)) := by
  unfold Service.dispatch Service.parsesRequest requestedMethod
  rw [show (cd.withString t).request = cd.request from rfl]
  cases s.impl with
  | basicProtocol =>
    dsimp only
    rw [basicProtocolTable_atOrdinal]
    cases basicMethodAt cd.request.requestOrdinal.toUInt16.toNat with
    | none => rfl
    | some m => exact dispatchBasic_withString t c reply m
  | application table =>
    dsimp only
    cases table.atOrdinal cd.request.requestOrdinal.toUInt16 with
    | none => rfl
    | some _ => exact dispatchApplication_withString t o c reply

end Dispatch

/-! ## The parts of a request -/

namespace BackEnd

variable {codec : BasicProtocolCodec} {b : BackEnd} (i : Invoker) (t : Option Bytes)

/-- What a part of a request leaves of an invoker that was given another response string. -/
def keepInvoker (stored : Bool) (p : BackEnd × Invoker) : BackEnd × Invoker :=
  (p.1, if stored then p.2 else p.2.withString t)

/-- **The checks of `invoke`** store a string exactly when they turn down a repeated hello. -/
theorem checkRequest_withString (h : RegistrySound b) (c : ClientPtr) :
    b.checkRequest codec c (i.withString t) =
      (b.checkRequest codec c i).map (keepInvoker t i.clientData.repeatsHello) := by
  have hother : ¬(i.clientData.request.serviceOrdinal = 0 ∧
      i.clientData.request.requestOrdinal = 0) → i.clientData.repeatsHello = false := by
    intro hne
    rw [← Bool.not_eq_true]
    simp only [ClientData.repeatsHello, Bool.and_eq_true, decide_eq_true_eq]
    exact fun hr => hne hr.1
  unfold checkRequest
  rw [show (i.withString t).clientData.request = i.clientData.request from rfl]
  dsimp only
  split
  · rename_i hnone
    rw [hother fun hr => ?_]
    · rfl
    · have hbasic := h.basic
      rw [hr.1] at hnone
      rw [show b.serviceAt 0 = none from hnone] at hbasic
      cases hbasic
  · rfl
  · rename_i service hservice
    split
    · rename_i hfn
      rw [hother fun hr => ?_]
      · rfl
      · rw [hr.1] at hservice
        have himpl := (h.typed 0 service hservice).mpr rfl
        rw [hr.2, Service.containsFunctionAtOrdinal_basic himpl] at hfn
        exact absurd hfn (by decide)
    · refine bind_eq_map fun cookies => ?_
      rw [show (i.withString t).clientData.clientEstablished = i.clientData.clientEstablished
        from rfl]
      split
      · rename_i hgate
        rw [hother fun hr => hgate.1 hr.1]
        rfl
      · split
        · rename_i hhello
          cases hest : i.clientData.clientEstablished with
          | true =>
            have hrepeats : i.clientData.repeatsHello = true := by
              simp only [ClientData.repeatsHello, hhello.1, hhello.2, hest, decide_true,
                Bool.and_self]
            rw [hrepeats]
            rfl
          | false =>
            have hnew : i.clientData.repeatsHello = false := by
              rw [ClientData.repeatsHello, hest, Bool.and_false]
            rw [hnew]
            rfl
        · rename_i hhello
          rw [hother hhello]
          split <;> rfl

/-- **The dispatch of a posted invoker** stores a string exactly when the request string parses. -/
theorem runPosted_withString (c : ClientPtr) (reply : ServiceReply) :
    b.runPosted codec c reply (i.withString t) =
      (b.runPosted codec c reply i).map (keepInvoker t (b.parsesPosted codec reply i)) := by
  unfold runPosted parsesPosted
  rw [show (i.withString t).service = i.service from rfl,
    show (i.withString t).clientCookie = i.clientCookie from rfl,
    show (i.withString t).clientData = i.clientData.withString t from rfl]
  rcases b.serviceAt i.service with _ | _ | s
  · rfl
  · rfl
  · dsimp only
    rw [dispatch_withString]
    cases s.dispatch codec i.clientCookie c reply (b.logCall (.dispatch i.service.toNat c))
        i.clientData with
    | error x => rfl
    | ok p =>
      show Except.ok _ = Except.ok _
      cases s.parsesRequest codec reply i.clientData.request <;> rfl

theorem endRpc_withString (cd : ClientData) :
    b.endRpc (cd.withString t) = (b.endRpc cd).map (keepString t false) := by
  unfold endRpc ClientData.endRpc
  rw [show (cd.withString t).rpcActive = cd.rpcActive from rfl]
  cases cd.rpcActive <;> rfl

theorem beginInvoke_withString (cd : ClientData) :
    b.beginInvoke (cd.withString t) =
      (b.beginInvoke cd).map fun p => (p.1, p.2.1, p.2.2.withString t) := by
  unfold beginInvoke
  cases b.synchronisedState.startARequest with
  | mk started s =>
    cases started with
    | false => rfl
    | true =>
      simp only [ClientData.startRpc, ClientData.setError, ClientData.withString]
      cases cd.rpcActive <;> rfl

end BackEnd

/-! ## The steps of the client -/

namespace World

variable {codec : BasicProtocolCodec} {w w' : World} {c : ClientPtr} (t : Option Bytes)

/-- The client data of `c` has another response string. -/
def withString (c : ClientPtr) (t : Option Bytes) (w : World) : World :=
  w.setInvoker c ((w.invokers c).withString t)

/-- `response().Clear()` of the client data of `c`. -/
def clearResponse (c : ClientPtr) (w : World) : World :=
  w.setInvoker c { w.invokers c with clientData := (w.data c).clearResponse }

/-- What a step leaves of a world that was given another response string. -/
def keepString (c : ClientPtr) (stored : Bool) (w : World) : World :=
  if stored then w else w.withString c t

theorem setInvoker_setInvoker (w : World) (i i' : Invoker) :
    (w.setInvoker c i).setInvoker c i' = w.setInvoker c i' := by
  unfold setInvoker
  dsimp only
  rw [Function.update_idem]

theorem setInvoker_eq_self (w : World) : w.setInvoker c (w.invokers c) = w := by
  unfold setInvoker
  rw [Function.update_eq_self]

theorem withString_setInvoker (w : World) (i : Invoker) :
    (w.setInvoker c i).withString c t = w.setInvoker c (i.withString t) := by
  rw [withString, setInvoker_setInvoker, setInvoker_self]

theorem stepInvoker_withString {f : BackEnd → Invoker → Except Fault (BackEnd × Invoker)}
    {stored : Bool} (w : World)
    (h : f w.backEnd ((w.invokers c).withString t) =
      (f w.backEnd (w.invokers c)).map (BackEnd.keepInvoker t stored)) :
    stepInvoker c f (w.withString c t) = (stepInvoker c f w).map (keepString t c stored) := by
  unfold stepInvoker withString
  rw [setInvoker_backEnd, setInvoker_self, h]
  cases f w.backEnd (w.invokers c) with
  | error x => rfl
  | ok p =>
    refine congrArg Except.ok ?_
    cases stored with
    | true => exact setInvoker_setInvoker (w.setBackEnd p.1) _ _
    | false =>
      exact (setInvoker_setInvoker (w.setBackEnd p.1) _ _).trans
        (withString_setInvoker t (w.setBackEnd p.1) p.2).symm

/-- A step of the client reads nothing but what its invoker holds. -/
theorem stepInvoker_congr {f f' : BackEnd → Invoker → Except Fault (BackEnd × Invoker)}
    {i i' : Invoker} (h : f w.backEnd i = f' w.backEnd i') :
    stepInvoker c f (w.setInvoker c i) = stepInvoker c f' (w.setInvoker c i') := by
  unfold stepInvoker
  simp only [setInvoker_backEnd, setInvoker_self, h]
  cases f' w.backEnd i' with
  | error x => rfl
  | ok p =>
    refine congrArg Except.ok ?_
    exact (setInvoker_setInvoker (w.setBackEnd p.1) _ _).trans
      (setInvoker_setInvoker (w.setBackEnd p.1) _ _).symm

theorem check_withString (h : BackEnd.RegistrySound w.backEnd) :
    fire codec (w.withString c t) (.check c) =
      (fire codec w (.check c)).map (keepString t c (w.data c).repeatsHello) :=
  stepInvoker_withString t w (BackEnd.checkRequest_withString _ t h c)

theorem take_withString (w : World) :
    take c (w.withString c t) = (take c w).map (keepString t c false) :=
  stepInvoker_withString t w rfl

theorem run_withString (reply : ServiceReply) (w : World) :
    fire codec (w.withString c t) (.run c reply) =
      (fire codec w (.run c reply)).map
        (keepString t c (w.backEnd.parsesPosted codec reply (w.invokers c))) :=
  stepInvoker_withString t w (BackEnd.runPosted_withString _ t c reply)

theorem finish_withString (w : World) :
    finish c (w.withString c t) = (finish c w).map (keepString t c false) := by
  refine stepInvoker_withString t w ?_
  rw [show ((w.invokers c).withString t).clientData = (w.data c).withString t from rfl,
    BackEnd.endRpc_withString]
  show _ = ((w.backEnd.endRpc (w.data c)) >>= _).map _
  cases w.backEnd.endRpc (w.data c) <;> rfl

theorem request_withString (r : ClientRequest) (w : World) :
    request c false r (w.withString c t) = (request c false r w).map (keepString t c false) := by
  refine stepInvoker_withString t w ?_
  have hprepare : ((w.invokers c).withString t).prepare false r =
      ((w.invokers c).prepare false r).map (Invoker.withString t) := rfl
  exact bind_map_eq_map hprepare fun i =>
    bind_map_eq_map (BackEnd.beginInvoke_withString t i.clientData) fun p => rfl

/-- **A request after `response().Clear()`** is one without a response string: `invoke` sets the
error. -/
theorem request_cleared (r : ClientRequest) (w : World) :
    request c false r (w.clearResponse c) = request c false r (w.withString c none) :=
  stepInvoker_congr rfl

/-- **A request through an invoker with `reset`** is one after `response().Clear()`. -/
theorem request_resets (r : ClientRequest) (hidle : (w.data c).rpcActive = false) :
    request c true r w = request c false r (w.clearResponse c) := by
  conv_lhs => rw [← setInvoker_eq_self (c := c) w]
  refine stepInvoker_congr ?_
  have hassert : boostAssert (!(w.invokers c).clientData.rpcActive) .resetInactive = .ok () := by
    rw [show (w.invokers c).clientData.rpcActive = false from hidle]
    rfl
  simp only [Invoker.prepare, if_true, hassert]
  rfl

end World

end RblRpc
