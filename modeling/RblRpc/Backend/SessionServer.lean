import Mathlib.Data.Finset.Card
import RblRpc.Backend.Service
import RblRpc.Backend.ClientData
import RblRpc.Lib.AtomicObject

/-!
# What the back end is for

A server that answers one request at a time.  It has a directory of services, and a session for
every client: whether the client said hello, what it is subscribed to, and the string of its last
answer.  It knows nothing of pools, queues, cookies and counters.

* `SessionServer.verdict` — whether a request is let through to its service.
* `SessionServer.serve` — the answer to a request, and the session it leaves.
* `SessionServer.Moves` — the changes that come from the application.
* `sessionServer` — the atomic object.
-/

namespace RblRpc

open Transition

/-- A service as clients find it: `none` once it was torn down. -/
structure Listing where
  name : Bytes
  service : Option Service

/-- The services by their ordinals. -/
structure Directory where
  size : ℕ
  at? : ℕ → Option Listing

namespace Directory

/-- Listings are added; none changes. -/
def Extends (d d' : Directory) : Prop :=
  d.size ≤ d'.size ∧ ∀ o l, d.at? o = some l → d'.at? o = some l

/-- The service at `o` is torn down. -/
def withdraw (o : ℕ) (d : Directory) : Directory :=
  { d with at? := fun i => if i = o then (d.at? o).map fun l => { l with service := none }
    else d.at? i }

end Directory

/-- What a client is to the server.  `identity` is the name it said hello with. -/
@[ext] structure ClientSession where
  identity : Option Bytes := none
  subscribed : ℕ → Bool := fun _ => false
  string : Option Bytes := none

/-- What a client gets to see of a request. -/
structure Answer where
  response : ClientResponse
  errorCode : ErrorCode

namespace ClientSession

/-- An answer that leaves the string of the last one in place. -/
def refuse (e : ECode) (err : ClientResponseErrorType) (s : ClientSession) :
    ClientSession × Answer :=
  (s, ⟨{ responseString := s.string, error := some err }, e.code⟩)

/-- An answer with a string; `none`: the answer could not be serialised. -/
def say (code : ErrorCode) (output : Option Bytes) (s : ClientSession) : ClientSession × Answer :=
  let string := some (output.getD [])
  ({ s with string := string }, match output with
    | some _ => ⟨{ responseString := string, error := some .requestSuccess }, code⟩
    | none => ⟨{ responseString := string, error := some .requestStringSerializeError },
        ECode.invokeResponseStringSerializeError.code⟩)

/-- The answer to a second hello. -/
def greet (codec : BasicProtocolCodec) (s : ClientSession) : ClientSession × Answer :=
  let string := some ((codec.helloResponse.serializeToString
    { errorType := some .clientAllreadyEstablished }).getD [])
  ({ s with string := string },
    ⟨{ responseString := string, error := some .requestSuccess }, ECode.allreadyEstablished.code⟩)

def setSubscribed (o : ℕ) (flag : Bool) (s : ClientSession) : ClientSession :=
  { s with subscribed := Function.update s.subscribed o flag }

/-- The client leaves.  What it was subscribed to at ordinal 0 stays. -/
def depart (s : ClientSession) : ClientSession :=
  { s with subscribed := fun o => if o = 0 then s.subscribed 0 else false }

end ClientSession

/-- What `subscribe` and `unsubscribe` of a service do. -/
def Service.called (reply : ServiceReply) (s : Service) : ServiceReply :=
  match s.impl with
  | .basicProtocol => {}
  | .application _ => reply

/-- The sessions and the directory.  While it is `stopped`, clients that leave keep their
subscriptions. -/
@[ext] structure SessionServer where
  sourceType : SourceConnectionType
  backendType : DestinationConnectionType
  accepting : Bool
  stopped : Bool
  directory : Directory
  session : ClientPtr → ClientSession

namespace SessionServer

/-- What is decided of a request before any service sees it. -/
inductive Verdict where
  | refused (e : ECode) (err : ClientResponseErrorType)
  | greeted
  | granted (s : Service)

/-- The service is looked up with 16 bits of its ordinal, as the function is; the other tests are
those of the whole ordinals. -/
def verdict (q : SessionServer) (s : ClientSession) (r : ClientRequest) : Option Verdict :=
  match q.directory.at? r.serviceOrdinal.toUInt16.toNat with
  | none => some (.refused .invokeNoServiceWithOrdinalError .requestNoServiceWithOrdinal)
  | some l => l.service.map fun service =>
    if !service.containsFunctionAtOrdinal r.requestOrdinal.toUInt16 then
      .refused .invokeNoRequestWithOrdinalError .requestNoFunctionWithOrdinal
    else if r.serviceOrdinal ≠ 0 ∧ s.subscribed r.serviceOrdinal.toUInt16.toNat = false then
      .refused .invokeClientNotSubscribed .requestNotSubscribed
    else if r.serviceOrdinal = 0 ∧ r.requestOrdinal = 0 then
      if s.identity.isSome then .greeted else .granted service
    else if s.identity.isSome then .granted service
    else .refused .notEstablished .requestClientNotEstablished

/-! ## The services of the protocol -/

variable (q : SessionServer) (s : ClientSession)

def service (o : ℕ) : Option Service := (q.directory.at? o).bind (·.service)

/-- `none`: the client said hello before. -/
def hello (req : HelloRequest) : Option (ClientSession × ErrorCode × HelloResponse) :=
  if q.backendType ≠ req.expectedTarget then
    some (s, ECode.clientTargetTypeMismatch.code,
      { errorType := some .destinationExpectationMismatch })
  else if q.sourceType ≠ req.sourceType then
    some (s, ECode.clientSourceTypeMismatch.code, { errorType := some .sourceExpectationMismatch })
  else if s.identity.isSome then none
  else some ({ s with identity := some req.nodeName }, {}, { errorType := some .noHelloErrors })

/-- `none`: the directory has a hole. -/
def listServices : Option ListServicesResponse :=
  ((List.range q.directory.size).mapM fun i =>
    (q.directory.at? i).map fun l => (⟨UInt32.ofNat i, l.name⟩ : ServiceEntry)).map
      fun services => { services := services }

def subscribe (reply : ServiceReply) (req : SubscribeServiceRequest) :
    Option (ClientSession × ErrorCode × SubscribeServiceResponse) :=
  let o := req.serviceOrdinal.toNat
  if ¬ o < q.directory.size then
    some (s, ECode.subscribeNoServiceWithOrdinal.code, { error := some .serviceOrdinalNotInUse })
  else if s.subscribed o then
    some (s, ECode.allreadySubscribed.code, { error := some .serviceAllreadySubscribed })
  else (q.service o).map fun service =>
    let r := service.called reply
    let accepted := !r.errorCode.isError
    (s.setSubscribed o accepted, r.errorCode,
      { error := if accepted then some .noSubscribeServiceError else none
        subscribeResultString := some (r.output.getD []) })

def unsubscribe (reply : ServiceReply) (req : UnsubscribeServiceRequest) :
    Option (ClientSession × ErrorCode × UnsubscribeServiceResponse) :=
  let o := req.serviceOrdinal.toNat
  if ¬ o < q.directory.size then
    some (s, ECode.subscribeNoServiceWithOrdinal.code, { error := some .serviceOrdinalNotInUse })
  else if !s.subscribed o then
    some (s, ECode.notSubscribed.code, { error := some .noSubscriptionForService })
  else (q.service o).map fun service =>
    (s.setSubscribed o false, (service.called reply).errorCode,
      { error := some .noSubscribeServiceError })

def listMethods (req : ListMethodsRequest) :
    Option (ClientSession × ErrorCode × ListMethodsResponse) :=
  let o := req.serviceOrdinal.toNat
  if ¬ o < q.directory.size then
    some (s, ECode.listMethodNoServiceWithOrdinal.code, { error := some .noServiceWithOrdinal })
  else (q.service o).bind fun service => service.produceMethodList.toOption.map fun methods =>
    (s, {}, { error := some .noListMethodError, methods := methods })

/-- A method behind its parser and its serialiser. -/
def method {I O : Type} (input : MessageCodec I) (output : MessageCodec O)
    (f : I → Option (ClientSession × ErrorCode × O)) (string : Bytes) :
    Option (ClientSession × Answer) :=
  match input.parseFromString string with
  | (false, _) => some (s.refuse .invokeRequestStringParseError .requestStringParseError)
  | (true, m) => (f m).map fun (s', code, res) => s'.say code (output.serializeToString res)

def basicMethod (codec : BasicProtocolCodec) (reply : ServiceReply) (string : Bytes) :
    BasicMethod → Option (ClientSession × Answer)
  | .hello => method s codec.helloRequest codec.helloResponse
      (q.hello s) string
  | .listServices => method s codec.listServicesRequest codec.listServicesResponse
      (fun _ => q.listServices.map fun res => (s, {}, res)) string
  | .rpcSubscribeService => method s codec.subscribeServiceRequest codec.subscribeServiceResponse
      (q.subscribe s reply) string
  | .rpcUnsubscribeService =>
    method s codec.unsubscribeServiceRequest codec.unsubscribeServiceResponse
      (q.unsubscribe s reply) string
  | .listMethods => method s codec.listMethodsRequest codec.listMethodsResponse
      (q.listMethods s) string

/-- A request that was let through; `reply` is what the service does. -/
def call (codec : BasicProtocolCodec) (r : ClientRequest) (reply : ServiceReply)
    (service : Service) : Option (ClientSession × Answer) :=
  match service.impl with
  | .basicProtocol => (basicMethodAt r.requestOrdinal.toUInt16.toNat).bind
      (q.basicMethod s codec reply r.requestString)
  | .application _ =>
    if reply.parses then some (s.say reply.errorCode reply.output)
    else some (s.refuse .invokeRequestStringParseError .requestStringParseError)

/-- **The answer to a request**, and the session it leaves; `none`: there is none. -/
def serve (codec : BasicProtocolCodec) (r : ClientRequest) (admitted : Bool)
    (reply : ServiceReply) : Option (ClientSession × Answer) :=
  if !admitted then some (s.refuse .notAcceptingRequests .requestBackendNotAcceptingRequests)
  else match q.verdict s r with
    | none => none
    | some (.refused e err) => some (s.refuse e err)
    | some .greeted => some (s.greet codec)
    | some (.granted service) => q.call s codec r reply service

section Serve

variable {q s} {codec : BasicProtocolCodec} {r : ClientRequest}

theorem serve_refused {e : ECode} {err : ClientResponseErrorType}
    (h : q.verdict s r = some (.refused e err)) (reply : ServiceReply) :
    q.serve s codec r true reply = some (s.refuse e err) := by
  unfold serve
  rw [h]
  rfl

theorem serve_greeted (h : q.verdict s r = some .greeted) (reply : ServiceReply) :
    q.serve s codec r true reply = some (s.greet codec) := by
  unfold serve
  rw [h]
  rfl

theorem serve_granted {service : Service} (h : q.verdict s r = some (.granted service))
    (reply : ServiceReply) :
    q.serve s codec r true reply = q.call s codec r reply service := by
  unfold serve
  rw [h]
  rfl

end Serve

/-! ## The changes from outside -/

/-- What the application, and the threads that connect clients, do to the server. -/
inductive Change where
  | gate (accepting : Bool)
  | publish (d : Directory)
  | withdraw (o : ℕ)
  | stop
  | arrive (c : ClientPtr) (fresh : Bool)
  | depart (cs : Finset ClientPtr)
  | clear (c : ClientPtr)

variable {q}

def setSession (c : ClientPtr) (s : ClientSession) (q : SessionServer) : SessionServer :=
  { q with session := Function.update q.session c s }

/-- The clients in `cs` leave. -/
def without (cs : Finset ClientPtr) (q : SessionServer) : SessionServer :=
  { q with session := fun c =>
      if c ∈ cs ∧ q.stopped = false then (q.session c).depart else q.session c }

@[simp] theorem setSession_session (c : ClientPtr) (s : ClientSession) (q : SessionServer) :
    (q.setSession c s).session c = s := Function.update_self ..

theorem setSession_setSession (c : ClientPtr) (s s' : ClientSession) (q : SessionServer) :
    (q.setSession c s).setSession c s' = q.setSession c s' := by
  unfold setSession
  rw [Function.update_idem]

theorem setSession_self (c : ClientPtr) (q : SessionServer) :
    q.setSession c (q.session c) = q := by
  unfold setSession
  rw [Function.update_eq_self]

/-- **The changes**, and what they leave.  A client keeps its session when it comes back with the
same client data; and it keeps its subscriptions, if it has any, in any case. -/
inductive Moves (q : SessionServer) : Change → SessionServer → Prop
  | gate (accepting : Bool) : Moves q (.gate accepting) { q with accepting := accepting }
  | publish {d : Directory} (h : q.directory.Extends d) :
    Moves q (.publish d) { q with directory := d }
  | withdraw (o : ℕ) : Moves q (.withdraw o) { q with directory := q.directory.withdraw o }
  | stop : Moves q .stop { q with stopped := true }
  | arrive (c : ClientPtr) (fresh : Bool) : Moves q (.arrive c fresh)
    (q.setSession c (if fresh then { subscribed := (q.session c).subscribed } else q.session c))
  | depart (cs : Finset ClientPtr) : Moves q (.depart cs) (q.without cs)
  | clear (c : ClientPtr) : Moves q (.clear c) (q.setSession c { q.session c with string := none })

end SessionServer

/-- **The server as an atomic object.**  The ticket of a request says whether requests were accepted
when it came in; the services may do what they like. -/
def sessionServer (codec : BasicProtocolCodec) :
    AtomicObject SessionServer ClientPtr ClientRequest Bool Answer SessionServer.Change where
  ticket q _ _ := q.accepting
  applies q c r admitted q' answer := ∃ reply s',
    q.serve (q.session c) codec r admitted reply = some (s', answer) ∧ q' = q.setSession c s'
  moves := SessionServer.Moves

end RblRpc
