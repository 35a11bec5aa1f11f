import Mathlib.Logic.Function.Basic
import RblRpc.Backend.BasicProtocol
import RblRpc.Lib.Machine

/-!
# The back end and its clients

`BackEnd::invoke` and the operations around it, as steps of a machine.  An invoker carries the
client data and the place its request has reached; the parts of `invoke` up to and after
`start_rpc`, the pool thread that takes a posted invoker, its dispatch and `end_rpc` are separate
steps, so that those of different clients interleave.  So are the tests of `shutdown_step`, the
join and the teardown of each service.

* `beginInvoke`, `checkRequest`, `endRpc`, `invoke` — the parts of `invoke`, and the whole.
* `stopStage`, `rpcStage`, `signalStage`, `managerStage`, `joinStage`, `teardownStage` —
  `shutdown_step`.
* `backEndMachine` — every order of these operations.
-/

namespace RblRpc

open Transition

/-- Where the request of a client is: none, accepted by `start_a_request`, turned down by a check,
posted, taken by a pool thread, or dispatched. -/
inductive Stage where
  | idle
  | accepted
  | rejected
  | posted
  | running
  | ran
  deriving DecidableEq, Repr

/-- An invoker: its client data, and the ordinals `service` and `client_cookie` came from. -/
structure Invoker where
  clientData : ClientData := {}
  service : UInt16 := 0
  clientCookie : UInt16 := 0
  stage : Stage := .idle

namespace BackEnd

/-- `invoke`, up to `start_rpc`: whether the request was accepted. -/
def beginInvoke (b : BackEnd) (cd : ClientData) : Except Fault (Bool × BackEnd × ClientData) :=
  let cd := { cd.setError .requestSuccess with errorCode := {} }
  match b.synchronisedState.startARequest with
  | (true, s) => do return (true, b.setState s, ← cd.startRpc)
  | (false, _) =>
    .ok (false, b,
      (cd.assignError .notAcceptingRequests).setError .requestBackendNotAcceptingRequests)

/-- A check of `invoke` that fails. -/
def reject (e : ECode) (err : ClientResponseErrorType) (i : Invoker) : Invoker :=
  { i with clientData := (i.clientData.assignError e).setError err, stage := .rejected }

/-- The answer to a second hello. -/
def rejectHello (codec : BasicProtocolCodec) (i : Invoker) : Invoker :=
  let hres := codec.helloResponse.serializeToString
    { errorType := some .clientAllreadyEstablished }
  let cd := i.clientData.assignError .allreadyEstablished
  let cd := { cd with response := { cd.response with responseString := some (hres.getD []) } }
  { i with clientData := cd.requestDisconect, stage := .rejected }

/-- `m_io_service.post`. -/
def post (c : ClientPtr) (b : BackEnd) (i : Invoker) : BackEnd × Invoker :=
  ({ b with ioService := { b.ioService with queue := b.ioService.queue ++ [c] } },
    { i with stage := .posted })

/-- The checks of `invoke` on an accepted request. -/
def checkRequest (codec : BasicProtocolCodec) (c : ClientPtr) (b : BackEnd) (i : Invoker) :
    Except Fault (BackEnd × Invoker) :=
  let request := i.clientData.request
  let o := request.serviceOrdinal.toUInt16
  match b.serviceAt o with
  | none => .ok (b, reject .invokeNoServiceWithOrdinalError .requestNoServiceWithOrdinal i)
  | some none => .error .invalidPointer
  | some (some service) =>
    let i := { i with service := o }
    if !service.containsFunctionAtOrdinal request.requestOrdinal.toUInt16 then
      .ok (b, reject .invokeNoRequestWithOrdinalError .requestNoFunctionWithOrdinal i)
    else do
      let cookies ← b.clientServiceCookies.createOrRetrieveCookie o c
      let b := b.setCookies cookies
      let i := { i with clientCookie := o }
      if request.serviceOrdinal ≠ 0 ∧ cookies.isSubscribed o.toNat c = false then
        return (b, reject .invokeClientNotSubscribed .requestNotSubscribed i)
      else if request.serviceOrdinal = 0 ∧ request.requestOrdinal = 0 then
        if i.clientData.clientEstablished then return (b, rejectHello codec i)
        else return post c b i
      else if i.clientData.clientEstablished = false then
        return (b, reject .notEstablished .requestClientNotEstablished i)
      else return post c b i

/-- `end_rpc`. -/
def endRpc (b : BackEnd) (cd : ClientData) : Except Fault (BackEnd × ClientData) := do
  return (b.setState b.synchronisedState.endARequest, ← cd.endRpc)

/-- `invoke`: what it returns, and what it leaves when no other thread interferes. -/
def invoke (codec : BasicProtocolCodec) (c : ClientPtr) (b : BackEnd) (i : Invoker) :
    Except Fault (Bool × BackEnd × Invoker) := do
  let (started, b, cd) ← b.beginInvoke i.clientData
  if !started then return (true, b, { i with clientData := cd })
  let (b, i) ← b.checkRequest codec c { i with clientData := cd, stage := .accepted }
  if i.stage = .rejected then
    let (b, cd) ← b.endRpc i.clientData
    return (true, b, { i with clientData := cd, stage := .idle })
  else return (false, b, i)

/-- `service->dispatch(*client_cookie, *m_client_data)` of a posted invoker. -/
def runPosted (codec : BasicProtocolCodec) (c : ClientPtr) (reply : ServiceReply) (b : BackEnd)
    (i : Invoker) : Except Fault (BackEnd × Invoker) :=
  match b.serviceAt i.service with
  | some (some s) => do
    let (b, cd) ← s.dispatch codec i.clientCookie c reply
      (b.logCall (.dispatch i.service.toNat c)) i.clientData
    return (b, { i with clientData := cd, stage := .ran })
  | _ => .error .invalidPointer

end BackEnd

/-- `reset()` of the invokers that have it, and the new request. -/
def Invoker.prepare (resets : Bool) (request : ClientRequest) (i : Invoker) :
    Except Fault Invoker := do
  let cd ←
    if resets then do
      boostAssert (!i.clientData.rpcActive) .resetInactive
      pure { i.clientData with response := {}, errorCode := {} }
    else pure i.clientData
  return { i with clientData := { cd with request := request } }

/-- What a manager does when it is signalled: the clients it disconnects (with what `unsubscribe`
does), whether its slot is disconnected, and whether it throws. -/
structure ManagerReply where
  disconnects : List (ClientPtr × (ℕ → ServiceReply)) := []
  detaches : Bool := true
  throws : Bool := false

/-- How a call of `shutdown_step` ends. -/
inductive StepResult where
  | returned (s : BackEndShutdownState)
  | threw (e : BackEndException)
  | managerThrew
  deriving DecidableEq

/-- What a call of `shutdown_step` does next. -/
inductive StepPoint where
  | outside
  | rpcTest
  | signal
  | managerTest
  | join
  | teardown (i : ℕ)
  deriving DecidableEq

/-- The back end, the invokers of all clients, and the thread that shuts the back end down. -/
structure World where
  backEnd : BackEnd
  invokers : ClientPtr → Invoker
  point : StepPoint := .outside
  result : Option StepResult := none

namespace World

def setBackEnd (b : BackEnd) (w : World) : World := { w with backEnd := b }

def setInvoker (c : ClientPtr) (i : Invoker) (w : World) : World :=
  { w with invokers := Function.update w.invokers c i }

def state (w : World) : SynchronisedBackEndState := w.backEnd.synchronisedState

def setState (s : SynchronisedBackEndState) (w : World) : World :=
  w.setBackEnd (w.backEnd.setState s)

def data (w : World) (c : ClientPtr) : ClientData := (w.invokers c).clientData

def stage (w : World) (c : ClientPtr) : Stage := (w.invokers c).stage

/-- A part of `invoke`, or of what follows it, for client `c`. -/
def stepInvoker (c : ClientPtr) (f : BackEnd → Invoker → Except Fault (BackEnd × Invoker))
    (w : World) : Except Fault World := do
  let (b, i) ← f w.backEnd (w.invokers c)
  return (w.setBackEnd b).setInvoker c i

/-- A new request: `reset`, and `invoke` up to `start_rpc`. -/
def request (c : ClientPtr) (resets : Bool) (r : ClientRequest) : World → Except Fault World :=
  stepInvoker c fun b i => do
    let i ← i.prepare resets r
    let (started, b, cd) ← b.beginInvoke i.clientData
    return (b, { i with clientData := cd, stage := if started then .accepted else .idle })

/-- `end_rpc` of a request that was turned down or has run. -/
def finish (c : ClientPtr) : World → Except Fault World :=
  stepInvoker c fun b i => do
    let (b, cd) ← b.endRpc i.clientData
    return (b, { i with clientData := cd, stage := .idle })

/-- A new request, and the whole of `invoke` without another thread in between. -/
def invoke (codec : BasicProtocolCodec) (c : ClientPtr) (resets : Bool) (r : ClientRequest)
    (w : World) : Except Fault (Bool × World) := do
  let i ← (w.invokers c).prepare resets r
  let (done, b, i) ← w.backEnd.invoke codec c i
  return (done, (w.setBackEnd b).setInvoker c i)

/-- A pool thread takes the posted invoker of `c`. -/
def take (c : ClientPtr) : World → Except Fault World :=
  stepInvoker c fun b i =>
    .ok ({ b with ioService := { b.ioService with queue := b.ioService.queue.erase c } },
      { i with stage := .running })

/-- `BackEnd::disconnect`. -/
def disconnect (c : ClientPtr) (reply : ℕ → ServiceReply) : World → Except Fault World :=
  stepInvoker c fun b i => do
    let (b, cd) ← b.disconnect c reply i.clientData
    return (b, { i with clientData := cd })

/-- `connect`, of an invoker with a new `ClientData` when `fresh`. -/
def connect (c : ClientPtr) (fresh : Bool) (w : World) : World :=
  let w := if fresh then w.setInvoker c {} else w
  w.setBackEnd (w.backEnd.connect c)

/-! ## `shutdown_step` -/

/-- The step goes on at `p`. -/
def goto (p : StepPoint) (w : World) : World := { w with point := p }

/-- The step ends. -/
def leave (r : StepResult) (w : World) : World := { w with point := .outside, result := some r }

/-- The first test. -/
def stopStage (w : World) : World :=
  { (if w.state.shutdownState = .shutdownInitiated then
      w.setState (w.state.stopAcceptingRequests.setShutdownState .shutdownWaitingOnActiveRpcEnd)
    else w) with point := .rpcTest, result := none }

/-- The second test: wait for the active requests. -/
def rpcStage (w : World) : World :=
  if w.state.shutdownState = .shutdownWaitingOnActiveRpcEnd then
    if w.state.activeRpcCount = 0 then
      (w.setState (w.state.setShutdownState .shutdownWaitingOnManagerDisconections)).goto .signal
    else w.leave (.returned .shutdownWaitingOnActiveRpcEnd)
  else w.goto .managerTest

def disconnectClients : List (ClientPtr × (ℕ → ServiceReply)) → World → Except Fault World
  | [], w => .ok w
  | (c, reply) :: cs, w => do disconnectClients cs (← disconnect c reply w)

/-- A manager disconnects its clients, and its slot. -/
def signalManager (m : ManagerId) (reply : ManagerReply) (w : World) : Except Fault World := do
  let w ← disconnectClients reply.disconnects w
  return if reply.detaches then w.setState (w.state.disconnectManager m) else w

/-- `f_disc_invoker_sig()`: the managers in turn; whether one threw. -/
def signalManagers (reply : ManagerId → ManagerReply) :
    List ManagerId → World → Except Fault (World × Bool)
  | [], w => .ok (w, false)
  | m :: ms, w => do
    let w ← signalManager m (reply m) w
    if (reply m).throws then return (w, true) else signalManagers reply ms w

/-- `disconect_managers`, which holds the mutex. -/
def signalStage (reply : ManagerId → ManagerReply) (w : World) : Except Fault World := do
  let (w, threw) ← signalManagers reply w.state.slots w
  return if threw then w.leave .managerThrew else w.goto .managerTest

/-- The third test.  Managers that are still connected do not end the step. -/
def managerStage (w : World) : Except Fault World :=
  if w.state.shutdownState = .shutdownWaitingOnManagerDisconections then do
    if w.state.managerCount = 0 then
      boostAssert (w.backEnd.connectedClients.card = 0) .clientsManaged
    return w.goto .join
  else .ok (w.leave (.returned .shutdownWaitingOnManagerDisconections))

/-- `m_work.reset()` and `join_all()`: the pool threads, if any were started, have returned. -/
def joinStage (w : World) : World :=
  (w.setBackEnd { w.backEnd with
    ioService := { w.backEnd.ioService with
      stopped := w.backEnd.ioService.stopped || w.backEnd.isSealed } }).goto (.teardown 0)

/-- The teardown loop: the service at `i`, or the end of the loop. -/
def teardownStage (w : World) : Except Fault World :=
  match w.point with
  | .teardown i =>
    if i < w.backEnd.services.occupiedSize then do
      match ← w.backEnd.teardownService i with
      | (b, some e) => return (w.setBackEnd b).leave (.threw e)
      | (b, none) => return (w.setBackEnd b).goto (.teardown (i + 1))
    else .ok (w.leave (.returned .shutdownComplete))
  | _ => .ok w

/-- No posted invoker is waiting for a pool thread or is being run by one. -/
def poolIdle (w : World) : Bool :=
  decide (∀ c ∈ w.backEnd.connectedClients, w.stage c ∈ [Stage.idle, .accepted, .rejected])

/-- The managers can disconnect their clients: an invoker is disconnected between requests. -/
def managersFree (reply : ManagerId → ManagerReply) (w : World) : Bool :=
  w.state.slots.all fun m => (reply m).disconnects.all fun p => w.stage p.1 = .idle

end World

/-- The operations on a back end. -/
inductive Label where
  | poolSize (n : Int)
  | registerService (s : Service)
  | start
  | pauseRequests
  | resumeRequests
  | registerManager (m : ManagerId)
  | disconnectManager (m : ManagerId)
  | connect (c : ClientPtr) (fresh : Bool)
  | disconnect (c : ClientPtr) (reply : ℕ → ServiceReply)
  | request (c : ClientPtr) (resets : Bool) (r : ClientRequest)
  | check (c : ClientPtr)
  | take (c : ClientPtr)
  | run (c : ClientPtr) (reply : ServiceReply)
  | finish (c : ClientPtr)
  | initiateShutdown
  | stopStage
  | rpcStage
  | signalStage (reply : ManagerId → ManagerReply)
  | managerStage
  | joinStage
  | teardownStage

namespace Label

/-- The client an operation serves. -/
def client : Label → Option ClientPtr
  | .connect c _ | .disconnect c _ | .request c _ _ | .check c | .take c | .run c _ | .finish c =>
    some c
  | _ => none

/-- The operation signals the managers. -/
def signals : Label → Bool
  | .signalStage _ => true
  | _ => false

/-- The operation is a part of `invoke`. -/
def ofInvoke : Label → Bool
  | .request _ _ _ | .check _ | .finish _ => true
  | _ => false

theorem signals_eq_true {l : Label} (h : l.signals = true) : ∃ reply, l = .signalStage reply := by
  cases l <;> cases h
  exact ⟨_, rfl⟩

end Label

namespace World

/-- When an operation can take place.  A service is the generated class of an application; a new
`ClientData` takes an address no connected client has; a client sends a request, and is
disconnected, while it is connected and has no request under way; the join waits for the pool. -/
def enabled (w : World) : Label → Bool
  | .registerService s => match s.impl with
    | .basicProtocol => false
    | .application _ => true
  | .connect c fresh => !fresh || (decide (c ∉ w.backEnd.connectedClients) && w.stage c = .idle)
  | .disconnect c _ => decide (c ∈ w.backEnd.connectedClients) && w.stage c = .idle
  | .request c _ _ => decide (c ∈ w.backEnd.connectedClients) && w.stage c = .idle
  | .check c => w.stage c = .accepted
  | .take c => w.backEnd.isSealed && !w.backEnd.ioService.stopped && w.stage c = .posted
  | .run c _ => w.stage c = .running
  | .finish c => w.stage c = .rejected || w.stage c = .ran
  | .stopStage => w.point = .outside
  | .rpcStage => w.point = .rpcTest
  | .signalStage reply => w.point = .signal && w.managersFree reply
  | .managerStage => w.point = .managerTest
  | .joinStage => w.point = .join && (!w.backEnd.isSealed || w.poolIdle)
  | .teardownStage => match w.point with
    | .teardown _ => true
    | _ => false
  | _ => true

/-- Throwing leaves the state as it is then. -/
def fire (codec : BasicProtocolCodec) (w : World) : Label → Except Fault World
  | .poolSize n => .ok (w.setBackEnd { w.backEnd with poolSize := n })
  | .registerService s => .ok (w.setBackEnd (w.backEnd.registerAndInitService s).1)
  | .start => do
    let (b, _) ← w.backEnd.start
    return w.setBackEnd b
  | .pauseRequests => .ok (w.setBackEnd w.backEnd.pauseRequests)
  | .resumeRequests => .ok (w.setBackEnd w.backEnd.resumeRequests)
  | .registerManager m => .ok (w.setState (w.state.registerInvokerManager m))
  | .disconnectManager m => .ok (w.setState (w.state.disconnectManager m))
  | .connect c fresh => .ok (w.connect c fresh)
  | .disconnect c reply => w.disconnect c reply
  | .request c resets r => w.request c resets r
  | .check c => w.stepInvoker c fun b i => b.checkRequest codec c i
  | .take c => w.take c
  | .run c reply => w.stepInvoker c fun b i => b.runPosted codec c reply i
  | .finish c => w.finish c
  | .initiateShutdown => .ok (w.setState w.state.checkAndInitiateShutdown.2)
  | .stopStage => .ok w.stopStage
  | .rpcStage => .ok w.rpcStage
  | .signalStage reply => w.signalStage reply
  | .managerStage => w.managerStage
  | .joinStage => .ok w.joinStage
  | .teardownStage => w.teardownStage

/-- A back end after its constructor, before any client. -/
def init (sourceType : SourceConnectionType) (backendType : DestinationConnectionType) : World where
  backEnd := .new sourceType backendType
  invokers _ := {}

end World

/-- Every order of operations on a back end. -/
def backEndMachine (codec : BasicProtocolCodec) : Machine World Label Fault where
  guard := World.enabled
  fire := World.fire codec

/-- A request of `c` is accepted, posted and dispatched. -/
def serve (c : ClientPtr) (r : ClientRequest) (reply : ServiceReply) : List Label :=
  [.request c true r, .check c, .take c, .run c reply, .finish c]

/-- The back end is started, and a client connects. -/
def startUp (c : ClientPtr) : List Label := [.poolSize 1, .start, .connect c true]

end RblRpc
