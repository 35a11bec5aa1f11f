import RblRpc.Backend.Admission
import RblRpc.Tcp.FrontEnd

/-!
# The TCP front end and its connections

Model of `TcpFrontEnd` with every connection it has, over a back end.  The io thread runs one
handler at a time.  `handle_read_body` is cut where `BackEnd::invoke` and `handle_write_response`
are, and `shutdown_handler` after each connection of its loop, so that the pool threads, which run
`operator()`, and the other users of the back end interleave with both.

* `Connection.beginReadBody` — `handle_read_body` up to `invoke`; `handleReadBody_parts`.
* `TcpWorld.release` — the destructor of an invoker that nothing holds any more.
* `frontEndMachine` — every order of the handlers, the pool threads and the other operations on
  the back end.
-/

namespace RblRpc

open Transition

namespace Connection

/-- `handle_read_body` up to `invoke()`: the request it parses, and the connection. -/
def beginReadBody (codec : ClientMessageCodec) (bytesSent : ℕ) (c : Connection) :
    ClientRequest × Connection :=
  ((codec.parseRequest (parseInput bytesSent c)).2,
    addRpcCount 1 (setIoState .requestDispatchedActive { c with operation := none }))

/-- **The parts make up `handle_read_body`.** -/
theorem handleReadBody_parts (codec : ClientMessageCodec) (fresh : ℕ → UInt8) (bytesSent : ℕ)
    (answered : Bool) (reply : ClientData → ClientData) (c : Connection) :
    handleReadBody codec fresh bytesSent answered reply c =
      (let (request, k) := beginReadBody codec bytesSent c
      let k := setClientData (reply { k.invoker.clientData with request := request }) k
      if answered then do
        let k ← handleWriteResponse codec fresh k
        return addRpcCount (-1) k
      else return k) := rfl

end Connection

/-- What the io thread does for a connection in `handle_read_body`: it is within `invoke`, about to
call `handle_write_response`, or past it. -/
inductive IoTask where
  | invoking
  | answering
  | answered
  deriving DecidableEq, Repr

/-- Where the io thread is: between two handlers, in `handle_read_body`, or in the loop of
`shutdown_handler`, which has yet to look at the connections `left`. -/
inductive IoPoint where
  | waiting
  | reading (c : ClientPtr) (task : IoTask)
  | sweeping (left : Finset ClientPtr)
  deriving DecidableEq

/-- What the io thread does for connection `c`. -/
def IoPoint.taskOf (c : ClientPtr) : IoPoint → Option IoTask
  | .reading c' task => if c' = c then some task else none
  | _ => none

/-- A `TcpFrontEndConnectionInvoker`, with the address of its client data as its name.  Of the
client data the `flags`, which only `handle_read_header` writes, are kept here.  `handlerOwns`: the
handler in flight is the one `handle_accept` bound to a `shared_ptr`; `poolAnswers`: a pool thread
is between `end_rpc` and `handle_write_response`. -/
structure TcpConnection where
  ioState : IoState := .readHeaderWaitRequestStartInactive
  buffer : Buffer := ⟨[]⟩
  flags : UInt32 := 0
  operation : Option IoOperation := none
  handlerOwns : Bool := false
  alive : Bool := false
  poolAnswers : Bool := false

/-- A handler throws, or an operation on the back end faults. -/
inductive FrontEndFault where
  | backEnd (f : Fault)
  | frontEnd (f : TcpFault)
  deriving DecidableEq

/-- The back end, the front end and its connections; `members` is `m_connections`. -/
structure TcpWorld where
  world : World
  frontEnd : TcpFrontEnd := {}
  connections : ClientPtr → TcpConnection
  members : Finset ClientPtr := ∅
  acceptPending : Bool := true
  ioPoint : IoPoint := .waiting

namespace TcpWorld

/-- The connection of `c` as its handlers see it. -/
def view (c : ClientPtr) (w : TcpWorld) : Connection where
  frontEnd := w.frontEnd
  invoker :=
    { ioState := (w.connections c).ioState
      buffer := (w.connections c).buffer
      clientData := { w.world.data c with flags := (w.connections c).flags } }
  operation := (w.connections c).operation
  connected := decide (c ∈ w.members)

/-- What a handler leaves of the connection of `c`. -/
def store (c : ClientPtr) (k : Connection) (w : TcpWorld) : TcpWorld :=
  { w with
    frontEnd := k.frontEnd
    connections := Function.update w.connections c
      { w.connections c with
        ioState := k.invoker.ioState
        buffer := k.invoker.buffer
        flags := k.invoker.clientData.flags
        operation := k.operation }
    members := if k.connected then insert c w.members else w.members.erase c }

def modify (c : ClientPtr) (f : TcpConnection → TcpConnection) (w : TcpWorld) : TcpWorld :=
  { w with connections := Function.update w.connections c (f (w.connections c)) }

/-- The io thread goes on at `p`. -/
def goto (p : IoPoint) (w : TcpWorld) : TcpWorld := { w with ioPoint := p }

/-- A part of a handler of `c`. -/
def onConnection (c : ClientPtr) (f : Connection → Except TcpFault Connection) (w : TcpWorld) :
    Except FrontEndFault TcpWorld := do
  let k ← (f (w.view c)).mapError .frontEnd
  return w.store c k

/-- An operation on the back end. -/
def onWorld (f : World → Except Fault World) (w : TcpWorld) : Except FrontEndFault TcpWorld := do
  let world ← (f w.world).mapError .backEnd
  return { w with world := world }

/-- The destructor of the invoker, once neither `m_connections` nor a handler holds it. -/
def release (c : ClientPtr) (reply : ℕ → ServiceReply) (w : TcpWorld) :
    Except FrontEndFault TcpWorld :=
  if (w.connections c).alive && !(w.connections c).handlerOwns && decide (c ∉ w.members) then do
    let w ← w.onWorld (World.disconnect c reply)
    return w.modify c fun k => { k with alive := false }
  else .ok w

/-- A completion handler has returned and is destroyed. -/
def handlerDone (c : ClientPtr) (reply : ℕ → ServiceReply) (w : TcpWorld) :
    Except FrontEndFault TcpWorld :=
  (w.modify c fun k => { k with handlerOwns := false }).release c reply

/-! ## The handlers -/

/-- `handle_accept`: the constructor connects to the back end. -/
def accept (c : ClientPtr) (fresh : ℕ → UInt8) (w : TcpWorld) : TcpWorld :=
  ({ w with world := w.world.connect c true }.store c (Connection.accept w.frontEnd {} fresh)).modify
    c fun k => { k with handlerOwns := true, alive := true, poolAnswers := false }

/-- `handle_read_header`. -/
def headerRead (c : ClientPtr) (header : Bytes) (fresh : ℕ → UInt8) (closes : Bool)
    (reply : ℕ → ServiceReply) (w : TcpWorld) : Except FrontEndFault TcpWorld := do
  let w ← w.onConnection c fun k => (k.receive header).handleReadHeader fresh closes
  w.handlerDone c reply

/-- `handle_read_body`, and `invoke` up to `start_rpc`: it returns true at once when the request is
not accepted. -/
def bodyRead (messages : ClientMessageCodec) (c : ClientPtr) (body : Bytes) (w : TcpWorld) :
    Except FrontEndFault TcpWorld := do
  let (request, k) := ((w.view c).receive body).beginReadBody messages body.length
  let w ← (w.store c k).onWorld (World.request c false request)
  return w.goto (.reading c (if w.world.stage c = .accepted then .invoking else .answering))

/-- The checks of `invoke`: it returns false when it has posted the request. -/
def check (codec : BasicProtocolCodec) (c : ClientPtr) (w : TcpWorld) :
    Except FrontEndFault TcpWorld := do
  let w ← w.onWorld (World.fire codec · (.check c))
  return if w.world.stage c = .posted then w.goto .waiting else w

/-- `end_rpc` of a request that was turned down; `invoke` returns true. -/
def endRejected (c : ClientPtr) (w : TcpWorld) : Except FrontEndFault TcpWorld := do
  let w ← w.onWorld (World.finish c)
  return w.goto (.reading c .answering)

/-- `handle_write_response` in `handle_read_body`. -/
def answerRejected (messages : ClientMessageCodec) (c : ClientPtr) (fresh : ℕ → UInt8)
    (w : TcpWorld) : Except FrontEndFault TcpWorld := do
  let w ← w.onConnection c (Connection.handleWriteResponse messages fresh)
  return w.goto (.reading c .answered)

/-- `rpc_count()--` behind it, the end of `handle_read_body`. -/
def uncount (c : ClientPtr) (w : TcpWorld) : Except FrontEndFault TcpWorld := do
  let w ← w.onConnection c fun k => .ok (k.addRpcCount (-1))
  return w.goto .waiting

/-- `end_rpc` in `operator()`. -/
def endRan (c : ClientPtr) (w : TcpWorld) : Except FrontEndFault TcpWorld := do
  let w ← w.onWorld (World.finish c)
  return w.modify c fun k => { k with poolAnswers := true }

/-- `handle_write_response` in `operator()`. -/
def answerRan (messages : ClientMessageCodec) (c : ClientPtr) (fresh : ℕ → UInt8) (w : TcpWorld) :
    Except FrontEndFault TcpWorld := do
  let w ← w.onConnection c (Connection.handleWriteResponse messages fresh)
  return w.modify c fun k => { k with poolAnswers := false }

/-- A handler that is called with an error: `handle_error` prints. -/
def failed (c : ClientPtr) (reply : ℕ → ServiceReply) (w : TcpWorld) :
    Except FrontEndFault TcpWorld :=
  (w.modify c fun k => { k with operation := none }).handlerDone c reply

/-- `shutdown_handler` up to its loop; `closes`: cancelling and closing the acceptor succeed. -/
def shutdown (closes : Bool) (w : TcpWorld) : Except FrontEndFault TcpWorld :=
  if closes then
    .ok { w with
      frontEnd := { w.frontEnd with shutdownInitiated := true }
      ioPoint := .sweeping w.members }
  else .error (.frontEnd .frontEndException)

/-- The body of the loop of `shutdown_handler`. -/
def sweep (c : ClientPtr) (closes : Bool) (reply : ℕ → ServiceReply) (w : TcpWorld) :
    Except FrontEndFault TcpWorld := do
  let w := match w.ioPoint with
    | .sweeping left => w.goto (.sweeping (left.erase c))
    | _ => w
  if (w.connections c).ioState = .readHeaderWaitRequestStartInactive then
    let w ← w.onConnection c (Connection.disconnectClient closes)
    w.release c reply
  else return w

/-- `c` is no connection of the front end, and no handler of one is in flight. -/
def unused (w : TcpWorld) (c : ClientPtr) : Bool :=
  !(w.connections c).alive && (w.connections c).operation.isNone

/-- An operation of the other users of the back end. -/
def foreign (w : TcpWorld) : Label → Bool
  | .signalStage reply =>
    w.world.state.slots.all fun m => (reply m).disconnects.all fun p => w.unused p.1
  | l => l.client.all w.unused

end TcpWorld

/-- The steps of the io thread, of the pool threads for a connection, and of the other users of the
back end.  `fresh` is what a new array holds; `reply` is what `unsubscribe` does. -/
inductive TcpLabel where
  | accept (c : ClientPtr) (fresh : ℕ → UInt8)
  | acceptFailed
  | headerRead (c : ClientPtr) (header : Bytes) (fresh : ℕ → UInt8) (closes : Bool)
      (reply : ℕ → ServiceReply)
  | bodyRead (c : ClientPtr) (body : Bytes)
  | check (c : ClientPtr)
  | endRejected (c : ClientPtr)
  | answerRejected (c : ClientPtr) (fresh : ℕ → UInt8)
  | uncount (c : ClientPtr)
  | take (c : ClientPtr)
  | run (c : ClientPtr) (reply : ServiceReply)
  | endRan (c : ClientPtr)
  | answerRan (c : ClientPtr) (fresh : ℕ → UInt8)
  | responseWritten (c : ClientPtr)
  | failed (c : ClientPtr) (reply : ℕ → ServiceReply)
  | shutdown (closes : Bool)
  | sweep (c : ClientPtr) (closes : Bool) (reply : ℕ → ServiceReply)
  | swept
  | backEnd (l : Label)

namespace TcpWorld

/-- When a step can be taken.  The io thread starts a handler between two others; an operation
completes with all the bytes of its range, or with an error; a new client data takes an address
that no connection and no handler in flight has. -/
def enabled (w : TcpWorld) : TcpLabel → Bool
  | .accept c _ => w.ioPoint = .waiting && w.acceptPending && w.unused c &&
    w.world.enabled (.connect c true)
  | .acceptFailed => w.ioPoint = .waiting && w.acceptPending
  | .headerRead c header _ _ _ => w.ioPoint = .waiting &&
    (w.connections c).operation = some .readHeader && header.length = 8
  | .bodyRead c body => w.ioPoint = .waiting &&
    (w.connections c).operation = some (.readBody body.length)
  | .check c => w.ioPoint = .reading c .invoking && w.world.enabled (.check c)
  | .endRejected c => w.ioPoint = .reading c .invoking && w.world.stage c = .rejected
  | .answerRejected c _ => w.ioPoint = .reading c .answering
  | .uncount c => w.ioPoint = .reading c .answered
  | .take c => (w.connections c).alive && w.world.enabled (.take c)
  | .run c reply => (w.connections c).alive && w.world.enabled (.run c reply)
  | .endRan c => (w.connections c).alive && w.world.stage c = .ran
  | .answerRan c _ => (w.connections c).poolAnswers
  | .responseWritten c => w.ioPoint = .waiting && match (w.connections c).operation with
    | some (.writeResponse _) => true
    | _ => false
  | .failed c _ => w.ioPoint = .waiting && (w.connections c).operation.isSome
  | .shutdown _ => w.ioPoint = .waiting && !w.frontEnd.shutdownInitiated
  | .sweep c _ _ => match w.ioPoint with
    | .sweeping left => decide (c ∈ left)
    | _ => false
  | .swept => w.ioPoint = .sweeping ∅
  | .backEnd l => w.foreign l && w.world.enabled l

def fire (codec : BasicProtocolCodec) (messages : ClientMessageCodec) (w : TcpWorld) :
    TcpLabel → Except FrontEndFault TcpWorld
  | .accept c fresh => .ok (w.accept c fresh)
  | .acceptFailed => .ok { w with acceptPending := false }
  | .headerRead c header fresh closes reply => w.headerRead c header fresh closes reply
  | .bodyRead c body => w.bodyRead messages c body
  | .check c => w.check codec c
  | .endRejected c => w.endRejected c
  | .answerRejected c fresh => w.answerRejected messages c fresh
  | .uncount c => w.uncount c
  | .take c => w.onWorld (World.take c)
  | .run c reply => w.onWorld (World.fire codec · (.run c reply))
  | .endRan c => w.endRan c
  | .answerRan c fresh => w.answerRan messages c fresh
  | .responseWritten c => w.onConnection c Connection.handleResetForNextRequest
  | .failed c reply => w.failed c reply
  | .shutdown closes => w.shutdown closes
  | .sweep c closes reply => w.sweep c closes reply
  | .swept => .ok (w.goto .waiting)
  | .backEnd l => w.onWorld (World.fire codec · l)

/-- A front end without connections over a new back end. -/
def init (sourceType : SourceConnectionType) (backendType : DestinationConnectionType) :
    TcpWorld where
  world := .init sourceType backendType
  connections _ := {}

end TcpWorld

/-- Every order of the handlers of all connections, of the pool threads, and of the other
operations on the back end. -/
def frontEndMachine (codec : BasicProtocolCodec) (messages : ClientMessageCodec) :
    Machine TcpWorld TcpLabel FrontEndFault where
  guard := TcpWorld.enabled
  fire := TcpWorld.fire codec messages

end RblRpc
