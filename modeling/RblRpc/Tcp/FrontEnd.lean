import RblRpc.Backend.ClientData
import RblRpc.Lib.Machine
import RblRpc.Proto.ClientMessages

/-!
# A connection of the TCP front end

Model of `TcpFrontEndConnectionInvoker` (`TcpFrontEnd.cc`): the handlers of its asynchronous
reads and writes over its one `Buffer`.  A read or write of `n` bytes at the start of a buffer
that holds fewer is the fault `bufferOverrun`.

* `handleReadHeader`, `handleReadBody`, `handleWriteResponse`, `handleResetForNextRequest`.
* `connectionMachine` — every order of completions on one connection; what `BackEnd::invoke` and
  the dispatch leave in the client data is given by the label.
-/

namespace RblRpc

open Transition LittleEndian

/-- `FRONT_END_CONNECTION_IO_STATE`. -/
inductive IoState where
  | readHeaderWaitRequestStartInactive
  | readBodyRequestActive
  | requestDispatchedActive
  | requestResponseWriteActive
  deriving DecidableEq, Repr

/-- The members of `TcpFrontEnd` that the handlers use. -/
structure TcpFrontEnd where
  rpcCount : Int := 0
  shutdownInitiated : Bool := false
  deriving DecidableEq

/-- `TcpFrontEndConnectionInvoker`. -/
structure TcpFrontEndConnectionInvoker where
  ioState : IoState
  buffer : Buffer
  clientData : ClientData
  deriving DecidableEq

/-- An `async_read` or `async_write` in flight, with the length of its range. -/
inductive IoOperation where
  | readHeader
  | readBody (length : ℕ)
  | writeResponse (length : ℕ)
  deriving DecidableEq, Repr

def IoOperation.length : IoOperation → ℕ
  | .readHeader => 8
  | .readBody n => n
  | .writeResponse n => n

inductive TcpFault where
  | bufferOverrun (length size : ℕ)
  | frontEndException
  deriving DecidableEq, Repr

/-- A connection: its front end, its invoker, the operation in flight, and whether
`m_connections` holds it. -/
structure Connection where
  frontEnd : TcpFrontEnd
  invoker : TcpFrontEndConnectionInvoker
  operation : Option IoOperation
  connected : Bool
  deriving DecidableEq

namespace Connection

/-- `async_read` / `async_write` on a range at the start of the buffer. -/
def startIo (op : IoOperation) (c : Connection) : Except TcpFault Connection :=
  if op.length ≤ c.invoker.buffer.size then .ok { c with operation := some op }
  else .error (.bufferOverrun op.length c.invoker.buffer.size)

theorem startIo_eq_ok {op : IoOperation} {c c' : Connection} :
    startIo op c = .ok c' ↔
      op.length ≤ c.invoker.buffer.size ∧ c' = { c with operation := some op } := by
  unfold startIo
  split
  · rename_i h
    simp [h, eq_comm]
  · rename_i h
    simp [h]

def setIoState (s : IoState) (c : Connection) : Connection :=
  { c with invoker := { c.invoker with ioState := s } }

def setBuffer (b : Buffer) (c : Connection) : Connection :=
  { c with invoker := { c.invoker with buffer := b } }

def setClientData (cd : ClientData) (c : Connection) : Connection :=
  { c with invoker := { c.invoker with clientData := cd } }

def addRpcCount (n : Int) (c : Connection) : Connection :=
  { c with frontEnd := { c.frontEnd with rpcCount := c.frontEnd.rpcCount + n } }

/-- Received bytes arrive at the start of the buffer. -/
def receive (bytes : Bytes) (c : Connection) : Connection :=
  setBuffer (c.invoker.buffer.write bytes) c

/-- `handle_accept`: a new invoker, and the read of its first header. -/
def accept (fe : TcpFrontEnd) (cd : ClientData) (fresh : ℕ → UInt8) : Connection where
  frontEnd := fe
  invoker := ⟨.readHeaderWaitRequestStartInactive, Buffer.new fresh, cd⟩
  operation := some .readHeader
  connected := true

/-- `TcpFrontEnd::disconnect_client`; `closes`: shutting down and closing the socket succeed. -/
def disconnectClient (closes : Bool) (c : Connection) : Except TcpFault Connection :=
  if closes && c.connected then .ok { c with connected := false }
  else .error .frontEndException

/-- The flags and `msg_sz` in the first 8 bytes of the buffer. -/
def headerFlags (b : Buffer) : UInt32 := readLe32 (b.bytes.take 8)
def headerMsgSz (b : Buffer) : UInt32 := readLe32 ((b.bytes.take 8).drop 4)

/-- `handle_read_header`.  `msg_sz - 8` is a `uint32_t`. -/
def handleReadHeader (fresh : ℕ → UInt8) (closes : Bool) (c : Connection) :
    Except TcpFault Connection :=
  if c.frontEnd.shutdownInitiated then
    disconnectClient closes { c with operation := none }
  else
    let b := c.invoker.buffer
    let msgSz := headerMsgSz b
    let c := setClientData { c.invoker.clientData with flags := headerFlags b } c
    let c := if msgSz.toNat < b.size then setBuffer (b.resize fresh msgSz.toNat) c else c
    startIo (.readBody (msgSz - 8).toNat) (setIoState .readBodyRequestActive c)

/-- `8 + response().ByteSize()`. -/
def msgSize (codec : ClientMessageCodec) (r : ClientResponse) : UInt32 :=
  8 + UInt32.ofNat (codec.serializeResponse r).length

/-- What `handle_write_response` puts into the buffer. -/
def responseFrame (codec : ClientMessageCodec) (r : ClientResponse) : Bytes :=
  le32 0 ++ le32 (msgSize codec r) ++ codec.serializeResponse r

/-- `handle_write_response`. -/
def handleWriteResponse (codec : ClientMessageCodec) (fresh : ℕ → UInt8) (c : Connection) :
    Except TcpFault Connection :=
  let c := setIoState .requestResponseWriteActive (addRpcCount (-1) c)
  let r := c.invoker.clientData.response
  let b := c.invoker.buffer.growTo fresh (msgSize codec r).toNat
  startIo (.writeResponse (msgSize codec r).toNat)
    (setBuffer (b.write (responseFrame codec r)) c)

/-- The argument of `ParseFromArray( buffer->get(), bytes_sent)`. -/
def parseInput (bytesSent : ℕ) (c : Connection) : Bytes := c.invoker.buffer.bytes.take bytesSent

/-- `handle_read_body`.  `invoke()` returns `answered` and leaves `reply` of the client data. -/
def handleReadBody (codec : ClientMessageCodec) (fresh : ℕ → UInt8) (bytesSent : ℕ)
    (answered : Bool) (reply : ClientData → ClientData) (c : Connection) :
    Except TcpFault Connection := do
  let request := (codec.parseRequest (parseInput bytesSent c)).2
  let c := setClientData { c.invoker.clientData with request := request } c
  let c := addRpcCount 1 (setIoState .requestDispatchedActive { c with operation := none })
  let c := setClientData (reply c.invoker.clientData) c
  if answered then
    let c ← handleWriteResponse codec fresh c
    return addRpcCount (-1) c
  else return c

/-- `operator()`: dispatch and `end_rpc` leave `reply` of the client data. -/
def dispatched (codec : ClientMessageCodec) (fresh : ℕ → UInt8) (reply : ClientData → ClientData)
    (c : Connection) : Except TcpFault Connection :=
  handleWriteResponse codec fresh (setClientData (reply c.invoker.clientData) c)

/-- `handle_reset_for_next_request`. -/
def handleResetForNextRequest (c : Connection) : Except TcpFault Connection :=
  startIo .readHeader (setIoState .readHeaderWaitRequestStartInactive c)

/-- What `shutdown_handler` does to this connection. -/
def shutdownHandler (closes : Bool) (c : Connection) : Except TcpFault Connection :=
  let c := { c with frontEnd := { c.frontEnd with shutdownInitiated := true } }
  if c.connected && c.invoker.ioState = .readHeaderWaitRequestStartInactive then
    disconnectClient closes c
  else .ok c

end Connection

/-- The events of a connection.  `fresh` is what a new array holds. -/
inductive ConnectionEvent where
  | headerRead (header : Bytes) (fresh : ℕ → UInt8) (closes : Bool)
  | bodyRead (body : Bytes) (fresh : ℕ → UInt8) (answered : Bool)
      (reply : ClientData → ClientData)
  | dispatched (fresh : ℕ → UInt8) (reply : ClientData → ClientData)
  | responseWritten
  | failed
  | shutdown (closes : Bool)

namespace Connection

/-- When an event can happen.  An operation completes with all the bytes of its range;
`ByteSize()` is an `int`. -/
def enabled (c : Connection) : ConnectionEvent → Bool
  | .headerRead header _ _ => c.operation = some .readHeader && header.length = 8
  | .bodyRead body _ _ _ => c.operation = some (.readBody body.length)
  | .dispatched _ _ =>
    c.operation = none && c.invoker.ioState = .requestDispatchedActive
  | .responseWritten => match c.operation with
    | some (.writeResponse _) => true
    | _ => false
  | .failed => c.operation.isSome
  | .shutdown _ => !c.frontEnd.shutdownInitiated

def handle (codec : ClientMessageCodec) (c : Connection) :
    ConnectionEvent → Except TcpFault Connection
  | .headerRead header fresh closes => handleReadHeader fresh closes (receive header c)
  | .bodyRead body fresh answered reply =>
    handleReadBody codec fresh body.length answered reply (receive body c)
  | .dispatched fresh reply => dispatched codec fresh reply c
  | .responseWritten => handleResetForNextRequest c
  | .failed => .ok { c with operation := none }
  | .shutdown closes => shutdownHandler closes c

end Connection

/-- Every order of events on one connection. -/
def connectionMachine (codec : ClientMessageCodec) :
    Machine Connection ConnectionEvent TcpFault where
  guard := Connection.enabled
  fire := Connection.handle codec

end RblRpc
