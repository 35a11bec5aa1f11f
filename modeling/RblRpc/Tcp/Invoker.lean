import RblRpc.Tcp.BufferSafety

/-!
# The TCP invoker and the response it reads

Model of `TcpInvoker::invoke`: one buffer holds the request frame, the header of the response and
its body in turn, and `cis2` reads the whole buffer, not the body alone.

* `TcpInvoker.invoke` — the call, with what the socket does given by a `Peer`.
* `behindBody` — the bytes that lie behind a body in the buffer.
* `invoke_response` — `response()` is what the parser makes of the body and those bytes.
* `response_roundTrip_iff` — **the response arrives as the server serialised it exactly when the
  bytes behind it assign it nothing else.**
-/

namespace RblRpc

open LittleEndian

/-- What the socket does during one call: the outcome of the write, the bytes that arrive, and
the error a read reports when they run out. -/
structure Peer where
  writeError : ErrorCode := {}
  incoming : Bytes
  readError : ErrorCode := ⟨2, .misc⟩
  readError_isError : readError.isError = true

/-- `boost::asio::read` of `n` bytes: the bytes transferred, the error, the peer afterwards. -/
def Peer.read (n : ℕ) (p : Peer) : Bytes × ErrorCode × Peer :=
  if n ≤ p.incoming.length then
    (p.incoming.take n, {}, { p with incoming := p.incoming.drop n })
  else (p.incoming, p.readError, { p with incoming := [] })

theorem Peer.read_append {p : Peer} {bs rest : Bytes} (h : p.incoming = bs ++ rest) :
    p.read bs.length = (bs, {}, { p with incoming := rest }) := by
  simp [Peer.read, h]

/-- `TcpInvoker`. -/
structure TcpInvoker where
  buffer : Buffer
  clientData : ClientData
  errorCode : ErrorCode := {}
  useable : Bool := true

namespace TcpInvoker

/-- `8 + request().ByteSize()`. -/
def msgSize (codec : ClientMessageCodec) (r : ClientRequest) : UInt32 :=
  8 + UInt32.ofNat (codec.serializeRequest r).length

/-- What `invoke` puts into the buffer. -/
def requestFrame (codec : ClientMessageCodec) (r : ClientRequest) : Bytes :=
  le32 0 ++ le32 (msgSize codec r) ++ codec.serializeRequest r

/-- A read or write of `n` bytes at the start of the buffer. -/
def checkRange (n : ℕ) (b : Buffer) : Except TcpFault Unit :=
  if n ≤ b.size then .ok () else .error (.bufferOverrun n b.size)

/-- `invoke`; `fresh₁` and `fresh₂` are what the arrays of its two `resize`s hold. -/
def invoke (codec : ClientMessageCodec) (fresh₁ fresh₂ : ℕ → UInt8) (peer : Peer)
    (i : TcpInvoker) : Except TcpFault (Bool × TcpInvoker) := do
  let request := i.clientData.request
  let b := i.buffer.growTo fresh₁ (msgSize codec request).toNat
  let b := b.write (requestFrame codec request)
  checkRange (msgSize codec request).toNat b
  if peer.writeError.isError then
    return (false, { i with buffer := b, errorCode := peer.writeError })
  checkRange 8 b
  let (header, error, peer) := peer.read 8
  let b := b.write header
  if error.isError then
    return (false, { i with buffer := b, errorCode := error })
  let msgSizeReturn := readLe32 (b.bytes.drop 4)
  let b := b.growTo fresh₂ msgSizeReturn.toNat
  checkRange (msgSizeReturn - 8).toNat b
  let (body, error, _) := peer.read (msgSizeReturn - 8).toNat
  let b := b.write body
  if error.isError then
    return (false, { i with buffer := b, errorCode := error })
  return (false, { i with
    buffer := b
    errorCode := {}
    clientData := { i.clientData with response := codec.parseFromCodedStream b.bytes } })

end TcpInvoker

/-! ## What lies behind the body -/

/-- The header of a frame with a body of `n` bytes. -/
def frameHeader (n : ℕ) : Bytes := le32 0 ++ le32 (8 + UInt32.ofNat n)

/-- The bytes of the buffer behind a body of `n` bytes, given the request frame and what earlier
calls left in the buffer.  When the response frame is larger than the buffer, they are 8 bytes of
the new array; else the body lies over the header, the request frame and the older contents. -/
def behindBody (frame old : Bytes) (fresh₂ : ℕ → UInt8) (n : ℕ) : Bytes :=
  let held := frame ++ old.drop frame.length
  if held.length < 8 + n then (List.range 8).map fun k => fresh₂ (n + k)
  else (frameHeader n ++ held.drop 8).drop n

theorem msgSize_toNat {n : ℕ} (h : n < 2 ^ 31) : (8 + UInt32.ofNat n).toNat = 8 + n := by
  rw [UInt32.toNat_add, UInt32.toNat_ofNat']
  have : (8 : UInt32).toNat = 8 := rfl
  omega

@[simp] theorem length_frameHeader (n : ℕ) : (frameHeader n).length = 8 := rfl

theorem readLe32_frameHeader (n : ℕ) (rest : Bytes) :
    readLe32 ((frameHeader n ++ rest).drop 4) = 8 + UInt32.ofNat n := by
  have : (frameHeader n ++ rest).drop 4 = le32 (8 + UInt32.ofNat n) ++ rest := by
    simp [frameHeader, le32]
  rw [this, readLe32_le32]

/-- The buffer once a frame is written into it, whatever was resized. -/
theorem bytes_growTo_write (b : Buffer) (fresh : ℕ → UInt8) {frame : Bytes} :
    ((b.growTo fresh frame.length).write frame).bytes = frame ++ b.bytes.drop frame.length := by
  unfold Buffer.growTo
  split
  · rename_i h
    rw [Buffer.write_of_le (by rw [Buffer.size_resize])]
    simp only [Buffer.size] at h
    rw [List.drop_of_length_le (by simp [Buffer.resize, Buffer.allocate]),
      List.drop_of_length_le (by omega)]
  · rename_i h
    exact Buffer.write_of_le (by omega)

/-- The buffer once the body is written over a buffer that holds the header. -/
theorem bytes_growTo_body (b : Buffer) (fresh₂ : ℕ → UInt8) (frame old body : Bytes)
    (hframe : 8 ≤ frame.length)
    (hb : b.bytes = frameHeader body.length ++ (frame ++ old.drop frame.length).drop 8) :
    ((b.growTo fresh₂ (8 + body.length)).write body).bytes =
      body ++ behindBody frame old fresh₂ body.length := by
  have hsize : b.size = (frame ++ old.drop frame.length).length := by
    rw [Buffer.size, hb]
    simp only [List.length_append, List.length_drop, length_frameHeader]
    omega
  unfold Buffer.growTo behindBody
  simp only [← hsize]
  split
  · rename_i h
    rw [Buffer.write_of_le (by rw [Buffer.size_resize]; omega)]
    congr 1
    simp only [Buffer.resize, Buffer.allocate, ← List.map_drop]
    rw [Nat.add_comm, List.range_add, List.drop_left' (by simp), List.map_map]
    rfl
  · rename_i h
    rw [Buffer.write_of_le (by omega), hb]

/-! ## The call -/

theorem checkRange_of_le {n : ℕ} {b : Buffer} (h : n ≤ b.size) :
    TcpInvoker.checkRange n b = .ok () := if_pos h

theorem length_requestFrame {codec : ClientMessageCodec} {r : ClientRequest}
    (h : (codec.serializeRequest r).length < 2 ^ 31) :
    (TcpInvoker.requestFrame codec r).length = (TcpInvoker.msgSize codec r).toNat := by
  rw [TcpInvoker.msgSize, msgSize_toNat h, TcpInvoker.requestFrame]
  simp only [List.length_append, length_le32]

/-- **What a call that gets a whole frame reads**: the body and the bytes behind it. -/
theorem invoke_response {codec : ClientMessageCodec} {i : TcpInvoker} {peer : Peer}
    (fresh₁ fresh₂ : ℕ → UInt8) {body rest : Bytes}
    (hreq : (codec.serializeRequest i.clientData.request).length < 2 ^ 31)
    (hbody : body.length < 2 ^ 31) (hwrite : peer.writeError.isError = false)
    (hin : peer.incoming = frameHeader body.length ++ (body ++ rest)) :
    ∃ i', i.invoke codec fresh₁ fresh₂ peer = .ok (false, i') ∧ i'.errorCode.isError = false ∧
      i'.clientData.response = codec.parseFromCodedStream (body ++
        behindBody (TcpInvoker.requestFrame codec i.clientData.request) i.buffer.bytes fresh₂
          body.length) := by
  set request := i.clientData.request with hrequest
  set frame := TcpInvoker.requestFrame codec request with hframe
  have hlen : frame.length = (TcpInvoker.msgSize codec request).toNat := length_requestFrame hreq
  have h8 : 8 ≤ frame.length := by
    rw [hlen, TcpInvoker.msgSize, msgSize_toNat hreq]; omega
  -- the request frame goes out
  obtain ⟨b₁, hb₁⟩ : ∃ b, b = (i.buffer.growTo fresh₁ frame.length).write frame := ⟨_, rfl⟩
  have hbytes₁ : b₁.bytes = frame ++ i.buffer.bytes.drop frame.length := by
    rw [hb₁, bytes_growTo_write]
  have hsize₁ : frame.length ≤ b₁.size := by
    rw [Buffer.size, hbytes₁, List.length_append]; omega
  -- the header of the response comes in
  have hread₁ : peer.read 8 = (frameHeader body.length, {}, { peer with incoming := body ++ rest }) :=
    Peer.read_append hin
  obtain ⟨b₂, hb₂⟩ : ∃ b, b = b₁.write (frameHeader body.length) := ⟨_, rfl⟩
  have hbytes₂ : b₂.bytes =
      frameHeader body.length ++ (frame ++ i.buffer.bytes.drop frame.length).drop 8 := by
    rw [hb₂, Buffer.write_of_le (by rw [length_frameHeader]; omega), hbytes₁, length_frameHeader]
  have hsz : readLe32 (b₂.bytes.drop 4) = 8 + UInt32.ofNat body.length := by
    rw [hbytes₂, readLe32_frameHeader]
  have hszNat : (8 + UInt32.ofNat body.length).toNat = 8 + body.length := msgSize_toNat hbody
  have hsub : (8 + UInt32.ofNat body.length - 8 : UInt32).toNat = body.length := by
    have hle : 8 ≤ 8 + UInt32.ofNat body.length :=
      UInt32.le_iff_toNat_le.mpr (by rw [hszNat]; exact Nat.le_add_right 8 _)
    rw [UInt32.toNat_sub_of_le _ _ hle, hszNat]
    exact Nat.add_sub_cancel_left 8 _
  -- then its body
  obtain ⟨b₃, hb₃⟩ : ∃ b, b = b₂.growTo fresh₂ (8 + body.length) := ⟨_, rfl⟩
  have hsize₃ : body.length ≤ b₃.size := by rw [hb₃, Buffer.size_growTo]; omega
  have hbytes₃ := bytes_growTo_body b₂ fresh₂ frame i.buffer.bytes body h8 hbytes₂
  rw [← hb₃] at hbytes₃
  have hread₂ : ({ peer with incoming := body ++ rest } : Peer).read body.length =
      (body, {}, { peer with incoming := rest }) := Peer.read_append rfl
  refine ⟨{ i with
    buffer := b₃.write body
    errorCode := {}
    clientData := { i.clientData with
      response := codec.parseFromCodedStream (b₃.write body).bytes } }, ?_, rfl, ?_⟩
  · have hnone : ErrorCode.isError {} = false := rfl
    simp only [TcpInvoker.invoke, ← hrequest, ← hframe, ← hlen, ← hb₁, checkRange_of_le hsize₁,
      checkRange_of_le (h8.trans hsize₁), hwrite, hread₁, ← hb₂, hsz, hszNat, hsub, ← hb₃,
      checkRange_of_le hsize₃, hread₂, hnone]
    rfl
  · rw [hbytes₃]

/-- A call whose write failed reports it. -/
theorem invoke_writeError {codec : ClientMessageCodec} {i i' : TcpInvoker} {peer : Peer}
    {fresh₁ fresh₂ : ℕ → UInt8} {b : Bool} (hwrite : peer.writeError.isError = true)
    (h : i.invoke codec fresh₁ fresh₂ peer = .ok (b, i')) : i'.errorCode.isError = true := by
  simp only [TcpInvoker.invoke, hwrite, if_true] at h
  cases hc : TcpInvoker.checkRange (TcpInvoker.msgSize codec i.clientData.request).toNat
      ((i.buffer.growTo fresh₁ (TcpInvoker.msgSize codec i.clientData.request).toNat).write
        (TcpInvoker.requestFrame codec i.clientData.request)) with
  | error f => rw [hc] at h; cases h
  | ok u =>
    rw [hc] at h
    cases h
    exact hwrite

/-! ## The round trip -/

open Connection

/-- The bytes `handle_write_response` sends are the header and the body. -/
theorem handleWriteResponse_sends {codec : ClientMessageCodec} {fresh : ℕ → UInt8}
    {c c' : Connection} {n : ℕ}
    (hres : (codec.serializeResponse c.invoker.clientData.response).length < 2 ^ 31)
    (h : handleWriteResponse codec fresh c = .ok c') (hn : c'.operation = some (.writeResponse n)) :
    c'.invoker.buffer.bytes.take n =
      frameHeader (codec.serializeResponse c.invoker.clientData.response).length ++
        codec.serializeResponse c.invoker.clientData.response := by
  set r := c.invoker.clientData.response
  have hlen : (responseFrame codec r).length = (msgSize codec r).toNat := by
    rw [msgSize, msgSize_toNat hres, responseFrame]
    simp only [List.length_append, length_le32]
  unfold handleWriteResponse at h
  obtain ⟨-, rfl⟩ := startIo_eq_ok.mp h
  cases hn
  have hsize : (responseFrame codec r).length ≤
      (c.invoker.buffer.growTo fresh (msgSize codec r).toNat).size := by
    rw [Buffer.size_growTo]; omega
  have htake := Buffer.take_write hsize
  rw [hlen] at htake
  exact htake

/-- What a call that gets the frame `handle_write_response` sent reads. -/
theorem roundTrip_response {codec : ClientMessageCodec}
    {fresh fresh₁ fresh₂ : ℕ → UInt8} {c c' : Connection} {n : ℕ} {i i' : TcpInvoker}
    {peer : Peer} {later : Bytes} {b : Bool}
    (hres : (codec.serializeResponse c.invoker.clientData.response).length < 2 ^ 31)
    (hreq : (codec.serializeRequest i.clientData.request).length < 2 ^ 31)
    (hserver : handleWriteResponse codec fresh c = .ok c')
    (hn : c'.operation = some (.writeResponse n))
    (hin : peer.incoming = c'.invoker.buffer.bytes.take n ++ later)
    (hclient : i.invoke codec fresh₁ fresh₂ peer = .ok (b, i'))
    (hio : i'.errorCode.isError = false) :
    i'.clientData.response = codec.parseFromCodedStream
      (codec.serializeResponse c.invoker.clientData.response ++
        behindBody (TcpInvoker.requestFrame codec i.clientData.request) i.buffer.bytes fresh₂
          (codec.serializeResponse c.invoker.clientData.response).length) := by
  rw [handleWriteResponse_sends hres hserver hn, List.append_assoc] at hin
  have hwrite : peer.writeError.isError = false := by
    by_contra hw
    rw [invoke_writeError (Bool.not_eq_false _ ▸ hw) hclient] at hio
    cases hio
  obtain ⟨i'', heq, -, hresp⟩ := invoke_response fresh₁ fresh₂ hreq hres hwrite hin
  rw [heq] at hclient
  cases hclient
  exact hresp

/-- A peer that delivers the given bytes. -/
def Peer.serving (bytes : Bytes) : Peer := { incoming := bytes, readError_isError := rfl }

/-- A server that answers and a peer that loses nothing complete the call. -/
theorem roundTrip_completes (codec : ClientMessageCodec) (fresh fresh₁ fresh₂ : ℕ → UInt8)
    {c : Connection} {i : TcpInvoker}
    (hres : (codec.serializeResponse c.invoker.clientData.response).length < 2 ^ 31)
    (hreq : (codec.serializeRequest i.clientData.request).length < 2 ^ 31) :
    ∃ c' n i', handleWriteResponse codec fresh c = .ok c' ∧
      c'.operation = some (.writeResponse n) ∧
      i.invoke codec fresh₁ fresh₂ (Peer.serving (c'.invoker.buffer.bytes.take n ++ [])) =
        .ok (false, i') ∧ i'.errorCode.isError = false := by
  obtain ⟨c', hserver, -, hn, -⟩ := handleWriteResponse_eq codec fresh c
  have hin : (Peer.serving (c'.invoker.buffer.bytes.take
      (msgSize codec c.invoker.clientData.response).toNat ++ [])).incoming = _ :=
    congrArg (· ++ []) (handleWriteResponse_sends hres hserver hn)
  rw [List.append_assoc] at hin
  obtain ⟨i', heq, hio, -⟩ := invoke_response fresh₁ fresh₂ hreq hres rfl hin
  exact ⟨c', _, i', hserver, hn, heq, hio⟩

/-- **Response round trip, exactly.**  Whatever the request, the buffers and the response: when a
call gets the frame `handle_write_response` sent and no I/O error, `response()` is the response
the server serialised if and only if the bytes behind the body in `m_buffer`, read as fields of
`ClientResponse`, leave it as it is. -/
theorem response_roundTrip_iff {codec : ClientMessageCodec} (hcodec : codec.Lawful)
    {fresh fresh₁ fresh₂ : ℕ → UInt8} {c c' : Connection} {n : ℕ} {i i' : TcpInvoker}
    {peer : Peer} {later : Bytes} {b : Bool}
    (hres : (codec.serializeResponse c.invoker.clientData.response).length < 2 ^ 31)
    (hreq : (codec.serializeRequest i.clientData.request).length < 2 ^ 31)
    (hserver : handleWriteResponse codec fresh c = .ok c')
    (hn : c'.operation = some (.writeResponse n))
    (hin : peer.incoming = c'.invoker.buffer.bytes.take n ++ later)
    (hclient : i.invoke codec fresh₁ fresh₂ peer = .ok (b, i'))
    (hio : i'.errorCode.isError = false) :
    i'.clientData.response = c.invoker.clientData.response ↔
      KeepsResponse c.invoker.clientData.response (codec.assignments
        (behindBody (TcpInvoker.requestFrame codec i.clientData.request) i.buffer.bytes fresh₂
          (codec.serializeResponse c.invoker.clientData.response).length)) := by
  rw [roundTrip_response hres hreq hserver hn hin hclient hio]
  exact parseFromCodedStream_append hcodec _ _

/-- A server about to send `r`, and a client about to send `request`; both buffers are zeroed. -/
def sampleServer (r : ClientResponse) : Connection := accept {} { response := r } fun _ => 0
def sampleClient (request : ClientRequest) : TcpInvoker :=
  { buffer := Buffer.new fun _ => 0, clientData := { request := request } }

/-- Behind a short response lies the end of a long request, which sets nothing. -/
theorem response_roundTrip_iff_sample :
    ∃ i', (sampleClient ⟨1, 2, ascii "calculate"⟩).invoke clientMessageCodec (fun _ => 0)
        (fun _ => 0) (Peer.serving (responseFrame clientMessageCodec ⟨some (ascii "7"),
          some .requestSuccess⟩)) = .ok (false, i') ∧
      i'.clientData.response = ⟨some (ascii "7"), some .requestSuccess⟩ := by
  obtain ⟨c', n, i', hserver, hn, hclient, hio⟩ := roundTrip_completes
    clientMessageCodec (fun _ => 0) (fun _ => 0) (fun _ => 0)
    (c := sampleServer ⟨some (ascii "7"), some .requestSuccess⟩)
    (i := sampleClient ⟨1, 2, ascii "calculate"⟩) (by decide +kernel) (by decide +kernel)
  have hsent := handleWriteResponse_sends (by decide +kernel) hserver hn
  refine ⟨i', ?_, (response_roundTrip_iff clientMessageCodec_lawful (by decide +kernel)
    (by decide +kernel) hserver hn rfl hclient hio).mpr (by decide +kernel)⟩
  rw [← hclient, hsent]
  rfl

/-- A request that ends in the bytes of the field `error = 5`, and the answer `SUCCESS` whose
body ends just before them. -/
def overlaidRequest : ClientRequest := ⟨1, 0, [0x10, 5]⟩
def overlaidResponse : ClientResponse := ⟨some (ascii "0123456789"), some .requestSuccess⟩

/-- **The end of the request overrides the error of the response.** -/
theorem response_roundTrip_broken :
    ¬ ∀ (codec : ClientMessageCodec), codec.Lawful →
      ∀ (fresh fresh₁ fresh₂ : ℕ → UInt8) (c c' : Connection) (n : ℕ) (i i' : TcpInvoker)
        (peer : Peer) (later : Bytes) (b : Bool),
      (codec.serializeResponse c.invoker.clientData.response).length < 2 ^ 31 →
      (codec.serializeRequest i.clientData.request).length < 2 ^ 31 →
      handleWriteResponse codec fresh c = .ok c' →
      c'.operation = some (.writeResponse n) →
      peer.incoming = c'.invoker.buffer.bytes.take n ++ later →
      i.invoke codec fresh₁ fresh₂ peer = .ok (b, i') → i'.errorCode.isError = false →
      i'.clientData.response = c.invoker.clientData.response := by
  intro h
  have hres : (clientMessageCodec.serializeResponse
    (sampleServer overlaidResponse).invoker.clientData.response).length < 2 ^ 31 := by
    decide +kernel
  have hreq : (clientMessageCodec.serializeRequest
    (sampleClient overlaidRequest).clientData.request).length < 2 ^ 31 := by decide +kernel
  obtain ⟨c', n, i', hserver, hn, hclient, hio⟩ := roundTrip_completes
    clientMessageCodec (fun _ => 0) (fun _ => 0) (fun _ => 0) hres hreq
  have hclaim := h _ clientMessageCodec_lawful _ _ _ _ _ _ _ _ _ _ _ hres hreq hserver hn rfl
    hclient hio
  rw [roundTrip_response hres hreq hserver hn rfl hclient hio] at hclaim
  revert hclaim
  decide +kernel

end RblRpc
