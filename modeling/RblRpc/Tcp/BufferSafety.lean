import RblRpc.Tcp.FrontEnd

/-!
# Which frames fit in the buffer

`handle_read_header` resizes when `msg_sz` is *smaller* than the buffer, and subtracts 8 from it
in 32 bits.

* `Fits` — the invariant: a header fits, and so does the range in flight.
* `fits_run` — it holds in every state of every run.
* `handleReadHeader_ok_iff` — a body read fits exactly when `8 ≤ msg_sz ≤ size() + 8`.
* `frames_fit_iff` — **no range overruns the buffer, and every body is parsed as it was sent,
  exactly in the runs whose headers all meet that bound.**
-/

namespace RblRpc

open Transition LittleEndian

namespace Connection

/-- A header fits in the buffer, and so does the range in flight. -/
structure Fits (c : Connection) : Prop where
  header : 8 ≤ c.invoker.buffer.size
  operation : ∀ op, c.operation = some op → op.length ≤ c.invoker.buffer.size

@[simp] theorem size_receive (bytes : Bytes) (c : Connection) :
    (receive bytes c).invoker.buffer.size = c.invoker.buffer.size := Buffer.size_write _ _

theorem Fits.receive {c : Connection} (h : c.Fits) (bytes : Bytes) : (receive bytes c).Fits :=
  ⟨by rw [size_receive]; exact h.header, fun op hop => by
    rw [size_receive]; exact h.operation op hop⟩

theorem accept_fits (fe : TcpFrontEnd) (cd : ClientData) (fresh : ℕ → UInt8) :
    (accept fe cd fresh).Fits := by
  refine ⟨by simp [accept], fun op hop => ?_⟩
  cases hop
  simp [accept, IoOperation.length]

theorem startIo_fits {op : IoOperation} {c c' : Connection} (h : 8 ≤ c.invoker.buffer.size)
    (hs : startIo op c = .ok c') : c'.Fits := by
  obtain ⟨hop, rfl⟩ := startIo_eq_ok.mp hs
  refine ⟨h, fun op' hop' => ?_⟩
  cases hop'
  exact hop

/-! ## The handlers -/

theorem disconnectClient_ok {closes : Bool} {c c' : Connection}
    (h : disconnectClient closes c = .ok c') : c' = { c with connected := false } := by
  unfold disconnectClient at h
  split at h
  · cases h; rfl
  · cases h

theorem disconnectClient_error {closes : Bool} {c : Connection} {f : TcpFault}
    (h : disconnectClient closes c = .error f) : f = .frontEndException := by
  unfold disconnectClient at h
  split at h
  · cases h
  · cases h; rfl

/-- `msg_sz` as it was sent. -/
def sentMsgSz (header : Bytes) : UInt32 := readLe32 (header.drop 4)

theorem headerMsgSz_receive {header : Bytes} {c : Connection} (hlen : header.length = 8)
    (h : 8 ≤ c.invoker.buffer.size) :
    headerMsgSz (receive header c).invoker.buffer = sentMsgSz header := by
  have htake : (c.invoker.buffer.write header).bytes.take 8 = header := by
    rw [← hlen]; exact Buffer.take_write (by omega)
  simp only [headerMsgSz, receive, setBuffer, htake, sentMsgSz]

theorem sub_eight_toNat {m : UInt32} (h : 8 ≤ m.toNat) : (m - 8).toNat = m.toNat - 8 :=
  UInt32.toNat_sub_of_le m 8 (UInt32.le_iff_toNat_le.mpr h)

theorem sub_eight_wraps {m : UInt32} (h : m.toNat < 8) : 2 ^ 32 - 8 ≤ (m - 8).toNat := by
  rw [UInt32.toNat_sub]
  have : (8 : UInt32).toNat = 8 := rfl
  omega

/-- The size of the buffer the body is read into. -/
def bodyBufferSize (msgSz : UInt32) (size : ℕ) : ℕ := min msgSz.toNat size

/-- **A body read fits exactly when `8 ≤ msg_sz ≤ size() + 8`.** -/
theorem body_fits_iff {m : UInt32} {size : ℕ} :
    (m - 8).toNat ≤ bodyBufferSize m size ↔ 8 ≤ m.toNat ∧ m.toNat ≤ size + 8 := by
  unfold bodyBufferSize
  rcases Nat.lt_or_ge m.toNat 8 with hm | hm
  · have := sub_eight_wraps hm
    omega
  · rw [sub_eight_toNat hm]
    omega

/-- `handle_read_header` when no shutdown was initiated: the state in which the body read is
started. -/
theorem handleReadHeader_eq {c : Connection} (hsd : c.frontEnd.shutdownInitiated = false)
    (fresh : ℕ → UInt8) (closes : Bool) :
    ∃ c₁ : Connection,
      handleReadHeader fresh closes c =
        startIo (.readBody (headerMsgSz c.invoker.buffer - 8).toNat) c₁ ∧
      c₁.invoker.buffer.size =
        bodyBufferSize (headerMsgSz c.invoker.buffer) c.invoker.buffer.size := by
  unfold handleReadHeader bodyBufferSize
  simp only [hsd, Bool.false_eq_true, if_false]
  refine ⟨_, rfl, ?_⟩
  split
  · simp only [setIoState, setBuffer, setClientData, Buffer.size_resize]; omega
  · simp only [setIoState, setClientData]; omega

/-- `handle_write_response` succeeds and leaves a buffer that is no smaller. -/
theorem handleWriteResponse_eq (codec : ClientMessageCodec) (fresh : ℕ → UInt8)
    (c : Connection) : ∃ c', handleWriteResponse codec fresh c = .ok c' ∧
      c.invoker.buffer.size ≤ c'.invoker.buffer.size ∧
      c'.operation = some (.writeResponse (msgSize codec c.invoker.clientData.response).toNat) ∧
      (msgSize codec c.invoker.clientData.response).toNat ≤ c'.invoker.buffer.size := by
  unfold handleWriteResponse
  refine ⟨_, startIo_eq_ok.mpr ⟨?_, rfl⟩, ?_, rfl, ?_⟩ <;>
  · simp only [IoOperation.length, setBuffer, setIoState, addRpcCount, Buffer.size_write,
      Buffer.size_growTo]
    omega

theorem handleWriteResponse_fits (codec : ClientMessageCodec) (fresh : ℕ → UInt8)
    {c : Connection} (h : 8 ≤ c.invoker.buffer.size) :
    ∃ c', handleWriteResponse codec fresh c = .ok c' ∧ c'.Fits := by
  obtain ⟨c', heq, hsize, hop, hfit⟩ := handleWriteResponse_eq codec fresh c
  refine ⟨c', heq, h.trans hsize, fun op hop' => ?_⟩
  rw [hop] at hop'
  cases hop'
  exact hfit

theorem handleReadBody_fits (codec : ClientMessageCodec) (fresh : ℕ → UInt8) (n : ℕ)
    (answered : Bool) (reply : ClientData → ClientData) {c : Connection}
    (h : 8 ≤ c.invoker.buffer.size) :
    ∃ c', handleReadBody codec fresh n answered reply c = .ok c' ∧ c'.Fits := by
  unfold handleReadBody
  cases answered with
  | false => exact ⟨_, rfl, h, fun op hop => by cases hop⟩
  | true =>
    simp only [if_true]
    generalize hc₀ : setClientData _ (addRpcCount _ _) = c₀
    have hsize : c₀.invoker.buffer.size = c.invoker.buffer.size := by rw [← hc₀]; rfl
    obtain ⟨c', heq, hfits⟩ := handleWriteResponse_fits codec fresh (c := c₀) (by omega)
    rw [heq]
    exact ⟨_, rfl, hfits.header, hfits.operation⟩

/-! ## Runs -/

/-- The bound on a header that is not discarded by a shutdown. -/
def HeaderFits (c : Connection) : ConnectionEvent → Prop
  | .headerRead header _ _ => c.frontEnd.shutdownInitiated = false →
      8 ≤ (sentMsgSz header).toNat ∧ (sentMsgSz header).toNat ≤ c.invoker.buffer.size + 8
  | _ => True

instance (c : Connection) (e : ConnectionEvent) : Decidable (HeaderFits c e) :=
  match e with
  | .headerRead header _ _ => inferInstanceAs (Decidable (c.frontEnd.shutdownInitiated = false →
      8 ≤ (sentMsgSz header).toNat ∧ (sentMsgSz header).toNat ≤ c.invoker.buffer.size + 8))
  | .bodyRead .. | .dispatched .. | .responseWritten | .failed | .shutdown _ => .isTrue trivial

/-- The body read a header starts is `msg_sz - 8` bytes without wrapping and fits; a received
body is what `ParseFromArray` gets. -/
def FrameExact (codec : ClientMessageCodec) (c : Connection) : ConnectionEvent → Prop
  | .headerRead header fresh closes => c.frontEnd.shutdownInitiated = false →
      ∃ c' n, handle codec c (.headerRead header fresh closes) = .ok c' ∧
        c'.operation = some (.readBody n) ∧ n + 8 = (sentMsgSz header).toNat ∧
        n ≤ c'.invoker.buffer.size
  | .bodyRead body _ _ _ => parseInput body.length (receive body c) = body
  | _ => True

/-- **Every step keeps `Fits`**, whatever the headers. -/
theorem fits_step {codec : ClientMessageCodec} {c c' : Connection} {e : ConnectionEvent}
    (h : c.Fits) (hf : handle codec c e = .ok c') : c'.Fits := by
  cases e with
  | headerRead header fresh closes =>
    simp only [handle] at hf
    by_cases hsd : (receive header c).frontEnd.shutdownInitiated = true
    · unfold handleReadHeader at hf
      rw [if_pos hsd] at hf
      have hc' := disconnectClient_ok hf
      subst hc'
      exact ⟨(h.receive header).header, fun op hop => by cases hop⟩
    · obtain ⟨c₁, heq, hsize⟩ :=
        handleReadHeader_eq (Bool.eq_false_iff.mpr hsd) fresh closes
      rw [heq] at hf
      have hok := startIo_eq_ok.mp hf
      rw [IoOperation.length, hsize, body_fits_iff] at hok
      refine startIo_fits ?_ hf
      have := (h.receive header).header
      rw [hsize, bodyBufferSize]
      omega
  | bodyRead body fresh answered reply =>
    obtain ⟨c₁, heq, hfits⟩ := handleReadBody_fits codec fresh body.length
      answered reply (h.receive body).header
    simp only [handle, heq] at hf
    cases hf
    exact hfits
  | dispatched fresh reply =>
    obtain ⟨c₁, heq, hfits⟩ := handleWriteResponse_fits codec fresh
      (c := setClientData (reply c.invoker.clientData) c) h.header
    simp only [handle, dispatched, heq] at hf
    cases hf
    exact hfits
  | responseWritten =>
    exact startIo_fits (c := setIoState .readHeaderWaitRequestStartInactive c) h.header hf
  | failed => cases hf; exact ⟨h.header, fun op hop => by cases hop⟩
  | shutdown closes =>
    simp only [handle, shutdownHandler] at hf
    split at hf
    · have hc' := disconnectClient_ok hf
      subst hc'
      exact ⟨h.header, h.operation⟩
    · cases hf
      exact ⟨h.header, h.operation⟩

/-- **Every state of a run fits.** -/
theorem fits_run {codec : ClientMessageCodec} {fe : TcpFrontEnd} {cd : ClientData}
    {fresh : ℕ → UInt8} {tr : List (Connection × ConnectionEvent)} {r : Except TcpFault Connection}
    (hrun : (connectionMachine codec).Run (accept fe cd fresh) tr r) : ∀ p ∈ tr, p.1.Fits :=
  (hrun.invariant (I := Fits) (C := fun _ _ => True) (fun _ _ _ h _ _ hf => fits_step h hf)
    (accept_fits fe cd fresh) (fun _ _ => trivial)).1

/-- A header starts an exact body read exactly when it meets the bound. -/
theorem headerRead_exact_iff {codec : ClientMessageCodec} {c : Connection} (h : c.Fits)
    {header : Bytes} (hlen : header.length = 8) (fresh : ℕ → UInt8) (closes : Bool) :
    FrameExact codec c (.headerRead header fresh closes) ↔
      HeaderFits c (.headerRead header fresh closes) := by
  simp only [FrameExact, HeaderFits]
  refine imp_congr_right fun hsd => ?_
  obtain ⟨c₁, heq, hsize⟩ := handleReadHeader_eq (c := receive header c) hsd fresh closes
  rw [headerMsgSz_receive hlen h.header] at heq hsize
  rw [size_receive] at hsize
  rw [← body_fits_iff, ← hsize]
  simp only [handle, heq]
  constructor
  · rintro ⟨c', n, hok, -⟩
    exact (startIo_eq_ok.mp hok).1
  · intro hfit
    refine ⟨_, _, startIo_eq_ok.mpr ⟨hfit, rfl⟩, rfl, ?_, hfit⟩
    rw [hsize, body_fits_iff] at hfit
    rw [sub_eight_toNat hfit.1]
    omega

/-- A step whose header meets the bound does not overrun. -/
theorem handle_no_overrun {codec : ClientMessageCodec} {c : Connection} {e : ConnectionEvent}
    (h : c.Fits) (hg : c.enabled e = true) (hb : HeaderFits c e) (n size : ℕ) :
    handle codec c e ≠ .error (.bufferOverrun n size) := by
  intro hf
  cases e with
  | headerRead header fresh closes =>
    by_cases hsd : c.frontEnd.shutdownInitiated = true
    · simp only [handle, handleReadHeader, receive, setBuffer, hsd, if_true] at hf
      cases disconnectClient_error hf
    · simp only [enabled, Bool.and_eq_true, decide_eq_true_eq] at hg
      obtain ⟨c', _, hok, -⟩ :=
        (headerRead_exact_iff h hg.2 fresh closes).mpr hb (Bool.eq_false_iff.mpr hsd)
      rw [hok] at hf
      cases hf
  | bodyRead body fresh answered reply =>
    obtain ⟨c₁, heq, -⟩ := handleReadBody_fits codec fresh body.length
      answered reply (h.receive body).header
    simp only [handle, heq] at hf
    cases hf
  | dispatched fresh reply =>
    obtain ⟨c₁, heq, -⟩ := handleWriteResponse_fits codec fresh
      (c := setClientData (reply c.invoker.clientData) c) h.header
    simp only [handle, dispatched, heq] at hf
    cases hf
  | responseWritten =>
    have hok : handleResetForNextRequest c = .ok _ :=
      startIo_eq_ok.mpr ⟨h.header, rfl⟩
    simp only [handle, hok] at hf
    cases hf
  | failed => cases hf
  | shutdown closes =>
    simp only [handle, shutdownHandler] at hf
    split at hf
    · cases disconnectClient_error hf
    · cases hf

/-- The bytes of a body that fits are parsed as they were received. -/
theorem parseInput_receive {c : Connection} {body : Bytes}
    (h : body.length ≤ c.invoker.buffer.size) : parseInput body.length (receive body c) = body :=
  Buffer.take_write h

end Connection

open Connection

/-- **Frame buffer safety, exactly.**  On every connection and for every order of events: no
range overruns the buffer, no body length wraps, and every body reaches `ParseFromArray` as it
was sent, if and only if every header that is not discarded has `8 ≤ msg_sz ≤ size() + 8`. -/
theorem frames_fit_iff {codec : ClientMessageCodec} {fe : TcpFrontEnd} {cd : ClientData}
    {fresh : ℕ → UInt8} {tr : List (Connection × ConnectionEvent)}
    {r : Except TcpFault Connection}
    (hrun : (connectionMachine codec).Run (accept fe cd fresh) tr r) :
    ((∀ n size, r ≠ .error (.bufferOverrun n size)) ∧ ∀ p ∈ tr, FrameExact codec p.1 p.2) ↔
      ∀ p ∈ tr, HeaderFits p.1 p.2 := by
  have hfits := fits_run hrun
  have hguard : ∀ p ∈ tr, p.1.enabled p.2 = true := hrun.guard
  constructor
  · rintro ⟨-, hexact⟩ ⟨c, e⟩ hp
    cases e with
    | headerRead header fresh' closes =>
      have hg := hguard _ hp
      simp only [enabled, Bool.and_eq_true, decide_eq_true_eq] at hg
      exact (headerRead_exact_iff (hfits _ hp) hg.2 fresh' closes).mp (hexact _ hp)
    | _ => trivial
  · intro hb
    refine ⟨fun n size hr => ?_, fun ⟨c, e⟩ hp => ?_⟩
    · subst hr
      obtain ⟨p, hp, hf⟩ := hrun.fault_attempt
      exact handle_no_overrun (hfits p hp) (hguard p hp) (hb p hp) n size hf
    · have hg := hguard _ hp
      cases e with
      | headerRead header fresh' closes =>
        simp only [enabled, Bool.and_eq_true, decide_eq_true_eq] at hg
        exact (headerRead_exact_iff (hfits _ hp) hg.2 fresh' closes).mpr (hb _ hp)
      | bodyRead body fresh' answered reply =>
        simp only [enabled, decide_eq_true_eq] at hg
        exact parseInput_receive ((hfits _ hp).operation _ hg)
      | _ => trivial

/-- A new connection, its buffer zeroed, and the events of a run on it. -/
def sampleRun (events : List ConnectionEvent) :
    List (Connection × ConnectionEvent) × Except TcpFault Connection :=
  (connectionMachine clientMessageCodec).exec (accept {} {} fun _ => 0) events

/-- A 16-byte frame, its answer and the wait for the next header. -/
def sampleFrame : List ConnectionEvent :=
  [.headerRead [0, 0, 0, 0, 16, 0, 0, 0] (fun _ => 0) true,
   .bodyRead [8, 0, 16, 1, 26, 2, 104, 105] (fun _ => 0) true id, .responseWritten]

/-- A first header that announces 200 bytes. -/
def oversizedFrame : List ConnectionEvent :=
  [.headerRead [0, 0, 0, 0, 200, 0, 0, 0] (fun _ => 0) true]

theorem frames_fit_iff_sample :
    (∀ n size, (sampleRun sampleFrame).2 ≠ .error (.bufferOverrun n size)) ∧
      ∀ p ∈ (sampleRun sampleFrame).1, FrameExact clientMessageCodec p.1 p.2 :=
  (frames_fit_iff (Machine.exec_run (by decide +kernel))).mpr (by decide +kernel)

/-- **192 bytes are read into the 128 of a new buffer.** -/
theorem frames_overrun :
    ¬ ∀ (codec : ClientMessageCodec) (fe : TcpFrontEnd) (cd : ClientData) (fresh : ℕ → UInt8)
      (tr : List (Connection × ConnectionEvent)) (r : Except TcpFault Connection),
      (connectionMachine codec).Run (accept fe cd fresh) tr r →
      (∀ n size, r ≠ .error (.bufferOverrun n size)) ∧ ∀ p ∈ tr, FrameExact codec p.1 p.2 := by
  intro h
  have hrun : (connectionMachine clientMessageCodec).Run (accept {} {} fun _ => 0)
      (sampleRun oversizedFrame).1 (sampleRun oversizedFrame).2 :=
    Machine.exec_run (by decide +kernel)
  exact (h _ _ _ _ _ _ hrun).1 192 128 (by decide +kernel)

end RblRpc
