import RblRpc.Common.Errors
import RblRpc.Lib.LittleEndian
import RblRpc.Proto.BasicProtocol

/-!
# `ClientData.h`

The I/O buffer of a connection, and the data of a client.

* `ClientData.startRpc`, `endRpc`, `establishClient` — the setters that assert.
* `ClientData.startRpc_eq_ok` etc. — when they pass, and what they change.
-/

namespace RblRpc

/-- `RBL_RPC_CONF_INITIAL_BUFFER_SIZE`. -/
def initialBufferSize : ℕ := 128

/-- `Buffer`: the bytes of the allocated array. -/
structure Buffer where
  bytes : Bytes
  deriving DecidableEq

namespace Buffer

def size (b : Buffer) : ℕ := b.bytes.length

/-- `new uint8_t[n]`: the contents are whatever the allocation holds. -/
def allocate (fresh : ℕ → UInt8) (n : ℕ) : Buffer := ⟨(List.range n).map fresh⟩

/-- `Buffer()`. -/
def new (fresh : ℕ → UInt8) : Buffer := allocate fresh initialBufferSize

/-- `resize`: a new array, the old contents are not kept. -/
def resize (fresh : ℕ → UInt8) (n : ℕ) (_b : Buffer) : Buffer := allocate fresh n

/-- `if(n > size()) resize(n)`. -/
def growTo (fresh : ℕ → UInt8) (n : ℕ) (b : Buffer) : Buffer :=
  if b.size < n then b.resize fresh n else b

/-- Bytes written at `get()`. -/
def write (src : Bytes) (b : Buffer) : Buffer := ⟨LittleEndian.overwrite src b.bytes⟩

@[simp] theorem size_allocate (fresh : ℕ → UInt8) (n : ℕ) : (allocate fresh n).size = n := by
  simp [allocate, size]

@[simp] theorem size_new (fresh : ℕ → UInt8) : (new fresh).size = 128 := size_allocate _ _

@[simp] theorem size_resize (fresh : ℕ → UInt8) (n : ℕ) (b : Buffer) :
    (b.resize fresh n).size = n := size_allocate _ _

@[simp] theorem size_growTo (fresh : ℕ → UInt8) (n : ℕ) (b : Buffer) :
    (b.growTo fresh n).size = max b.size n := by
  unfold growTo
  split
  · rw [size_resize]; omega
  · omega

@[simp] theorem size_write (src : Bytes) (b : Buffer) : (b.write src).size = b.size :=
  LittleEndian.length_overwrite _ _

theorem take_write {src : Bytes} {b : Buffer} (h : src.length ≤ b.size) :
    (b.write src).bytes.take src.length = src := LittleEndian.take_overwrite h

theorem write_of_le {src : Bytes} {b : Buffer} (h : src.length ≤ b.size) :
    (b.write src).bytes = src ++ b.bytes.drop src.length := LittleEndian.overwrite_of_le h

end Buffer

/-- The identity of a `ClientData` object. -/
abbrev ClientPtr := ℕ

/-- `ClientData`. -/
structure ClientData where
  request : ClientRequest := {}
  response : ClientResponse := {}
  name : Bytes := []
  errorCode : ErrorCode := {}
  flags : UInt32 := 0
  rpcActive : Bool := false
  shouldDisconect : Bool := false
  clientEstablished : Bool := false
  deriving DecidableEq

namespace ClientData

def startRpc (cd : ClientData) : Except Fault ClientData := do
  boostAssert (!cd.rpcActive) .startRpc
  return { cd with rpcActive := true }

def endRpc (cd : ClientData) : Except Fault ClientData := do
  boostAssert cd.rpcActive .endRpc
  return { cd with rpcActive := false }

def establishClient (cd : ClientData) : Except Fault ClientData := do
  boostAssert (!cd.clientEstablished) .establishClient
  return { cd with clientEstablished := true }

def requestDisconect (cd : ClientData) : ClientData := { cd with shouldDisconect := true }

/-- `response().set_error(e)`. -/
def setError (e : ClientResponseErrorType) (cd : ClientData) : ClientData :=
  { cd with response := { cd.response with error := some e } }

/-- `error_code().assign(e, rpc_backend_error)`. -/
def assignError (e : ECode) (cd : ClientData) : ClientData := { cd with errorCode := e.code }

theorem startRpc_eq_ok {cd cd' : ClientData} : cd.startRpc = .ok cd' ↔
    cd.rpcActive = false ∧ cd' = { cd with rpcActive := true } := by
  cases h : cd.rpcActive <;> simp [startRpc, h, eq_comm]

theorem endRpc_eq_ok {cd cd' : ClientData} : cd.endRpc = .ok cd' ↔
    cd.rpcActive = true ∧ cd' = { cd with rpcActive := false } := by
  cases h : cd.rpcActive <;> simp [endRpc, h, eq_comm]

theorem establishClient_eq_ok {cd cd' : ClientData} : cd.establishClient = .ok cd' ↔
    cd.clientEstablished = false ∧ cd' = { cd with clientEstablished := true } := by
  cases h : cd.clientEstablished <;> simp [establishClient, h, eq_comm]

end ClientData

/-! ## What calls leave -/

/-- The members of the client data that no handler and no service writes. -/
structure SameClient (cd cd' : ClientData) : Prop where
  request : cd'.request = cd.request
  rpcActive : cd'.rpcActive = cd.rpcActive
  flags : cd'.flags = cd.flags

/-- The members that only `hello` writes. -/
structure SameIdentity (cd cd' : ClientData) : Prop where
  name : cd'.name = cd.name
  clientEstablished : cd'.clientEstablished = cd.clientEstablished

namespace SameClient

theorem refl (cd : ClientData) : SameClient cd cd := ⟨rfl, rfl, rfl⟩

theorem trans {cd₁ cd₂ cd₃ : ClientData} (h : SameClient cd₁ cd₂) (h' : SameClient cd₂ cd₃) :
    SameClient cd₁ cd₃ :=
  ⟨h'.request.trans h.request, h'.rpcActive.trans h.rpcActive, h'.flags.trans h.flags⟩

end SameClient

namespace SameIdentity

theorem refl (cd : ClientData) : SameIdentity cd cd := ⟨rfl, rfl⟩

theorem trans {cd₁ cd₂ cd₃ : ClientData} (h : SameIdentity cd₁ cd₂)
    (h' : SameIdentity cd₂ cd₃) : SameIdentity cd₁ cd₃ :=
  ⟨h'.name.trans h.name, h'.clientEstablished.trans h.clientEstablished⟩

end SameIdentity

end RblRpc
