import RblRpc.Backend.Service
import RblRpc.Common.OidRefinement
import RblRpc.Lib.Call

/-!
# Invokers and generated clients

`InvokerBase`, `ClientServiceBase` and the client classes the generator writes.  An invoker is
given by what its virtual functions do to a state, so that the clients are the same over each of
them.

* `InvokerBase` — `is_useable`, `reset`, `invoke`, and access to the request and the response.
* `ClientServiceBase.construct` — the generated constructor.
* `ClientServiceBase.callMethod` — the generated method.
* `runOn_callMethod` — **a method is one exchange with the invoker**, and what it makes of the
  response.
-/

namespace RblRpc

/-- What calls on the client throw. -/
inductive ClientException where
  | backEnd
  | invoker (e : ClientResponseErrorType)
  | std (x : StdException)
  deriving DecidableEq

/-- The assertions of `remap_ordinals`. -/
inductive RemapFault where
  | size
  | entry
  | name
  deriving DecidableEq

/-- Where a run of the client ends: an assertion, a null pointer, a service ordinal that was never
set, or a fault of the invoker. -/
inductive ClientFault (F : Type) where
  | remap (f : RemapFault)
  | nullPointer
  | uninitialized
  | invoker (f : F)
  deriving DecidableEq

/-- `InvokerBase`, over the states `σ` of an invoker and of what it is connected to. -/
structure InvokerBase (F σ : Type) where
  isUseable : σ → Bool
  reset : σ → Except F σ
  setRequest : ClientRequest → σ → σ
  invoke : σ → Except F (Bool × σ)
  response : σ → ClientResponse

abbrev ClientCall (F σ : Type) := Call (ClientFault F) ClientException σ

variable {F σ I O : Type}

namespace InvokerBase

/-- A virtual function of the invoker. -/
def call {α : Type} (f : σ → Except F (α × σ)) : ClientCall F σ α :=
  .ofStep fun s => (f s).mapError .invoker

/-- `reset`, a request, and `invoke`: the response. -/
def exchange (inv : InvokerBase F σ) (r : ClientRequest) (s : σ) : Except F (ClientResponse × σ) := do
  let s ← inv.reset s
  let (_, s) ← inv.invoke (inv.setRequest r s)
  return (inv.response s, s)

end InvokerBase

/-- `ClientServiceBase`.  The constructor does not set the service ordinal. -/
structure ClientServiceBase where
  serviceOrdinal : Option UInt16 := none
  serviceMethodMap : OidContainer UInt16
  isSubscribed : Bool := false

instance : Inhabited ClientServiceBase := ⟨{ serviceMethodMap := .empty }⟩

namespace ClientServiceBase

/-- The `-1` of an ordinal that is not bound. -/
def unbound : UInt16 := 65535

/-- The generated constructor of a client with these methods. -/
def construct (methods : List Bytes) : Except StdException ClientServiceBase := do
  return { serviceMethodMap := ← buildTable (methods.map fun name => (name, unbound)) }

/-- The response of the invoker, or the exception of its error. -/
def readResponse (output : MessageCodec O) (r : ClientResponse) : Except ClientException O :=
  if r.getError ≠ .requestSuccess then .error (.invoker r.getError)
  else .ok (output.parseFromString r.getResponseString).2

/-- The generated method with the number `methodId`. -/
def callMethod (inv : InvokerBase F σ) (input : MessageCodec I) (output : MessageCodec O)
    (methodId : UInt16) (req : I) (o : ClientServiceBase) : ClientCall F σ O := do
  InvokerBase.call fun s => (inv.reset s).map ((), ·)
  let serviceOrdinal ← .ofOption .uninitialized o.serviceOrdinal
  let requestOrdinal ← .ofOption .nullPointer (o.serviceMethodMap.atOrdinal methodId)
  modify (inv.setRequest
    { serviceOrdinal := serviceOrdinal.toUInt32
      requestOrdinal := requestOrdinal.toUInt32
      requestString := (input.serializeToString req).getD [] })
  -- what `invoke` returns is not looked at
  let _ ← InvokerBase.call inv.invoke
  .ofExcept (readResponse output (inv.response (← get)))

/-- `remap_ordinals`, for the entry at `i`. -/
def remapOrdinal (m_in : OidContainer UInt16) (i : ℕ) (o : ClientServiceBase) :
    Except RemapFault ClientServiceBase :=
  match o.serviceMethodMap.entryAtOrdinal (UInt32.ofNat i),
    m_in.entryAtOrdinal (UInt32.ofNat i) with
  | some e, some e_in =>
    if e_in.name = e.name then
      .ok { o with serviceMethodMap := o.serviceMethodMap.setAt e.ordinal.toNat e_in.entry }
    else .error .name
  | _, _ => .error .entry

/-- `remap_ordinals`. -/
def remapOrdinals (m_in : OidContainer UInt16) (o : ClientServiceBase) :
    Except RemapFault ClientServiceBase :=
  if m_in.size = o.serviceMethodMap.size then
    (List.range m_in.size).foldlM (fun o i => remapOrdinal m_in i o) o
  else .error .size

/-- The request the method with the number `methodId` fills in. -/
def requestOf (methodId : UInt16) (requestString : Bytes) (o : ClientServiceBase) :
    Option ClientRequest := do
  let serviceOrdinal ← o.serviceOrdinal
  let requestOrdinal ← o.serviceMethodMap.atOrdinal methodId
  return ⟨serviceOrdinal.toUInt32, requestOrdinal.toUInt32, requestString⟩

/-- **A method is one exchange**: the run of a method whose ordinals are known. -/
theorem runOn_callMethod {inv : InvokerBase F σ} {input : MessageCodec I} {output : MessageCodec O}
    {methodId : UInt16} {req : I} {o : ClientServiceBase} {r : ClientRequest} (s : σ)
    (hr : o.requestOf methodId ((input.serializeToString req).getD []) = some r) :
    (o.callMethod inv input output methodId req).runOn s =
      ((inv.exchange r s).mapError .invoker).map fun p => (readResponse output p.1, p.2) := by
  obtain ⟨so, hso, hr⟩ := Option.bind_eq_some_iff.mp hr
  obtain ⟨ro, hro, hr⟩ := Option.bind_eq_some_iff.mp hr
  cases hr
  unfold callMethod InvokerBase.exchange InvokerBase.call
  rw [hso, hro]
  simp only [Call.runOn_bind, Call.runOn_ofStep, Call.runOn_ofOption_some, Call.runOn_modify,
    Call.runOn_get, Call.runOn_ofExcept]
  cases inv.reset s with
  | error f => rfl
  | ok s₁ =>
    dsimp only [Except.map, Except.mapError, bind, Except.bind]
    cases inv.invoke (inv.setRequest _ s₁) with
    | error f => rfl
    | ok p => rfl

/-- A method that returns or throws was one exchange. -/
theorem exchange_of_callMethod {inv : InvokerBase F σ} {input : MessageCodec I}
    {output : MessageCodec O} {methodId : UInt16} {req : I} {o : ClientServiceBase} {s s' : σ}
    {answer : Except ClientException O}
    (h : (o.callMethod inv input output methodId req).runOn s = .ok (answer, s')) :
    ∃ r res, inv.exchange r s = .ok (res, s') := by
  cases hr : o.requestOf methodId ((input.serializeToString req).getD []) with
  | none =>
    -- an ordinal is missing, and the call faults
    unfold callMethod InvokerBase.call at h
    rcases Call.runOn_bind_eq_ok.mp h with ⟨x, hthrow, -⟩ | ⟨u, s₁, -, h⟩
    · obtain ⟨a, -, hres⟩ := Call.runOn_ofStep_eq_ok.mp hthrow
      cases hres
    · cases hso : o.serviceOrdinal with
      | none =>
        rw [hso] at h
        cases h
      | some so =>
        cases hro : o.serviceMethodMap.atOrdinal methodId with
        | none =>
          rw [hso, hro] at h
          cases h
        | some ro =>
          rw [requestOf, hso, hro] at hr
          cases hr
  | some r =>
    rw [runOn_callMethod s hr] at h
    obtain ⟨⟨res, s₁⟩, hex, heq⟩ := Call.map_eq_ok.mp h
    cases heq
    exact ⟨r, res, mapError_eq_ok.mp hex⟩

end ClientServiceBase

end RblRpc
