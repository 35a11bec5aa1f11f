import RblRpc.Backend.ClientData
import RblRpc.Common.OidContainer

/-!
# Services

`ServiceBase`: the generated service classes.  A generated constructor fills the dispatch table
with one `SetEntry` per method, in the order of the declarations; the table is looked up with
16-bit ordinals.  What the implementation of a service does in a call is a `ServiceReply`.

* `buildTable` — the constructor.
* `basicProtocolTable` — the table of `basic_protocol`.
* `Service` — a service, with the effect of its `init` and `teardown` on an error code.
-/

namespace RblRpc

/-- The constructor: `SetEntry( Oid(name, i), value)` for the `i`-th method. -/
def setMethods {M : Type} [Inhabited M] :
    List (Bytes × M) → UInt32 → OidContainer M → Except StdException (OidContainer M)
  | [], _, c => .ok c
  | (name, m) :: ms, i, c => do
    let id ← Oid.make name i
    match c.setEntry ⟨id, m⟩ with
    | (_, .error x) => .error x
    | (c', .ok _) => setMethods ms (i + 1) c'

/-- The table a generated constructor builds. -/
def buildTable {M : Type} [Inhabited M] (ms : List (Bytes × M)) :
    Except StdException (OidContainer M) := setMethods ms 0 .empty

/-- The functions of `service basic_protocol`. -/
inductive BasicMethod where
  | hello
  | listServices
  | rpcSubscribeService
  | rpcUnsubscribeService
  | listMethods
  deriving DecidableEq, Repr, Inhabited

/-- The methods of `service basic_protocol`, in the order of `BasicProtocol.proto`. -/
def basicProtocolMethods : List (Bytes × BasicMethod) :=
  [(ascii "hello", .hello), (ascii "list_services", .listServices),
   (ascii "rpc_subscribe_service", .rpcSubscribeService),
   (ascii "rpc_unsubscribe_service", .rpcUnsubscribeService), (ascii "list_methods", .listMethods)]

/-- `m_dispatch_table` of `basic_protocol`. -/
def basicProtocolTable : OidContainer BasicMethod :=
  match buildTable basicProtocolMethods with
  | .ok t => t
  | .error _ => .empty

theorem basicProtocolTable_built : buildTable basicProtocolMethods = .ok basicProtocolTable := by
  have h : (buildTable basicProtocolMethods).toOption.isSome = true := by decide +kernel
  unfold basicProtocolTable
  cases hb : buildTable basicProtocolMethods with
  | ok t => rfl
  | error x => rw [hb] at h; cases h

/-- The function at an ordinal of `basic_protocol`. -/
def basicMethodAt (n : ℕ) : Option BasicMethod :=
  [BasicMethod.hello, .listServices, .rpcSubscribeService, .rpcUnsubscribeService,
    .listMethods][n]?

/-- **The dispatch table of `basic_protocol` has exactly its five methods.** -/
theorem basicProtocolTable_atOrdinal (o : UInt16) :
    basicProtocolTable.atOrdinal o = basicMethodAt o.toNat := by
  have hentries : basicProtocolTable.entries.map (·.entry) =
      [.hello, .listServices, .rpcSubscribeService, .rpcUnsubscribeService, .listMethods] := by
    decide +kernel
  rw [OidContainer.atOrdinal_of_all (by decide +kernel), hentries, basicMethodAt]

/-- The ordinal of a method is kept in a request, and by the lookup in the table. -/
theorem basicMethodAt_ordinal {k : ℕ} {m : BasicMethod} (h : basicMethodAt k = some m) :
    k < 5 ∧ (UInt32.ofNat k).toNat = k ∧ (UInt32.ofNat k).toUInt16.toNat = k := by
  have hlt : k < 5 := by
    by_contra hge
    rw [basicMethodAt, List.getElem?_eq_none (Nat.le_of_not_lt hge)] at h
    cases h
  have hord : (UInt32.ofNat k).toNat = k := by
    rw [UInt32.toNat_ofNat']
    omega
  refine ⟨hlt, hord, ?_⟩
  rw [UInt32.toNat_toUInt16, hord]
  omega

/-- The functions of a service other than `basic_protocol`. -/
abbrev ApplicationMethod := ℕ

/-- The implementation behind a service. -/
inductive ServiceImpl where
  | basicProtocol
  | application (dispatchTable : OidContainer ApplicationMethod)

/-- A registered service.  `init` and `teardown` get the back end's error code. -/
structure Service where
  name : Bytes
  impl : ServiceImpl
  init : ErrorCode → ErrorCode
  teardown : ErrorCode → ErrorCode

/-- `contains_function_at_ordinal`. -/
def Service.containsFunctionAtOrdinal (s : Service) (o : UInt16) : Bool :=
  match s.impl with
  | .basicProtocol => (basicProtocolTable.atOrdinal o).isSome
  | .application t => (t.atOrdinal o).isSome

theorem Service.containsFunctionAtOrdinal_basic {s : Service} (h : s.impl = .basicProtocol)
    (o : UInt16) : s.containsFunctionAtOrdinal o = (basicMethodAt o.toNat).isSome := by
  rw [containsFunctionAtOrdinal, h, ← basicProtocolTable_atOrdinal]

/-- `ff_produce_method_list`. -/
def ffProduceMethodList {M : Type} [Inhabited M] (t : OidContainer M) :
    Except Fault (List MethodEntry) :=
  (List.range t.size).mapM fun i =>
    match t.entryAtOrdinal (UInt32.ofNat i) with
    | none => .error (.assertion .dispatchTableHole)
    | some e => .ok ⟨e.ordinal.toUInt32, e.name.str⟩

/-- `produce_method_list`. -/
def Service.produceMethodList (s : Service) : Except Fault (List MethodEntry) :=
  match s.impl with
  | .basicProtocol => ffProduceMethodList basicProtocolTable
  | .application t => ffProduceMethodList t

/-- `basic_protocol<BasicProtocolImpl>`: its `init` and `teardown` clear the code. -/
def basicProtocolService : Service where
  name := ascii "basic_protocol"
  impl := .basicProtocol
  init _ := {}
  teardown _ := {}

/-- What a call of a service leaves behind: the client's error code, the service's cookie object,
whether it asked to disconnect the client, whether the request string parsed, and its output (the
serialised response of a method, or the result string of `subscribe`). -/
structure ServiceReply where
  errorCode : ErrorCode := {}
  cookieBase : Option ℕ := none
  requestsDisconect : Bool := false
  parses : Bool := true
  output : Option Bytes := none
  deriving DecidableEq

/-- The part of a reply that concerns the client data. -/
def ServiceReply.applyTo (r : ServiceReply) (cd : ClientData) : ClientData :=
  { cd with
    errorCode := r.errorCode
    shouldDisconect := cd.shouldDisconect || r.requestsDisconect }

end RblRpc
