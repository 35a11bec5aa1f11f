import RblRpc.Client.ClientService
import RblRpc.Client.MethodTables

/-!
# `ServiceClientFactory`

The factory of the generated clients: its constructor says hello and lists the services of the
back end, `subscribe_service` makes a client and binds its methods by name.  Every call leaves the
factory and the invoker as they are when it returns or throws.

* `basicProtocolClient`, `BasicProtocolClient.hello` … — the client of `basic_protocol`.
* `ServiceClientFactory.new` — the constructor.
* `getService`, `subscribeService`, `unsubscribeService`.
-/

namespace RblRpc

/-- `BasicProtocolMethodMap`. -/
def basicProtocolMethodMap : Except StdException (OidContainer UInt16) :=
  buildTable
    [(ascii "hello", 0), (ascii "list_services", 1), (ascii "rpc_subscribe_service", 2),
     (ascii "rpc_unsubscribe_service", 3), (ascii "list_methods", 4)]

/-- `ServiceClientFactory`: its `basic_protocol_client`, and its services with the client of each
one that was subscribed to. -/
structure ServiceClientFactory where
  name : Bytes
  bpc : ClientServiceBase
  services : OidContainer (Option ClientServiceBase)

/-- A factory and its invoker. -/
structure ClientSide (σ : Type) where
  factory : ServiceClientFactory
  invoker : σ

variable {F σ α : Type}

/-- A call that the factory makes on its `basic_protocol_client`. -/
def ClientSide.rpc (call : ClientServiceBase → ClientCall F σ α) : ClientCall F (ClientSide σ) α :=
  do
    let side ← get
    .zoom (·.invoker) (fun s side => { side with invoker := s }) (call side.factory.bpc)

theorem ClientSide.runOn_rpc (call : ClientServiceBase → ClientCall F σ α) (side : ClientSide σ) :
    (ClientSide.rpc call).runOn side =
      ((call side.factory.bpc).runOn side.invoker).map fun p =>
        (p.1, { side with invoker := p.2 }) := rfl

/-! ## The client of `basic_protocol` -/

namespace BasicProtocolClient

variable (inv : InvokerBase F σ) (codec : BasicProtocolCodec)

def hello (req : HelloRequest) (bpc : ClientServiceBase) : ClientCall F σ HelloResponse :=
  bpc.callMethod inv codec.helloRequest codec.helloResponse 0 req

def listServices (req : ListServicesRequest) (bpc : ClientServiceBase) :
    ClientCall F σ ListServicesResponse :=
  bpc.callMethod inv codec.listServicesRequest codec.listServicesResponse 1 req

def rpcSubscribeService (req : SubscribeServiceRequest) (bpc : ClientServiceBase) :
    ClientCall F σ SubscribeServiceResponse :=
  bpc.callMethod inv codec.subscribeServiceRequest codec.subscribeServiceResponse 2 req

def rpcUnsubscribeService (req : UnsubscribeServiceRequest) (bpc : ClientServiceBase) :
    ClientCall F σ UnsubscribeServiceResponse :=
  bpc.callMethod inv codec.unsubscribeServiceRequest codec.unsubscribeServiceResponse 3 req

def listMethods (req : ListMethodsRequest) (bpc : ClientServiceBase) :
    ClientCall F σ ListMethodsResponse :=
  bpc.callMethod inv codec.listMethodsRequest codec.listMethodsResponse 4 req

end BasicProtocolClient

/-- A call of the identifier classes, whose exceptions pass through. -/
def throwing (x : Except StdException α) : ClientCall F σ α := .ofExcept (x.mapError .std)

namespace ServiceClientFactory

open BasicProtocolClient

/-- `service_count`. -/
def serviceCount (f : ServiceClientFactory) : UInt16 := UInt16.ofNat f.services.size

/-- `(*e).entry()` of the service at `o`. -/
def client? (f : ServiceClientFactory) (o : UInt16) : Option ClientServiceBase :=
  (f.services.atOrdinal o).join

/-- Write through the pointer to the entry at `o`. -/
def setClient (o : UInt16) (client : ClientServiceBase) (f : ServiceClientFactory) :
    ServiceClientFactory :=
  { f with services := f.services.setAt o.toNat (some client) }

/-! ## The constructor -/

/-- The loop that records the services. -/
def recordServices : List ServiceEntry → OidContainer (Option ClientServiceBase) →
    Except StdException (OidContainer (Option ClientServiceBase))
  | [], c => .ok c
  | e :: es, c => do
    let id ← Oid.make e.serviceName e.serviceOrdinal
    match c.setEntry ⟨id, none⟩ with
    | (_, .error x) => .error x
    | (c', .ok _) => recordServices es c'

/-- The client of `basic_protocol`, with its ordinals. -/
def basicProtocolClient : ClientCall F σ ClientServiceBase := do
  let bpc ← throwing (ClientServiceBase.construct (basicProtocolMethods.map (·.1)))
  let m_method_map ← throwing basicProtocolMethodMap
  match { bpc with serviceOrdinal := some 0 }.remapOrdinals m_method_map with
  | .error f => .fault (.remap f)
  | .ok bpc => pure bpc

/-- `ServiceClientFactory`. -/
def new (inv : InvokerBase F σ) (codec : BasicProtocolCodec) (name : Bytes)
    (sourceType : SourceConnectionType) (destType : DestinationConnectionType) :
    ClientCall F σ ServiceClientFactory := do
  if !inv.isUseable (← get) then throw .backEnd
  else
    let bpc ← basicProtocolClient
    let hres ← hello inv codec ⟨sourceType, destType, name⟩ bpc
    if hres.getErrorType ≠ .noHelloErrors then throw .backEnd
    else
      let lres ← listServices inv codec {} bpc
      let services ← throwing (recordServices lres.services .empty)
      return { name := name, bpc := bpc, services := services }

/-! ## Clients of the services -/

/-- `m_services.EntryWithName(service_name)`, which has to find an entry. -/
def lookup (serviceName : Bytes) (f : ServiceClientFactory) :
    Except ClientException (OidContainerEntry (Option ClientServiceBase)) :=
  match f.services.findName serviceName with
  | .error x => .error (.std x)
  | .ok none => .error .backEnd
  | .ok (some e) => .ok e

def entryNamed (serviceName : Bytes) :
    ClientCall F (ClientSide σ) (OidContainerEntry (Option ClientServiceBase)) := do
  .ofExcept ((← get).factory.lookup serviceName)

/-- `get_service`. -/
def getService (serviceName : Bytes) : ClientCall F (ClientSide σ) ClientServiceBase := do
  match (← entryNamed serviceName).entry with
  | none => throw .backEnd
  | some client => return client

/-- The client at `o`, which has been made. -/
def clientAt (o : UInt16) : ClientCall F (ClientSide σ) ClientServiceBase := do
  .ofOption .nullPointer ((← get).factory.client? o)

/-- The client at `o` changes. -/
def putClient (o : UInt16) (client : ClientServiceBase) : ClientCall F (ClientSide σ) Unit :=
  modify fun side => { side with factory := side.factory.setClient o client }

/-- `*m_service_method_map[me.service_name()] = me.service_ordinal()`. -/
def bindMethod (o : UInt16) (me : MethodEntry) : ClientCall F (ClientSide σ) Unit := do
  let client ← clientAt o
  match ← throwing (client.serviceMethodMap.findName me.serviceName) with
  | none => .fault .nullPointer
  | some e => putClient o { client with
      serviceMethodMap := client.serviceMethodMap.setAt e.ordinal.toNat
        me.serviceOrdinal.toUInt16 }

/-- The loop that populates the method map. -/
def bindMethods (o : UInt16) : List MethodEntry → ClientCall F (ClientSide σ) Unit
  | [] => pure ()
  | me :: mes => do
    bindMethod o me
    bindMethods o mes

/-- The loop that looks for ordinals that are not bound.  It compares a promoted `uint16_t` with
`-1`, so it finds none. -/
def checkMethods (m : OidContainer UInt16) : List ℕ → ClientCall F (ClientSide σ) Unit
  | [] => pure ()
  | i :: is => do
    let ordinal ← .ofOption .nullPointer (m.atOrdinal (UInt16.ofNat i))
    if (ordinal.toNat : Int) = -1 then throw .backEnd
    else checkMethods m is

/-- The part of `subscribe_service` after the subscription: a new client with these methods, bound
to the methods of the service at `o`. -/
def makeClient (inv : InvokerBase F σ) (codec : BasicProtocolCodec) (methods : List Bytes)
    (o : UInt16) : ClientCall F (ClientSide σ) ClientServiceBase := do
  putClient o (← throwing (ClientServiceBase.construct methods))
  let lm_res ← ClientSide.rpc (listMethods inv codec ⟨o.toUInt32⟩)
  if lm_res.getError ≠ .noListMethodError then throw .backEnd
  else
    bindMethods o lm_res.methods
    let client ← clientAt o
    checkMethods client.serviceMethodMap (List.range client.serviceMethodMap.size)
    let client := { client with serviceOrdinal := some o, isSubscribed := true }
    putClient o client
    return client

/-- `subscribe_service`, for a client with these methods.  `requestData` is the serialised
`subscription_request_data`, `hasResponseData` is whether there is a `subscription_response_data`
to parse the result into. -/
def subscribeService (inv : InvokerBase F σ) (codec : BasicProtocolCodec) (serviceName : Bytes)
    (requestData : Option Bytes) (hasResponseData : Bool) (methods : List Bytes) :
    ClientCall F (ClientSide σ) ClientServiceBase := do
  let e ← entryNamed serviceName
  if e.entry.isSome then throw .backEnd
  else if (← get).factory.serviceCount ≤ e.ordinal then throw .backEnd
  else
    let res ← ClientSide.rpc (rpcSubscribeService inv codec ⟨e.ordinal.toUInt32, requestData⟩)
    if res.getError ≠ .noSubscribeServiceError then throw .backEnd
    else if res.subscribeResultString.getD [] ≠ [] ∧ hasResponseData = false then throw .backEnd
    else makeClient inv codec methods e.ordinal

/-- `unsubscribe_service`. -/
def unsubscribeService (inv : InvokerBase F σ) (codec : BasicProtocolCodec)
    (serviceName : Bytes) : ClientCall F (ClientSide σ) Unit := do
  let e ← entryNamed serviceName
  match e.entry with
  | none => throw .backEnd
  | some client =>
    let res ← ClientSide.rpc (rpcUnsubscribeService inv codec ⟨e.ordinal.toUInt32⟩)
    if res.getError ≠ .noSubscribeServiceError then throw .backEnd
    else putClient e.ordinal { client with isSubscribed := false }

/-! ## The client of `basic_protocol` is bound -/

/-- A `basic_protocol_client` with its ordinals. -/
structure Bound (bpc : ClientServiceBase) : Prop where
  serviceOrdinal : bpc.serviceOrdinal = some 0
  atOrdinal : ∀ i < 5, bpc.serviceMethodMap.atOrdinal (UInt16.ofNat i) = some (UInt16.ofNat i)

/-- What the constructor makes of its client, as far as its methods read it. -/
def boundOrdinals : Option (Option UInt16 × List (Option UInt16)) := do
  let bpc ← (ClientServiceBase.construct (basicProtocolMethods.map (·.1))).toOption
  let m ← basicProtocolMethodMap.toOption
  let bpc ← ({ bpc with serviceOrdinal := some 0 }.remapOrdinals m).toOption
  return (bpc.serviceOrdinal,
    (List.range 5).map fun i => bpc.serviceMethodMap.atOrdinal (UInt16.ofNat i))

theorem boundOrdinals_eq :
    boundOrdinals = some (some 0, (List.range 5).map fun i => some (UInt16.ofNat i)) := by
  decide +kernel

theorem Bound.requestOf {bpc : ClientServiceBase} (h : Bound bpc) {i : ℕ} (hi : i < 5)
    (b : Bytes) : bpc.requestOf (UInt16.ofNat i) b = some ⟨0, UInt32.ofNat i, b⟩ := by
  unfold ClientServiceBase.requestOf
  rw [h.serviceOrdinal, h.atOrdinal i hi]
  have hi' : (UInt16.ofNat i).toUInt32 = UInt32.ofNat i := by
    refine UInt32.toNat.inj ?_
    rw [UInt16.toNat_toUInt32, UInt16.toNat_ofNat', UInt32.toNat_ofNat']
    omega
  simp only [bind, Option.bind, hi']
  rfl

/-- **The constructor binds its client.** -/
theorem runOn_basicProtocolClient : ∃ bpc, Bound bpc ∧
    ∀ s : σ, (basicProtocolClient : ClientCall F σ ClientServiceBase).runOn s =
      .ok (.ok bpc, s) := by
  have h := boundOrdinals_eq
  unfold boundOrdinals at h
  unfold basicProtocolClient
  cases hc : ClientServiceBase.construct (basicProtocolMethods.map (·.1)) with
  | error x => rw [hc] at h; cases h
  | ok o =>
    cases hm : basicProtocolMethodMap with
    | error x => rw [hc, hm] at h; cases h
    | ok m =>
      cases hr : ({ o with serviceOrdinal := some 0 } : ClientServiceBase).remapOrdinals m with
      | error f =>
        rw [hc, hm] at h
        dsimp only [Except.toOption, bind, Option.bind] at h
        rw [hr] at h
        cases h
      | ok bpc =>
        rw [hc, hm] at h
        dsimp only [Except.toOption, bind, Option.bind] at h
        rw [hr] at h
        obtain ⟨hso, hat⟩ := Prod.mk.inj (Option.some.inj h)
        refine ⟨bpc, ⟨hso, fun i hi => ?_⟩, fun s => ?_⟩
        · exact List.map_eq_map_iff.mp hat i (List.mem_range.mpr hi)
        · simp only [throwing, Except.mapError, Call.runOn_bind, Call.runOn_ofExcept, hr,
            Call.runOn_pure]

/-! ## Entries -/

/-- What every call keeps of a factory. -/
structure Valid (f : ServiceClientFactory) : Prop where
  bpc : Bound f.bpc
  wf : f.services.WF

theorem Valid.setClient {f : ServiceClientFactory} (h : Valid f) (o : UInt16)
    (client : ClientServiceBase) : Valid (f.setClient o client) := ⟨h.bpc, h.wf.setAt _ _⟩

/-- A slot of the services, as `operator[]` reads it. -/
theorem atOrdinal_eq {E : Type} (c : OidContainer E) (o : UInt16) :
    c.atOrdinal o = (c.at? o.toNat).map (·.entry) := by
  rw [OidContainer.atOrdinal, OidContainer.entryAtOrdinal, UInt16.toNat_toUInt32]

/-- Only the client at `o` changes, if there is a service. -/
theorem client?_setClient (f : ServiceClientFactory) (o o' : UInt16) (client : ClientServiceBase) :
    (f.setClient o client).client? o' =
      if o' = o then (f.services.at? o.toNat).map fun _ => client else f.client? o' := by
  unfold client? ServiceClientFactory.setClient
  rw [atOrdinal_eq, OidContainer.at?_setAt]
  by_cases ho : o' = o
  · subst ho
    rw [if_pos rfl, if_pos rfl]
    cases f.services.at? o'.toNat <;> rfl
  · rw [if_neg fun h => ho (UInt16.toNat.inj h), if_neg ho, atOrdinal_eq]

@[simp] theorem runOn_entryNamed (serviceName : Bytes) (side : ClientSide σ) :
    (entryNamed serviceName : ClientCall F (ClientSide σ) _).runOn side =
      .ok (side.factory.lookup serviceName, side) := rfl

@[simp] theorem runOn_clientAt (o : UInt16) (side : ClientSide σ) :
    (clientAt o : ClientCall F (ClientSide σ) _).runOn side =
      (Call.ofOption .nullPointer (side.factory.client? o)).runOn side := rfl

/-- An entry that is found is in its own slot. -/
theorem Valid.lookup {f : ServiceClientFactory} (h : Valid f) {serviceName : Bytes}
    {e : OidContainerEntry (Option ClientServiceBase)} (he : f.lookup serviceName = .ok e) :
    f.services.at? e.ordinal.toNat = some e ∧ f.client? e.ordinal = e.entry := by
  unfold ServiceClientFactory.lookup at he
  split at he
  · cases he
  · cases he
  · rename_i e' hf
    cases he
    have hat := (h.wf.findName_eq_some hf).1
    refine ⟨hat, ?_⟩
    rw [client?, atOrdinal_eq, hat]
    rfl

/-- The check never throws, as no promoted `uint16_t` is `-1`.  It returns when the map has no
hole. -/
theorem runOn_checkMethods_iff {m : OidContainer UInt16} {is : List ℕ} {side side' : ClientSide σ}
    {res : Except ClientException Unit} :
    (checkMethods m is : ClientCall F (ClientSide σ) Unit).runOn side = .ok (res, side') ↔
      res = .ok () ∧ side = side' ∧ ∀ i ∈ is, (m.atOrdinal (UInt16.ofNat i)).isSome = true := by
  induction is with
  | nil =>
    constructor
    · intro h
      cases h
      exact ⟨rfl, rfl, fun i hi => absurd hi List.not_mem_nil⟩
    · rintro ⟨rfl, rfl, -⟩
      rfl
  | cons i is ih =>
    rw [List.forall_mem_cons]
    unfold checkMethods
    cases hv : m.atOrdinal (UInt16.ofNat i) with
    | none =>
      constructor
      · intro h
        cases h
      · rintro ⟨-, -, hfalse, -⟩
        cases hfalse
    | some v =>
      rw [Call.runOn_bind_of_ok (Call.runOn_ofOption_some _ v side), if_neg (by omega), ih,
        Option.isSome_some]
      simp only [true_and]

end ServiceClientFactory

end RblRpc
