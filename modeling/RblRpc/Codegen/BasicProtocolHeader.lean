import RblRpc.Codegen.ClientHeader

/-!
# The generated class of `basic_protocol`

The back end's own service is a generated class.  What the generator writes for
`BasicProtocol.proto` has the functions that the back end dispatches to.

* `basicProtocolFile` — the description of `BasicProtocol.proto`.
* `basicProtocolEnv` — its messages and `BasicProtocolImpl`, by their names.
* `GeneratedFor` — a generated class does what a service does.
* `generated_basic_protocol` — **the class generated from `BasicProtocol.proto` does what
  `basic_protocol` does**, in every state of the back end.
-/

namespace RblRpc

/-! ## The file -/

theorem basicProtocol_names : ∀ n ∈ ["basic_protocol", "hello", "list_services",
    "rpc_subscribe_service", "rpc_unsubscribe_service", "list_methods", "HelloRequest",
    "HelloResponse", "ListServicesRequest", "ListServicesResponse", "SubscribeServiceRequest",
    "SubscribeServiceResponse", "UnsubscribeServiceRequest", "UnsubscribeServiceResponse",
    "ListMethodsRequest", "ListMethodsResponse"], isProtoIdentifier (ascii n) = true := by
  simp only [List.forall_mem_cons, List.not_mem_nil, false_implies, implies_true, and_true]
  repeat rw [ascii_ofList]
  decide

/-- The service of `BasicProtocol.proto`. -/
def basicProtocolDescriptor : ServiceDescriptor where
  name := ⟨ascii "basic_protocol", basicProtocol_names _ (by simp)⟩
  methods :=
    [{ name := ⟨ascii "hello", basicProtocol_names _ (by simp)⟩
       inputType := ⟨ascii "HelloRequest", basicProtocol_names _ (by simp)⟩
       outputType := ⟨ascii "HelloResponse", basicProtocol_names _ (by simp)⟩ },
     { name := ⟨ascii "list_services", basicProtocol_names _ (by simp)⟩
       inputType := ⟨ascii "ListServicesRequest", basicProtocol_names _ (by simp)⟩
       outputType := ⟨ascii "ListServicesResponse", basicProtocol_names _ (by simp)⟩ },
     { name := ⟨ascii "rpc_subscribe_service", basicProtocol_names _ (by simp)⟩
       inputType := ⟨ascii "SubscribeServiceRequest", basicProtocol_names _ (by simp)⟩
       outputType := ⟨ascii "SubscribeServiceResponse", basicProtocol_names _ (by simp)⟩ },
     { name := ⟨ascii "rpc_unsubscribe_service", basicProtocol_names _ (by simp)⟩
       inputType := ⟨ascii "UnsubscribeServiceRequest", basicProtocol_names _ (by simp)⟩
       outputType := ⟨ascii "UnsubscribeServiceResponse", basicProtocol_names _ (by simp)⟩ },
     { name := ⟨ascii "list_methods", basicProtocol_names _ (by simp)⟩
       inputType := ⟨ascii "ListMethodsRequest", basicProtocol_names _ (by simp)⟩
       outputType := ⟨ascii "ListMethodsResponse", basicProtocol_names _ (by simp)⟩ }]

def basicProtocolFile : FileDescriptor where
  name := ascii "rpc/proto/BasicProtocol.proto"
  package :=
    [⟨ascii "rubble", rubble_isProtoIdentifier⟩,
      ⟨ascii "rpc", rpc_isProtoIdentifier⟩,
      ⟨ascii "basic_protocol", basicProtocol_names _ (by simp)⟩]
  services := [basicProtocolDescriptor]

/-! ## Messages and methods, by their names -/

inductive BasicMessage where
  | helloRequest (m : HelloRequest)
  | helloResponse (m : HelloResponse)
  | listServicesRequest (m : ListServicesRequest)
  | listServicesResponse (m : ListServicesResponse)
  | subscribeServiceRequest (m : SubscribeServiceRequest)
  | subscribeServiceResponse (m : SubscribeServiceResponse)
  | unsubscribeServiceRequest (m : UnsubscribeServiceRequest)
  | unsubscribeServiceResponse (m : UnsubscribeServiceResponse)
  | listMethodsRequest (m : ListMethodsRequest)
  | listMethodsResponse (m : ListMethodsResponse)

section

variable {A M : Type}

/-- A codec of some of the messages. -/
def MessageCodec.within (codec : MessageCodec A) (inj : A → M) (proj : M → Option A) :
    MessageCodec M where
  serializeToString m := (proj m).bind codec.serializeToString
  parseFromString b := ((codec.parseFromString b).1, inj (codec.parseFromString b).2)

/-- A method of some of the messages; the dispatch functions call it with its own only. -/
def methodWithin {I O : Type} (proj : M → Option I) (inj : O → M)
    (impl : BackEnd → ClientData → I → Except Fault (BackEnd × ClientData × O)) (b : BackEnd)
    (cd : ClientData) (m_in : M) : Except Fault (BackEnd × ClientData × M) :=
  match proj m_in with
  | none => .error .invalidPointer
  | some req => do
    let (b, cd, m_out) ← impl b cd req
    return (b, cd, inj m_out)

/-- A dispatch function does not see the other messages. -/
theorem runMethod_within {I O : Type} {input : MessageCodec I} {output : MessageCodec O}
    {injI : I → M} {projI : M → Option I} {injO : O → M} {projO : M → Option O}
    {impl : BackEnd → ClientData → I → Except Fault (BackEnd × ClientData × O)}
    (hinput : ∀ m, projI (injI m) = some m) (houtput : ∀ m, projO (injO m) = some m)
    (b : BackEnd) (cd : ClientData) :
    runMethod (input.within injI projI) (output.within injO projO)
        (methodWithin projI injO impl) b cd = runMethod input output impl b cd := by
  simp only [runMethod, MessageCodec.within]
  cases hparse : input.parseFromString cd.request.requestString with
  | mk ok req =>
    cases ok with
    | false => rfl
    | true =>
      simp only [methodWithin, hinput]
      cases impl b cd req with
      | error f => rfl
      | ok r =>
        obtain ⟨b', cd', m_out⟩ := r
        show Except.ok (b', storeResponse ((projO (injO m_out)).bind _) cd') = _
        rw [houtput]
        rfl

end

open BasicMessage BasicProtocolImpl

/-- The codecs of the requests and of the responses. -/
def basicMessageCodecs (codec : BasicProtocolCodec) : List (Bytes × MessageCodec BasicMessage) :=
  [(ascii "HelloRequest", codec.helloRequest.within helloRequest
      fun | helloRequest m => some m | _ => none),
    (ascii "HelloResponse", codec.helloResponse.within helloResponse
      fun | helloResponse m => some m | _ => none),
    (ascii "ListServicesRequest", codec.listServicesRequest.within listServicesRequest
      fun | listServicesRequest m => some m | _ => none),
    (ascii "ListServicesResponse", codec.listServicesResponse.within listServicesResponse
      fun | listServicesResponse m => some m | _ => none),
    (ascii "SubscribeServiceRequest", codec.subscribeServiceRequest.within subscribeServiceRequest
      fun | subscribeServiceRequest m => some m | _ => none),
    (ascii "SubscribeServiceResponse",
      codec.subscribeServiceResponse.within subscribeServiceResponse
        fun | subscribeServiceResponse m => some m | _ => none),
    (ascii "UnsubscribeServiceRequest",
      codec.unsubscribeServiceRequest.within unsubscribeServiceRequest
        fun | unsubscribeServiceRequest m => some m | _ => none),
    (ascii "UnsubscribeServiceResponse",
      codec.unsubscribeServiceResponse.within unsubscribeServiceResponse
        fun | unsubscribeServiceResponse m => some m | _ => none),
    (ascii "ListMethodsRequest", codec.listMethodsRequest.within listMethodsRequest
      fun | listMethodsRequest m => some m | _ => none),
    (ascii "ListMethodsResponse", codec.listMethodsResponse.within listMethodsResponse
      fun | listMethodsResponse m => some m | _ => none)]

/-- The methods of `BasicProtocolImpl`. -/
def basicMethodImpls (c : ClientPtr) (reply : ServiceReply) : List (Bytes ×
    (BackEnd → ClientData → BasicMessage → Except Fault (BackEnd × ClientData × BasicMessage))) :=
  [(ascii "hello", methodWithin (fun | helloRequest m => some m | _ => none) helloResponse
      fun b cd req => do
        let (cd, res) ← hello b cd req
        return (b, cd, res)),
    (ascii "list_services", methodWithin (fun | listServicesRequest m => some m | _ => none)
      listServicesResponse fun b cd _ => do return (b, cd, ← listServices b)),
    (ascii "rpc_subscribe_service",
      methodWithin (fun | subscribeServiceRequest m => some m | _ => none)
        subscribeServiceResponse (rpcSubscribeService c reply)),
    (ascii "rpc_unsubscribe_service",
      methodWithin (fun | unsubscribeServiceRequest m => some m | _ => none)
        unsubscribeServiceResponse (rpcUnsubscribeService c reply)),
    (ascii "list_methods", methodWithin (fun | listMethodsRequest m => some m | _ => none)
      listMethodsResponse fun b cd req => do
        let (cd, res) ← listMethods b cd req
        return (b, cd, res))]

/-- `BasicProtocolImpl` with its messages, for client `c`. -/
def basicProtocolEnv (codec : BasicProtocolCodec) (c : ClientPtr) (reply : ServiceReply) :
    DispatchEnv BasicMessage where
  codec name := ((basicMessageCodecs codec).lookup name).getD ⟨fun _ => none, fun _ =>
    (false, listServicesRequest {})⟩
  impl name := ((basicMethodImpls c reply).lookup name).getD fun _ _ _ => .error .invalidPointer

/-! ## The class -/

/-- `dispatch` of a generated class: the pointer in the table is called. -/
def dispatchGenerated {M : Type} (env : DispatchEnv M) (t : OidContainer (List DispatchStep))
    (b : BackEnd) (cd : ClientData) (m_in m_out : M) : Except Fault (BackEnd × ClientData) :=
  match t.atOrdinal cd.request.requestOrdinal.toUInt16 with
  | none => .error .invalidPointer
  | some body =>
    runDispatch env false body { backEnd := b, clientData := cd, m_in := m_in, m_out := m_out }

/-- The method of `BasicProtocol.proto` with a number. -/
def basicMethodDescriptor : BasicMethod → Option MethodDescriptor
  | .hello => basicProtocolDescriptor.methods[0]?
  | .listServices => basicProtocolDescriptor.methods[1]?
  | .rpcSubscribeService => basicProtocolDescriptor.methods[2]?
  | .rpcUnsubscribeService => basicProtocolDescriptor.methods[3]?
  | .listMethods => basicProtocolDescriptor.methods[4]?

/-- **A method of the file** runs as the back end's. -/
theorem runMethod_basicProtocolEnv (codec : BasicProtocolCodec) (c : ClientPtr)
    (reply : ServiceReply) (m : BasicMethod) {md : MethodDescriptor}
    (hmd : basicMethodDescriptor m = some md) (b : BackEnd) (cd : ClientData) :
    runMethod ((basicProtocolEnv codec c reply).codec md.inputType.str)
        ((basicProtocolEnv codec c reply).codec md.outputType.str)
        ((basicProtocolEnv codec c reply).impl md.name.str) b cd =
      dispatchBasic codec c reply m b cd := by
  cases m <;>
  · cases hmd
    simp only [basicProtocolEnv, basicMessageCodecs, basicMethodImpls]
    repeat rw [ascii_ofList]
    refine runMethod_within ?_ ?_ b cd <;> exact fun _ => rfl

/-- The methods of the file are those of the back end, with the same numbers. -/
theorem basicProtocolDescriptor_method (j : ℕ) :
    basicProtocolDescriptor.methods[j]? = (basicMethodAt j).bind basicMethodDescriptor := by
  rcases j with _ | _ | _ | _ | _ | j <;> rfl

theorem basicProtocolDescriptor_names :
    (basicProtocolDescriptor.methods.map fun md => md.name.str) =
      basicProtocolMethods.map (·.1) := rfl

/-- The function at a number of a table. -/
theorem TableOf.atOrdinal {M : Type} [Inhabited M] {ms : List (Bytes × M)} {t : OidContainer M}
    (h : TableOf ms t) (o : UInt16) : t.atOrdinal o = (ms[o.toNat]?).map (·.2) := by
  rw [ServiceClientFactory.atOrdinal_eq]
  cases hp : ms[o.toNat]? with
  | some p =>
    obtain ⟨e, he, -, hentry⟩ := h.entry _ p hp
    rw [he]
    exact congrArg some hentry
  | none =>
    have hlen := List.getElem?_eq_none_iff.mp hp
    cases he : t.at? o.toNat with
    | none => rfl
    | some e =>
      have hlt : o.toNat < t.size :=
        (List.getElem?_eq_some_iff.mp (OidContainer.at?_eq_some.mp he).1).1
      rw [h.size] at hlt
      omega

/-- The names decide what is listed. -/
theorem listing_eq {M : Type} (ms : List (Bytes × M)) :
    listing ms = (ms.map (·.1)).mapIdx fun j n => ⟨UInt32.ofNat j, foldCase n⟩ := by
  refine List.ext_getElem? fun i => ?_
  rw [listing, List.getElem?_mapIdx, List.getElem?_mapIdx, List.getElem?_map, Option.map_map]
  rfl

/-- A generated class with the table `t` does what a service does. -/
structure GeneratedFor {M : Type} (env : ClientPtr → ServiceReply → DispatchEnv M)
    (codec : BasicProtocolCodec) (t : OidContainer (List DispatchStep)) (s : Service) : Prop where
  dispatch : ∀ o c reply b cd m_in m_out,
    dispatchGenerated (env c reply) t b cd m_in m_out = s.dispatch codec o c reply b cd
  containsFunctionAtOrdinal : ∀ o, (t.atOrdinal o).isSome = s.containsFunctionAtOrdinal o
  produceMethodList : ffProduceMethodList t = s.produceMethodList

variable {boost : Boost} {printer : Printer}

theorem basicProtocolDescriptor_distinct :
    DistinctNames (basicProtocolDescriptor.methods.map fun md => md.name.str) := by
  simp only [basicProtocolDescriptor, List.map_cons, List.map_nil]
  repeat rw [ascii_ofList]
  decide

/-- The names of the file clash neither with each other nor with the words of the header. -/
theorem basicProtocolFile_names : basicProtocolFile.serverNames.Nodup ∧
    (∀ n ∈ basicProtocolFile.serverNames, n ∉ reservedWords) ∧
      basicProtocolName ∉ basicProtocolFile.serverNames.dropLast ∧
        MembersFit reservedWords
          (some basicProtocolDescriptor.skelName, basicProtocolDescriptor.members) := by
  decide +kernel

/-- **The class generated from `BasicProtocol.proto` does what `basic_protocol` does**, for every
request, client and state of the back end: its constructor returns, and its functions are those of
the back end's own service. -/
theorem generated_basic_protocol (hb : boost.Lawful) (hp : printer.Indents)
    (hname : basicProtocolFile.OneLine boost) (codec : BasicProtocolCodec) :
    ∃ t, dispatchTable (printer.written (serverFile boost basicProtocolFile).calls)
        basicProtocolDescriptor.name.str = some (.ok t) ∧
      GeneratedFor (basicProtocolEnv codec) codec t basicProtocolService := by
  have hheader := statements_serverFile hb hp hname
  obtain ⟨hnodup, hwords, hlast, hmembers⟩ := basicProtocolFile_names
  have hformed := wellFormed_server hheader hnodup hwords hlast fun sd hsd _ => by
    rw [List.mem_singleton.mp hsd]
    exact hmembers
  obtain ⟨body, htable, hruns⟩ :=
    describesService hheader hformed (List.mem_cons_self : basicProtocolDescriptor ∈ _)
  -- both tables have the names of the methods
  have hnames : (basicProtocolDescriptor.methods.map fun md =>
      (md.name.str, body md)).map (·.1) = basicProtocolMethods.map (·.1) := by
    rw [List.map_map]
    exact basicProtocolDescriptor_names
  have hdistinct : DistinctNames (basicProtocolMethods.map (·.1)) :=
    basicProtocolDescriptor_names ▸ basicProtocolDescriptor_distinct
  obtain ⟨t, ht, hof⟩ := exists_tableOf body basicProtocolDescriptor_distinct
    (by simp [basicProtocolDescriptor])
  have hbasic := tableOf_buildTable hdistinct basicProtocolTable_built
  have hat : ∀ o : UInt16, t.atOrdinal o =
      ((basicMethodAt o.toNat).bind basicMethodDescriptor).map body := by
    intro o
    rw [hof.atOrdinal, List.getElem?_map, basicProtocolDescriptor_method, Option.map_map]
    rfl
  have hmethod : ∀ m, ∃ md ∈ basicProtocolDescriptor.methods,
      basicMethodDescriptor m = some md := by
    intro m
    cases m <;> exact ⟨_, by simp [basicProtocolDescriptor], rfl⟩
  refine ⟨t, htable.trans (congrArg some ht), ?_, ?_, ?_⟩
  · intro o c reply b cd m_in m_out
    rw [dispatchGenerated, hat, Service.dispatch]
    simp only [basicProtocolService, basicProtocolTable_atOrdinal]
    cases hm : basicMethodAt cd.request.requestOrdinal.toUInt16.toNat with
    | none => rfl
    | some m =>
      obtain ⟨md, hmd, hdescribed⟩ := hmethod m
      simp only [Option.bind_some, hdescribed, Option.map_some]
      rw [hruns md hmd, runMethod_basicProtocolEnv codec c reply m hdescribed]
  · intro o
    rw [hat, Service.containsFunctionAtOrdinal_basic rfl]
    cases hm : basicMethodAt o.toNat with
    | none => rfl
    | some m =>
      obtain ⟨md, -, hdescribed⟩ := hmethod m
      rw [Option.bind_some, hdescribed]
      rfl
  · have hcount : basicProtocolMethods.length ≤ 65536 := by decide
    rw [Service.produceMethodList, basicProtocolService,
      hof.listed (by simp [basicProtocolDescriptor])]
    show _ = ffProduceMethodList basicProtocolTable
    rw [hbasic.listed hcount, listing_eq, listing_eq, hnames]

/-- With the printer and the file names of a run of protoc. -/
theorem generated_basic_protocol_sample : ∃ t,
    dispatchTable (Printer.indenting.written (serverFile Boost.posix basicProtocolFile).calls)
        basicProtocolDescriptor.name.str = some (.ok t) ∧
      GeneratedFor (basicProtocolEnv basicProtocolCodec) basicProtocolCodec t
        basicProtocolService := by
  refine generated_basic_protocol Boost.posix_lawful Printer.indenting_indents ⟨?_, ?_⟩
    basicProtocolCodec
  all_goals
    rw [basicProtocolFile, ascii_ofList]
    decide

end RblRpc
