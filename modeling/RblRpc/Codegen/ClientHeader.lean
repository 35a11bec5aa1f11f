import RblRpc.Client.Binding
import RblRpc.Codegen.ServerHeader

/-!
# The client's header, and both

The class of a client has its entries and its methods.  Bound to the list of the methods of a
service it fits together with the class of the service, which another file can describe.

* `compiles_client` — the header compiles.
* `GeneratedClient` — what it has to say of a client.
* `client_header` — **it says that of every client.**
* `generated_call_runs_method` — a call on the one header runs the method in the other.
-/

namespace RblRpc

open ServiceClientFactory Template

variable {boost : Boost} {printer : Printer} {file : FileDescriptor} {inc : Included}

/-! ## The client's header -/

namespace ServiceDescriptor

variable (sd : ServiceDescriptor)

def clientEntries : List Statement :=
  sd.methods.zipIdx.map fun method => .setMethodEntry method.1.name.str method.2

def methodBlocks : List Block :=
  sd.methods.zipIdx.map fun method =>
    (.clientMethod method.1.name.str method.1.inputType.str method.1.outputType.str,
      (methodSteps method.2).map .methodStep)

def clientBlock : Block :=
  (.clientClass sd.clientName, sd.clientEntries ++ sd.methodBlocks.flatMap Block.statements)

theorem clientStatements_eq : clientStatements sd = sd.clientBlock.statements := by
  simp [clientStatements, clientBlock, clientEntries, methodBlocks, Block.statements,
    List.flatMap_map]

theorem clientEntries_inside : ∀ s ∈ sd.clientEntries, s.beginsMethod = false :=
  List.forall_mem_map.mpr fun _ _ => rfl

theorem methodBlocks_sound : ∀ b ∈ sd.methodBlocks, b.Sound Statement.beginsMethod :=
  List.forall_mem_map.mpr fun _ _ => ⟨rfl, List.forall_mem_map.mpr fun _ _ => rfl⟩

theorem clientBlock_sound : sd.clientBlock.Sound Statement.declares := by
  refine ⟨rfl, ?_⟩
  simp only [clientBlock, clientEntries, methodBlocks, Block.statements, List.forall_mem_append,
    List.forall_mem_cons, List.forall_mem_map, List.forall_mem_flatMap]
  exact ⟨fun _ _ => rfl, fun _ _ => ⟨rfl, fun _ _ => rfl⟩⟩

/-- No namespace is opened in the class. -/
theorem clientStatements_inside : ∀ s ∈ clientStatements sd, s.nameSpace? = none := by
  simp only [clientStatements, List.forall_mem_append, List.forall_mem_cons, List.forall_mem_map,
    List.forall_mem_flatMap, Statement.nameSpace?, implies_true, and_self]

/-- The members of the class are the methods. -/
theorem clientBlock_members : sd.clientBlock.2.filterMap Statement.member? = sd.members := by
  have hentries : sd.clientEntries.filterMap Statement.member? = [] :=
    List.filterMap_eq_nil_iff.mpr (List.forall_mem_map.mpr fun _ _ => rfl)
  have hmethod : ∀ method : MethodDescriptor × ℕ, (Block.statements
      (.clientMethod method.1.name.str method.1.inputType.str method.1.outputType.str,
        (methodSteps method.2).map .methodStep)).filterMap Statement.member? =
      [(method.1.name.str, method.1.inputType.str, method.1.outputType.str)] := fun _ => rfl
  rw [clientBlock, List.filterMap_append, hentries, List.nil_append, List.filterMap_flatMap,
    methodBlocks, List.flatMap_map, List.flatMap_congr fun method _ => hmethod method,
    ← List.map_eq_flatMap, members]
  conv_rhs => rw [← List.zipIdx_map_fst 0 sd.methods, List.map_map]
  rfl

end ServiceDescriptor

/-- What the client's header of a file consists of. -/
def ClientText (boost : Boost) (file : FileDescriptor) (header : Bytes) : Prop :=
  statements header = openedNamespaces (boost.tokens file.packageName) ++
    file.services.flatMap clientStatements

section

variable {boost : Boost} {header : Bytes} {file : FileDescriptor} {sd : ServiceDescriptor}

theorem blocks_client (h : ClientText boost file header) :
    blocks header = file.services.map ServiceDescriptor.clientBlock := by
  have hblocks : file.services.flatMap clientStatements =
      (file.services.map ServiceDescriptor.clientBlock).flatMap Block.statements := by
    rw [List.flatMap_map]
    exact List.flatMap_congr fun sd _ => sd.clientStatements_eq
  rw [blocks, h, hblocks, sections_append (openedNamespaces_inside _)]
  exact sections_blocks (List.forall_mem_map.mpr fun sd _ => sd.clientBlock_sound)

theorem declaredNames_client (h : ClientText boost file header) :
    declaredNames header = file.clientNames := by
  rw [declaredNames, blocks_client h, List.filterMap_map]
  exact congrFun List.filterMap_eq_map _

theorem classMembers_client (h : ClientText boost file header) :
    classMembers header = file.services.map fun sd => (some sd.clientName, sd.members) := by
  rw [classMembers, blocks_client h, List.map_map]
  exact List.map_congr_left fun sd _ => Prod.ext rfl sd.clientBlock_members

/-- **The client's header compiles** if the services, and the methods of each, have different
names. -/
theorem compiles_client {inc : Included} (h : ClientText boost file header) (hs : boost.Splits)
    (hfile : file.PlainClient boost inc)
    (hservices : (file.services.map fun sd => sd.name.str).Nodup)
    (hmethods : ∀ sd ∈ file.services, (sd.methods.map fun md => md.name.str).Nodup) :
    Compiles inc header := by
  have hnames := declaredNames_client h
  have hmembers := classMembers_client h
  have hnodup : file.clientNames.Nodup := by
    have hclients : file.clientNames =
        (file.services.map fun sd => sd.name.str).map fun n => n ++ ascii "_client" := by
      rw [List.map_map]
      rfl
    rw [hclients]
    exact hservices.map fun _ _ => List.append_cancel_right
  have hlast : basicProtocolName ∉ file.clientNames.dropLast := by
    intro hmem
    obtain ⟨sd, -, heq⟩ := List.mem_map.mp (List.dropLast_subset _ hmem)
    exact sd.clientName_ne heq
  refine ⟨?_, ⟨hnames ▸ hnodup, hnames ▸ fun n hn => (hfile.names n hn).1, hnames ▸ hlast, ?_⟩,
    hfile.messages, hnames ▸ fun n hn => (hfile.names n hn).2, ?_⟩
  · rw [h]
    exact hfile.nameSpaces hs
      (List.forall_mem_flatMap.mpr fun sd _ => sd.clientStatements_inside)
  · rw [hmembers]
    refine List.forall_mem_map.mpr fun sd hsd => hfile.membersFit hsd (hfile.classes sd hsd) ?_
    rw [ServiceDescriptor.members, List.map_map]
    exact hmethods sd hsd
  · rw [hmembers]
    exact List.forall_mem_map.mpr fun sd hsd =>
      List.forall_mem_map.mpr fun md hmd => hfile.types sd hsd md hmd

/-- The class of a client has its entries and its methods. -/
theorem clientBody_client (h : ClientText boost file header)
    (hnames : (file.services.map fun sd => sd.name.str).Nodup) (hsd : sd ∈ file.services) :
    clientBody header sd.name.str = sd.clientBlock.2 := by
  rw [clientBody, blocks_client h, List.flatMap_map]
  have hkey : ∀ sd' : ServiceDescriptor, (if sd'.clientBlock.1 =
      .clientClass (sd.name.str ++ ascii "_client") then sd'.clientBlock.2 else []) =
        if sd'.name.str = sd.name.str then sd'.clientBlock.2 else [] := by
    intro sd'
    by_cases hname : sd'.name.str = sd.name.str
    · rw [if_pos hname, if_pos (by
        rw [ServiceDescriptor.clientBlock, ServiceDescriptor.clientName, hname])]
    · have hne : sd'.clientBlock.1 ≠ .clientClass (sd.name.str ++ ascii "_client") :=
        fun heq => hname (List.append_cancel_right (Statement.clientClass.inj heq))
      rw [if_neg hname, if_neg hne]
  rw [List.flatMap_congr fun sd' _ => hkey sd']
  exact flatMap_of_key hnames hsd

theorem clientEntries_client (h : ClientText boost file header)
    (hnames : (file.services.map fun sd => sd.name.str).Nodup) (hsd : sd ∈ file.services) :
    clientEntries header sd.name.str =
      sd.methods.zipIdx.map fun method => (method.1.name.str, method.2) := by
  rw [clientEntries, clientBody_client h hnames hsd, ServiceDescriptor.clientBlock,
    takeWhile_blocks sd.clientEntries_inside sd.methodBlocks_sound,
    ServiceDescriptor.clientEntries, List.filterMap_map]
  exact congrFun List.filterMap_eq_map _

/-- The definitions of a method. -/
theorem methodDefinitions_client (h : ClientText boost file header)
    (hformed : WellFormed reservedWords header)
    (hnames : (file.services.map fun sd => sd.name.str).Nodup) (hsd : sd ∈ file.services)
    (m : Bytes) :
    methodDefinitions header sd.name.str m =
      foundAt (sd.methods.zipIdx.map fun method => (method.1.name.str,
        method.1.inputType.str, method.1.outputType.str, methodSteps method.2)) m := by
  rw [methodDefinitions, if_pos hformed, clientBody_client h hnames hsd,
    ServiceDescriptor.clientBlock, sections_append sd.clientEntries_inside,
    sections_blocks sd.methodBlocks_sound, ServiceDescriptor.methodBlocks, List.filterMap_map,
    foundAt, List.filterMap_map]
  refine List.filterMap_congr fun method _ => ?_
  have hsteps : ((methodSteps method.2).map Statement.methodStep).filterMap
      Statement.methodStep? = methodSteps method.2 := by
    rw [List.filterMap_map]
    exact List.filterMap_some
  simp only [Function.comp, hsteps]

end

/-- **The header says what a client is**: it compiles, its constructor fills the map of the methods,
and each method, called with any request over any invoker, does what a generated method does with
its number. -/
structure GeneratedClient (inc : Included) (header : Bytes) (sd : ServiceDescriptor) : Prop where
  compiles : Compiles inc header
  map : methodMap header sd.name.str =
    some ((ClientServiceBase.construct (sd.methods.map fun md => md.name.str)).map
      (·.serviceMethodMap))
  methods : ∀ i md, sd.methods[i]? = some md → ∃ input output body,
    methodDefinitions header sd.name.str md.name.str = [(input, output, body)] ∧
    ∀ (F σ M : Type) (inv : InvokerBase F σ) (codec : Bytes → MessageCodec M) (req res : M)
      (o : ClientServiceBase),
      runClientMethod inv (codec input) (codec output) req o false body { res := res } =
        o.callMethod inv (codec md.inputType.str) (codec md.outputType.str) (UInt16.ofNat i) req

/-- The constructor of a client fills the map of the methods. -/
theorem methodMap_client {header : Bytes} {sd : ServiceDescriptor}
    (h : ClientText boost file header) (hformed : WellFormed reservedWords header)
    (hnames : (file.services.map fun sd => sd.name.str).Nodup) (hsd : sd ∈ file.services) :
    methodMap header sd.name.str =
      some ((ClientServiceBase.construct (sd.methods.map fun md => md.name.str)).map
        (·.serviceMethodMap)) := by
  rw [methodMap, guard, if_pos hformed, clientEntries_client h hnames hsd, List.map_map,
    ClientServiceBase.construct]
  have hbuilt := setEntries_zipIdx (fun md : MethodDescriptor => md.name.str)
    (fun _ => ClientServiceBase.unbound) sd.methods 0 .empty
  have hmade : (sd.methods.map fun md => md.name.str).map
      (fun name => (name, ClientServiceBase.unbound)) =
        sd.methods.map fun md => (md.name.str, ClientServiceBase.unbound) := by
    rw [List.map_map]
    rfl
  rw [hmade]
  refine congrArg some (hbuilt.trans ?_)
  show buildTable _ = _
  cases buildTable (sd.methods.map fun md => (md.name.str, ClientServiceBase.unbound)) <;> rfl

/-- The one definition of a method. -/
theorem methodDefinition_client {header : Bytes} {sd : ServiceDescriptor}
    (h : ClientText boost file header) (hformed : WellFormed reservedWords header)
    (hnames : (file.services.map fun sd => sd.name.str).Nodup) (hsd : sd ∈ file.services)
    (hmethods : (sd.methods.map fun md => md.name.str).Nodup) {i : ℕ} {md : MethodDescriptor}
    (hmd : sd.methods[i]? = some md) :
    methodDefinitions header sd.name.str md.name.str =
      [(md.inputType.str, md.outputType.str, methodSteps i)] := by
  have hkeys : ((sd.methods.zipIdx.map fun method => (method.1.name.str,
      method.1.inputType.str, method.1.outputType.str, methodSteps method.2)).map (·.1)).Nodup := by
    rw [← List.zipIdx_map_fst 0 sd.methods, List.map_map] at hmethods
    rwa [List.map_map]
  have hmem : (md.name.str, md.inputType.str, md.outputType.str, methodSteps i) ∈
      sd.methods.zipIdx.map fun method => (method.1.name.str,
        method.1.inputType.str, method.1.outputType.str, methodSteps method.2) :=
    List.mem_map_of_mem (f := fun method : MethodDescriptor × ℕ => (method.1.name.str,
      method.1.inputType.str, method.1.outputType.str, methodSteps method.2))
      (List.mem_zipIdx_iff_getElem?.mpr hmd : (md, i) ∈ sd.methods.zipIdx)
  exact (methodDefinitions_client h hformed hnames hsd _).trans (foundAt_of_mem hkeys hmem)

/-- A header that compiles says what a client is. -/
theorem Compiles.generatedClient {header : Bytes} {sd : ServiceDescriptor}
    (hc : Compiles inc header) (h : ClientText boost file header)
    (hnames : (file.services.map fun sd => sd.name.str).Nodup) (hsd : sd ∈ file.services)
    (hmethods : (sd.methods.map fun md => md.name.str).Nodup) : GeneratedClient inc header sd := by
  have hformed := hc.wellFormed.mono (List.subset_append_left _ _)
  refine ⟨hc, methodMap_client h hformed hnames hsd, fun i md hmd => ?_⟩
  refine ⟨_, _, _, methodDefinition_client h hformed hnames hsd hmethods hmd, ?_⟩
  intro F σ M inv codec req res o
  exact runClientMethod_methodSteps inv _ _ req o i res

theorem shopClients_plain :
    (shopFile [orders, recasedCart]).PlainClient Boost.posix shopIncluded where
  toPlain := shopFile_plain (by decide +kernel)
  names := by decide +kernel
  classes := by decide +kernel

/-- A method in the client's header, with its ordinals known, is one exchange of a request for the
function at `v`. -/
def CallsAt (header : Bytes) (sd : ServiceDescriptor) (md : MethodDescriptor)
    (m : OidContainer UInt16) (v : UInt16) : Prop :=
  ∃ input output body, methodDefinitions header sd.name.str md.name.str = [(input, output, body)] ∧
    ∀ (F σ M : Type) (inv : InvokerBase F σ) (codec : Bytes → MessageCodec M) (req res : M)
      (o : ClientServiceBase) (so : UInt16) (s : σ), o.serviceOrdinal = some so →
      o.serviceMethodMap = m →
      (runClientMethod inv (codec input) (codec output) req o false body { res := res }).runOn s =
        ((inv.exchange ⟨so.toUInt32, v.toUInt32,
            ((codec md.inputType.str).serializeToString req).getD []⟩ s).mapError .invoker).map
          fun p => (ClientServiceBase.readResponse (codec md.outputType.str) p.1, p.2)

/-- The function at `v` in a table of the server's header is that of a method. -/
def RunsAt (t : OidContainer (List DispatchStep)) (v : UInt16) (md : MethodDescriptor) : Prop :=
  ∃ body, t.atOrdinal v = some body ∧
    ∀ (M : Type) (env : DispatchEnv M) (b : BackEnd) (cd : ClientData) (m_in m_out : M),
      runDispatch env false body { backEnd := b, clientData := cd, m_in := m_in, m_out := m_out } =
        runMethod (env.codec md.inputType.str) (env.codec md.outputType.str)
          (env.impl md.name.str) b cd

/-- **Headers that say what a service and its client are fit together**, after the binding loop. -/
theorem GeneratedClient.meets {serverHeader clientHeader : Bytes} {sd sd' : ServiceDescriptor}
    {t : OidContainer (List DispatchStep)} {mes : List MethodEntry}
    {m₀ m : OidContainer UInt16} {i : ℕ} {md : MethodDescriptor}
    {inc inc' : Included} (hclient : GeneratedClient inc clientHeader sd)
    (hserver : GeneratedService inc' serverHeader sd')
    (hnames : DistinctNames (sd.methods.map fun md => md.name.str))
    (hnames' : DistinctNames (sd'.methods.map fun md => md.name.str))
    (hsame : SameNames (sd'.methods.map fun md => md.name.str)
      (sd.methods.map fun md => md.name.str))
    (htable : dispatchTable serverHeader sd'.name.str = some (.ok t))
    (hlist : ffProduceMethodList t = .ok mes)
    (hmap : methodMap clientHeader sd.name.str = some (.ok m₀)) (hrebound : Rebound mes m₀ m)
    (hmd : sd.methods[i]? = some md) :
    ∃ md' ∈ sd'.methods, ∃ v, foldCase md'.name.str = foldCase md.name.str ∧
      CallsAt clientHeader sd md m v ∧ RunsAt t v md' := by
  obtain ⟨-, body, hbuilt, hruns⟩ := hserver
  obtain ⟨input, output, steps, hdef, hcall⟩ := hclient.methods i md hmd
  have hbuilt : buildTable (sd'.methods.map fun md => (md.name.str, body md)) = .ok t :=
    Option.some.inj (hbuilt.symm.trans htable)
  have hkeys : (sd'.methods.map fun md => (md.name.str, body md)).map (·.1) =
      sd'.methods.map fun md => md.name.str := by
    rw [List.map_map]
    rfl
  obtain ⟨made, hmade, rfl⟩ : ∃ made,
      ClientServiceBase.construct (sd.methods.map fun md => md.name.str) = .ok made ∧
        made.serviceMethodMap = m₀ := by
    have hmap := Option.some.inj (hclient.map.symm.trans hmap)
    cases hmade : ClientServiceBase.construct (sd.methods.map fun md => md.name.str) with
    | error x =>
      rw [hmade] at hmap
      cases hmap
    | ok made =>
      rw [hmade] at hmap
      exact ⟨made, rfl, Except.ok.inj hmap⟩
  have hn : (sd.methods.map fun md => md.name.str)[i]? = some md.name.str := by
    rw [List.getElem?_map, hmd]
    rfl
  obtain ⟨name, fn, v, hmem, hfold, hv, hfn⟩ := rebound_ordinal hbuilt hlist hmade hrebound
    (by rwa [hkeys]) hnames (by rwa [hkeys]) hn
  obtain ⟨md', hmd', heq⟩ := List.mem_map.mp hmem
  cases heq
  refine ⟨md', hmd', v, hfold, ⟨input, output, steps, hdef, ?_⟩, body md', hfn, hruns md' hmd'⟩
  intro F σ M inv codec req res o so s hso hom
  rw [hcall]
  refine ClientServiceBase.runOn_callMethod s ?_
  rw [ClientServiceBase.requestOf, hso, hom]
  simp [hv]

/-- **A call on the client's header runs the method of its name** in the server's header, whatever
the order of the methods in the two files, over any invoker and implementation: the class of the
client is bound to the list of the methods of the service, and each of its methods sends one request
with the ordinal at which the service has the function of that name. -/
theorem generated_call_runs_method {server client : FileDescriptor} {sd sd' : ServiceDescriptor}
    {inc' : Included} {t : OidContainer (List DispatchStep)} {mes : List MethodEntry}
    {m₀ m : OidContainer UInt16}
    (hb : boost.Lawful) (hs : boost.Splits) (hp : printer.Indents)
    (hserver : server.PlainServer boost inc') (hclient : client.PlainClient boost inc)
    (hnodup : server.serverNames.Nodup) (hmessages : ∀ n ∈ server.serverNames, n ∉ inc'.messages)
    (hclients : (client.services.map fun sd => sd.name.str).Nodup)
    (hsd' : sd' ∈ server.services) (hsd : sd ∈ client.services)
    (hnames' : DistinctNames (sd'.methods.map fun md => md.name.str))
    (hmethods : ∀ sd ∈ client.services, DistinctNames (sd.methods.map fun md => md.name.str))
    (hsame : SameNames (sd'.methods.map fun md => md.name.str)
      (sd.methods.map fun md => md.name.str))
    (htable : dispatchTable (printer.written (serverFile boost server).calls) sd'.name.str =
      some (.ok t)) (hlist : ffProduceMethodList t = .ok mes)
    (hmap : methodMap (printer.written (clientFile boost client).calls) sd.name.str =
      some (.ok m₀)) (hrebound : Rebound mes m₀ m) :
    ∀ md ∈ sd.methods, ∃ md' ∈ sd'.methods, ∃ v, foldCase md'.name.str = foldCase md.name.str ∧
      CallsAt (printer.written (clientFile boost client).calls) sd md m v ∧ RunsAt t v md' := by
  intro md hmd
  obtain ⟨i, hi⟩ := List.mem_iff_getElem?.mp hmd
  have hdistinct : ∀ sd ∈ client.services, (sd.methods.map fun md => md.name.str).Nodup :=
    fun sd hsd => (hmethods sd hsd).nodup.of_map _
  have hheader := statements_clientFile hb hp hclient.oneLine
  have hheader' := statements_serverFile hb hp hserver.oneLine
  have hcompiles := compiles_client hheader hs hclient hclients hdistinct
  have hcompiles' := (compiles_server hheader' hs hserver).mpr ⟨hnodup, hmessages⟩
  exact (hcompiles.generatedClient hheader hclients hsd (hdistinct sd hsd)).meets
    (hcompiles'.generatedService hheader' hsd') (hmethods sd hsd) hnames' hsame htable hlist hmap
    hrebound hi

/-- The container of methods whose names differ. -/
theorem exists_tableOf {α M : Type} [Inhabited M] {name : α → Bytes} (value : α → M) {xs : List α}
    (h : DistinctNames (xs.map name)) (hcount : xs.length ≤ 65536) :
    ∃ t, buildTable (xs.map fun x => (name x, value x)) = .ok t ∧
      TableOf (xs.map fun x => (name x, value x)) t := by
  have hnames : (xs.map fun x => (name x, value x)).map (·.1) = xs.map name := by
    rw [List.map_map]
    rfl
  rw [← hnames] at h
  obtain ⟨t, ht⟩ : ∃ t, buildTable (xs.map fun x => (name x, value x)) = .ok t :=
    setMethods_total OidContainer.WF.empty (fun p hp => h.legal p.1 (List.mem_map_of_mem hp))
      (by simpa using hcount)
  exact ⟨t, ht, tableOf_buildTable h ht⟩

/-- A client of `cart` from a file that has its methods in another order and case. -/
theorem generated_call_runs_method_sample : ∃ t m, ∀ md ∈ recasedCart.methods,
    ∃ md' ∈ cart.methods, ∃ v, foldCase md'.name.str = foldCase md.name.str ∧
      CallsAt (Printer.indenting.written
        (clientFile Boost.posix (shopFile [orders, recasedCart])).calls) recasedCart md m v ∧
      RunsAt t v md' := by
  have hserver : (shopFile [cart, orders]).PlainServer Boost.posix shopIncluded :=
    shopFile_plainServer (by decide +kernel) (by decide +kernel)
  have hnames : (shopFile [cart, orders]).serverNames.Nodup ∧
      ∀ n ∈ (shopFile [cart, orders]).serverNames, n ∉ shopIncluded.messages := by decide +kernel
  have hdistinct : DistinctNames (cart.methods.map fun md => md.name.str) := by decide +kernel
  have hclients : ∀ sd ∈ [orders, recasedCart],
      DistinctNames (sd.methods.map fun md => md.name.str) := by decide +kernel
  have hsame : SameNames (cart.methods.map fun md => md.name.str)
      (recasedCart.methods.map fun md => md.name.str) := by
    have hswap : (cart.methods.map fun md => md.name.str).map foldCase =
        ((recasedCart.methods.map fun md => md.name.str).map foldCase).reverse := by decide +kernel
    intro n
    rw [hswap, List.mem_reverse]
  have hheader := statements_clientFile Boost.posix_lawful Printer.indenting_indents
    shopClients_plain.oneLine
  have hheader' := statements_serverFile Boost.posix_lawful Printer.indenting_indents
    hserver.oneLine
  have hnodup : ((shopFile [orders, recasedCart]).services.map fun sd => sd.name.str).Nodup := by
    decide +kernel
  have hcart : cart ∈ (shopFile [cart, orders]).services := List.mem_cons_self
  have hrecased : recasedCart ∈ (shopFile [orders, recasedCart]).services :=
    List.mem_cons_of_mem _ List.mem_cons_self
  -- the constructors
  have htable := dispatchTable_server hheader' (((compiles_server hheader'
    Boost.posix_splits hserver).mpr hnames).wellFormed.mono (List.subset_append_left _ _)) hcart
  have hmap := methodMap_client hheader ((compiles_client hheader
    Boost.posix_splits shopClients_plain hnodup fun sd hsd =>
      (hclients sd hsd).nodup.of_map _).wellFormed.mono (List.subset_append_left _ _)) hnodup
    hrecased
  obtain ⟨t, ht, hof⟩ := exists_tableOf (fun md : MethodDescriptor =>
    dispatchSteps md.inputType.str md.outputType.str md.name.str) hdistinct (by decide)
  obtain ⟨m₀, hm₀, hof₀⟩ := exists_tableOf (fun _ => ClientServiceBase.unbound)
    (hclients recasedCart (by simp)) (by decide)
  -- `add_item` is bound to the second slot, and `clear` to the first
  obtain ⟨e, he, hname, -⟩ := hof₀.entry 0 _ rfl
  obtain ⟨e', he', hname', -⟩ := hof₀.entry 1 _ rfl
  have hordinal := hof₀.wf.ordinal 0 e he
  have hordinal' := hof₀.wf.ordinal 1 e' he'
  have hadd : foldCase (ascii "Add_Item") = foldCase (foldCase (ascii "add_item")) := by
    decide +kernel
  have hclear : foldCase (ascii "CLEAR") = foldCase (foldCase (ascii "clear")) := by
    decide +kernel
  have hkept : (m₀.setAt e'.ordinal.toNat 0).at? e.ordinal.toNat = some e := by
    rw [OidContainer.at?_setAt, hordinal, hordinal', he]
    rfl
  have hsecond : Rebound [⟨1, foldCase (ascii "clear")⟩] (m₀.setAt e'.ordinal.toNat 0)
      ((m₀.setAt e'.ordinal.toNat 0).setAt e.ordinal.toNat 1) :=
    .cons (hof₀.wf.setAt _ _) hkept (hname.trans hclear)
      (.nil ((hof₀.wf.setAt _ _).setAt _ _))
  have hrebound : Rebound [⟨0, foldCase (ascii "add_item")⟩, ⟨1, foldCase (ascii "clear")⟩] m₀
      ((m₀.setAt e'.ordinal.toNat 0).setAt e.ordinal.toNat 1) :=
    .cons hof₀.wf (by rw [hordinal', he']) (hname'.trans hadd) hsecond
  refine ⟨t, _, generated_call_runs_method Boost.posix_lawful Boost.posix_splits
    Printer.indenting_indents hserver shopClients_plain hnames.1 hnames.2 hnodup hcart hrecased
    hdistinct hclients hsame
    (htable.trans (congrArg some ht)) (hof.listed (by decide)) ?_ hrebound⟩
  rw [hmap, ClientServiceBase.construct, List.map_map]
  show some ((buildTable (recasedCart.methods.map fun md =>
    (md.name.str, ClientServiceBase.unbound)) >>= _).map _) = _
  rw [hm₀]
  rfl

end RblRpc
