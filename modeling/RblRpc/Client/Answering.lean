import RblRpc.Backend.Addressing
import RblRpc.Client.Binding
import RblRpc.Client.Connecting
import RblRpc.Client.GeneratedTables
import RblRpc.Client.MethodSets
import RblRpc.Client.Refusal

/-!
# Calls that are answered

Over a back end that is up and running the exchanges of `subscribe_service` end, and so do the calls
of the client that it makes.

* `FactoryCall.keeps` — what exchanges and changes of the clients keep, the calls on a factory keep.
* `Started.live`, `keptBy_live` — the back end of a factory is up and running, and stays so.
* `Service.Declares`, `ClassOf` — the class of a client of a service.
* `makeClient_total` — **a client of the class of the service is bound.**
* `application_answered` — **a call of a subscribed client is dispatched, and answered.**
-/

namespace RblRpc

open World ServiceClientFactory Transition BackEnd

/-! ## What the calls on a factory keep -/

namespace ServiceClientFactory

section Keeps

variable {F σ : Type} {P : ClientSide σ → Prop} {inv : InvokerBase F σ} {codec : BasicProtocolCodec}

/-- A property that exchanges keep, and changes of the client at `o`. -/
structure KeptAt (inv : InvokerBase F σ) (o : UInt16) (P : ClientSide σ → Prop) : Prop where
  exchange : ∀ side r res i, P side → inv.exchange r side.invoker = .ok (res, i) →
    P { side with invoker := i }
  setClient : ∀ side client, P side → P { side with factory := side.factory.setClient o client }

variable {o : UInt16}

theorem KeptAt.rpc {I O : Type} (h : KeptAt inv o P) (input : MessageCodec I)
    (output : MessageCodec O) (methodId : UInt16) (req : I) :
    Call.Keeps P (ClientSide.rpc fun bpc => bpc.callMethod inv input output methodId req) := by
  intro side answer side' hs hrun
  obtain ⟨i, hcall, rfl⟩ := runOn_rpc_eq_ok.mp hrun
  obtain ⟨r, res, hex⟩ := ClientServiceBase.exchange_of_callMethod hcall
  exact h.exchange side r res i hs hex

theorem keeps_entryNamed (serviceName : Bytes) :
    Call.Keeps P (entryNamed serviceName : ClientCall F (ClientSide σ) _) :=
  .bind .get fun _ => .ofExcept _

theorem keeps_clientAt (o : UInt16) :
    Call.Keeps P (clientAt o : ClientCall F (ClientSide σ) _) :=
  .bind .get fun _ => .ofOption _ _

theorem KeptAt.putClient (h : KeptAt inv o P) (client : ClientServiceBase) :
    Call.Keeps P (putClient o client : ClientCall F (ClientSide σ) _) :=
  .modify fun side hs => h.setClient side client hs

theorem KeptAt.bindMethods (h : KeptAt inv o P) (mes : List MethodEntry) :
    Call.Keeps P (bindMethods o mes : ClientCall F (ClientSide σ) _) := by
  induction mes with
  | nil => exact .pure _
  | cons me mes ih =>
    refine .bind (.bind (keeps_clientAt o) fun client => .bind (.ofExcept _) fun found => ?_)
      fun _ => ih
    cases found with
    | none => exact .fault _
    | some e => exact h.putClient _

theorem keeps_checkMethods (m : OidContainer UInt16) (is : List ℕ) :
    Call.Keeps P (checkMethods m is : ClientCall F (ClientSide σ) _) := by
  induction is with
  | nil => exact .pure _
  | cons i is ih => exact .bind (.ofOption _ _) fun ordinal => .ite (.throw _) ih

theorem KeptAt.makeClient (h : KeptAt inv o P) (methods : List Bytes) :
    Call.Keeps P (makeClient inv codec methods o) := by
  refine .bind (.ofExcept _) fun made => .bind (h.putClient _) fun _ =>
    .bind (h.rpc _ _ _ _) fun lm => .ite (.throw _) ?_
  exact .bind (h.bindMethods _) fun _ => .bind (keeps_clientAt _) fun client =>
    .bind (keeps_checkMethods _ _) fun _ => .bind (h.putClient _) fun _ => .pure _

/-- A property that exchanges keep, and changes of the clients. -/
def KeptBy (inv : InvokerBase F σ) (P : ClientSide σ → Prop) : Prop := ∀ o, KeptAt inv o P

theorem KeptBy.subscribeService (h : KeptBy inv P) (serviceName : Bytes)
    (requestData : Option Bytes) (hasResponseData : Bool) (methods : List Bytes) :
    Call.Keeps P (subscribeService inv codec serviceName requestData hasResponseData methods) := by
  refine .bind (keeps_entryNamed _) fun e => .ite (.throw _) (.bind .get fun side =>
    .ite (.throw _) (.bind ((h e.ordinal).rpc _ _ _ _) fun res => ?_))
  exact .ite (.throw _) (.ite (.throw _) ((h e.ordinal).makeClient _))

theorem keeps_getService (serviceName : Bytes) :
    Call.Keeps P (getService serviceName : ClientCall F (ClientSide σ) _) := by
  refine .bind (keeps_entryNamed _) fun e => ?_
  cases e.entry with
  | none => exact .throw _
  | some client => exact .pure _

theorem KeptBy.unsubscribeService (h : KeptBy inv P) (serviceName : Bytes) :
    Call.Keeps P (unsubscribeService inv codec serviceName) := by
  refine .bind (keeps_entryNamed _) fun e => ?_
  cases e.entry with
  | none => exact .throw _
  | some client =>
    exact .bind ((h e.ordinal).rpc _ _ _ _) fun res => .ite (.throw _) ((h e.ordinal).putClient _)

end Keeps

end ServiceClientFactory

variable {codec : BasicProtocolCodec} {c : ClientPtr} {resets : Bool} {reply : ServiceReply}
  {side side' : ClientSide ServerLink} {l : ServerLink} {w : World} {o : UInt16}
  {bpc : ClientServiceBase}

/-! ## A back end that stays up -/

/-- **What exchanges and changes of the clients keep, the calls on a factory keep.** -/
theorem FactoryCall.keeps {P : ClientSide ServerLink → Prop} {call : FactoryCall}
    (h : ∀ reply, KeptBy (lossFree codec c resets reply) P) (hs : P side)
    (hrun : call.run codec c resets side = .ok side') : P side' := by
  cases call with
  | getService serviceName =>
    obtain ⟨⟨res, side₁⟩, hcall, rfl⟩ := Call.map_eq_ok.mp hrun
    exact keeps_getService _ _ _ _ hs hcall
  | subscribeService serviceName requestData hasResponseData methods reply =>
    obtain ⟨⟨res, side₁⟩, hcall, rfl⟩ := Call.map_eq_ok.mp hrun
    exact (h reply).subscribeService _ _ _ _ _ _ _ hs hcall
  | unsubscribeService serviceName reply =>
    obtain ⟨⟨res, side₁⟩, hcall, rfl⟩ := Call.map_eq_ok.mp hrun
    exact (h reply).unsubscribeService _ _ _ _ hs hcall

/-- **The back end stays up and running.** -/
theorem keptBy_live : KeptBy (lossFree codec c resets reply)
    fun side => Live codec c side.invoker.world := fun _ => {
  exchange := fun _ _ _ _ hs hex => hs.exchange (exchange_lossFree hex)
  setClient := fun _ _ hs => hs }

/-- **A client that was made stays.** -/
theorem keptBy_client (o : UInt16) : KeptBy (lossFree codec c resets reply)
    fun side => (side.factory.client? o).isSome = true := by
  refine fun o' => ⟨fun _ _ _ _ hs _ => hs, fun side client hs => ?_⟩
  dsimp only
  rw [client?_setClient]
  split
  · rename_i heq
    subst heq
    rw [Option.isSome_map]
    rw [client?, atOrdinal_eq] at hs
    cases hat : side.factory.services.at? o.toNat with
    | none =>
      rw [hat] at hs
      cases hs
    | some e => rfl
  · exact hs

/-- **A back end over which the constructor returned is up and running.** -/
theorem Started.live (h : Started codec c resets side) (hcodec : codec.Lawful) :
    Live codec c side.invoker.world := by
  obtain ⟨sourceType, backendType, l, name, source, dest, reply, hreach, hnew⟩ := h
  obtain ⟨huse, hbpc, hres, l₁, lres, hhello, hno, hlist, -⟩ := runOn_new hnew
  obtain ⟨hadv₁, -⟩ := runOn_hello (sound_reaches hreach) hcodec hbpc hhello hno
  obtain ⟨hadv₂, -⟩ := runOn_listServices hadv₁.serving hcodec hbpc hlist
  -- the exchanges of the two calls
  obtain ⟨r, res, hex⟩ := ClientServiceBase.exchange_of_callMethod hhello
  have hex₁ := exchange_lossFree hex
  obtain ⟨string, hser, -⟩ := hcodec.listServicesRequest.roundTrip {} rfl
  unfold BasicProtocolClient.listServices at hlist
  rw [ClientServiceBase.runOn_callMethod l₁ (r := ⟨0, UInt32.ofNat 1, string⟩)
    (by rw [hser]; exact hbpc.requestOf (by decide) string)] at hlist
  obtain ⟨⟨resp, l₂⟩, hex, heq⟩ := Call.map_eq_ok.mp hlist
  obtain ⟨-, rfl⟩ := Prod.mk.inj heq
  have hex₂ := exchange_lossFree (mapError_eq_ok.mp hex)
  obtain ⟨s, b, b', cd, cd', hran, -⟩ := hadv₁.serving.ran (m := .listServices) le_rfl rfl hex₂
  obtain ⟨w₁, hrequest, -⟩ := exchange_eq_ok hex₁
  have hmem : c ∈ l.world.backEnd.connectedClients := by
    have hg := (attempt_eq_ok.mp hrequest).1
    simp only [enabled, Bool.and_eq_true, decide_eq_true_eq] at hg
    exact hg.1
  have hctl := hadv₁.control.trans hadv₂.control
  refine ⟨⟨_, _, (hreach.trans hadv₁.reaches).trans hadv₂.reaches⟩,
    exchange_connected hex₂ (exchange_connected hex₁ hmem), (exchange_ok hex₂).2.1,
    hadv₂.serving.accepting, ?_, ?_⟩
  · rw [World.running, hctl.isSealed, hadv₂.control.stopped, hran.running]
    exact Bool.and_eq_true_iff.mpr ⟨huse, rfl⟩
  · have hzero := hran.service
    rw [serviceAt, ← hadv₂.control.services] at hzero
    exact ⟨s, hzero⟩

/-! ## The exchanges of `subscribe_service` -/

/-- What `subscribe` of the service at `o` does; that of `basic_protocol` does nothing. -/
def answering (o : UInt16) (reply : ServiceReply) : ServiceReply := if o = 0 then {} else reply

/-- The cookie store has a slot for each service. -/
theorem World.Live.isActive (h : Live codec c w) (ho : (w.backEnd.serviceAt o).isSome = true) :
    w.backEnd.clientServiceCookies.isActive o.toNat = true := by
  have hrunning := h.running
  simp only [World.running, Bool.and_eq_true] at hrunning
  exact (inRange_of_serviceAt h.storeSound.registry h.storeSound.activated hrunning.1 ho).activated

/-- **A method of `basic_protocol` that returns on what it finds is answered**, for a client that is
established. -/
theorem World.Live.answered (h : Live codec c w) (resets : Bool) (reply : ServiceReply) {k : ℕ}
    {m : BasicMethod} (hm : basicMethodAt k = some m) (hk : k ≠ 0) (string : Bytes)
    (hest : (w.data c).clientEstablished = true)
    (hreturns : ∀ b cd, Finds ⟨0, UInt32.ofNat k, string⟩ c w b cd →
      ∃ b' cd', dispatchBasic codec c reply m b cd = .ok (b', cd')) :
    ∃ res w', w.exchange codec c resets ⟨0, UInt32.ofNat k, string⟩ reply = .ok (res, w') := by
  obtain ⟨hadm, hdispatch⟩ :=
    h.admitted reply hm string (hest.trans (decide_eq_true hk).symm)
  obtain ⟨s, hs⟩ := h.basic
  obtain ⟨sourceType, backendType, hreach⟩ := h.reaches
  obtain ⟨⟨res, w'⟩, hex⟩ := exchange_answered resets reply (sound_reaches hreach) h.storeSound
    h.member h.idle h.accepting h.running hadm hs (fun b cd hfinds => by
      obtain ⟨b', cd', hd⟩ := hreturns b cd hfinds
      exact ⟨b', cd', (hdispatch s hs b cd hfinds.request).trans hd⟩)
  exact ⟨res, w', hex⟩

/-- **`rpc_subscribe_service`** of a service that exists is answered. -/
theorem runOn_rpcSubscribeService_total {s : Service} (resets : Bool) (reply : ServiceReply)
    (hcodec : codec.Lawful) (hbpc : Bound bpc) (h : Live codec c l.world)
    (hest : (l.world.data c).clientEstablished = true)
    (hs : l.world.backEnd.serviceAt o = some (some s)) (data : Option Bytes) :
    ∃ p, (BasicProtocolClient.rpcSubscribeService (lossFree codec c resets reply) codec
      ⟨o.toUInt32, data⟩ bpc).runOn l = .ok p := by
  obtain ⟨string, hser, hparse⟩ := hcodec.subscribeServiceRequest.roundTrip ⟨o.toUInt32, data⟩ rfl
  have hact := h.isActive (o := o) (by rw [hs]; rfl)
  obtain ⟨res, w', hex⟩ := h.answered (k := 2) (m := .rpcSubscribeService) resets reply rfl
    (by decide) string hest (fun b cd hfinds => by
      have hs' : b.serviceAt o = some (some s) := by
        rw [serviceAt, hfinds.services]
        exact hs
      have hstands : b.Stands o := ⟨⟨s, hs'⟩, (hfinds.shape.isActive _).trans hact⟩
      have hreturns : ∃ out, BasicProtocolImpl.rpcSubscribeService c reply b cd
          ⟨o.toUInt32, data⟩ = .ok out :=
        BasicProtocolImpl.rpcSubscribeService_total c reply cd fun _ => by
          rw [UInt16.toUInt16_toUInt32]
          exact hstands
      obtain ⟨⟨b', cd', out⟩, himpl⟩ := hreturns
      simp only [dispatchBasic, runMethod, hfinds.request, hparse, himpl]
      exact ⟨_, _, rfl⟩)
  obtain ⟨l', -, hcall⟩ := runOn_callMethod_total codec.subscribeServiceResponse hbpc
    (by decide) hser hex
  exact ⟨_, hcall⟩

/-- **`list_methods`** of a service without holes in its table is answered. -/
theorem runOn_listMethods_total {s : Service} {mes : List MethodEntry} (resets : Bool)
    (reply : ServiceReply) (hcodec : codec.Lawful) (hbpc : Bound bpc) (h : Live codec c l.world)
    (hest : (l.world.data c).clientEstablished = true)
    (hs : l.world.backEnd.serviceAt o = some (some s)) (hmes : s.produceMethodList = .ok mes) :
    ∃ p, (BasicProtocolClient.listMethods (lossFree codec c resets reply) codec
      ⟨o.toUInt32⟩ bpc).runOn l = .ok p := by
  obtain ⟨string, hser, hparse⟩ := hcodec.listMethodsRequest.roundTrip ⟨o.toUInt32⟩ rfl
  obtain ⟨res, w', hex⟩ := h.answered (k := 4) (m := .listMethods) resets reply rfl
    (by decide) string hest (fun b cd hfinds => by
      have hs' : b.serviceAt o = some (some s) := by
        rw [serviceAt, hfinds.services]
        exact hs
      rw [← UInt16.toUInt16_toUInt32 o] at hs'
      have hreturns : ∃ out, BasicProtocolImpl.listMethods b cd ⟨o.toUInt32⟩ = .ok out := by
        refine (BasicProtocolImpl.listMethods_ok_iff fun _ => ⟨s, hs'⟩).mpr ?_
        rintro ⟨-, s', hs'', hhole⟩
        cases hs'.symm.trans hs''
        rw [s.produceMethodList_ok_iff.mp ⟨mes, hmes⟩] at hhole
        cases hhole
      obtain ⟨⟨cd', out⟩, himpl⟩ := hreturns
      simp only [dispatchBasic, runMethod, hfinds.request, hparse, himpl]
      exact ⟨_, _, rfl⟩)
  obtain ⟨l', -, hcall⟩ := runOn_callMethod_total codec.listMethodsResponse hbpc
    (by decide) hser hex
  exact ⟨_, hcall⟩

/-! ## The class of a client -/

/-- The functions of a service, as it declares them. -/
def Service.Declares (s : Service) (fs : List (Bytes × (BasicMethod ⊕ ApplicationMethod))) : Prop :=
  match s.impl with
  | .basicProtocol => fs = basicProtocolMethods.map fun p => (p.1, .inl p.2)
  | .application t => ∃ ms, buildTable ms = .ok t ∧ fs = ms.map fun p => (p.1, .inr p.2)

/-- The class with these methods is one of clients of the service. -/
structure ClassOf (s : Service) (fs : List (Bytes × (BasicMethod ⊕ ApplicationMethod)))
    (methods : List Bytes) : Prop where
  declares : s.Declares fs
  server : DistinctNames (fs.map (·.1))
  client : DistinctNames methods
  sameNames : SameNames (fs.map (·.1)) methods

section Tables

variable {M : Type} [Inhabited M] {ms : List (Bytes × M)} {t : OidContainer M}
  {methods : List Bytes} {mes : List MethodEntry}

/-- The table of a service that declares different names is listed. -/
theorem produced_of_distinct (htable : buildTable ms = .ok t)
    (hserver : DistinctNames (ms.map (·.1))) :
    ms.length ≤ 65536 ∧ ∃ mes, ffProduceMethodList t = .ok mes := by
  have hnames : ∀ p ∈ ms, p.1 ≠ [] ∧ (0 : UInt8) ∉ p.1 := by
    intro p hp
    have hlegal := hserver.legal p.1 (List.mem_map_of_mem hp)
    exact ⟨hlegal.nonempty, hlegal.nulFree⟩
  obtain ⟨hlen, hmax⟩ := setMethods_size .empty hnames rfl (Nat.zero_le _) htable
  have hcount : ms.length ≤ 65536 := by
    rw [hlen] at hmax
    exact Nat.le_trans (Nat.le_add_left _ _) hmax
  exact ⟨hcount, _, (tableOf_buildTable hserver htable).listed hcount⟩

/-- A class with the names of a service can be constructed, and its map has no hole. -/
theorem construct_of_sameNames {names : List Bytes} (hcount : names.length ≤ 65536)
    (hserver : DistinctNames names) (hclient : DistinctNames methods)
    (hsame : SameNames names methods) :
    ∃ made, ClientServiceBase.construct methods = .ok made ∧
      TableOf (methods.map fun name => (name, ClientServiceBase.unbound))
        made.serviceMethodMap := by
  have hlen : methods.length = names.length := by
    have hperm := (List.perm_ext_iff_of_nodup hclient.nodup hserver.nodup).mpr
      fun n => (hsame n).symm
    simpa using hperm.length_eq
  have hnames : (methods.map fun name => (name, ClientServiceBase.unbound)).map (·.1) =
      methods := by
    rw [List.map_map]
    exact List.map_id _
  obtain ⟨u, hu⟩ : ∃ u, buildTable (methods.map fun name => (name, ClientServiceBase.unbound)) =
      .ok u := by
    refine setMethods_total .empty (fun p hp => ?_) ?_
    · obtain ⟨n, hn, rfl⟩ := List.mem_map.mp hp
      exact hclient.legal n hn
    · rw [List.length_map, hlen]
      exact (Nat.zero_add _).trans_le hcount
  exact ⟨_, bind_eq_ok.mpr ⟨u, hu, rfl⟩, tableOf_buildTable (by rw [hnames]; exact hclient) hu⟩

/-- Every method that the service lists is one of the class. -/
theorem known_of_sameNames {m : OidContainer UInt16} (htable : buildTable ms = .ok t)
    (hserver : DistinctNames (ms.map (·.1))) (hsame : SameNames (ms.map (·.1)) methods)
    (hlist : ffProduceMethodList t = .ok mes)
    (hmap : TableOf (methods.map fun name => (name, ClientServiceBase.unbound)) m) :
    Known mes m := by
  have ht := tableOf_buildTable hserver htable
  intro me hme
  obtain ⟨j, x, hx, rfl⟩ := (mem_ffProduceMethodList ht.wf hlist me).mp hme
  have hj : j < ms.length := by
    rw [← ht.size]
    exact (List.getElem?_eq_some_iff.mp (OidContainer.at?_eq_some.mp hx).1).1
  obtain ⟨x', hx', hstr, -⟩ := ht.entry j _ (List.getElem?_eq_getElem hj)
  cases hx.symm.trans hx'
  -- the method of the class with this name
  have hmem : foldCase ms[j].1 ∈ methods.map foldCase :=
    (hsame _).mp (List.mem_map_of_mem (List.mem_map_of_mem (List.getElem_mem hj)))
  obtain ⟨n, hn, hfold⟩ := List.mem_map.mp hmem
  obtain ⟨i, hi⟩ := List.mem_iff_getElem?.mp hn
  obtain ⟨e, he, hname, -⟩ := hmap.entry i (n, ClientServiceBase.unbound) (by
    rw [List.getElem?_map, hi]
    rfl)
  obtain ⟨k, hk, hkstr, -⟩ := (legalName_of_at? hx).construct_eq
  refine ⟨i, e, he, MethodEntry.names_iff.mpr (hk.trans (congrArg Except.ok (OidName.ext ?_)))⟩
  rw [hkstr, hstr, foldCase_foldCase, hname, hfold]

end Tables

/-- **What is bound of a client of the class of a service.** -/
structure TablesMatched (s : Service) (fs : List (Bytes × (BasicMethod ⊕ ApplicationMethod)))
    (methods : List Bytes) (mes : List MethodEntry) (made : ClientServiceBase) : Prop where
  listed : s.produceMethodList = .ok mes
  constructed : ClientServiceBase.construct methods = .ok made
  known : Known mes made.serviceMethodMap
  full : ∀ k < made.serviceMethodMap.size, (made.serviceMethodMap.at? k).isSome = true
  binds : ∀ m, Rebound mes made.serviceMethodMap m → ∀ i n, methods[i]? = some n →
    ∃ name f v, (name, f) ∈ fs ∧ foldCase name = foldCase n ∧
      m.atOrdinal (UInt16.ofNat i) = some v ∧ s.functionAt v = some f

/-- The tables of a service of either kind, and of a class of its clients. -/
theorem matched_of_table {M : Type} [Inhabited M] {s : Service} {ms : List (Bytes × M)}
    {t : OidContainer M} {inj : M → BasicMethod ⊕ ApplicationMethod} {methods : List Bytes}
    (hlisted : s.produceMethodList = ffProduceMethodList t)
    (hfunction : ∀ v, s.functionAt v = (t.atOrdinal v).map inj)
    (htable : buildTable ms = .ok t) (hserver : DistinctNames (ms.map (·.1)))
    (hclient : DistinctNames methods) (hsame : SameNames (ms.map (·.1)) methods) :
    ∃ mes made, TablesMatched s (ms.map fun p => (p.1, inj p.2)) methods mes made := by
  obtain ⟨hcount, mes, hmes⟩ := produced_of_distinct htable hserver
  obtain ⟨made, hmade, hmap⟩ := construct_of_sameNames (by rw [List.length_map]; exact hcount)
    hserver hclient hsame
  refine ⟨mes, made, hlisted.trans hmes, hmade,
    known_of_sameNames htable hserver hsame hmes hmap, fun k hk => ?_, fun m hm i n hn => ?_⟩
  · rw [hmap.size] at hk
    obtain ⟨e, he, -⟩ := hmap.entry k _ (List.getElem?_eq_getElem hk)
    rw [he]
    rfl
  · obtain ⟨name, fn, v, hmem, hfold, hv, hfn⟩ :=
      rebound_ordinal htable hmes hmade hm hserver hclient hsame hn
    refine ⟨name, inj fn, v, List.mem_map.mpr ⟨(name, fn), hmem, rfl⟩, hfold, hv, ?_⟩
    rw [hfunction, hfn]
    rfl

/-- **A class of the service matches it.** -/
theorem ClassOf.matched {s : Service} {fs : List (Bytes × (BasicMethod ⊕ ApplicationMethod))}
    {methods : List Bytes} (h : ClassOf s fs methods) :
    ∃ mes made, TablesMatched s fs methods mes made := by
  obtain ⟨hdeclares, hserver, hclient, hsame⟩ := h
  have hnames : ∀ (M : Type) (ms : List (Bytes × M)) (inj : M → BasicMethod ⊕ ApplicationMethod),
      (ms.map fun p => (p.1, inj p.2)).map (·.1) = ms.map (·.1) := by
    intro M ms inj
    rw [List.map_map]
    rfl
  cases himpl : s.impl with
  | basicProtocol =>
    rw [Service.Declares, himpl] at hdeclares
    subst hdeclares
    rw [hnames] at hserver hsame
    exact matched_of_table (by rw [Service.produceMethodList, himpl])
      (fun v => by rw [Service.functionAt, himpl]) basicProtocolTable_built hserver hclient hsame
  | application t =>
    rw [Service.Declares, himpl] at hdeclares
    obtain ⟨ms, htable, rfl⟩ := hdeclares
    rw [hnames] at hserver hsame
    exact matched_of_table (by rw [Service.produceMethodList, himpl])
      (fun v => by rw [Service.functionAt, himpl]) htable hserver hclient hsame

/-- **The end of `subscribe_service` returns**, for a client of a class of the service. -/
theorem makeClient_total {s : Service} {fs : List (Bytes × (BasicMethod ⊕ ApplicationMethod))}
    {methods : List Bytes} {mes : List MethodEntry} {made : ClientServiceBase} (resets : Bool)
    (reply : ServiceReply) (hcodec : codec.Lawful) (hmatched : TablesMatched s fs methods mes made)
    (hlegal : ∀ n ∈ methods, n ≠ [] ∧ (0 : UInt8) ∉ n)
    (h : Live codec c side.invoker.world) (hserving : Serving c side.invoker.world)
    (hvalid : Valid side.factory) (hlists : side.factory.Lists o)
    (hs : side.invoker.world.backEnd.serviceAt o = some (some s)) :
    ∃ client side', (makeClient (lossFree codec c resets reply) codec methods o).runOn side =
      .ok (.ok client, side') := by
  have honly := onlyClient_setClient side.factory o made
  have hbpc := (hvalid.onlyClient honly).bpc
  have hlt : o.toNat < side.invoker.world.backEnd.services.size := by
    rw [serviceAt_eq] at hs
    obtain ⟨e, he, -⟩ := Option.map_eq_some_iff.mp hs
    exact (List.getElem?_eq_some_iff.mp (OidContainer.at?_eq_some.mp he).1).1
  obtain ⟨⟨res, i⟩, hcall⟩ := runOn_listMethods_total resets reply hcodec hbpc h
    hserving.established hs hmatched.listed
  obtain ⟨-, -, s', mes', hs', hmes', rfl⟩ := runOn_listMethods hserving hcodec hbpc hlt hcall
  cases hs.symm.trans hs'
  cases hmatched.listed.symm.trans hmes'
  -- the factory with the new client, and the back end after the listing
  obtain ⟨side₁, hside₁⟩ : ∃ side₁ : ClientSide ServerLink,
    side₁ = ⟨side.factory.setClient o made, i⟩ := ⟨_, rfl⟩
  have hrpc : (ClientSide.rpc (BasicProtocolClient.listMethods (lossFree codec c resets reply) codec
      ⟨o.toUInt32⟩)).runOn { side with factory := side.factory.setClient o made } =
        .ok (.ok { error := some .noListMethodError, methods := mes }, side₁) :=
    runOn_rpc_eq_ok.mpr ⟨i, hcall, hside₁⟩
  have hlists₁ : side₁.factory.Lists o := by
    rw [hside₁]
    exact honly.lists hlists
  have hclient₁ : side₁.factory.client? o = some made := by
    rw [hside₁]
    exact hlists.client?_setClient made
  obtain ⟨m, side₂, hbind, -⟩ : ∃ m side₂,
      (bindClient o mes : ClientCall LinkFault _ _).runOn side₁ =
        .ok (.ok { made with serviceMethodMap := m }, side₂) ∧
      Announces mes made.serviceMethodMap m :=
    runOn_bindClient_known hlists₁ hclient₁
      (construct_wf hlegal hmatched.constructed) (construct_size hlegal hmatched.constructed)
      hmatched.known hmatched.full
  rw [makeClient_eq, hmatched.constructed,
    Call.runOn_bind_of_ok (a := made) (t := side) rfl,
    Call.runOn_bind_of_ok (runOn_putClient o made side), Call.runOn_bind_of_ok hrpc,
    if_neg (by exact not_not.mpr rfl), Call.runOn_bind_of_ok hbind,
    Call.runOn_bind_of_ok (runOn_putClient _ _ _)]
  exact ⟨_, _, rfl⟩

/-! ## The calls of a client -/

/-- An exchange of the transport that ends. -/
theorem lossFree_exchange {r : ClientRequest} {res : ClientResponse} {w' : World}
    (h : l.world.exchange codec c resets r reply = .ok (res, w')) :
    ∃ l', l'.world = w' ∧ (lossFree codec c resets reply).exchange r l = .ok (res, l') := by
  refine ⟨{ world := w', request := r, response := res }, rfl, ?_⟩
  simp only [InvokerBase.exchange, lossFree, bind, Except.bind, h]
  rfl

/-- A request for a function of a service passes the checks: the client is subscribed, unless it is
`basic_protocol`, and it is not a second hello. -/
theorem admitted_of_functionAt {s : Service} {v : UInt16} {f : BasicMethod ⊕ ApplicationMethod}
    (string : Bytes) (hest : (w.data c).clientEstablished = true)
    (hs : w.backEnd.serviceAt o = some (some s)) (hf : s.functionAt v = some f)
    (hsub : o ≠ 0 → w.backEnd.clientServiceCookies.isSubscribed o.toNat c = true)
    (hno : ¬ClientRequest.isHello ⟨o.toUInt32, v.toUInt32, string⟩) :
    Admitted c w.backEnd (w.received c ⟨o.toUInt32, v.toUInt32, string⟩) := by
  refine ⟨⟨s, ?_, ?_⟩, fun hne => ?_, fun h0 h1 => absurd ⟨h0, h1⟩ hno, fun _ => hest⟩
  · show w.backEnd.serviceAt o.toUInt32.toUInt16 = some (some s)
    rw [UInt16.toUInt16_toUInt32]
    exact hs
  · show s.containsFunctionAtOrdinal v.toUInt32.toUInt16 = true
    rw [UInt16.toUInt16_toUInt32, s.containsFunctionAtOrdinal_eq, hf]
    rfl
  · show w.backEnd.clientServiceCookies.isSubscribed o.toUInt32.toUInt16.toNat c = true
    rw [UInt16.toUInt16_toUInt32]
    refine hsub fun ho => hne ?_
    rw [ho]
    rfl

/-- **A function of an application that is dispatched returns**, where the client has a cookie. -/
theorem application_returns (codec : BasicProtocolCodec) (reply : ServiceReply) {s : Service}
    {v : UInt16} {f : BasicMethod ⊕ ApplicationMethod} {b : BackEnd} {cd : ClientData}
    (happ : s.impl ≠ .basicProtocol) (hf : s.functionAt v = some f)
    (hrequest : s.dispatched cd.request = some f)
    (hcookie : (b.clientServiceCookies.lookup o.toNat c).isSome = true) :
    ∃ b' cd', s.dispatch codec o c reply b cd = .ok (b', cd') := by
  obtain ⟨⟨b', cd'⟩, hd⟩ := dispatchApplication_total reply cd hcookie
  refine ⟨b', cd', ?_⟩
  rw [Service.dispatch_of_dispatched hrequest]
  rw [Service.functionAt] at hf
  split at hf
  · rename_i himpl
    exact absurd himpl happ
  · obtain ⟨fn, -, heq⟩ := Option.map_eq_some_iff.mp hf
    rw [← heq]
    exact hd

/-- **A call of a subscribed client is dispatched, and answered.** -/
theorem application_answered {s : Service} {v : UInt16} {f : BasicMethod ⊕ ApplicationMethod}
    (resets : Bool) (reply : ServiceReply) (string : Bytes) (h : Live codec c l.world)
    (hest : (l.world.data c).clientEstablished = true)
    (hs : l.world.backEnd.serviceAt o = some (some s)) (hf : s.functionAt v = some f)
    (happ : s.impl ≠ .basicProtocol)
    (hsub : l.world.backEnd.clientServiceCookies.isSubscribed o.toNat c = true) :
    ∃ res l', (lossFree codec c resets reply).exchange ⟨o.toUInt32, v.toUInt32, string⟩ l =
        .ok (res, l') ∧
      ∃ s b b' cd cd', Ran codec c ⟨o.toUInt32, v.toUInt32, string⟩ reply l.world res l'.world
        s b b' cd cd' := by
  obtain ⟨sourceType, backendType, hreach⟩ := h.reaches
  have hsound := sound_reaches hreach
  have ho : o ≠ 0 := fun hzero => happ ((hsound.registry.typed o s hs).mpr hzero)
  have hord : o.toUInt32.toUInt16 = o := UInt16.toUInt16_toUInt32 o
  have hadm : Admitted c l.world.backEnd (l.world.received c ⟨o.toUInt32, v.toUInt32, string⟩) := by
    refine admitted_of_functionAt string hest hs hf (fun _ => hsub) fun hello => ho ?_
    rw [← hord, show o.toUInt32 = 0 from hello.1]
    rfl
  obtain ⟨⟨res, w'⟩, hex⟩ := exchange_answered resets reply hsound h.storeSound h.member h.idle
    h.accepting h.running hadm (s := s) (by rw [hord]; exact hs) (fun b cd hfinds => by
      have hheld := ClientServiceCookies.isSome_of_isSubscribed
        ((hfinds.subscriptions o.toNat c).trans hsub)
      rw [hord]
      refine application_returns codec reply happ hf ?_ hheld
      rw [hfinds.request, Service.dispatched, UInt16.toUInt16_toUInt32]
      exact hf)
  obtain ⟨l', rfl, hlink⟩ := lossFree_exchange hex
  refine ⟨res, l', hlink, ?_⟩
  obtain ⟨-, -, hdown | hran⟩ := exchange_ok hex
  · exact absurd hadm (hdown.reason h.accepting).1
  · exact hran

end RblRpc
