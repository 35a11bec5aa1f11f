import RblRpc.Client.RemoteCalls
import RblRpc.Client.Subscribing
import RblRpc.Proto.WireFormat

/-!
# Sessions of a client over a loss-free transport

A factory that was constructed over a loss-free transport, and any calls on it in any order,
whatever they return or throw.

* `factoryMachine` — the calls of an application on its factory.
* `Started` — a factory after its constructor, on any back end.
* `Session` — the invariant of the factory and the back end; `Session.step`.
* `subscribeService_lossFree` — **what `subscribe_service` leaves**.
-/

namespace RblRpc

open World ServiceClientFactory Transition

/-! ## The calls of an application -/

/-- The calls on a factory.  `methods` are those of the client class, `reply` is what the service
does in the call. -/
inductive FactoryCall where
  | getService (serviceName : Bytes)
  | subscribeService (serviceName : Bytes) (requestData : Option Bytes) (hasResponseData : Bool)
      (methods : List Bytes) (reply : ServiceReply)
  | unsubscribeService (serviceName : Bytes) (reply : ServiceReply)

namespace FactoryCall

/-- The names of the methods of a class are identifiers: neither empty nor with a NUL. -/
def enabled : FactoryCall → Bool
  | .subscribeService _ _ _ methods _ => methods.all fun n => decide (n ≠ [] ∧ (0 : UInt8) ∉ n)
  | _ => true

/-- A call: the factory and the back end it leaves, whether it returns or throws. -/
def run (codec : BasicProtocolCodec) (c : ClientPtr) (resets : Bool) (side : ClientSide ServerLink) :
    FactoryCall → Except (ClientFault LinkFault) (ClientSide ServerLink)
  | .getService serviceName => ((ServiceClientFactory.getService serviceName).runOn side).map (·.2)
  | .subscribeService serviceName requestData hasResponseData methods reply =>
    ((ServiceClientFactory.subscribeService (lossFree codec c resets reply) codec serviceName
      requestData hasResponseData methods).runOn side).map (·.2)
  | .unsubscribeService serviceName reply =>
    ((ServiceClientFactory.unsubscribeService (lossFree codec c resets reply) codec
      serviceName).runOn side).map (·.2)

end FactoryCall

/-- **The calls on a factory**, over the loss-free transport of client `c`. -/
def factoryMachine (codec : BasicProtocolCodec) (c : ClientPtr) (resets : Bool) :
    Machine (ClientSide ServerLink) FactoryCall (ClientFault LinkFault) where
  guard _ call := call.enabled
  fire side call := call.run codec c resets side

/-- A factory after its constructor, on a back end with any history. -/
def Started (codec : BasicProtocolCodec) (c : ClientPtr) (resets : Bool)
    (side : ClientSide ServerLink) : Prop :=
  ∃ sourceType backendType l name source dest reply,
    (backEndMachine codec).Reaches (World.init sourceType backendType) (ServerLink.world l) ∧
    (ServiceClientFactory.new (lossFree codec c resets reply) codec name source dest).runOn l =
      .ok (.ok side.factory, side.invoker)

variable {codec : BasicProtocolCodec} {c : ClientPtr} {resets : Bool} {reply : ServiceReply}
  {side side' : ClientSide ServerLink} {o : UInt16} {w w' : World}

/-! ## The new client -/

/-- What the end of `subscribe_service` makes: a client of the service at `o`, with the ordinals
that the service lists. -/
structure Made (codec : BasicProtocolCodec) (c : ClientPtr) (methods : List Bytes) (o : UInt16)
    (w w' : World) (client : ClientServiceBase) : Prop where
  advances : Advances codec c w w'
  subscriptions : ∀ s, w'.backEnd.clientServiceCookies.isSubscribed s c =
    w.backEnd.clientServiceCookies.isSubscribed s c
  bound : ∃ made s mes, ClientServiceBase.construct methods = .ok made ∧
    w.backEnd.serviceAt o = some (some s) ∧ s.produceMethodList = .ok mes ∧
    Rebound mes made.serviceMethodMap client.serviceMethodMap
  serviceOrdinal : client.serviceOrdinal = some o
  isSubscribed : client.isSubscribed = true

theorem construct_wf {methods : List Bytes} {client : ClientServiceBase}
    (hnames : ∀ n ∈ methods, n ≠ [] ∧ (0 : UInt8) ∉ n)
    (h : ClientServiceBase.construct methods = .ok client) : client.serviceMethodMap.WF := by
  obtain ⟨t, ht, hret⟩ := bind_eq_ok.mp h
  cases hret
  refine setMethods_wf .empty (fun p hp => ?_) ht
  obtain ⟨n, hn, rfl⟩ := List.mem_map.mp hp
  exact hnames n hn

/-- **The end of `subscribe_service`**: the constructor of the client throws, or it is made. -/
theorem makeClient_lossFree {methods : List Bytes} {res : Except ClientException ClientServiceBase}
    (hcodec : codec.Lawful) (hnames : ∀ n ∈ methods, n ≠ [] ∧ (0 : UInt8) ∉ n)
    (hvalid : Valid side.factory) (hserving : Serving c side.invoker.world)
    (hlists : side.factory.Lists o) (ho : o.toNat < side.invoker.world.backEnd.services.size)
    (h : (makeClient (lossFree codec c resets reply) codec methods o).runOn side =
      .ok (res, side')) :
    (∃ x, ClientServiceBase.construct methods = .error x ∧ res = .error (.std x) ∧ side' = side) ∨
    ∃ client, res = .ok client ∧ side'.factory.client? o = some client ∧
      OnlyClient o side.factory side'.factory ∧
      Made codec c methods o side.invoker.world side'.invoker.world client := by
  unfold makeClient at h
  cases hmade : ClientServiceBase.construct methods with
  | error x =>
    rw [hmade] at h
    cases h
    exact .inl ⟨x, rfl, rfl, rfl⟩
  | ok made =>
    rw [hmade, Call.runOn_bind_of_ok (a := made) (t := side) rfl,
      Call.runOn_bind_of_ok (runOn_putClient o made side)] at h
    have honly₁ := onlyClient_setClient side.factory o made
    rcases Call.runOn_bind_eq_ok.mp h with ⟨x, hthrow, -⟩ | ⟨lm, side₂, hlist, h⟩
    · obtain ⟨i, hcall, -⟩ := runOn_rpc_eq_ok.mp hthrow
      obtain ⟨-, -, s, mes, -, -, hres⟩ :=
        runOn_listMethods hserving hcodec (hvalid.onlyClient honly₁).bpc ho hcall
      cases hres
    · obtain ⟨i, hcall, rfl⟩ := runOn_rpc_eq_ok.mp hlist
      obtain ⟨hadv, hsubs, s, mes, hs, hmes, hres⟩ :=
        runOn_listMethods hserving hcodec (hvalid.onlyClient honly₁).bpc ho hcall
      cases hres
      rw [if_neg (by exact not_not.mpr rfl)] at h
      rcases Call.runOn_bind_eq_ok.mp h with ⟨x, hthrow, -⟩ | ⟨u, side₃, hbind, h⟩
      · obtain ⟨hres, -⟩ := runOn_bindMethods (s.produceMethodList_legal hmes)
          (honly₁.lists hlists) (hlists.client?_setClient made) (construct_wf hnames hmade) hthrow
        cases hres
      · obtain ⟨-, hinv, honly₂, m, hm, hrebound⟩ := runOn_bindMethods
          (s.produceMethodList_legal hmes) (honly₁.lists hlists) (hlists.client?_setClient made)
          (construct_wf hnames hmade) hbind
        rw [Call.runOn_bind_of_ok (a := { made with serviceMethodMap := m }) (t := side₃)
          (by rw [runOn_clientAt, hm]; rfl)] at h
        rcases Call.runOn_bind_eq_ok.mp h with ⟨x, hthrow, -⟩ | ⟨u', side₄, hcheck, h⟩
        · obtain ⟨hres, -⟩ := runOn_checkMethods_iff.mp hthrow
          cases hres
        · obtain ⟨-, rfl, -⟩ := runOn_checkMethods_iff.mp hcheck
          cases h
          have honly := honly₁.trans honly₂
          refine .inr ⟨_, rfl, (honly.lists hlists).client?_setClient _,
            honly.trans (onlyClient_setClient _ _ _), ?_⟩
          refine ⟨?_, ?_, ⟨made, s, mes, hmade, hs, hmes, hrebound⟩, rfl, rfl⟩
          · rw [show side₃.invoker = i from hinv]
            exact hadv
          · rw [show side₃.invoker = i from hinv]
            exact hsubs

/-! ## Sessions -/

/-- **The invariant of a factory and its back end**: the factory has services of the back end only,
under their names and ordinals. -/
structure Session (c : ClientPtr) (side : ClientSide ServerLink) : Prop where
  valid : Valid side.factory
  serving : Serving c side.invoker.world
  listed : ∀ i e, side.factory.services.at? i = some e → ∃ e',
    side.invoker.world.backEnd.services.at? i = some e' ∧ e'.name = e.name

theorem Advances.trans {w₁ w₂ w₃ : World} (h : Advances codec c w₁ w₂)
    (h' : Advances codec c w₂ w₃) : Advances codec c w₁ w₃ :=
  ⟨h'.serving, h.control.trans h'.control, h.reaches.trans h'.reaches⟩

/-- The calls of a session change the clients of one service. -/
theorem Session.advance (h : Session c side)
    (hadv : Advances codec c side.invoker.world side'.invoker.world)
    (honly : OnlyClient o side.factory side'.factory) : Session c side' := by
  refine ⟨h.valid.onlyClient honly, hadv.serving, fun i e he => ?_⟩
  rw [hadv.control.services]
  have hid := honly.ids i
  rw [he] at hid
  obtain ⟨e₀, he₀, heq⟩ := Option.map_eq_some_iff.mp hid.symm
  obtain ⟨e', he', hname⟩ := h.listed i e₀ he₀
  exact ⟨e', he', hname.trans (congrArg Oid.name heq)⟩

/-- The entry that `subscribe_service` asks for is that of a service. -/
theorem Session.asks (h : Session c side) {serviceName : Bytes}
    {e : OidContainerEntry (Option ClientServiceBase)} (he : Asks side.factory serviceName e) :
    side.factory.Lists e.ordinal ∧ side.factory.client? e.ordinal = none ∧
      e.ordinal.toNat < side.invoker.world.backEnd.services.size := by
  obtain ⟨hat, hclient⟩ := h.valid.lookup he.lookup
  refine ⟨by rw [ServiceClientFactory.Lists, hat]; rfl, hclient.trans he.fresh, ?_⟩
  obtain ⟨e', he', -⟩ := h.listed _ _ hat
  exact (List.getElem?_eq_some_iff.mp (OidContainer.at?_eq_some.mp he').1).1

/-- **What `subscribe_service` leaves**: it threw before it asked the server, it threw after the
answer, or it made a client. -/
theorem Session.subscribeService (h : Session c side) (hcodec : codec.Lawful) {serviceName : Bytes}
    {requestData : Option Bytes} {hasResponseData : Bool} {methods : List Bytes}
    {res : Except ClientException ClientServiceBase}
    (hnames : ∀ n ∈ methods, n ≠ [] ∧ (0 : UInt8) ∉ n)
    (hrun : (ServiceClientFactory.subscribeService (lossFree codec c resets reply) codec serviceName
      requestData hasResponseData methods).runOn side = .ok (res, side')) :
    ((∀ e, ¬Asks side.factory serviceName e) ∧ side' = side ∧ ∃ x, res = .error x) ∨
    ∃ e answer i, Asks side.factory serviceName e ∧
      OnlySubscription codec c e.ordinal side.invoker.world (ServerLink.world i) ∧
      (e.ordinal ≠ 0 → side.invoker.world.backEnd.clientServiceCookies.isSubscribed
          e.ordinal.toNat c = false →
        i.world.backEnd.clientServiceCookies.isSubscribed e.ordinal.toNat c =
          !reply.errorCode.isError ∧
        answer = delivered codec.subscribeServiceResponse (subscribeAnswer reply)) ∧
      ((¬TakesFor hasResponseData answer ∨ ∃ x, ClientServiceBase.construct methods = .error x) ∧
          side' = { side with invoker := i } ∧ (∃ x, res = .error x) ∨
        TakesFor hasResponseData answer ∧ ∃ client, res = .ok client ∧
          side'.factory.client? e.ordinal = some client ∧
          OnlyClient e.ordinal side.factory side'.factory ∧
          Made codec c methods e.ordinal i.world side'.invoker.world client) := by
  rcases runOn_subscribeService hrun with hnone | ⟨e, answer, i, hasks, hcall, hrest⟩
  · exact .inl hnone
  · obtain ⟨hlists, -, hlt⟩ := h.asks hasks
    obtain ⟨honly, hanswer⟩ := runOn_rpcSubscribeService h.serving hcodec h.valid.bpc hlt hcall
    refine .inr ⟨e, answer, i, hasks, honly, hanswer, ?_⟩
    rcases hrest with ⟨hno, rfl, hres⟩ | ⟨htakes, hmake⟩
    · exact .inl ⟨.inl hno, rfl, hres⟩
    · have hvalid : Valid ({ side with invoker := i } : ClientSide ServerLink).factory := h.valid
      have hlt' : e.ordinal.toNat < i.world.backEnd.services.size := by
        rw [honly.advances.control.services]
        exact hlt
      rcases makeClient_lossFree hcodec hnames hvalid
          honly.advances.serving hlists hlt' hmake with
        ⟨x, hx, rfl, rfl⟩ | ⟨client, rfl, hclient, honly', hmade⟩
      · exact .inl ⟨.inr ⟨x, hx⟩, rfl, _, rfl⟩
      · exact .inr ⟨htakes, client, rfl, hclient, honly', hmade⟩

/-- **What `unsubscribe_service` leaves.** -/
theorem Session.unsubscribeService (h : Session c side) (hcodec : codec.Lawful)
    {serviceName : Bytes} {res : Except ClientException Unit}
    (hrun : (ServiceClientFactory.unsubscribeService (lossFree codec c resets reply) codec
      serviceName).runOn side = .ok (res, side')) :
    side' = side ∨ ∃ e client i, side.factory.lookup serviceName = .ok e ∧
      e.entry = some client ∧
      OnlySubscription codec c e.ordinal side.invoker.world (ServerLink.world i) ∧
      i.world.backEnd.clientServiceCookies.isSubscribed e.ordinal.toNat c = false ∧
      (side.invoker.world.backEnd.clientServiceCookies.isSubscribed e.ordinal.toNat c = false ∧
          side' = { side with invoker := i } ∨
        side' = ⟨side.factory.setClient e.ordinal { client with isSubscribed := false }, i⟩) := by
  rcases runOn_unsubscribeService hrun with hsame |
    ⟨e, client, answer, i, hlookup, hclient, hcall, hrest⟩
  · exact .inl hsame
  · obtain ⟨hat, -⟩ := h.valid.lookup hlookup
    obtain ⟨e', he', -⟩ := h.listed _ _ hat
    have hlt := (List.getElem?_eq_some_iff.mp (OidContainer.at?_eq_some.mp he').1).1
    obtain ⟨honly, hflag, rfl⟩ :=
      runOn_rpcUnsubscribeService h.serving hcodec h.valid.bpc hlt hcall
    refine .inr ⟨e, client, i, hlookup, hclient, honly, hflag, ?_⟩
    rcases hrest with ⟨rfl, hno⟩ | ⟨-, rfl⟩
    · refine .inl ⟨?_, rfl⟩
      by_contra hsub
      refine hno _ rfl ?_
      rw [Bool.eq_true_of_not_eq_false hsub]
      rfl
    · exact .inr rfl

/-- **A call** changes the client of at most one service, and advances the back end or leaves it. -/
theorem Session.call (h : Session c side) (hcodec : codec.Lawful) {call : FactoryCall}
    (hg : call.enabled = true) (hrun : call.run codec c resets side = .ok side') :
    ∃ o, OnlyClient o side.factory side'.factory ∧ (side'.invoker = side.invoker ∨
      Advances codec c side.invoker.world side'.invoker.world) := by
  cases call with
  | getService serviceName =>
    obtain ⟨⟨res, side₁⟩, hcall, rfl⟩ := Call.map_eq_ok.mp hrun
    rw [runOn_getService hcall]
    exact ⟨0, .refl 0 _, .inl rfl⟩
  | subscribeService serviceName requestData hasResponseData methods reply =>
    obtain ⟨⟨res, side₁⟩, hcall, rfl⟩ := Call.map_eq_ok.mp hrun
    have hnames : ∀ n ∈ methods, n ≠ [] ∧ (0 : UInt8) ∉ n := fun n hn =>
      of_decide_eq_true (List.all_eq_true.mp hg n hn)
    rcases h.subscribeService hcodec hnames hcall with
      ⟨-, rfl, -⟩ | ⟨e, answer, i, -, hsub, -, ⟨-, rfl, -⟩ | ⟨-, client, -, -, honly, hmade⟩⟩
    · exact ⟨0, .refl 0 _, .inl rfl⟩
    · exact ⟨e.ordinal, .refl e.ordinal _, .inr hsub.advances⟩
    · exact ⟨e.ordinal, honly, .inr (hsub.advances.trans hmade.advances)⟩
  | unsubscribeService serviceName reply =>
    obtain ⟨⟨res, side₁⟩, hcall, rfl⟩ := Call.map_eq_ok.mp hrun
    rcases h.unsubscribeService hcodec hcall with
      rfl | ⟨e, client, i, -, -, hsub, -, ⟨-, rfl⟩ | rfl⟩
    · exact ⟨0, .refl 0 _, .inl rfl⟩
    · exact ⟨e.ordinal, .refl e.ordinal _, .inr hsub.advances⟩
    · exact ⟨e.ordinal, onlyClient_setClient _ _ _, .inr hsub.advances⟩

/-- **Every call keeps the session.** -/
theorem Session.step (h : Session c side) (hcodec : codec.Lawful) {call : FactoryCall}
    (hg : call.enabled = true) (hrun : call.run codec c resets side = .ok side') :
    Session c side' := by
  obtain ⟨o, honly, hsame | hadv⟩ := h.call hcodec hg hrun
  · refine ⟨h.valid.onlyClient honly, hsame ▸ h.serving, fun i e he => ?_⟩
    have hid := honly.ids i
    rw [he] at hid
    obtain ⟨e₀, he₀, heq⟩ := Option.map_eq_some_iff.mp hid.symm
    obtain ⟨e', he', hname⟩ := h.listed i e₀ he₀
    rw [hsame]
    exact ⟨e', he', hname.trans (congrArg Oid.name heq)⟩
  · exact h.advance hadv honly

/-! ## The constructor -/

/-- The names that the code makes have no case. -/
def LowerNames (services : OidContainer (Option Service)) : Prop :=
  ∀ e ∈ services.entries, foldCase e.name.str = e.name.str

theorem LowerNames.setEntry {services : OidContainer (Option Service)} {id : Oid} {s : Service}
    (h : LowerNames services) (hwf : services.WF) (hlinked : services.nameIndex ≠ [])
    (hid : ∃ name o, Oid.make name o = .ok id) : LowerNames (services.setEntry ⟨id, some s⟩).1 := by
  have hgrow : ∀ n, LowerNames (services.grow n) := by
    intro n e he
    rcases List.mem_append.mp he with he | he
    · exact h e he
    · rw [List.eq_of_mem_replicate he]
      rfl
  rcases hwf.setEntry_cases hlinked ⟨id, some s⟩ with heq | ⟨-, -, heq⟩
  · rw [heq]
    exact hgrow _
  · rw [heq]
    intro e he
    rcases List.mem_or_eq_of_mem_set he with he | rfl
    · exact hgrow _ e he
    · obtain ⟨name, o, hmake⟩ := hid
      obtain ⟨n, hn, hret⟩ := bind_eq_ok.mp hmake
      split at hret
      · cases hret
      · cases hret
        show foldCase n.str = n.str
        rw [(OidName.construct_ok hn).2]
        exact foldCase_normalize name

theorem LowerNames.setAt {services : OidContainer (Option Service)} (h : LowerNames services)
    (i : ℕ) : LowerNames (services.setAt i none) := by
  intro e he
  obtain ⟨j, hj, rfl⟩ := List.mem_iff_getElem.mp he
  have hj' : j < services.entries.length := by
    rw [OidContainer.setAt, List.length_modify] at hj
    exact hj
  have hname : ((services.setAt i none).entries[j]).name = (services.entries[j]).name := by
    simp only [OidContainer.setAt, List.getElem_modify]
    split <;> rfl
  rw [hname]
  exact h _ (List.getElem_mem hj')

/-- **The names of the services have no case**, in every reachable state. -/
theorem lowerNames_reaches {sourceType : SourceConnectionType}
    {backendType : DestinationConnectionType}
    (h : (backEndMachine codec).Reaches (World.init sourceType backendType) w) :
    LowerNames w.backEnd.services := by
  have hinit : LowerNames (World.init sourceType backendType).backEnd.services := by
    have hall : (World.init sourceType backendType).backEnd.services.entries.all
        (fun e => decide (foldCase e.name.str = e.name.str)) = true := by
      cases sourceType <;> cases backendType <;> decide +kernel
    exact fun e he => of_decide_eq_true (List.all_eq_true.mp hall e he)
  exact (h.invariant (I := fun w => LowerNames w.backEnd.services ∧ Sound w)
    (fun _ _ _ hI hg hf => ⟨services_step (P := LowerNames)
      (fun _ _ _ hwf hlinked hid hP => hP.setEntry hwf hlinked hid) (fun _ i hP => hP.setAt i)
      hI.1 hI.2 hg hf, hI.2.step hg hf⟩) ⟨hinit, init_sound _ _⟩).1

/-- The loop of the constructor: each entry is new, and the name and the ordinal are those of a
service that was listed. -/
theorem recordServices_ok {entries : List ServiceEntry}
    {services services' : OidContainer (Option ClientServiceBase)} (hwf : services.WF)
    (hlegal : ∀ se ∈ entries, LegalName se.serviceName)
    (h : recordServices entries services = .ok services') :
    services'.WF ∧ ∀ i e, services'.at? i = some e → services.at? i = some e ∨
      e.entry = none ∧ ∃ se ∈ entries, se.serviceOrdinal.toNat = i ∧
        e.name.str = foldCase se.serviceName := by
  induction entries generalizing services with
  | nil =>
    cases h
    exact ⟨hwf, fun i e he => .inl he⟩
  | cons se entries ih =>
    unfold recordServices at h
    obtain ⟨id, hid, h⟩ := bind_eq_ok.mp h
    obtain ⟨hstr, hinit, hord, -⟩ := make_eq_ok (hlegal se List.mem_cons_self) hid
    have hinit' : OidContainerEntry.isInitialized
        (⟨id, none⟩ : OidContainerEntry (Option ClientServiceBase)) = true := hinit
    have hwf' := hwf.setEntry hinit'
    rw [hwf.setEntry_eq hinit'] at h hwf'
    obtain ⟨hwf'', hat⟩ := ih hwf' (fun se' hse' => hlegal se' (List.mem_cons_of_mem _ hse')) h
    refine ⟨hwf'', fun i e he => ?_⟩
    rcases hat i e he with hold | ⟨hnone, se', hse', hi, hname⟩
    · dsimp only at hold
      split at hold
      · rw [OidContainer.at?_placed hinit'] at hold
        split at hold
        · rename_i heq
          cases hold
          exact .inr ⟨rfl, se, List.mem_cons_self, hord.symm.trans heq.symm, hstr⟩
        · exact .inl hold
      · rw [OidContainer.at?_grow] at hold
        exact .inl hold
    · exact .inr ⟨hnone, se', List.mem_cons_of_mem _ hse', hi, hname⟩

/-- What the constructor leaves: it has recorded the services that the back end lists, and nothing is
subscribed. -/
structure Constructed (codec : BasicProtocolCodec) (c : ClientPtr)
    (side : ClientSide ServerLink) : Prop where
  bpc : Bound side.factory.bpc
  serving : Serving c side.invoker.world
  reaches : ∃ sourceType backendType,
    (backEndMachine codec).Reaches (World.init sourceType backendType) side.invoker.world
  recorded : ∃ out, BasicProtocolImpl.listServices side.invoker.world.backEnd = .ok out ∧
    recordServices out.services .empty = .ok side.factory.services
  unsubscribed : ∀ o : UInt16, o ≠ 0 →
    side.invoker.world.backEnd.clientServiceCookies.isSubscribed o.toNat c = false

/-- **What the constructor does**: hello, the listing, and the loop that records it. -/
theorem Started.constructed (h : Started codec c resets side) (hcodec : codec.Lawful) :
    Constructed codec c side := by
  obtain ⟨sourceType, backendType, l, name, source, dest, reply, hreach, hnew⟩ := h
  obtain ⟨-, hbpc, hres, l₁, lres, hhello, hno, hlist, hrec⟩ := runOn_new hnew
  obtain ⟨hadv₁, hnosub⟩ := runOn_hello (sound_reaches hreach) hcodec hbpc hhello hno
  obtain ⟨hadv₂, hsubs, out, hout, hlisted⟩ := runOn_listServices hadv₁.serving hcodec hbpc hlist
  cases hout
  refine ⟨hbpc, hadv₂.serving, ⟨_, _, (hreach.trans hadv₁.reaches).trans hadv₂.reaches⟩,
    ⟨_, ?_, hrec⟩, fun o ho => (hsubs _).trans (hnosub o ho)⟩
  rw [BasicProtocolImpl.listServices_congr hadv₂.control.services]
  exact hlisted

/-- **The constructor opens a session**: nothing is subscribed, here or there. -/
theorem Started.session (h : Started codec c resets side) (hcodec : codec.Lawful) :
    Session c side ∧ ∀ o : UInt16, side.factory.client? o = none ∧ (o ≠ 0 →
      side.invoker.world.backEnd.clientServiceCookies.isSubscribed o.toNat c = false) := by
  have hc := h.constructed hcodec
  obtain ⟨sourceType, backendType, hreach⟩ := hc.reaches
  obtain ⟨out, hout, hrec⟩ := hc.recorded
  have hmem := BasicProtocolImpl.listServices_mem hout
  obtain ⟨hwf, hat⟩ := recordServices_ok .empty (fun se hse => by
    obtain ⟨i, e, he, rfl⟩ := hmem se hse
    exact legalName_of_at? he) hrec
  -- every entry is new, and is that of a service
  have hlisted : ∀ i e, side.factory.services.at? i = some e → e.entry = none ∧ ∃ e',
      side.invoker.world.backEnd.services.at? i = some e' ∧ e'.name = e.name := by
    intro i e he
    rcases hat i e he with hold | ⟨hnone, se, hse, hi, hname⟩
    · simp [OidContainer.empty, OidContainer.at?] at hold
    · obtain ⟨j, e', he', rfl⟩ := hmem se hse
      refine ⟨hnone, e', ?_, OidName.ext ?_⟩
      · rw [← hi, UInt16.toNat_toUInt32, hc.serving.sound.registry.wf.ordinal j e' he']
        exact he'
      · rw [hname]
        refine (lowerNames_reaches hreach e' ?_).symm
        exact List.mem_of_getElem? (OidContainer.at?_eq_some.mp he').1
  refine ⟨⟨⟨hc.bpc, hwf⟩, hc.serving, fun i e he => (hlisted i e he).2⟩, fun o =>
    ⟨?_, hc.unsubscribed o⟩⟩
  show (side.factory.services.atOrdinal o).join = none
  rw [atOrdinal_eq]
  cases he : side.factory.services.at? o.toNat with
  | none => rfl
  | some e => exact (hlisted _ e he).1

/-! ## A service with two methods -/

/-- The constructor of a factory for client 7, on the back end that these labels leave. -/
def startFactory (ls : List Label) : Option (ClientSide ServerLink) :=
  match ((backEndMachine basicProtocolCodec).exec (World.init .sourceRelay .targetMarshall) ls).2 with
  | .error _ => none
  | .ok w =>
    match (ServiceClientFactory.new (lossFree basicProtocolCodec 7 true {}) basicProtocolCodec
      (ascii "client") .sourceRelay .targetMarshall).runOn { world := w } with
    | .ok (.ok factory, l) => some ⟨factory, l⟩
    | _ => none

theorem started_of_startFactory {ls : List Label}
    (hadm : (backEndMachine basicProtocolCodec).admits (World.init .sourceRelay .targetMarshall) ls =
      true) (h : startFactory ls = some side) : Started basicProtocolCodec 7 true side := by
  have hrun := Machine.exec_run hadm
  unfold startFactory at h
  split at h
  · cases h
  · rename_i w hw
    rw [hw] at hrun
    split at h
    · rename_i factory l hnew
      cases h
      exact ⟨_, _, _, _, _, _, _, ⟨_, hrun⟩, hnew⟩
    · cases h

/-- The functions of a service, in the order of the server's declaration. -/
def storeMethods : List (Bytes × ApplicationMethod) := [(ascii "get", 1), (ascii "Set", 2)]

/-- A service with a dispatch table of two functions. -/
def storeService : Service where
  name := ascii "Store"
  impl := .application (match buildTable storeMethods with
    | .ok t => t
    | .error _ => .empty)
  init _ := {}
  teardown _ := {}

/-- A started back end with this service, and its client 7. -/
def storeLabels : List Label :=
  [.poolSize 1, .registerService storeService, .start, .connect 7 true]

/-- The factory of this client. -/
theorem startFactory_store : ∃ side, startFactory storeLabels = some side ∧
    Started basicProtocolCodec 7 true side := by
  obtain ⟨side, hside⟩ := Option.isSome_iff_exists.mp
    (show (startFactory storeLabels).isSome = true by decide +kernel)
  exact ⟨side, hside, started_of_startFactory (by decide +kernel) hside⟩

end RblRpc
