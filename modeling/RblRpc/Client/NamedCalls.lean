import RblRpc.Client.Answering

/-!
# Calls are bound by method name

A client class of a service calls the functions of its names, from the return of
`subscribe_service` on: later calls on the factory leave its tables, and nothing but a shutdown
takes the service away.

* `usedFactory` — the calls on a factory, and whatever else happens on its back end.
* `Used` — what it keeps of a client that was made; `used_reaches`.
* `Ready`, `CallsFunction` — a request that is dispatched runs the function; that of a ready client
  is posted.
* `calls_bound_by_name` — **a method calls the function of its name**, a repeated hello excepted.
-/

namespace RblRpc

open World ServiceClientFactory Transition BackEnd

/-- The calls on a factory, between any operations on its back end. -/
def usedFactory (codec : BasicProtocolCodec) (c : ClientPtr) (resets : Bool) :
    Machine (ClientSide ServerLink) (FactoryCall ⊕ Label) (ClientFault LinkFault) where
  guard side
    | .inl call => call.enabled
    | .inr l => side.invoker.world.enabled l
  fire side
    | .inl call => call.run codec c resets side
    | .inr l => ((fire codec side.invoker.world l).mapError fun f => .invoker (.backEnd f)).map
        fun w => { side with invoker := { side.invoker with world := w } }

variable {codec : BasicProtocolCodec} {c : ClientPtr} {resets : Bool} {reply : ServiceReply}
  {side side' : ClientSide ServerLink} {l : ServerLink} {w w' : World} {o : UInt16} {s : Service}
  {client : ClientServiceBase}

/-! ## What the use of a factory keeps -/

/-- The service at `o` is `s`, or was reset. -/
def World.Keeps (o : UInt16) (s : Service) (w : World) : Prop :=
  w.backEnd.serviceAt o = some (some s) ∨ w.backEnd.serviceAt o = some none

theorem World.Keeps.step {lb : Label} (h : w.Keeps o s) (hsound : Sound w)
    (hg : w.enabled lb = true) (hf : fire codec w lb = .ok w') : w'.Keeps o s := by
  have hiff : ∀ w : World, w.Keeps o s ↔ ∃ e, w.backEnd.services.at? o.toNat = some e ∧
      (e.entry = some s ∨ e.entry = none) := by
    intro w
    simp only [World.Keeps, serviceAt_eq, Option.map_eq_some_iff]
    constructor
    · rintro (⟨e, he, hs⟩ | ⟨e, he, hs⟩)
      · exact ⟨e, he, .inl hs⟩
      · exact ⟨e, he, .inr hs⟩
    · rintro ⟨e, he, hs | hs⟩
      · exact .inl ⟨e, he, hs⟩
      · exact .inr ⟨e, he, hs⟩
  rw [hiff] at h ⊢
  refine services_step (P := fun services => ∃ e, services.at? o.toNat = some e ∧
      (e.entry = some s ∨ e.entry = none))
    (fun services id s' hwf hlinked _ hP => ?_) (fun services i hP => ?_) h hsound hg hf
  · obtain ⟨e, he, hs⟩ := hP
    refine ⟨e, ?_, hs⟩
    rcases hwf.setEntry_cases hlinked ⟨id, some s'⟩ with heq | ⟨hinit, hfresh, heq⟩
    · rw [heq, OidContainer.at?_grow]
      exact he
    · -- a registration takes a slot that was free
      rw [heq, OidContainer.at?_placed hinit, if_neg]
      · exact he
      · intro hslot
        rw [hslot, hfresh.ordinal] at he
        cases he
  · obtain ⟨e, he, hs⟩ := hP
    rw [OidContainer.at?_setAt, he]
    by_cases hi : o.toNat = i
    · exact ⟨{ e with entry := none }, by rw [if_pos hi]; rfl, .inr rfl⟩
    · exact ⟨e, by rw [if_neg hi], hs⟩

/-- The client at `o` has the tables of `client`. -/
structure HasTables (o : UInt16) (client : ClientServiceBase) (f : ServiceClientFactory) :
    Prop where
  valid : Valid f
  client : ∃ k, f.client? o = some k ∧ k.serviceOrdinal = client.serviceOrdinal ∧
    k.serviceMethodMap = client.serviceMethodMap

/-- A change of another client leaves the tables. -/
theorem HasTables.onlyClient {o' : UInt16} {f f' : ServiceClientFactory}
    (h : HasTables o client f) (honly : OnlyClient o' f f') (hne : o' ≠ o) :
    HasTables o client f' := by
  refine ⟨h.valid.onlyClient honly, ?_⟩
  rw [honly.others o hne.symm]
  exact h.client

/-- **A call on a factory leaves the tables of a client that was made.** -/
theorem HasTables.call {call : FactoryCall} (h : HasTables o client side.factory)
    (hrun : call.run codec c resets side = .ok side') : HasTables o client side'.factory := by
  cases call with
  | getService serviceName =>
    obtain ⟨⟨res, side₁⟩, hcall, rfl⟩ := Call.map_eq_ok.mp hrun
    rw [runOn_getService hcall]
    exact h
  | subscribeService serviceName requestData hasResponseData methods reply =>
    obtain ⟨⟨res, side₁⟩, hcall, rfl⟩ := Call.map_eq_ok.mp hrun
    rcases runOn_subscribeService hcall with
      ⟨-, rfl, -⟩ | ⟨e, answer, i, hasks, -, ⟨-, rfl, -⟩ | ⟨-, hmake⟩⟩
    · exact h
    · exact h
    · -- a client is made where there was none
      have hne : e.ordinal ≠ o := by
        rintro rfl
        obtain ⟨k, hk, -⟩ := h.client
        rw [(h.valid.lookup hasks.lookup).2, hasks.fresh] at hk
        cases hk
      have hkept : KeptAt (lossFree codec c resets reply) e.ordinal
          fun s => OnlyClient e.ordinal side.factory s.factory := {
        exchange := fun _ _ _ _ hs _ => hs
        setClient := fun _ _ hs => hs.trans (onlyClient_setClient _ _ _) }
      exact h.onlyClient (hkept.makeClient methods ⟨side.factory, i⟩ _ _ (.refl _ _) hmake) hne
  | unsubscribeService serviceName reply =>
    obtain ⟨⟨res, side₁⟩, hcall, rfl⟩ := Call.map_eq_ok.mp hrun
    rcases runOn_unsubscribeService hcall with
      rfl | ⟨e, client', answer, i, hlookup, hentry, -, ⟨rfl, -⟩ | ⟨-, rfl⟩⟩
    · exact h
    · exact h
    · refine ⟨h.valid.setClient _ _, ?_⟩
      obtain ⟨hat, hclient⟩ := h.valid.lookup hlookup
      dsimp only
      rw [client?_setClient, hat]
      by_cases ho : o = e.ordinal
      · -- the client that is told off keeps its tables
        obtain ⟨k, hk, hord, hmap⟩ := h.client
        rw [ho, hclient, hentry] at hk
        cases hk
        exact ⟨{ client' with isSubscribed := false }, by rw [if_pos ho]; rfl, hord, hmap⟩
      · rw [if_neg ho]
        exact h.client

/-- What the use of a factory keeps of a client of the service `s`. -/
structure Used (codec : BasicProtocolCodec) (o : UInt16) (s : Service)
    (client : ClientServiceBase) (side : ClientSide ServerLink) : Prop where
  reaches : ∃ sourceType backendType,
    (backEndMachine codec).Reaches (World.init sourceType backendType) side.invoker.world
  service : side.invoker.world.Keeps o s
  tables : HasTables o client side.factory

/-- A call on a factory is a run of its back end. -/
theorem FactoryCall.reaches {call : FactoryCall}
    (hrun : call.run codec c resets side = .ok side') :
    (backEndMachine codec).Reaches side.invoker.world side'.invoker.world :=
  FactoryCall.keeps
    (P := fun s => (backEndMachine codec).Reaches side.invoker.world s.invoker.world) (fun _ _ => {
      exchange := fun _ _ _ _ hs hex => hs.trans (exchange_reaches (exchange_lossFree hex))
      setClient := fun _ _ hs => hs }) (.refl _) hrun

theorem Used.step {a : FactoryCall ⊕ Label} (h : Used codec o s client side)
    (hg : (usedFactory codec c resets).guard side a = true)
    (hf : (usedFactory codec c resets).fire side a = .ok side') :
    Used codec o s client side' := by
  obtain ⟨sourceType, backendType, hreach⟩ := h.reaches
  have hsound := sound_reaches hreach
  cases a with
  | inl call =>
    have hcall : call.run codec c resets side = .ok side' := hf
    have hmore := FactoryCall.reaches hcall
    refine ⟨⟨_, _, hreach.trans hmore⟩, ?_, h.tables.call hcall⟩
    exact (hmore.invariant (I := fun w => Sound w ∧ w.Keeps o s)
      (fun _ _ _ hI hg hf => ⟨hI.1.step hg hf, hI.2.step hI.1 hg hf⟩) ⟨hsound, h.service⟩).2
  | inr lb =>
    obtain ⟨w', hstep, rfl⟩ := Call.map_eq_ok.mp hf
    have hstep := mapError_eq_ok.mp hstep
    exact ⟨⟨_, _, hreach.trans ⟨_, .step hg hstep (.done _)⟩⟩, h.service.step hsound hg hstep,
      h.tables⟩

/-- **Whatever is called on a factory, and whatever else happens, leaves the client and the
service.** -/
theorem used_reaches (h : Used codec o s client side)
    (hreach : (usedFactory codec c resets).Reaches side side') : Used codec o s client side' :=
  hreach.invariant (fun _ _ _ hI hg hf => hI.step hg hf) h

/-! ## The call of a method -/

/-- The client can have a request for the service at `o` dispatched: the back end is up and running,
the client is established and between two requests, it is subscribed, and no shutdown has reset the
service. -/
structure Ready (c : ClientPtr) (o : UInt16) (w : World) : Prop where
  member : c ∈ w.backEnd.connectedClients
  idle : w.stage c = .idle
  accepting : w.state.acceptingRequests = true
  running : w.running = true
  established : (w.data c).clientEstablished = true
  subscribed : o ≠ 0 → w.backEnd.clientServiceCookies.isSubscribed o.toNat c = true
  kept : w.backEnd.serviceAt o ≠ some none

/-- An exchange that dispatched the request `r` to the service `s`, which ran `f`. -/
def RanFunction (codec : BasicProtocolCodec) (c : ClientPtr) (r : ClientRequest)
    (reply : ServiceReply) (o : UInt16) (s : Service) (f : BasicMethod ⊕ ApplicationMethod)
    (w : World) (res : ClientResponse) (w' : World) : Prop :=
  ∃ b b' cd cd', Ran codec c r reply w res w' s b b' cd cd' ∧
    b.dispatchTo codec o c reply cd f = .ok (b', cd')

/-- The request `r` is posted, its dispatch runs `f`, and a function of an application answers. -/
structure RunsFunction (codec : BasicProtocolCodec) (c : ClientPtr) (resets : Bool)
    (r : ClientRequest) (reply : ServiceReply) (o : UInt16) (s : Service)
    (f : BasicMethod ⊕ ApplicationMethod) (l : ServerLink) : Prop where
  posted : ∃ w₁ w₂, l.world.attempt codec (.request c resets r) = .ok w₁ ∧
    w₁.attempt codec (.check c) = .ok w₂ ∧ w₂.stage c = .posted ∧ (w₂.data c).request = r ∧
    (w₂.invokers c).service = o ∧ w₂.backEnd.serviceAt o = some (some s)
  ran : ∀ res l', (lossFree codec c resets reply).exchange r l = .ok (res, l') →
    RanFunction codec c r reply o s f l.world res l'.world
  answered : s.impl ≠ .basicProtocol → ∃ res l',
    (lossFree codec c resets reply).exchange r l = .ok (res, l')

/-- Method `i` of the client sends one request, whatever the messages, that names `f` in the table
of the service.  An exchange of it is turned down or runs `f`, which it does if the client is
ready. -/
def CallsFunction (codec : BasicProtocolCodec) (c : ClientPtr) (resets : Bool)
    (client : ClientServiceBase) (i : ℕ) (o : UInt16) (s : Service)
    (f : BasicMethod ⊕ ApplicationMethod) (l : ServerLink) : Prop :=
  ∃ v, s.functionAt v = some f ∧ ∀ (I O : Type) (input : MessageCodec I) (output : MessageCodec O)
    (req : I) (reply : ServiceReply), ∃ r : ClientRequest,
    r = ⟨o.toUInt32, v.toUInt32, (input.serializeToString req).getD []⟩ ∧
    (client.callMethod (lossFree codec c resets reply) input output (UInt16.ofNat i) req).runOn l =
      (((lossFree codec c resets reply).exchange r l).mapError .invoker).map
        (fun p => (ClientServiceBase.readResponse output p.1, p.2)) ∧
    (∀ res l', (lossFree codec c resets reply).exchange r l = .ok (res, l') →
      TurnedDown codec c r l.world res l'.world ∨
        RanFunction codec c r reply o s f l.world res l'.world) ∧
    (Ready c o l.world → RunsFunction codec c resets r reply o s f l)

section Calls

variable {i : ℕ} {v : UInt16} {f : BasicMethod ⊕ ApplicationMethod} {l : ServerLink}

/-- The request for a function of a ready client passes the checks, unless it is a second hello. -/
theorem Ready.admitted (h : Ready c o w) (hsound : Sound w)
    (hs : w.backEnd.serviceAt o = some (some s)) (hf : s.functionAt v = some f)
    (hno : f ≠ .inl .hello) (string : Bytes) :
    Admitted c w.backEnd (w.received c ⟨o.toUInt32, v.toUInt32, string⟩) := by
  refine admitted_of_functionAt string h.established hs hf h.subscribed fun hello => hno ?_
  have ho : o = 0 := by
    rw [← UInt16.toUInt16_toUInt32 o, show o.toUInt32 = 0 from hello.1]
    rfl
  have hv : v = 0 := by
    rw [← UInt16.toUInt16_toUInt32 v, show v.toUInt32 = 0 from hello.2]
    rfl
  rw [Service.functionAt, (hsound.registry.typed o s hs).mpr ho, hv,
    basicProtocolTable_atOrdinal] at hf
  exact (Option.some.inj hf).symm

/-- A dispatch of the request runs the function. -/
theorem ranFunction_of_ran {r : ClientRequest} {res : ClientResponse} {s' : Service}
    {b b' : BackEnd} {cd cd' : ClientData} (hservice : r.serviceOrdinal.toUInt16 = o)
    (hs : w.backEnd.serviceAt o = some (some s)) (hf : s.dispatched r = some f)
    (h : Ran codec c r reply w res w' s' b b' cd cd') :
    RanFunction codec c r reply o s f w res w' := by
  obtain rfl : s' = s := by
    have hat := h.service
    rw [hservice, hs] at hat
    cases hat
    rfl
  refine ⟨b, b', cd, cd', h, ?_⟩
  rw [← Service.dispatch_of_dispatched (by rw [h.request]; exact hf), ← hservice]
  exact h.dispatch

/-- **A request of a ready client is posted.** -/
theorem Ready.posted (codec : BasicProtocolCodec) (resets : Bool) (h : Ready c o w)
    (hsound : Sound w) (hstore : w.StoreSound) (hs : w.backEnd.serviceAt o = some (some s))
    {r : ClientRequest} (hservice : r.serviceOrdinal.toUInt16 = o)
    (hadm : Admitted c w.backEnd (w.received c r)) :
    ∃ w₁ w₂, w.attempt codec (.request c resets r) = .ok w₁ ∧
      w₁.attempt codec (.check c) = .ok w₂ ∧ w₂.stage c = .posted ∧ (w₂.data c).request = r ∧
      (w₂.invokers c).service = o ∧ w₂.backEnd.serviceAt o = some (some s) := by
  obtain ⟨w₁, hrequest, hreached, hcookies⟩ :=
    request_accepted codec resets r hsound h.member h.idle h.accepting
  have hsealed := (Bool.and_eq_true_iff.mp h.running).1
  obtain ⟨w₂, hcheck, hposted, -, hat, -⟩ :=
    check_posted codec hstore hsealed hreached hcookies hadm
  refine ⟨w₁, w₂, hrequest, hcheck, hposted.stage, hposted.request, hat.trans hservice, ?_⟩
  rw [serviceAt, hposted.control.services]
  exact hs

/-- **A request for a function runs it**, if the client is ready. -/
theorem Ready.runs (codec : BasicProtocolCodec) (resets : Bool) (reply : ServiceReply)
    (h : Ready c o l.world) {sourceType : SourceConnectionType}
    {backendType : DestinationConnectionType}
    (hreach : (backEndMachine codec).Reaches (World.init sourceType backendType) l.world)
    (hs : l.world.backEnd.serviceAt o = some (some s)) (hf : s.functionAt v = some f)
    (hno : f ≠ .inl .hello) (string : Bytes) :
    RunsFunction codec c resets ⟨o.toUInt32, v.toUInt32, string⟩ reply o s f l := by
  have hsound := sound_reaches hreach
  have hadm := h.admitted hsound hs hf hno string
  have hord : o.toUInt32.toUInt16 = o := UInt16.toUInt16_toUInt32 o
  have hdispatched : s.dispatched ⟨o.toUInt32, v.toUInt32, string⟩ = some f := by
    rw [Service.dispatched, UInt16.toUInt16_toUInt32]
    exact hf
  have hstore : l.world.StoreSound := hreach.invariant (I := StoreSound)
    (fun _ _ _ hI hg hf => hI.step hg hf) (init_storeSound _ _)
  refine ⟨h.posted codec resets hsound hstore hs hord hadm, fun res l' hex => ?_, fun happ => ?_⟩
  · obtain ⟨-, -, hdown | ⟨s', b, b', cd, cd', hran⟩⟩ := exchange_ok (exchange_lossFree hex)
    · exact absurd hadm (hdown.reason h.accepting).1
    · exact ranFunction_of_ran hord hs hdispatched hran
  · -- a function of an application has a cookie to write to, and returns
    have ho : o ≠ 0 := fun hzero => happ ((hsound.registry.typed o s hs).mpr hzero)
    obtain ⟨⟨res, w'⟩, hex⟩ := exchange_answered resets reply hsound hstore h.member h.idle
      h.accepting h.running hadm (by rw [hord]; exact hs) fun b cd hfinds => by
        rw [hord]
        exact application_returns codec reply happ hf (by rw [hfinds.request]; exact hdispatched)
          (ClientServiceCookies.isSome_of_isSubscribed
            ((hfinds.subscriptions o.toNat c).trans (h.subscribed ho)))
    obtain ⟨l', -, hlink⟩ := lossFree_exchange hex
    exact ⟨res, l', hlink⟩

/-- **A method that is bound to a function calls it.** -/
theorem Used.calls (h : Used codec o s client side) {k : ClientServiceBase}
    (hord : k.serviceOrdinal = some o) (hv : k.serviceMethodMap.atOrdinal (UInt16.ofNat i) = some v)
    (hf : s.functionAt v = some f) (hno : f ≠ .inl .hello) :
    CallsFunction codec c resets k i o s f side.invoker := by
  refine ⟨v, hf, fun I O input output req reply =>
    ⟨_, rfl, ?_, fun res l' hex => ?_, fun hready => ?_⟩⟩
  · refine ClientServiceBase.runOn_callMethod _ ?_
    rw [ClientServiceBase.requestOf, hord, hv]
    rfl
  · obtain ⟨-, -, hdown | ⟨s', b, b', cd, cd', hran⟩⟩ := exchange_ok (exchange_lossFree hex)
    · exact .inl hdown
    · have hat := hran.service
      dsimp only at hat
      rw [UInt16.toUInt16_toUInt32] at hat
      rcases h.service with hs | hreset
      · refine .inr (ranFunction_of_ran (UInt16.toUInt16_toUInt32 o) hs ?_ hran)
        rw [Service.dispatched, UInt16.toUInt16_toUInt32]
        exact hf
      · rw [hreset] at hat
        cases hat
  · obtain ⟨sourceType, backendType, hreach⟩ := h.reaches
    exact hready.runs codec resets reply hreach (h.service.resolve_right hready.kept) hf hno _

end Calls

/-! ## The names of a client -/

/-- Whatever is called on the factory afterwards, and whatever else happens on its back end, the
factory has the client at `o`, and those of its methods that are named after functions in `called`
call them. -/
def CallsByName (codec : BasicProtocolCodec) (c : ClientPtr) (resets : Bool)
    (fs : List (Bytes × (BasicMethod ⊕ ApplicationMethod))) (methods : List Bytes) (o : UInt16)
    (s : Service) (called : BasicMethod ⊕ ApplicationMethod → Prop) (side : ClientSide ServerLink) :
    Prop :=
  ∀ side', (usedFactory codec c resets).Reaches side side' → ∃ k, side'.factory.client? o = some k ∧
    ∀ i n, methods[i]? = some n → ∃ name f, (name, f) ∈ fs ∧ foldCase name = foldCase n ∧
      (called f → CallsFunction codec c resets k i o s f side'.invoker)

/-- The tables of a client that was made of a class of the service. -/
theorem Used.callsByName {fs : List (Bytes × (BasicMethod ⊕ ApplicationMethod))}
    {methods : List Bytes} (h : Used codec o s client side)
    (hord : client.serviceOrdinal = some o)
    (hbinds : ∀ i n, methods[i]? = some n → ∃ name f v, (name, f) ∈ fs ∧
      foldCase name = foldCase n ∧ client.serviceMethodMap.atOrdinal (UInt16.ofNat i) = some v ∧
        s.functionAt v = some f) :
    CallsByName codec c resets fs methods o s (· ≠ .inl .hello) side := by
  intro side' hreach
  have hused := used_reaches h hreach
  obtain ⟨k, hk, hkord, hkmap⟩ := hused.tables.client
  refine ⟨k, hk, fun i n hn => ?_⟩
  obtain ⟨name, f, v, hmem, hfold, hv, hf⟩ := hbinds i n hn
  exact ⟨name, f, hmem, hfold,
    fun hno => hused.calls (hkord.trans hord) (by rw [hkmap]; exact hv) hf hno⟩

/-- **While nothing but calls on the factory takes place**, its client is ready for the services
that it is subscribed to. -/
theorem ready_iff (hcodec : codec.Lawful) (hsession : Session c side)
    (hlive : Live codec c side.invoker.world)
    (hs : side.invoker.world.backEnd.serviceAt o = some (some s))
    (hreach : (factoryMachine codec c resets).Reaches side side') :
    Ready c o side'.invoker.world ↔ (o ≠ 0 →
      side'.invoker.world.backEnd.clientServiceCookies.isSubscribed o.toNat c = true) := by
  have hkept : ∀ reply, KeptBy (lossFree codec c resets reply)
      fun side => side.invoker.world.backEnd.serviceAt o = some (some s) := fun reply _ => {
    exchange := fun side r res i hat hex => by
      rw [serviceAt, (exchange_ok (exchange_lossFree hex)).1.services]
      exact hat
    setClient := fun _ _ hat => hat }
  obtain ⟨hsession', hlive', hs'⟩ := hreach.invariant
    (I := fun side => Session c side ∧ Live codec c side.invoker.world ∧
      side.invoker.world.backEnd.serviceAt o = some (some s))
    (fun _ _ _ hI hg hf => ⟨hI.1.step hcodec hg hf,
      FactoryCall.keeps (fun _ => keptBy_live) hI.2.1 hf, FactoryCall.keeps hkept hI.2.2 hf⟩)
    ⟨hsession, hlive, hs⟩
  refine ⟨fun h => h.subscribed, fun hsub => ⟨hlive'.member, hlive'.idle, hlive'.accepting,
    hlive'.running, hsession'.serving.established, hsub, ?_⟩⟩
  rw [hs']
  exact fun heq => by cases heq

/-- The client that `subscribe_service` made is for the service of that name. -/
theorem Session.asks_ordinal (h : Session c side) {serviceName : Bytes}
    {e₁ : OidContainerEntry (Option ClientServiceBase)} {e : OidContainerEntry (Option Service)}
    (hasks : Asks side.factory serviceName e₁)
    (hservice : side.invoker.world.backEnd.services.findName serviceName = .ok (some e)) :
    e₁.ordinal = e.ordinal ∧ side.invoker.world.backEnd.serviceAt e.ordinal = some e.entry := by
  have hwf := h.serving.sound.registry.wf
  obtain ⟨hat, hname⟩ := hwf.findName_eq_some hservice
  obtain ⟨hat₁, -⟩ := h.valid.lookup hasks.lookup
  obtain ⟨e', he', hname'⟩ := h.listed _ _ hat₁
  have hname₁ : e'.name = e.name := by
    have hlookup := hasks.lookup
    unfold ServiceClientFactory.lookup at hlookup
    split at hlookup
    · cases hlookup
    · cases hlookup
    · rename_i e'' hf
      cases hlookup
      rw [hname']
      exact Except.ok.inj (((h.valid.wf.findName_eq_some hf).2).symm.trans hname)
  refine ⟨UInt16.toNat.inj (hwf.name_inj ?_ ?_ ?_), ?_⟩
  · rw [OidContainer.nameAt_of_at? he']
    exact (OidContainer.at?_eq_some.mp he').2
  · rw [OidContainer.nameAt_of_at? hat]
    exact (OidContainer.at?_eq_some.mp hat).2
  · rw [OidContainer.nameAt_of_at? he', OidContainer.nameAt_of_at? hat, hname₁]
  · rw [serviceAt_eq, hat]
    rfl

/-- **Calls are bound by method name.**  After any calls on a factory, a `subscribe_service` that
returns gives a client of the service that the back end registered under the name asked for.  From
then on, whatever happens, its methods call the functions of their names, but for a repeated hello;
and while nothing but calls on the factory happens, the client is ready if it is subscribed. -/
theorem calls_bound_by_name {side₀ side side' : ClientSide ServerLink} {serviceName : Bytes}
    {requestData : Option Bytes} {hasResponseData : Bool} {methods : List Bytes}
    {reply : ServiceReply} {client : ClientServiceBase} {e : OidContainerEntry (Option Service)}
    {s : Service} {fs : List (Bytes × (BasicMethod ⊕ ApplicationMethod))}
    (hcodec : codec.Lawful) (hstart : Started codec c resets side₀)
    (hreach : (factoryMachine codec c resets).Reaches side₀ side)
    (hrun : (ServiceClientFactory.subscribeService (lossFree codec c resets reply) codec serviceName
      requestData hasResponseData methods).runOn side = .ok (.ok client, side'))
    (hservice : side.invoker.world.backEnd.services.findName serviceName = .ok (some e))
    (he : e.entry = some s) (hclass : ClassOf s fs methods) :
    side'.factory.client? e.ordinal = some client ∧
      CallsByName codec c resets fs methods e.ordinal s (· ≠ .inl .hello) side' ∧
      ∀ side'', (factoryMachine codec c resets).Reaches side' side'' →
        (Ready c e.ordinal side''.invoker.world ↔ (e.ordinal ≠ 0 →
          side''.invoker.world.backEnd.clientServiceCookies.isSubscribed e.ordinal.toNat c =
            true)) := by
  have hnames : ∀ n ∈ methods, n ≠ [] ∧ (0 : UInt8) ∉ n := fun n hn =>
    ⟨(hclass.client.legal n hn).nonempty, (hclass.client.legal n hn).nulFree⟩
  have hstep : ∀ side call side', Session c side ∧ Live codec c side.invoker.world →
      (factoryMachine codec c resets).guard side call = true →
      (factoryMachine codec c resets).fire side call = .ok side' →
      Session c side' ∧ Live codec c side'.invoker.world := fun _ _ _ hI hg hf =>
    ⟨hI.1.step hcodec hg hf, FactoryCall.keeps (fun _ => keptBy_live) hI.2 hf⟩
  obtain ⟨hsession, hlive⟩ := hreach.invariant hstep ⟨(hstart.session hcodec).1, hstart.live hcodec⟩
  have hguard : (factoryMachine codec c resets).guard side
      (.subscribeService serviceName requestData hasResponseData methods reply) = true :=
    List.all_eq_true.mpr fun n hn => decide_eq_true (hnames n hn)
  obtain ⟨hsession', hlive'⟩ := hstep _ _ _ ⟨hsession, hlive⟩ hguard
    (Call.map_eq_ok.mpr ⟨_, hrun, rfl⟩)
  rcases hsession.subscribeService hcodec hnames hrun with
    ⟨-, -, x, hres⟩ |
    ⟨e₁, answer, inv, hasks, honly, -, ⟨-, -, x, hres⟩ | ⟨-, client', hres, hclient, -, hmade⟩⟩
  · cases hres
  · cases hres
  · cases hres
    obtain ⟨hord, hat⟩ := hsession.asks_ordinal hasks hservice
    rw [he] at hat
    have hserviceAt : ∀ w : World, w.backEnd.services = side.invoker.world.backEnd.services →
        w.backEnd.serviceAt e.ordinal = some (some s) := by
      intro w hw
      rw [serviceAt, hw]
      exact hat
    have hservices₁ := honly.advances.control.services
    have hs' := hserviceAt _ (hmade.advances.control.services.trans hservices₁)
    -- the tables of the client are those of a class of the service
    obtain ⟨mes, made, hmatched⟩ := hclass.matched
    obtain ⟨made₁, s₁, mes₁, hconstruct, hs₁, hmes, hrebound⟩ := hmade.bound
    rw [hord, hserviceAt _ hservices₁] at hs₁
    cases hs₁
    cases hmatched.listed.symm.trans hmes
    cases hmatched.constructed.symm.trans hconstruct
    rw [hord] at hclient
    have hused : Used codec e.ordinal s client side' :=
      ⟨hlive'.reaches, .inl hs', hsession'.valid, client, hclient, rfl, rfl⟩
    exact ⟨hclient, hused.callsByName (hmade.serviceOrdinal.trans (congrArg some hord))
      (hmatched.binds _ hrebound), fun side'' hcalls =>
        ready_iff hcodec hsession' hlive' hs' hcalls⟩

/-! ## A class of the store, and one of `basic_protocol` -/

instance : Decidable (Ready c o w) :=
  decidable_of_iff (c ∈ w.backEnd.connectedClients ∧ w.stage c = .idle ∧
    w.state.acceptingRequests = true ∧ w.running = true ∧ (w.data c).clientEstablished = true ∧
    (o ≠ 0 → w.backEnd.clientServiceCookies.isSubscribed o.toNat c = true) ∧
    (w.backEnd.serviceAt o).map (·.isSome) ≠ some false) (by
  have hkept : (w.backEnd.serviceAt o).map (·.isSome) ≠ some false ↔
      w.backEnd.serviceAt o ≠ some none := by
    cases w.backEnd.serviceAt o with
    | none => simp
    | some s => cases s <;> simp
  rw [hkept]
  refine ⟨fun h => ?_, fun h =>
    ⟨h.member, h.idle, h.accepting, h.running, h.established, h.subscribed, h.kept⟩⟩
  obtain ⟨hmember, hidle, haccepting, hrunning, hestablished, hsubscribed, hkept⟩ := h
  exact ⟨hmember, hidle, haccepting, hrunning, hestablished, hsubscribed, hkept⟩)

/-- The dispatch table of a service of an application. -/
def ServiceImpl.table : ServiceImpl → Option (OidContainer ApplicationMethod)
  | .basicProtocol => none
  | .application t => some t

/-- What is registered under a name: the ordinal, and the dispatch table of an application. -/
def BackEnd.registered (b : BackEnd) (serviceName : Bytes) :
    Option (UInt16 × Option (OidContainer ApplicationMethod)) :=
  match b.services.findName serviceName with
  | .ok (some e) => e.entry.map fun s => (e.ordinal, s.impl.table)
  | _ => none

theorem BackEnd.registered_eq_some {b : BackEnd} {serviceName : Bytes}
    {table : Option (OidContainer ApplicationMethod)}
    (h : b.registered serviceName = some (o, table)) :
    ∃ e s, b.services.findName serviceName = .ok (some e) ∧ e.entry = some s ∧ e.ordinal = o ∧
      s.impl.table = table := by
  unfold BackEnd.registered at h
  split at h
  · rename_i e hf
    obtain ⟨s, hs, heq⟩ := Option.map_eq_some_iff.mp h
    obtain ⟨rfl, rfl⟩ := Prod.mk.inj heq
    exact ⟨e, s, hf, hs, rfl, rfl⟩
  · cases h

/-- A class with the two methods of the store in the other order, in another case. -/
theorem storeClass (h : s.impl.table = (buildTable storeMethods).toOption) :
    ClassOf s (storeMethods.map fun p => (p.1, .inr p.2)) [ascii "SET", ascii "get"] := by
  have hsame : SameNames (storeMethods.map (·.1)) [ascii "SET", ascii "get"] := by
    intro n
    rw [show (storeMethods.map (·.1)).map foldCase = [ascii "get", ascii "set"] by
        decide +kernel,
      show [ascii "SET", ascii "get"].map foldCase = [ascii "set", ascii "get"] by
        decide +kernel]
    simp [or_comm]
  refine ⟨?_, by decide +kernel, by decide +kernel, hsame⟩
  have hbuilt : (buildTable storeMethods).toOption.isSome = true := by decide +kernel
  cases hb : buildTable storeMethods with
  | error x =>
    rw [hb] at hbuilt
    cases hbuilt
  | ok t =>
    rw [hb] at h
    unfold Service.Declares
    cases himpl : s.impl with
    | basicProtocol =>
      rw [himpl] at h
      cases h
    | application t' =>
      rw [himpl] at h
      cases h
      exact ⟨storeMethods, hb, rfl⟩

/-- A class with the methods of `basic_protocol`. -/
theorem basicProtocolClass (h : s.impl = .basicProtocol) :
    ClassOf s (basicProtocolMethods.map fun p => (p.1, .inl p.2))
      (basicProtocolMethods.map (·.1)) := by
  have hnames : (basicProtocolMethods.map fun p =>
      (p.1, (.inl p.2 : BasicMethod ⊕ ApplicationMethod))).map (·.1) =
        basicProtocolMethods.map (·.1) := by
    rw [List.map_map]
    rfl
  refine ⟨by rw [Service.Declares, h], ?_, by decide +kernel, ?_⟩
  · rw [hnames]
    decide +kernel
  · rw [hnames]
    exact fun n => Iff.rfl

/-- The ordinal of `hello` is 0. -/
theorem eq_zero_of_hello {v : UInt16} (h : s.impl = .basicProtocol)
    (hv : s.functionAt v = some (.inl .hello)) : v = 0 := by
  rw [Service.functionAt, h, basicProtocolTable_atOrdinal] at hv
  obtain ⟨m, hm, heq⟩ := Option.map_eq_some_iff.mp hv
  cases heq
  have honly : ∀ k < 5, basicMethodAt k = some .hello → k = 0 := by decide
  exact UInt16.toNat.inj (honly _ (basicMethodAt_ordinal hm).1 hm)

/-- `subscribe_service` on the factory of client 7. -/
def sampleSubscribe (serviceName : Bytes) (methods : List Bytes) (side : ClientSide ServerLink) :
    Option (ClientServiceBase × ClientSide ServerLink) :=
  Call.returned ((ServiceClientFactory.subscribeService (lossFree basicProtocolCodec 7 true {})
    basicProtocolCodec serviceName none false methods).runOn side)

/-- The message of a hello. -/
def sampleHelloString : Bytes := (basicProtocolCodec.helloRequest.serializeToString {}).getD []

/-- Another service is subscribed to, and another client connects. -/
def sampleUse : List (FactoryCall ⊕ Label) :=
  [.inl (.subscribeService (ascii "basic_protocol") none false (basicProtocolMethods.map (·.1)) {}),
    .inr (.connect 9 true)]

/-- What the use leaves: whether client 7 is ready for the service at 1, and the other client is
connected. -/
def sampleLeaves (side : ClientSide ServerLink) : Bool × Option (Bool × Bool) :=
  let m := usedFactory basicProtocolCodec 7 true
  (m.admits side sampleUse, (m.exec side sampleUse).2.toOption.map fun side =>
    (decide (Ready 7 1 side.invoker.world),
      decide (9 ∈ side.invoker.world.backEnd.connectedClients)))

/-- The two methods in the other order, in another case: after more calls and another connection
each calls the function of its name, and the client is ready to. -/
theorem calls_bound_by_name_sample : ∃ k s l, Ready 7 1 (ServerLink.world l) ∧
    9 ∈ l.world.backEnd.connectedClients ∧
    CallsFunction basicProtocolCodec 7 true k 0 1 s (.inr 2) l ∧
    CallsFunction basicProtocolCodec 7 true k 1 1 s (.inr 1) l := by
  obtain ⟨side, hside, hstart⟩ := startFactory_store
  have hregistered : (startFactory storeLabels).bind
      (fun side => side.invoker.world.backEnd.registered (ascii "STORE")) =
        some (1, (buildTable storeMethods).toOption) := by decide +kernel
  have hleaves : (startFactory storeLabels).bind (fun side =>
      (sampleSubscribe (ascii "STORE") [ascii "SET", ascii "get"] side).map fun p =>
        sampleLeaves p.2) = some (true, some (true, true)) := by decide +kernel
  rw [hside] at hregistered hleaves
  obtain ⟨⟨client, side'⟩, hrun, hleaves⟩ := Option.map_eq_some_iff.mp hleaves
  obtain ⟨e, s, hfind, he, hord, htable⟩ := BackEnd.registered_eq_some hregistered
  obtain ⟨-, hcalls, -⟩ := calls_bound_by_name basicProtocolCodec_lawful hstart (.refl _)
    (Call.returned_eq_some hrun) hfind he (storeClass htable)
  rw [hord] at hcalls
  -- the use of the factory
  obtain ⟨hadm, hobs⟩ := Prod.mk.inj hleaves
  obtain ⟨side'', huse, hready⟩ := Machine.exec_observed
    (usedFactory basicProtocolCodec 7 true) side' sampleUse _ hadm hobs
  obtain ⟨hready, hmem⟩ := Prod.mk.inj hready
  obtain ⟨k, -, hall⟩ := hcalls side'' ⟨_, huse⟩
  have hset : ∀ p ∈ storeMethods.map fun p => (p.1, Sum.inr p.2),
      foldCase p.1 = foldCase (ascii "SET") → p.2 = (.inr 2 : BasicMethod ⊕ ApplicationMethod) := by
    decide +kernel
  have hget : ∀ p ∈ storeMethods.map fun p => (p.1, Sum.inr p.2),
      foldCase p.1 = foldCase (ascii "get") → p.2 = (.inr 1 : BasicMethod ⊕ ApplicationMethod) := by
    decide +kernel
  obtain ⟨name, f, hmem₁, hfold₁, hcalls₁⟩ := hall 0 (ascii "SET") rfl
  obtain ⟨name', f', hmem₂, hfold₂, hcalls₂⟩ := hall 1 (ascii "get") rfl
  obtain rfl := hset _ hmem₁ hfold₁
  obtain rfl := hget _ hmem₂ hfold₂
  exact ⟨k, s, side''.invoker, of_decide_eq_true hready, of_decide_eq_true hmem,
    hcalls₁ (fun heq => by cases heq), hcalls₂ (fun heq => by cases heq)⟩

/-- **A repeated hello is answered without a dispatch.**  A client of a class of `basic_protocol` is
told `client_allready_established` when it calls `hello`. -/
theorem hello_not_dispatched : ¬ ∀ (codec : BasicProtocolCodec) (c : ClientPtr) (resets : Bool)
    (reply : ServiceReply) (side₀ side side' : ClientSide ServerLink) (serviceName : Bytes)
    (requestData : Option Bytes) (hasResponseData : Bool) (methods : List Bytes)
    (client : ClientServiceBase) (e : OidContainerEntry (Option Service)) (s : Service)
    (fs : List (Bytes × (BasicMethod ⊕ ApplicationMethod))), codec.Lawful →
    Started codec c resets side₀ → (factoryMachine codec c resets).Reaches side₀ side →
    (ServiceClientFactory.subscribeService (lossFree codec c resets reply) codec serviceName
      requestData hasResponseData methods).runOn side = .ok (.ok client, side') →
    side.invoker.world.backEnd.services.findName serviceName = .ok (some e) → e.entry = some s →
    ClassOf s fs methods →
      CallsByName codec c resets fs methods e.ordinal s (fun _ => True) side' := by
  intro h
  obtain ⟨side, hside, hstart⟩ := startFactory_store
  have hregistered : (startFactory storeLabels).bind
      (fun side => side.invoker.world.backEnd.registered (ascii "basic_protocol")) =
        some (0, none) := by decide +kernel
  have hanswered : (startFactory storeLabels).bind (fun side =>
      (sampleSubscribe (ascii "basic_protocol") (basicProtocolMethods.map (·.1)) side).map fun p =>
        (decide (Ready 7 0 p.2.invoker.world),
          (p.2.invoker.world.exchange basicProtocolCodec 7 true ⟨0, 0, sampleHelloString⟩
            {}).toOption.isSome)) = some (true, true) := by decide +kernel
  rw [hside] at hregistered hanswered
  obtain ⟨⟨client, side'⟩, hrun, hanswered⟩ := Option.map_eq_some_iff.mp hanswered
  obtain ⟨hready, hexchange⟩ := Prod.mk.inj hanswered
  have hready : Ready 7 0 side'.invoker.world := of_decide_eq_true hready
  obtain ⟨e, s, hfind, he, hord, htable⟩ := BackEnd.registered_eq_some hregistered
  have himpl : s.impl = .basicProtocol := by
    cases himpl : s.impl with
    | basicProtocol => rfl
    | application t =>
      rw [himpl] at htable
      cases htable
  have hcalls := h _ 7 true {} side side side' (ascii "basic_protocol") none false _ client e s _
    basicProtocolCodec_lawful hstart (.refl _) (Call.returned_eq_some hrun) hfind he
    (basicProtocolClass himpl)
  rw [hord] at hcalls
  obtain ⟨k, -, hall⟩ := hcalls side' (.refl _)
  obtain ⟨name, f, hmem, hfold, hcall⟩ := hall 0 (ascii "hello") rfl
  have hhello : ∀ p ∈ basicProtocolMethods.map fun p => (p.1, Sum.inl p.2),
      foldCase p.1 = foldCase (ascii "hello") →
        p.2 = (.inl .hello : BasicMethod ⊕ ApplicationMethod) := by
    decide +kernel
  obtain rfl := hhello _ hmem hfold
  obtain ⟨v, hv, hsends⟩ := hcall trivial
  obtain rfl := eq_zero_of_hello himpl hv
  obtain ⟨r, rfl, -, -, hruns⟩ := hsends _ _ basicProtocolCodec.helloRequest
    basicProtocolCodec.helloResponse {} {}
  cases hex : side'.invoker.world.exchange basicProtocolCodec 7 true ⟨0, 0, sampleHelloString⟩
      {} with
  | error f =>
    rw [hex] at hexchange
    cases hexchange
  | ok p =>
    obtain ⟨l', -, hlink⟩ := lossFree_exchange hex
    obtain ⟨b, b', cd, cd', hran, -⟩ := (hruns hready).ran p.1 l' hlink
    exact Bool.noConfusion (hready.established.symm.trans (hran.admitted.hello rfl rfl))

end RblRpc
