import RblRpc.Client.Factory

/-!
# `subscribe_service`, step by step

What the loops and the calls of `subscribe_service` leave of a factory, over any invoker.

* `OnlyClient` — only the client of one service changes.
* `Rebound` — the ordinals that the binding loop writes; `runOn_bindMethods`.
* `runOn_subscribeService` — **the ways through `subscribe_service`**.
-/

namespace RblRpc

namespace ServiceClientFactory

variable {F σ : Type} {f f' f'' : ServiceClientFactory} {o : UInt16} {side side' : ClientSide σ}

/-! ## The client of one service -/

/-- Of the clients only the one at `o` differs. -/
structure OnlyClient (o : UInt16) (f f' : ServiceClientFactory) : Prop where
  bpc : f'.bpc = f.bpc
  wf : f.services.WF → f'.services.WF
  size : f'.services.size = f.services.size
  ids : ∀ i, (f'.services.at? i).map (·.id) = (f.services.at? i).map (·.id)
  others : ∀ o', o' ≠ o → f'.client? o' = f.client? o'

theorem OnlyClient.refl (o : UInt16) (f : ServiceClientFactory) : OnlyClient o f f :=
  ⟨rfl, id, rfl, fun _ => rfl, fun _ _ => rfl⟩

theorem OnlyClient.trans (h : OnlyClient o f f') (h' : OnlyClient o f' f'') :
    OnlyClient o f f'' where
  bpc := h'.bpc.trans h.bpc
  wf := h'.wf ∘ h.wf
  size := h'.size.trans h.size
  ids i := (h'.ids i).trans (h.ids i)
  others o' ho := (h'.others o' ho).trans (h.others o' ho)

theorem onlyClient_setClient (f : ServiceClientFactory) (o : UInt16) (client : ClientServiceBase) :
    OnlyClient o f (f.setClient o client) where
  bpc := rfl
  wf h := h.setAt _ _
  size := OidContainer.size_setAt _ _ _
  ids i := OidContainer.id_setAt _ _ _ i
  others o' ho := by rw [client?_setClient, if_neg ho]

theorem Valid.onlyClient (h : Valid f) (honly : OnlyClient o f f') : Valid f' :=
  ⟨honly.bpc ▸ h.bpc, honly.wf h.wf⟩

/-- There is a service at `o`. -/
def Lists (f : ServiceClientFactory) (o : UInt16) : Prop :=
  (f.services.at? o.toNat).isSome = true

theorem OnlyClient.lists {o' : UInt16} (h : OnlyClient o f f') (hl : f.Lists o') : f'.Lists o' := by
  rw [ServiceClientFactory.Lists, ← Option.isSome_map (f := (·.id)), h.ids, Option.isSome_map]
  exact hl

theorem Lists.client?_setClient (h : f.Lists o) (client : ClientServiceBase) :
    (f.setClient o client).client? o = some client := by
  obtain ⟨e, he⟩ := Option.isSome_iff_exists.mp h
  rw [ServiceClientFactory.client?_setClient, if_pos rfl, he]
  rfl

/-! ## The binding loop -/

/-- What the binding loop makes of the map `m`: where a method of `mes` has the name of a slot, the
slot gets its ordinal. -/
structure Rebound (mes : List MethodEntry) (m m' : OidContainer UInt16) : Prop where
  wf : m'.WF
  slot : ∀ k e, m.at? k = some e → ∃ v, m'.at? k = some { e with entry := v } ∧
    ((∃ me ∈ mes, foldCase me.serviceName = e.name.str ∧ v = me.serviceOrdinal.toUInt16) ∨
      (∀ me ∈ mes, foldCase me.serviceName ≠ e.name.str) ∧ v = e.entry)

theorem Rebound.nil {m : OidContainer UInt16} (h : m.WF) : Rebound [] m m :=
  ⟨h, fun _ e he => ⟨e.entry, he, .inr ⟨fun _ hme => (nomatch hme), rfl⟩⟩⟩

/-- A method is bound before the others. -/
theorem Rebound.cons {mes : List MethodEntry} {me : MethodEntry} {m m' : OidContainer UInt16}
    {e : OidContainerEntry UInt16} (hm : m.WF) (hat : m.at? e.ordinal.toNat = some e)
    (hname : e.name.str = foldCase me.serviceName)
    (h : Rebound mes (m.setAt e.ordinal.toNat me.serviceOrdinal.toUInt16) m') :
    Rebound (me :: mes) m m' := by
  refine ⟨h.wf, fun k x hx => ?_⟩
  by_cases hk : k = e.ordinal.toNat
  · subst hk
    cases hat.symm.trans hx
    have hat' := (OidContainer.at?_setAt m e.ordinal.toNat me.serviceOrdinal.toUInt16
      e.ordinal.toNat).trans (if_pos rfl)
    rw [hat] at hat'
    obtain ⟨v, hv, ⟨me', hme', hstr, rfl⟩ | ⟨-, rfl⟩⟩ := h.slot _ _ hat'
    · exact ⟨_, hv, .inl ⟨me', List.mem_cons_of_mem _ hme', hstr, rfl⟩⟩
    · exact ⟨_, hv, .inl ⟨me, List.mem_cons_self, hname.symm, rfl⟩⟩
  · have hat' := (OidContainer.at?_setAt m e.ordinal.toNat me.serviceOrdinal.toUInt16 k).trans
      (if_neg hk)
    obtain ⟨v, hv, ⟨me', hme', hstr, rfl⟩ | ⟨hno, rfl⟩⟩ := h.slot _ _ (hat'.trans hx)
    · exact ⟨_, hv, .inl ⟨me', List.mem_cons_of_mem _ hme', hstr, rfl⟩⟩
    · refine ⟨_, hv, .inr ⟨fun me' hme' hstr => ?_, rfl⟩⟩
      rcases List.mem_cons.mp hme' with rfl | hme'
      · -- the name of another slot
        have hsame : x.name = e.name := OidName.ext (hstr.symm.trans hname.symm)
        refine hk (hm.name_inj ?_ ?_ ?_)
        · rw [OidContainer.nameAt_of_at? hx]
          exact (OidContainer.at?_eq_some.mp hx).2
        · rw [OidContainer.nameAt_of_at? hat]
          exact (OidContainer.at?_eq_some.mp hat).2
        · rw [OidContainer.nameAt_of_at? hx, OidContainer.nameAt_of_at? hat, hsame]
      · exact hno me' hme' hstr

theorem runOn_putClient (o : UInt16) (client : ClientServiceBase) (side : ClientSide σ) :
    (putClient o client : ClientCall F (ClientSide σ) Unit).runOn side =
      .ok (.ok (), { side with factory := side.factory.setClient o client }) := rfl

/-- One turn of the binding loop. -/
theorem runOn_bindMethod {me : MethodEntry} {res : Except ClientException Unit}
    {client : ClientServiceBase} (hlegal : LegalName me.serviceName)
    (hclient : side.factory.client? o = some client) (hwf : client.serviceMethodMap.WF)
    (h : (bindMethod o me : ClientCall F _ _).runOn side = .ok (res, side')) :
    ∃ e, client.serviceMethodMap.at? e.ordinal.toNat = some e ∧
      e.name.str = foldCase me.serviceName ∧ res = .ok () ∧
      side' = { side with
        factory := side.factory.setClient o { client with
          serviceMethodMap := client.serviceMethodMap.setAt e.ordinal.toNat
            me.serviceOrdinal.toUInt16 } } := by
  obtain ⟨r, hr, hfound⟩ := hwf.findName_total hlegal
  unfold bindMethod at h
  rw [Call.runOn_bind_of_ok (a := client) (t := side)
    (by rw [runOn_clientAt, hclient]; rfl)] at h
  rw [Call.runOn_bind_of_ok (a := r) (t := side)
    (by rw [hr]; rfl)] at h
  cases r with
  | none => cases h
  | some e =>
    dsimp only at h
    rw [runOn_putClient] at h
    cases h
    obtain ⟨hat, hname⟩ := (hfound e).mp rfl
    exact ⟨e, hat, hname, rfl, rfl⟩

/-- **The binding loop** returns, and writes the ordinals of the methods it finds. -/
theorem runOn_bindMethods {mes : List MethodEntry} {res : Except ClientException Unit}
    {client : ClientServiceBase} (hlegal : ∀ me ∈ mes, LegalName me.serviceName)
    (hlists : side.factory.Lists o) (hclient : side.factory.client? o = some client)
    (hwf : client.serviceMethodMap.WF)
    (h : (bindMethods o mes : ClientCall F _ _).runOn side = .ok (res, side')) :
    res = .ok () ∧ side'.invoker = side.invoker ∧ OnlyClient o side.factory side'.factory ∧
      ∃ m, side'.factory.client? o = some { client with serviceMethodMap := m } ∧
        Rebound mes client.serviceMethodMap m := by
  induction mes generalizing side client with
  | nil =>
    cases h
    exact ⟨rfl, rfl, .refl _ _, _, hclient, .nil hwf⟩
  | cons me mes ih =>
    unfold bindMethods at h
    rcases Call.runOn_bind_eq_ok.mp h with ⟨x, hthrow, -⟩ | ⟨u, side₁, hbind, hrest⟩
    · obtain ⟨-, -, -, hres, -⟩ := runOn_bindMethod (hlegal me List.mem_cons_self) hclient hwf hthrow
      cases hres
    · obtain ⟨e, hat, hname, -, rfl⟩ :=
        runOn_bindMethod (hlegal me List.mem_cons_self) hclient hwf hbind
      have honly := onlyClient_setClient side.factory o { client with
        serviceMethodMap := client.serviceMethodMap.setAt e.ordinal.toNat
          me.serviceOrdinal.toUInt16 }
      obtain ⟨hres, hinv, honly', m, hm, hrebound⟩ :=
        ih (fun me' hme' => hlegal me' (List.mem_cons_of_mem _ hme')) (honly.lists hlists)
          (hlists.client?_setClient _) (hwf.setAt _ _) hrest
      exact ⟨hres, hinv, honly.trans honly', m, hm, .cons hwf hat hname hrebound⟩

/-! ## The calls -/

variable {inv : InvokerBase F σ} {codec : BasicProtocolCodec} {serviceName : Bytes}

theorem runOn_rpc_eq_ok {α : Type} {call : ClientServiceBase → ClientCall F σ α}
    {res : Except ClientException α} : (ClientSide.rpc call).runOn side = .ok (res, side') ↔
      ∃ i, (call side.factory.bpc).runOn side.invoker = .ok (res, i) ∧
        side' = { side with invoker := i } := by
  rw [ClientSide.runOn_rpc, Call.map_eq_ok]
  constructor
  · rintro ⟨⟨r, i⟩, h, heq⟩
    cases heq
    exact ⟨i, h, rfl⟩
  · rintro ⟨i, h, rfl⟩
    exact ⟨(res, i), h, rfl⟩

theorem runOn_entryNamed_eq_ok
    {res : Except ClientException (OidContainerEntry (Option ClientServiceBase))}
    (h : (entryNamed serviceName : ClientCall F _ _).runOn side = .ok (res, side')) :
    side.factory.lookup serviceName = res ∧ side = side' := by
  rw [runOn_entryNamed] at h
  exact Prod.mk.inj (Except.ok.inj h)

/-- `subscribe_service` asks the server to subscribe; `e` is the entry of the service. -/
structure Asks (f : ServiceClientFactory) (serviceName : Bytes)
    (e : OidContainerEntry (Option ClientServiceBase)) : Prop where
  lookup : f.lookup serviceName = .ok e
  fresh : e.entry = none
  ordinal : e.ordinal < f.serviceCount

/-- The answers that `subscribe_service` takes for a subscription. -/
def TakesFor (hasResponseData : Bool) (answer : Except ClientException SubscribeServiceResponse) :
    Prop :=
  ∃ res, answer = .ok res ∧ res.getError = .noSubscribeServiceError ∧
    (res.subscribeResultString.getD [] = [] ∨ hasResponseData = true)

/-- **The ways through `subscribe_service`**: it throws before it asks, it throws after the answer,
or it makes a client. -/
theorem runOn_subscribeService {requestData : Option Bytes} {hasResponseData : Bool}
    {methods : List Bytes} {res : Except ClientException ClientServiceBase}
    (h : (subscribeService inv codec serviceName requestData hasResponseData methods).runOn side =
      .ok (res, side')) :
    ((∀ e, ¬Asks side.factory serviceName e) ∧ side' = side ∧ ∃ x, res = .error x) ∨
    ∃ e answer i, Asks side.factory serviceName e ∧
      (BasicProtocolClient.rpcSubscribeService inv codec ⟨e.ordinal.toUInt32, requestData⟩
        side.factory.bpc).runOn side.invoker = .ok (answer, i) ∧
      (¬TakesFor hasResponseData answer ∧ side' = { side with invoker := i } ∧
          (∃ x, res = .error x) ∨
        TakesFor hasResponseData answer ∧
          (makeClient inv codec methods e.ordinal).runOn { side with invoker := i } =
            .ok (res, side')) := by
  unfold subscribeService at h
  rcases Call.runOn_bind_eq_ok.mp h with ⟨x, hthrow, rfl⟩ | ⟨e, side₁, hentry, h⟩
  · obtain ⟨hlookup, rfl⟩ := runOn_entryNamed_eq_ok hthrow
    exact .inl ⟨fun e he => (nomatch hlookup.symm.trans he.lookup), rfl, x, rfl⟩
  · obtain ⟨hlookup, rfl⟩ := runOn_entryNamed_eq_ok hentry
    have honly : ∀ e', Asks side.factory serviceName e' → e' = e := fun e' he' =>
      Except.ok.inj (he'.lookup.symm.trans hlookup)
    split at h
    · rename_i hsome
      cases h
      refine .inl ⟨fun e' he' => ?_, rfl, _, rfl⟩
      rw [← honly e' he', he'.fresh] at hsome
      cases hsome
    · rename_i hnone
      rw [Call.runOn_bind_of_ok (Call.runOn_get side)] at h
      split at h
      · rename_i hle
        cases h
        refine .inl ⟨fun e' he' => ?_, rfl, _, rfl⟩
        rw [← honly e' he'] at hle
        exact absurd he'.ordinal (UInt16.not_lt.mpr hle)
      · rename_i hlt
        have hasks : Asks side.factory serviceName e :=
          ⟨hlookup, by simpa using hnone, UInt16.not_le.mp hlt⟩
        rcases Call.runOn_bind_eq_ok.mp h with ⟨x, hthrow, rfl⟩ | ⟨r, side₁, hrpc, h⟩
        · obtain ⟨i, hcall, rfl⟩ := runOn_rpc_eq_ok.mp hthrow
          refine .inr ⟨e, _, i, hasks, hcall, .inl ⟨?_, rfl, x, rfl⟩⟩
          rintro ⟨r, hr, -⟩
          cases hr
        · obtain ⟨i, hcall, rfl⟩ := runOn_rpc_eq_ok.mp hrpc
          refine .inr ⟨e, _, i, hasks, hcall, ?_⟩
          split at h
          · rename_i herr
            cases h
            refine .inl ⟨?_, rfl, _, rfl⟩
            rintro ⟨r', hr', hno, -⟩
            cases hr'
            exact herr hno
          · rename_i herr
            split at h
            · rename_i hstring
              cases h
              refine .inl ⟨?_, rfl, _, rfl⟩
              rintro ⟨r', hr', -, hempty | hdata⟩
              · cases hr'
                exact hstring.1 hempty
              · exact nomatch hdata.symm.trans hstring.2
            · rename_i hstring
              refine .inr ⟨⟨r, rfl, not_not.mp herr, ?_⟩, h⟩
              by_contra hno
              push Not at hno
              exact hstring ⟨hno.1, by simpa using hno.2⟩

/-- `get_service` leaves everything as it is. -/
theorem runOn_getService {res : Except ClientException ClientServiceBase}
    (h : (getService serviceName : ClientCall F _ _).runOn side = .ok (res, side')) :
    side' = side := by
  unfold getService at h
  rcases Call.runOn_bind_eq_ok.mp h with ⟨x, hthrow, -⟩ | ⟨e, side₁, hentry, h⟩
  · exact (runOn_entryNamed_eq_ok hthrow).2.symm
  · obtain ⟨-, rfl⟩ := runOn_entryNamed_eq_ok hentry
    split at h <;> cases h <;> rfl

/-- **The ways through `unsubscribe_service`.** -/
theorem runOn_unsubscribeService {res : Except ClientException Unit}
    (h : (unsubscribeService inv codec serviceName).runOn side = .ok (res, side')) :
    side' = side ∨ ∃ e client answer i, side.factory.lookup serviceName = .ok e ∧
      e.entry = some client ∧
      (BasicProtocolClient.rpcUnsubscribeService inv codec ⟨e.ordinal.toUInt32⟩
        side.factory.bpc).runOn side.invoker = .ok (answer, i) ∧
      (side' = { side with invoker := i } ∧
          (∀ r, answer = .ok r → r.getError ≠ .noSubscribeServiceError) ∨
        (∃ r, answer = .ok r ∧ r.getError = .noSubscribeServiceError) ∧
          side' = ⟨side.factory.setClient e.ordinal { client with isSubscribed := false }, i⟩) := by
  unfold unsubscribeService at h
  rcases Call.runOn_bind_eq_ok.mp h with ⟨x, hthrow, -⟩ | ⟨e, side₁, hentry, h⟩
  · exact .inl (runOn_entryNamed_eq_ok hthrow).2.symm
  · obtain ⟨hlookup, rfl⟩ := runOn_entryNamed_eq_ok hentry
    split at h
    · cases h
      exact .inl rfl
    · rename_i client hclient
      rcases Call.runOn_bind_eq_ok.mp h with ⟨x, hthrow, rfl⟩ | ⟨r, side₁, hrpc, h⟩
      · obtain ⟨i, hcall, rfl⟩ := runOn_rpc_eq_ok.mp hthrow
        exact .inr ⟨e, client, _, i, hlookup, hclient, hcall, .inl ⟨rfl, fun r hr => nomatch hr⟩⟩
      · obtain ⟨i, hcall, rfl⟩ := runOn_rpc_eq_ok.mp hrpc
        refine .inr ⟨e, client, _, i, hlookup, hclient, hcall, ?_⟩
        split at h
        · rename_i herr
          cases h
          refine .inl ⟨rfl, fun r' hr' => ?_⟩
          cases hr'
          exact herr
        · rename_i herr
          cases h
          exact .inr ⟨⟨r, rfl, not_not.mp herr⟩, rfl⟩

/-- **A constructor that returns**: hello, the listing, and the loop that records it. -/
theorem runOn_new {i i' : σ} {name : Bytes} {sourceType : SourceConnectionType}
    {destType : DestinationConnectionType}
    (h : (new inv codec name sourceType destType).runOn i = .ok (.ok f, i')) :
    inv.isUseable i = true ∧ Bound f.bpc ∧ ∃ hres i₁ lres,
      (BasicProtocolClient.hello inv codec ⟨sourceType, destType, name⟩ f.bpc).runOn i =
        .ok (.ok hres, i₁) ∧ hres.getErrorType = .noHelloErrors ∧
      (BasicProtocolClient.listServices inv codec {} f.bpc).runOn i₁ = .ok (.ok lres, i') ∧
      recordServices lres.services .empty = .ok f.services := by
  unfold new at h
  rw [Call.runOn_bind_of_ok (Call.runOn_get i)] at h
  split at h
  · cases h
  · rename_i huse
    obtain ⟨bpc, hbpc, hclient⟩ := runOn_basicProtocolClient (F := F) (σ := σ)
    rw [Call.runOn_bind_of_ok (hclient i)] at h
    rcases Call.runOn_bind_eq_ok.mp h with ⟨x, -, hres⟩ | ⟨hres, i₁, hhello, h⟩
    · cases hres
    · split at h
      · cases h
      · rename_i hno
        rcases Call.runOn_bind_eq_ok.mp h with ⟨x, -, hres⟩ | ⟨lres, i₂, hlist, h⟩
        · cases hres
        · rcases Call.runOn_bind_eq_ok.mp h with ⟨x, -, hres⟩ | ⟨services, i₃, hrec, h⟩
          · cases hres
          · obtain ⟨hmap, rfl⟩ := Prod.mk.inj (Except.ok.inj hrec)
            cases h
            exact ⟨by simpa using huse, hbpc, hres, i₁, lres, hhello, not_not.mp hno, hlist,
              mapError_eq_ok.mp hmap⟩

end ServiceClientFactory

end RblRpc
