import RblRpc.Client.Sessions

/-!
# Binding different sets of methods

The binding phase of `subscribe_service` runs over two tables: the methods that the server announces
and the map of the client class, whose slots hold `-1` at first.

* `bindClient` — the phase; `makeClient_eq`: it is the end of `subscribe_service`.
* `announced` — the ordinal that the server announces for a name.
* `BindsOrFails` — the phase throws `BackEndException`, or every slot holds what was announced.
* `binds_or_fails_iff` — **so it does exactly when the two sets are the same**, and the ordinals fit.
-/

namespace RblRpc

open World ServiceClientFactory Transition

variable {F σ : Type} {side side' : ClientSide σ} {o : UInt16}

/-- The loop over the announced methods, and the loop over the map of the client. -/
def bindClient (o : UInt16) (mes : List MethodEntry) :
    ClientCall F (ClientSide σ) ClientServiceBase := do
  bindMethods o mes
  let client ← clientAt o
  checkMethods client.serviceMethodMap (List.range client.serviceMethodMap.size)
  return client

/-- The end of `subscribe_service` binds the client it has made. -/
theorem makeClient_eq (inv : InvokerBase F σ) (codec : BasicProtocolCodec) (methods : List Bytes)
    (o : UInt16) :
    makeClient inv codec methods o = (do
      putClient o (← throwing (ClientServiceBase.construct methods))
      let lm_res ← ClientSide.rpc (BasicProtocolClient.listMethods inv codec ⟨o.toUInt32⟩)
      if lm_res.getError ≠ .noListMethodError then throw .backEnd
      else
        let client ← bindClient o lm_res.methods
        let client := { client with serviceOrdinal := some o, isSubscribed := true }
        putClient o client
        return client) := by
  simp only [makeClient, bindClient, bind_assoc, pure_bind]

/-- The entry has this name, as `operator[]` compares names. -/
def MethodEntry.names (me : MethodEntry) (n : OidName) : Bool :=
  match OidName.construct_ me.serviceName with
  | .ok m => decide (m = n)
  | .error _ => false

theorem MethodEntry.names_iff {me : MethodEntry} {n : OidName} :
    me.names n = true ↔ OidName.construct_ me.serviceName = .ok n := by
  unfold names
  cases OidName.construct_ me.serviceName with
  | error x => simp
  | ok m => simp

/-- The ordinal that the server announces for a name; a later entry replaces an earlier one. -/
def announced : List MethodEntry → OidName → Option UInt32
  | [], _ => none
  | me :: mes, n =>
    match announced mes n with
    | some v => some v
    | none => if me.names n then some me.serviceOrdinal else none

/-- Every announced name is one of the map's. -/
def Known (mes : List MethodEntry) (m : OidContainer UInt16) : Prop :=
  ∀ me ∈ mes, ∃ k e, m.at? k = some e ∧ me.names e.name = true

/-- The two sets of methods are the same, the map has no hole, and the ordinals have 16 bits. -/
structure SameMethods (mes : List MethodEntry) (m : OidContainer UInt16) : Prop where
  known : Known mes m
  full : ∀ k < m.size, (m.at? k).isSome = true
  announced : ∀ k e, m.at? k = some e → ∃ v : UInt16, announced mes e.name = some v.toUInt32

/-- **Binding is complete, or fails cleanly**: the phase ends, with a `BackEndException` or with a
client each of whose slots holds the ordinal announced for its name; it throws if a method of the
client is not announced. -/
structure BindsOrFails (mes : List MethodEntry) (m : OidContainer UInt16)
    (r : Except (ClientFault F) (Except ClientException ClientServiceBase × ClientSide σ)) :
    Prop where
  ends : ∃ res side', r = .ok (res, side')
  clean : ∀ x side', r = .ok (.error x, side') → x = .backEnd
  complete : ∀ client side', r = .ok (.ok client, side') → ∀ k e, m.at? k = some e →
    ∃ v : UInt16, client.serviceMethodMap.at? k = some { e with entry := v } ∧
      announced mes e.name = some v.toUInt32
  missing : (∃ k e, m.at? k = some e ∧ announced mes e.name = none) →
    ∃ side', r = .ok (.error .backEnd, side')

/-! ## The loop over the announced methods -/

/-- What the loop makes of the map. -/
structure Announces (mes : List MethodEntry) (m m' : OidContainer UInt16) : Prop where
  wf : m'.WF
  size : m'.size = m.size
  slot : ∀ k, m'.at? k = (m.at? k).map fun e =>
    { e with entry := ((announced mes e.name).map UInt32.toUInt16).getD e.entry }

theorem Announces.nil {m : OidContainer UInt16} (h : m.WF) : Announces [] m m where
  wf := h
  size := rfl
  slot k := by cases m.at? k <;> rfl

/-- One entry, and the others after it. -/
theorem Announces.cons {mes : List MethodEntry} {me : MethodEntry} {m m' : OidContainer UInt16}
    {e : OidContainerEntry UInt16} (hm : m.WF) (hat : m.at? e.ordinal.toNat = some e)
    (hname : me.names e.name = true)
    (h : Announces mes (m.setAt e.ordinal.toNat me.serviceOrdinal.toUInt16) m') :
    Announces (me :: mes) m m' where
  wf := h.wf
  size := h.size.trans (OidContainer.size_setAt _ _ _)
  slot k := by
    rw [h.slot, OidContainer.at?_setAt]
    by_cases hk : k = e.ordinal.toNat
    · subst hk
      rw [if_pos rfl, hat]
      simp only [Option.map_some, OidContainerEntry.name, announced]
      simp only [OidContainerEntry.name] at hname
      cases announced mes e.id.name with
      | some v => rfl
      | none => simp [hname]
    · rw [if_neg hk]
      cases hx : m.at? k with
      | none => rfl
      | some x =>
        -- another slot has another name
        have hother : me.names x.name = false := by
          by_contra hsame
          rw [Bool.not_eq_false, MethodEntry.names_iff] at hsame
          rw [MethodEntry.names_iff, hsame, Except.ok.injEq] at hname
          exact hk (hm.at?_inj hx hat hname)
        simp only [Option.map_some, announced, hother]
        cases announced mes x.name <;> rfl

/-- A write to a slot of the map changes no name. -/
theorem known_setAt {mes : List MethodEntry} {m : OidContainer UInt16} (i : ℕ) (v : UInt16) :
    Known mes (m.setAt i v) ↔ Known mes m := by
  have hids : ∀ m₁ m₂ : OidContainer UInt16,
      (∀ k, (m₁.at? k).map (·.id) = (m₂.at? k).map (·.id)) → Known mes m₁ → Known mes m₂ := by
    intro m₁ m₂ heq h me hme
    obtain ⟨k, e, he, hname⟩ := h me hme
    have hid := heq k
    rw [he] at hid
    obtain ⟨e', he', hsame⟩ := Option.map_eq_some_iff.mp hid.symm
    refine ⟨k, e', he', ?_⟩
    rw [OidContainerEntry.name, hsame]
    exact hname
  constructor
  · exact hids _ _ fun k => OidContainer.id_setAt m i v k
  · exact hids _ _ fun k => (OidContainer.id_setAt m i v k).symm

/-- A name of the map is found. -/
theorem findName_of_names {me : MethodEntry} {m : OidContainer UInt16} (h : m.WF) {k : ℕ}
    {e : OidContainerEntry UInt16} (he : m.at? k = some e) (hname : me.names e.name = true) :
    m.findName me.serviceName = .ok (some e) := by
  have hconstruct := MethodEntry.names_iff.mp hname
  simp only [OidContainer.findName, hconstruct, bind, Except.bind]
  exact (h.entryWithName_iff (OidContainer.at?_eq_some.mp he).2).mpr ⟨k, he, rfl⟩

/-- A turn of the loop whose name is known. -/
theorem runOn_bindMethod_names {me : MethodEntry} {client : ClientServiceBase}
    (hclient : side.factory.client? o = some client) (hwf : client.serviceMethodMap.WF)
    {e : OidContainerEntry UInt16} {k : ℕ} (he : client.serviceMethodMap.at? k = some e)
    (hname : me.names e.name = true) :
    (bindMethod o me : ClientCall F _ _).runOn side = .ok (.ok (), { side with
      factory := side.factory.setClient o { client with
        serviceMethodMap := client.serviceMethodMap.setAt e.ordinal.toNat
          me.serviceOrdinal.toUInt16 } }) := by
  unfold bindMethod
  rw [Call.runOn_bind_of_ok (a := client) (t := side) (by rw [runOn_clientAt, hclient]; rfl),
    Call.runOn_bind_of_ok (a := some e) (t := side)
      (by rw [findName_of_names hwf he hname]; rfl)]
  exact runOn_putClient _ _ _

/-- A turn of the loop that returns has found its name. -/
theorem names_of_runOn_bindMethod {me : MethodEntry} {client : ClientServiceBase}
    (hclient : side.factory.client? o = some client) (hwf : client.serviceMethodMap.WF)
    (h : (bindMethod o me : ClientCall F _ _).runOn side = .ok (.ok (), side')) :
    ∃ e, client.serviceMethodMap.at? e.ordinal.toNat = some e ∧ me.names e.name = true := by
  unfold bindMethod at h
  rw [Call.runOn_bind_of_ok (a := client) (t := side)
    (by rw [runOn_clientAt, hclient]; rfl)] at h
  rcases Call.runOn_bind_eq_ok.mp h with ⟨x, -, hres⟩ | ⟨r, side₁, hfind, h⟩
  · cases hres
  · cases hf : client.serviceMethodMap.findName me.serviceName with
    | error x =>
      rw [hf] at hfind
      cases hfind
    | ok found =>
      rw [hf] at hfind
      cases hfind
      cases r with
      | none => cases h
      | some e =>
        obtain ⟨hat, hname⟩ := hwf.findName_eq_some hf
        exact ⟨e, hat, MethodEntry.names_iff.mpr hname⟩

/-- **The loop returns when every name is known**, and has announced them all to the map. -/
theorem runOn_bindMethods_known {mes : List MethodEntry} {client : ClientServiceBase}
    (hlists : side.factory.Lists o) (hclient : side.factory.client? o = some client)
    (hwf : client.serviceMethodMap.WF) (hknown : Known mes client.serviceMethodMap) :
    ∃ m side', (bindMethods o mes : ClientCall F _ _).runOn side = .ok (.ok (), side') ∧
      side'.factory.client? o = some { client with serviceMethodMap := m } ∧
      Announces mes client.serviceMethodMap m := by
  induction mes generalizing side client with
  | nil => exact ⟨_, side, rfl, hclient, .nil hwf⟩
  | cons me mes ih =>
    obtain ⟨k, e, he, hname⟩ := hknown me List.mem_cons_self
    have hat : client.serviceMethodMap.at? e.ordinal.toNat = some e := by
      rw [hwf.ordinal k e he]
      exact he
    have hrest : Known mes (client.serviceMethodMap.setAt e.ordinal.toNat
        me.serviceOrdinal.toUInt16) :=
      (known_setAt _ _).mpr fun me' hme' => hknown me' (List.mem_cons_of_mem _ hme')
    let client₁ : ClientServiceBase := { client with
      serviceMethodMap := client.serviceMethodMap.setAt e.ordinal.toNat
        me.serviceOrdinal.toUInt16 }
    have hlists₁ : ({ side with factory := side.factory.setClient o client₁ } :
        ClientSide σ).factory.Lists o := (onlyClient_setClient side.factory o client₁).lists hlists
    obtain ⟨m, side', hrun, hm, hann⟩ :=
      ih hlists₁ (hlists.client?_setClient client₁) (hwf.setAt _ _) hrest
    refine ⟨m, side', ?_, hm, hann.cons hwf hat hname⟩
    unfold bindMethods
    rw [Call.runOn_bind_of_ok (runOn_bindMethod_names hclient hwf he hname)]
    exact hrun

/-- **A loop that returns knew every name.** -/
theorem known_of_runOn_bindMethods {mes : List MethodEntry} {client : ClientServiceBase}
    (hlists : side.factory.Lists o) (hclient : side.factory.client? o = some client)
    (hwf : client.serviceMethodMap.WF)
    (h : (bindMethods o mes : ClientCall F _ _).runOn side = .ok (.ok (), side')) :
    Known mes client.serviceMethodMap := by
  induction mes generalizing side client with
  | nil => exact fun me hme => (List.not_mem_nil hme).elim
  | cons me mes ih =>
    unfold bindMethods at h
    rcases Call.runOn_bind_eq_ok.mp h with ⟨x, -, hres⟩ | ⟨u, side₁, hbind, hrest⟩
    · cases hres
    · obtain ⟨e, hat, hname⟩ := names_of_runOn_bindMethod hclient hwf hbind
      rw [runOn_bindMethod_names hclient hwf hat hname] at hbind
      cases hbind
      have honly := onlyClient_setClient side.factory o { client with
        serviceMethodMap := client.serviceMethodMap.setAt e.ordinal.toNat
          me.serviceOrdinal.toUInt16 }
      have hknown := ih (honly.lists hlists) (hlists.client?_setClient _) (hwf.setAt _ _) hrest
      intro me' hme'
      rcases List.mem_cons.mp hme' with rfl | hme'
      · exact ⟨_, e, hat, hname⟩
      · exact (known_setAt _ _).mp hknown me' hme'

/-- What a turn of the loop throws is an exception of the identifier classes. -/
theorem std_of_runOn_bindMethod {me : MethodEntry} {x : ClientException}
    (h : (bindMethod o me : ClientCall F _ _).runOn side = .ok (.error x, side')) :
    ∃ y, x = .std y := by
  unfold bindMethod at h
  rcases Call.runOn_bind_eq_ok.mp h with ⟨y, hthrow, -⟩ | ⟨client, side₁, -, h⟩
  · rw [runOn_clientAt, Call.runOn_ofOption_eq_ok] at hthrow
    obtain ⟨a, -, hres, -⟩ := hthrow
    cases hres
  · rcases Call.runOn_bind_eq_ok.mp h with ⟨y, hthrow, hres⟩ | ⟨found, side₂, -, h⟩
    · cases hres
      cases hf : client.serviceMethodMap.findName me.serviceName with
      | error z =>
        rw [hf] at hthrow
        cases hthrow
        exact ⟨z, rfl⟩
      | ok r =>
        rw [hf] at hthrow
        cases hthrow
    · cases found with
      | none => cases h
      | some e => cases h

theorem std_of_runOn_bindMethods {mes : List MethodEntry} {x : ClientException}
    (h : (bindMethods o mes : ClientCall F _ _).runOn side = .ok (.error x, side')) :
    ∃ y, x = .std y := by
  induction mes generalizing side with
  | nil => cases h
  | cons me mes ih =>
    unfold bindMethods at h
    rcases Call.runOn_bind_eq_ok.mp h with ⟨y, hthrow, hres⟩ | ⟨u, side₁, -, hrest⟩
    · cases hres
      exact std_of_runOn_bindMethod hthrow
    · exact ih hrest

/-! ## The loop over the map -/

/-- The map without holes, as the check reads it: with 16 bits. -/
theorem full_iff {m : OidContainer UInt16} (hfit : m.size ≤ 65536) :
    (∀ i ∈ List.range m.size, (m.atOrdinal (UInt16.ofNat i)).isSome = true) ↔
      ∀ k < m.size, (m.at? k).isSome = true := by
  refine ⟨fun h k hk => ?_, fun h k hk => ?_⟩
  · have hsome := h k (List.mem_range.mpr hk)
    rw [atOrdinal_eq, Option.isSome_map, UInt16.toNat_ofNat_of_lt' (show k < 65536 by omega)] at hsome
    exact hsome
  · have hlt := List.mem_range.mp hk
    rw [atOrdinal_eq, Option.isSome_map, UInt16.toNat_ofNat_of_lt' (show k < 65536 by omega)]
    exact h k hlt

/-- The map of a generated class has a slot for each method. -/
theorem construct_size {methods : List Bytes} {made : ClientServiceBase}
    (hnames : ∀ n ∈ methods, n ≠ [] ∧ (0 : UInt8) ∉ n)
    (h : ClientServiceBase.construct methods = .ok made) : made.serviceMethodMap.size ≤ 65536 := by
  obtain ⟨t, ht, hret⟩ := bind_eq_ok.mp h
  cases hret
  refine (setMethods_size .empty (fun p hp => ?_) rfl (Nat.zero_le _) ht).2
  obtain ⟨n, hn, rfl⟩ := List.mem_map.mp hp
  exact hnames n hn

/-! ## The phase -/

section Phase

variable {mes : List MethodEntry} {made : ClientServiceBase}

/-- What the loop announces leaves the holes. -/
theorem Announces.isSome {m m' : OidContainer UInt16} (h : Announces mes m m') (k : ℕ) :
    (m'.at? k).isSome = (m.at? k).isSome := by
  rw [h.slot, Option.isSome_map]

/-- **The phase returns when the methods are known and the map has no hole.** -/
theorem runOn_bindClient_known (hlists : side.factory.Lists o)
    (hclient : side.factory.client? o = some made) (hwf : made.serviceMethodMap.WF)
    (hfit : made.serviceMethodMap.size ≤ 65536) (hknown : Known mes made.serviceMethodMap)
    (hfull : ∀ k < made.serviceMethodMap.size, (made.serviceMethodMap.at? k).isSome = true) :
    ∃ m side', (bindClient o mes : ClientCall F _ _).runOn side =
        .ok (.ok { made with serviceMethodMap := m }, side') ∧
      Announces mes made.serviceMethodMap m := by
  obtain ⟨m, side', hrun, hm, hann⟩ := runOn_bindMethods_known (F := F) hlists hclient hwf hknown
  refine ⟨m, side', ?_, hann⟩
  unfold bindClient
  rw [Call.runOn_bind_of_ok hrun,
    Call.runOn_bind_of_ok (a := { made with serviceMethodMap := m }) (t := side')
      (by rw [runOn_clientAt, hm]; rfl),
    Call.runOn_bind_of_ok (a := ()) (t := side') (runOn_checkMethods_iff.mpr ⟨rfl, rfl, ?_⟩)]
  · rfl
  · refine (full_iff (by rw [hann.size]; exact hfit)).mpr fun k hk => ?_
    rw [hann.isSome]
    exact hfull k (by rw [← hann.size]; exact hk)

/-- **A phase that returns** knew the methods and met no hole. -/
theorem runOn_bindClient_ok {client : ClientServiceBase} (hlists : side.factory.Lists o)
    (hclient : side.factory.client? o = some made) (hwf : made.serviceMethodMap.WF)
    (hfit : made.serviceMethodMap.size ≤ 65536)
    (h : (bindClient o mes : ClientCall F _ _).runOn side = .ok (.ok client, side')) :
    Known mes made.serviceMethodMap ∧
      (∀ k < made.serviceMethodMap.size, (made.serviceMethodMap.at? k).isSome = true) ∧
      Announces mes made.serviceMethodMap client.serviceMethodMap := by
  unfold bindClient at h
  rcases Call.runOn_bind_eq_ok.mp h with ⟨x, -, hres⟩ | ⟨u, side₁, hbind, h⟩
  · cases hres
  · have hknown := known_of_runOn_bindMethods hlists hclient hwf hbind
    obtain ⟨m, side₂, hrun, hm, hann⟩ :=
      runOn_bindMethods_known (F := F) hlists hclient hwf hknown
    rw [hrun] at hbind
    cases hbind
    rw [Call.runOn_bind_of_ok (a := { made with serviceMethodMap := m }) (t := side₁)
      (by rw [runOn_clientAt, hm]; rfl)] at h
    rcases Call.runOn_bind_eq_ok.mp h with ⟨x, -, hres⟩ | ⟨u', side₃, hcheck, h⟩
    · cases hres
    · cases h
      refine ⟨hknown, fun k hk => ?_, hann⟩
      rw [← hann.isSome]
      have hnone := (runOn_checkMethods_iff.mp hcheck).2.2
      refine (full_iff (by rw [hann.size]; exact hfit)).mp hnone k ?_
      rw [hann.size]
      exact hk

/-- The phase throws exceptions of the identifier classes only. -/
theorem std_of_runOn_bindClient {x : ClientException}
    (h : (bindClient o mes : ClientCall F _ _).runOn side = .ok (.error x, side')) :
    ∃ y, x = .std y := by
  unfold bindClient at h
  rcases Call.runOn_bind_eq_ok.mp h with ⟨y, hthrow, hres⟩ | ⟨u, side₁, -, h⟩
  · cases hres
    exact std_of_runOn_bindMethods hthrow
  · rcases Call.runOn_bind_eq_ok.mp h with ⟨y, hthrow, -⟩ | ⟨client, side₂, -, h⟩
    · rw [runOn_clientAt, Call.runOn_ofOption_eq_ok] at hthrow
      obtain ⟨a, -, hres, -⟩ := hthrow
      cases hres
    · rcases Call.runOn_bind_eq_ok.mp h with ⟨y, hthrow, -⟩ | ⟨u', side₃, -, h⟩
      · obtain ⟨hres, -⟩ := runOn_checkMethods_iff.mp hthrow
        cases hres
      · cases h

/-- **Binding is complete or fails cleanly** exactly when the server announces the methods of the
client, for every list that it announces and every class of client. -/
theorem binds_or_fails_iff {methods : List Bytes} (hlists : side.factory.Lists o)
    (hclient : side.factory.client? o = some made) (hnames : ∀ n ∈ methods, n ≠ [] ∧ (0 : UInt8) ∉ n)
    (hmade : ClientServiceBase.construct methods = .ok made) :
    BindsOrFails mes made.serviceMethodMap
        ((bindClient o mes : ClientCall F (ClientSide σ) _).runOn side) ↔
      SameMethods mes made.serviceMethodMap := by
  have hwf := construct_wf hnames hmade
  have hfit : made.serviceMethodMap.size ≤ 65536 := construct_size hnames hmade
  constructor
  · intro h
    obtain ⟨res, side', hrun⟩ := h.ends
    cases res with
    | error x =>
      -- the phase throws no `BackEndException`
      obtain ⟨y, hy⟩ := std_of_runOn_bindClient hrun
      rw [h.clean x side' hrun] at hy
      cases hy
    | ok client =>
      obtain ⟨hknown, hfull, -⟩ := runOn_bindClient_ok hlists hclient hwf hfit hrun
      refine ⟨hknown, hfull, fun k e he => ?_⟩
      obtain ⟨v, -, hv⟩ := h.complete client side' hrun k e he
      exact ⟨v, hv⟩
  · intro h
    obtain ⟨m, side', hrun, hann⟩ :=
      runOn_bindClient_known (F := F) hlists hclient hwf hfit h.known h.full
    rw [hrun]
    refine ⟨⟨_, _, rfl⟩, fun x side₁ hx => ?_, fun client side₁ hres k e he => ?_, ?_⟩
    · cases hx
    · cases hres
      obtain ⟨v, hv⟩ := h.announced k e he
      refine ⟨v, ?_, hv⟩
      rw [hann.slot, he, Option.map_some, hv, Option.map_some, Option.getD_some,
        UInt16.toUInt16_toUInt32]
    · rintro ⟨k, e, he, hnone⟩
      obtain ⟨v, hv⟩ := h.announced k e he
      rw [hnone] at hv
      cases hv

end Phase

/-! ## A client with two methods -/

/-- A factory with a client at ordinal 1, and no transport. -/
def sideOf (made : ClientServiceBase) : ClientSide Unit where
  factory :=
    { name := []
      bpc := made
      services := match Oid.make (ascii "store") 1 with
        | .ok id => OidContainer.placed .empty ⟨id, some made⟩
        | .error _ => .empty }
  invoker := ()

theorem sideOf_entry (made : ClientServiceBase) : ∃ e,
    (sideOf made).factory.services.at? 1 = some e ∧ e.entry = some made := by
  obtain ⟨id, hid, hinit, hord⟩ : ∃ id, Oid.make (ascii "store") 1 = .ok id ∧
      id.name.isInitialized = true ∧ id.ordinal = 1 := by
    have hlegal : LegalName (ascii "store") := ⟨by decide, by decide, by decide⟩
    obtain ⟨m, hm, -, hinit⟩ := hlegal.make_eq 1
    exact ⟨_, hm, hinit, rfl⟩
  have hat := OidContainer.at?_placed (c := (.empty : OidContainer (Option ClientServiceBase)))
    (e := ⟨id, some made⟩) hinit 1
  refine ⟨⟨id, some made⟩, ?_, rfl⟩
  rw [sideOf, hid]
  refine hat.trans (if_pos ?_)
  rw [OidContainerEntry.ordinal, hord]
  rfl

theorem sideOf_client (made : ClientServiceBase) :
    (sideOf made).factory.Lists 1 ∧ (sideOf made).factory.client? 1 = some made := by
  obtain ⟨e, he, hentry⟩ := sideOf_entry made
  constructor
  · exact Option.isSome_iff_exists.mpr ⟨e, he⟩
  · refine (congrArg Option.join (atOrdinal_eq _ _)).trans ?_
    rw [show (1 : UInt16).toNat = 1 from rfl, he, Option.map_some, hentry]
    rfl

/-- The class of a client of `store`. -/
def storeClient : Except StdException ClientServiceBase :=
  ClientServiceBase.construct [ascii "get", ascii "set"]

theorem storeClient_made : ∃ made, storeClient = .ok made := by
  have hsome : storeClient.toOption.isSome = true := by decide +kernel
  cases hmade : storeClient with
  | ok made => exact ⟨made, rfl⟩
  | error x =>
    rw [hmade] at hsome
    cases hsome

/-- Both methods, in the other order and in another case. -/
def storeMethodEntries : List MethodEntry := [⟨0, ascii "Set"⟩, ⟨1, ascii "get"⟩]

/-- The slots of the client, with the ordinals that are announced for them and the entries that name
them. -/
theorem storeClient_slots : storeClient.toOption.map (fun made =>
    (made.serviceMethodMap.size, [0, 1].map fun k => (made.serviceMethodMap.at? k).map fun e =>
      (announced storeMethodEntries e.name, storeMethodEntries.map (·.names e.name)))) =
    some (2, [some (some 1, [false, true]), some (some 0, [true, false])]) := by decide +kernel

/-- The server announces the methods of the client. -/
theorem binds_or_fails_iff_sample : ∃ made, storeClient = .ok made ∧
    BindsOrFails storeMethodEntries made.serviceMethodMap
      ((bindClient 1 storeMethodEntries :
        ClientCall Unit (ClientSide Unit) _).runOn (sideOf made)) := by
  obtain ⟨made, hmade⟩ := storeClient_made
  obtain ⟨hlists, hclient⟩ := sideOf_client made
  have hslots := storeClient_slots
  rw [hmade, Except.toOption, Option.map_some, Option.some.injEq, Prod.mk.injEq] at hslots
  obtain ⟨hsize, hslots⟩ := hslots
  simp only [List.map_cons, List.map_nil, List.cons.injEq, and_true, Option.map_eq_some_iff,
    Prod.mk.injEq, storeMethodEntries] at hslots
  obtain ⟨⟨get, hget, hannounced, -, hnamed⟩, set, hset, hannounced', hnamed', -⟩ := hslots
  refine ⟨made, hmade, (binds_or_fails_iff hlists hclient
    (show ∀ n ∈ [ascii "get", ascii "set"], n ≠ [] ∧ (0 : UInt8) ∉ n by decide +kernel) hmade).mpr
      ⟨?_, ?_, ?_⟩⟩
  · exact List.forall_mem_cons.mpr ⟨⟨1, set, hset, hnamed'⟩,
      List.forall_mem_cons.mpr ⟨⟨0, get, hget, hnamed⟩, fun _ h => absurd h List.not_mem_nil⟩⟩
  · intro k hk
    rw [hsize] at hk
    rcases (by omega : k = 0 ∨ k = 1) with rfl | rfl
    · rw [hget]
      rfl
    · rw [hset]
      rfl
  · intro k e he
    have hk := (List.getElem?_eq_some_iff.mp (OidContainer.at?_eq_some.mp he).1).1
    rw [← OidContainer.size, hsize] at hk
    rcases (by omega : k = 0 ∨ k = 1) with rfl | rfl
    · cases hget.symm.trans he
      exact ⟨1, hannounced⟩
    · cases hset.symm.trans he
      exact ⟨0, hannounced'⟩

/-- **A method that is not announced stays unbound**, and the phase returns. -/
theorem unannounced_method_unbound : ¬ ∀ (mes : List MethodEntry) (methods : List Bytes)
    (made : ClientServiceBase) (side : ClientSide Unit) (o : UInt16), side.factory.Lists o →
    side.factory.client? o = some made → (∀ n ∈ methods, n ≠ [] ∧ (0 : UInt8) ∉ n) →
    ClientServiceBase.construct methods = .ok made →
    BindsOrFails mes made.serviceMethodMap
      ((bindClient o mes : ClientCall Unit (ClientSide Unit) _).runOn side) := by
  intro h
  obtain ⟨made, hmade⟩ := storeClient_made
  obtain ⟨hlists, hclient⟩ := sideOf_client made
  have hbinds := h [⟨0, ascii "get"⟩] [ascii "get", ascii "set"] made _ 1 hlists hclient
    (by decide +kernel) hmade
  -- the slot of `set`
  have hslot : storeClient.toOption.map (fun made => (made.serviceMethodMap.at? 1).map fun e =>
      announced [⟨0, ascii "get"⟩] e.name) = some (some none) := by decide +kernel
  have hreturns : storeClient.toOption.map (fun made => (Call.returned
      ((bindClient 1 [⟨0, ascii "get"⟩] : ClientCall Unit (ClientSide Unit) _).runOn
        (sideOf made))).isSome) = some true := by decide +kernel
  rw [hmade] at hslot hreturns
  obtain ⟨e, he, hnone⟩ := Option.map_eq_some_iff.mp (Option.some.inj hslot)
  obtain ⟨side', hthrows⟩ := hbinds.missing ⟨1, e, he, hnone⟩
  rw [Except.toOption, Option.map_some, hthrows] at hreturns
  cases hreturns

end RblRpc
