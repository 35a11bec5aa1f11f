import RblRpc.Backend.FullRegistry
import RblRpc.Client.Connecting

/-!
# The services a factory knows of

The constructor records the services that the back end lists; `service_count` returns their number
in 16 bits.

* `Mirrors` — the services of a factory are those of its back end; `Constructed.mirrors`.
* `service_discovery_iff` — **what a factory says of the services of its back end is right exactly
  if there are less than 65536 of them.**
-/

namespace RblRpc

open World ServiceClientFactory Transition

/-- The pairs of a name and an ordinal that a container holds. -/
def OidContainer.pairs {E : Type} (c : OidContainer E) : Set (Bytes × UInt16) :=
  {p | ∃ e, c.at? p.2.toNat = some e ∧ e.name.str = p.1}

/-- The registered services: their names in lower case, and their ordinals. -/
def BackEnd.servicePairs (b : BackEnd) : Set (Bytes × UInt16) :=
  {p | ∃ e, b.services.at? p.2.toNat = some e ∧ foldCase e.name.str = p.1}

/-- `has_service_with_name`. -/
def ServiceClientFactory.hasServiceWithName (str : Bytes) (f : ServiceClientFactory) :
    Except StdException Bool := do
  return (← f.services.findName str).isSome

/-- The services of the back end, as the factory shows them. -/
structure Discovered (side : ClientSide ServerLink) : Prop where
  pairs : side.factory.services.pairs = side.invoker.world.backEnd.servicePairs
  named : ∀ str, LegalName str → ∃ answer, side.factory.hasServiceWithName str = .ok answer ∧
    (answer = true ↔ ∃ o, (foldCase str, o) ∈ side.invoker.world.backEnd.servicePairs)
  count : side.factory.serviceCount.toNat = side.invoker.world.backEnd.services.occupiedSize
  guard : ∀ serviceName e, side.factory.lookup serviceName = .ok e →
    ¬ side.factory.serviceCount ≤ e.ordinal

/-! ## What the factory has -/

/-- **The services of a factory are those of its back end**, under the same names and ordinals. -/
structure Mirrors (f : ServiceClientFactory) (b : BackEnd) : Prop where
  wf : f.services.WF
  names : ∀ i, (f.services.at? i).map (·.name) = (b.services.at? i).map (·.name)
  size : f.services.size = b.services.size
  lower : LowerNames b.services
  registered : b.services.WF
  full : ∀ i < b.services.size, (b.services.at? i).isSome = true
  fits : b.services.size ≤ 2 ^ 16

variable {codec : BasicProtocolCodec} {c : ClientPtr} {resets : Bool}
  {side side' : ClientSide ServerLink}

/-- **The constructor records every service.** -/
theorem Constructed.mirrors (h : Constructed codec c side) (hsession : Session c side) :
    Mirrors side.factory side.invoker.world.backEnd := by
  obtain ⟨sourceType, backendType, hreach⟩ := h.reaches
  obtain ⟨out, hout, hrec⟩ := h.recorded
  have hwf := h.serving.sound.registry.wf
  have hlower := lowerNames_reaches hreach
  have hfits : side.invoker.world.backEnd.services.size ≤ 2 ^ 16 := fitsOrdinals_reaches hreach
  obtain ⟨services', hrec', hrecords, hsize⟩ := recordServices_listing hwf hlower hfits hout
  obtain rfl := Except.ok.inj (hrec.symm.trans hrec')
  -- each service is in its slot
  have hslots : ∀ i e, side.invoker.world.backEnd.services.at? i = some e →
      ∃ x, side.factory.services.at? i = some x ∧ x.name = e.name := by
    intro i e he
    have hi := (List.getElem?_eq_some_iff.mp (OidContainer.at?_eq_some.mp he).1).1
    obtain ⟨e', he', hse⟩ := listServices_full hfits hout hi
    cases he.symm.trans he'
    obtain ⟨x, hx, hname⟩ := hrecords _ hse
    rw [UInt16.toNat_toUInt32, hwf.ordinal i e he] at hx
    refine ⟨x, hx, OidName.ext (hname.trans ?_)⟩
    exact hlower e (List.mem_of_getElem? (OidContainer.at?_eq_some.mp he).1)
  have hfull : ∀ i < side.invoker.world.backEnd.services.size,
      (side.invoker.world.backEnd.services.at? i).isSome = true := by
    intro i hi
    obtain ⟨e, he, -⟩ := listServices_full hfits hout hi
    rw [he]
    rfl
  refine ⟨hsession.valid.wf, fun i => ?_, le_antisymm hsize ?_, hlower, hwf, hfull, hfits⟩
  · cases he : side.invoker.world.backEnd.services.at? i with
    | some e =>
      obtain ⟨x, hx, hname⟩ := hslots i e he
      rw [hx]
      exact congrArg some hname
    | none =>
      cases hx : side.factory.services.at? i with
      | none => rfl
      | some x =>
        obtain ⟨e, he', -⟩ := hsession.listed i x hx
        cases he.symm.trans he'
  · by_contra hlt
    rw [not_le] at hlt
    obtain ⟨e, he⟩ := Option.isSome_iff_exists.mp (hfull _ hlt)
    obtain ⟨x, hx, -⟩ := hslots _ e he
    exact (Nat.lt_irrefl _) (List.getElem?_eq_some_iff.mp (OidContainer.at?_eq_some.mp hx).1).1

/-- **A call keeps the mirror.** -/
theorem Mirrors.call (h : Mirrors side.factory side.invoker.world.backEnd) {o : UInt16}
    (honly : OnlyClient o side.factory side'.factory)
    (hservices : side'.invoker.world.backEnd.services = side.invoker.world.backEnd.services) :
    Mirrors side'.factory side'.invoker.world.backEnd := by
  refine ⟨honly.wf h.wf, fun i => ?_, ?_, hservices ▸ h.lower, hservices ▸ h.registered,
    hservices ▸ h.full, hservices ▸ h.fits⟩
  · have hids := congrArg (Option.map Oid.name) (honly.ids i)
    rw [Option.map_map, Option.map_map] at hids
    rw [hservices, ← h.names i]
    exact hids
  · rw [honly.size, h.size, hservices]

/-- The pairs are those of the back end. -/
theorem Mirrors.pairs_eq {f : ServiceClientFactory} {b : BackEnd} (h : Mirrors f b) :
    f.services.pairs = b.servicePairs := by
  ext ⟨name, o⟩
  have hnames := h.names o.toNat
  constructor
  · rintro ⟨x, hx, hname⟩
    rw [hx] at hnames
    obtain ⟨e, he, heq⟩ := Option.map_eq_some_iff.mp hnames.symm
    refine ⟨e, he, ?_⟩
    rw [h.lower e (List.mem_of_getElem? (OidContainer.at?_eq_some.mp he).1), heq]
    exact hname
  · rintro ⟨e, he, hname⟩
    rw [he] at hnames
    obtain ⟨x, hx, heq⟩ := Option.map_eq_some_iff.mp hnames
    refine ⟨x, hx, ?_⟩
    rw [heq, ← h.lower e (List.mem_of_getElem? (OidContainer.at?_eq_some.mp he).1)]
    exact hname

/-- **`has_service_with_name`** answers by membership. -/
theorem hasServiceWithName_iff {f : ServiceClientFactory} (hwf : f.services.WF) {str : Bytes}
    (hstr : LegalName str) : ∃ answer, f.hasServiceWithName str = .ok answer ∧
      (answer = true ↔ ∃ o, (foldCase str, o) ∈ f.services.pairs) := by
  obtain ⟨n, hn, hfold, hinit⟩ := hstr.construct_eq
  have hfind : f.services.findName str =
      .ok ((f.services.slotOf n).bind (f.services.entries[·]?)) := by
    simp only [OidContainer.findName, hn, OidContainer.entryWithName, hwf.slotWithName_eq hinit,
      bind, Except.bind, pure, Except.pure]
  refine ⟨_, by rw [hasServiceWithName, hfind]; rfl, ?_⟩
  constructor
  · intro hsome
    obtain ⟨x, hx⟩ := Option.isSome_iff_exists.mp hsome
    obtain ⟨i, hi, hget⟩ := Option.bind_eq_some_iff.mp hx
    obtain ⟨e, he, rfl⟩ := hwf.slotOf_eq_some.mp hi
    refine ⟨e.ordinal, e, ?_, hfold⟩
    rw [hwf.ordinal i e he]
    exact he
  · rintro ⟨o, e, he, hname⟩
    have hslot : f.services.slotOf n = some o.toNat :=
      hwf.slotOf_eq_some.mpr ⟨e, he, OidName.ext (hname.trans hfold.symm)⟩
    rw [hslot, Option.bind_some, (OidContainer.at?_eq_some.mp he).1]
    rfl

/-- **The number of services and the guard** are right exactly if it fits in 16 bits. -/
theorem Mirrors.discovered_iff (h : Mirrors side.factory side.invoker.world.backEnd) :
    Discovered side ↔ side.invoker.world.backEnd.services.occupiedSize < 2 ^ 16 := by
  have hfull := h.registered.full_iff.mpr h.full
  have hcount : side.factory.serviceCount.toNat =
      side.invoker.world.backEnd.services.size % 2 ^ 16 := by
    rw [serviceCount, UInt16.toNat_ofNat', h.size]
  constructor
  · intro hd
    rw [← hd.count]
    exact side.factory.serviceCount.toNat_lt
  · intro hlt
    rw [hfull] at hlt
    rw [Nat.mod_eq_of_lt hlt] at hcount
    refine ⟨h.pairs_eq, fun str hstr => ?_, hcount.trans hfull.symm, fun serviceName e he hle => ?_⟩
    · rw [← h.pairs_eq]
      exact hasServiceWithName_iff h.wf hstr
    · unfold lookup at he
      split at he
      · cases he
      · cases he
      · rename_i x hfind
        cases he
        have hat := (h.wf.findName_eq_some hfind).1
        have hi := (List.getElem?_eq_some_iff.mp (OidContainer.at?_eq_some.mp hat).1).1
        rw [UInt16.le_iff_toNat_le, hcount, ← h.size] at hle
        exact absurd hi (Nat.not_lt.mpr hle)

/-- **Faithful discovery, exactly.**  In every session of a factory over a back end, whatever its
registry, the factory shows the services of the back end as they are exactly if there are less than
65536 of them. -/
theorem service_discovery_iff (hcodec : codec.Lawful) (h : Started codec c resets side)
    {tr : List (ClientSide ServerLink × FactoryCall)}
    {r : Except (ClientFault LinkFault) (ClientSide ServerLink)}
    (hrun : (factoryMachine codec c resets).Run side tr r) :
    Machine.Always Discovered tr r ↔
      side.invoker.world.backEnd.services.occupiedSize < 2 ^ 16 := by
  obtain ⟨hsession, -⟩ := h.session hcodec
  have hmirrors := (h.constructed hcodec).mirrors hsession
  constructor
  · intro hall
    exact hmirrors.discovered_iff.mp (hrun.always_start hall)
  · intro hlt
    have hinv := hrun.invariant (C := fun _ _ => True) (I := fun side' => Session c side' ∧
        Mirrors side'.factory side'.invoker.world.backEnd ∧
        side'.invoker.world.backEnd.services = side.invoker.world.backEnd.services)
      (fun side₁ call side₂ hI _ hg hf => by
        obtain ⟨hs, hm, heq⟩ := hI
        obtain ⟨o, honly, hcall⟩ := hs.call hcodec hg hf
        have hservices : side₂.invoker.world.backEnd.services =
            side₁.invoker.world.backEnd.services := by
          rcases hcall with hsame | hadv
          · rw [hsame]
          · exact hadv.control.services
        exact ⟨hs.step hcodec hg hf, hm.call honly hservices, hservices.trans heq⟩)
      ⟨hsession, hmirrors, rfl⟩ fun _ _ => trivial
    refine ⟨fun p hp => ?_, fun side' hr => ?_⟩
    · obtain ⟨-, hm, heq⟩ := hinv.1 p hp
      exact hm.discovered_iff.mpr (heq ▸ hlt)
    · obtain ⟨-, hm, heq⟩ := hinv.2 side' hr
      exact hm.discovered_iff.mpr (heq ▸ hlt)

/-- The service of the back end is discovered, also after a subscription. -/
theorem service_discovery_sample : ∃ (side' : ClientSide ServerLink)
    (tr : List (ClientSide ServerLink × FactoryCall)), tr.length = 1 ∧
      side'.factory.serviceCount.toNat = 2 ∧
        Machine.Always Discovered tr (.ok side' : Except (ClientFault LinkFault) _) := by
  obtain ⟨side, hside, hstart⟩ := startFactory_store
  have hrun : (startFactory storeLabels).map (fun side =>
      let m := factoryMachine basicProtocolCodec 7 true
      let calls : List FactoryCall :=
        [.subscribeService (ascii "store") none false [ascii "get", ascii "set"] {}]
      (side.invoker.world.backEnd.services.occupiedSize, m.admits side calls,
        (m.exec side calls).1.length,
        (m.exec side calls).2.toOption.map (·.factory.serviceCount.toNat))) =
      some (2, true, 1, some 2) := by decide +kernel
  rw [hside] at hrun
  obtain ⟨hsize, hobs⟩ := Prod.mk.inj (Option.some.inj hrun)
  obtain ⟨hadm, hobs⟩ := Prod.mk.inj hobs
  obtain ⟨hlen, hcount⟩ := Prod.mk.inj hobs
  obtain ⟨side', hexec, hcount⟩ := (factoryMachine basicProtocolCodec 7 true).exec_observed side _ _
    hadm hcount
  exact ⟨side', _, hlen, hcount,
    (service_discovery_iff basicProtocolCodec_lawful hstart hexec).mpr (by rw [hsize]; decide)⟩

/-! ## A full registry -/

/-- A full registry is started, and a client connects. -/
theorem live_full : ∃ w, Live basicProtocolCodec 7 w ∧ Full w.backEnd ∧
    (w.data 7).clientEstablished = false := by
  obtain ⟨w, hreach, ⟨services, ec, count, rfl⟩, hfull⟩ := fullRegistry_reaches basicProtocolCodec
  obtain ⟨w₁, hw₁⟩ : ∃ w₁, w₁ = ((init .sourceRelay .targetMarshall).setBackEnd
      { sourceType := .sourceRelay, backendType := .targetMarshall, poolSize := 1,
        services := services, ec := ec, serviceCount := count }) := ⟨_, rfl⟩
  have hreach₁ : (backEndMachine basicProtocolCodec).Reaches (init .sourceRelay .targetMarshall) w₁ :=
    hreach.trans ⟨_, .step (l := .poolSize 1) rfl (by rw [hw₁]; rfl) (.done _)⟩
  have hfull₁ : Full w₁.backEnd := by
    rw [hw₁]
    exact ⟨hfull.size, hfull.occupiedSize, hfull.service⟩
  obtain ⟨b, hb⟩ := (sound_reaches hreach₁).registry.start_total (by rw [hw₁]; rfl)
    (by rw [hw₁]; exact Int.one_pos) (hfull₁.size.trans hfull₁.occupiedSize.symm)
  obtain ⟨-, ⟨-, -, hne⟩ | ⟨-, -, -, cs₀, cs, -, -, hb'⟩⟩ := BackEnd.start_ok hb
  · exact absurd rfl hne
  · have hstart : (backEndMachine basicProtocolCodec).fire w₁ .start = .ok (w₁.setBackEnd b) :=
      bind_eq_ok.mpr ⟨_, hb, rfl⟩
    have hconnect : (backEndMachine basicProtocolCodec).guard (w₁.setBackEnd b) (.connect 7 true) =
        true := by
      rw [hb', hw₁]
      rfl
    have hreach₂ := hreach₁.trans ⟨_, .step rfl hstart (.step hconnect rfl (.done _))⟩
    have hfull₂ : Full b := by
      rw [hb']
      exact ⟨hfull₁.size, hfull₁.occupiedSize, hfull₁.service⟩
    refine ⟨_, ⟨⟨_, _, hreach₂⟩, Finset.mem_insert_self _ _, ?_, ?_, ?_, ?_⟩,
      ⟨hfull₂.size, hfull₂.occupiedSize, hfull₂.service⟩, ?_⟩
    · simp [connect, stage]
    · show b.synchronisedState.acceptingRequests = true
      rw [hb']
      rfl
    · show (b.isSealed && !b.ioService.stopped) = true
      rw [hb', hw₁]
      rfl
    · obtain ⟨s, hs⟩ := hfull₂.service 0 (by decide)
      exact ⟨s, (BackEnd.serviceAt_eq b 0).trans hs⟩
    · simp [connect, data]

/-- **A factory over 65536 services counts none.** -/
theorem full_registry_uncounted : ¬ ∀ (codec : BasicProtocolCodec) (c : ClientPtr) (resets : Bool)
    (side : ClientSide ServerLink) (tr : List (ClientSide ServerLink × FactoryCall))
    (r : Except (ClientFault LinkFault) (ClientSide ServerLink)),
    codec.Lawful → Started codec c resets side → (factoryMachine codec c resets).Run side tr r →
    Machine.Always Discovered tr r := by
  intro h
  obtain ⟨w, hlive, hfull, hnew⟩ := live_full
  have hslots : ∀ i < w.backEnd.services.size, (w.backEnd.services.at? i).isSome = true := by
    intro i hi
    rw [hfull.size] at hi
    obtain ⟨s, hs⟩ := hfull.service i hi
    rw [← Option.isSome_map, hs]
    rfl
  obtain ⟨sourceType, backendType, hreach⟩ := hlive.reaches
  obtain ⟨factory, l, hmake, hservices⟩ := new_lossFree (l := { world := w }) true {}
    basicProtocolCodec_lawful hlive hnew hslots []
  have hstart : Started basicProtocolCodec 7 true ⟨factory, l⟩ :=
    ⟨_, _, _, _, _, _, _, hreach, hmake⟩
  have hall := h _ _ _ _ _ _ basicProtocolCodec_lawful hstart (.done _)
  obtain ⟨hsession, -⟩ := hstart.session basicProtocolCodec_lawful
  have hmirrors := (hstart.constructed basicProtocolCodec_lawful).mirrors hsession
  have hlt := hmirrors.discovered_iff.mp (hall.2 _ rfl)
  rw [show (ClientSide.mk factory l).invoker.world.backEnd.services = w.backEnd.services from hservices,
    hfull.occupiedSize] at hlt
  exact Nat.lt_irrefl _ hlt

end RblRpc
