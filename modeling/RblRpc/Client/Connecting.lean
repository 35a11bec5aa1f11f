import RblRpc.Backend.Returns
import RblRpc.Client.Sessions

/-!
# A factory connects

The constructor of a factory over a back end that is up and running, and of the types that it says
hello to.

* `recordServices_apart` — entries with different names and ordinals are all recorded.
* `exchange_total` — a request that passes the checks, and whose dispatch returns, is answered.
* `Live`, `new_lossFree` — **the constructor returns a factory.**
-/

namespace RblRpc

open World ServiceClientFactory Transition BackEnd

/-! ## The loop of the constructor -/

/-- Two entries that do not get into each other's way. -/
structure Apart (se se' : ServiceEntry) : Prop where
  ordinal : se.serviceOrdinal ≠ se'.serviceOrdinal
  name : foldCase se.serviceName ≠ foldCase se'.serviceName

/-- The entry can be recorded. -/
structure Recordable (services : OidContainer (Option ClientServiceBase)) (se : ServiceEntry) :
    Prop where
  legal : LegalName se.serviceName
  fits : se.serviceOrdinal.toNat < 2 ^ 16
  free : services.at? se.serviceOrdinal.toNat = none
  fresh : ∀ i e, services.at? i = some e → e.name.str ≠ foldCase se.serviceName

/-- The container has the entry. -/
def Records (services : OidContainer (Option ClientServiceBase)) (se : ServiceEntry) : Prop :=
  ∃ e, services.at? se.serviceOrdinal.toNat = some e ∧ e.name.str = foldCase se.serviceName

variable {entries : List ServiceEntry} {services : OidContainer (Option ClientServiceBase)}

/-- One entry is recorded, and the loop goes on. -/
theorem Recordable.place {se : ServiceEntry} (h : Recordable services se) (hwf : services.WF) :
    ∃ e : OidContainerEntry (Option ClientServiceBase), e.name.str = foldCase se.serviceName ∧
      e.ordinal.toNat = se.serviceOrdinal.toNat ∧ e.isInitialized = true ∧
      (services.placed e).WF ∧ ∀ entries, recordServices (se :: entries) services =
        recordServices entries (services.placed e) := by
  obtain ⟨n, hn, hstr, hinit⟩ := h.legal.construct_eq
  have hfits := h.fits
  have hord : se.serviceOrdinal.toUInt16.toNat = se.serviceOrdinal.toNat := by
    rw [UInt32.toNat_toUInt16]
    exact Nat.mod_eq_of_lt hfits
  have hmake : Oid.make se.serviceName se.serviceOrdinal =
      .ok ⟨n, se.serviceOrdinal.toUInt16⟩ := by
    unfold Oid.make
    rw [hn]
    dsimp only [bind, Except.bind]
    rw [if_neg (by omega)]
  let e : OidContainerEntry (Option ClientServiceBase) := ⟨⟨n, se.serviceOrdinal.toUInt16⟩, none⟩
  have hfree : services.at? e.ordinal.toNat = none := by
    rw [show e.ordinal.toNat = se.serviceOrdinal.toNat from hord]
    exact h.free
  have hnone : services.slotOf e.name = none := by
    refine hwf.slotOf_eq_none.mpr fun i x hx hname => h.fresh i x hx ?_
    rw [hname]
    exact hstr
  have hset := hwf.setEntry_eq (e := e) hinit
  rw [if_pos ⟨hfree, hnone⟩, hfree, hnone] at hset
  refine ⟨e, hstr, hord, hinit, hwf.placed hinit ⟨hfree, hnone⟩, fun entries => ?_⟩
  rw [recordServices, hmake]
  dsimp only [bind, Except.bind]
  rw [show services.setEntry ⟨⟨n, se.serviceOrdinal.toUInt16⟩, none⟩ = _ from hset]

/-- **The loop of the constructor** records entries that are apart, each in its slot. -/
theorem recordServices_apart (hwf : services.WF) (hnew : ∀ se ∈ entries, Recordable services se)
    (hapart : entries.Pairwise Apart) : ∃ services', recordServices entries services = .ok services' ∧
      (∀ se ∈ entries, Records services' se) ∧
      (∀ i e, services.at? i = some e → services'.at? i = some e) ∧
      ∀ n, services.size ≤ n → (∀ se ∈ entries, se.serviceOrdinal.toNat < n) →
        services'.size ≤ n := by
  induction entries generalizing services with
  | nil =>
    exact ⟨services, rfl, fun se hse => (List.not_mem_nil hse).elim, fun i e he => he,
      fun n hn _ => hn⟩
  | cons se entries ih =>
    obtain ⟨hhead, htail⟩ := List.pairwise_cons.mp hapart
    have hse := hnew se List.mem_cons_self
    obtain ⟨x, hstr, hslot, hinit, hwf', hloop⟩ := hse.place hwf
    have hat := OidContainer.at?_placed (c := services) hinit
    -- the others stay recordable: their ordinals and names are not those of `se`
    have hnew' : ∀ se' ∈ entries, Recordable (services.placed x) se' := by
      intro se' hse'
      have hold := hnew se' (List.mem_cons_of_mem _ hse')
      have hne := hhead se' hse'
      refine ⟨hold.legal, hold.fits, ?_, fun i e he => ?_⟩
      · rw [hat, hslot, if_neg fun heq => hne.ordinal (UInt32.toNat.inj heq.symm)]
        exact hold.free
      · rw [hat] at he
        split at he
        · cases he
          rw [hstr]
          exact hne.name
        · exact hold.fresh i e he
    obtain ⟨services', hrec, hrecords, hkept, hsize⟩ := ih hwf' hnew' htail
    refine ⟨services', (hloop entries).trans hrec, fun se' hse' => ?_, fun i e he => ?_,
      fun n hn hlt => ?_⟩
    · rcases List.mem_cons.mp hse' with rfl | hse'
      · exact ⟨x, hkept _ _ (by rw [hat, hslot, if_pos rfl]), hstr⟩
      · exact hrecords se' hse'
    · refine hkept i e ?_
      rw [hat, hslot, if_neg fun heq => ?_]
      · exact he
      · rw [heq, hse.free] at he
        cases he
    · refine hsize n ?_ fun se' hse' => hlt se' (List.mem_cons_of_mem _ hse')
      have hend := hlt se List.mem_cons_self
      rw [OidContainer.size_placed, hslot]
      omega

/-! ## The listing -/

section Listing

variable {b : BackEnd} {out : ListServicesResponse}

/-- A registry that can be listed has no hole. -/
theorem listServices_full (hfits : b.services.size ≤ 2 ^ 16)
    (h : BasicProtocolImpl.listServices b = .ok out) {i : ℕ} (hi : i < b.services.size) :
    ∃ e, b.services.at? i = some e ∧ ⟨e.ordinal.toUInt32, e.name.str⟩ ∈ out.services := by
  obtain ⟨entries, hmap, hret⟩ := bind_eq_ok.mp h
  cases hret
  have hof : (UInt32.ofNat i).toNat = i := by
    rw [UInt32.toNat_ofNat']
    omega
  obtain ⟨se, hse, hbody⟩ := ok_of_mapM hmap (List.mem_range.mpr hi)
  rw [OidContainer.entryAtOrdinal, hof] at hbody
  -- a hole would be a null pointer
  split at hbody
  · cases hbody
  · rename_i e he
    cases hbody
    exact ⟨e, he, hse⟩

/-- The entries of a listing are apart. -/
theorem listServices_apart (hwf : b.services.WF) (hlower : LowerNames b.services)
    (hfits : b.services.size ≤ 2 ^ 16) (h : BasicProtocolImpl.listServices b = .ok out) :
    out.services.Pairwise Apart := by
  obtain ⟨entries, hmap, hret⟩ := bind_eq_ok.mp h
  cases hret
  refine pairwise_of_mapM (R := (· ≠ ·)) hmap List.nodup_range fun i hi j hj hne x y hx hy => ?_
  have hof : ∀ k ∈ List.range b.services.size, (UInt32.ofNat k).toNat = k := by
    intro k hk
    rw [List.mem_range] at hk
    rw [UInt32.toNat_ofNat']
    omega
  rw [OidContainer.entryAtOrdinal, hof i hi] at hx
  rw [OidContainer.entryAtOrdinal, hof j hj] at hy
  split at hx
  · cases hx
  · rename_i e he
    split at hy
    · cases hy
    · rename_i e' he'
      cases hx
      cases hy
      refine ⟨fun hord => hne ?_, fun hname => hne ?_⟩
      · have hord' := congrArg UInt32.toNat hord
        rw [UInt16.toNat_toUInt32, UInt16.toNat_toUInt32, hwf.ordinal i e he,
          hwf.ordinal j e' he'] at hord'
        exact hord'
      · obtain ⟨hmem, hinit⟩ := OidContainer.at?_eq_some.mp he
        obtain ⟨hmem', hinit'⟩ := OidContainer.at?_eq_some.mp he'
        have hsame : e.name = e'.name := by
          refine OidName.ext ?_
          rw [← hlower e (List.mem_of_getElem? hmem), ← hlower e' (List.mem_of_getElem? hmem')]
          exact hname
        refine hwf.name_inj ?_ ?_ ?_
        · rw [OidContainer.nameAt_of_at? he]
          exact hinit
        · rw [OidContainer.nameAt_of_at? he']
          exact hinit'
        · rw [OidContainer.nameAt_of_at? he, OidContainer.nameAt_of_at? he', hsame]

/-- **The listing is recorded**: what the back end lists is apart, and can be recorded. -/
theorem recordServices_listing (hwf : b.services.WF) (hlower : LowerNames b.services)
    (hfits : b.services.size ≤ 2 ^ 16) (h : BasicProtocolImpl.listServices b = .ok out) :
    ∃ services, recordServices out.services .empty = .ok services ∧
      (∀ se ∈ out.services, Records services se) ∧ services.size ≤ b.services.size := by
  have hmem := BasicProtocolImpl.listServices_mem h
  have hnew : ∀ se ∈ out.services, Recordable .empty se := by
    intro se hse
    obtain ⟨i, e, he, rfl⟩ := hmem se hse
    refine ⟨legalName_of_at? he, ?_, ?_, fun j x hx => ?_⟩
    · rw [UInt16.toNat_toUInt32]
      exact e.ordinal.toNat_lt
    · simp [OidContainer.empty, OidContainer.at?]
    · simp [OidContainer.empty, OidContainer.at?] at hx
  obtain ⟨services, hrec, hrecords, -, hsize⟩ :=
    recordServices_apart .empty hnew (listServices_apart hwf hlower hfits h)
  refine ⟨services, hrec, hrecords, hsize _ (Nat.zero_le _) fun se hse => ?_⟩
  obtain ⟨i, e, he, rfl⟩ := hmem se hse
  rw [UInt16.toNat_toUInt32, hwf.ordinal i e he]
  exact (List.getElem?_eq_some_iff.mp (OidContainer.at?_eq_some.mp he).1).1

end Listing

/-! ## An exchange that ends -/

namespace World

variable {codec : BasicProtocolCodec} {w : World} {c : ClientPtr} {resets : Bool}
  {r : ClientRequest} {reply : ServiceReply}

/-- The checks return where there is a service, and an active slot of the cookie store. -/
theorem checkRequest_total (codec : BasicProtocolCodec) (c : ClientPtr) {b : BackEnd} {i : Invoker}
    {s : Service} (hs : b.serviceAt i.clientData.request.serviceOrdinal.toUInt16 = some (some s))
    (hact : b.clientServiceCookies.isActive
      i.clientData.request.serviceOrdinal.toUInt16.toNat = true) :
    ∃ b' i', b.checkRequest codec c i = .ok (b', i') := by
  obtain ⟨cs, hcs⟩ := ClientServiceCookies.createOrRetrieveCookie_total hact c
  unfold checkRequest
  dsimp only
  rw [hs]
  dsimp only
  rw [hcs]
  split
  · exact ⟨_, _, rfl⟩
  · dsimp only [bind, Except.bind]
    split
    · exact ⟨_, _, rfl⟩
    · split
      · split <;> exact ⟨_, _, rfl⟩
      · split <;> exact ⟨_, _, rfl⟩

/-- A request of `c` whose dispatch returns. -/
def Dispatches (codec : BasicProtocolCodec) (c : ClientPtr) (reply : ServiceReply)
    (r : ClientRequest) (w : World) : Prop :=
  ∀ s b cd, w.backEnd.serviceAt r.serviceOrdinal.toUInt16 = some (some s) →
    b.services = w.backEnd.services → cd.request = r →
    cd.clientEstablished = (w.data c).clientEstablished →
    ∃ b' cd', s.dispatch codec r.serviceOrdinal.toUInt16 c reply b cd = .ok (b', cd')

/-- The request `r` of `c` has reached a stage, with the services and the control state of `w`. -/
structure Reached (r : ClientRequest) (c : ClientPtr) (w : World) (st : Stage) (w' : World) :
    Prop where
  sound : Sound w'
  stage : w'.stage c = st
  request : (w'.data c).request = r
  identity : SameIdentity (w.data c) (w'.data c)
  control : SameControl w w'

/-- An accepting back end accepts the request. -/
theorem request_accepted (codec : BasicProtocolCodec) (resets : Bool) (r : ClientRequest)
    (hsound : Sound w) (hmem : c ∈ w.backEnd.connectedClients) (hidle : w.stage c = .idle)
    (hacc : w.state.acceptingRequests = true) :
    ∃ w₁, w.attempt codec (.request c resets r) = .ok w₁ ∧ Reached r c w .accepted w₁ ∧
      w₁.backEnd.clientServiceCookies = w.backEnd.clientServiceCookies := by
  have hg : w.enabled (.request c resets r) = true := by simp [enabled, hmem, hidle]
  obtain ⟨w₁, hf⟩ := hsound.accounted.request_total codec hg
  have hsound₁ := hsound.step hg hf
  have hctl : SameControl w w₁ := fire_sameControl rfl hf
  obtain ⟨b, i, rfl, hreq, hid, ⟨-, -, rfl, hst, -⟩ | ⟨hno, -⟩⟩ := request_ok hf
  · refine ⟨_, attempt_eq_ok.mpr ⟨hg, hf⟩, ⟨hsound₁, ?_, ?_, ?_, hctl⟩, rfl⟩
    · rw [stage_setInvoker_self, hst]
    · rw [data_setInvoker_self, hreq]
    · rw [data_setInvoker_self]
      exact hid
  · exact absurd (hno.symm.trans hacc) Bool.false_ne_true

/-- The back end `b` and the client data `cd` that the dispatch of a request of `c` finds. -/
structure Finds (r : ClientRequest) (c : ClientPtr) (w : World) (b : BackEnd) (cd : ClientData) :
    Prop where
  services : b.services = w.backEnd.services
  shape : ClientServiceCookies.SameShape w.backEnd.clientServiceCookies b.clientServiceCookies
  subscriptions : ∀ s k, b.clientServiceCookies.isSubscribed s k =
    w.backEnd.clientServiceCookies.isSubscribed s k
  request : cd.request = r
  established : cd.clientEstablished = (w.data c).clientEstablished

/-- An accepted request that passes the checks is posted. -/
theorem check_posted (codec : BasicProtocolCodec) (hstore : w.StoreSound)
    (hsealed : w.backEnd.isSealed = true) {w₁ : World} (h : Reached r c w .accepted w₁)
    (hcookies : w₁.backEnd.clientServiceCookies = w.backEnd.clientServiceCookies)
    (hadm : Admitted c w.backEnd (w.received c r)) :
    ∃ w₂, w₁.attempt codec (.check c) = .ok w₂ ∧ Reached r c w .posted w₂ ∧
      Finds r c w w₂.backEnd (w₂.data c) ∧
      (w₂.invokers c).service = r.serviceOrdinal.toUInt16 ∧
      (w₂.invokers c).clientCookie = r.serviceOrdinal.toUInt16 := by
  have hreq : (w₁.invokers c).clientData.request = r := h.request
  have hadm₁ : Admitted c w₁.backEnd (w₁.invokers c).clientData :=
    hadm.congr h.control.services (fun _ => by rw [hcookies]) hreq h.identity.clientEstablished
  obtain ⟨s, hs, -⟩ := id hadm₁.service
  have hat : w.backEnd.serviceAt r.serviceOrdinal.toUInt16 = some (some s) := by
    rw [serviceAt, ← h.control.services, ← hreq]
    exact hs
  have hactive := (inRange_of_serviceAt hstore.registry hstore.activated hsealed
    (by rw [hat]; rfl)).activated
  obtain ⟨b, i, hcheck⟩ := checkRequest_total codec c hs (by rw [hreq, hcookies]; exact hactive)
  obtain ⟨cs, hshape, hsubs, ⟨hrej, -⟩ | ⟨-, hb, hi⟩⟩ := checkRequest_ok hcheck
  · exact absurd hadm₁ (checkRequest_rejected hcheck hrej).1
  · have hg : w₁.enabled (.check c) = true := decide_eq_true h.stage
    have hf : fire codec w₁ (.check c) = .ok ((w₁.setBackEnd b).setInvoker c i) :=
      stepInvoker_ok.mpr ⟨b, i, hcheck, rfl⟩
    refine ⟨_, attempt_eq_ok.mpr ⟨hg, hf⟩, ⟨h.sound.step hg hf, ?_, ?_, ?_,
      h.control.trans (fire_sameControl rfl hf)⟩, ⟨?_, ?_, ?_, ?_, ?_⟩, ?_, ?_⟩
    · rw [stage_setInvoker_self, hi]
    · rw [data_setInvoker_self, hi]
      exact hreq
    · rw [data_setInvoker_self, hi]
      exact h.identity
    · rw [setInvoker_backEnd, setBackEnd_backEnd, hb]
      exact h.control.services
    · rw [setInvoker_backEnd, setBackEnd_backEnd, hb, ← hcookies]
      exact hshape
    · intro s' k
      rw [setInvoker_backEnd, setBackEnd_backEnd, hb, ← hcookies]
      exact hsubs s' k
    · rw [data_setInvoker_self, hi]
      exact hreq
    · rw [data_setInvoker_self, hi]
      exact h.identity.clientEstablished
    · rw [setInvoker_self, hi, hreq]
    · rw [setInvoker_self, hi, hreq]

/-- A posted request whose dispatch returns is taken, dispatched and ended. -/
theorem posted_answered {s : Service} {w₂ : World} (hrunning : w.running = true)
    (hdispatch : ∀ b cd, Finds r c w b cd →
      ∃ b' cd', s.dispatch codec r.serviceOrdinal.toUInt16 c reply b cd = .ok (b', cd'))
    (hs : w.backEnd.serviceAt r.serviceOrdinal.toUInt16 = some (some s))
    (h : Reached r c w .posted w₂) (hfinds : Finds r c w w₂.backEnd (w₂.data c))
    (hservice : (w₂.invokers c).service = r.serviceOrdinal.toUInt16)
    (hcookie : (w₂.invokers c).clientCookie = r.serviceOrdinal.toUInt16) :
    ∃ w₃ w₄ w₅, w₂.attempt codec (.take c) = .ok w₃ ∧ w₃.attempt codec (.run c reply) = .ok w₄ ∧
      w₄.attempt codec (.finish c) = .ok w₅ := by
  simp only [running, Bool.and_eq_true, Bool.not_eq_true'] at hrunning
  have hg₃ : w₂.enabled (.take c) = true := by
    simp only [enabled, h.stage, h.control.isSealed, h.control.stopped, hrunning.1, hrunning.2]
    rfl
  obtain ⟨w₃, hf₃⟩ : ∃ w₃, w₂.take c = .ok w₃ := ⟨_, rfl⟩
  have hsound₃ : Sound w₃ :=
    World.Sound.step (l := .take c) h.sound hg₃ (show fire codec _ _ = _ from hf₃)
  obtain ⟨b₃, i₃, ht, rfl⟩ := stepInvoker_ok.mp hf₃
  obtain ⟨hb₃, hi₃⟩ := Prod.mk.inj (Except.ok.inj ht)
  have hservice₃ : i₃.service = r.serviceOrdinal.toUInt16 := by rw [← hi₃, hservice]
  have hcookie₃ : i₃.clientCookie = r.serviceOrdinal.toUInt16 := by rw [← hi₃, hcookie]
  -- only the queue and the stage change
  have hfinds₃ : Finds r c w (b₃.logCall (.dispatch i₃.service.toNat c)) i₃.clientData := by
    rw [← hb₃, ← hi₃]
    exact ⟨hfinds.services, hfinds.shape, hfinds.subscriptions, hfinds.request, hfinds.established⟩
  have hat : b₃.serviceAt i₃.service = some (some s) := by
    have hservices : b₃.services = w.backEnd.services := hfinds₃.services
    rw [hservice₃, serviceAt, hservices]
    exact hs
  obtain ⟨b₄, cd₄, hd⟩ := hdispatch _ _ hfinds₃
  have hg₄ : ((w₂.setBackEnd b₃).setInvoker c i₃).enabled (.run c reply) = true := by
    simp only [enabled, stage_setInvoker_self, ← hi₃, decide_true]
  have hf₄ : fire codec ((w₂.setBackEnd b₃).setInvoker c i₃) (.run c reply) =
      .ok ((((w₂.setBackEnd b₃).setInvoker c i₃).setBackEnd b₄).setInvoker c
        { i₃ with clientData := cd₄, stage := .ran }) := by
    refine stepInvoker_ok.mpr ⟨_, _, ?_, rfl⟩
    rw [setInvoker_backEnd, setBackEnd_backEnd, setInvoker_self]
    unfold runPosted
    rw [hat]
    dsimp only
    rw [hcookie₃, hd]
    rfl
  have hsound₄ := hsound₃.step hg₄ hf₄
  have hg₅ : ((((w₂.setBackEnd b₃).setInvoker c i₃).setBackEnd b₄).setInvoker c
      { i₃ with clientData := cd₄, stage := .ran }).enabled (.finish c) = true := by
    simp only [enabled, stage_setInvoker_self, decide_true, Bool.or_true]
  obtain ⟨w₅, hf₅⟩ := hsound₄.accounted.finish_total codec hg₅
  exact ⟨_, _, w₅, attempt_eq_ok.mpr ⟨hg₃, hf₃⟩, attempt_eq_ok.mpr ⟨hg₄, hf₄⟩,
    attempt_eq_ok.mpr ⟨hg₅, hf₅⟩⟩

/-- **A request that passes the checks, and whose dispatch returns on what it finds, is answered.** -/
theorem exchange_answered (resets : Bool) (reply : ServiceReply) {s : Service} (hsound : Sound w)
    (hstore : w.StoreSound) (hmem : c ∈ w.backEnd.connectedClients) (hidle : w.stage c = .idle)
    (hacc : w.state.acceptingRequests = true) (hrunning : w.running = true)
    (hadm : Admitted c w.backEnd (w.received c r))
    (hs : w.backEnd.serviceAt r.serviceOrdinal.toUInt16 = some (some s))
    (hdispatch : ∀ b cd, Finds r c w b cd →
      ∃ b' cd', s.dispatch codec r.serviceOrdinal.toUInt16 c reply b cd = .ok (b', cd')) :
    ∃ p, w.exchange codec c resets r reply = .ok p := by
  have hsealed : w.backEnd.isSealed = true := by
    simp only [running, Bool.and_eq_true] at hrunning
    exact hrunning.1
  obtain ⟨w₁, h₁, hr₁, hcookies⟩ := request_accepted codec resets r hsound hmem hidle hacc
  obtain ⟨w₂, h₂, hr₂, hfinds, hservice, hcookie⟩ :=
    check_posted codec hstore hsealed hr₁ hcookies hadm
  obtain ⟨w₃, w₄, w₅, h₃, h₄, h₅⟩ :=
    posted_answered hrunning hdispatch hs hr₂ hfinds hservice hcookie
  refine ⟨((w₅.data c).response, w₅), ?_⟩
  unfold exchange
  rw [h₁]
  dsimp only [bind, Except.bind]
  rw [if_neg (by rw [hr₁.stage]; decide), h₂]
  dsimp only
  rw [if_neg (by rw [hr₂.stage]; decide), h₃]
  dsimp only
  rw [h₄]
  dsimp only
  rw [h₅]
  rfl

/-- A request that passes the checks, and whose dispatch returns on any back end with the services,
is answered. -/
theorem exchange_total (resets : Bool) (reply : ServiceReply) (hsound : Sound w) (hstore : w.StoreSound)
    (hmem : c ∈ w.backEnd.connectedClients) (hidle : w.stage c = .idle)
    (hacc : w.state.acceptingRequests = true) (hrunning : w.running = true)
    (hadm : Admitted c w.backEnd (w.received c r)) (hdispatch : w.Dispatches codec c reply r) :
    ∃ p, w.exchange codec c resets r reply = .ok p := by
  obtain ⟨s, hs, -⟩ := id hadm.service
  exact exchange_answered resets reply hsound hstore hmem hidle hacc hrunning hadm hs
    fun b cd hfinds => hdispatch s b cd hs hfinds.services hfinds.request hfinds.established

/-- A client that is connected stays so in an exchange. -/
theorem exchange_connected {res : ClientResponse} {w' : World}
    (h : w.exchange codec c resets r reply = .ok (res, w'))
    (hmem : c ∈ w.backEnd.connectedClients) : c ∈ w'.backEnd.connectedClients := by
  have hkept : ∀ {w w' : World} {l : Label}, w.attempt codec l = .ok w' → l.client = some c →
      (∀ reply, l ≠ .disconnect c reply) → c ∈ w.backEnd.connectedClients →
        c ∈ w'.backEnd.connectedClients := fun ha hl hne hmem =>
    fire_connected_self hl hne (attempt_eq_ok.mp ha).2 hmem
  obtain ⟨w₁, h₁, ⟨-, rfl, -⟩ | ⟨-, w₂, h₂, hrest, -⟩⟩ := exchange_eq_ok h
  · exact hkept h₁ rfl nofun hmem
  · have hmem₂ := hkept h₂ rfl nofun (hkept h₁ rfl nofun hmem)
    rcases hrest with ⟨-, h₃⟩ | ⟨-, w₃, w₄, h₃, h₄, h₅⟩
    · exact hkept h₃ rfl nofun hmem₂
    · exact hkept h₅ rfl nofun (hkept h₄ rfl nofun (hkept h₃ rfl nofun hmem₂))

/-- A back end that is up and running, with `c` connected and between two requests. -/
structure Live (codec : BasicProtocolCodec) (c : ClientPtr) (w : World) : Prop where
  reaches : ∃ sourceType backendType, (backEndMachine codec).Reaches (init sourceType backendType) w
  member : c ∈ w.backEnd.connectedClients
  idle : w.stage c = .idle
  accepting : w.state.acceptingRequests = true
  running : w.running = true
  basic : ∃ s, w.backEnd.serviceAt 0 = some (some s)

theorem Live.exchange {res : ClientResponse} {w' : World} (h : Live codec c w)
    (hex : w.exchange codec c resets r reply = .ok (res, w')) : Live codec c w' := by
  obtain ⟨sourceType, backendType, hreach⟩ := h.reaches
  obtain ⟨hctl, hidle, -⟩ := exchange_ok hex
  refine ⟨⟨_, _, hreach.trans (exchange_reaches hex)⟩, exchange_connected hex h.member, hidle,
    hctl.acceptingRequests.trans h.accepting, ?_, ?_⟩
  · rw [World.running, hctl.isSealed, hctl.stopped]
    exact h.running
  · rw [serviceAt, hctl.services]
    exact h.basic

/-- What `c` asks of a method of `basic_protocol` passes the checks, if it is established but for
hello, and is dispatched to the method. -/
theorem Live.admitted (h : Live codec c w) (reply : ServiceReply) {k : ℕ} {m : BasicMethod}
    (hm : basicMethodAt k = some m) (string : Bytes)
    (hest : (w.data c).clientEstablished = decide (k ≠ 0)) :
    Admitted c w.backEnd (w.received c ⟨0, UInt32.ofNat k, string⟩) ∧
      ∀ s, w.backEnd.serviceAt 0 = some (some s) → ∀ b cd,
        cd.request = ⟨0, UInt32.ofNat k, string⟩ →
          s.dispatch codec 0 c reply b cd = dispatchBasic codec c reply m b cd := by
  obtain ⟨-, hord, hord'⟩ := basicMethodAt_ordinal hm
  obtain ⟨sourceType, backendType, hreach⟩ := h.reaches
  have hsound := sound_reaches hreach
  obtain ⟨s, hs⟩ := h.basic
  have himpl := (hsound.registry.typed 0 s hs).mpr rfl
  have hzero : UInt32.ofNat k = 0 ↔ k = 0 := by
    refine ⟨fun heq => ?_, fun heq => by rw [heq]; rfl⟩
    have hnat := congrArg UInt32.toNat heq
    rw [hord] at hnat
    exact hnat
  refine ⟨⟨⟨s, hs, ?_⟩, fun hne => absurd rfl hne, fun _ hz => ?_, fun hn => ?_⟩,
    fun s' hs' b cd hreq => ?_⟩
  · rw [Service.containsFunctionAtOrdinal_basic himpl]
    show (basicMethodAt (UInt32.ofNat k).toUInt16.toNat).isSome = true
    rw [hord', hm]
    rfl
  · show (w.data c).clientEstablished = false
    rw [hest, hzero.mp hz]
    rfl
  · show (w.data c).clientEstablished = true
    rw [hest]
    exact decide_eq_true fun hk => hn ⟨rfl, hzero.mpr hk⟩
  · have himpl' := (hsound.registry.typed 0 s' hs').mpr rfl
    unfold Service.dispatch
    rw [himpl', hreq]
    dsimp only
    rw [basicProtocolTable_atOrdinal, hord', hm]

/-- The cookie store of a live back end is sound. -/
theorem Live.storeSound (h : Live codec c w) : w.StoreSound := by
  obtain ⟨sourceType, backendType, hreach⟩ := h.reaches
  exact hreach.invariant (I := StoreSound) (fun _ _ _ hI hg hf => hI.step hg hf)
    (init_storeSound _ _)

/-- **A method of `basic_protocol` that returns is answered**: hello of a client that is not
established, any other of one that is. -/
theorem Live.answers (h : Live codec c w) (resets : Bool) (reply : ServiceReply) {k : ℕ}
    {m : BasicMethod} (hm : basicMethodAt k = some m) (string : Bytes)
    (hest : (w.data c).clientEstablished = decide (k ≠ 0))
    (hreturns : ∀ b cd, b.services = w.backEnd.services →
      cd.request = ⟨0, UInt32.ofNat k, string⟩ →
      cd.clientEstablished = (w.data c).clientEstablished →
      ∃ b' cd', dispatchBasic codec c reply m b cd = .ok (b', cd')) :
    ∃ res w', w.exchange codec c resets ⟨0, UInt32.ofNat k, string⟩ reply = .ok (res, w') ∧
      Admitted c w.backEnd (w.received c ⟨0, UInt32.ofNat k, string⟩) := by
  obtain ⟨hadm, hdispatch⟩ := h.admitted reply hm string hest
  obtain ⟨sourceType, backendType, hreach⟩ := h.reaches
  obtain ⟨⟨res, w'⟩, hex⟩ := exchange_total resets reply (sound_reaches hreach) h.storeSound
    h.member h.idle h.accepting h.running hadm (fun s b cd hs hservices hreq hest' => by
      obtain ⟨b', cd', hd⟩ := hreturns b cd hservices hreq hest'
      exact ⟨b', cd', (hdispatch s hs b cd hreq).trans hd⟩)
  exact ⟨res, w', hex, hadm⟩

end World

/-! ## The constructor -/

variable {codec : BasicProtocolCodec} {c : ClientPtr} {resets : Bool} {reply : ServiceReply}
  {l : ServerLink} {bpc : ClientServiceBase}

/-- A call whose exchange ends. -/
theorem runOn_callMethod_total {I O : Type} {input : MessageCodec I} (output : MessageCodec O)
    {req : I} {k : ℕ} {string : Bytes} {res : ClientResponse} {w' : World} (hbpc : Bound bpc)
    (hk : k < 5) (hser : input.serializeToString req = some string)
    (hex : l.world.exchange codec c resets ⟨0, UInt32.ofNat k, string⟩ reply = .ok (res, w')) :
    ∃ l', l'.world = w' ∧
      (bpc.callMethod (lossFree codec c resets reply) input output (UInt16.ofNat k) req).runOn l =
        .ok (ClientServiceBase.readResponse output res, l') := by
  refine ⟨{ world := w', request := ⟨0, UInt32.ofNat k, string⟩, response := res }, rfl, ?_⟩
  rw [ClientServiceBase.runOn_callMethod l (r := ⟨0, UInt32.ofNat k, string⟩)
    (by rw [hser]; exact hbpc.requestOf hk string)]
  simp only [InvokerBase.exchange, lossFree, bind, Except.bind, hex]
  rfl

/-- **Hello succeeds** where the types are those of the back end. -/
theorem runOn_hello_total (resets : Bool) (reply : ServiceReply) (hcodec : codec.Lawful)
    (hbpc : Bound bpc) (h : Live codec c l.world)
    (hnew : (l.world.data c).clientEstablished = false) (name : Bytes) :
    ∃ hres l', (BasicProtocolClient.hello (lossFree codec c resets reply) codec
        ⟨l.world.backEnd.sourceType, l.world.backEnd.backendType, name⟩ bpc).runOn l =
          .ok (.ok hres, l') ∧ hres.getErrorType = .noHelloErrors ∧ Live codec c l'.world := by
  obtain ⟨string, hser, hparse⟩ := hcodec.helloRequest.roundTrip
    ⟨l.world.backEnd.sourceType, l.world.backEnd.backendType, name⟩ rfl
  obtain ⟨res, w', hex, hadm⟩ := h.answers (k := 0) (m := .hello) resets reply rfl string
    hnew (fun b cd _ hreq hest => by
      simp only [dispatchBasic, runMethod, hreq, hparse, BasicProtocolImpl.hello,
        ClientData.establishClient, hest, hnew]
      split
      · exact ⟨_, _, rfl⟩
      · split <;> exact ⟨_, _, rfl⟩)
  obtain ⟨l', rfl, hcall⟩ := runOn_callMethod_total codec.helloResponse hbpc
    (by decide) hser hex
  obtain ⟨sourceType, backendType, hreach⟩ := h.reaches
  obtain ⟨-, -, hdown | ⟨s, b, b', cd, cd', hran⟩⟩ := exchange_ok hex
  · exact absurd hadm (hdown.reason h.accepting).1
  · obtain ⟨m, hm, hd⟩ := hran.basic (sound_reaches hreach) rfl
    cases hm
    simp only [dispatchBasic] at hd
    rcases runMethod_ok hd with ⟨hfail, -, -⟩ | ⟨req, cd₁, out, hp, himpl, rfl⟩
    · rw [hran.request, hparse] at hfail
      cases hfail
    · rw [hran.request, hparse] at hp
      cases hp
      obtain ⟨⟨cd₂, out₂⟩, hhello, hret⟩ := bind_eq_ok.mp himpl
      cases hret
      obtain ⟨hresp, hset, -⟩ := BasicProtocolImpl.hello_answer hhello
      have hno : out₂.getErrorType = .noHelloErrors := by
        unfold BasicProtocolImpl.hello at hhello
        rw [if_neg (not_not.mpr hran.types.2), if_neg (not_not.mpr hran.types.1)] at hhello
        obtain ⟨cd₃, -, hret⟩ := bind_eq_ok.mp hhello
        cases hret
        rfl
      refine ⟨out₂, l', ?_, hno, h.exchange hex⟩
      refine hcall.trans ?_
      rw [hran.response, readResponse_storeResponse
        ((congrArg ClientResponse.error hresp).trans hran.noError.1),
        delivered_of_initialized hcodec.helloResponse hset]

/-- **The services are listed** where there is no hole among them. -/
theorem runOn_listServices_total (resets : Bool) (reply : ServiceReply) (hcodec : codec.Lawful)
    (hbpc : Bound bpc) (h : Live codec c l.world) (hest : (l.world.data c).clientEstablished = true)
    (hfull : ∃ out, BasicProtocolImpl.listServices l.world.backEnd = .ok out) :
    ∃ p, (BasicProtocolClient.listServices (lossFree codec c resets reply) codec {} bpc).runOn l =
      .ok p := by
  obtain ⟨string, hser, hparse⟩ := hcodec.listServicesRequest.roundTrip {} rfl
  obtain ⟨out, hout⟩ := hfull
  obtain ⟨res, w', hex, -⟩ := h.answers (k := 1) (m := .listServices) resets reply rfl
    string hest (fun b cd hservices hreq _ => by
      simp only [dispatchBasic, runMethod, hreq, hparse,
        BasicProtocolImpl.listServices_congr hservices, hout]
      exact ⟨_, _, rfl⟩)
  obtain ⟨l', -, hcall⟩ := runOn_callMethod_total codec.listServicesResponse hbpc
    (by decide) hser hex
  exact ⟨_, hcall⟩

/-- **A factory connects** to every back end that is up and running, that expects what it says hello
with, and whose registry has no hole. -/
theorem new_lossFree (resets : Bool) (reply : ServiceReply) (hcodec : codec.Lawful)
    (h : Live codec c l.world)
    (hnew : (l.world.data c).clientEstablished = false)
    (hfull : ∀ i < l.world.backEnd.services.size,
      (l.world.backEnd.services.at? i).isSome = true) (name : Bytes) :
    ∃ factory l', (ServiceClientFactory.new (lossFree codec c resets reply) codec name
      l.world.backEnd.sourceType l.world.backEnd.backendType).runOn l = .ok (.ok factory, l') ∧
      l'.world.backEnd.services = l.world.backEnd.services := by
  obtain ⟨sourceType, backendType, hreach⟩ := h.reaches
  have hsound := sound_reaches hreach
  have hsealed : l.world.backEnd.isSealed = true := by
    have hrunning := h.running
    simp only [World.running, Bool.and_eq_true] at hrunning
    exact hrunning.1
  obtain ⟨bpc, hbpc, hclient⟩ := runOn_basicProtocolClient (F := LinkFault) (σ := ServerLink)
  obtain ⟨hres, l₁, hhello, hno, hlive⟩ :=
    runOn_hello_total resets reply hcodec hbpc h hnew name
  obtain ⟨hadv, -⟩ := runOn_hello hsound hcodec hbpc hhello hno
  have hlist : ∃ out, BasicProtocolImpl.listServices l₁.world.backEnd = .ok out := by
    rw [BasicProtocolImpl.listServices_congr hadv.control.services]
    exact BasicProtocolImpl.listServices_total (fitsOrdinals_reaches hreach) hfull
  obtain ⟨⟨res, l₂⟩, hcall⟩ := runOn_listServices_total resets reply hcodec
    hbpc hlive hadv.serving.established hlist
  obtain ⟨hadv₂, -, out, rfl, hout⟩ := runOn_listServices hadv.serving hcodec hbpc hcall
  have hreach₁ := hreach.trans hadv.reaches
  obtain ⟨services, hrec, -⟩ := recordServices_listing hadv.serving.sound.registry.wf
    (lowerNames_reaches hreach₁) (fitsOrdinals_reaches hreach₁) hout
  refine ⟨⟨name, bpc, services⟩, l₂, ?_, (hadv.control.trans hadv₂.control).services⟩
  unfold ServiceClientFactory.new
  rw [Call.runOn_bind_of_ok (Call.runOn_get l), if_neg (by simp [lossFree, hsealed]),
    Call.runOn_bind_of_ok (hclient l), Call.runOn_bind_of_ok hhello, if_neg (not_not.mpr hno),
    Call.runOn_bind_of_ok hcall]
  rw [throwing, hrec]
  rfl

end RblRpc
