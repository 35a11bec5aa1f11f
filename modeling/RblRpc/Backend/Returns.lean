import RblRpc.Backend.Addressing
import RblRpc.Backend.CookieRange

/-!
# Calls that return

A back end that is up has a service, and a slot of its cookie store, for every ordinal below the
number of its services.  What it is asked to do returns, but for two requests: a hello of an
established client whose types are the expected ones, which `establish_client` does not survive, and
a `list_methods` of a service whose dispatch table has a hole.

* `Up` — a back end that is up.
* `Service.hasHole`, `produceMethodList_ok_iff` — the tables that cannot be listed.
* `strands` — the requests that are posted, and that no dispatch ends.
* `runPosted_ok_iff` — **a dispatch returns exactly for the others.**
* `checkRequest_total`, `disconnect_total` — the checks of `invoke`, and `disconnect`.
-/

namespace RblRpc

open Transition OidContainer

/-- What goes on without a fault returns when its first part does. -/
theorem bind_ok_iff {α β : Type} {x : Except Fault α} {f : α → Except Fault β}
    (hf : ∀ a, ∃ out, f a = .ok out) : (∃ out, x >>= f = .ok out) ↔ ∃ a, x = .ok a := by
  constructor
  · rintro ⟨out, hout⟩
    obtain ⟨a, ha, -⟩ := bind_eq_ok.mp hout
    exact ⟨a, ha⟩
  · rintro ⟨a, ha⟩
    obtain ⟨out, hout⟩ := hf a
    exact ⟨out, bind_eq_ok.mpr ⟨a, ha, hout⟩⟩

/-! ## Tables without holes -/

/-- An ordinal below the size of the dispatch table has no entry. -/
def Service.hasHole (s : Service) : Bool :=
  match s.impl with
  | .basicProtocol => false
  | .application t => (List.range t.size).any fun i => (t.entryAtOrdinal (UInt32.ofNat i)).isNone

theorem ffProduceMethodList_ok_iff {M : Type} [Inhabited M] {t : OidContainer M} :
    (∃ mes, ffProduceMethodList t = .ok mes) ↔
      ∀ i < t.size, (t.entryAtOrdinal (UInt32.ofNat i)).isSome = true := by
  constructor
  · rintro ⟨mes, hmes⟩ i hi
    obtain ⟨me, -, hme⟩ := ok_of_mapM hmes (List.mem_range.mpr hi)
    cases he : t.entryAtOrdinal (UInt32.ofNat i) with
    | none =>
      rw [he] at hme
      cases hme
    | some e => rfl
  · intro hall
    refine mapM_total fun i hi => ?_
    obtain ⟨e, he⟩ := Option.isSome_iff_exists.mp (hall i (List.mem_range.mp hi))
    exact ⟨⟨e.ordinal.toUInt32, e.name.str⟩, by rw [he]⟩

/-- **`produce_method_list` returns** exactly where the table has no hole. -/
theorem Service.produceMethodList_ok_iff {s : Service} :
    (∃ mes, s.produceMethodList = .ok mes) ↔ s.hasHole = false := by
  unfold Service.produceMethodList Service.hasHole
  cases s.impl with
  | basicProtocol =>
    refine iff_of_true (ffProduceMethodList_ok_iff.mpr fun i hi => ?_) rfl
    have hall : ∀ i < basicProtocolTable.size,
        (basicProtocolTable.entryAtOrdinal (UInt32.ofNat i)).isSome = true := by decide +kernel
    exact hall i hi
  | application t =>
    rw [ffProduceMethodList_ok_iff, List.any_eq_false]
    refine forall_congr' fun i => ?_
    rw [List.mem_range]
    refine imp_congr_right fun _ => ?_
    cases t.entryAtOrdinal (UInt32.ofNat i) <;> simp

/-- A subscription is a cookie. -/
theorem ClientServiceCookies.isSome_of_isSubscribed {cs : ClientServiceCookies} {s : ℕ}
    {c : ClientPtr} (h : cs.isSubscribed s c = true) : (cs.lookup s c).isSome = true := by
  rw [isSubscribed] at h
  cases hlook : cs.lookup s c with
  | none =>
    rw [hlook] at h
    cases h
  | some cookie => rfl

namespace BackEnd

/-! ## A back end that is up -/

/-- There are a service and a slot for its cookies at the ordinal. -/
structure Stands (b : BackEnd) (o : UInt16) : Prop where
  service : ∃ s, b.serviceAt o = some (some s)
  active : b.clientServiceCookies.isActive o.toNat = true

/-- Each ordinal below the number of services has a service that was not reset, and a slot in the
cookie store. -/
structure Up (b : BackEnd) : Prop where
  fits : b.services.size ≤ 2 ^ 16
  full : ∀ i < b.services.size, (b.services.at? i).isSome = true
  present : ∀ o, b.serviceAt o ≠ some none
  active : ∀ i < b.services.size, b.clientServiceCookies.isActive i = true

variable {codec : BasicProtocolCodec} {b b' : BackEnd} {c : ClientPtr} {cd : ClientData}
  {reply : ServiceReply} {o : UInt16} {s : Service}

namespace Up

/-- Calls that leave the services and the slots of the cookie store leave the back end up. -/
theorem congr (h : b.Up) (hservices : b'.services = b.services)
    (hshape : ClientServiceCookies.SameShape b.clientServiceCookies b'.clientServiceCookies) :
    b'.Up := by
  refine ⟨hservices ▸ h.fits, hservices ▸ h.full, fun o => ?_, fun i hi => ?_⟩
  · rw [serviceAt, hservices]
    exact h.present o
  · rw [hshape.isActive]
    exact h.active i (hservices ▸ hi)

/-- **A started back end is up** as long as no service is reset. -/
theorem of_started (hreg : RegistrySound b) (hact : b.Activated) (hsealed : b.isSealed = true)
    (hcont : b.services.size = b.services.occupiedSize)
    (hpresent : ∀ o, b.serviceAt o ≠ some none) : b.Up :=
  ⟨hcont ▸ hreg.occupiedSize_le, hreg.wf.full_iff.mp hcont.symm, hpresent,
    fun i hi => hact hsealed i (by rw [hreg.isSealed hsealed]; exact hi)⟩

/-- There is a service at every ordinal below their number. -/
theorem stands (h : b.Up) (ho : o.toNat < b.services.size) : b.Stands o := by
  refine ⟨?_, h.active _ ho⟩
  obtain ⟨e, he⟩ := Option.isSome_iff_exists.mp (h.full _ ho)
  have hat : b.serviceAt o = some e.entry := by rw [serviceAt_eq, he]; rfl
  cases hentry : e.entry with
  | none => exact absurd (hat.trans (congrArg some hentry)) (h.present o)
  | some s => exact ⟨s, hat.trans (congrArg some hentry)⟩

/-- Narrowing an ordinal below the number of services loses nothing. -/
theorem stands_toUInt16 (h : b.Up) {n : UInt32} (hn : n.toNat < b.services.size) :
    b.Stands n.toUInt16 := by
  refine h.stands ?_
  rw [UInt32.toNat_toUInt16, Nat.mod_eq_of_lt (hn.trans_le h.fits)]
  exact hn

/-- A service has an ordinal below their number. -/
theorem lt_size {x : Option Service} (hs : b.serviceAt o = some x) :
    o.toNat < b.services.size := by
  rw [serviceAt_eq] at hs
  obtain ⟨e, he, -⟩ := Option.map_eq_some_iff.mp hs
  exact (List.getElem?_eq_some_iff.mp (at?_eq_some.mp he).1).1

end Up

/-- A cookie is created, or retrieved. -/
theorem Stands.cookie (h : b.Stands o) (c : ClientPtr) :
    ∃ cs, b.clientServiceCookies.createOrRetrieveCookie o c = .ok cs ∧
      ClientServiceCookies.SameShape b.clientServiceCookies cs ∧
      (cs.lookup o.toNat c).isSome = true := by
  obtain ⟨cs, hcs⟩ := ClientServiceCookies.createOrRetrieveCookie_total h.active c
  obtain ⟨hshape, hlook⟩ := ClientServiceCookies.createOrRetrieveCookie_ok hcs
  refine ⟨cs, hcs, hshape, ?_⟩
  rw [hlook, if_pos ⟨rfl, rfl⟩]
  rfl

end BackEnd

/-! ## The handlers of `basic_protocol` -/

namespace BasicProtocolImpl

variable {b : BackEnd} {c : ClientPtr} {cd : ClientData}

/-- `hello` returns unless it establishes an established client. -/
theorem hello_ok_iff {hr : HelloRequest} : (∃ out, hello b cd hr = .ok out) ↔
    ¬(cd.clientEstablished = true ∧ hr.expectedTarget = b.backendType ∧
      hr.sourceType = b.sourceType) := by
  unfold hello
  split
  · rename_i hne
    exact iff_of_true ⟨_, rfl⟩ fun h => hne h.2.1.symm
  · split
    · rename_i hne
      exact iff_of_true ⟨_, rfl⟩ fun h => hne h.2.2.symm
    · rename_i htarget hsource
      have htypes : hr.expectedTarget = b.backendType ∧ hr.sourceType = b.sourceType :=
        ⟨(not_not.mp htarget).symm, (not_not.mp hsource).symm⟩
      rw [and_iff_left htypes, Bool.not_eq_true]
      constructor
      · rintro ⟨out, hout⟩
        obtain ⟨cd', hest, -⟩ := bind_eq_ok.mp hout
        exact (ClientData.establishClient_eq_ok.mp hest).1
      · intro hest
        exact ⟨_, bind_eq_ok.mpr
          ⟨_, ClientData.establishClient_eq_ok.mpr ⟨hest, rfl⟩, rfl⟩⟩

/-- A registry without a hole is listed. -/
theorem listServices_total (hfits : b.services.size ≤ 2 ^ 16)
    (hfull : ∀ i < b.services.size, (b.services.at? i).isSome = true) :
    ∃ out, listServices b = .ok out := by
  unfold listServices
  refine (mapM_total fun i hi => ?_).elim fun entries hentries =>
    ⟨⟨entries⟩, bind_eq_ok.mpr ⟨entries, hentries, rfl⟩⟩
  rw [List.mem_range] at hi
  have hof : (UInt32.ofNat i).toNat = i := by
    rw [UInt32.toNat_ofNat']
    omega
  obtain ⟨e, he⟩ := Option.isSome_iff_exists.mp (hfull i hi)
  refine ⟨⟨e.ordinal.toUInt32, e.name.str⟩, ?_⟩
  rw [OidContainer.entryAtOrdinal, hof, he]

/-- `rpc_subscribe_service` returns where the service asked for is there. -/
theorem rpcSubscribeService_total (c : ClientPtr) (reply : ServiceReply) (cd : ClientData)
    {req : SubscribeServiceRequest}
    (h : req.serviceOrdinal.toNat < b.services.size → b.Stands req.serviceOrdinal.toUInt16) :
    ∃ out, rpcSubscribeService c reply b cd req = .ok out := by
  unfold rpcSubscribeService
  split
  · exact ⟨_, rfl⟩
  · rename_i hlt
    have hstands := h (not_not.mp hlt)
    obtain ⟨cs, hcs, -, hsome⟩ := hstands.cookie c
    obtain ⟨s, hs⟩ := hstands.service
    have hs' : (b.setCookies cs).serviceAt req.serviceOrdinal.toUInt16 = some (some s) := hs
    dsimp only
    rw [hcs]
    dsimp only [bind, Except.bind]
    split
    · exact ⟨_, rfl⟩
    · rw [hs']
      exact (bind_ok_iff fun _ => ⟨_, rfl⟩).mpr (ClientServiceCookies.setCookie_total hsome _)

/-- So does `rpc_unsubscribe_service`. -/
theorem rpcUnsubscribeService_total (c : ClientPtr) (reply : ServiceReply) (cd : ClientData)
    {req : UnsubscribeServiceRequest}
    (h : req.serviceOrdinal.toNat < b.services.size → b.Stands req.serviceOrdinal.toUInt16) :
    ∃ out, rpcUnsubscribeService c reply b cd req = .ok out := by
  unfold rpcUnsubscribeService
  split
  · exact ⟨_, rfl⟩
  · rename_i hlt
    have hstands := h (not_not.mp hlt)
    obtain ⟨cs, hcs, hshape, -⟩ := hstands.cookie c
    obtain ⟨s, hs⟩ := hstands.service
    have hs' : (b.setCookies cs).serviceAt req.serviceOrdinal.toUInt16 = some (some s) := hs
    dsimp only
    rw [hcs]
    dsimp only [bind, Except.bind]
    split
    · exact ⟨_, rfl⟩
    · rw [hs']
      obtain ⟨r, cs', hdelete⟩ := ClientServiceCookies.deleteCookie_total
        ((hshape.isActive _).trans hstands.active) c
      exact (bind_ok_iff fun _ => ⟨_, rfl⟩).mpr ⟨_, hdelete⟩

/-- `list_methods` returns unless the service has a hole in its table. -/
theorem listMethods_ok_iff {req : ListMethodsRequest}
    (h : req.serviceOrdinal.toNat < b.services.size →
      ∃ s, b.serviceAt req.serviceOrdinal.toUInt16 = some (some s)) :
    (∃ out, listMethods b cd req = .ok out) ↔
      ¬(req.serviceOrdinal.toNat < b.services.size ∧
        ∃ s, b.serviceAt req.serviceOrdinal.toUInt16 = some (some s) ∧ s.hasHole = true) := by
  unfold listMethods
  split
  · rename_i hlt
    exact iff_of_true ⟨_, rfl⟩ fun hn => hlt hn.1
  · rename_i hlt
    obtain ⟨s, hs⟩ := h (not_not.mp hlt)
    rw [hs]
    dsimp only
    have hhole : (∃ s', some (some s) = some (some s') ∧ s'.hasHole = true) ↔
        s.hasHole = true := by simp
    rw [hhole, and_iff_right (not_not.mp hlt), Bool.not_eq_true, ← s.produceMethodList_ok_iff]
    constructor
    · rintro ⟨out, hout⟩
      obtain ⟨mes, hmes, -⟩ := bind_eq_ok.mp hout
      exact ⟨mes, hmes⟩
    · rintro ⟨mes, hmes⟩
      exact ⟨_, bind_eq_ok.mpr ⟨mes, hmes, rfl⟩⟩

end BasicProtocolImpl

/-! ## The dispatch -/

section Dispatch

variable {codec : BasicProtocolCodec} {b : BackEnd} {c : ClientPtr} {cd : ClientData}
  {reply : ServiceReply} {o : UInt16} {s : Service} {i : Invoker}

/-- A generated dispatch function returns where the method does on what it parses. -/
theorem runMethod_ok_iff {I O : Type} {input : MessageCodec I} {output : MessageCodec O}
    {impl : BackEnd → ClientData → I → Except Fault (BackEnd × ClientData × O)} :
    (∃ out, runMethod input output impl b cd = .ok out) ↔
      ∀ req, input.parseFromString cd.request.requestString = (true, req) →
        ∃ out, impl b cd req = .ok out := by
  constructor
  · rintro ⟨⟨b', cd'⟩, hout⟩ req hreq
    rcases runMethod_ok hout with ⟨hfail, -⟩ | ⟨req', cd₁, res, hreq', himpl, -⟩
    · rw [hreq] at hfail
      cases hfail
    · rw [hreq] at hreq'
      cases hreq'
      exact ⟨_, himpl⟩
  · intro hall
    unfold runMethod
    split
    · exact ⟨_, rfl⟩
    · rename_i req hreq
      obtain ⟨⟨b', cd', res⟩, himpl⟩ := hall req hreq
      rw [himpl]
      exact ⟨_, rfl⟩

namespace BackEnd

/-- The request string is a hello with the types of the back end. -/
def establishes (codec : BasicProtocolCodec) (b : BackEnd) (string : Bytes) : Bool :=
  match codec.helloRequest.parseFromString string with
  | (true, hr) => decide (hr.expectedTarget = b.backendType ∧ hr.sourceType = b.sourceType)
  | (false, _) => false

/-- The request string asks for the methods of a service with a hole in its table. -/
def listsHole (codec : BasicProtocolCodec) (b : BackEnd) (string : Bytes) : Bool :=
  match codec.listMethodsRequest.parseFromString string with
  | (true, req) => decide (req.serviceOrdinal.toNat < b.services.size) &&
    match b.serviceAt req.serviceOrdinal.toUInt16 with
    | some (some s) => s.hasHole
    | _ => false
  | (false, _) => false

/-- **The requests no dispatch ends**: they are found at the 16-bit ordinals of `hello`, but are not
told to be one by the 32-bit ordinals, and would establish the client once more; or they list the
methods of a service with a hole in its table. -/
def strands (codec : BasicProtocolCodec) (b : BackEnd) (r : ClientRequest) : Bool :=
  decide (r.serviceOrdinal.toUInt16 = 0) &&
    match requestedMethod r with
    | some .hello => !decide (r.serviceOrdinal = 0 ∧ r.requestOrdinal = 0) &&
        b.establishes codec r.requestString
    | some .listMethods => b.listsHole codec r.requestString
    | _ => false

theorem establishes_iff {string : Bytes} : b.establishes codec string = true ↔
    ∃ hr, codec.helloRequest.parseFromString string = (true, hr) ∧
      hr.expectedTarget = b.backendType ∧ hr.sourceType = b.sourceType := by
  unfold establishes
  rcases codec.helloRequest.parseFromString string with ⟨_ | _, hr⟩ <;> simp

theorem listsHole_iff {string : Bytes} : b.listsHole codec string = true ↔
    ∃ req, codec.listMethodsRequest.parseFromString string = (true, req) ∧
      req.serviceOrdinal.toNat < b.services.size ∧
        ∃ s, b.serviceAt req.serviceOrdinal.toUInt16 = some (some s) ∧ s.hasHole = true := by
  unfold listsHole
  rcases codec.listMethodsRequest.parseFromString string with ⟨_ | _, req⟩
  · simp
  · rcases hs : b.serviceAt req.serviceOrdinal.toUInt16 with _ | _ | s <;> simp [hs]

/-- **A method of `basic_protocol` returns** on a back end that is up, but for a hello that
establishes an established client, and a listing of a table with a hole. -/
theorem dispatchBasic_ok_iff (h : b.Up) {m : BasicMethod} :
    (∃ out, dispatchBasic codec c reply m b cd = .ok out) ↔
      ¬(m = .hello ∧ cd.clientEstablished = true ∧
          b.establishes codec cd.request.requestString = true ∨
        m = .listMethods ∧ b.listsHole codec cd.request.requestString = true) := by
  cases m <;> rw [dispatchBasic, runMethod_ok_iff]
  case hello =>
    rw [establishes_iff]
    constructor
    · rintro hall (⟨-, hest, hr, hparse, htypes⟩ | ⟨hm, -⟩)
      · have hreturns := (bind_ok_iff fun _ => ⟨_, rfl⟩).mp (hall hr hparse)
        exact BasicProtocolImpl.hello_ok_iff.mp hreturns ⟨hest, htypes⟩
      · cases hm
    · intro hn hr hparse
      refine (bind_ok_iff fun _ => ⟨_, rfl⟩).mpr
        (BasicProtocolImpl.hello_ok_iff.mpr fun hall => ?_)
      exact hn (.inl ⟨rfl, hall.1, hr, hparse, hall.2⟩)
  case listServices =>
    refine iff_of_true (fun _ _ => (bind_ok_iff fun _ => ⟨_, rfl⟩).mpr ?_) ?_
    · exact BasicProtocolImpl.listServices_total h.fits h.full
    · rintro (⟨hm, -⟩ | ⟨hm, -⟩) <;> cases hm
  case rpcSubscribeService =>
    refine iff_of_true (fun req _ => ?_) ?_
    · exact BasicProtocolImpl.rpcSubscribeService_total c reply cd h.stands_toUInt16
    · rintro (⟨hm, -⟩ | ⟨hm, -⟩) <;> cases hm
  case rpcUnsubscribeService =>
    refine iff_of_true (fun req _ => ?_) ?_
    · exact BasicProtocolImpl.rpcUnsubscribeService_total c reply cd h.stands_toUInt16
    · rintro (⟨hm, -⟩ | ⟨hm, -⟩) <;> cases hm
  case listMethods =>
    rw [listsHole_iff]
    have hiff : ∀ req, (∃ out, BasicProtocolImpl.listMethods b cd req = .ok out) ↔ _ := fun req =>
      BasicProtocolImpl.listMethods_ok_iff fun hlt => (h.stands_toUInt16 hlt).service
    constructor
    · rintro hall (⟨hm, -⟩ | ⟨-, req, hparse, hhole⟩)
      · cases hm
      · exact (hiff req).mp ((bind_ok_iff fun _ => ⟨_, rfl⟩).mp (hall req hparse)) hhole
    · intro hn req hparse
      refine (bind_ok_iff fun _ => ⟨_, rfl⟩).mpr ((hiff req).mpr fun hhole => ?_)
      exact hn (.inr ⟨rfl, req, hparse, hhole⟩)

end BackEnd

/-- A method of an application returns, where its client has a cookie. -/
theorem dispatchApplication_total (reply : ServiceReply) (cd : ClientData)
    (hcookie : (b.clientServiceCookies.lookup o.toNat c).isSome = true) :
    ∃ out, dispatchApplication o c reply b cd = .ok out := by
  unfold dispatchApplication
  split
  · exact ⟨_, rfl⟩
  · obtain ⟨cookie, hlook⟩ := Option.isSome_iff_exists.mp hcookie
    obtain ⟨cs, hset⟩ := ClientServiceCookies.setCookie_total hcookie
      { cookie with cookieBase := reply.cookieBase }
    rw [hlook]
    dsimp only
    rw [hset]
    exact ⟨_, rfl⟩

namespace BackEnd

/-- What an invoker in the pool brings with it: the service it was posted for, a function of it, and
a cookie, unless the service is `basic_protocol`; and its client is established unless the request
is hello. -/
structure Dispatchable (c : ClientPtr) (b : BackEnd) (i : Invoker) : Prop where
  addressed : i.service = i.clientData.request.serviceOrdinal.toUInt16
  cookie : i.clientCookie = i.service
  service : ∃ s f, b.serviceAt i.service = some (some s) ∧
    (s.impl = .basicProtocol ↔ i.service = 0) ∧ s.dispatched i.clientData.request = some f
  held : i.service ≠ 0 → (b.clientServiceCookies.lookup i.service.toNat c).isSome = true
  established : i.clientData.clientEstablished = true ↔
    ¬(i.clientData.request.serviceOrdinal = 0 ∧ i.clientData.request.requestOrdinal = 0)

/-- **A dispatch returns**, exactly where the request is not one of those that strand. -/
theorem runPosted_ok_iff (h : b.Up) (hi : Dispatchable c b i) :
    (∃ out, b.runPosted codec c reply i = .ok out) ↔
      b.strands codec i.clientData.request = false := by
  obtain ⟨s, f, hs, htyped, hf⟩ := hi.service
  have hup : (b.logCall (.dispatch i.service.toNat c)).Up := h.congr rfl (.refl _)
  unfold runPosted
  rw [hs]
  dsimp only
  refine (bind_ok_iff fun _ => ⟨_, rfl⟩).trans ?_
  rw [Service.dispatch_eq, hf]
  unfold Service.dispatched Service.functionAt at hf
  cases f with
  | inl m =>
    have himpl : s.impl = .basicProtocol := by
      cases himpl : s.impl with
      | basicProtocol => rfl
      | application t =>
        rw [himpl] at hf
        obtain ⟨fn, -, heq⟩ := Option.map_eq_some_iff.mp hf
        cases heq
    have hzero : i.clientData.request.serviceOrdinal.toUInt16 = 0 :=
      hi.addressed.symm.trans (htyped.mp himpl)
    have hm : requestedMethod i.clientData.request = some m := by
      rw [himpl] at hf
      obtain ⟨m', hm', heq⟩ := Option.map_eq_some_iff.mp hf
      cases heq
      rw [requestedMethod, ← basicProtocolTable_atOrdinal]
      exact hm'
    dsimp only
    rw [dispatchBasic_ok_iff hup, strands, decide_eq_true hzero, Bool.true_and, hm,
      ← Bool.not_eq_true]
    refine not_congr ?_
    cases m
    case hello =>
      dsimp only
      rw [Bool.and_eq_true, Bool.not_eq_true', decide_eq_false_iff_not, ← hi.established]
      refine ⟨?_, fun hboth => .inl ⟨rfl, hboth⟩⟩
      rintro (⟨-, hboth⟩ | ⟨heq, -⟩)
      · exact hboth
      · cases heq
    case listMethods =>
      refine ⟨?_, fun hhole => .inr ⟨rfl, hhole⟩⟩
      rintro (⟨heq, -⟩ | ⟨-, hhole⟩)
      · cases heq
      · exact hhole
    all_goals
      refine iff_of_false ?_ Bool.false_ne_true
      rintro (⟨heq, -⟩ | ⟨heq, -⟩) <;> cases heq
  | inr fn =>
    have hne : i.clientData.request.serviceOrdinal.toUInt16 ≠ 0 := by
      intro hzero
      have himpl := htyped.mpr (hi.addressed.trans hzero)
      rw [himpl] at hf
      obtain ⟨m', -, heq⟩ := Option.map_eq_some_iff.mp hf
      cases heq
    dsimp only
    rw [hi.cookie, strands, decide_eq_false hne, Bool.false_and]
    have hheld := hi.held fun hzero => hne (hi.addressed.symm.trans hzero)
    exact iff_of_true (dispatchApplication_total reply i.clientData hheld) rfl

/-! ## The other calls for a client -/

/-- **The checks of `invoke`** return on a back end that is up. -/
theorem checkRequest_total (h : b.Up) (codec : BasicProtocolCodec) (c : ClientPtr) (i : Invoker) :
    ∃ out, b.checkRequest codec c i = .ok out := by
  unfold checkRequest
  dsimp only
  cases hs : b.serviceAt i.clientData.request.serviceOrdinal.toUInt16 with
  | none => exact ⟨_, rfl⟩
  | some x =>
    cases x with
    | none => exact absurd hs (h.present _)
    | some s =>
      dsimp only
      split
      · exact ⟨_, rfl⟩
      · obtain ⟨cs, hcs, -⟩ := (h.stands (Up.lt_size hs)).cookie c
        rw [hcs]
        dsimp only [bind, Except.bind]
        split
        · exact ⟨_, rfl⟩
        · split <;> split <;> exact ⟨_, rfl⟩

theorem disconnectService_total (h : b.Up) (c : ClientPtr) (replies : ℕ → ServiceReply) {n : ℕ}
    (hn : n < b.services.size) (cd : ClientData) :
    ∃ b' cd', disconnectService c replies n b cd = .ok (b', cd') ∧ b'.Up ∧
      b'.services = b.services ∧ b'.connectedClients = b.connectedClients := by
  have ho : (UInt16.ofNat n).toNat < b.services.size := by
    rw [UInt16.toNat_ofNat', Nat.mod_eq_of_lt (hn.trans_le h.fits)]
    exact hn
  obtain ⟨cs, hcs, hshape, -⟩ := (h.stands ho).cookie c
  obtain ⟨s, hs⟩ := (h.stands ho).service
  have hunsub : ∃ calls cd', unsubscribeClient c (UInt16.ofNat n) (replies n) (some s)
      (b.setCookies cs) cd = .ok ({ b.setCookies cs with calls := calls }, cd') := by
    unfold unsubscribeClient
    split
    · exact ⟨_, _, rfl⟩
    · exact ⟨_, _, rfl⟩
  obtain ⟨calls, cd', hunsub⟩ := hunsub
  have hactive : cs.isActive (UInt16.ofNat n).toNat = true :=
    (hshape.isActive _).trans (h.active _ ho)
  obtain ⟨r, cs', hdelete⟩ := ClientServiceCookies.deleteCookie_total hactive c
  have hshape' := (ClientServiceCookies.deleteCookie_ok hdelete).1
  refine ⟨{ b with clientServiceCookies := cs', calls := calls }, cd', ?_,
    h.congr rfl (hshape.trans hshape'), rfl, rfl⟩
  unfold disconnectService
  dsimp only
  rw [hcs, hs]
  dsimp only [bind, Except.bind]
  rw [hunsub]
  dsimp only
  rw [show ({ b.setCookies cs with calls := calls } : BackEnd).clientServiceCookies = cs from rfl,
    hdelete]
  rfl

theorem disconnectServices_total (c : ClientPtr) (replies : ℕ → ServiceReply) {is : List ℕ}
    (h : b.Up) (his : ∀ n ∈ is, n < b.services.size) (cd : ClientData) :
    ∃ b' cd', disconnectServices c replies is b cd = .ok (b', cd') ∧
      b'.connectedClients = b.connectedClients := by
  induction is generalizing b cd with
  | nil => exact ⟨b, cd, rfl, rfl⟩
  | cons n is ih =>
    obtain ⟨b₁, cd₁, h₁, hup, hservices, hconn⟩ :=
      disconnectService_total h c replies (his n List.mem_cons_self) cd
    obtain ⟨b₂, cd₂, h₂, hconn₂⟩ := ih hup (fun n hn => by
      rw [hservices]
      exact his n (List.mem_cons_of_mem _ hn)) cd₁
    exact ⟨b₂, cd₂, bind_eq_ok.mpr ⟨_, h₁, h₂⟩, hconn₂.trans hconn⟩

/-- **`disconnect`** of a connected client returns on a back end that is up. -/
theorem disconnect_total (h : b.Up) (replies : ℕ → ServiceReply)
    (hmem : c ∈ b.connectedClients) (cd : ClientData) :
    ∃ out, b.disconnect c replies cd = .ok out := by
  have hclean : ∃ b' cd', b.cleanUp c replies cd = .ok (b', cd') ∧
      b'.connectedClients = b.connectedClients := by
    unfold cleanUp
    split
    · refine disconnectServices_total c replies h (fun n hn => ?_) cd
      rw [List.mem_range'_1] at hn
      omega
    · exact ⟨b, cd, rfl, rfl⟩
  obtain ⟨b', cd', hclean, hconn⟩ := hclean
  refine ⟨_, bind_eq_ok.mpr ⟨_, hclean, bind_eq_ok.mpr ⟨(), ?_, rfl⟩⟩⟩
  rw [boostAssert_eq_ok, hconn]
  exact decide_eq_true hmem

end BackEnd

end Dispatch

end RblRpc
