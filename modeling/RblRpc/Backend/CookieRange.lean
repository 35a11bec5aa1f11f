import RblRpc.Backend.CookieObjects

/-!
# The range of the cookie store

`create_or_retrieve_cookie`, `delete_cookie` and `contains_cookie` assert that the ordinal is not
above `size()-1`, and then access the vector.

* `cookieCalls` — the ordinals that a step calls the store with.
* `rangeExact_iff` — the assertion is exact but for the empty vector.
* `cookie_calls_in_range_iff` — **the calls of a run are in range exactly when `invoke` checks its
  requests on a started back end.**
-/

namespace RblRpc

open Transition BackEnd

namespace ClientServiceCookies

variable {cs cs' : ClientServiceCookies} {o : UInt16}

/-- The range assertion of the operations. -/
def rangeAssertion (cs : ClientServiceCookies) (o : UInt16) : Bool :=
  !decide (cs.lastOrdinal < o.toNat)

/-- The vector has a map at the ordinal. -/
structure InRange (cs : ClientServiceCookies) (o : UInt16) : Prop where
  below : o.toNat < cs.serviceCookieVector.length
  activated : cs.isActive o.toNat = true

/-- The assertion accepts the ordinals of the vector, and no others. -/
def RangeExact (cs : ClientServiceCookies) : Prop :=
  ∀ o, cs.rangeAssertion o = true ↔ o.toNat < cs.serviceCookieVector.length

/-- **The operations go on** exactly where the ordinal is in range. -/
theorem mapAt_ok_iff : (∃ m, cs.mapAt o = .ok m) ↔ cs.InRange o := by
  constructor
  · rintro ⟨m, hm⟩
    have hget := mapAt_eq_ok.mp hm
    exact ⟨(List.getElem?_eq_some_iff.mp hget).1, by rw [isActive, hget]; rfl⟩
  · intro h
    exact mapAt_of_isActive h.activated

/-- **The range assertion is exact** but for the empty vector. -/
theorem rangeExact_iff : cs.RangeExact ↔ cs.serviceCookieVector.length ≠ 0 := by
  constructor
  · intro h hzero
    have hone := h 0
    rw [hzero, rangeAssertion, lastOrdinal, if_pos hzero] at hone
    exact absurd (hone.mp (by decide)) (by decide)
  · intro hne o
    rw [rangeAssertion, lastOrdinal, if_neg hne, Bool.not_eq_true', decide_eq_false_iff_not]
    omega

/-- An access to an empty vector passes the assertion. -/
theorem mapAt_empty (h : cs.serviceCookieVector.length = 0) : cs.mapAt o = .error .outOfRange := by
  have hnot : ¬ cs.lastOrdinal < o.toNat := by
    have ho := o.toNat_lt
    rw [lastOrdinal, if_pos h]
    omega
  have hnil := List.eq_nil_of_length_eq_zero h
  rw [mapAt, decide_eq_false hnot, hnil]
  rfl

/-! ## Activated slots -/

/-- Every slot has its map. -/
def AllActive (cs : ClientServiceCookies) : Prop :=
  ∀ s, s < cs.serviceCookieVector.length → cs.isActive s = true

theorem AllActive.congr (h : cs.AllActive) (hshape : SameShape cs cs') : cs'.AllActive :=
  fun s hs => (hshape.isActive s).trans (h s (hshape.length ▸ hs))

theorem AllActive.inRange (h : cs.AllActive) (ho : o.toNat < cs.serviceCookieVector.length) :
    cs.InRange o := ⟨ho, h _ ho⟩

/-- An activated slot stays so. -/
theorem isActive_setMap_of {m : CookieMap} {s : ℕ} (h : cs.isActive s = true) :
    (cs.setMap o m).isActive s = true := by
  simp only [isActive, setMap, List.getElem?_set] at h ⊢
  split
  · split
    · rfl
    · rename_i heq hge
      rw [← heq, List.getElem?_eq_none (Nat.not_lt.mp hge)] at h
      cases h
  · exact h

theorem isActive_setMap_self {m : CookieMap} (ho : o.toNat < cs.serviceCookieVector.length) :
    (cs.setMap o m).isActive o.toNat = true := by
  rw [isActive, setMap, List.getElem?_set_self ho]
  rfl

end ClientServiceCookies

namespace BackEnd

variable {b b' : BackEnd} {o : UInt16}

/-- The loop of `start` activates the slots it goes through, and leaves the others active. -/
theorem activateServices_active {is : List ℕ} {cs cs' : ClientServiceCookies}
    (h : activateServices is cs = .ok cs') {s : ℕ}
    (hs : cs.isActive s = true ∨ ∃ i ∈ is, s = (UInt16.ofNat i).toNat) :
    cs'.isActive s = true := by
  induction is generalizing cs with
  | nil =>
    cases h
    rcases hs with hs | ⟨i, hi, -⟩
    · exact hs
    · cases hi
  | cons i is ih =>
    obtain ⟨cs₁, h₁, h₂⟩ := bind_eq_ok.mp h
    obtain ⟨_, hlt, h₁⟩ := bind_eq_ok.mp h₁
    obtain ⟨_, -, hret⟩ := bind_eq_ok.mp h₁
    cases hret
    have hlt' := of_decide_eq_true (boostAssert_eq_ok.mp hlt)
    refine ih h₂ ?_
    rcases hs with hs | ⟨j, hj, rfl⟩
    · exact .inl (ClientServiceCookies.isActive_setMap_of hs)
    · rcases List.mem_cons.mp hj with rfl | hj
      · exact .inl (ClientServiceCookies.isActive_setMap_self hlt')
      · exact .inr ⟨j, hj, rfl⟩

/-- The store of a started back end has a map in every slot. -/
def Activated (b : BackEnd) : Prop := b.isSealed = true → b.clientServiceCookies.AllActive

theorem Activated.of_shape (h : b.Activated) (hsealed : b'.isSealed = b.isSealed)
    (hshape : ClientServiceCookies.SameShape b.clientServiceCookies b'.clientServiceCookies) :
    b'.Activated := fun hs => (h (hsealed.symm.trans hs)).congr hshape

/-- **`start` activates every slot.** -/
theorem Activated.start {e : Option BackEndException} (h : b.Activated) (hreg : RegistrySound b)
    (hs : b.start = .ok (b', e)) : b'.Activated := by
  obtain ⟨-, ⟨-, rfl, -⟩ | ⟨-, -, -, cs₀, cs, hcs₀, hcs, rfl⟩⟩ := start_ok hs
  · exact h
  · intro _ s hlt
    change s < cs.serviceCookieVector.length at hlt
    rw [RegistrySound.activateServices_length hcs, RegistrySound.setSize_length hcs₀] at hlt
    refine activateServices_active hcs (.inr ⟨s, List.mem_range.mpr hlt, ?_⟩)
    exact (UInt16.toNat_ofNat_of_lt (hlt.trans_le hreg.occupiedSize_le)).symm

/-- A registered ordinal is in the range of a started back end. -/
theorem inRange_of_serviceAt (hreg : RegistrySound b) (hact : b.Activated)
    (hsealed : b.isSealed = true) (ho : (b.serviceAt o).isSome = true) :
    b.clientServiceCookies.InRange o := by
  refine (hact hsealed).inRange ?_
  rw [hreg.isSealed hsealed]
  by_contra hge
  rw [serviceAt_eq, OidContainer.at?, List.getElem?_eq_none (Nat.not_lt.mp hge)] at ho
  cases ho

end BackEnd

namespace World

variable {codec : BasicProtocolCodec} {w w' : World} {c : ClientPtr} {l : Label}

/-- What all steps but `start` keep: whether the back end is sealed, and the shape of the store. -/
structure SameStore (w w' : World) : Prop where
  isSealed : w'.backEnd.isSealed = w.backEnd.isSealed
  shape : ClientServiceCookies.SameShape w.backEnd.clientServiceCookies
    w'.backEnd.clientServiceCookies

theorem SameStore.refl (w : World) : SameStore w w := ⟨rfl, .refl _⟩

theorem SameStore.trans {w₁ w₂ w₃ : World} (h : SameStore w₁ w₂) (h' : SameStore w₂ w₃) :
    SameStore w₁ w₃ :=
  ⟨h'.isSealed.trans h.isSealed, h.shape.trans h'.shape⟩

/-- The steps that write neither. -/
theorem SameStore.of_eq (hsealed : w'.backEnd.isSealed = w.backEnd.isSealed)
    (hcookies : w'.backEnd.clientServiceCookies = w.backEnd.clientServiceCookies) :
    SameStore w w' := ⟨hsealed, hcookies ▸ .refl _⟩

theorem disconnect_sameStore {reply : ℕ → ServiceReply} (hd : w.disconnect c reply = .ok w') :
    SameStore w w' := by
  obtain ⟨b, cd, hb, rfl⟩ := disconnect_ok hd
  obtain ⟨-, -, -, ⟨cs, calls, rfl⟩, hr, -⟩ := BackEnd.disconnect_ok hb
  exact ⟨rfl, hr.shape⟩

theorem signalStage_sameStore {reply : ManagerId → ManagerReply}
    (hs : w.signalStage reply = .ok w') : SameStore w w' := by
  obtain ⟨w₁, threw, hsig, rfl⟩ := signalStage_ok hs
  have hw₁ : SameStore w w₁ := signalManagers_rule (I := SameStore w)
    (fun _ _ hI _ _ _ _ hd => hI.trans (disconnect_sameStore hd))
    (fun _ hI _ _ => hI.trans (.of_eq rfl rfl)) hsig (.refl w)
  cases threw <;> exact ⟨hw₁.isSealed, hw₁.shape⟩

/-- **Every step but `start`** keeps the shape of the store. -/
theorem fire_sameStore (hl : l ≠ .start) (hf : fire codec w l = .ok w') : SameStore w w' := by
  cases hc : l.client with
  | some c => exact ⟨(fire_sameControl hc hf).isSealed, fire_sameShape hc hf⟩
  | none =>
    rcases fire_sameRecords hc hf with hsame | ⟨s, rfl⟩ | rfl | ⟨reply, rfl⟩ | rfl | rfl
    · exact .of_eq hsame.isSealed hsame.cookies
    · cases hf
      obtain ⟨services, ec, count, heq⟩ := registerAndInitService_writes s w.backEnd
      apply SameStore.of_eq <;> simp only [setBackEnd_backEnd, heq]
    · exact absurd rfl hl
    · exact signalStage_sameStore hf
    · cases hf
      exact .of_eq rfl rfl
    · obtain ⟨services, ec, calls, p, r, rfl⟩ := teardownStage_writes hf
      exact .of_eq rfl rfl

/-- A sealed back end stays so. -/
theorem fire_sealed (h : w.backEnd.isSealed = true) (hf : fire codec w l = .ok w') :
    w'.backEnd.isSealed = true := by
  by_cases hl : l = .start
  · subst hl
    obtain ⟨b, e, hs, rfl⟩ := start_ok hf
    obtain ⟨-, ⟨-, rfl, -⟩ | ⟨hun, -⟩⟩ := BackEnd.start_ok hs
    · exact h
    · exact absurd (hun.symm.trans h) Bool.false_ne_true
  · rw [(fire_sameStore hl hf).isSealed, h]

/-- The registry is sound, the slots of a started back end are activated, and the pool runs requests
of a started back end only. -/
structure StoreSound (w : World) : Prop where
  registry : RegistrySound w.backEnd
  activated : w.backEnd.Activated
  pool : ∀ c, w.stage c = .running → w.backEnd.isSealed = true

theorem StoreSound.step (h : w.StoreSound) (hg : w.enabled l = true)
    (hf : fire codec w l = .ok w') : w'.StoreSound := by
  refine ⟨registrySound_step h.registry hg hf, ?_, fun c hrun => ?_⟩
  · by_cases hl : l = .start
    · subst hl
      obtain ⟨b, e, hs, rfl⟩ := start_ok hf
      exact h.activated.start h.registry hs
    · have hsame := fire_sameStore hl hf
      exact h.activated.of_shape hsame.isSealed hsame.shape
  · have hstep := fire_stageStep c hg hf
    rw [hrun] at hstep
    generalize hst : w.stage c = s at hstep
    cases hstep with
    | take =>
      simp only [enabled, Bool.and_eq_true] at hg
      exact fire_sealed hg.1.1 hf
    | _ => exact fire_sealed (h.pool c hst) hf

theorem init_storeSound (sourceType : SourceConnectionType)
    (backendType : DestinationConnectionType) : (init sourceType backendType).StoreSound := by
  have hun : (init sourceType backendType).backEnd.isSealed = false :=
    (registered_new sourceType backendType).unsealed
  refine ⟨RegistrySound.new _ _, fun hs => ?_, fun c hrun => by cases hrun⟩
  exact absurd (hun.symm.trans hs) Bool.false_ne_true

end World

/-! ## The calls -/

namespace BackEnd

/-- `invoke` retrieves a cookie, once it has found the service and the function. -/
def checkCalls (b : BackEnd) (request : ClientRequest) : List UInt16 :=
  let o := request.serviceOrdinal.toUInt16
  match b.serviceAt o with
  | some (some service) =>
    if service.containsFunctionAtOrdinal request.requestOrdinal.toUInt16 then [o] else []
  | _ => []

/-- `rpc_subscribe_service` retrieves a cookie. -/
def subscribeCalls (b : BackEnd) (req : SubscribeServiceRequest) : List UInt16 :=
  if req.serviceOrdinal.toNat < b.services.size then [req.serviceOrdinal.toUInt16] else []

/-- `rpc_unsubscribe_service` retrieves a cookie, and deletes it if it is subscribed. -/
def unsubscribeCalls (c : ClientPtr) (b : BackEnd) (req : UnsubscribeServiceRequest) :
    List UInt16 :=
  let o := req.serviceOrdinal.toUInt16
  if req.serviceOrdinal.toNat < b.services.size then
    if b.clientServiceCookies.isSubscribed o.toNat c then [o, o] else [o]
  else []

/-- The dispatch of a method of `basic_protocol`. -/
def methodCalls (codec : BasicProtocolCodec) (c : ClientPtr) (b : BackEnd) (string : Bytes) :
    BasicMethod → List UInt16
  | .rpcSubscribeService => match codec.subscribeServiceRequest.parseFromString string with
    | (true, req) => b.subscribeCalls req
    | (false, _) => []
  | .rpcUnsubscribeService => match codec.unsubscribeServiceRequest.parseFromString string with
    | (true, req) => b.unsubscribeCalls c req
    | (false, _) => []
  | _ => []

/-- The dispatch of a posted invoker; the other services keep to the cookie they are given. -/
def runCalls (codec : BasicProtocolCodec) (c : ClientPtr) (b : BackEnd) (i : Invoker) :
    List UInt16 :=
  match b.serviceAt i.service with
  | some (some s) => match s.impl with
    | .basicProtocol =>
      (requestedMethod i.clientData.request).elim []
        (b.methodCalls codec c i.clientData.request.requestString)
    | .application _ => []
  | _ => []

/-- Each turn of the loop of `disconnect` retrieves a cookie and deletes it. -/
def disconnectCalls (b : BackEnd) : List UInt16 :=
  if b.isSealed && !b.ioService.stopped then
    (List.range' 1 (b.services.size - 1)).flatMap fun i => [UInt16.ofNat i, UInt16.ofNat i]
  else []

end BackEnd

namespace World

variable {codec : BasicProtocolCodec} {w w' : World} {c : ClientPtr} {l : Label}

/-- **The ordinals a step calls the cookie store with.**  No step that calls the store changes its
shape between its calls. -/
def cookieCalls (codec : BasicProtocolCodec) (w : World) : Label → List UInt16
  | .check c => w.backEnd.checkCalls (w.data c).request
  | .run c _ => w.backEnd.runCalls codec c (w.invokers c)
  | .disconnect _ _ => w.backEnd.disconnectCalls
  | .signalStage reply => (signalled reply w.state.slots).flatMap fun _ => w.backEnd.disconnectCalls
  | _ => []

/-- Every call of a step is in range. -/
def CallsInRange (codec : BasicProtocolCodec) (w : World) (l : Label) : Prop :=
  ∀ o ∈ w.cookieCalls codec l, w.backEnd.clientServiceCookies.InRange o

/-- `invoke` gets to its cookie on a started back end. -/
def ChecksStarted (w : World) (l : Label) : Prop :=
  ∀ c, l = .check c → w.backEnd.checkCalls (w.data c).request ≠ [] → w.backEnd.isSealed = true

end World

/-! ## Where the calls are in range -/

namespace BackEnd

variable {codec : BasicProtocolCodec} {b : BackEnd} {c : ClientPtr} {o : UInt16}

/-- Ordinals below the number of services are in the range of a started back end. -/
theorem inRange_of_lt (hreg : RegistrySound b) (hact : b.Activated) (hsealed : b.isSealed = true)
    {n : ℕ} (hn : n < b.services.size) (ho : o.toNat ≤ n) :
    b.clientServiceCookies.InRange o := by
  refine (hact hsealed).inRange ?_
  rw [hreg.isSealed hsealed]
  omega

theorem checkCalls_inRange (hreg : RegistrySound b) (hact : b.Activated)
    (hsealed : b.isSealed = true) {r : ClientRequest} (ho : o ∈ b.checkCalls r) :
    b.clientServiceCookies.InRange o := by
  unfold checkCalls at ho
  dsimp only at ho
  split at ho
  · rename_i s hs
    split at ho
    · rw [List.mem_singleton] at ho
      subst ho
      exact inRange_of_serviceAt hreg hact hsealed (by rw [hs]; rfl)
    · cases ho
  · cases ho

theorem subscribeCalls_inRange (hreg : RegistrySound b) (hact : b.Activated)
    (hsealed : b.isSealed = true) {req : SubscribeServiceRequest}
    (ho : o ∈ b.subscribeCalls req) : b.clientServiceCookies.InRange o := by
  unfold subscribeCalls at ho
  split at ho
  · rename_i hlt
    rw [List.mem_singleton] at ho
    subst ho
    exact inRange_of_lt hreg hact hsealed hlt (Nat.mod_le _ _)
  · cases ho

theorem unsubscribeCalls_inRange (hreg : RegistrySound b) (hact : b.Activated)
    (hsealed : b.isSealed = true) {req : UnsubscribeServiceRequest}
    (ho : o ∈ b.unsubscribeCalls c req) : b.clientServiceCookies.InRange o := by
  unfold unsubscribeCalls at ho
  dsimp only at ho
  split at ho
  · rename_i hlt
    have heq : o = req.serviceOrdinal.toUInt16 := by
      split at ho <;> simpa using ho
    subst heq
    exact inRange_of_lt hreg hact hsealed hlt (Nat.mod_le _ _)
  · cases ho

theorem methodCalls_inRange (hreg : RegistrySound b) (hact : b.Activated)
    (hsealed : b.isSealed = true) {string : Bytes} {m : BasicMethod}
    (ho : o ∈ b.methodCalls codec c string m) : b.clientServiceCookies.InRange o := by
  cases m <;> simp only [methodCalls] at ho
  case rpcSubscribeService =>
    split at ho
    · exact subscribeCalls_inRange hreg hact hsealed ho
    · cases ho
  case rpcUnsubscribeService =>
    split at ho
    · exact unsubscribeCalls_inRange hreg hact hsealed ho
    · cases ho
  all_goals cases ho

theorem runCalls_inRange (hreg : RegistrySound b) (hact : b.Activated)
    (hsealed : b.isSealed = true) {i : Invoker} (ho : o ∈ b.runCalls codec c i) :
    b.clientServiceCookies.InRange o := by
  unfold runCalls at ho
  split at ho
  · split at ho
    · cases hm : requestedMethod i.clientData.request with
      | none =>
        rw [hm] at ho
        cases ho
      | some m =>
        rw [hm] at ho
        exact methodCalls_inRange hreg hact hsealed ho
    · cases ho
  · cases ho

theorem disconnectCalls_inRange (hreg : RegistrySound b) (hact : b.Activated)
    (ho : o ∈ b.disconnectCalls) : b.clientServiceCookies.InRange o := by
  unfold disconnectCalls at ho
  split at ho
  · rename_i hrun
    simp only [Bool.and_eq_true] at hrun
    obtain ⟨i, hi, ho⟩ := List.mem_flatMap.mp ho
    have heq : o = UInt16.ofNat i := by simpa using ho
    obtain ⟨hpos, hend⟩ := List.mem_range'_1.mp hi
    have hlt : i < b.services.size := by omega
    subst heq
    exact inRange_of_lt hreg hact hrun.1 hlt (Nat.mod_le _ _)
  · cases ho

end BackEnd

namespace World

variable {codec : BasicProtocolCodec} {w w' : World} {c : ClientPtr} {l : Label}

/-- **A step calls the store in range** exactly when it does not check a request too early. -/
theorem callsInRange_iff (h : w.StoreSound) (hg : w.enabled l = true) :
    w.CallsInRange codec l ↔ w.ChecksStarted l := by
  constructor
  · rintro hall c rfl hne
    obtain ⟨o, ho⟩ := List.exists_mem_of_ne_nil _ hne
    cases hs : w.backEnd.isSealed with
    | true => rfl
    | false =>
      have hbelow := (hall o ho).below
      rw [h.registry.unsealed hs] at hbelow
      cases hbelow
  · intro hstarted o ho
    cases l with
    | check c =>
      exact checkCalls_inRange h.registry h.activated
        (hstarted c rfl (List.ne_nil_of_mem ho)) ho
    | run c reply =>
      exact runCalls_inRange h.registry h.activated (h.pool c (of_decide_eq_true hg)) ho
    | disconnect c reply => exact disconnectCalls_inRange h.registry h.activated ho
    | signalStage reply =>
      obtain ⟨c, -, ho⟩ := List.mem_flatMap.mp ho
      exact disconnectCalls_inRange h.registry h.activated ho
    | _ => cases ho

/-- **A check that comes too early** goes through the assertion to an access out of range. -/
theorem check_outOfRange (h : w.StoreSound) (hun : w.backEnd.isSealed = false)
    (hne : w.backEnd.checkCalls (w.data c).request ≠ []) :
    w.fire codec (.check c) = .error .outOfRange := by
  have hempty := h.registry.unsealed hun
  unfold checkCalls at hne
  dsimp only at hne
  split at hne
  · rename_i s hs
    split at hne
    · rename_i hfn
      change stepInvoker c (fun b i => b.checkRequest codec c i) w = _
      unfold stepInvoker checkRequest
      have hs' : w.backEnd.serviceAt (w.invokers c).clientData.request.serviceOrdinal.toUInt16 =
          some (some s) := hs
      have hfn' : s.containsFunctionAtOrdinal
          (w.invokers c).clientData.request.requestOrdinal.toUInt16 = true := hfn
      simp only [hs', hfn', ClientServiceCookies.createOrRetrieveCookie,
        ClientServiceCookies.mapAt_empty hempty]
      rfl
    · exact absurd rfl hne
  · exact absurd rfl hne

/-- **The range of the cookie store.**  In every run the calls of the store are in range exactly
when `invoke` gets to its cookie on a started back end only; and the range assertion is exact for
the stores that are not empty. -/
theorem cookie_calls_in_range_iff (codec : BasicProtocolCodec)
    (sourceType : SourceConnectionType) (backendType : DestinationConnectionType)
    {tr : List (World × Label)} {r : Except Fault World}
    (hrun : (backEndMachine codec).Run (init sourceType backendType) tr r) :
    ((∀ p ∈ tr, CallsInRange codec p.1 p.2) ↔ ∀ p ∈ tr, ChecksStarted p.1 p.2) ∧
      ∀ cs : ClientServiceCookies, cs.RangeExact ↔ cs.serviceCookieVector.length ≠ 0 := by
  have hinv := hrun.invariant (I := StoreSound) (C := fun _ _ => True)
    (fun _ _ _ hI _ hg hf => hI.step hg hf) (init_storeSound _ _) fun _ _ => trivial
  refine ⟨forall₂_congr fun p hp => ?_, fun cs => ClientServiceCookies.rangeExact_iff⟩
  exact callsInRange_iff (hinv.1 p hp) (hrun.guard p hp)

/-- Requests are resumed before `start`, and a hello is sent. -/
def sampleEarly : List Label := [.resumeRequests, .connect 7 true, .request 7 true {}, .check 7]

/-- A check, on a started back end. -/
def checksSealed (w : World) : Label → Bool
  | .check _ => w.backEnd.isSealed
  | _ => true

/-- A client says hello on a started back end. -/
theorem cookie_calls_in_range_sample : ∃ tr w,
    (backEndMachine basicProtocolCodec).Run (init .sourceRelay .targetMarshall) tr (.ok w) ∧
      (∀ p ∈ tr, CallsInRange basicProtocolCodec p.1 p.2) ∧
      ∃ p ∈ tr, p.1.cookieCalls basicProtocolCodec p.2 ≠ [] := by
  let labels := startUp 7 ++ [.request 7 true {}, .check 7]
  obtain ⟨w, hrun, -⟩ := (backEndMachine basicProtocolCodec).exec_observed
    (init .sourceRelay .targetMarshall) labels (fun w => w.backEnd.isSealed) (a := true)
    (by decide +kernel) (by decide +kernel)
  have hall : ((backEndMachine basicProtocolCodec).exec (init .sourceRelay .targetMarshall)
      labels).1.all (fun p => checksSealed p.1 p.2) = true := by
    decide +kernel
  have hany : ((backEndMachine basicProtocolCodec).exec (init .sourceRelay .targetMarshall)
      labels).1.any (fun p => !(p.1.cookieCalls basicProtocolCodec p.2).isEmpty) = true := by
    decide +kernel
  refine ⟨_, w, hrun, ?_, ?_⟩
  · refine (cookie_calls_in_range_iff _ _ _ hrun).1.mpr fun p hp c hl _ => ?_
    have hp' := List.all_eq_true.mp hall p hp
    rwa [hl] at hp'
  · obtain ⟨p, hp, hne⟩ := List.any_eq_true.mp hany
    refine ⟨p, hp, fun hnil => ?_⟩
    rw [hnil] at hne
    cases hne

/-- **Requests that are resumed before `start`** reach an empty store, whose assertion lets them
through. -/
theorem cookie_call_before_start :
    (¬ ∀ (tr : List (World × Label)) (r : Except Fault World),
      (backEndMachine basicProtocolCodec).Run (init .sourceRelay .targetMarshall) tr r →
        ∀ p ∈ tr, CallsInRange basicProtocolCodec p.1 p.2) ∧
      ¬ ∀ cs : ClientServiceCookies, cs.RangeExact := by
  constructor
  · intro h
    have hrun := (backEndMachine basicProtocolCodec).exec_run_fault
      (init .sourceRelay .targetMarshall) sampleEarly (f := .outOfRange)
      (by decide +kernel) (by decide +kernel)
    have hany : ((backEndMachine basicProtocolCodec).exec (init .sourceRelay .targetMarshall)
        sampleEarly).1.any (fun p => (p.1.cookieCalls basicProtocolCodec p.2).any fun o =>
          decide (p.1.backEnd.clientServiceCookies.serviceCookieVector.length ≤ o.toNat)) =
        true := by
      decide +kernel
    obtain ⟨p, hp, hcall⟩ := List.any_eq_true.mp hany
    obtain ⟨o, ho, hge⟩ := List.any_eq_true.mp hcall
    exact absurd (h _ _ hrun p hp o ho).below (Nat.not_lt.mpr (of_decide_eq_true hge))
  · intro h
    exact ClientServiceCookies.rangeExact_iff.mp (h {}) rfl

end World

end RblRpc
