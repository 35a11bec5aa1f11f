import RblRpc.Backend.BackEnd

/-!
# Registration of services

`register_and_init_service` resizes the container before the collision test, and sets the entry
before `init`; a call that throws there leaves the registry changed.

* `Registered` — the invariant of a registry whose services lie at the ordinals `0..n-1`.
* `register_of_admissible`, `not_atomic_of_not_admissible` — one call, on either side.
* `registration_atomic_iff` — **every sequence of calls is atomic and keeps the ordinals
  contiguous exactly when each of its calls is `Admissible`.**
-/

namespace RblRpc

open OidContainer

namespace BackEnd

/-- No service whose name is `s`'s up to case is registered. -/
def FreshName (b : BackEnd) (s : Service) : Prop :=
  ∀ i e, b.services.at? i = some e → e.name.str ≠ OidName.normalize s.name

/-- A call that registers, or that is turned down before it touches the registry. -/
def Admissible (b : BackEnd) (s : Service) : Prop :=
  31 < s.name.length ∨
    OidName.normalize s.name ≠ [] ∧ b.FreshName s ∧ (s.init b.ec).isError = false ∧
      b.serviceCount.toNat < 65535

/-- What can be observed of a registry is the same. -/
structure SameRegistry (b b' : BackEnd) : Prop where
  size : b'.services.size = b.services.size
  occupiedSize : b'.services.occupiedSize = b.services.occupiedSize
  serviceCount : b'.serviceCount = b.serviceCount
  ordinal : ∀ o, b'.serviceAt o = b.serviceAt o
  name : ∀ n, b'.services.entryWithName n = b.services.entryWithName n

theorem SameRegistry.refl (b : BackEnd) : SameRegistry b b :=
  ⟨rfl, rfl, rfl, fun _ => rfl, fun _ => rfl⟩

/-- The services `acc` occupy the ordinals `0..n-1` in this order, a further one can be
registered, and `start` finds the ordinals contiguous. -/
structure Contiguous (acc : List Service) (b : BackEnd) : Prop where
  size : b.services.size = acc.length
  occupiedSize : b.services.occupiedSize = acc.length
  serviceCount : b.serviceCount.toNat = acc.length
  ordinal : ∀ o : UInt16, b.serviceAt o = acc[o.toNat]?.map some
  fresh : ∀ s : Service, s.name.length ≤ 31 → OidName.normalize s.name ≠ [] → b.FreshName s →
    (s.init b.ec).isError = false → (b.registerAndInitService s).2 = .ok ()
  start : b.start ≠ .error (.assertion .contiguousOrdinals)

/-- Calls of `register_and_init_service` on a registry that holds `acc`: each that throws changes
nothing, each that returns adds its service. -/
def Atomic : List Service → List Service → BackEnd → Prop
  | acc, [], b => Contiguous acc b
  | acc, s :: ss, b => Contiguous acc b ∧
    match b.registerAndInitService s with
    | (b', .error _) => SameRegistry b b' ∧ Atomic acc ss b'
    | (b', .ok ()) => Atomic (acc ++ [s]) ss b'

/-- Each call is admissible when its turn comes. -/
def AllAdmissible : List Service → BackEnd → Prop
  | [], _ => True
  | s :: ss, b => b.Admissible s ∧ AllAdmissible ss (b.registerAndInitService s).1

/-- The invariant of a contiguous registry before `start`. -/
structure Registered (acc : List Service) (b : BackEnd) : Prop where
  wf : b.services.WF
  unsealed : b.isSealed = false
  size : b.services.size = acc.length
  occupiedSize : b.services.occupiedSize = acc.length
  serviceCount : b.serviceCount.toNat = acc.length
  entry : ∀ i, (b.services.at? i).map (·.entry) = acc[i]?.map some

variable {acc : List Service} {b : BackEnd} {s : Service}

theorem at?_size (c : OidContainer (Option Service)) : c.at? c.size = none := by
  simp [at?, size]

/-- The identifier of a name that fits. -/
theorem make_eq_ok (hlen : s.name.length ≤ 31) (o : UInt16) :
    ∃ id, Oid.make s.name o.toUInt32 = .ok id ∧ id.ordinal = o ∧
      id.name.str = OidName.normalize s.name := by
  have ho := o.toNat_lt
  unfold Oid.make OidName.construct_
  rw [dif_neg (by omega)]
  simp only [bind, Except.bind]
  rw [if_neg (by rw [UInt16.toNat_toUInt32]; omega)]
  exact ⟨_, rfl, UInt16.toUInt16_toUInt32 o, rfl⟩

theorem make_tooLong (hlen : 31 < s.name.length) (o : UInt16) :
    Oid.make s.name o.toUInt32 = .error .lengthError := by
  unfold Oid.make OidName.construct_
  rw [dif_pos (by omega)]
  rfl

theorem register_tooLong (hun : b.isSealed = false) (hlen : 31 < s.name.length) :
    b.registerAndInitService s = (b, .error (.std .lengthError)) := by
  unfold registerAndInitService
  rw [hun, make_tooLong hlen]
  rfl

namespace Registered

theorem freshName_iff (h : Registered acc b) {id : Oid}
    (hname : id.name.str = OidName.normalize s.name) :
    b.services.slotOf id.name = none ↔ b.FreshName s := by
  rw [h.wf.slotOf_eq_none]
  refine forall_congr' fun i => forall_congr' fun e => imp_congr_right fun _ => ?_
  rw [← hname, not_iff_not]
  exact ⟨fun he => he ▸ rfl, fun he => OidName.ext he⟩

theorem ordinal_free (h : Registered acc b) : b.services.at? b.serviceCount.toNat = none := by
  rw [h.serviceCount, ← h.size]
  exact at?_size _

theorem nameIndex_ne_nil (h : Registered acc b) (hacc : acc ≠ []) :
    b.services.nameIndex ≠ [] := by
  intro hnil
  have hocc := h.occupiedSize
  rw [OidContainer.occupiedSize, hnil, List.length_nil, eq_comm, List.length_eq_zero_iff] at hocc
  exact hacc hocc

theorem size_grow_succ (h : Registered acc b) {o : UInt16} (ho : o = b.serviceCount) :
    (b.services.grow (o.toNat + 1)).size = b.services.size + 1 := by
  rw [size_grow, ho, h.serviceCount, h.size]
  omega

/-- The empty name throws, but only after the resize. -/
theorem register_uninitialized (h : Registered acc b) (hacc : acc ≠ [])
    (hlen : s.name.length ≤ 31) (hne : OidName.normalize s.name = []) :
    ∃ b' x, b.registerAndInitService s = (b', .error x) ∧
      b'.services.size = b.services.size + 1 := by
  obtain ⟨id, hid, hord, hname⟩ := make_eq_ok hlen b.serviceCount
  have hset := h.wf.setEntry_uninitialized (e := ⟨id, some s⟩) (h.nameIndex_ne_nil hacc) (by
    simp only [OidContainerEntry.isInitialized, OidContainerEntry.name, OidName.isInitialized,
      hname, hne]
    rfl)
  refine ⟨{ b with services := b.services.grow (id.ordinal.toNat + 1) },
    .std .invalidArgument, ?_, h.size_grow_succ hord⟩
  unfold registerAndInitService
  rw [h.unsealed, hid, if_neg (by decide)]
  simp only [hset]
  rfl

/-- A name in use is reported, but only after the resize. -/
theorem register_taken (h : Registered acc b) (hlen : s.name.length ≤ 31)
    (hne : OidName.normalize s.name ≠ []) (htaken : ¬b.FreshName s) :
    ∃ b' x, b.registerAndInitService s = (b', .error x) ∧
      b'.services.size = b.services.size + 1 := by
  obtain ⟨id, hid, hord, hname⟩ := make_eq_ok hlen b.serviceCount
  have hset := h.wf.setEntry_eq (e := ⟨id, some s⟩) (by
    simpa [OidContainerEntry.isInitialized, OidContainerEntry.name, OidName.isInitialized,
      hname] using hne)
  have hslot : b.services.slotOf id.name ≠ none := by
    rw [ne_eq, h.freshName_iff hname]
    exact htaken
  have hfree : b.services.at? id.ordinal.toNat = none := by rw [hord]; exact h.ordinal_free
  simp only [OidContainerEntry.ordinal, OidContainerEntry.name, hslot, and_false, if_false,
    hfree, Option.isSome_none, Option.isSome_iff_ne_none.mpr hslot, response] at hset
  refine ⟨{ b with services := b.services.grow (id.ordinal.toNat + 1) },
    .backEnd { errorCode := some ECode.backendIdentifierCollision.code }, ?_,
    h.size_grow_succ hord⟩
  unfold registerAndInitService
  rw [h.unsealed, hid, if_neg (by decide)]
  simp only [hset]

/-- **A fresh name and an `init` without error register.** -/
theorem register_fresh (h : Registered acc b) (hlen : s.name.length ≤ 31)
    (hne : OidName.normalize s.name ≠ []) (hfresh : b.FreshName s) :
    ∃ e : OidContainerEntry (Option Service), e.ordinal = b.serviceCount ∧ e.entry = some s ∧
      e.name.str = OidName.normalize s.name ∧ e.isInitialized = true ∧ Fresh b.services e ∧
      b.registerAndInitService s =
        (if (s.init b.ec).isError then
          ({ b with services := b.services.placed e, ec := s.init b.ec },
            .error (.backEnd
              { errorCode := some ECode.backendInitializationError.code
                serviceName := some s.name
                serviceErrorCode := some (s.init b.ec) }))
        else ({ b with
          services := b.services.placed e
          ec := s.init b.ec
          serviceCount := b.serviceCount + 1 }, .ok ())) := by
  obtain ⟨id, hid, hord, hname⟩ := make_eq_ok hlen b.serviceCount
  have hinit : id.name.isInitialized = true := by
    simpa [OidName.isInitialized, hname] using hne
  have hf : Fresh b.services ⟨id, some s⟩ :=
    ⟨by rw [show (⟨id, some s⟩ : OidContainerEntry (Option Service)).ordinal = b.serviceCount
      from hord]; exact h.ordinal_free, (h.freshName_iff hname).mpr hfresh⟩
  refine ⟨⟨id, some s⟩, hord, rfl, hname, hinit, hf, ?_⟩
  have hset := h.wf.setEntry_eq (e := ⟨id, some s⟩) hinit
  rw [if_pos ⟨hf.ordinal, hf.name⟩, hf.ordinal, hf.name] at hset
  unfold registerAndInitService
  rw [h.unsealed, hid, if_neg (by decide)]
  simp only [hset, response, Option.isSome_none]

/-- The registry with one service more. -/
theorem append (h : Registered acc b) {e : OidContainerEntry (Option Service)}
    (hord : e.ordinal = b.serviceCount) (hentry : e.entry = some s)
    (hinit : e.isInitialized = true) (hf : Fresh b.services e)
    (hcount : b.serviceCount.toNat < 65535) :
    Registered (acc ++ [s])
      { b with
        services := b.services.placed e
        ec := s.init b.ec
        serviceCount := b.serviceCount + 1 } where
  wf := h.wf.placed hinit hf
  unsealed := h.unsealed
  size := by
    have hsz := h.size
    rw [size_placed, hord, h.serviceCount, hsz, List.length_append, List.length_singleton]
    omega
  occupiedSize := by
    rw [occupiedSize_placed h.wf hinit hf, h.occupiedSize, List.length_append,
      List.length_singleton]
  serviceCount := by
    have hc := h.serviceCount
    simp only [UInt16.toNat_add, List.length_append, List.length_singleton]
    rw [show (1 : UInt16).toNat = 1 from rfl]
    omega
  entry i := by
    rw [at?_placed hinit, hord, h.serviceCount]
    by_cases hi : i = acc.length
    · rw [if_pos hi, hi, List.getElem?_append_right (Nat.le_refl _), Nat.sub_self]
      simp [hentry]
    · rw [if_neg hi, h.entry i]
      rcases Nat.lt_or_ge i acc.length with hlt | hge
      · rw [List.getElem?_append_left hlt]
      · rw [List.getElem?_eq_none hge, List.getElem?_eq_none (by
          rw [List.length_append, List.length_singleton]; omega)]

/-- **A registered registry is contiguous.** -/
theorem contiguous (h : Registered acc b) : Contiguous acc b where
  size := h.size
  occupiedSize := h.occupiedSize
  serviceCount := h.serviceCount
  ordinal o := by
    rw [serviceAt, atOrdinal, entryAtOrdinal, UInt16.toNat_toUInt32, h.entry]
  fresh s hlen hne hfresh hinit := by
    obtain ⟨e, -, -, -, -, -, heq⟩ := h.register_fresh hlen hne hfresh
    rw [heq, if_neg (by rw [hinit]; decide)]
  start := by
    have hsame : b.services.size = b.services.occupiedSize := by rw [h.size, h.occupiedSize]
    intro hstart
    unfold BackEnd.start at hstart
    cases hp : decide (0 < b.poolSize) with
    | false => rw [hp] at hstart; cases hstart
    | true =>
      rw [hp] at hstart
      simp only [h.unsealed, hsame, decide_true, boostAssert_true] at hstart
      have hset : ∀ n f, ClientServiceCookies.setSize b.clientServiceCookies n = .error f →
          f ≠ .assertion .contiguousOrdinals := by
        rintro n f hf rfl
        unfold ClientServiceCookies.setSize at hf
        cases hd : decide (b.clientServiceCookies.serviceCookieVector.length = 0) <;>
          rw [hd] at hf <;> cases hf
      have hact : ∀ is cs f, activateServices is cs = .error f →
          f ≠ .assertion .contiguousOrdinals := by
        intro is
        induction is with
        | nil => intro cs f hf; cases hf
        | cons i is ih =>
          intro cs f hf
          simp only [activateServices] at hf
          cases ha : cs.activateServiceWithOrdinal (UInt16.ofNat i) with
          | ok cs' => rw [ha] at hf; exact ih cs' f hf
          | error f' =>
            rw [ha] at hf
            cases hf
            rintro rfl
            unfold ClientServiceCookies.activateServiceWithOrdinal at ha
            cases hd : decide ((UInt16.ofNat i).toNat < cs.serviceCookieVector.length) <;>
              rw [hd] at ha
            · cases ha
            · cases hd' : cs.isActive (UInt16.ofNat i).toNat <;> rw [hd'] at ha <;> cases ha
      cases hs : ClientServiceCookies.setSize b.clientServiceCookies
          b.services.occupiedSize with
      | error f => rw [hs] at hstart; cases hstart; exact hset _ _ hs rfl
      | ok cs =>
        rw [hs] at hstart
        cases ha : activateServices (List.range b.services.occupiedSize) cs with
        | error f =>
          simp only [bind, Except.bind, ha] at hstart
          cases hstart
          exact hact _ _ _ ha rfl
        | ok cs' =>
          simp only [bind, Except.bind, ha] at hstart
          cases hstart

end Registered

/-- **An admissible call**: its name is too long and it throws, or its service is appended. -/
theorem register_of_admissible (h : Registered acc b) (ha : b.Admissible s) :
    (∃ x, b.registerAndInitService s = (b, .error x)) ∨
    ∃ b', b.registerAndInitService s = (b', .ok ()) ∧ Registered (acc ++ [s]) b' := by
  by_cases hlen : 31 < s.name.length
  · exact .inl ⟨_, register_tooLong h.unsealed hlen⟩
  · rcases ha with hlen' | ⟨hne, hfresh, hinit, hcount⟩
    · exact absurd hlen' hlen
    · obtain ⟨e, hord, hentry, -, hi, hf, heq⟩ := h.register_fresh (by omega) hne hfresh
      rw [if_neg (by rw [hinit]; decide)] at heq
      exact .inr ⟨_, heq, h.append hord hentry hi hf hcount⟩

/-- **Any other call**: it throws and leaves a larger container, or the counter wraps. -/
theorem register_of_not_admissible (h : Registered acc b) (hacc : acc ≠ [])
    (ha : ¬b.Admissible s) :
    (∃ b' x, b.registerAndInitService s = (b', .error x) ∧
      b'.services.size = b.services.size + 1) ∨
    ∃ b', b.registerAndInitService s = (b', .ok ()) ∧ b'.serviceCount.toNat = 0 := by
  simp only [Admissible, not_or, not_and, Nat.not_lt] at ha
  obtain ⟨hlen, ha⟩ := ha
  by_cases hne : OidName.normalize s.name = []
  · exact .inl (h.register_uninitialized hacc hlen hne)
  · by_cases hfresh : b.FreshName s
    · obtain ⟨e, heord, -, -, hi, hf, heq⟩ := h.register_fresh hlen hne hfresh
      have hsize : (b.services.placed e).size = b.services.size + 1 := by
        rw [size_placed, heord, h.serviceCount, h.size]
        omega
      cases herr : (s.init b.ec).isError with
      | true =>
        rw [if_pos herr] at heq
        exact .inl ⟨_, _, heq, hsize⟩
      | false =>
        rw [if_neg (by rw [herr]; decide)] at heq
        refine .inr ⟨_, heq, ?_⟩
        have hle := ha hne hfresh herr
        have hlt := b.serviceCount.toNat_lt
        simp only [UInt16.toNat_add]
        rw [show (1 : UInt16).toNat = 1 from rfl]
        omega
    · exact .inl (h.register_taken hlen hne hfresh)

/-- The constructor registers `basic_protocol`. -/
theorem registered_new (sourceType : SourceConnectionType)
    (backendType : DestinationConnectionType) :
    Registered [basicProtocolService] (new sourceType backendType) := by
  have hempty : Registered [] { sourceType := sourceType, backendType := backendType } :=
    ⟨WF.empty, rfl, rfl, rfl, rfl, fun i => by simp [OidContainer.empty, at?]⟩
  obtain ⟨e, hord, hentry, -, hi, hf, heq⟩ := hempty.register_fresh (s := basicProtocolService)
    (by decide) (by decide) fun i e he => by simp [OidContainer.empty, at?] at he
  rw [if_neg (show ¬(basicProtocolService.init {}).isError = true by decide)] at heq
  rw [new, heq]
  exact hempty.append hord hentry hi hf (Nat.zero_lt_succ _)

/-! ## Sequences of calls -/

/-- **Calls on a contiguous registry are atomic exactly when each is admissible.** -/
theorem Registered.atomic_iff (h : Registered acc b) (hacc : acc ≠ []) (ss : List Service) :
    Atomic acc ss b ↔ AllAdmissible ss b := by
  induction ss generalizing acc b with
  | nil => exact ⟨fun _ => trivial, fun _ => h.contiguous⟩
  | cons s ss ih =>
    simp only [Atomic, AllAdmissible, h.contiguous, true_and]
    by_cases ha : b.Admissible s
    · simp only [ha, true_and]
      rcases register_of_admissible h ha with ⟨x, hx⟩ | ⟨b', hb', hreg⟩
      · rw [hx]
        exact (and_iff_right (SameRegistry.refl b)).trans (ih h hacc)
      · rw [hb']
        exact ih hreg (by simp)
    · refine ⟨fun hat => ?_, fun hat => absurd hat.1 ha⟩
      rcases register_of_not_admissible h hacc ha with ⟨b', x, hb', hsize⟩ | ⟨b', hb', hcount⟩
      · rw [hb'] at hat
        have := hat.1.size
        omega
      · rw [hb'] at hat
        -- the services that returned still number one more than `acc`
        have hcont : Contiguous (acc ++ [s]) b' := by
          cases ss with
          | nil => exact hat
          | cons _ _ => exact hat.1
        have := hcont.serviceCount
        rw [hcount, List.length_append] at this
        simp at this

/-- **Registration is atomic and keeps ordinals contiguous, exactly**: in every sequence of calls
before `start`, each call that throws leaves the registry as it was and the others fill the
ordinals in call order, if and only if each call either has a name of more than 31 characters, or
has a fresh non-empty name, an `init` that leaves no error, and fewer than 65535 services before
it. -/
theorem registration_atomic_iff (sourceType : SourceConnectionType)
    (backendType : DestinationConnectionType) (ss : List Service) :
    Atomic [basicProtocolService] ss (new sourceType backendType) ↔
      AllAdmissible ss (new sourceType backendType) :=
  (registered_new sourceType backendType).atomic_iff (by simp) ss

/-- A service that is registered twice. -/
def echoService : Service :=
  ⟨ascii "echo", .application .empty, fun _ => {}, fun _ => {}⟩

/-- **The second call throws, but the container has grown.** -/
theorem registration_not_atomic :
    ¬ ∀ (sourceType : SourceConnectionType) (backendType : DestinationConnectionType)
      (ss : List Service), Atomic [basicProtocolService] ss (new sourceType backendType) := by
  intro h
  have hall := ((registered_new .sourceRelay .targetMarshall).atomic_iff (by simp) _).mp
    (h .sourceRelay .targetMarshall [echoService, echoService])
  rcases hall.2.1 with hlen | ⟨-, hfresh, -, -⟩
  · exact absurd hlen (by decide)
  · have hused : ((registerAndInitService echoService
        (new .sourceRelay .targetMarshall)).1.services.at? 1).map (fun e => e.name.str) =
          some (OidName.normalize echoService.name) := by decide +kernel
    obtain ⟨e, he, hname⟩ := Option.map_eq_some_iff.mp hused
    exact hfresh 1 e he hname

end BackEnd

end RblRpc
