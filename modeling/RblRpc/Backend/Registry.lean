import Mathlib.Data.List.Nodup
import RblRpc.Backend.Registration
import RblRpc.Backend.Steps

/-!
# The registry in a run

`basic_protocol` stays the service at ordinal 0, and the only one of its kind; the cookie store has
no slot before `start`, and one for each slot of the registry from then on.

* `RegistrySound` — the invariant.
* `registrySound_reaches` — it holds in every reachable state.
* `serviceAt_basic`, `serviceAt_application` — what is found at an ordinal.
-/

namespace RblRpc

open Transition OidContainer

namespace BackEnd

/-- The invariant of the registry and the cookie store. -/
structure RegistrySound (b : BackEnd) : Prop where
  wf : b.services.WF
  linked : b.services.nameIndex ≠ []
  basic : (b.serviceAt 0).isSome = true
  typed : ∀ o s, b.serviceAt o = some (some s) → (s.impl = .basicProtocol ↔ o = 0)
  unsealed : b.isSealed = false → b.clientServiceCookies.serviceCookieVector.length = 0
  isSealed : b.isSealed = true →
    b.clientServiceCookies.serviceCookieVector.length = b.services.size

variable {b b' : BackEnd} {s : Service} {o : UInt16}

theorem serviceAt_eq (b : BackEnd) (o : UInt16) :
    b.serviceAt o = (b.services.at? o.toNat).map (·.entry) := by
  rw [serviceAt, atOrdinal, entryAtOrdinal, UInt16.toNat_toUInt32]

/-- The container a call of `register_and_init_service` leaves. -/
theorem registerAndInitService_services (hun : b.isSealed = false) :
    (b.registerAndInitService s).1.services = b.services ∨
      ∃ id, (∃ o, Oid.make s.name o = .ok id) ∧
        (b.registerAndInitService s).1.services = (b.services.setEntry ⟨id, some s⟩).1 := by
  unfold registerAndInitService
  rw [hun, if_neg Bool.false_ne_true]
  split
  · exact .inl rfl
  · rename_i id hid
    refine .inr ⟨id, ⟨_, hid⟩, ?_⟩
    split
    · rename_i heq
      rw [heq]
    · rename_i heq
      rw [heq]
      dsimp only
      split <;> rfl
    · rename_i heq
      rw [heq]

namespace RegistrySound

theorem new (sourceType : SourceConnectionType) (backendType : DestinationConnectionType) :
    RegistrySound (BackEnd.new sourceType backendType) := by
  have h := registered_new sourceType backendType
  have hat : ∀ o, (BackEnd.new sourceType backendType).serviceAt o =
      [basicProtocolService][o.toNat]?.map some := fun o => by rw [serviceAt_eq, h.entry]
  have hcookies :
      (BackEnd.new sourceType backendType).clientServiceCookies.serviceCookieVector = [] := by
    obtain ⟨services, ec, count, heq⟩ := registerAndInitService_writes basicProtocolService
      { sourceType := sourceType, backendType := backendType }
    rw [BackEnd.new, heq]
  refine ⟨h.wf, h.nameIndex_ne_nil (by simp), by rw [hat]; rfl, ?_,
    fun _ => by rw [hcookies]; rfl, ?_⟩
  · intro o s ho
    rw [hat] at ho
    have hlt : o.toNat < 1 := by
      by_contra hge
      have hlen : [basicProtocolService].length ≤ o.toNat := Nat.not_lt.mp hge
      rw [List.getElem?_eq_none hlen] at ho
      cases ho
    have hzero : o = 0 := UInt16.toNat_inj.mp (by simpa using hlt)
    subst hzero
    cases ho
    exact iff_of_true rfl rfl
  · intro hs
    rw [h.unsealed] at hs
    cases hs

/-- Steps that leave the services alone, and the cookie store its shape. -/
theorem of_shape (h : RegistrySound b) (hservices : b'.services = b.services)
    (hsealed : b'.isSealed = b.isSealed)
    (hshape : ClientServiceCookies.SameShape b.clientServiceCookies b'.clientServiceCookies) :
    RegistrySound b' := by
  have hat : ∀ o, b'.serviceAt o = b.serviceAt o := fun o => by rw [serviceAt, hservices]; rfl
  refine ⟨hservices ▸ h.wf, hservices ▸ h.linked, by rw [hat]; exact h.basic,
    fun o s ho => h.typed o s (hat o ▸ ho), fun hs => ?_, fun hs => ?_⟩
  · rw [hshape.length]
    exact h.unsealed (hsealed ▸ hs)
  · rw [hshape.length, hservices]
    exact h.isSealed (hsealed ▸ hs)

/-- The container grew. -/
theorem grow (h : RegistrySound b) (hs : b.isSealed = false) {n : ℕ} {ec : ErrorCode}
    {count : UInt16} : RegistrySound
      { b with services := b.services.grow n, ec := ec, serviceCount := count } := by
  have hat : ∀ o, serviceAt
      { b with services := b.services.grow n, ec := ec, serviceCount := count } o =
        b.serviceAt o := by
    intro o
    rw [serviceAt_eq, serviceAt_eq]
    exact congrArg _ (at?_grow _ _)
  refine ⟨h.wf.grow _, h.linked, by rw [hat]; exact h.basic, ?_, fun _ => h.unsealed hs, ?_⟩
  · intro o s ho
    exact h.typed o s (hat o ▸ ho)
  · intro hs'
    exact absurd (hs.symm.trans hs') Bool.false_ne_true

/-- An application took a free slot, which is not that of `basic_protocol`. -/
theorem placed (h : RegistrySound b) (hs : b.isSealed = false) {id : Oid}
    {t : OidContainer ApplicationMethod} (happ : s.impl = .application t)
    (hinit : OidContainerEntry.isInitialized ⟨id, some s⟩ = true)
    (hfresh : Fresh b.services ⟨id, some s⟩) {ec : ErrorCode} {count : UInt16} :
    RegistrySound
      { b with services := b.services.placed ⟨id, some s⟩, ec := ec, serviceCount := count } := by
  have hat : ∀ o : UInt16, serviceAt
      { b with services := b.services.placed ⟨id, some s⟩, ec := ec, serviceCount := count } o =
        if o = id.ordinal then some (some s) else b.serviceAt o := by
    intro o
    rw [serviceAt_eq, serviceAt_eq]
    show Option.map _ ((b.services.placed ⟨id, some s⟩).at? o.toNat) = _
    have hord : OidContainerEntry.ordinal ⟨id, some s⟩ = id.ordinal := rfl
    rw [at?_placed hinit, hord]
    by_cases ho : o = id.ordinal
    · rw [if_pos ho, if_pos (congrArg UInt16.toNat ho)]
      rfl
    · rw [if_neg ho, if_neg (fun hc => ho (UInt16.toNat_inj.mp hc))]
  have hne : (0 : UInt16) ≠ id.ordinal := by
    intro hzero
    have hbasic := h.basic
    have hfree : b.services.at? id.ordinal.toNat = none := hfresh.ordinal
    rw [serviceAt_eq, hzero, hfree] at hbasic
    cases hbasic
  refine ⟨h.wf.placed hinit hfresh, ?_, by rw [hat, if_neg hne]; exact h.basic, ?_,
    fun _ => h.unsealed hs, ?_⟩
  · intro hnil
    have hlen := occupiedSize_placed h.wf hinit hfresh
    rw [occupiedSize, show (b.services.placed ⟨id, some s⟩).nameIndex = [] from hnil] at hlen
    simp at hlen
  · intro o s' ho
    rw [hat] at ho
    split at ho
    · rename_i heq
      cases ho
      refine iff_of_false (by rw [happ]; simp) ?_
      rintro rfl
      exact hne heq
    · exact h.typed o s' ho
  · intro hs'
    exact absurd (hs.symm.trans hs') Bool.false_ne_true

/-- An application is registered, or is not. -/
theorem register {t : OidContainer ApplicationMethod} (h : RegistrySound b)
    (happ : s.impl = .application t) : RegistrySound (b.registerAndInitService s).1 := by
  cases hs : b.isSealed with
  | true =>
    rw [registerAndInitService_sealed hs]
    exact h
  | false =>
    obtain ⟨services, ec, count, hwrites⟩ := registerAndInitService_writes s b
    have hsame := registerAndInitService_services (s := s) hs
    rw [hwrites] at hsame ⊢
    rcases hsame with heq | ⟨id, -, heq⟩ <;> simp only at heq <;> rw [heq]
    · exact h.of_shape rfl rfl (.refl _)
    · rcases h.wf.setEntry_cases h.linked ⟨id, some s⟩ with heq' | ⟨hinit, hfresh, heq'⟩ <;>
        rw [heq']
      · exact h.grow hs
      · exact h.placed hs happ hinit hfresh

/-- The slots of the cookie store are activated. -/
theorem activateServices_length {is : List ℕ} {cs cs' : ClientServiceCookies}
    (h : activateServices is cs = .ok cs') :
    cs'.serviceCookieVector.length = cs.serviceCookieVector.length := by
  induction is generalizing cs with
  | nil => cases h; rfl
  | cons i is ih =>
    obtain ⟨cs₁, h₁, h₂⟩ := bind_eq_ok.mp h
    obtain ⟨_, -, h₁⟩ := bind_eq_ok.mp h₁
    obtain ⟨_, -, hret⟩ := bind_eq_ok.mp h₁
    cases hret
    rw [ih h₂, ClientServiceCookies.length_setMap]

theorem setSize_length {cs cs' : ClientServiceCookies} {n : ℕ} (h : cs.setSize n = .ok cs') :
    cs'.serviceCookieVector.length = n := by
  obtain ⟨_, -, hret⟩ := bind_eq_ok.mp h
  cases hret
  exact List.length_replicate

/-- An activated slot holds no cookie. -/
theorem activateServices_lookup {is : List ℕ} {cs cs' : ClientServiceCookies}
    (h : activateServices is cs = .ok cs') (hcs : ∀ s k, cs.lookup s k = none) (n : ℕ)
    (k : ClientPtr) : cs'.lookup n k = none := by
  induction is generalizing cs with
  | nil => cases h; exact hcs n k
  | cons i is ih =>
    obtain ⟨cs₁, h₁, h₂⟩ := bind_eq_ok.mp h
    exact ih h₂ (ClientServiceCookies.activateServiceWithOrdinal_lookup h₁ hcs)

/-- **`start` finds no cookie and leaves none.** -/
theorem start_lookup {cs₀ cs : ClientServiceCookies} {n : ℕ} {is : List ℕ}
    (hsize : cs₀.setSize n = .ok cs) {cs' : ClientServiceCookies}
    (hact : activateServices is cs = .ok cs') (s : ℕ) (k : ClientPtr) :
    cs'.lookup s k = none :=
  activateServices_lookup hact (ClientServiceCookies.setSize_lookup hsize) s k

/-- The ordinals in use fit in 16 bits. -/
theorem occupiedSize_le (h : RegistrySound b) : b.services.occupiedSize ≤ 2 ^ 16 := by
  have hsub : b.services.nameIndex ⊆ List.range (2 ^ 16) := by
    intro i hi
    obtain ⟨e, he⟩ := nameAt_isInitialized.mp ((h.wf.mem i).mp hi)
    rw [List.mem_range, ← h.wf.ordinal i e he]
    exact e.ordinal.toNat_lt
  have hle := (h.wf.sorted.nodup.subperm hsub).length_le
  rwa [List.length_range] at hle

/-- Distinct ordinals that are not active yet can be activated. -/
theorem activateServices_total {is : List ℕ} {cs : ClientServiceCookies} (hnodup : is.Nodup)
    (hlt : ∀ i ∈ is, i < cs.serviceCookieVector.length ∧ i < 2 ^ 16)
    (hidle : ∀ i ∈ is, cs.isActive i = false) : ∃ cs', activateServices is cs = .ok cs' := by
  induction is generalizing cs with
  | nil => exact ⟨cs, rfl⟩
  | cons i is ih =>
    obtain ⟨hlen, h16⟩ := hlt i List.mem_cons_self
    have hof : (UInt16.ofNat i).toNat = i := UInt16.toNat_ofNat_of_lt h16
    obtain ⟨hnot, hnodup⟩ := List.nodup_cons.mp hnodup
    have hact : cs.activateServiceWithOrdinal (UInt16.ofNat i) =
        .ok (cs.setMap (UInt16.ofNat i) ∅) := by
      simp [ClientServiceCookies.activateServiceWithOrdinal, hof, hlen,
        hidle i List.mem_cons_self, bind, Except.bind, pure, Except.pure]
    have hlt' : ∀ j ∈ is, j < (cs.setMap (UInt16.ofNat i) ∅).serviceCookieVector.length ∧
        j < 2 ^ 16 := by
      intro j hj
      rw [ClientServiceCookies.length_setMap]
      exact hlt j (List.mem_cons_of_mem _ hj)
    have hidle' : ∀ j ∈ is, (cs.setMap (UInt16.ofNat i) ∅).isActive j = false := by
      intro j hj
      have hne : i ≠ j := by
        rintro rfl
        exact hnot hj
      rw [ClientServiceCookies.isActive, ClientServiceCookies.setMap, hof,
        List.getElem?_set_ne hne]
      exact hidle j (List.mem_cons_of_mem _ hj)
    obtain ⟨cs', hcs'⟩ := ih hnodup hlt' hidle'
    exact ⟨cs', by rw [activateServices, hact]; exact hcs'⟩

/-- **`start` of an unsealed back end** returns if the pool is not empty and the ordinals are
contiguous. -/
theorem start_total (h : RegistrySound b) (hun : b.isSealed = false) (hpool : 0 < b.poolSize)
    (hcont : b.services.size = b.services.occupiedSize) :
    ∃ b', b.start = .ok (b', none) := by
  have hrange : ∀ i ∈ List.range b.services.occupiedSize,
      i < (List.replicate b.services.occupiedSize (none : Option CookieMap)).length ∧
        i < 2 ^ 16 := by
    intro i hi
    rw [List.mem_range] at hi
    exact ⟨by rwa [List.length_replicate], hi.trans_le h.occupiedSize_le⟩
  obtain ⟨cs, hcs⟩ := activateServices_total List.nodup_range
    hrange (by
      intro i _
      rw [ClientServiceCookies.isActive, List.getElem?_replicate]
      split <;> rfl)
  have hsize : b.clientServiceCookies.setSize b.services.occupiedSize =
      .ok ⟨List.replicate b.services.occupiedSize none⟩ := by
    rw [ClientServiceCookies.setSize, decide_eq_true (h.unsealed hun)]
    rfl
  unfold start
  rw [decide_eq_true hpool, hun]
  dsimp only
  rw [decide_eq_true hcont, hsize]
  simp only [boostAssert_true, Bool.false_eq_true, if_false, bind, Except.bind, hcs]
  exact ⟨_, rfl⟩

theorem start {e : Option BackEndException} (h : RegistrySound b) (hs : b.start = .ok (b', e)) :
    RegistrySound b' := by
  obtain ⟨-, ⟨-, rfl, -⟩ | ⟨hun, -, hsize, cs₀, cs, hcs₀, hcs, rfl⟩⟩ := start_ok hs
  · exact h
  · refine ⟨h.wf, h.linked, h.basic, h.typed, fun hs' => (nomatch hs'), fun _ => ?_⟩
    exact (activateServices_length hcs).trans ((setSize_length hcs₀).trans hsize.symm)

/-- A service is torn down. -/
theorem teardown {i : ℕ} {e : Option BackEndException} (h : RegistrySound b)
    (ht : b.teardownService i = .ok (b', e)) : RegistrySound b' := by
  rcases teardownService_ok ht with ⟨⟨ec, rfl⟩, -⟩ | ⟨services, ec, rfl | rfl, rfl⟩
  · exact h.of_shape rfl rfl (.refl _)
  · exact h.of_shape rfl rfl (.refl _)
  · have hat : ∀ o : UInt16, (b.services.setAt i none).atOrdinal o =
        if o.toNat = i then (b.serviceAt o).map fun _ => none else b.serviceAt o :=
      atOrdinal_setAt_none _ _
    refine ⟨h.wf.setAt _ _, h.linked, ?_, ?_, h.unsealed, fun hs => ?_⟩
    · show ((b.services.setAt i none).atOrdinal 0).isSome = true
      rw [hat]
      split
      · rw [Option.isSome_map]
        exact h.basic
      · exact h.basic
    · intro o s ho
      have ho' : (b.services.setAt i none).atOrdinal o = some (some s) := ho
      rw [hat] at ho'
      split at ho'
      · obtain ⟨s', -, hs'⟩ := Option.map_eq_some_iff.mp ho'
        cases hs'
      · exact h.typed o s ho'
    · show _ = (b.services.setAt i none).size
      rw [size_setAt]
      exact h.isSealed hs

end RegistrySound

end BackEnd

namespace World

open BackEnd

variable {w w' : World} {codec : BasicProtocolCodec} {c : ClientPtr}

theorem disconnect_registrySound {reply : ℕ → ServiceReply} (h : RegistrySound w.backEnd)
    (hd : w.disconnect c reply = .ok w') : RegistrySound w'.backEnd := by
  obtain ⟨b, cd, hb, rfl⟩ := disconnect_ok hd
  obtain ⟨-, -, -, ⟨cs, calls, rfl⟩, hr, -⟩ := BackEnd.disconnect_ok hb
  exact h.of_shape rfl rfl hr.shape

theorem signalStage_registrySound {reply : ManagerId → ManagerReply} (h : RegistrySound w.backEnd)
    (hs : w.signalStage reply = .ok w') : RegistrySound w'.backEnd := by
  obtain ⟨w₁, threw, hsig, rfl⟩ := signalStage_ok hs
  have hw₁ : RegistrySound w₁.backEnd :=
    signalManagers_rule (I := fun w => RegistrySound w.backEnd)
      (fun _ _ hI _ _ _ _ hd => disconnect_registrySound hI hd)
      (fun _ hI _ _ => hI.of_shape rfl rfl (.refl _)) hsig h
  cases threw <;> exact hw₁

/-- **Every step keeps the registry sound.** -/
theorem registrySound_step {l : Label} (h : RegistrySound w.backEnd) (hg : w.enabled l = true)
    (hf : fire codec w l = .ok w') : RegistrySound w'.backEnd := by
  cases hl : l.client with
  | some c =>
    have hsame := fire_sameControl hl hf
    exact h.of_shape hsame.services hsame.isSealed (fire_sameShape hl hf)
  | none =>
    rcases fire_sameRecords hl hf with hsame | ⟨s, rfl⟩ | rfl | ⟨reply, rfl⟩ | rfl | rfl
    · exact h.of_shape hsame.services hsame.isSealed (hsame.cookies ▸ .refl _)
    · cases hf
      cases happ : s.impl with
      | basicProtocol => simp [enabled, happ] at hg
      | application t => exact h.register happ
    · obtain ⟨b, e, hs, rfl⟩ := start_ok hf
      exact h.start hs
    · exact signalStage_registrySound h hf
    · cases hf
      exact h.of_shape rfl rfl (.refl _)
    · simp only [enabled] at hg
      split at hg
      · rename_i i hp
        rcases teardownStage_ok hp hf with ⟨-, b, e, ht, rfl⟩ | ⟨-, rfl⟩
        · cases e <;> exact h.teardown ht
        · exact h
      · cases hg

/-- **The registry is sound in every reachable state.** -/
theorem registrySound_reaches {sourceType : SourceConnectionType}
    {backendType : DestinationConnectionType}
    (h : (backEndMachine codec).Reaches (init sourceType backendType) w) :
    RegistrySound w.backEnd :=
  h.invariant (I := fun w => RegistrySound w.backEnd)
    (fun _ _ _ hI hg hf => registrySound_step hI hg hf) (RegistrySound.new _ _)

end World

end RblRpc
