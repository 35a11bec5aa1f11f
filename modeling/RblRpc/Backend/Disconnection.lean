import RblRpc.Backend.Completion
import RblRpc.Backend.Teardown

/-!
# What a disconnection leaves

`BackEnd::disconnect` cleans up the cookies of a client from ordinal 1 on; `invoke` creates them
from ordinal 0 on.

* `fire_lookup` — a step writes the cookies of the client it serves.
* `Traceless` — no client at the address, and no cookie of it.
* `disconnect_traceless_iff` — **a client leaves no trace exactly if it has no cookie for
  `basic_protocol`.**
-/

namespace RblRpc

open Transition BackEnd

namespace World

variable {codec : BasicProtocolCodec} {w w' : World} {c : ClientPtr} {l : Label}

/-- The cookie of a client for the service at `s`. -/
def cookie (w : World) (s : ℕ) (c : ClientPtr) : Option ClientCookie :=
  w.backEnd.clientServiceCookies.lookup s c

theorem fire_lookup_server (hreg : RegistrySound w.backEnd) (hl : l.client = none)
    (hsig : l.signals = false) (hf : fire codec w l = .ok w') (s : ℕ) (k : ClientPtr) :
    w'.cookie s k = w.cookie s k := by
  rcases fire_sameRecords hl hf with hsame | ⟨service, rfl⟩ | rfl | ⟨reply, rfl⟩ | rfl | rfl
  · rw [cookie, hsame.cookies]
    rfl
  · cases hf
    obtain ⟨services, ec, count, heq⟩ := registerAndInitService_writes service w.backEnd
    simp only [cookie, setBackEnd_backEnd, heq]
  · obtain ⟨b, e, hs, rfl⟩ := start_ok hf
    obtain ⟨-, ⟨-, rfl, -⟩ | ⟨hun, -, -, cs₀, cs, hcs₀, hcs, rfl⟩⟩ := BackEnd.start_ok hs
    · rfl
    · have hempty := hreg.unsealed hun
      have hbefore : w.cookie s k = none :=
        ClientServiceCookies.lookup_of_length_le (by omega)
      exact (RegistrySound.start_lookup hcs₀ hcs s k).trans hbefore.symm
  · cases hsig
  · cases hf
    rfl
  · obtain ⟨services, ec, calls, p, r, rfl⟩ := teardownStage_writes hf
    rfl

/-- A check creates at most the cookie of the client for the service asked for. -/
theorem checkRequest_cookies {b b' : BackEnd} {i i' : Invoker}
    (h : b.checkRequest codec c i = .ok (b', i')) :
    b'.clientServiceCookies = b.clientServiceCookies ∨
      b.clientServiceCookies.createOrRetrieveCookie i.clientData.request.serviceOrdinal.toUInt16 c =
        .ok b'.clientServiceCookies := by
  cases checkRequest_step h with
  | noService | noFunction => exact .inl rfl
  | notSubscribed _ hcs | greeted _ hcs | notEstablished _ hcs | posted hcs => exact .inr hcs

theorem checkRequest_lookup_ne {b b' : BackEnd} {i i' : Invoker} {k : ClientPtr}
    (h : b.checkRequest codec c i = .ok (b', i')) (hk : k ≠ c) (s : ℕ) :
    b'.clientServiceCookies.lookup s k = b.clientServiceCookies.lookup s k := by
  rcases checkRequest_cookies h with heq | hcs
  · rw [heq]
  · rw [(ClientServiceCookies.createOrRetrieveCookie_ok hcs).2]
    exact if_neg fun hc => hk hc.2

theorem disconnect_lookup_ne {reply : ℕ → ServiceReply} (hd : w.disconnect c reply = .ok w')
    {k : ClientPtr} (hk : k ≠ c) (s : ℕ) : w'.cookie s k = w.cookie s k := by
  obtain ⟨b, cd, hb, rfl⟩ := disconnect_ok hd
  obtain ⟨-, -, -, -, hr, -⟩ := BackEnd.disconnect_ok hb
  exact hr.kept s k (.inl hk)

theorem fire_lookup_client {k : ClientPtr} (hl : l.client = some c) (hk : k ≠ c)
    (hf : fire codec w l = .ok w') (s : ℕ) : w'.cookie s k = w.cookie s k := by
  cases l <;> cases hl
  case connect fresh =>
    cases hf
    cases fresh <;> rfl
  case disconnect reply => exact disconnect_lookup_ne hf hk s
  case request resets r =>
    obtain ⟨b, i, rfl, -, -, ⟨-, -, rfl, -⟩ | ⟨-, rfl, -⟩⟩ := request_ok hf <;> rfl
  case check =>
    obtain ⟨b, i, hc, rfl⟩ := stepInvoker_ok.mp hf
    exact checkRequest_lookup_ne hc hk s
  case take =>
    cases hf
    rfl
  case run reply =>
    obtain ⟨b, i, hr, rfl⟩ := stepInvoker_ok.mp hf
    obtain ⟨service, cd, -, -, hd, -⟩ := runPosted_ok hr
    exact hd.others s k hk
  case finish =>
    obtain ⟨-, rfl⟩ := finish_ok hf
    rfl

/-- **Only `connect` and `disconnect` change the connected clients.** -/
theorem fire_connectedClients (hl : l.client = some c) (hf : fire codec w l = .ok w') :
    w'.backEnd.connectedClients = match l with
      | .connect _ _ => insert c w.backEnd.connectedClients
      | .disconnect _ _ => w.backEnd.connectedClients.erase c
      | _ => w.backEnd.connectedClients := by
  cases l <;> cases hl
  case connect fresh =>
    cases hf
    cases fresh <;> rfl
  case disconnect reply =>
    obtain ⟨b, cd, hb, rfl⟩ := disconnect_ok hf
    obtain ⟨-, -, -, ⟨cs, calls, rfl⟩, -⟩ := BackEnd.disconnect_ok hb
    rfl
  case request resets r =>
    obtain ⟨b, i, rfl, -, -, ⟨-, -, rfl, -⟩ | ⟨-, rfl, -⟩⟩ := request_ok hf <;> rfl
  case check =>
    obtain ⟨b, i, hc, rfl⟩ := stepInvoker_ok.mp hf
    obtain ⟨cs, -, -, ⟨-, rfl, -⟩ | ⟨-, rfl, -⟩⟩ := checkRequest_ok hc <;> rfl
  case take =>
    cases hf
    rfl
  case run reply =>
    obtain ⟨b, i, hr, rfl⟩ := stepInvoker_ok.mp hf
    obtain ⟨service, cd, -, -, hd, -⟩ := runPosted_ok hr
    obtain ⟨cs, calls, rfl⟩ := hd.eq
    rfl
  case finish =>
    obtain ⟨-, rfl⟩ := finish_ok hf
    rfl

theorem fire_connected_ne {k : ClientPtr} (hl : l.client = some c) (hk : k ≠ c)
    (hf : fire codec w l = .ok w') :
    k ∈ w'.backEnd.connectedClients ↔ k ∈ w.backEnd.connectedClients := by
  rw [fire_connectedClients hl hf]
  cases l <;> simp [hk]

theorem fire_connected_self (hl : l.client = some c) (hne : ∀ reply, l ≠ .disconnect c reply)
    (hf : fire codec w l = .ok w') (h : c ∈ w.backEnd.connectedClients) :
    c ∈ w'.backEnd.connectedClients := by
  rw [fire_connectedClients hl hf]
  cases l <;> cases hl
  case disconnect reply => exact absurd rfl (hne reply)
  case connect => exact Finset.mem_insert_self ..
  all_goals exact h

/-- Signalling the managers writes the cookies of the clients they disconnect. -/
theorem signalStage_lookup {reply : ManagerId → ManagerReply} (hs : w.signalStage reply = .ok w')
    (hk : c ∉ w.backEnd.connectedClients) (s : ℕ) :
    c ∉ w'.backEnd.connectedClients ∧ w'.cookie s c = w.cookie s c := by
  obtain ⟨w₁, threw, hsig, rfl⟩ := signalStage_ok hs
  have hw₁ : c ∉ w₁.backEnd.connectedClients ∧ w₁.cookie s c = w.cookie s c := by
    refine signalManagers_rule (I := fun w' => c ∉ w'.backEnd.connectedClients ∧
      w'.cookie s c = w.cookie s c) ?_ ?_ hsig ⟨hk, rfl⟩
    · rintro w₁ w₂ ⟨hout, hsame⟩ m - ⟨k, r⟩ - hd
      obtain ⟨b, cd, hb, rfl⟩ := disconnect_ok hd
      obtain ⟨hmem, -, -, ⟨cs, calls, heq⟩, -⟩ := BackEnd.disconnect_ok hb
      have hne : c ≠ k := by
        rintro rfl
        exact hout hmem
      refine ⟨?_, (disconnect_lookup_ne hd hne s).trans hsame⟩
      rw [heq]
      exact fun hc => hout (Finset.mem_of_mem_erase hc)
    · rintro w₁ hI m -
      exact hI
  cases threw <;> exact hw₁

/-- No client at the address `c`, and no cookie of it. -/
structure Traceless (c : ClientPtr) (w : World) : Prop where
  gone : c ∉ w.backEnd.connectedClients
  cookies : ∀ s, w.cookie s c = none

/-- **Only a connection brings the address back**: until then no step leaves a trace at it. -/
theorem Traceless.step (h : Traceless c w) (hsound : Sound w)
    (hne : ∀ fresh, l ≠ .connect c fresh) (hg : w.enabled l = true)
    (hf : fire codec w l = .ok w') : Traceless c w' := by
  cases hl : l.client with
  | none =>
    cases hsig : l.signals with
    | true =>
      obtain ⟨reply, rfl⟩ := Label.signals_eq_true hsig
      refine ⟨(signalStage_lookup hf h.gone 0).1, fun s => ?_⟩
      exact (signalStage_lookup hf h.gone s).2.trans (h.cookies s)
    | false =>
      refine ⟨?_, fun s => ?_⟩
      · rw [(fire_sameClients hl hsig hf).connectedClients]
        exact h.gone
      · exact (fire_lookup_server hsound.registry hl hsig hf s c).trans (h.cookies s)
  | some k =>
    have hck : c ≠ k := by
      rintro rfl
      by_cases hconn : ∃ fresh, l = .connect c fresh
      · obtain ⟨fresh, rfl⟩ := hconn
        exact hne fresh rfl
      · refine h.gone (hsound.accounted.connected_of_enabled hl ?_ hg)
        rintro k fresh rfl
        cases hl
        exact hconn ⟨fresh, rfl⟩
    refine ⟨?_, fun s => (fire_lookup_client hl hck hf s).trans (h.cookies s)⟩
    exact mt (fire_connected_ne hl hck hf).mp h.gone

/-- After client `c` was disconnected no service has a cookie of it; and the next client at its
address, whatever happens until it connects, finds none either. -/
structure LeavesNoTrace (codec : BasicProtocolCodec) (c : ClientPtr) (w : World) : Prop where
  cookies : ∀ s, w.cookie s c = none
  reused : ∀ tr w', (backEndMachine codec).Run w tr (.ok w') →
    (∀ p ∈ tr, ∀ fresh, p.2 ≠ .connect c fresh) → ∀ s, (w'.connect c true).cookie s c = none

theorem Traceless.leavesNoTrace (h : Traceless c w) (hsound : Sound w) :
    LeavesNoTrace codec c w := by
  refine ⟨h.cookies, fun tr w' hrun hne s => ?_⟩
  have hall := hrun.invariant (I := fun w => Traceless c w ∧ Sound w)
    (C := fun _ l => ∀ fresh, l ≠ .connect c fresh)
    (fun _ _ _ hI hne hg hf => ⟨hI.1.step hI.2 hne hg hf, hI.2.step hg hf⟩) ⟨h, hsound⟩ hne
  exact (hall.2 w' rfl).1.cookies s

/-- **The rule of the services**: what `SetEntry` and a reset keep, every step keeps. -/
theorem services_step {P : OidContainer (Option Service) → Prop}
    (hset : ∀ services id s, services.WF → services.nameIndex ≠ [] →
      (∃ name o, Oid.make name o = .ok id) → P services → P (services.setEntry ⟨id, some s⟩).1)
    (hreset : ∀ services i, P services → P (services.setAt i none))
    (h : P w.backEnd.services) (hsound : Sound w) (hg : w.enabled l = true)
    (hf : fire codec w l = .ok w') : P w'.backEnd.services := by
  have hsame : w'.backEnd.services = w.backEnd.services → P w'.backEnd.services := by
    intro hs
    rw [hs]
    exact h
  cases hl : l.client with
  | some c => exact hsame (fire_sameControl hl hf).services
  | none =>
    rcases fire_services_server hl hf with hs | ⟨service, rfl⟩ | rfl
    · exact hsame hs
    · cases hf
      show P (w.backEnd.registerAndInitService service).1.services
      cases hs : w.backEnd.isSealed with
      | true =>
        rw [registerAndInitService_sealed hs]
        exact h
      | false =>
        rcases registerAndInitService_services (s := service) hs with heq | ⟨id, ⟨o, hid⟩, heq⟩
        · rw [heq]
          exact h
        · rw [heq]
          exact hset _ id service hsound.registry.wf hsound.registry.linked ⟨_, o, hid⟩ h
    · simp only [enabled] at hg
      split at hg
      · rename_i i hp
        rcases teardownStage_ok hp hf with ⟨-, b, e, ht, rfl⟩ | ⟨-, rfl⟩
        · have hb : P b.services := by
            rcases teardownService_ok ht with ⟨⟨ec, rfl⟩, -⟩ | ⟨services, ec, rfl | rfl, rfl⟩
            · exact h
            · exact h
            · exact hreset _ _ h
          cases e <;> exact hb
        · exact h
      · cases hg

/-- The vector of the services has at most one slot for each 16-bit ordinal. -/
def FitsOrdinals (w : World) : Prop := w.backEnd.services.size ≤ 2 ^ 16

theorem FitsOrdinals.step (h : FitsOrdinals w) (hsound : Sound w) (hg : w.enabled l = true)
    (hf : fire codec w l = .ok w') : FitsOrdinals w' := by
  refine services_step (P := fun services => services.size ≤ 2 ^ 16)
    (fun services id s hwf hlinked _ hP => ?_) (fun services i hP => ?_) h hsound hg hf
  · have hfit := id.ordinal.toNat_lt
    have hord : OidContainerEntry.ordinal ⟨id, some s⟩ = id.ordinal := rfl
    rcases hwf.setEntry_cases hlinked ⟨id, some s⟩ with heq | ⟨-, -, heq⟩
    · rw [heq, OidContainer.size_grow, hord]
      omega
    · rw [heq, OidContainer.size_placed, hord]
      omega
  · rw [OidContainer.size_setAt]
    exact hP

theorem fitsOrdinals_reaches {sourceType : SourceConnectionType}
    {backendType : DestinationConnectionType}
    (h : (backEndMachine codec).Reaches (init sourceType backendType) w) : FitsOrdinals w := by
  have hinit : FitsOrdinals (init sourceType backendType) := by
    have hsize := (registered_new sourceType backendType).size
    rw [FitsOrdinals, init, hsize]
    decide
  exact (h.invariant (I := fun w => FitsOrdinals w ∧ Sound w)
    (fun _ _ _ hI hg hf => ⟨hI.1.step hI.2 hg hf, hI.2.step hg hf⟩)
    ⟨hinit, init_sound _ _⟩).1

/-- **What `disconnect` goes through** in a running back end: every ordinal but 0. -/
theorem disconnect_cookies {reply : ℕ → ServiceReply} (hsound : Sound w) (hfits : FitsOrdinals w)
    (hrun : w.running = true) (hd : w.disconnect c reply = .ok w') (s : ℕ) :
    w'.cookie s c = if s = 0 then w.cookie 0 c else none := by
  simp only [running, Bool.and_eq_true, Bool.not_eq_true'] at hrun
  obtain ⟨b, cd, hb, rfl⟩ := disconnect_ok hd
  obtain ⟨-, -, -, -, hr, -⟩ := BackEnd.disconnect_ok hb
  rw [hrun.1, hrun.2] at hr
  have hlen := hsound.registry.isSealed hrun.1
  have hof : ∀ i, i < w.backEnd.services.size → (UInt16.ofNat i).toNat = i :=
    fun i hi => UInt16.toNat_ofNat_of_lt (hi.trans_le hfits)
  split
  · rename_i hs
    subst hs
    refine hr.kept 0 c (.inr fun i hi h0 => ?_)
    obtain ⟨hpos, hlt⟩ := List.mem_range'_1.mp hi
    rw [hof i (by omega)] at h0
    omega
  · rename_i hs
    by_cases hlt : s < w.backEnd.services.size
    · have hmem : s ∈ List.range' 1 (w.backEnd.services.size - 1) := by
        rw [List.mem_range'_1]
        omega
      have hnone := hr.removed s hmem
      rwa [hof s hlt] at hnone
    · apply ClientServiceCookies.lookup_of_length_le
      have hlen' : b.clientServiceCookies.serviceCookieVector.length = _ := hr.shape.length
      show b.clientServiceCookies.serviceCookieVector.length ≤ s
      omega

/-- **A disconnection leaves no trace, exactly** if the client has no cookie for `basic_protocol`:
in every reachable state of a running back end. -/
theorem disconnect_traceless_iff (codec : BasicProtocolCodec) (sourceType : SourceConnectionType)
    (backendType : DestinationConnectionType) {w w' : World} {c : ClientPtr}
    {reply : ℕ → ServiceReply}
    (h : (backEndMachine codec).Reaches (init sourceType backendType) w)
    (hrun : w.running = true) (hg : w.enabled (.disconnect c reply) = true)
    (hf : fire codec w (.disconnect c reply) = .ok w') :
    LeavesNoTrace codec c w' ↔ w.cookie 0 c = none := by
  have hsound : Sound w := sound_reaches h
  have hcookies := disconnect_cookies hsound (fitsOrdinals_reaches h) hrun hf
  constructor
  · intro htrace
    have hnone := htrace.cookies 0
    rwa [hcookies, if_pos rfl] at hnone
  · intro hnone
    have hgone : c ∉ w'.backEnd.connectedClients := by
      obtain ⟨b, cd, hb, rfl⟩ := disconnect_ok hf
      obtain ⟨-, -, -, ⟨cs, calls, rfl⟩, -⟩ := BackEnd.disconnect_ok hb
      exact Finset.notMem_erase _ _
    refine Traceless.leavesNoTrace ⟨hgone, fun s => ?_⟩ (hsound.step hg hf)
    rw [hcookies]
    split
    · exact hnone
    · rfl

/-- A client is disconnected that asked for a service and for a method that there are not. -/
theorem disconnect_traceless_iff_sample : ∃ w w' : World, w.running = true ∧
    (w.data 7).response.getError = .requestNoFunctionWithOrdinal ∧
      LeavesNoTrace basicProtocolCodec 7 w' := by
  let refused : List Label :=
    [.request 7 true { serviceOrdinal := 3 }, .check 7, .finish 7,
      .request 7 true { requestOrdinal := 9 }, .check 7, .finish 7]
  obtain ⟨w, hrun, hobs⟩ := (backEndMachine basicProtocolCodec).exec_observed
    (init .sourceRelay .targetMarshall) (startUp 7 ++ refused)
    (fun w => (w.running, w.enabled (.disconnect 7 fun _ => {}),
      (fire basicProtocolCodec w (.disconnect 7 fun _ => {})).toOption.isSome,
      (w.data 7).response.getError, (w.cookie 0 7).isNone))
    (a := (true, true, true, .requestNoFunctionWithOrdinal, true)) (by decide +kernel) (by decide +kernel)
  obtain ⟨hrunning, hg, hok, herror, hnone⟩ := by simpa only [Prod.mk.injEq] using hobs
  cases hf : fire basicProtocolCodec w (.disconnect 7 fun _ => {}) with
  | error f => rw [hf] at hok; cases hok
  | ok w' =>
    have hiff := disconnect_traceless_iff _ _ _ ⟨_, hrun⟩ hrunning hg hf
    exact ⟨w, w', hrunning, herror, hiff.mpr (Option.isNone_iff_eq_none.mp hnone)⟩

/-- **A client that said hello leaves its cookie for `basic_protocol` behind.** -/
theorem disconnect_leaves_cookie : ¬ ∀ (codec : BasicProtocolCodec)
    (sourceType : SourceConnectionType) (backendType : DestinationConnectionType) (w w' : World)
    (c : ClientPtr) (reply : ℕ → ServiceReply), codec.Lawful →
    (backEndMachine codec).Reaches (init sourceType backendType) w → w.running = true →
    w.enabled (.disconnect c reply) = true → fire codec w (.disconnect c reply) = .ok w' →
    LeavesNoTrace codec c w' := by
  intro h
  obtain ⟨w, hrun, hobs⟩ := (backEndMachine basicProtocolCodec).exec_observed
    (init .sourceRelay .targetMarshall) (startUp 7 ++ serve 7 {} {})
    (fun w => (w.running, w.enabled (.disconnect 7 fun _ => {}),
      (fire basicProtocolCodec w (.disconnect 7 fun _ => {})).toOption.map
        fun w' => (w'.cookie 0 7).isSome))
    (a := (true, true, some true)) (by decide +kernel) (by decide +kernel)
  obtain ⟨hrunning, hg, hcookie⟩ := by simpa only [Prod.mk.injEq] using hobs
  cases hf : fire basicProtocolCodec w (.disconnect 7 fun _ => {}) with
  | error f => rw [hf] at hcookie; cases hcookie
  | ok w' =>
    have htrace := h _ _ _ w w' 7 _ basicProtocolCodec_lawful ⟨_, hrun⟩ hrunning hg hf
    rw [hf] at hcookie
    have hsome : (w'.cookie 0 7).isSome = true := Option.some.inj hcookie
    rw [htrace.cookies 0] at hsome
    cases hsome

end World

end RblRpc
