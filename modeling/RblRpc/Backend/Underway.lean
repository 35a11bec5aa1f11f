import RblRpc.Backend.Establishment
import RblRpc.Backend.SessionRefinement

/-!
# Requests under way

Between the call of a request and its dispatch other requests are served and clients come and go.
What the checks found of a request stays true until it takes effect; and a client that is
disconnected loses its session, while it has no request.

* `World.server` — the server that a back end is, with the sessions of its clients.
* `Underway` — what holds of the requests that have yet to take effect.
* `Departed`, `signalStage_departed` — the managers disconnect clients between their requests.
* `Serving.step` — **every step keeps what the refinement rests on.**
-/

namespace RblRpc

open Transition BackEnd

namespace World

/-- The server that the back end is. -/
def server (w : World) : SessionServer where
  sourceType := w.backEnd.sourceType
  backendType := w.backEnd.backendType
  accepting := w.state.acceptingRequests
  stopped := w.backEnd.ioService.stopped
  directory := w.backEnd.directory
  session c := w.backEnd.session c (w.data c)

variable {codec : BasicProtocolCodec} {w w' : World} {c : ClientPtr} {l : Label}

theorem session_setInvoker_self (b : BackEnd) (i : Invoker) :
    ((w.setBackEnd b).setInvoker c i).server.session c = b.session c i.clientData := by
  show b.session c ((Function.update w.invokers c i) c).clientData = _
  rw [Function.update_self]

theorem session_setInvoker_ne {k : ClientPtr} (h : k ≠ c) (b : BackEnd) (i : Invoker) :
    ((w.setBackEnd b).setInvoker c i).server.session k = b.session k (w.data k) := by
  show b.session k ((Function.update w.invokers c i) k).clientData = _
  rw [Function.update_of_ne h]
  rfl

/-! ## Requests under way -/

/-- The request of `c` has yet to take effect. -/
def pending (w : World) (c : ClientPtr) : Prop := w.stage c = .accepted ∨ w.inPool c

/-- The requests that have yet to take effect: no error is set; and a request in the pool for
another service than `basic_protocol` is of a client that is still subscribed to it. -/
structure Underway (w : World) : Prop where
  clean : ∀ c, w.pending c → (w.data c).Clean
  subscribed : ∀ c, w.inPool c → (w.data c).request.serviceOrdinal ≠ 0 →
    w.backEnd.clientServiceCookies.isSubscribed
      (w.data c).request.serviceOrdinal.toUInt16.toNat c = true

theorem init_underway (sourceType : SourceConnectionType)
    (backendType : DestinationConnectionType) : Underway (init sourceType backendType) := by
  have hidle : ∀ c, ¬(init sourceType backendType).inPool c := by
    intro c hpool
    rcases hpool with h | h <;> cases h
  refine ⟨fun c hp => ?_, fun c hp => absurd hp (hidle c)⟩
  rcases hp with h | h
  · cases h
  · exact absurd h (hidle c)

theorem isSubscribed_congr {k : ClientPtr} {s : ℕ} (h : w'.cookie s k = w.cookie s k) :
    w'.backEnd.clientServiceCookies.isSubscribed s k =
      w.backEnd.clientServiceCookies.isSubscribed s k := by
  rw [ClientServiceCookies.isSubscribed, ClientServiceCookies.isSubscribed]
  exact congrArg _ h

/-- What is asked of the requests of one client. -/
theorem Underway.of_client {c : ClientPtr} (h : Underway w)
    (hothers : ∀ k, k ≠ c → w'.invokers k = w.invokers k ∧ ∀ s, w'.cookie s k = w.cookie s k)
    (hclean : w'.pending c → (w'.data c).Clean)
    (hsub : w'.inPool c → (w'.data c).request.serviceOrdinal ≠ 0 →
      w'.backEnd.clientServiceCookies.isSubscribed
        (w'.data c).request.serviceOrdinal.toUInt16.toNat c = true) : Underway w' := by
  refine ⟨fun k hk => ?_, fun k hk => ?_⟩
  · by_cases hkc : k = c
    · subst hkc
      exact hclean hk
    · have heq := (hothers k hkc).1
      rw [pending, inPool, stage, heq] at hk
      rw [data, heq]
      exact h.clean k hk
  · by_cases hkc : k = c
    · subst hkc
      exact hsub hk
    · have heq := (hothers k hkc).1
      rw [inPool, stage, heq] at hk
      rw [data, heq, isSubscribed_congr ((hothers k hkc).2 _)]
      exact h.subscribed k hk

/-- An accepted request starts without an error. -/
theorem request_clean {resets : Bool} {r : ClientRequest} (h : w.request c resets r = .ok w')
    (hst : w'.stage c = .accepted) : (w'.data c).Clean := by
  obtain ⟨b, i, hf, rfl⟩ := stepInvoker_ok.mp h
  obtain ⟨i₁, -, hf⟩ := bind_eq_ok.mp hf
  obtain ⟨⟨started, b₁, cd₁⟩, hbegin, hret⟩ := bind_eq_ok.mp hf
  cases hret
  rw [stage_setInvoker_self] at hst
  rw [data, setInvoker_self]
  unfold beginInvoke at hbegin
  dsimp only at hbegin
  split at hbegin
  · obtain ⟨cd₂, hcd₂, hret⟩ := bind_eq_ok.mp hbegin
    cases hret
    obtain ⟨-, rfl⟩ := ClientData.startRpc_eq_ok.mp hcd₂
    exact ⟨rfl, rfl⟩
  · cases hbegin
    cases hst

theorem not_pending_of_stage {st : Stage} (h : w.stage c = st)
    (hst : st = .idle ∨ st = .rejected ∨ st = .ran) : ¬w.pending c := by
  rintro (hp | hp | hp) <;> rw [h] at hp <;> subst hp <;> simp at hst

/-- A client whose request has taken effect, or that has none, asks for nothing. -/
theorem Underway.of_settled {c : ClientPtr} (h : Underway w)
    (hothers : ∀ k, k ≠ c → w'.invokers k = w.invokers k ∧ ∀ s, w'.cookie s k = w.cookie s k)
    (hp : ¬w'.pending c) : Underway w' :=
  h.of_client hothers (fun hc => absurd hc hp) fun hpool => absurd (.inr hpool) hp

/-- **A step of a client** leaves what it must of its own request. -/
theorem Underway.step_client (h : Underway w) (hl : l.client = some c) (hg : w.enabled l = true)
    (hf : fire codec w l = .ok w') : Underway w' := by
  have hothers : ∀ k, k ≠ c → w'.invokers k = w.invokers k ∧ ∀ s, w'.cookie s k = w.cookie s k :=
    fun k hk => ⟨fire_invoker_other hl hk hf, fun s => fire_lookup_client hl hk hf s⟩
  cases l <;> cases hl
  case connect fresh =>
    cases hf
    cases fresh with
    | false => exact ⟨h.clean, h.subscribed⟩
    | true =>
      apply h.of_settled hothers
      exact not_pending_of_stage (stage_setInvoker_self _) (.inl rfl)
  case disconnect reply =>
    simp only [enabled, Bool.and_eq_true, decide_eq_true_eq] at hg
    have hst : w'.stage c = .idle := by rw [disconnect_stage hf, hg.2]
    exact h.of_settled hothers (not_pending_of_stage hst (.inl rfl))
  case request resets r =>
    have hclean := request_clean hf
    obtain ⟨b, i, rfl, -, -, ⟨-, -, -, hst, -⟩ | ⟨-, -, hst, -⟩⟩ := request_ok hf
    · have hst' : ((w.setBackEnd b).setInvoker c i).stage c = .accepted := by
        rw [stage_setInvoker_self, hst]
      refine h.of_client hothers (fun _ => hclean hst') fun hpool => ?_
      rcases hpool with hp | hp <;> rw [hst'] at hp <;> cases hp
    · refine h.of_settled hothers (not_pending_of_stage ?_ (.inl rfl))
      rw [stage_setInvoker_self, hst]
  case check =>
    obtain ⟨b, i, hc, rfl⟩ := stepInvoker_ok.mp hf
    have hst : w.stage c = .accepted := of_decide_eq_true hg
    obtain ⟨cs, -, hsub, ⟨hrej, -⟩ | ⟨hadm, rfl, rfl⟩⟩ := checkRequest_ok hc
    · refine h.of_settled hothers (not_pending_of_stage ?_ (.inr (.inl rfl)))
      rw [stage_setInvoker_self, hrej]
    · refine h.of_client hothers (fun _ => ?_) fun _ hne => ?_
      · rw [data, setInvoker_self]
        exact h.clean c (.inl hst)
      · rw [data, setInvoker_self] at hne ⊢
        exact (hsub _ _).trans (hadm.subscribed hne)
  case take =>
    simp only [enabled, Bool.and_eq_true, decide_eq_true_eq] at hg
    cases hf
    refine h.of_client hothers (fun _ => ?_) fun _ hne => ?_
    · rw [data, setInvoker_self]
      exact h.clean c (.inr (.inl hg.2))
    · rw [data, setInvoker_self] at hne ⊢
      exact h.subscribed c (.inl hg.2) hne
  case run reply =>
    obtain ⟨b, i, hr, rfl⟩ := stepInvoker_ok.mp hf
    obtain ⟨s, cd, -, rfl, -⟩ := runPosted_ok hr
    refine h.of_settled hothers (not_pending_of_stage ?_ (.inr (.inr rfl)))
    rw [stage_setInvoker_self]
  case finish =>
    obtain ⟨-, rfl⟩ := finish_ok hf
    refine h.of_settled hothers (not_pending_of_stage ?_ (.inl rfl))
    rw [stage_setInvoker_self]

/-! ## Signalling the managers -/

theorem disconnectServices_response {reply : ℕ → ServiceReply} {is : List ℕ} {b b' : BackEnd}
    {cd cd' : ClientData} (h : disconnectServices c reply is b cd = .ok (b', cd')) :
    cd'.response = cd.response := by
  induction is generalizing b cd with
  | nil => cases h; rfl
  | cons i is ih =>
    obtain ⟨⟨b₁, cd₁⟩, h₁, h₂⟩ := bind_eq_ok.mp h
    rw [ih h₂]
    unfold disconnectService at h₁
    obtain ⟨cs, -, h₁⟩ := bind_eq_ok.mp h₁
    dsimp only at h₁
    split at h₁
    · cases h₁
    · obtain ⟨⟨b₂, cd₂⟩, hunsub, h₁⟩ := bind_eq_ok.mp h₁
      obtain ⟨⟨r, cs'⟩, -, h₁⟩ := bind_eq_ok.mp h₁
      cases h₁
      unfold unsubscribeClient at hunsub
      split at hunsub
      · split at hunsub <;> cases hunsub
        rfl
      · cases hunsub
        rfl

theorem disconnect_response {reply : ℕ → ServiceReply} {b b' : BackEnd} {cd cd' : ClientData}
    (h : b.disconnect c reply cd = .ok (b', cd')) : cd'.response = cd.response := by
  unfold BackEnd.disconnect at h
  obtain ⟨⟨b₁, cd₁⟩, h₁, h⟩ := bind_eq_ok.mp h
  obtain ⟨_, -, h⟩ := bind_eq_ok.mp h
  cases h
  unfold cleanUp at h₁
  split at h₁
  · exact disconnectServices_response h₁
  · cases h₁
    rfl

/-- **The session of a client that is disconnected.** -/
theorem disconnect_session {reply : ℕ → ServiceReply} {b b' : BackEnd} {cd cd' : ClientData}
    (hreg : RegistrySound b) (hfits : b.services.size ≤ 2 ^ 16)
    (h : b.disconnect c reply cd = .ok (b', cd')) :
    b'.session c cd' = if b.ioService.stopped then b.session c cd else (b.session c cd).depart := by
  have hresponse := disconnect_response h
  have hunsub := fun hrun o ho => Gated.disconnect_unsubscribed (o := o) hreg hrun h ho
  obtain ⟨-, -, hid, ⟨cs, calls, rfl⟩, hr, -⟩ := BackEnd.disconnect_ok h
  cases hstopped : b.ioService.stopped with
  | true =>
    rw [if_pos rfl]
    refine session_congr hid (congrArg _ hresponse) fun s => ?_
    rw [ClientServiceCookies.isSubscribed, ClientServiceCookies.isSubscribed,
      hr.kept s c (.inr fun i hi => ?_)]
    rw [hstopped, Bool.not_true, Bool.and_false, if_neg Bool.false_ne_true] at hi
    exact absurd hi List.not_mem_nil
  | false =>
    rw [if_neg Bool.false_ne_true]
    have hsub : ∀ s, cs.isSubscribed s c =
        if s = 0 then b.clientServiceCookies.isSubscribed 0 c else false := by
      intro s
      by_cases hs : s = 0
      · subst hs
        rw [if_pos rfl, ClientServiceCookies.isSubscribed, ClientServiceCookies.isSubscribed]
        refine congrArg _ (hr.kept 0 c (.inr fun i hi => ?_))
        split at hi
        · have hi := List.mem_range'_1.mp hi
          have hof : (UInt16.ofNat i).toNat = i := UInt16.toNat_ofNat_of_lt (show i < 2 ^ 16 by omega)
          omega
        · exact absurd hi List.not_mem_nil
      · rw [if_neg hs]
        by_cases hlt : s < 2 ^ 16
        · have hof : (UInt16.ofNat s).toNat = s := UInt16.toNat_ofNat_of_lt hlt
          have hne : UInt16.ofNat s ≠ 0 := by
            intro hzero
            rw [hzero] at hof
            exact hs hof.symm
          have hno := hunsub hstopped _ hne
          rw [hof] at hno
          exact hno
        · rw [ClientServiceCookies.isSubscribed, ClientServiceCookies.lookup_of_length_le]
          · rfl
          · have hlen := hr.shape.length
            cases hsealed : b.isSealed with
            | true => rw [hlen, hreg.isSealed hsealed]; omega
            | false => rw [hlen, hreg.unsealed hsealed]; omega
    unfold session ClientSession.depart
    simp only [hid.name, hid.clientEstablished, hresponse, hsub]

theorem directory_congr {b b' : BackEnd} (h : b'.services = b.services) :
    b'.directory = b.directory := by
  rw [directory, directory, h]

/-- What disconnecting clients leaves: the sessions of those that are gone, and the flags of the
server. -/
structure Departed (w w' : World) : Prop where
  services : w'.backEnd.services = w.backEnd.services
  sourceType : w'.backEnd.sourceType = w.backEnd.sourceType
  backendType : w'.backEnd.backendType = w.backEnd.backendType
  accepting : w'.state.acceptingRequests = w.state.acceptingRequests
  stopped : w'.backEnd.ioService.stopped = w.backEnd.ioService.stopped
  connected : w'.backEnd.connectedClients ⊆ w.backEnd.connectedClients
  stage : w'.stage = w.stage
  busy : ∀ k, w.stage k ≠ .idle →
    w'.invokers k = w.invokers k ∧ ∀ s, w'.cookie s k = w.cookie s k
  session : ∀ k, w'.server.session k =
    if k ∈ w.backEnd.connectedClients \ w'.backEnd.connectedClients ∧
      w.backEnd.ioService.stopped = false
    then (w.server.session k).depart else w.server.session k

theorem Departed.refl (w : World) : Departed w w := by
  refine ⟨rfl, rfl, rfl, rfl, rfl, fun _ hc => hc, rfl, fun _ _ => ⟨rfl, fun _ => rfl⟩,
    fun k => ?_⟩
  rw [Finset.sdiff_self, if_neg fun hk => Finset.notMem_empty _ hk.1]

theorem Departed.trans {w₁ w₂ w₃ : World} (h : Departed w₁ w₂) (h' : Departed w₂ w₃) :
    Departed w₁ w₃ := by
  refine ⟨h'.services.trans h.services, h'.sourceType.trans h.sourceType,
    h'.backendType.trans h.backendType, h'.accepting.trans h.accepting,
    h'.stopped.trans h.stopped, h'.connected.trans h.connected, h'.stage.trans h.stage,
    fun k hk => ?_, fun k => ?_⟩
  · have hk' : w₂.stage k ≠ .idle := by rwa [h.stage]
    obtain ⟨hinv, hcookie⟩ := h.busy k hk
    obtain ⟨hinv', hcookie'⟩ := h'.busy k hk'
    exact ⟨hinv'.trans hinv, fun s => (hcookie' s).trans (hcookie s)⟩
  · rw [h'.session, h.session, h.stopped]
    by_cases hrun : w₁.backEnd.ioService.stopped = false
    · simp only [hrun, and_true, Finset.mem_sdiff]
      by_cases h₁ : k ∈ w₁.backEnd.connectedClients
      · by_cases h₂ : k ∈ w₂.backEnd.connectedClients
        · simp [h₁, h₂]
        · have h₃ : k ∉ w₃.backEnd.connectedClients := fun hk => h₂ (h'.connected hk)
          simp [h₁, h₂, h₃]
      · have h₂ : k ∉ w₂.backEnd.connectedClients := fun hk => h₁ (h.connected hk)
        simp [h₁, h₂]
    · simp [hrun]

/-- **A client is disconnected** between its requests. -/
theorem disconnect_departed {reply : ℕ → ServiceReply} (hreg : RegistrySound w.backEnd)
    (hfits : FitsOrdinals w) (hidle : w.stage c = .idle) (hd : w.disconnect c reply = .ok w') :
    Departed w w' ∧ c ∈ w.backEnd.connectedClients ∧
      w'.backEnd.connectedClients = w.backEnd.connectedClients.erase c := by
  have hcontrol := disconnect_sameControl hd
  have hstage := disconnect_stage hd
  have hlookup := fun k (hk : k ≠ c) => disconnect_lookup_ne hd hk
  obtain ⟨b, cd, hb, rfl⟩ := disconnect_ok hd
  have hsession := disconnect_session hreg hfits hb
  obtain ⟨hmem, -, -, ⟨cs, calls, rfl⟩, -, -⟩ := BackEnd.disconnect_ok hb
  refine ⟨⟨hcontrol.services, hcontrol.sourceType, hcontrol.backendType,
    hcontrol.acceptingRequests, hcontrol.stopped, Finset.erase_subset _ _, hstage,
    fun k hk => ?_, fun k => ?_⟩, hmem, rfl⟩
  · have hne : k ≠ c := by
      rintro rfl
      exact hk hidle
    exact ⟨setInvoker_ne hne _, hlookup k hne⟩
  · by_cases hk : k = c
    · subst hk
      have hgone : k ∈ w.backEnd.connectedClients \ w.backEnd.connectedClients.erase k := by
        simp [hmem]
      refine (session_setInvoker_self _ _).trans (hsession.trans ?_)
      cases hstopped : w.backEnd.ioService.stopped with
      | true => rw [if_pos rfl, if_neg (fun hand => nomatch hand.2)]; rfl
      | false => rw [if_neg Bool.false_ne_true, if_pos ⟨hgone, rfl⟩]; rfl
    · have hstays : k ∉ w.backEnd.connectedClients \ w.backEnd.connectedClients.erase c := by
        simp only [Finset.mem_sdiff, Finset.mem_erase, not_and]
        exact fun hin hout => hout hk hin
      refine Eq.trans ?_ (if_neg fun hand => hstays hand.1).symm
      refine (session_setInvoker_ne hk _ _).trans ?_
      exact session_congr (.refl _) rfl fun s => isSubscribed_congr (hlookup k hk s)

/-- **`f_disc_invoker_sig`** disconnects clients between their requests. -/
theorem signalStage_departed {reply : ManagerId → ManagerReply} (hreg : RegistrySound w.backEnd)
    (hfits : FitsOrdinals w) (hfree : w.managersFree reply = true)
    (hs : w.signalStage reply = .ok w') : Departed w w' := by
  obtain ⟨w₁, threw, hsig, rfl⟩ := signalStage_ok hs
  have hw₁ : Departed w w₁ ∧ RegistrySound w₁.backEnd := by
    refine signalManagers_rule (I := fun w' => Departed w w' ∧ RegistrySound w'.backEnd) ?_ ?_ hsig
      ⟨.refl w, hreg⟩
    · rintro w₁ w₂ ⟨hI, hreg₁⟩ m hm ⟨c, r⟩ hp hd
      have hidle := of_decide_eq_true (List.all_eq_true.mp (List.all_eq_true.mp hfree m hm) _ hp)
      have hfits₁ : FitsOrdinals w₁ := by rw [FitsOrdinals, hI.services]; exact hfits
      have hidle₁ : w₁.stage c = .idle := by rw [hI.stage]; exact hidle
      exact ⟨hI.trans (disconnect_departed hreg₁ hfits₁ hidle₁ hd).1,
        disconnect_registrySound hreg₁ hd⟩
    · rintro w₁ ⟨hI, hreg₁⟩ m -
      exact ⟨{ hI with }, hreg₁.of_shape rfl rfl (.refl _)⟩
  cases threw <;> exact { hw₁.1 with }

/-! ## Every step -/

/-- Neither type of the back end is ever written. -/
theorem fire_types (hl : l.client = none) (hsig : l.signals = false)
    (hf : fire codec w l = .ok w') :
    w'.backEnd.sourceType = w.backEnd.sourceType ∧
      w'.backEnd.backendType = w.backEnd.backendType := by
  cases l <;> cases hl
  case registerService s =>
    cases hf
    obtain ⟨services, ec, count, heq⟩ := registerAndInitService_writes s w.backEnd
    simp only [setBackEnd_backEnd, heq, and_self]
  case start =>
    obtain ⟨b, e, hs, rfl⟩ := start_ok hf
    obtain ⟨-, ⟨-, rfl, -⟩ | ⟨-, -, -, cs₀, cs, -, -, rfl⟩⟩ := BackEnd.start_ok hs <;>
      exact ⟨rfl, rfl⟩
  case stopStage =>
    cases hf
    obtain ⟨s, heq⟩ := stopStage_backEnd w
    rw [heq]
    exact ⟨rfl, rfl⟩
  case rpcStage =>
    cases hf
    obtain ⟨s, heq⟩ := rpcStage_backEnd w
    rw [heq]
    exact ⟨rfl, rfl⟩
  case signalStage => cases hsig
  case managerStage =>
    rcases managerStage_ok hf with ⟨-, rfl, -⟩ | ⟨-, rfl⟩ <;> exact ⟨rfl, rfl⟩
  case teardownStage =>
    obtain ⟨services, ec, calls, p, r, rfl⟩ := teardownStage_writes hf
    exact ⟨rfl, rfl⟩
  all_goals
    cases hf
    exact ⟨rfl, rfl⟩

theorem Underway.step_server (h : Underway w) (hreg : RegistrySound w.backEnd)
    (hl : l.client = none) (hsig : l.signals = false) (hf : fire codec w l = .ok w') :
    Underway w' := by
  have hinv := (fire_sameClients hl hsig hf).invokers
  refine ⟨fun k hk => ?_, fun k hk hne => ?_⟩
  · rw [pending, inPool, stage, hinv] at hk
    rw [data, hinv]
    exact h.clean k hk
  · rw [inPool, stage, hinv] at hk
    rw [data, hinv] at hne ⊢
    rw [isSubscribed_congr (fire_lookup_server hreg hl hsig hf _ k)]
    exact h.subscribed k hk hne

theorem Underway.signal (h : Underway w) (hd : Departed w w') : Underway w' := by
  have hbusy : ∀ k, w.pending k → w'.invokers k = w.invokers k ∧
      ∀ s, w'.cookie s k = w.cookie s k := by
    intro k hk
    apply hd.busy
    intro hidle
    exact not_pending_of_stage hidle (.inl rfl) hk
  refine ⟨fun k hk => ?_, fun k hk hne => ?_⟩
  · rw [pending, inPool, hd.stage] at hk
    rw [data, (hbusy k hk).1]
    exact h.clean k hk
  · rw [inPool, hd.stage] at hk
    obtain ⟨hinv, hcookie⟩ := hbusy k (.inr hk)
    rw [data, hinv] at hne ⊢
    rw [isSubscribed_congr (hcookie _)]
    exact h.subscribed k hk hne

/-- What every reachable state satisfies. -/
structure Serving (w : World) : Prop where
  sound : Sound w
  fits : FitsOrdinals w
  underway : Underway w

theorem Serving.step (h : Serving w) (hg : w.enabled l = true) (hf : fire codec w l = .ok w') :
    Serving w' := by
  refine ⟨h.sound.step hg hf, h.fits.step h.sound hg hf, ?_⟩
  cases hl : l.client with
  | some c => exact h.underway.step_client hl hg hf
  | none =>
    cases hsig : l.signals with
    | false => exact h.underway.step_server h.sound.registry hl hsig hf
    | true =>
      obtain ⟨reply, rfl⟩ := Label.signals_eq_true hsig
      simp only [enabled, Bool.and_eq_true, decide_eq_true_eq] at hg
      exact h.underway.signal (signalStage_departed h.sound.registry h.fits hg.2 hf)

theorem init_serving (sourceType : SourceConnectionType)
    (backendType : DestinationConnectionType) : Serving (init sourceType backendType) :=
  have hreach : (backEndMachine basicProtocolCodec).Reaches (init sourceType backendType)
      (init sourceType backendType) := .refl _
  ⟨init_sound _ _, fitsOrdinals_reaches hreach, init_underway _ _⟩

end World

end RblRpc
