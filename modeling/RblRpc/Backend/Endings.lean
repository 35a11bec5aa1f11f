import RblRpc.Backend.Returns
import RblRpc.Backend.SubscriptionLifecycle
import RblRpc.Backend.Underway

/-!
# Requests that end

`invoke` returns false when it has posted a request; the pool takes it, runs its dispatch and ends
it.  Nothing that other threads do in between stands in the way, as long as the shutdown lets no
request in again; what can is the dispatch itself.

* `Pooled` — the invariant of every run: what a request in the pool finds there.
* `Lasting` — a back end no shutdown of which waits for the managers; `Lasting.fire_total` — the
  steps of its clients return.
* `Lasting.run_ok_iff`, `Lasting.endsOnce_iff` — a dispatch returns, and a request that was posted
  ends, exactly if the request does not strand.
* `request_accounting` — **the account of every run, and the runs in which all requests end.**
-/

namespace RblRpc

open Transition BackEnd OidContainer

namespace World

variable {codec : BasicProtocolCodec} {w w' : World} {c : ClientPtr} {l : Label}

/-! ## What a request in the pool finds -/

/-- The services have one at the ordinal, with the function asked for unless it was reset. -/
def Offers (o : UInt16) (r : ClientRequest) (services : OidContainer (Option Service)) : Prop :=
  ∃ e, services.at? o.toNat = some e ∧ ∀ s, e.entry = some s → (s.dispatched r).isSome = true

/-- What holds of the requests in the pool, of a started registry and of a stopped pool. -/
structure Pooled (w : World) : Prop where
  isSealed : ∀ c, w.inPool c → w.backEnd.isSealed = true
  cookie : ∀ c, w.inPool c → (w.invokers c).clientCookie = (w.invokers c).service
  offered : ∀ c, w.inPool c →
    Offers (w.invokers c).service (w.data c).request w.backEnd.services
  contiguous : w.backEnd.isSealed = true →
    w.backEnd.services.size = w.backEnd.services.occupiedSize
  stopped : w.backEnd.ioService.stopped = true → w.waitsForManagers

/-- What the services offer they offer after every step, unless the service is reset. -/
theorem Offers.step {o : UInt16} {r : ClientRequest} (h : Offers o r w.backEnd.services)
    (hsound : Sound w) (hg : w.enabled l = true) (hf : fire codec w l = .ok w') :
    Offers o r w'.backEnd.services := by
  refine services_step (P := Offers o r) (fun services id s hwf hlinked _ hP => ?_)
    (fun services i hP => ?_) h hsound hg hf
  · obtain ⟨e, he, hfn⟩ := hP
    refine ⟨e, ?_, hfn⟩
    rcases hwf.setEntry_cases hlinked ⟨id, some s⟩ with heq | ⟨hinit, hfresh, heq⟩
    · rw [heq, at?_grow]
      exact he
    · rw [heq, at?_placed hinit, if_neg]
      · exact he
      · intro hslot
        rw [hslot, hfresh.ordinal] at he
        cases he
  · obtain ⟨e, he, hfn⟩ := hP
    rw [Offers, at?_setAt, he]
    by_cases hi : o.toNat = i
    · exact ⟨{ e with entry := none }, by rw [if_pos hi]; rfl, nofun⟩
    · exact ⟨e, by rw [if_neg hi], hfn⟩

/-- **A busy client is left alone** by the steps that are not its own. -/
theorem fire_busy (h : Serving w) (hl : l.client ≠ some c) (hg : w.enabled l = true)
    (hf : fire codec w l = .ok w') (hbusy : w.stage c ≠ .idle) :
    w'.invokers c = w.invokers c := by
  cases hcl : l.client with
  | some c' => exact fire_invoker_other hcl (fun heq => hl (hcl.trans (congrArg some heq.symm))) hf
  | none =>
    cases hsig : l.signals with
    | false => rw [(fire_sameClients hcl hsig hf).invokers]
    | true =>
      obtain ⟨reply, rfl⟩ := Label.signals_eq_true hsig
      simp only [enabled, Bool.and_eq_true, decide_eq_true_eq] at hg
      exact ((signalStage_departed h.sound.registry h.fits hg.2 hf).busy c hbusy).1

theorem inPool.busy (h : w.inPool c) : w.stage c ≠ .idle := by
  intro hidle
  rcases h with h | h <;> rw [hidle] at h <;> cases h

/-- The invoker is as it was, but for its stage. -/
def SameRequest (i i' : Invoker) : Prop :=
  i'.clientData = i.clientData ∧ i'.service = i.service ∧ i'.clientCookie = i.clientCookie

/-- The checks have just posted the request of `c`. -/
structure JustPosted (codec : BasicProtocolCodec) (c : ClientPtr) (w w' : World) : Prop where
  cookie : ∃ cs, w.backEnd.clientServiceCookies.createOrRetrieveCookie
    (w.data c).request.serviceOrdinal.toUInt16 c = .ok cs
  admitted : Admitted c w.backEnd (w.data c)
  invoker : w'.invokers c = { w.invokers c with
    service := (w.data c).request.serviceOrdinal.toUInt16
    clientCookie := (w.data c).request.serviceOrdinal.toUInt16
    stage := .posted }

/-- **How a request comes to be in the pool**: it was there, or the checks have just posted it. -/
theorem inPool_step (hserving : Serving w) (hg : w.enabled l = true)
    (hf : fire codec w l = .ok w') (h : w'.inPool c) :
    w.inPool c ∧ SameRequest (w.invokers c) (w'.invokers c) ∨
      l = .check c ∧ JustPosted codec c w w' := by
  have hkept : w'.invokers c = w.invokers c →
      w.inPool c ∧ SameRequest (w.invokers c) (w'.invokers c) := by
    intro hsame
    rw [inPool, stage, hsame] at h
    rw [hsame]
    exact ⟨h, rfl, rfl, rfl⟩
  have hstep := fire_stageStep c hg hf
  have hst := h
  generalize hs : w.stage c = s at hstep
  rw [inPool] at hst
  generalize w'.stage c = s' at hstep hst
  cases hstep with
  | other _ hl => exact .inl (hkept (fire_busy hserving hl hg hf (fire_stage_ne hl hf ▸ h.busy)))
  | connect fresh =>
    cases fresh with
    | false =>
      cases hf
      exact .inl (hkept rfl)
    | true =>
      cases hf
      exact absurd (stage_setInvoker_self {}) h.busy
  | disconnect reply =>
    simp only [enabled, Bool.and_eq_true, decide_eq_true_eq] at hg
    exact absurd ((congrFun (disconnect_stage hf) c).trans hg.2) h.busy
  | post =>
    obtain ⟨b, i, hcheck, rfl⟩ := stepInvoker_ok.mp hf
    rw [inPool, stage, setInvoker_self] at h
    cases checkRequest_step hcheck with
    | posted cookie admitted => exact .inr ⟨rfl, ⟨_, cookie⟩, admitted, setInvoker_self _⟩
    | noService | noFunction | notSubscribed | greeted | notEstablished =>
      rcases h with h | h <;> cases h
  | take =>
    cases hf
    refine .inl ⟨.inl hs, ?_⟩
    rw [setInvoker_self]
    exact ⟨rfl, rfl, rfl⟩
  | accept | refuse | reject | run | finishRejected | finishRan =>
    rcases hst with hst | hst <;> cases hst

/-- Cookies are created in a started back end. -/
theorem sealed_of_cookie {b : BackEnd} {o : UInt16} {cs : ClientServiceCookies}
    (hreg : RegistrySound b) (h : b.clientServiceCookies.createOrRetrieveCookie o c = .ok cs) :
    b.isSealed = true := by
  cases hs : b.isSealed with
  | true => rfl
  | false =>
    rw [ClientServiceCookies.createOrRetrieveCookie,
      ClientServiceCookies.mapAt_empty (hreg.unsealed hs)] at h
    cases h

/-- A started registry is contiguous, and stays so. -/
theorem contiguous_step
    (h : w.backEnd.isSealed = true → w.backEnd.services.size = w.backEnd.services.occupiedSize)
    (hg : w.enabled l = true) (hf : fire codec w l = .ok w')
    (hs' : w'.backEnd.isSealed = true) :
    w'.backEnd.services.size = w'.backEnd.services.occupiedSize := by
  by_cases hstart : l = .start
  · subst hstart
    obtain ⟨b, e, hstart, rfl⟩ := start_ok hf
    obtain ⟨-, ⟨hs, rfl, -⟩ | ⟨-, -, hcont, cs₀, cs, -, -, rfl⟩⟩ := BackEnd.start_ok hstart
    · exact h hs
    · exact hcont
  · have hs := (fire_sameStore hstart hf).isSealed.symm.trans hs'
    have hsame : w'.backEnd.services = w.backEnd.services →
        w'.backEnd.services.size = w'.backEnd.services.occupiedSize := by
      intro heq
      rw [heq]
      exact h hs
    cases hl : l.client with
    | some c => exact hsame (fire_sameControl hl hf).services
    | none =>
      rcases fire_services_server hl hf with heq | ⟨s, rfl⟩ | rfl
      · exact hsame heq
      · cases hf
        exact hsame (congrArg BackEnd.services (registerAndInitService_sealed hs))
      · simp only [enabled] at hg
        split at hg
        · rename_i i hp
          rcases teardownStage_ok hp hf with ⟨-, b, e, ht, rfl⟩ | ⟨-, rfl⟩
          · have hb : b.services.size = b.services.occupiedSize := by
              rcases teardownService_ok ht with ⟨⟨ec, rfl⟩, -⟩ | ⟨services, ec, rfl | rfl, rfl⟩
              · exact h hs
              · exact h hs
              · exact (size_setAt _ _ _).trans (h hs)
            cases e <;> exact hb
          · exact hsame rfl
        · cases hg

namespace Pooled

theorem step (h : Pooled w) (hserving : Serving w) (hstaged : Staged w)
    (hg : w.enabled l = true) (hf : fire codec w l = .ok w') : Pooled w' where
  isSealed c hc := by
    refine fire_sealed ?_ hf
    rcases inPool_step hserving hg hf hc with ⟨hpool, -⟩ | ⟨-, hposted⟩
    · exact h.isSealed c hpool
    · exact sealed_of_cookie hserving.sound.registry hposted.cookie.choose_spec
  cookie c hc := by
    rcases inPool_step hserving hg hf hc with ⟨hpool, -, hservice, hcookie⟩ | ⟨-, hposted⟩
    · rw [hservice, hcookie]
      exact h.cookie c hpool
    · rw [hposted.invoker]
  offered c hc := by
    rcases inPool_step hserving hg hf hc with ⟨hpool, hdata, hservice, -⟩ | ⟨-, hposted⟩
    · rw [data, hdata, hservice]
      exact (h.offered c hpool).step hserving.sound hg hf
    · obtain ⟨s, hs, hfn⟩ := hposted.admitted.service
      rw [serviceAt_eq] at hs
      obtain ⟨e, he, hentry⟩ := Option.map_eq_some_iff.mp hs
      have hoffers : Offers (w.data c).request.serviceOrdinal.toUInt16 (w.data c).request
          w.backEnd.services := by
        refine ⟨e, he, fun s' hs' => ?_⟩
        rw [hentry] at hs'
        cases hs'
        rwa [Service.dispatched, ← Service.containsFunctionAtOrdinal_eq]
      rw [data, hposted.invoker]
      exact hoffers.step hserving.sound hg hf
  contiguous := contiguous_step h.contiguous hg hf
  stopped hstopped := by
    refine waitsForManagers_step hf ?_
    rcases fire_stopped hf with hsame | rfl
    · exact h.stopped (hsame.symm.trans hstopped)
    · simp only [enabled, Bool.and_eq_true, decide_eq_true_eq] at hg
      exact hstaged.point (by rw [tearsDown, hg.1])

end Pooled

theorem init_pooled (sourceType : SourceConnectionType)
    (backendType : DestinationConnectionType) : Pooled (init sourceType backendType) where
  isSealed _ hc := absurd rfl hc.busy
  cookie _ hc := absurd rfl hc.busy
  offered _ hc := absurd rfl hc.busy
  contiguous hs := Bool.noConfusion hs
  stopped hs := Bool.noConfusion hs

/-! ## A back end that serves -/

/-- **The invariant of every run.** -/
structure Attended (w : World) : Prop where
  serving : Serving w
  store : StoreSound w
  staged : Staged w
  pooled : Pooled w

theorem Attended.step (h : Attended w) (hg : w.enabled l = true) (hf : fire codec w l = .ok w') :
    Attended w' :=
  ⟨h.serving.step hg hf, h.store.step hg hf, h.staged.step h.serving.sound.registry hg hf,
    h.pooled.step h.serving h.staged hg hf⟩

theorem init_attended (sourceType : SourceConnectionType)
    (backendType : DestinationConnectionType) : Attended (init sourceType backendType) :=
  ⟨init_serving _ _, init_storeSound _ _, init_staged _ _, init_pooled _ _⟩

/-- No shutdown has come to wait for the managers, so that no service was reset. -/
structure Lasting (w : World) : Prop extends Attended w where
  notWaiting : ¬w.waitsForManagers

/-- The steps of the clients keep it so. -/
theorem Lasting.step_client (h : Lasting w) (hl : l.client = some c) (hg : w.enabled l = true)
    (hf : fire codec w l = .ok w') : Lasting w' := by
  refine ⟨h.toAttended.step hg hf, fun hwaits => h.notWaiting ?_⟩
  exact (fire_sameControl hl hf).shutdownState.symm.trans hwaits

/-- A back end with a request under way lasts, unless requests were let in again. -/
theorem Attended.lasting (h : Attended w) (hclosed : Closed w) (hc : w.stage c ≠ .idle) :
    Lasting w :=
  ⟨h, fun hwaits => hc (hclosed.idle hwaits c)⟩

/-- Neither type of the back end is ever written. -/
theorem types_step (h : Serving w) (hg : w.enabled l = true) (hf : fire codec w l = .ok w') :
    w'.backEnd.sourceType = w.backEnd.sourceType ∧
      w'.backEnd.backendType = w.backEnd.backendType := by
  cases hl : l.client with
  | some c =>
    have hsame := fire_sameControl hl hf
    exact ⟨hsame.sourceType, hsame.backendType⟩
  | none =>
    cases hsig : l.signals with
    | false => exact fire_types hl hsig hf
    | true =>
      obtain ⟨reply, rfl⟩ := Label.signals_eq_true hsig
      simp only [enabled, Bool.and_eq_true, decide_eq_true_eq] at hg
      have hd := signalStage_departed h.sound.registry h.fits hg.2 hf
      exact ⟨hd.sourceType, hd.backendType⟩

namespace Lasting

/-- **A started back end is up.** -/
theorem up (h : Lasting w) (hsealed : w.backEnd.isSealed = true) : w.backEnd.Up :=
  .of_started h.store.registry h.store.activated hsealed (h.pooled.contiguous hsealed)
    fun o ho => h.notWaiting (h.staged.reset o ho)

/-- The services of a started back end stay. -/
theorem services_step (h : Lasting w) (hsealed : w.backEnd.isSealed = true)
    (hg : w.enabled l = true) (hf : fire codec w l = .ok w') :
    w'.backEnd.services = w.backEnd.services := by
  cases hl : l.client with
  | some c => exact (fire_sameControl hl hf).services
  | none =>
    rcases fire_services_server hl hf with hsame | ⟨s, rfl⟩ | rfl
    · exact hsame
    · cases hf
      exact congrArg BackEnd.services (registerAndInitService_sealed hsealed)
    · refine absurd (h.staged.point ?_) h.notWaiting
      simp only [enabled] at hg
      rw [tearsDown]
      split at hg
      · rename_i i hp
        rw [hp]
      · cases hg

/-- **What the pool finds** of a request. -/
theorem dispatchable (h : Lasting w) (hc : w.inPool c) :
    Dispatchable c w.backEnd (w.invokers c) := by
  have hsound := h.serving.sound
  have haddressed := hsound.gated.addressed c hc
  refine ⟨haddressed, h.pooled.cookie c hc, ?_, fun hne => ?_, hsound.gated.established c hc⟩
  · obtain ⟨e, he, hfn⟩ := h.pooled.offered c hc
    have hat : w.backEnd.serviceAt (w.invokers c).service = some e.entry := by
      rw [serviceAt_eq, he]
      rfl
    cases hentry : e.entry with
    | none =>
      rw [hentry] at hat
      exact absurd (h.staged.reset _ hat) h.notWaiting
    | some s =>
      rw [hentry] at hat
      obtain ⟨f, hf⟩ := Option.isSome_iff_exists.mp (hfn s hentry)
      exact ⟨s, f, hat, hsound.registry.typed _ s hat, hf⟩
  · rw [haddressed]
    refine ClientServiceCookies.isSome_of_isSubscribed (h.serving.underway.subscribed c hc ?_)
    intro hzero
    rw [haddressed, hzero] at hne
    exact hne rfl

end Lasting

/-! ## Requests that strand -/

/-- The request of `c` is one that no dispatch ends. -/
def stranded (codec : BasicProtocolCodec) (w : World) (c : ClientPtr) : Bool :=
  w.backEnd.strands codec (w.data c).request

theorem strands_congr {b b' : BackEnd} (r : ClientRequest) (hservices : b'.services = b.services)
    (hsource : b'.sourceType = b.sourceType) (hbackend : b'.backendType = b.backendType) :
    b'.strands codec r = b.strands codec r := by
  have hlists : b'.listsHole codec r.requestString = b.listsHole codec r.requestString := by
    unfold listsHole serviceAt
    rw [hservices]
  have hest : b'.establishes codec r.requestString = b.establishes codec r.requestString := by
    unfold establishes
    rw [hsource, hbackend]
  rw [strands, strands, hlists, hest]

namespace Lasting

/-- **A dispatch returns**, exactly where its request does not strand. -/
theorem run_ok_iff (h : Lasting w) (hst : w.stage c = .running) (reply : ServiceReply) :
    (∃ w', fire codec w (.run c reply) = .ok w') ↔ w.stranded codec c = false := by
  have hc : w.inPool c := .inr hst
  have hrun : (∃ out, w.backEnd.runPosted codec c reply (w.invokers c) = .ok out) ↔
      w.stranded codec c = false :=
    runPosted_ok_iff (h.up (h.pooled.isSealed c hc)) (h.dispatchable hc)
  refine Iff.trans ⟨fun ⟨w', hf⟩ => ?_, fun ⟨⟨b, i⟩, hout⟩ => ?_⟩ hrun
  · obtain ⟨b, i, hout, -⟩ := stepInvoker_ok.mp hf
    exact ⟨_, hout⟩
  · exact ⟨_, stepInvoker_ok.mpr ⟨b, i, hout, rfl⟩⟩

/-- Whether a request strands does not change while the back end serves. -/
theorem stranded_step (h : Lasting w) (hsealed : w.backEnd.isSealed = true)
    (hg : w.enabled l = true) (hf : fire codec w l = .ok w') (hdata : w'.data c = w.data c) :
    w'.stranded codec c = w.stranded codec c := by
  obtain ⟨hsource, hbackend⟩ := types_step h.serving hg hf
  rw [stranded, stranded, hdata]
  exact strands_congr _ (h.services_step hsealed hg hf) hsource hbackend

/-- A pool thread takes a posted request. -/
theorem take_total (codec : BasicProtocolCodec) (h : Lasting w) (hst : w.stage c = .posted) :
    w.enabled (.take c) = true ∧ ∃ w', fire codec w (.take c) = .ok w' ∧
      w'.stage c = .running ∧ w'.data c = w.data c := by
  have hc : w.inPool c := .inl hst
  have hstopped : w.backEnd.ioService.stopped = false := by
    cases hs : w.backEnd.ioService.stopped with
    | false => rfl
    | true => exact absurd (h.pooled.stopped hs) h.notWaiting
  refine ⟨?_, _, rfl, stage_setInvoker_self _, ?_⟩
  · simp only [enabled, h.pooled.isSealed c hc, hstopped, hst, Bool.not_false, Bool.and_self,
      decide_true]
  · rw [data, setInvoker_self]
    rfl

/-- **A step of a client** returns on a started back end, unless it is a dispatch that strands. -/
theorem fire_total (h : Lasting w) (hsealed : w.backEnd.isSealed = true) (hl : l.client = some c)
    (hg : w.enabled l = true) (hno : ∀ reply, l = .run c reply → w.stranded codec c = false) :
    ∃ w', fire codec w l = .ok w' := by
  have hstep : ∀ f : BackEnd → Invoker → Except Fault (BackEnd × Invoker),
      (∃ out, f w.backEnd (w.invokers c) = .ok out) → ∃ w', stepInvoker c f w = .ok w' := by
    rintro f ⟨⟨b, i⟩, hout⟩
    exact ⟨_, stepInvoker_ok.mpr ⟨b, i, hout, rfl⟩⟩
  cases l <;> cases hl
  case connect fresh => exact ⟨_, rfl⟩
  case disconnect reply =>
    simp only [enabled, Bool.and_eq_true, decide_eq_true_eq] at hg
    obtain ⟨⟨b, cd⟩, hout⟩ := disconnect_total (h.up hsealed) reply hg.1 (w.data c)
    simp only [fire, World.disconnect]
    refine hstep _ ⟨(b, { w.invokers c with clientData := cd }), ?_⟩
    show (w.backEnd.disconnect c reply (w.data c) >>= _) = _
    rw [hout]
    rfl
  case request resets r => exact h.serving.sound.accounted.request_total codec hg
  case check => exact hstep _ (checkRequest_total (h.up hsealed) codec c (w.invokers c))
  case take => exact ⟨_, rfl⟩
  case run reply => exact (h.run_ok_iff (of_decide_eq_true hg) reply).mpr (hno reply rfl)
  case finish => exact h.serving.sound.accounted.finish_total codec hg

end Lasting

/-! ## The end of a request -/

/-- The request of `c` is posted, runs or has run. -/
def dispatching (w : World) (c : ClientPtr) : Prop := w.inPool c ∨ w.stage c = .ran

theorem dispatching.busy (h : w.dispatching c) : w.stage c ≠ .idle := by
  rcases h with h | h
  · exact h.busy
  · rw [h]
    exact Stage.noConfusion

/-- What is left to do of a request that was posted. -/
def rest (w : World) (c : ClientPtr) (reply : ServiceReply) : List Label :=
  match w.stage c with
  | .posted => [.take c, .run c reply, .finish c]
  | .running => [.run c reply, .finish c]
  | .ran => [.finish c]
  | _ => []

/-- What is left to do of the request of `c` can be done, where its service replies so: it ends the
request once, and leaves the client without one and the count lower by one. -/
def EndsWith (codec : BasicProtocolCodec) (c : ClientPtr) (reply : ServiceReply) (w : World) :
    Prop :=
  ∃ tr w', (backEndMachine codec).Run w tr (.ok w') ∧ tr.map Prod.snd = w.rest c reply ∧
    tr.countP (ofClient c ends) = 1 ∧ w'.stage c = .idle ∧ (w'.data c).rpcActive = false ∧
    w'.state.activeRpcCount = w.state.activeRpcCount - 1

/-- **The request of `c` ends once**, whatever its service replies. -/
def EndsOnce (codec : BasicProtocolCodec) (c : ClientPtr) (w : World) : Prop :=
  ∀ reply, EndsWith codec c reply w

/-- One of the steps that are left. -/
theorem EndsWith.cons {reply : ServiceReply} {w₁ : World} (hg : w.enabled l = true)
    (hf : fire codec w l = .ok w₁) (hrest : w.rest c reply = l :: w₁.rest c reply)
    (hstarts : starts (w, l) = false) (hends : ends (w, l) = false)
    (h : EndsWith codec c reply w₁) : EndsWith codec c reply w := by
  obtain ⟨tr, w', hrun, hlabels, hone, hidle, hactive, hcount⟩ := h
  refine ⟨(w, l) :: tr, w', .step hg hf hrun, ?_, ?_, hidle, hactive, ?_⟩
  · rw [List.map_cons, hlabels, hrest]
  · rw [List.countP_cons_of_neg]
    · exact hone
    · rw [ofClient, hends, Bool.and_false]
      exact Bool.false_ne_true
  · have hkept := fire_count hg hf
    rw [hstarts, hends] at hkept
    simp only [Bool.toNat_false, Nat.cast_zero] at hkept
    omega

namespace Lasting

/-- A request that has run ends. -/
theorem ends_ran (h : Lasting w) (hst : w.stage c = .ran) : EndsOnce codec c w := by
  intro reply
  have hg : w.enabled (.finish c) = true := by
    simp only [enabled, hst, decide_true, Bool.or_true]
  obtain ⟨w', hf⟩ := h.serving.sound.accounted.finish_total codec hg
  obtain ⟨-, heq⟩ := finish_ok hf
  refine ⟨[(w, .finish c)], w', .step hg hf (.done w'), ?_, ?_, ?_, ?_, ?_⟩
  · rw [rest, hst]
    rfl
  · rw [List.countP_singleton, ofClient_of_eq rfl]
    rfl
  · rw [heq, stage_setInvoker_self]
  · rw [heq, data, setInvoker_self]
  · have hcount := fire_count hg hf
    simp only [starts, ends, Bool.toNat_false, Bool.toNat_true, Nat.cast_zero, Nat.cast_one]
      at hcount
    omega

/-- A request that runs ends, unless it strands. -/
theorem ends_running (h : Lasting w) (hst : w.stage c = .running)
    (hends : w.stranded codec c = false) : EndsOnce codec c w := by
  intro reply
  have hg : w.enabled (.run c reply) = true := decide_eq_true hst
  obtain ⟨w₁, hf⟩ := (h.run_ok_iff hst reply).mpr hends
  have hran : w₁.stage c = .ran := by
    have hstep := fire_stageStep c hg hf
    rw [hst] at hstep
    generalize w₁.stage c = s at hstep
    cases hstep with
    | other _ hl => exact absurd rfl hl
    | run => rfl
  refine .cons hg hf ?_ rfl rfl ((h.step_client rfl hg hf).ends_ran hran reply)
  rw [rest, rest, hst, hran]

/-- A posted request ends, unless it strands. -/
theorem ends_posted (h : Lasting w) (hst : w.stage c = .posted)
    (hends : w.stranded codec c = false) : EndsOnce codec c w := by
  intro reply
  obtain ⟨hg, w₁, hf, hrunning, hdata⟩ := h.take_total codec hst
  have hends₁ := (h.stranded_step (h.pooled.isSealed c (.inl hst)) hg hf hdata).trans hends
  refine .cons hg hf ?_ rfl rfl ((h.step_client rfl hg hf).ends_running hrunning hends₁ reply)
  rw [rest, rest, hst, hrunning]

/-- **A request that was posted ends**, exactly if it does not strand. -/
theorem endsOnce_iff (h : Lasting w) (hc : w.dispatching c) :
    EndsOnce codec c w ↔ (w.inPool c → w.stranded codec c = false) := by
  constructor
  · rintro hends (hst | hst) <;> obtain ⟨tr, w', hrun, hlabels, -⟩ := hends {} <;>
      rw [rest, hst] at hlabels
    · obtain ⟨-, w₁, tr₁, hf, hrun₁, hlabels₁⟩ := hrun.uncons_label hlabels
      obtain ⟨-, w₂, -, hf₂, -⟩ := hrun₁.uncons_label hlabels₁
      obtain ⟨hg, w₁', hf', hrunning, hdata⟩ := h.take_total codec hst
      have hf₁ : fire codec w (.take c) = .ok w₁ := hf
      rw [hf₁] at hf'
      cases hf'
      rw [← h.stranded_step (h.pooled.isSealed c (.inl hst)) hg hf₁ hdata]
      exact ((h.step_client rfl hg hf₁).run_ok_iff hrunning {}).mp ⟨w₂, hf₂⟩
    · obtain ⟨-, w₁, -, hf, -⟩ := hrun.uncons_label hlabels
      exact (h.run_ok_iff hst {}).mp ⟨w₁, hf⟩
  · intro hends
    rcases hc with (hst | hst) | hst
    · exact h.ends_posted hst (hends (.inl hst))
    · exact h.ends_running hst (hends (.inr hst))
    · exact h.ends_ran hst

end Lasting

/-! ## The runs in which all requests end -/

/-- A check lets a request through that no dispatch ends. -/
def PostsStranded (codec : BasicProtocolCodec) (p : World × Label) : Prop :=
  ∃ c, p.2 = .check c ∧ p.1.backEnd.isSealed = true ∧ Admitted c p.1.backEnd (p.1.data c) ∧
    p.1.stranded codec c = true

/-- No request in the pool strands. -/
def NoneStranded (codec : BasicProtocolCodec) (w : World) : Prop :=
  ∀ c, w.inPool c → w.stranded codec c = false

/-- What holds in the runs in which a shutdown that has stopped the requests lets none in again. -/
structure Attending (w : World) : Prop where
  attended : Attended w
  closed : Closed w

theorem Attending.step (h : Attending w) (hno : w.requestsStopped = true → w.reopens l = false)
    (hg : w.enabled l = true) (hf : fire codec w l = .ok w') : Attending w' :=
  ⟨h.attended.step hg hf,
    h.closed.step h.attended.serving.sound.accounted hno hg hf⟩

theorem Attending.lasting (h : Attending w) (hc : w.stage c ≠ .idle) : Lasting w :=
  h.attended.lasting h.closed hc

theorem init_attending (sourceType : SourceConnectionType)
    (backendType : DestinationConnectionType) : Attending (init sourceType backendType) := by
  have hrun : (backEndMachine basicProtocolCodec).Run (init sourceType backendType) []
      (.ok (init sourceType backendType)) := .done _
  obtain ⟨-, hend⟩ := run_closed hrun fun p hp => absurd hp List.not_mem_nil
  exact ⟨init_attended _ _, (hend _ rfl).2.2⟩

/-- A request that was let through is of a started back end, and was admitted. -/
theorem JustPosted.strands (hw : Attending w) (hg : w.enabled (.check c) = true)
    (hf : fire codec w (.check c) = .ok w') (h : JustPosted codec c w w') :
    PostsStranded codec (w, .check c) ↔ w'.stranded codec c = true := by
  have hsealed := sealed_of_cookie hw.attended.serving.sound.registry h.cookie.choose_spec
  obtain ⟨hsource, hbackend⟩ := types_step hw.attended.serving hg hf
  have hsame : w'.stranded codec c = w.stranded codec c := by
    rw [stranded, stranded, data, h.invoker]
    exact strands_congr _ (fire_sameControl (c := c) rfl hf).services hsource hbackend
  rw [hsame]
  constructor
  · rintro ⟨c', hl, -, -, hs⟩
    cases hl
    exact hs
  · exact fun hs => ⟨c, rfl, hsealed, h.admitted, hs⟩

theorem NoneStranded.step (h : NoneStranded codec w) (hw : Attending w)
    (hno : ¬PostsStranded codec (w, l)) (hg : w.enabled l = true)
    (hf : fire codec w l = .ok w') : NoneStranded codec w' := by
  intro c hc
  rcases inPool_step hw.attended.serving hg hf hc with ⟨hpool, hdata, -⟩ | ⟨rfl, hposted⟩
  · rw [(hw.lasting hpool.busy).stranded_step (hw.attended.pooled.isSealed c hpool) hg hf hdata]
    exact h c hpool
  · rw [← Bool.not_eq_true, ← hposted.strands hw hg hf]
    exact hno

/-- A check of a started back end that lets a request through posts it. -/
theorem Lasting.check_posts (codec : BasicProtocolCodec) (h : Lasting w)
    (hsealed : w.backEnd.isSealed = true) (hadm : Admitted c w.backEnd (w.data c)) :
    ∃ w', fire codec w (.check c) = .ok w' ∧ w'.stage c = .posted ∧ w'.data c = w.data c := by
  obtain ⟨⟨b, i⟩, hcheck⟩ := checkRequest_total (h.up hsealed) codec c (w.invokers c)
  refine ⟨_, stepInvoker_ok.mpr ⟨b, i, hcheck, rfl⟩, ?_⟩
  rw [stage_setInvoker_self, data, setInvoker_self]
  obtain ⟨cs, -, -, ⟨hrej, -⟩ | ⟨-, -, rfl⟩⟩ := checkRequest_ok hcheck
  · exact absurd hadm (checkRequest_rejected hcheck hrej).1
  · exact ⟨rfl, rfl⟩

/-- **The requests of a run end, exactly** if none that strands was posted. -/
theorem ends_iff {sourceType : SourceConnectionType} {backendType : DestinationConnectionType}
    {tr : List (World × Label)} {r : Except Fault World}
    (h : (backEndMachine codec).Run (init sourceType backendType) tr r)
    (hno : ∀ p ∈ tr, p.1.requestsStopped = true → p.1.reopens p.2 = false) :
    Machine.Always (fun w => ∀ c, w.dispatching c → EndsOnce codec c w) tr r ↔
      ∀ p ∈ tr, ¬PostsStranded codec p := by
  have hatt : Machine.Always Attending tr r :=
    h.invariant (C := fun w l => w.requestsStopped = true → w.reopens l = false)
      (fun _ _ _ hw hno hg hf => hw.step hno hg hf) (init_attending _ _) hno
  constructor
  · rintro hends ⟨w, l⟩ hp hposts
    obtain ⟨c, hl, hsealed, hadm, -⟩ := id hposts
    dsimp only at hl hsealed hadm
    subst hl
    have hw := hatt.1 _ hp
    have hg : w.enabled (.check c) = true := h.guard _ hp
    have hst : w.stage c = .accepted := of_decide_eq_true hg
    have hbusy : w.stage c ≠ .idle := by rw [hst]; exact Stage.noConfusion
    obtain ⟨w', hf, hst', -⟩ := (hw.lasting hbusy).check_posts codec hsealed hadm
    have hpool : w'.inPool c := .inl hst'
    rcases inPool_step hw.attended.serving hg hf hpool with ⟨hpool', -⟩ | ⟨-, hposted⟩
    · rcases hpool' with heq | heq <;> rw [hst] at heq <;> cases heq
    · have hlasting := (h.always_next hatt hp hf).lasting hpool.busy
      have hends' := (hlasting.endsOnce_iff (.inl hpool)).mp
        (h.always_next hends hp hf c (.inl hpool)) hpool
      rw [(hposted.strands hw hg hf).mp hposts] at hends'
      cases hends'
  · intro hposts
    have hall := h.invariant (I := fun w => Attending w ∧ NoneStranded codec w)
      (C := fun w l => (w.requestsStopped = true → w.reopens l = false) ∧
        ¬PostsStranded codec (w, l))
      (fun _ _ _ hw hC hg hf => ⟨hw.1.step hC.1 hg hf, hw.2.step hw.1 hC.2 hg hf⟩)
      ⟨init_attending _ _, fun c hc => absurd rfl hc.busy⟩ fun p hp => ⟨hno p hp, hposts p hp⟩
    have hends : ∀ w, Attending w ∧ NoneStranded codec w →
        ∀ c, w.dispatching c → EndsOnce codec c w := by
      rintro w ⟨hw, hnone⟩ c hc
      exact ((hw.lasting hc.busy).endsOnce_iff hc).mpr (hnone c)
    exact ⟨fun p hp => hends _ (hall.1 p hp), fun w hw => hends _ (hall.2 w hw)⟩

/-! ## The accounting of a run -/

/-- The requests of a run are accounted for: the account is right in the state it leads to, and in
all its states what was posted ends once. -/
structure RequestsAccounted (codec : BasicProtocolCodec) (tr : List (World × Label))
    (r : Except Fault World) : Prop where
  account : ∀ w, r = .ok w → RequestAccount codec tr w
  ends : Machine.Always (fun w => ∀ c, w.dispatching c → EndsOnce codec c w) tr r

/-- **The accounting of the requests.**  In every run the account of the requests is right.  And in
every run in which a shutdown that has stopped the requests lets none in again, what `invoke` posts
ends once, whatever the other clients do, exactly if nothing that strands is posted. -/
theorem request_accounting (codec : BasicProtocolCodec) (sourceType : SourceConnectionType)
    (backendType : DestinationConnectionType) {tr : List (World × Label)} {r : Except Fault World}
    (h : (backEndMachine codec).Run (init sourceType backendType) tr r) :
    (∀ w, r = .ok w → RequestAccount codec tr w) ∧
      ((∀ p ∈ tr, p.1.requestsStopped = true → p.1.reopens p.2 = false) →
        (RequestsAccounted codec tr r ↔ ∀ p ∈ tr, ¬PostsStranded codec p)) := by
  have haccount : ∀ w, r = .ok w → RequestAccount codec tr w := by
    rintro w rfl
    exact run_requestAccount codec sourceType backendType h
  refine ⟨haccount, fun hno => ⟨fun hall => ?_, fun hposts => ⟨haccount, ?_⟩⟩⟩
  · exact (ends_iff h hno).mp hall.ends
  · exact (ends_iff h hno).mpr hposts

/-- The check of a request that strands. -/
def checksStranded (codec : BasicProtocolCodec) (p : World × Label) : Bool :=
  match p.2 with
  | .check c => p.1.stranded codec c
  | _ => false

theorem PostsStranded.checks {p : World × Label} (h : PostsStranded codec p) :
    checksStranded codec p = true := by
  obtain ⟨c, hl, -, -, hstranded⟩ := h
  rw [checksStranded, hl]
  exact hstranded

/-- A hello is served, and the request that follows it is posted. -/
def samplePosted (r : ClientRequest) : List Label :=
  startUp 7 ++ serve 7 ⟨0, 0, sampleHello⟩ {} ++ [.request 7 true r, .check 7]

/-- A client lists the services. -/
theorem request_accounting_sample : ∃ tr w, w.stage 7 = .posted ∧
    RequestsAccounted basicProtocolCodec tr (.ok w) := by
  let m := backEndMachine basicProtocolCodec
  obtain ⟨w, heq, hrun⟩ := m.exec_run_ok (init .sourceRelay .targetMarshall)
    (samplePosted ⟨0, 1, []⟩) (by decide +kernel) (by decide +kernel)
  have hst : (m.exec (init .sourceRelay .targetMarshall)
      (samplePosted ⟨0, 1, []⟩)).2.toOption.map (·.stage 7) = some .posted := by decide +kernel
  rw [heq] at hst
  have hall : (m.exec (init .sourceRelay .targetMarshall)
      (samplePosted ⟨0, 1, []⟩)).1.all (fun p => !(p.1.requestsStopped && p.1.reopens p.2) &&
        !checksStranded basicProtocolCodec p) = true := by
    decide +kernel
  have hp := List.all_eq_true.mp hall
  refine ⟨_, w, Option.some.inj hst, ((request_accounting _ _ _ hrun).2 fun p hmem hs => ?_).mpr
    fun p hmem hposts => ?_⟩
  · have := hp p hmem
    rw [hs] at this
    simp only [Bool.true_and, Bool.and_eq_true, Bool.not_eq_true'] at this
    exact this.1
  · have := hp p hmem
    rw [hposts.checks] at this
    simp at this

/-- **The request `(0, 65536)` of an established client never ends.** -/
theorem request_never_ends : ¬ ∀ (codec : BasicProtocolCodec) (sourceType : SourceConnectionType)
    (backendType : DestinationConnectionType) (tr : List (World × Label))
    (r : Except Fault World), codec.Lawful →
    (backEndMachine codec).Run (init sourceType backendType) tr r → StaysShut tr →
      RequestsAccounted codec tr r := by
  intro h
  let m := backEndMachine basicProtocolCodec
  obtain ⟨w, hrun, hobs⟩ := m.exec_observed (init .sourceRelay .targetMarshall)
    (samplePosted ⟨0, 65536, sampleHello⟩)
    (fun w => (w.stage 7, (m.exec w [.take 7, .run 7 {}]).2.toOption.isSome))
    (a := (.posted, false)) (by decide +kernel) (by decide +kernel)
  obtain ⟨hst, hfaults⟩ := Prod.ext_iff.mp hobs
  have hshut : StaysShut (m.exec (init .sourceRelay .targetMarshall)
      (samplePosted ⟨0, 65536, sampleHello⟩)).1 := staysShut_iff.mp (by decide +kernel)
  have hends := (h _ _ _ _ _ basicProtocolCodec_lawful hrun hshut).ends.2 w rfl 7 (.inl (.inl hst))
  obtain ⟨tr, w', hrest, hlabels, -⟩ := hends {}
  rw [rest, show w.stage 7 = .posted from hst] at hlabels
  obtain ⟨-, w₁, tr₁, hf, hrest, hlabels⟩ := hrest.uncons_label hlabels
  obtain ⟨-, w₂, tr₂, hf', -⟩ := hrest.uncons_label hlabels
  simp only [Machine.exec, m, hf, hf'] at hfaults
  cases hfaults

end World

end RblRpc
