import RblRpc.Backend.CookieObjects
import RblRpc.Backend.Establishment

/-!
# The life of a subscription

A subscription is opened by a `subscribe` that is accepted and closed by `unsubscribe`, by
`disconnect`, and by the managers a shutdown signals.  The shutdown goes on to the teardown whether
or not the managers have disconnected.

* `Tracked` — the history of the calls says what is open.
* `Settled` — nothing is open past the test of the managers.
* `SubscriptionLifecycle` — what the subscriptions and the cookie objects of a run satisfy.
* `subscription_lifecycle` — **it holds of every run whose tests find no manager connected, or no
  subscription open.**
-/

namespace RblRpc

open Transition Pairing BackEnd

namespace World

variable {codec : BasicProtocolCodec} {w w' : World} {c : ClientPtr} {l : Label}

/-- No service but `basic_protocol` has a subscription open. -/
def NoneOpen (w : World) : Prop := ∀ s c, 1 ≤ s → w.backEnd.openSubscription s c = none

/-- The history of the calls on the services says what is open. -/
def Tracked (w : World) : Prop :=
  ∀ s c, Paired none (subscriptions s c w.backEnd.calls) (w.backEnd.openSubscription s c)

theorem Tracked.step (h : Tracked w) (hsound : Sound w) (hfits : FitsOrdinals w)
    (hg : w.enabled l = true) (hf : fire codec w l = .ok w') : Tracked w' := by
  intro s c
  obtain ⟨calls, heq, hpaired⟩ := fire_tracks hsound hfits hg hf
  rw [heq, subscriptions_append]
  exact (h s c).append (hpaired s c)

/-- There is no cookie past the last service, and none before `start`. -/
theorem openSubscription_eq_none (hreg : RegistrySound w.backEnd) {s : ℕ}
    (h : w.backEnd.isSealed = false ∨ w.backEnd.services.size ≤ s) (c : ClientPtr) :
    w.backEnd.openSubscription s c = none := by
  have hlen : w.backEnd.clientServiceCookies.serviceCookieVector.length ≤ s := by
    cases hs : w.backEnd.isSealed with
    | false =>
      have hzero := hreg.unsealed hs
      omega
    | true =>
      have hsize := hreg.isSealed hs
      rcases h with hun | hle
      · exact absurd (hs.symm.trans hun) (by decide)
      · omega
  rw [openSubscription, ClientServiceCookies.isSubscribed,
    ClientServiceCookies.lookup_of_length_le hlen]
  rfl

theorem openSubscription_eq_none_iff {b : BackEnd} {s : ℕ} {c : ClientPtr} :
    b.openSubscription s c = none ↔ b.clientServiceCookies.isSubscribed s c = false := by
  rw [openSubscription]
  cases b.clientServiceCookies.isSubscribed s c <;> simp

/-! ## What the teardown finds open -/

theorem closes_none {b b' : BackEnd} {S : Set (ClientPtr × ℕ)} (h : Closes S b b') {s : ℕ}
    (hnone : b.openSubscription s c = none) : b'.openSubscription s c = none := by
  obtain ⟨calls, -, hclose⟩ := h
  by_cases hcs : (c, s) ∈ S
  · exact ((hclose s c).1 hcs).2
  · exact ((hclose s c).2 hcs).2.trans hnone

theorem noneOpen_step_client (hfits : FitsOrdinals w) (hl : l.client = some c)
    (hrun : ∀ reply, l ≠ .run c reply) (hf : fire codec w l = .ok w') {s : ℕ} {k : ClientPtr}
    (h : w.backEnd.openSubscription s k = none) : w'.backEnd.openSubscription s k = none := by
  cases l <;> cases hl
  case connect fresh =>
    cases hf
    cases fresh <;> exact h
  case disconnect reply => exact closes_none (disconnect_world_closes hfits hf) h
  case request resets r =>
    obtain ⟨b, i, rfl, -, -, ⟨-, -, rfl, -⟩ | ⟨-, rfl, -⟩⟩ := request_ok hf <;> exact h
  case check =>
    obtain ⟨b, i, hc, rfl⟩ := stepInvoker_ok.mp hf
    obtain ⟨cs, -, hsub, ⟨-, rfl, -⟩ | ⟨-, rfl, -⟩⟩ := checkRequest_ok hc <;>
      exact (openSubscription_congr (hsub s k)).trans h
  case take =>
    cases hf
    exact h
  case run reply => exact absurd rfl (hrun reply)
  case finish =>
    obtain ⟨-, rfl⟩ := finish_ok hf
    exact h

/-- **Only a dispatch opens a subscription.** -/
theorem noneOpen_step (hsound : Sound w) (hfits : FitsOrdinals w)
    (hrun : ∀ c reply, l ≠ .run c reply) (hf : fire codec w l = .ok w') (h : NoneOpen w) :
    NoneOpen w' := by
  intro s k hs
  cases hl : l.client with
  | some c => exact noneOpen_step_client hfits hl (hrun c) hf (h s k hs)
  | none =>
    cases hsig : l.signals with
    | false =>
      rw [openSubscription_of_cookie (fire_lookup_server hsound.registry hl hsig hf s k)]
      exact h s k hs
    | true =>
      obtain ⟨reply, rfl⟩ := Label.signals_eq_true hsig
      obtain ⟨w₁, threw, hstage, rfl⟩ := signalStage_ok hf
      have hnone := closes_none (signalManagers_closes hfits hstage) (h s k hs)
      cases threw <;> exact hnone

theorem fire_stopped_server (hl : l.client = none) (hf : fire codec w l = .ok w') :
    w'.backEnd.ioService.stopped = w.backEnd.ioService.stopped ∨ l = .joinStage := by
  rcases fire_sameRecords hl hf with hsame | ⟨s, rfl⟩ | rfl | ⟨reply, rfl⟩ | rfl | rfl
  · exact .inl hsame.stopped
  · cases hf
    obtain ⟨services, ec, count, heq⟩ := registerAndInitService_writes s w.backEnd
    left
    simp only [setBackEnd_backEnd, heq]
  · obtain ⟨b, e, hs, rfl⟩ := start_ok hf
    obtain ⟨-, ⟨-, rfl, -⟩ | ⟨-, -, -, cs₀, cs, -, -, rfl⟩⟩ := BackEnd.start_ok hs <;>
      exact .inl rfl
  · obtain ⟨w₁, threw, hs, rfl⟩ := signalStage_ok hf
    have hsame : w₁.backEnd.ioService.stopped = w.backEnd.ioService.stopped := by
      refine signalManagers_rule (I := fun w' => w'.backEnd.ioService.stopped =
        w.backEnd.ioService.stopped) ?_ ?_ hs rfl
      · rintro w₁ w₂ hI m - p - hd
        exact (disconnect_sameControl hd).stopped.trans hI
      · rintro w₁ hI m -
        exact hI
    cases threw <;> exact .inl hsame
  · exact .inr rfl
  · obtain ⟨services, ec, calls, p, r, rfl⟩ := teardownStage_writes hf
    exact .inl rfl

/-- Only the join stops the pool. -/
theorem fire_stopped (hf : fire codec w l = .ok w') :
    w'.backEnd.ioService.stopped = w.backEnd.ioService.stopped ∨ l = .joinStage := by
  cases hl : l.client with
  | some c => exact .inl (fire_sameControl hl hf).stopped
  | none => exact fire_stopped_server hl hf

/-- **The invariant of the test of the managers**: the pool is stopped after it, and nothing is
open after it. -/
structure Settled (w : World) : Prop where
  stopped : w.backEnd.ioService.stopped = true → w.waitsForManagers
  closed : w.tearsDown = true ∨ w.backEnd.ioService.stopped = true → NoneOpen w

/-- The test of the managers finds none of them connected, or nothing open. -/
def TestedClosed (p : World × Label) : Prop :=
  p.2 = .managerStage → p.1.waitsForManagers → p.1.state.managerCount ≠ 0 → NoneOpen p.1

/-- The test of the managers, with a manager connected. -/
def testsManaged (w : World) : Label → Bool
  | .managerStage => decide (w.state.managerCount ≠ 0)
  | _ => false

theorem testedClosed_of_not_managed {p : World × Label} (h : p.1.testsManaged p.2 = false) :
    TestedClosed p := by
  intro hl _ hcount
  rw [hl] at h
  exact absurd hcount (of_decide_eq_false h)

/-- The test that finds no manager finds no client either. -/
theorem noneOpen_of_no_client (hsound : Sound w) (hfits : FitsOrdinals w)
    (hrun : w.backEnd.ioService.stopped = false) (h : w.backEnd.connectedClients = ∅) :
    NoneOpen w := by
  intro s c hs
  by_cases hsize : w.backEnd.services.size ≤ s
  · exact openSubscription_eq_none hsound.registry (.inr hsize) c
  · have hlt : s < 2 ^ 16 := by
      rw [FitsOrdinals] at hfits
      omega
    have hof : (UInt16.ofNat s).toNat = s := UInt16.toNat_ofNat_of_lt hlt
    have hne : UInt16.ofNat s ≠ 0 := by
      intro h0
      rw [h0] at hof
      have hzero : s = 0 := hof.symm
      omega
    rw [openSubscription_eq_none_iff]
    by_contra hsub
    have hadmits := hsound.gated.subscribed hrun _ hne c
      (by rw [hof]; exact (Bool.not_eq_false _).mp hsub)
    have hmem := hadmits.1
    rw [h] at hmem
    exact Finset.notMem_empty c hmem

theorem Settled.step (h : Settled w) (hsound : Sound w) (hfits : FitsOrdinals w)
    (hstaged : Staged w) (hclosed : Closed w) (htested : TestedClosed (w, l))
    (hg : w.enabled l = true) (hf : fire codec w l = .ok w') : Settled w' := by
  -- nothing is dispatched while the shutdown waits for the managers
  have hkeep : NoneOpen w → w.waitsForManagers → NoneOpen w' := by
    intro hnone hwaits
    refine noneOpen_step hsound hfits ?_ hf hnone
    rintro c reply rfl
    have hst : w.stage c = .running := of_decide_eq_true hg
    rw [hclosed.idle hwaits c] at hst
    cases hst
  have hjoin : l = .joinStage → w.tearsDown = true := by
    rintro rfl
    simp only [enabled, Bool.and_eq_true, decide_eq_true_eq] at hg
    rw [tearsDown, hg.1]
  constructor
  · intro hstop
    rcases fire_stopped hf with hsame | hl
    · exact waitsForManagers_step hf (h.stopped (hsame.symm.trans hstop))
    · exact waitsForManagers_step hf (hstaged.point (hjoin hl))
  · rintro (htear | hstop)
    · rcases fire_tearsDown hg hf htear with htear | ⟨hl, hwaits, -, hmanaged⟩
      · exact hkeep (h.closed (.inl htear)) (hstaged.point htear)
      · refine hkeep ?_ hwaits
        by_cases hcount : w.state.managerCount = 0
        · cases hrun : w.backEnd.ioService.stopped with
          | true => exact h.closed (.inr hrun)
          | false =>
            exact noneOpen_of_no_client hsound hfits hrun
              (hmanaged (List.length_eq_zero_iff.mp hcount))
        · exact htested hl hwaits hcount
    · rcases fire_stopped hf with hsame | hl
      · have hstop' := hsame.symm.trans hstop
        exact hkeep (h.closed (.inr hstop')) (h.stopped hstop')
      · exact hkeep (h.closed (.inl (hjoin hl))) (hstaged.point (hjoin hl))

theorem init_tracked (sourceType : SourceConnectionType) (backendType : DestinationConnectionType) :
    Tracked (init sourceType backendType) := by
  obtain ⟨services, ec, count, heq⟩ := registerAndInitService_writes basicProtocolService
    { sourceType := sourceType, backendType := backendType }
  intro s c
  rw [init, BackEnd.new, heq]
  exact .nil none

theorem init_settled (sourceType : SourceConnectionType) (backendType : DestinationConnectionType) :
    Settled (init sourceType backendType) := by
  have hrun : (init sourceType backendType).backEnd.ioService.stopped = false := by
    obtain ⟨services, ec, count, heq⟩ := registerAndInitService_writes basicProtocolService
      { sourceType := sourceType, backendType := backendType }
    rw [init, BackEnd.new, heq]
  constructor
  · intro hstop
    exact absurd (hrun.symm.trans hstop) Bool.false_ne_true
  · rintro (htear | hstop)
    · cases htear
    · exact absurd (hrun.symm.trans hstop) Bool.false_ne_true

/-- **What holds in every state of a run** whose tests find no manager, or nothing open. -/
structure Lifecycle (w : World) : Prop where
  sound : Sound w
  fits : FitsOrdinals w
  tracked : Tracked w
  settled : Settled w
  retired : Retired w

theorem run_lifecycle {sourceType : SourceConnectionType} {backendType : DestinationConnectionType}
    {tr : List (World × Label)} {r : Except Fault World}
    (h : (backEndMachine codec).Run (init sourceType backendType) tr r)
    (hno : ∀ p ∈ tr, p.1.requestsStopped = true → p.1.reopens p.2 = false)
    (htested : ∀ p ∈ tr, TestedClosed p) : Machine.Always Lifecycle tr r := by
  have hclosed := run_closed h hno
  have hretired := run_retired h hno
  have hfits : Machine.Always FitsOrdinals tr r :=
    ⟨fun p hp => fitsOrdinals_reaches (h.reaches hp),
      fun w hw => fitsOrdinals_reaches ⟨tr, hw ▸ h⟩⟩
  have hordered : Machine.Always (fun w => Tracked w ∧ Settled w) tr r := by
    refine h.invariant (C := fun w l => (Sound w ∧ Staged w ∧ Closed w) ∧ FitsOrdinals w ∧
      TestedClosed (w, l)) ?_ ⟨init_tracked _ _, init_settled _ _⟩ ?_
    · rintro w l w' ⟨htracked, hsettled⟩ ⟨⟨hsound, hstaged, hclosed⟩, hfits, htested⟩ hg hf
      exact ⟨htracked.step hsound hfits hg hf,
        hsettled.step hsound hfits hstaged hclosed htested hg hf⟩
    · intro p hp
      exact ⟨hclosed.1 p hp, hfits.1 p hp, htested p hp⟩
  constructor
  · intro p hp
    obtain ⟨htracked, hsettled⟩ := hordered.1 p hp
    exact ⟨(hclosed.1 p hp).1, hfits.1 p hp, htracked, hsettled, hretired.1 p hp⟩
  · intro w hw
    obtain ⟨htracked, hsettled⟩ := hordered.2 w hw
    exact ⟨(hclosed.2 w hw).1, hfits.2 w hw, htracked, hsettled, hretired.2 w hw⟩

/-! ## What a state says of its history -/

namespace Lifecycle

/-- Nothing is open while the pool does not run. -/
theorem noneOpen_of_running (h : Lifecycle w) (hrun : w.running = false) : NoneOpen w := by
  cases hs : w.backEnd.isSealed with
  | false =>
    intro s c _
    exact openSubscription_eq_none h.sound.registry (.inl hs) c
  | true =>
    apply h.settled.closed
    right
    rw [running, hs, Bool.true_and] at hrun
    simpa using hrun

/-- **A client that is gone after a step** had its subscriptions closed by it, with one call each. -/
theorem closes (h : Lifecycle w) (hf : fire codec w l = .ok w')
    (hin : c ∈ w.backEnd.connectedClients) (hout : c ∉ w'.backEnd.connectedClients) {s : ℕ}
    (hs : 1 ≤ s) : ∃ calls, w'.backEnd.calls = w.backEnd.calls ++ calls ∧
      subscriptions s c calls = ((w.backEnd.openSubscription s c).map Event.closed).toList := by
  obtain ⟨S, ⟨calls, heq, hclose⟩, hS⟩ := fire_closes h.fits hf hin hout
  refine ⟨calls, heq, ?_⟩
  by_cases hclean : s ∈ w.backEnd.cleaned
  · exact ((hclose s c).1 ((hS s).mpr hclean)).1
  · have hnone : w.backEnd.openSubscription s c = none := by
      cases hrun : w.running with
      | false => exact h.noneOpen_of_running hrun s c hs
      | true =>
        apply openSubscription_eq_none h.sound.registry
        by_contra hsize
        rw [not_or] at hsize
        exact hclean ⟨hrun, hs, by omega⟩
    rw [((hclose s c).2 fun hcs => hclean ((hS s).mp hcs)).1, hnone]
    rfl

/-- **Before a teardown every subscription is closed**, and after it there is none. -/
theorem teardown (h : Lifecycle w) {pre post : List ServiceCall} {i : ℕ}
    (hcalls : w.backEnd.calls = pre ++ .teardown i :: post) {s : ℕ} (hs : 1 ≤ s) (c : ClientPtr) :
    Paired none (subscriptions s c pre) none ∧ subscriptions s c post = [] := by
  have hpost : subscriptions s c post = [] := by
    have hpair := h.retired.calls
    rw [hcalls] at hpair
    obtain ⟨-, hlater, -⟩ := List.pairwise_append.mp hpair
    obtain ⟨hafter, -⟩ := List.pairwise_cons.mp hlater
    rw [subscriptions, List.filterMap_eq_nil_iff]
    intro call hcall
    have htear := hafter call hcall rfl
    cases call <;> first | rfl | cases htear
  have htorn : w.tornDown := ⟨i, by rw [hcalls]; simp⟩
  have hnone := h.noneOpen_of_running (h.retired.stopped (.inl htorn)) s c hs
  have hpaired := h.tracked s c
  have hnow : subscriptions s c [.teardown i] = [] := rfl
  rw [hcalls, ← List.singleton_append, subscriptions_append, subscriptions_append, hnow, hpost,
    hnone, List.append_nil, List.append_nil] at hpaired
  exact ⟨hpaired, hpost⟩

end Lifecycle

/-! ## What a request is answered -/

/-- `basic_protocol` has answered `e` to a request to subscribe or to unsubscribe. -/
def Answers (codec : BasicProtocolCodec) (request : ClientRequest) (response : ClientResponse)
    (e : ServiceSubscribeErrorType) : Prop :=
  response.getError = .requestSuccess ∧
    (requestedMethod request = some .rpcSubscribeService ∧
        (∃ res, codec.subscribeServiceResponse.parseFromString response.getResponseString =
          (true, res) ∧ res.getError = e) ∨
      requestedMethod request = some .rpcUnsubscribeService ∧
        ∃ res, codec.unsubscribeServiceResponse.parseFromString response.getResponseString =
          (true, res) ∧ res.getError = e)

/-- A response without an error holds what the method returned. -/
theorem runMethod_answer {I O : Type} {input : MessageCodec I} {output : MessageCodec O}
    {initialized : O → Bool} {impl : BackEnd → ClientData → I →
      Except Fault (BackEnd × ClientData × O)} {b b' : BackEnd} {cd cd' : ClientData} {res : O}
    (hlawful : output.Lawful initialized) (h : runMethod input output impl b cd = .ok (b', cd'))
    (hok : cd'.response.getError = .requestSuccess)
    (hparse : output.parseFromString cd'.response.getResponseString = (true, res)) :
    ∃ req cd₁, impl b cd req = .ok (b', cd₁, res) := by
  rcases runMethod_ok h with ⟨-, -, rfl⟩ | ⟨req, cd₁, res', -, himpl, rfl⟩
  · cases hok
  · refine ⟨req, cd₁, ?_⟩
    cases hout : output.serializeToString res' with
    | none =>
      rw [hout] at hok
      cases hok
    | some string =>
      rw [hout] at hparse
      have hparse' : output.parseFromString string = (true, res) := hparse
      cases hinit : initialized res' with
      | true =>
        obtain ⟨string', hs, hround⟩ := hlawful.roundTrip res' hinit
        rw [hout] at hs
        cases hs
        rw [hparse'] at hround
        cases hround
        exact himpl
      | false =>
        rcases hlawful.unset res' hinit with hs | ⟨string', hs, hfail⟩
        · rw [hout] at hs
          cases hs
        · rw [hout] at hs
          cases hs
          rw [hparse'] at hfail
          cases hfail

theorem error_of_answersWithoutCall {error : Option ServiceSubscribeErrorType}
    {e : ServiceSubscribeErrorType} (he : answersWithoutCall e = true)
    (h : error.getD .noSubscribeServiceError = e) : error = some e := by
  cases error with
  | none =>
    rw [Option.getD_none] at h
    subst h
    cases he
  | some e' => exact congrArg some h

theorem dispatchBasic_answer {reply : ServiceReply} {m : BasicMethod} {b b' : BackEnd}
    {cd cd' : ClientData} {e : ServiceSubscribeErrorType} (hlawful : codec.Lawful)
    (hm : requestedMethod cd.request = some m)
    (h : dispatchBasic codec c reply m b cd = .ok (b', cd')) (he : answersWithoutCall e = true)
    (hans : Answers codec cd.request cd'.response e) : b'.calls = b.calls := by
  obtain ⟨hok, ⟨hreq, res, hparse, herr⟩ | ⟨hreq, res, hparse, herr⟩⟩ := hans
  · cases hm.symm.trans hreq
    obtain ⟨req, cd₁, himpl⟩ := runMethod_answer hlawful.subscribeServiceResponse h hok hparse
    exact (rpcSubscribeService_tracks himpl).2 e (error_of_answersWithoutCall he herr) he
  · cases hm.symm.trans hreq
    obtain ⟨req, cd₁, himpl⟩ := runMethod_answer hlawful.unsubscribeServiceResponse h hok hparse
    exact (rpcUnsubscribeService_tracks himpl).2 e (error_of_answersWithoutCall he herr) he

/-- **A request answered with one of the two errors** is dispatched, and calls nothing else. -/
theorem runPosted_answer {reply : ServiceReply} {b b' : BackEnd} {i i' : Invoker}
    {e : ServiceSubscribeErrorType} (hlawful : codec.Lawful) (hreg : RegistrySound b)
    (hbasic : i.service = 0) (h : b.runPosted codec c reply i = .ok (b', i'))
    (he : answersWithoutCall e = true)
    (hans : Answers codec i.clientData.request i'.clientData.response e) :
    b'.calls = b.calls ++ [.dispatch 0 c] := by
  obtain ⟨service, cd', hservice, hd, rfl⟩ := runPosted_dispatch h
  rcases dispatch_cases hd with ⟨-, m, hm, hd⟩ | ⟨t, himpl, -⟩
  · rw [dispatchBasic_answer hlawful hm hd he hans, hbasic]
    rfl
  · have hbasic' := (hreg.typed _ _ hservice).mpr hbasic
    rw [himpl] at hbasic'
    cases hbasic'

/-! ## The property -/

/-- Every object that is created is deleted once, before the next one is created. -/
def DeletedOnce (es : List (Event ℕ)) : Prop :=
  Paired none es none ∧ ∀ object, es.count (.opened object) = es.count (.closed object)

theorem deletedOnce_of_paired {es : List (Event ℕ)} (h : Paired none es none) :
    DeletedOnce es := by
  refine ⟨h, fun object => ?_⟩
  have hcount := h.count object
  simpa using hcount

/-- **The life of the subscriptions of a run**: the accepted calls of `subscribe` and the calls of
`unsubscribe` alternate; a client that is gone after a step had what was open closed by it, once;
at a teardown nothing is open; a request answered that there is, or that there is not, a
subscription calls neither; and every cookie object is deleted once, the last ones with the cookie
store. -/
structure SubscriptionLifecycle (codec : BasicProtocolCodec) (tr : List (World × Label))
    (r : Except Fault World) : Prop where
  alternate : Machine.Always (fun w => ∀ s c, 1 ≤ s →
    ∃ t, Paired none (subscriptions s c w.backEnd.calls) t) tr r
  closes : ∀ p ∈ tr, ∀ w', fire codec p.1 p.2 = .ok w' → ∀ c ∈ p.1.backEnd.connectedClients,
    c ∉ w'.backEnd.connectedClients → ∀ s, 1 ≤ s → ∃ t calls,
      w'.backEnd.calls = p.1.backEnd.calls ++ calls ∧
      Paired none (subscriptions s c p.1.backEnd.calls) t ∧
      subscriptions s c calls = (t.map Event.closed).toList
  teardown : Machine.Always (fun w => ∀ pre i post,
    w.backEnd.calls = pre ++ .teardown i :: post → ∀ s c, 1 ≤ s →
      Paired none (subscriptions s c pre) none ∧ subscriptions s c post = []) tr r
  answers : ∀ p ∈ tr, ∀ c reply w', p.2 = .run c reply → (p.1.invokers c).service = 0 →
    fire codec p.1 p.2 = .ok w' → ∀ e, answersWithoutCall e = true →
      Answers codec (p.1.data c).request (w'.data c).response e →
      w'.backEnd.calls = p.1.backEnd.calls ++ [.dispatch 0 c]
  objects : ∀ w, r = .ok w → ∀ scripts : List Script,
    List.Forall₂ (fun p script => Respects codec script p.1 p.2) tr scripts → ∀ s c,
      DeletedOnce (ledger codec tr scripts s c ++
        ClientCookie.destructor (w.backEnd.cookieBase s c))

/-- **The life of a subscription**: it is as it should be in every run in which requests are not
let in again and each test of the managers finds none of them connected, or nothing open. -/
theorem subscription_lifecycle (codec : BasicProtocolCodec) (sourceType : SourceConnectionType)
    (backendType : DestinationConnectionType) (hlawful : codec.Lawful)
    {tr : List (World × Label)} {r : Except Fault World}
    (h : (backEndMachine codec).Run (init sourceType backendType) tr r)
    (hno : ∀ p ∈ tr, p.1.requestsStopped = true → p.1.reopens p.2 = false)
    (htested : ∀ p ∈ tr, TestedClosed p) : SubscriptionLifecycle codec tr r := by
  have hall := run_lifecycle h hno htested
  refine ⟨⟨?_, ?_⟩, ?_, ⟨?_, ?_⟩, ?_, ?_⟩
  · intro p hp s c _
    exact ⟨_, (hall.1 p hp).tracked s c⟩
  · intro w hw s c _
    exact ⟨_, (hall.2 w hw).tracked s c⟩
  · intro p hp w' hf c hin hout s hs
    obtain ⟨calls, heq, hclosed⟩ := (hall.1 p hp).closes hf hin hout hs
    exact ⟨_, calls, heq, (hall.1 p hp).tracked s c, hclosed⟩
  · intro p hp pre i post hcalls s c hs
    exact (hall.1 p hp).teardown hcalls hs c
  · intro w hw pre i post hcalls s c hs
    exact (hall.2 w hw).teardown hcalls hs c
  · rintro ⟨w, l⟩ hp c reply w' rfl hbasic hf e he hans
    obtain ⟨b, i, hrun, rfl⟩ := stepInvoker_ok.mp hf
    rw [data, data, setInvoker_self] at hans
    exact runPosted_answer hlawful (hall.1 _ hp).sound.registry hbasic hrun he hans
  · rintro w rfl scripts hscripts s c
    have hstart : (backEndMachine codec).Reaches (init sourceType backendType)
        (init sourceType backendType) := .refl _
    have hledger := ledger_paired h (init_sound _ _) (fitsOrdinals_reaches hstart) hscripts s c
    have hbase : (init sourceType backendType).backEnd.cookieBase s c = none := by
      obtain ⟨services, ec, count, heq⟩ := registerAndInitService_writes basicProtocolService
        { sourceType := sourceType, backendType := backendType }
      rw [init, BackEnd.new, heq]
      rfl
    rw [hbase] at hledger
    exact deletedOnce_of_paired (hledger.append (.close _))

/-- A service with no methods, besides `basic_protocol`. -/
def sampleService : Service where
  name := ascii "service"
  impl := .application .empty
  init _ := {}
  teardown _ := {}

/-- A client of manager 1 says hello and subscribes to the service at 1. -/
def subscribing : List Label :=
  [.poolSize 1, .registerService sampleService, .start, .registerManager 1, .connect 7 true] ++
    serve 7 ⟨0, 0, sampleHello⟩ {} ++ serve 7 ⟨0, 2, sampleSubscribe⟩ {}

/-- The shutdown of a back end with two services. -/
def shutDownWith (reply : ManagerId → ManagerReply) : List Label :=
  [.initiateShutdown, .stopStage, .rpcStage, .signalStage reply, .managerStage, .joinStage,
    .teardownStage, .teardownStage, .teardownStage]

/-- The manager disconnects its client, and the service is torn down afterwards. -/
theorem subscription_lifecycle_sample : ∃ tr w, w.backEnd.calls =
      [.dispatch 0 7, .dispatch 0 7, .subscribe 1 7 true, .unsubscribe 1 7, .teardown 0,
        .teardown 1] ∧
    SubscriptionLifecycle basicProtocolCodec tr (.ok w) := by
  obtain ⟨w, hrun, hcalls⟩ := (backEndMachine basicProtocolCodec).exec_observed
    (init .sourceRelay .targetMarshall)
    (subscribing ++ shutDownWith fun _ => { disconnects := [(7, fun _ => {})] })
    (fun w => w.backEnd.calls)
    (a := [.dispatch 0 7, .dispatch 0 7, .subscribe 1 7 true, .unsubscribe 1 7, .teardown 0,
      .teardown 1]) (by decide +kernel) (by decide +kernel)
  refine ⟨_, w, hcalls, subscription_lifecycle _ _ _ basicProtocolCodec_lawful hrun
    (staysShut_iff.mp (by decide +kernel)).reopens fun p hp => testedClosed_of_not_managed ?_⟩
  have hall : (((backEndMachine basicProtocolCodec).exec (init .sourceRelay .targetMarshall)
      (subscribing ++ shutDownWith fun _ => { disconnects := [(7, fun _ => {})] })).1.all
        fun p => !p.1.testsManaged p.2) = true := by
    decide +kernel
  simpa using List.all_eq_true.mp hall p hp

/-- A manager registers once the shutdown has begun. -/
def registersLate (w : World) : Label → Bool
  | .registerManager _ => decide (w.state.shutdownState ≠ .active)
  | _ => false

/-- **A manager that stays connected keeps the subscription of its client open through the
teardown.** -/
theorem subscription_outlives_service : ¬ ∀ (codec : BasicProtocolCodec)
    (sourceType : SourceConnectionType) (backendType : DestinationConnectionType)
    (tr : List (World × Label)) (r : Except Fault World), codec.Lawful →
    (backEndMachine codec).Run (init sourceType backendType) tr r → StaysShut tr →
    (∀ p ∈ tr, p.1.registersLate p.2 = false) → SubscriptionLifecycle codec tr r := by
  intro h
  obtain ⟨w, hrun, hcalls⟩ := (backEndMachine basicProtocolCodec).exec_observed
    (init .sourceRelay .targetMarshall)
    (subscribing ++ shutDownWith fun _ => { detaches := false }) (fun w => w.backEnd.calls)
    (a := [.dispatch 0 7, .dispatch 0 7, .subscribe 1 7 true, .teardown 0, .teardown 1])
    (by decide +kernel) (by decide +kernel)
  have hall : (((backEndMachine basicProtocolCodec).exec (init .sourceRelay .targetMarshall)
      (subscribing ++ shutDownWith fun _ => { detaches := false })).1.all
        fun p => !p.1.registersLate p.2) = true := by
    decide +kernel
  have hlife := h _ _ _ _ _ basicProtocolCodec_lawful hrun (staysShut_iff.mp (by decide +kernel))
    fun p hp => by simpa using List.all_eq_true.mp hall p hp
  have hclosed := (hlife.teardown.2 w rfl
    [.dispatch 0 7, .dispatch 0 7, .subscribe 1 7 true, .teardown 0] 1 [] hcalls 1 7 le_rfl).1
  exact nomatch hclosed

end World

end RblRpc
