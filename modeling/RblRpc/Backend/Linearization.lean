import RblRpc.Backend.Underway

/-!
# The back end as a server

Requests of different clients interleave in the back end: between the test of the gate, the checks,
the queue, the dispatch and `end_rpc` of one request anything can happen to the others, and to the
back end.  To the clients it is a server that serves one request after the other.

* `World.served` — the server that a state of the back end is, and where its clients are.
* `World.seen` — what a step is to the clients: a request takes effect when a check turns it down,
  or when it is dispatched.
* `back_end_linearizable` — **every run is a history of the server**: its requests take effect one
  at a time, each between the call and the answer.
-/

namespace RblRpc

open Transition BackEnd AtomicObject

/-- Where a client is: a request that was turned down or has run is yet to be answered. -/
def Invoker.turn (i : Invoker) : Turn ClientRequest Bool Answer :=
  match i.stage with
  | .idle => .idle
  | .accepted | .posted | .running => .asked i.clientData.request true
  | .rejected | .ran => .answered i.clientData.answer

/-- What happens to the session server. -/
abbrev ServerEvent := AtomicObject.Event ClientPtr ClientRequest Answer SessionServer.Change

/-- The request that an operation brings in. -/
def Label.asked : Label → Option (ClientPtr × ClientRequest)
  | .request c _ r => some (c, r)
  | _ => none

namespace World

/-- The server, and where the clients are. -/
def served (w : World) : Config SessionServer ClientPtr ClientRequest Bool Answer where
  state := w.server
  turns c := (w.invokers c).turn

/-- The service at `i` was torn down. -/
def withdrawn (w : World) (i : ℕ) : Bool := (w.backEnd.services.at? i).any (·.entry.isNone)

/-- **What a step from `w` to `w'` is to the clients.** -/
def seen (w w' : World) : Label → List ServerEvent
  | .registerService _ => [.env (.publish w'.backEnd.directory)]
  | .connect c fresh => [.env (.arrive c fresh)]
  | .disconnect c _ => [.env (.depart {c})]
  | .request c resets r => (if resets then [.env (.clear c)] else []) ++ .call c r ::
      if w.state.acceptingRequests then []
      else [.effect c r (w'.data c).answer, .answer c (w'.data c).answer]
  | .check c =>
    if w'.stage c = .rejected then [.effect c (w.data c).request (w'.data c).answer] else []
  | .take _ => []
  | .run c _ => [.effect c (w.data c).request (w'.data c).answer]
  | .finish c => [.answer c (w.data c).answer]
  | .signalStage _ =>
    [.env (.depart (w.backEnd.connectedClients \ w'.backEnd.connectedClients))]
  | .joinStage => if w.backEnd.isSealed then [.env .stop] else []
  | .teardownStage => match w.point with
    | .teardown i => if w'.withdrawn i then [.env (.withdraw i)] else []
    | _ => []
  | _ => if w'.state.acceptingRequests = w.state.acceptingRequests then []
    else [.env (.gate w'.state.acceptingRequests)]

/-- What a step is to the clients; one that faults is nothing. -/
def observe (codec : BasicProtocolCodec) (w : World) (l : Label) : List ServerEvent :=
  match fire codec w l with
  | .ok w' => w.seen w' l
  | .error _ => []

/-- What clients see of a run. -/
def history (codec : BasicProtocolCodec) (tr : List (World × Label)) : List ServerEvent :=
  tr.flatMap fun p => p.1.observe codec p.2

variable {codec : BasicProtocolCodec} {w w' : World} {c : ClientPtr} {l : Label}

/-! ## The steps of a client -/

/-- The server has what the back end has. -/
theorem backs (w : World) : w.backEnd.Backs w.server := ⟨rfl, rfl, rfl⟩

/-- **A step that serves a client** changes the session and the turn of the client. -/
theorem served_client (hl : l.client = some c) (hf : fire codec w l = .ok w') :
    w'.served = (w.served.setState (w.server.setSession c (w'.server.session c))).setTurn c
      (w'.invokers c).turn := by
  have hcontrol := fire_sameControl hl hf
  apply Config.ext
  · apply SessionServer.ext
    · exact hcontrol.sourceType
    · exact hcontrol.backendType
    · exact hcontrol.acceptingRequests
    · exact hcontrol.stopped
    · show w'.backEnd.directory = w.backEnd.directory
      rw [directory, directory, hcontrol.services]
    · funext k
      show w'.server.session k = Function.update w.server.session c (w'.server.session c) k
      by_cases hk : k = c
      · subst hk
        rw [Function.update_self]
      · rw [Function.update_of_ne hk]
        show w'.backEnd.session k (w'.invokers k).clientData = _
        rw [fire_invoker_other hl hk hf]
        exact session_congr (.refl _) rfl fun s =>
          isSubscribed_congr (fire_lookup_client hl hk hf s)
  · funext k
    show (w'.invokers k).turn =
      Function.update (fun k => (w.invokers k).turn) c (w'.invokers c).turn k
    by_cases hk : k = c
    · subst hk
      rw [Function.update_self]
    · rw [Function.update_of_ne hk, fire_invoker_other hl hk hf]

/-- A step that changes the server, and the session and the turn of the client. -/
theorem trace_of_client {es : List ServerEvent} (hl : l.client = some c)
    (hf : fire codec w l = .ok w')
    (h : (sessionServer codec).Trace w.served es
      ((w.served.setState (w.server.setSession c (w'.server.session c))).setTurn c
        (w'.invokers c).turn)) : (sessionServer codec).Trace w.served es w'.served := by
  rw [served_client hl hf]
  exact h

theorem turn_of_stage {i : Invoker} (h : i.stage = .idle) : i.turn = .idle := by
  rw [Invoker.turn, h]

/-- **A request that comes in.** -/
theorem request_serves {resets : Bool} {r : ClientRequest} (h : w.request c resets r = .ok w') :
    w'.server.session c =
        (if resets then { w.server.session c with string := none } else w.server.session c) ∧
      (w.state.acceptingRequests = true ∧ (w'.invokers c).turn = .asked r true ∨
        w.state.acceptingRequests = false ∧ (w'.invokers c).turn = .idle ∧
          (w'.data c).answer = ((w'.server.session c).refuse .notAcceptingRequests
            .requestBackendNotAcceptingRequests).2) := by
  obtain ⟨b, i, hf, rfl⟩ := stepInvoker_ok.mp h
  obtain ⟨i₁, hprep, hf⟩ := bind_eq_ok.mp hf
  obtain ⟨⟨started, b₁, cd₁⟩, hbegin, hret⟩ := bind_eq_ok.mp hf
  cases hret
  have hi₁ : w.backEnd.session c i₁.clientData =
        (if resets then { w.server.session c with string := none } else w.server.session c) ∧
      i₁.clientData.request = r := by
    unfold Invoker.prepare at hprep
    cases resets with
    | true =>
      simp only [if_true] at hprep
      obtain ⟨_, -, hret⟩ := bind_eq_ok.mp hprep
      cases hret
      exact ⟨rfl, rfl⟩
    | false =>
      simp only [Bool.false_eq_true, if_false] at hprep
      cases hprep
      exact ⟨rfl, rfl⟩
  obtain ⟨hsession, hreq⟩ := hi₁
  rw [session_setInvoker_self, data, setInvoker_self]
  unfold beginInvoke at hbegin
  dsimp only at hbegin
  cases ha : w.backEnd.synchronisedState.acceptingRequests with
  | true =>
    rw [SynchronisedBackEndState.startARequest, if_pos ha] at hbegin
    obtain ⟨cd₂, hcd₂, hret⟩ := bind_eq_ok.mp hbegin
    cases hret
    obtain ⟨-, rfl⟩ := ClientData.startRpc_eq_ok.mp hcd₂
    refine ⟨hsession, .inl ⟨ha, ?_⟩⟩
    simp only [Invoker.turn, ClientData.setError, hreq]
    rfl
  | false =>
    rw [SynchronisedBackEndState.startARequest, if_neg (Bool.eq_false_iff.mp ha)] at hbegin
    cases hbegin
    exact ⟨hsession, .inr ⟨ha, rfl, rfl⟩⟩

/-- What a request in the pool passed still holds when it is dispatched. -/
theorem admitted_of_dispatch (hsound : Sound w) (hunder : Underway w) (hst : w.stage c = .running)
    {s : Service} {reply : ServiceReply} {b : BackEnd} {cd : ClientData}
    (hs : w.backEnd.serviceAt (w.invokers c).service = some (some s))
    (hd : s.dispatch codec (w.invokers c).clientCookie c reply
      (w.backEnd.logCall (.dispatch (w.invokers c).service.toNat c)) (w.data c) = .ok (b, cd)) :
    Admitted c w.backEnd (w.data c) ∧
      w.backEnd.serviceAt (w.data c).request.serviceOrdinal.toUInt16 = some (some s) := by
  have hpool : w.inPool c := .inr hst
  rw [hsound.gated.addressed c hpool] at hs
  have hest := hsound.gated.established c hpool
  refine ⟨⟨⟨s, hs, dispatch_function hd⟩, hunder.subscribed c hpool, fun h0 h1 => ?_,
    fun hn => hest.mpr hn⟩, hs⟩
  exact Bool.eq_false_iff.mpr fun he => hest.mp he ⟨h0, h1⟩

theorem turn_pending (h : w.pending c) :
    w.served.turns c = .asked (w.data c).request true := by
  show (w.invokers c).turn = _
  rcases h with h | h | h <;> rw [Invoker.turn, show (w.invokers c).stage = _ from h] <;> rfl

/-- A request takes effect. -/
theorem effect_trace (reply : ServiceReply) (hl : l.client = some c)
    (hf : fire codec w l = .ok w') (hp : w.pending c)
    (hturn : (w'.invokers c).turn = .answered (w'.data c).answer)
    (hserve : w.server.serve (w.server.session c) codec (w.data c).request true reply =
      some (w'.server.session c, (w'.data c).answer)) :
    (sessionServer codec).Trace w.served
      [.effect c (w.data c).request (w'.data c).answer] w'.served := by
  apply trace_of_client hl hf
  rw [hturn]
  exact .single (.effect (turn_pending hp) ⟨reply, _, hserve, rfl⟩)

/-- A step that nobody sees. -/
theorem silent_trace (hl : l.client = some c) (hf : fire codec w l = .ok w')
    (hturn : (w'.invokers c).turn = (w.invokers c).turn)
    (hsession : w'.server.session c = w.server.session c) :
    (sessionServer codec).Trace w.served [] w'.served := by
  apply trace_of_client hl hf
  rw [hturn, hsession, SessionServer.setSession_self]
  refine Eq.subst (motive := (sessionServer codec).Trace w.served []) ?_ (.nil _)
  exact (Config.setTurn_eq_self rfl).symm

/-- **A request that comes in** is a call; one that is refused takes effect at once. -/
theorem request_trace {resets : Bool} {r : ClientRequest}
    (hg : w.enabled (.request c resets r) = true)
    (hf : fire codec w (.request c resets r) = .ok w') :
    w.state.acceptingRequests = true ∧ (sessionServer codec).Trace w.served
        ((if resets then [.env (.clear c)] else []) ++ [.call c r]) w'.served ∨
      w.state.acceptingRequests = false ∧ w'.served.turns c = .idle ∧
        (sessionServer codec).Trace w.served
          ((if resets then [.env (.clear c)] else []) ++
            [.call c r, .effect c r (w'.data c).answer])
          (w'.served.setTurn c (.answered (w'.data c).answer)) := by
  simp only [enabled, Bool.and_eq_true, decide_eq_true_eq] at hg
  have hidle : w.served.turns c = .idle := turn_of_stage hg.2
  obtain ⟨hsession, hcase⟩ := request_serves hf
  -- the response is cleared by the invokers that have `reset`
  have hclear : (sessionServer codec).Trace w.served (if resets then [.env (.clear c)] else [])
      (w.served.setState (w.server.setSession c (w'.server.session c))) := by
    rw [hsession]
    cases resets with
    | true => exact .single (.env (.clear c))
    | false =>
      rw [if_neg Bool.false_ne_true, if_neg Bool.false_ne_true, SessionServer.setSession_self]
      exact .nil _
  rcases hcase with ⟨hacc, hturn⟩ | ⟨hacc, hturn, hanswer⟩
  · refine .inl ⟨hacc, hclear.append ?_⟩
    have hcall : Step (sessionServer codec)
        (w.served.setState (w.server.setSession c (w'.server.session c))) (.call c r) _ :=
      .call hidle
    have hticket : (sessionServer codec).ticket
        (w.server.setSession c (w'.server.session c)) c r = true := hacc
    rw [served_client rfl hf, hturn]
    exact .single (hticket ▸ hcall)
  · refine .inr ⟨hacc, hturn, hclear.append ?_⟩
    rw [served_client rfl hf, Config.setTurn_setTurn]
    refine .atOnce (o := sessionServer codec)
      (s := w.served.setState (w.server.setSession c (w'.server.session c))) hidle
      ⟨{}, w'.server.session c, ?_, ?_⟩
    · have hticket : (sessionServer codec).ticket
          (w.server.setSession c (w'.server.session c)) c r = false := hacc
      show SessionServer.serve _ ((w.server.setSession c (w'.server.session c)).session c) codec r
        ((sessionServer codec).ticket (w.server.setSession c (w'.server.session c)) c r) {} = _
      rw [SessionServer.setSession_session, hticket, hanswer]
      rfl
    · exact (SessionServer.setSession_setSession ..).symm

/-- **Every step of a client is a piece of history.** -/
theorem trace_client (hsound : Sound w) (hfits : FitsOrdinals w) (hunder : Underway w)
    (hl : l.client = some c) (hg : w.enabled l = true) (hf : fire codec w l = .ok w') :
    (sessionServer codec).Trace w.served (w.seen w' l) w'.served := by
  cases l <;> cases hl
  case connect fresh =>
    have hstep := Step.env (o := sessionServer codec) (s := w.served)
      (SessionServer.Moves.arrive (q := w.server) c fresh)
    apply trace_of_client rfl hf
    have hboth : (w'.invokers c).turn = w.served.turns c ∧ w'.server.session c =
        if fresh then { subscribed := (w.server.session c).subscribed }
        else w.server.session c := by
      cases hf
      cases fresh with
      | false => exact ⟨rfl, rfl⟩
      | true =>
        simp only [enabled, Bool.not_true, Bool.false_or, Bool.and_eq_true,
          decide_eq_true_eq] at hg
        refine ⟨?_, session_setInvoker_self (w.backEnd.connect c) {}⟩
        exact Eq.trans (turn_of_stage (stage_setInvoker_self _)) (turn_of_stage hg.2).symm
    rw [hboth.1, hboth.2, Config.setState_setTurn rfl]
    exact .single hstep
  case disconnect reply =>
    simp only [enabled, Bool.and_eq_true, decide_eq_true_eq] at hg
    have hstep := Step.env (o := sessionServer codec) (s := w.served)
      (SessionServer.Moves.depart (q := w.server) {c})
    obtain ⟨hdep, hin, hconn⟩ := disconnect_departed hsound.registry hfits hg.2 hf
    have hturn : (w'.invokers c).turn = w.served.turns c := by
      have hst : w'.stage c = .idle := by rw [hdep.stage, hg.2]
      exact (turn_of_stage hst).trans (turn_of_stage hg.2).symm
    have hsession : w.server.setSession c (w'.server.session c) = w.server.without {c} := by
      refine SessionServer.ext rfl rfl rfl rfl rfl (funext fun k => ?_)
      by_cases hk : k = c
      · subst hk
        have hgone : k ∈ w.backEnd.connectedClients \ w'.backEnd.connectedClients := by
          simp [hconn, hin]
        simp only [SessionServer.setSession, SessionServer.without, Function.update_self,
          hdep.session, hgone, true_and, Finset.mem_singleton_self]
        rfl
      · simp [SessionServer.setSession, SessionServer.without, hk]
    apply trace_of_client rfl hf
    rw [hturn, hsession, Config.setState_setTurn rfl]
    exact .single hstep
  case request resets r =>
    rcases request_trace hg hf with ⟨hacc, htrace⟩ | ⟨hacc, hidle, htrace⟩
    · rw [seen, hacc, if_pos rfl]
      exact htrace
    · rw [seen, hacc, if_neg Bool.false_ne_true]
      have hans := Step.answer (o := sessionServer codec) (Config.setTurn_self c
        (.answered (w'.data c).answer : Turn ClientRequest Bool Answer) w'.served)
      rw [Config.setTurn_setTurn, Config.setTurn_eq_self hidle] at hans
      have happend := htrace.append (.single hans)
      rwa [List.append_assoc] at happend
  case check =>
    have hst : w.stage c = .accepted := of_decide_eq_true hg
    have hclean := hunder.clean c (.inl hst)
    obtain ⟨b, i, hc, heq⟩ := stepInvoker_ok.mp hf
    have hi : w'.invokers c = i := by rw [heq, setInvoker_self]
    have hs : w'.server.session c = b.session c i.clientData := by
      rw [heq, session_setInvoker_self]
    rcases checkRequest_serves {} w.backs hclean hc with
      ⟨hrej, hserve⟩ | ⟨hpost, hcd, hsession⟩
    · rw [seen, if_pos (by rw [stage, hi, hrej])]
      refine effect_trace {} rfl hf (.inl hst) ?_ ?_
      · rw [data, hi, Invoker.turn, hrej]
      · rw [hs, show w'.data c = i.clientData by rw [data, hi]]
        exact hserve
    · rw [seen, if_neg (by rw [stage, hi, hpost]; simp)]
      refine silent_trace rfl hf ?_ (hs.trans hsession)
      rw [hi, Invoker.turn, hpost, hcd]
      exact (turn_pending (.inl hst)).symm
  case take =>
    simp only [enabled, Bool.and_eq_true, decide_eq_true_eq] at hg
    refine silent_trace rfl hf ?_ ?_ <;> cases hf
    · rw [setInvoker_self]
      exact (turn_pending (.inr (.inl hg.2))).symm
    · exact session_setInvoker_self _ _
  case run reply =>
    have hst : w.stage c = .running := of_decide_eq_true hg
    have hclean := hunder.clean c (.inr (.inr hst))
    obtain ⟨b, i, hr, heq⟩ := stepInvoker_ok.mp hf
    obtain ⟨s, cd, hs, hd, rfl⟩ := runPosted_dispatch hr
    obtain ⟨hadm, hservice⟩ := admitted_of_dispatch hsound hunder hst hs hd
    have hi : (w'.invokers c).clientData = cd ∧ (w'.invokers c).stage = .ran := by
      rw [heq, setInvoker_self]
      exact ⟨rfl, rfl⟩
    have hcall := dispatch_serves (w.data c) (q := w.server)
      (b := w.backEnd.logCall (.dispatch (w.invokers c).service.toNat c)) ⟨rfl, rfl, rfl⟩
      hsound.registry.wf hfits hclean hd
    refine effect_trace reply rfl hf (.inr (.inr hst)) ?_ ?_
    · rw [Invoker.turn, hi.2]
      rfl
    · have hverdict : w.server.verdict (w.server.session c) (w.data c).request =
          some (.granted s) := w.backs.granted hadm hservice
      rw [SessionServer.serve_granted hverdict, heq, session_setInvoker_self, data, data,
        setInvoker_self]
      exact hcall
  case finish =>
    simp only [enabled, Bool.or_eq_true, decide_eq_true_eq] at hg
    have hturn : w.served.turns c = .answered (w.data c).answer := by
      show (w.invokers c).turn = _
      rcases hg with h | h <;> rw [Invoker.turn, show (w.invokers c).stage = _ from h] <;> rfl
    apply trace_of_client rfl hf
    obtain ⟨-, heq⟩ := finish_ok hf
    have hsession : w'.server.session c = w.server.session c := by
      rw [heq, session_setInvoker_self]
      rfl
    have hidle : (w'.invokers c).turn = .idle := by
      rw [heq, setInvoker_self]
      rfl
    rw [hsession, SessionServer.setSession_self, hidle]
    exact .single (.answer hturn)

/-! ## The other steps -/

/-- **A step that serves no client** leaves the sessions and the turns. -/
theorem served_server (hreg : RegistrySound w.backEnd) (hl : l.client = none)
    (hsig : l.signals = false) (hf : fire codec w l = .ok w') :
    w'.served = w.served.setState { w.server with
      accepting := w'.state.acceptingRequests
      stopped := w'.backEnd.ioService.stopped
      directory := w'.backEnd.directory } := by
  have hinv := (fire_sameClients hl hsig hf).invokers
  obtain ⟨hsource, hbackend⟩ := fire_types hl hsig hf
  apply Config.ext
  · refine SessionServer.ext hsource hbackend rfl rfl rfl (funext fun k => ?_)
    show w'.backEnd.session k (w'.invokers k).clientData = _
    rw [hinv]
    exact session_congr (.refl _) rfl fun s =>
      isSubscribed_congr (fire_lookup_server hreg hl hsig hf s k)
  · funext k
    show (w'.invokers k).turn = (w.invokers k).turn
    rw [hinv]

/-- The gate is opened, or shut, or left. -/
theorem gate_trace {es : List ServerEvent}
    (hes : es = if w'.state.acceptingRequests = w.state.acceptingRequests then []
      else [.env (.gate w'.state.acceptingRequests)])
    (hserved : w'.served = w.served.setState
      { w.server with accepting := w'.state.acceptingRequests }) :
    (sessionServer codec).Trace w.served es w'.served := by
  rw [hes, hserved]
  split
  · rename_i heq
    rw [heq]
    exact .nil _
  · exact .single (.env (.gate _))

/-- The services of a container that was only added to. -/
theorem registerAndInitService_extends {b : BackEnd} (hreg : RegistrySound b) (s : Service) :
    b.directory.Extends (b.registerAndInitService s).1.directory := by
  cases hs : b.isSealed with
  | true =>
    rw [registerAndInitService_sealed hs]
    exact ⟨le_rfl, fun _ _ h => h⟩
  | false =>
    rcases registerAndInitService_services (s := s) hs with heq | ⟨id, -, heq⟩
    · rw [directory_congr heq]
      exact ⟨le_rfl, fun _ _ h => h⟩
    · rcases hreg.wf.setEntry_cases hreg.linked ⟨id, some s⟩ with hset | ⟨hinit, hfresh, hset⟩
      · rw [hset] at heq
        refine ⟨?_, fun o l ho => ?_⟩
        · show _ ≤ (b.registerAndInitService s).1.services.size
          rw [heq, OidContainer.size_grow]
          exact le_max_left _ _
        · rw [directory_at?, heq, OidContainer.at?_grow]
          exact ho
      · rw [hset] at heq
        refine ⟨?_, fun o l ho => ?_⟩
        · show _ ≤ (b.registerAndInitService s).1.services.size
          rw [heq, OidContainer.size_placed]
          exact le_max_left _ _
        · rw [directory_at?, heq, OidContainer.at?_placed hinit]
          have hne : o ≠ (⟨id, some s⟩ : OidContainerEntry (Option Service)).ordinal.toNat := by
            rintro rfl
            rw [directory_at?, hfresh.ordinal] at ho
            cases ho
          rw [if_neg hne]
          exact ho

/-- A service that was reset. -/
theorem directory_setAt_none (b : BackEnd) (i : ℕ) :
    ({ b with services := b.services.setAt i none } : BackEnd).directory =
      b.directory.withdraw i := by
  unfold directory Directory.withdraw
  simp only [OidContainer.size_setAt, OidContainer.at?_setAt]
  congr 1
  funext j
  by_cases hj : j = i
  · subst hj
    simp only [if_true]
    cases b.services.at? j <;> rfl
  · simp only [if_neg hj]

theorem withdraw_of_none {d : Directory} {i : ℕ} (h : ∀ l, d.at? i = some l → l.service = none) :
    d.withdraw i = d := by
  unfold Directory.withdraw
  congr 1
  funext j
  by_cases hj : j = i
  · subst hj
    rw [if_pos rfl]
    cases hat : d.at? j with
    | none => rfl
    | some l =>
      rw [Option.map_some, ← h l hat]
  · rw [if_neg hj]

/-- A step of the teardown loop withdraws the service it found, or none. -/
theorem teardown_directory {i : ℕ} (h : w'.backEnd.services = w.backEnd.services ∨
    w'.backEnd.services = w.backEnd.services.setAt i none) :
    w'.backEnd.directory =
      if w'.withdrawn i then w.backEnd.directory.withdraw i else w.backEnd.directory := by
  rcases h with h | h
  · rw [directory_congr h]
    split
    · rename_i hgone
      rw [withdrawn, h, Option.any_eq_true] at hgone
      obtain ⟨e, he, hnone⟩ := hgone
      refine (withdraw_of_none fun l hl => ?_).symm
      rw [directory_at?, he] at hl
      cases hl
      exact Option.isNone_iff_eq_none.mp hnone
    · rfl
  · have hdir : w'.backEnd.directory = w.backEnd.directory.withdraw i := by
      rw [← directory_setAt_none]
      exact directory_congr h
    rw [hdir]
    split
    · rfl
    · rename_i hstays
      refine withdraw_of_none fun l hl => ?_
      rw [directory_at?] at hl
      obtain ⟨e, he, -⟩ := Option.map_eq_some_iff.mp hl
      exact absurd (by rw [withdrawn, h, OidContainer.at?_setAt, if_pos rfl, he]; rfl) hstays

/-- The managers disconnect clients. -/
theorem trace_signal (hsound : Sound w) (hfits : FitsOrdinals w)
    {reply : ManagerId → ManagerReply} (hg : w.enabled (.signalStage reply) = true)
    (hf : fire codec w (.signalStage reply) = .ok w') :
    (sessionServer codec).Trace w.served (w.seen w' (.signalStage reply)) w'.served := by
  simp only [enabled, Bool.and_eq_true, decide_eq_true_eq] at hg
  have hd := signalStage_departed hsound.registry hfits hg.2 hf
  have hstep := Step.env (o := sessionServer codec) (s := w.served)
    (SessionServer.Moves.depart (q := w.server)
      (w.backEnd.connectedClients \ w'.backEnd.connectedClients))
  have hserved : w'.served = w.served.setState (w.server.without
      (w.backEnd.connectedClients \ w'.backEnd.connectedClients)) := by
    apply Config.ext
    · exact SessionServer.ext hd.sourceType hd.backendType hd.accepting hd.stopped
        (directory_congr hd.services) (funext hd.session)
    · funext k
      show (w'.invokers k).turn = (w.invokers k).turn
      by_cases hk : w.stage k = .idle
      · have hk' : w'.stage k = .idle := by rw [hd.stage, hk]
        exact (turn_of_stage hk').trans (turn_of_stage hk).symm
      · rw [(hd.busy k hk).1]
  rw [hserved]
  exact .single hstep

/-- **Every step that serves no client is a piece of history.** -/
theorem trace_server (hsound : Sound w) (hl : l.client = none) (hsig : l.signals = false)
    (hg : w.enabled l = true) (hf : fire codec w l = .ok w') :
    (sessionServer codec).Trace w.served (w.seen w' l) w'.served := by
  have hserved := served_server hsound.registry hl hsig hf
  have hgate : (∀ s, l ≠ .registerService s) → l ≠ .joinStage → l ≠ .teardownStage →
      w'.backEnd.directory = w.backEnd.directory ∧
        w'.backEnd.ioService.stopped = w.backEnd.ioService.stopped := by
    intro hreg hjoin htear
    rcases fire_sameRecords hl hf with hsame | ⟨s, h⟩ | rfl | ⟨reply, rfl⟩ | h | h
    · exact ⟨directory_congr hsame.services, hsame.stopped⟩
    · exact absurd h (hreg s)
    · obtain ⟨b, e, hs, rfl⟩ := start_ok hf
      obtain ⟨-, ⟨-, rfl, -⟩ | ⟨-, -, -, cs₀, cs, -, -, rfl⟩⟩ := BackEnd.start_ok hs <;>
        exact ⟨rfl, rfl⟩
    · cases hsig
    · exact absurd h hjoin
    · exact absurd h htear
  cases l <;> cases hl
  case registerService s =>
    have hext := registerAndInitService_extends hsound.registry s
    cases hf
    obtain ⟨services, ec, count, heq⟩ := registerAndInitService_writes s w.backEnd
    have haccepting : (w.setBackEnd (w.backEnd.registerAndInitService s).1).state =
        w.state := by
      simp only [state, setBackEnd_backEnd, heq]
    have hstopped : (w.setBackEnd
        (w.backEnd.registerAndInitService s).1).backEnd.ioService = w.backEnd.ioService := by
      simp only [setBackEnd_backEnd, heq]
    rw [hserved, haccepting, hstopped]
    exact .single (.env (.publish hext))
  case joinStage =>
    cases hf
    rw [hserved, seen]
    cases hsealed : w.backEnd.isSealed with
    | true =>
      rw [if_pos rfl]
      have hstopped : w.joinStage.backEnd.ioService.stopped = true := by
        show (w.backEnd.ioService.stopped || w.backEnd.isSealed) = true
        rw [hsealed, Bool.or_true]
      rw [hstopped]
      exact .single (.env .stop)
    | false =>
      rw [if_neg Bool.false_ne_true]
      have hstopped : w.joinStage.backEnd.ioService.stopped = w.backEnd.ioService.stopped := by
        show (w.backEnd.ioService.stopped || w.backEnd.isSealed) = _
        rw [hsealed, Bool.or_false]
      rw [hstopped]
      exact .nil _
  case teardownStage =>
    obtain ⟨services, ec, calls, p, r, heq⟩ := teardownStage_writes hf
    have haccepting : w'.state.acceptingRequests = w.state.acceptingRequests := by rw [heq]; rfl
    have hstopped : w'.backEnd.ioService.stopped = w.backEnd.ioService.stopped := by
      rw [heq]
      rfl
    rw [hserved, haccepting, hstopped, seen]
    cases hp : w.point
    case teardown i =>
      have hservices : w'.backEnd.services = w.backEnd.services ∨
          w'.backEnd.services = w.backEnd.services.setAt i none := by
        rcases teardownStage_ok hp hf with ⟨-, b, e, ht, rfl⟩ | ⟨-, rfl⟩
        · rcases teardownService_ok ht with ⟨⟨ec, rfl⟩, -⟩ | ⟨services, ec, hs, rfl⟩
          · cases e <;> exact .inl rfl
          · cases e <;> exact hs
        · exact .inl rfl
      rw [teardown_directory hservices]
      dsimp only
      split
      · exact .single (.env (.withdraw i))
      · exact .nil _
    all_goals simp [enabled, hp] at hg
  case signalStage => cases hsig
  all_goals
    obtain ⟨hdir, hstopped⟩ := hgate (by simp) (by simp) (by simp)
    rw [hdir, hstopped] at hserved
    exact gate_trace rfl hserved

/-! ## Runs -/

/-- **The back end implements the session server.** -/
theorem back_end_implements (codec : BasicProtocolCodec) :
    (backEndMachine codec).Implements (sessionServer codec) Serving served (observe codec) where
  keeps _ _ _ h hg hf := h.step hg hf
  step w l w' h hg hf := by
    have hf : fire codec w l = .ok w' := hf
    rw [observe, hf]
    dsimp only
    cases hl : l.client with
    | some c => exact trace_client h.sound h.fits h.underway hl hg hf
    | none =>
      cases hsig : l.signals with
      | false => exact trace_server h.sound hl hsig hg hf
      | true =>
        obtain ⟨reply, rfl⟩ := Label.signals_eq_true hsig
        exact trace_signal h.sound h.fits hg hf

/-- The calls of a step are the requests it brings in. -/
theorem seen_called (w w' : World) (l : Label) :
    (w.seen w' l).filterMap Event.called = l.asked.toList := by
  cases l
  case request c resets r =>
    simp only [seen, Label.asked, List.filterMap_append, List.filterMap_cons, Event.called]
    cases resets <;> cases w.state.acceptingRequests <;> rfl
  case teardownStage =>
    simp only [seen, Label.asked]
    split
    · split <;> rfl
    · rfl
  all_goals
    simp only [seen, Label.asked]
    first | rfl | (split <;> rfl)

theorem history_called {r : Except Fault World} {tr : List (World × Label)}
    (h : (backEndMachine codec).Run w tr r) (hr : ∃ w', r = .ok w') :
    (history codec tr).filterMap Event.called = tr.filterMap fun p => p.2.asked := by
  induction h with
  | done => rfl
  | fault => obtain ⟨w', hw'⟩ := hr; cases hw'
  | @step w w₁ l tr r hg hf _ ih =>
    have hf : fire codec w l = .ok w₁ := hf
    rw [history, List.flatMap_cons, List.filterMap_append, observe, hf, seen_called, ← history,
      ih hr]
    cases hl : l.asked <;> simp [hl]

/-- A run is one of the server. -/
structure Linearizes (codec : BasicProtocolCodec) (w₀ : World) (tr : List (World × Label))
    (w : World) : Prop where
  trace : (sessionServer codec).Trace w₀.served (history codec tr) w.served
  serial : (sessionServer codec).Serial w₀.server ((history codec tr).filterMap Event.act) w.server
  conversation : ∀ c, Conversation (w₀.served.turns c)
    ((history codec tr).filterMap (Event.of c)) (w.served.turns c)
  requests : (history codec tr).filterMap Event.called = tr.filterMap fun p => p.2.asked

/-- **The back end is linearizable.**  What the clients see of a run is a history of the session
server: its calls are the requests of the run; the effects, in their order, are an execution of the
server that serves one request after the other; and every client's calls, effects and answers follow
one another, so that each request takes effect once, between its call and its answer. -/
theorem back_end_linearizable (codec : BasicProtocolCodec) (sourceType : SourceConnectionType)
    (backendType : DestinationConnectionType) {tr : List (World × Label)} {w : World}
    (h : (backEndMachine codec).Run (init sourceType backendType) tr (.ok w)) :
    Linearizes codec (init sourceType backendType) tr w := by
  have htrace := (back_end_implements codec).trace h (init_serving _ _)
  exact ⟨htrace, htrace.serial, htrace.conversation, history_called h ⟨w, rfl⟩⟩

/-- The hellos of two clients, one overtaking the other. -/
def sampleHellos : List Label :=
  startUp 7 ++ [.connect 8 true, .request 7 true ⟨0, 0, sampleHello⟩,
    .request 8 true ⟨0, 0, sampleHello⟩, .check 8, .check 7, .take 8, .run 8 {}, .take 7,
    .run 7 {}, .finish 7, .finish 8]

theorem back_end_linearizable_sample : ∃ tr w,
    (history basicProtocolCodec tr).length = 11 ∧
      Linearizes basicProtocolCodec (init .sourceRelay .targetMarshall) tr w := by
  obtain ⟨w, heq, hrun⟩ := (backEndMachine basicProtocolCodec).exec_run_ok
    (init .sourceRelay .targetMarshall) sampleHellos (by decide +kernel) (by decide +kernel)
  exact ⟨_, w, by decide +kernel, back_end_linearizable _ _ _ hrun⟩

end World

end RblRpc
