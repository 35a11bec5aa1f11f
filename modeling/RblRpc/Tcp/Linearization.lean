import RblRpc.Backend.Linearization
import RblRpc.Tcp.Exchange

/-!
# The TCP front end as a server

Over TCP a request is a body that was read, and its answer the response that
`handle_write_response` serialises, some time after `end_rpc` and perhaps on another thread.  The
clients of the front end, and those that use the back end beside it, still see the session server.

* `TcpWorld.replying` — the request has ended, and its response is yet to be serialised.
* `TcpWorld.served`, `TcpWorld.seen` — the server, where its clients are, and what a step is to them.
* `quiet_trace` — a step that leaves those that are replying alone.
* `front_end_linearizable` — **every run of a front end is a history of the server.**
-/

namespace RblRpc

open Transition AtomicObject

/-- The response is about to be serialised. -/
def Phase.replying : Phase → Bool
  | refused | poolAnswering => true
  | _ => false

theorem Phase.ioState_of_replying {p : Phase} (h : p.replying = true) :
    p.ioState = .requestDispatchedActive := by
  cases p <;> first | rfl | cases h

theorem Phase.carries_of_replying {p : Phase} (h : p.replying = true) (op : IoOperation) :
    p.carries op = false := by
  cases p <;> first | rfl | cases h

/-- The connection whose reply a step begins or ends. -/
def TcpLabel.repliesTo : TcpLabel → Option ClientPtr
  | .bodyRead c _ | .endRejected c | .endRan c | .answerRejected c _ | .answerRan c _ => some c
  | _ => none

namespace TcpWorld

/-- The request of connection `c` has ended, and `handle_write_response` was not called for it. -/
def replying (w : TcpWorld) (c : ClientPtr) : Bool :=
  w.unanswered c && w.world.stage c = .idle

/-- The clients that are replying, and what is to be serialised. -/
def replies (w : TcpWorld) (c : ClientPtr) : Option (Turn ClientRequest Bool Answer) :=
  if w.replying c then some (.answered (w.world.data c).answer) else none

/-- The server, and where the clients are. -/
def served (w : TcpWorld) : Config SessionServer ClientPtr ClientRequest Bool Answer :=
  w.world.served.override w.replies

/-- The client at `c` is gone. -/
def left (c : ClientPtr) (w w' : TcpWorld) : List ServerEvent :=
  if c ∈ w.world.backEnd.connectedClients ∧ c ∉ w'.world.backEnd.connectedClients then
    [.env (.depart {c})]
  else []

/-- **What a step from `w` to `w'` is to the clients.** -/
def seen (messages : ClientMessageCodec) (w w' : TcpWorld) : TcpLabel → List ServerEvent
  | .accept c _ => [.env (.arrive c true)]
  | .headerRead c _ _ _ _ | .failed c _ | .sweep c _ _ => left c w w'
  | .bodyRead c body => .call c (w.parsed messages c body) ::
      if w.world.state.acceptingRequests then []
      else [.effect c (w.parsed messages c body) (w'.world.data c).answer]
  | .check c => w.world.seen w'.world (.check c)
  | .take c => w.world.seen w'.world (.take c)
  | .run c reply => w.world.seen w'.world (.run c reply)
  | .answerRejected c _ | .answerRan c _ => [.answer c (w.world.data c).answer]
  | .backEnd l => w.world.seen w'.world l
  | _ => []

def observe (codec : BasicProtocolCodec) (messages : ClientMessageCodec) (w : TcpWorld)
    (l : TcpLabel) : List ServerEvent :=
  match w.fire codec messages l with
  | .ok w' => w.seen messages w' l
  | .error _ => []

/-- What clients see of a run. -/
def history (codec : BasicProtocolCodec) (messages : ClientMessageCodec)
    (tr : List (TcpWorld × TcpLabel)) : List ServerEvent :=
  tr.flatMap fun p => p.1.observe codec messages p.2

variable {codec : BasicProtocolCodec} {messages : ClientMessageCodec} {w w' : TcpWorld}
  {c : ClientPtr} {q : Option Phase} {l : TcpLabel}

theorem At.replying (hq : w.At c q) : w.replying c = q.any Phase.replying := by
  rw [TcpWorld.replying, hq.unanswered]
  cases q with
  | none => rfl
  | some p =>
    have hst : w.world.stage c = p.stage := hq.stage
    rw [hst]
    cases p <;> rfl

/-- The loop of `shutdown_handler` leaves what is not idle. -/
theorem sweep_busy {closes : Bool} {reply : ℕ → ServiceReply} (hf : w.sweep c closes reply = .ok w')
    (hio : (w.connections c).ioState ≠ .readHeaderWaitRequestStartInactive) :
    w'.world = w.world := by
  unfold sweep at hf
  cases hat : w.ioPoint with
  | sweeping left =>
    rw [hat] at hf
    have hio' : ((w.goto (.sweeping (left.erase c))).connections c).ioState ≠
        .readHeaderWaitRequestStartInactive := hio
    rw [if_neg hio'] at hf
    cases hf
    rfl
  | waiting | reading =>
    rw [hat] at hf
    rw [if_neg hio] at hf
    cases hf
    rfl

/-- **A step that begins and ends no reply of `c`** leaves what `c` is to be answered. -/
theorem replying_kept (h : w.Disciplined) (hg : w.enabled l = true)
    (hf : w.fire codec messages l = .ok w') (hl : l.repliesTo ≠ some c) :
    w'.replying c = w.replying c ∧
      (w.replying c = true → w'.world.data c = w.world.data c) := by
  obtain ⟨q, hq⟩ := h.placed c
  obtain ⟨q', hstep, hq', -⟩ := fire_phaseStep h hq hg hf
  rw [hq.replying, hq'.replying]
  cases hstep with
  | other _ hother =>
    refine ⟨rfl, fun hr => ?_⟩
    cases q with
    | none => cases hr
    | some p =>
      rw [World.data, ((fire_backEndStep h hg hf).elsewhere hother hg
        (unused_of_alive hq.alive)).1]
      rfl
  | bodyAccepted | bodyRefused | endRejected | endRan | answerRejected | answerRan =>
    exact absurd rfl hl
  | sweep closes reply =>
    refine ⟨rfl, fun hr => ?_⟩
    cases q with
    | none => cases hr
    | some p =>
      have hio : (w.connections c).ioState = p.ioState := hq.ioState
      have hbusy : (w.connections c).ioState ≠ .readHeaderWaitRequestStartInactive := by
        rw [hio, Phase.ioState_of_replying hr]
        simp
      rw [World.data, sweep_busy hf hbusy]
      rfl
  | @failed reply op p hcarries =>
    refine ⟨rfl, fun hr => ?_⟩
    cases (Phase.carries_of_replying hr op).symm.trans hcarries
  | accept | headerRead | headerClosed | reject | post | uncount | take | run | responseWritten
  | failedClosed | failedAbsent | sweepClosed => exact ⟨rfl, fun hr => by cases hr⟩

/-- **A step of the back end in which nobody takes part that is replying.** -/
theorem framed {es : List ServerEvent}
    (hworld : (sessionServer codec).Trace w.world.served es w'.world.served)
    (hes : ∀ k, w.replying k = true → ∀ e ∈ es, e.of k = none)
    (hkept : ∀ k, w'.replying k = w.replying k ∧
      (w.replying k = true → w'.world.data k = w.world.data k)) :
    (sessionServer codec).Trace w.served es w'.served := by
  have hreplies : w'.replies = w.replies := by
    funext k
    rw [replies, replies, (hkept k).1]
    split
    · rename_i hr
      rw [(hkept k).2 hr]
    · rfl
  rw [served, served, hreplies]
  refine hworld.frame fun k hk => hes k ?_
  by_contra hr
  rw [replies, if_neg hr] at hk
  exact hk rfl

/-- A step that leaves the back end alone. -/
theorem silent {es : List ServerEvent} (hes : es = []) (hworld : w'.world = w.world)
    (hkept : ∀ k, w'.replying k = w.replying k ∧
      (w.replying k = true → w'.world.data k = w.world.data k)) :
    (sessionServer codec).Trace w.served es w'.served := by
  subst hes
  refine framed ?_ (fun _ _ e he => absurd he List.not_mem_nil) hkept
  rw [hworld]
  exact .nil _

end TcpWorld

/-- Only the client that a step serves takes part in it. -/
theorem World.seen_of {w w' : World} {l : Label} {k : ClientPtr} (hl : l.client ≠ some k) :
    ∀ e ∈ w.seen w' l, e.of k = none := by
  cases l
  case request c resets r =>
    have hne : c ≠ k := fun h => hl (congrArg some h)
    cases resets <;> cases hacc : w.state.acceptingRequests <;>
      simp [seen, hacc, AtomicObject.Event.of, hne]
  case check c =>
    have hne : c ≠ k := fun h => hl (congrArg some h)
    simp only [seen]
    split <;> simp [AtomicObject.Event.of, hne]
  case run c _ | finish c =>
    have hne : c ≠ k := fun h => hl (congrArg some h)
    simp [seen, AtomicObject.Event.of, hne]
  case teardownStage =>
    simp only [seen]
    split
    · split <;> simp [AtomicObject.Event.of]
    · simp
  case registerService | connect | disconnect | take | signalStage =>
    simp [seen, AtomicObject.Event.of]
  all_goals
    simp only [seen]
    split <;> simp [AtomicObject.Event.of]

namespace TcpWorld

variable {codec : BasicProtocolCodec} {messages : ClientMessageCodec} {w w' : TcpWorld}
  {c : ClientPtr} {l : TcpLabel}

/-- A step of the back end is a piece of history to its clients. -/
theorem world_trace {b : Label} (hs : World.Serving w.world) (hg : w.world.enabled b = true)
    (hf : World.fire codec w.world b = .ok w'.world) :
    (sessionServer codec).Trace w.world.served (w.world.seen w'.world b) w'.world.served := by
  have htrace := (World.back_end_implements codec).step w.world b w'.world hs hg hf
  rw [World.observe, hf] at htrace
  exact htrace

/-- A client that is served by a step of the back end is not replying. -/
theorem not_replying_of_stage {st : Stage} (h : w.world.stage c = st) (hst : st ≠ .idle) :
    w.replying c = false := by
  rw [replying, h, decide_eq_false hst, Bool.and_false]

/-- What a client that leaves, or does not, is to the server. -/
theorem left_trace (c : ClientPtr) (reply : ℕ → ServiceReply) (hs : World.Serving w.world)
    (hp : w'.world = w.world ∨ w.world.enabled (.disconnect c reply) = true ∧
      World.fire codec w.world (.disconnect c reply) = .ok w'.world) :
    (sessionServer codec).Trace w.world.served (left c w w') w'.world.served := by
  rcases hp with heq | ⟨hg, hf⟩
  · rw [left, heq, if_neg fun hin => hin.2 hin.1]
    exact .nil _
  · have htrace := world_trace hs hg hf
    simp only [World.enabled, Bool.and_eq_true, decide_eq_true_eq] at hg
    have hconn := World.fire_connectedClients rfl hf
    dsimp only at hconn
    have hout : c ∉ w'.world.backEnd.connectedClients := by
      rw [hconn]
      exact Finset.notMem_erase _ _
    rw [left, if_pos ⟨hg.1, hout⟩]
    exact htrace

theorem left_of {k : ClientPtr} : ∀ e ∈ left c w w', e.of k = none := by
  unfold left
  split <;> simp [AtomicObject.Event.of]

/-- Only what is to be answered to `c` is another. -/
theorem served_of_others {t : Turn ClientRequest Bool Answer} (hfree : w.replying c = false)
    (hturn : w'.served.turns c = t) (hothers : ∀ k, k ≠ c → w'.replying k = w.replying k ∧
      (w.replying k = true → w'.world.data k = w.world.data k)) :
    w'.served = (w'.world.served.setTurn c t).override w.replies := by
  refine Config.ext rfl (funext fun k => ?_)
  by_cases hk : k = c
  · subst hk
    rw [hturn, Config.override_turns (by rw [replies, hfree, if_neg Bool.false_ne_true]),
      Config.setTurn_self]
  · show (w'.replies k).getD _ = (w.replies k).getD _
    obtain ⟨hsame, hdata⟩ := hothers k hk
    rw [Config.setTurn_ne _ _ hk, replies, replies, hsame]
    split
    · rename_i hr
      rw [hdata hr]
    · rfl

/-- Where a client is that is replying. -/
theorem served_replying (h : w.replying c = true) :
    w.served.turns c = .answered (w.world.data c).answer := by
  show (w.replies c).getD _ = _
  rw [replies, if_pos h]
  rfl

theorem served_quiet (h : w.replying c = false) : w.served.turns c = w.world.served.turns c :=
  Config.override_turns (by rw [replies, h, if_neg Bool.false_ne_true]) _

/-- **A body is read**: the request is a call, and takes effect if it is refused. -/
theorem bodyRead_trace (h : w.Disciplined) {body : Bytes} (hg : w.enabled (.bodyRead c body) = true)
    (hf : w.fire codec messages (.bodyRead c body) = .ok w') :
    (sessionServer codec).Trace w.served (w.seen messages w' (.bodyRead c body)) w'.served := by
  have hothers : ∀ k, k ≠ c → w'.replying k = w.replying k ∧
      (w.replying k = true → w'.world.data k = w.world.data k) :=
    fun k hk => replying_kept h hg hf fun heq => hk (Option.some_inj.mp heq).symm
  obtain ⟨q, hq⟩ := h.placed c
  obtain ⟨q', hstep, hq', -⟩ := fire_phaseStep h hq hg hf
  -- the connection was in no request, and is now in one
  have hq₀ : q = some .body ∧ (q' = some .accepted ∨ q' = some .refused) := by
    cases hstep with
    | other _ hother => exact absurd rfl hother
    | bodyAccepted => exact ⟨rfl, .inl rfl⟩
    | bodyRefused => exact ⟨rfl, .inr rfl⟩
  obtain ⟨rfl, hnext⟩ := hq₀
  have hfree : w.replying c = false := hq.replying
  obtain ⟨request, k, v, hk, hv, heq⟩ := bodyRead_ok hf
  have hparsed : w.parsed messages c body = request := by rw [parsed, hk]
  have hworld : w'.world = v := by rw [heq]; rfl
  rw [← hworld] at hv
  have hgw : w.world.enabled (.request c false request) = true := by
    have hst : w.world.stage c = .idle := hq.stage
    simp only [World.enabled, hst, (h.sane c).connected hq.alive, decide_true, Bool.and_self]
  have hnot : ∀ k, w.replying k = true → k ≠ c := by
    intro k hk heq
    rw [heq, hfree] at hk
    cases hk
  obtain ⟨-, hcase⟩ := World.request_serves hv
  rw [seen, hparsed]
  rcases World.request_trace hgw hv with ⟨hacc, htrace⟩ | ⟨hacc, hidle, htrace⟩
  · rw [hacc, if_pos rfl]
    have hquiet : w'.replying c = false := by
      rcases hnext with rfl | rfl
      · exact hq'.replying
      · have hturn : (w'.world.invokers c).turn = .idle := World.turn_of_stage hq'.stage
        simp [hacc, hturn] at hcase
    refine framed htrace (fun k hk e he => ?_) fun k => ?_
    · rw [List.mem_singleton.mp he]
      exact if_neg (hnot k hk).symm
    · by_cases hkc : k = c
      · subst hkc
        exact ⟨hquiet.trans hfree.symm, fun hk => absurd rfl (hnot k hk)⟩
      · exact hothers k hkc
  · rw [hacc, if_neg Bool.false_ne_true]
    have hreply : w'.replying c = true := by
      rcases hnext with rfl | rfl
      · have hturn : (w'.world.invokers c).turn = .asked (w'.world.data c).request true := by
          rw [Invoker.turn, show (w'.world.invokers c).stage = _ from hq'.stage]
          rfl
        simp [hacc, hturn] at hcase
      · exact hq'.replying
    rw [served_of_others hfree (served_replying hreply) hothers]
    refine htrace.frame fun k hk e he => ?_
    have hkc : c ≠ k := by
      rintro rfl
      rw [replies, hfree, if_neg Bool.false_ne_true] at hk
      exact hk rfl
    simp only [Bool.false_eq_true, if_false, List.nil_append, List.mem_cons, List.not_mem_nil,
      or_false] at he
    rcases he with rfl | rfl <;> exact if_neg hkc

/-- **`end_rpc`**: what the client is answered stays as it is. -/
theorem finish_served (h : w.Disciplined) (hg : w.enabled l = true)
    (hf : w.fire codec messages l = .ok w') (hl : l = .endRejected c ∨ l = .endRan c) :
    w'.served = w.served := by
  have hothers : ∀ k, k ≠ c → w'.replying k = w.replying k ∧
      (w.replying k = true → w'.world.data k = w.world.data k) := by
    refine fun k hk => replying_kept h hg hf ?_
    rcases hl with rfl | rfl <;> exact fun heq => hk (Option.some_inj.mp heq).symm
  obtain ⟨q, hq⟩ := h.placed c
  obtain ⟨q', hstep, hq', -⟩ := fire_phaseStep h hq hg hf
  have hfinish : World.fire codec w.world (.finish c) = .ok w'.world := by
    rcases hl with rfl | rfl <;>
    · obtain ⟨w₁, h₁, hret⟩ := bind_eq_ok.mp hf
      obtain ⟨v, hv, rfl⟩ := onWorld_ok.mp h₁
      cases hret
      exact hv
  have hends : w.replying c = false ∧ w'.replying c = true ∧
      (w.world.invokers c).turn = .answered (w.world.data c).answer := by
    rw [hq.replying, hq'.replying]
    rcases hl with rfl | rfl
    · cases hstep with
      | other _ hother => exact absurd rfl hother
      | endRejected =>
        refine ⟨rfl, rfl, ?_⟩
        rw [Invoker.turn, show (w.world.invokers c).stage = _ from hq.stage]
        rfl
    · cases hstep with
      | other _ hother => exact absurd rfl hother
      | endRan =>
        refine ⟨rfl, rfl, ?_⟩
        rw [Invoker.turn, show (w.world.invokers c).stage = _ from hq.stage]
        rfl
  obtain ⟨hfree, hreply, hturn⟩ := hends
  obtain ⟨-, heq⟩ := World.finish_ok hfinish
  have hsession : w'.world.server.session c = w.world.server.session c := by
    rw [heq, World.session_setInvoker_self]
    rfl
  have hanswer : (w'.world.data c).answer = (w.world.data c).answer := by
    rw [heq, World.data, World.setInvoker_self]
    rfl
  rw [served_of_others hfree (served_replying hreply) hothers, hanswer, ← hturn,
    World.served_client rfl hfinish, hsession, SessionServer.setSession_self,
    Config.setTurn_setTurn]
  exact congrArg (Config.override w.replies) (Config.setTurn_eq_self (s := w.world.served) rfl)

/-- **A response is serialised.** -/
theorem answer_trace (h : w.Disciplined) (hg : w.enabled l = true)
    (hf : w.fire codec messages l = .ok w')
    (hl : (∃ fresh, l = .answerRejected c fresh) ∨ ∃ fresh, l = .answerRan c fresh) :
    (sessionServer codec).Trace w.served [.answer c (w.world.data c).answer] w'.served := by
  have hothers : ∀ k, k ≠ c → w'.replying k = w.replying k ∧
      (w.replying k = true → w'.world.data k = w.world.data k) := by
    refine fun k hk => replying_kept h hg hf ?_
    rcases hl with ⟨fresh, rfl⟩ | ⟨fresh, rfl⟩ <;>
      exact fun heq => hk (Option.some_inj.mp heq).symm
  obtain ⟨q, hq⟩ := h.placed c
  obtain ⟨q', hstep, hq', -⟩ := fire_phaseStep h hq hg hf
  have hworld : w'.world = w.world := by
    rcases hl with ⟨fresh, rfl⟩ | ⟨fresh, rfl⟩ <;>
    · obtain ⟨w₁, h₁, hret⟩ := bind_eq_ok.mp hf
      obtain ⟨k, -, rfl⟩ := onConnection_ok.mp h₁
      cases hret
      rfl
  have hends : w.replying c = true ∧ w'.replying c = false ∧ w.world.stage c = .idle := by
    rw [hq.replying, hq'.replying]
    rcases hl with ⟨fresh, rfl⟩ | ⟨fresh, rfl⟩
    · cases hstep with
      | other _ hother => exact absurd rfl hother
      | answerRejected => exact ⟨rfl, rfl, hq.stage⟩
    · cases hstep with
      | other _ hother => exact absurd rfl hother
      | answerRan => exact ⟨rfl, rfl, hq.stage⟩
  obtain ⟨hreply, hfree, hidle⟩ := hends
  have hanswer := Step.answer (o := sessionServer codec) (served_replying hreply)
  have hafter : w'.served = w.served.setTurn c .idle := by
    refine Config.ext ?_ (funext fun k => ?_)
    · show w'.world.server = w.world.server
      rw [hworld]
    · by_cases hk : k = c
      · subst hk
        rw [served_quiet hfree, hworld, Config.setTurn_self]
        exact World.turn_of_stage hidle
      · rw [Config.setTurn_ne _ _ hk]
        obtain ⟨hsame, -⟩ := hothers k hk
        cases hr : w.replying k with
        | true => rw [served_replying hr, served_replying (hsame.trans hr), hworld]
        | false => rw [served_quiet hr, served_quiet (hsame.trans hr), hworld]
  rw [hafter]
  exact .single hanswer

/-- A step of the back end for a client that is not replying, or for none. -/
theorem back_end_trace {b : Label} (hs : World.Serving w.world) (hg : w.world.enabled b = true)
    (hf : World.fire codec w.world b = .ok w'.world)
    (hfree : ∀ k, b.client = some k → w.replying k = false)
    (hkept : ∀ k, w'.replying k = w.replying k ∧
      (w.replying k = true → w'.world.data k = w.world.data k)) :
    (sessionServer codec).Trace w.served (w.world.seen w'.world b) w'.served := by
  refine framed (world_trace hs hg hf) (fun k hk => World.seen_of fun hb => ?_) hkept
  rw [hfree k hb] at hk
  cases hk

/-- An address that no connection has is not replying. -/
theorem not_replying_of_unused (h : w.unused c = true) : w.replying c = false := by
  simp only [unused, Bool.and_eq_true, Bool.not_eq_true'] at h
  simp [replying, unanswered, h.1]

/-- **A step that begins and ends no reply.** -/
theorem quiet_trace (h : w.Disciplined) (hs : World.Serving w.world) (hg : w.enabled l = true)
    (hf : w.fire codec messages l = .ok w') (hl : l.repliesTo = none) :
    (sessionServer codec).Trace w.served (w.seen messages w' l) w'.served := by
  have hkept : ∀ k, w'.replying k = w.replying k ∧
      (w.replying k = true → w'.world.data k = w.world.data k) :=
    fun k => replying_kept h hg hf (by simp [hl])
  have hperf := fire_performs h hg hf
  cases l with
  | bodyRead c body | endRejected c | endRan c | answerRejected c fresh | answerRan c fresh =>
    cases hl
  | acceptFailed | shutdown closes | swept | uncount c | responseWritten c =>
    refine silent rfl ?_ hkept
    rcases hperf with hsame | ⟨b, hdoes, -, -⟩
    · exact hsame
    · cases hdoes
  | headerRead c header fresh closes reply | failed c reply | sweep c closes reply =>
    refine framed (left_trace c reply hs ?_) (fun k _ => left_of) hkept
    rcases hperf with hsame | ⟨b, hdoes, hgb, hfb⟩
    · exact .inl hsame
    · cases hdoes
      exact .inr ⟨hgb, hfb⟩
  | accept c fresh =>
    cases hf
    simp only [enabled, Bool.and_eq_true] at hg
    refine back_end_trace (b := .connect c true) hs hg.2 rfl (fun k hk => ?_) hkept
    cases hk
    exact not_replying_of_unused hg.1.2
  | check c =>
    simp only [enabled, Bool.and_eq_true] at hg
    obtain ⟨w₁, h₁, hret⟩ := bind_eq_ok.mp hf
    obtain ⟨v, hv, rfl⟩ := onWorld_ok.mp h₁
    have hworld : w'.world = v := by
      split at hret <;> cases hret <;> rfl
    refine back_end_trace (b := .check c) hs hg.2 (hworld ▸ hv) (fun k hk => ?_) hkept
    cases hk
    exact not_replying_of_stage (of_decide_eq_true hg.2) (by simp)
  | take c =>
    simp only [enabled, Bool.and_eq_true] at hg
    obtain ⟨v, hv, rfl⟩ := onWorld_ok.mp hf
    refine back_end_trace (b := .take c) hs hg.2 hv (fun k hk => ?_) hkept
    cases hk
    have hst := hg.2
    simp only [World.enabled, Bool.and_eq_true, decide_eq_true_eq] at hst
    exact not_replying_of_stage hst.2 (by simp)
  | run c reply =>
    simp only [enabled, Bool.and_eq_true] at hg
    obtain ⟨v, hv, rfl⟩ := (onWorld_ok (f := (World.fire codec · (.run c reply)))).mp hf
    refine back_end_trace (b := .run c reply) hs hg.2 hv (fun k hk => ?_) hkept
    cases hk
    exact not_replying_of_stage (of_decide_eq_true hg.2) (by simp)
  | backEnd b =>
    simp only [enabled, Bool.and_eq_true] at hg
    obtain ⟨v, hv, rfl⟩ := (onWorld_ok (f := (World.fire codec · b))).mp hf
    refine back_end_trace (b := b) hs hg.2 hv (fun k hk => ?_) hkept
    have hforeign : b.client.all w.unused = true := by
      have hall := hg.1
      cases b <;> first | exact hall | cases hk
    rw [hk, Option.all_some] at hforeign
    exact not_replying_of_unused hforeign

/-! ## Runs -/

/-- **Every step is a piece of history.** -/
theorem fire_trace (h : w.Disciplined) (hs : World.Serving w.world) (hg : w.enabled l = true)
    (hf : w.fire codec messages l = .ok w') :
    (sessionServer codec).Trace w.served (w.seen messages w' l) w'.served := by
  cases hl : l.repliesTo with
  | none => exact quiet_trace h hs hg hf hl
  | some c =>
    cases l <;> cases hl
    · exact bodyRead_trace h hg hf
    · rw [finish_served h hg hf (.inl rfl)]
      exact .nil _
    · rename_i fresh
      exact answer_trace h hg hf (.inl ⟨fresh, rfl⟩)
    · rw [finish_served h hg hf (.inr rfl)]
      exact .nil _
    · rename_i fresh
      exact answer_trace h hg hf (.inr ⟨fresh, rfl⟩)

theorem serving_step (h : w.Disciplined) (hs : World.Serving w.world) (hg : w.enabled l = true)
    (hf : w.fire codec messages l = .ok w') : World.Serving w'.world := by
  cases fire_backEndStep h hg hf with
  | none heq => rw [heq]; exact hs
  | client _ _ _ hgb hfb => exact hs.step hgb hfb
  | other _ hgb hfb => exact hs.step hgb hfb

/-- **The front end implements the session server.** -/
theorem front_end_implements (codec : BasicProtocolCodec) (messages : ClientMessageCodec) :
    (frontEndMachine codec messages).Implements (sessionServer codec)
      (fun w => w.Disciplined ∧ World.Serving w.world) served (observe codec messages) where
  keeps _ _ _ h hg hf := ⟨h.1.step hg hf, serving_step h.1 h.2 hg hf⟩
  step w l w' h hg hf := by
    have hf : w.fire codec messages l = .ok w' := hf
    rw [observe, hf]
    exact fire_trace h.1 h.2 hg hf

/-- The request that a step brings in: the one in the body, or that of another user of the back
end. -/
def asked (messages : ClientMessageCodec) : TcpWorld × TcpLabel → Option (ClientPtr × ClientRequest)
  | (w, .bodyRead c body) => some (c, w.parsed messages c body)
  | (_, .backEnd b) => b.asked
  | _ => none

theorem seen_called : (w.seen messages w' l).filterMap Event.called =
    (asked messages (w, l)).toList := by
  cases l
  case bodyRead c body =>
    simp only [seen, asked]
    cases w.world.state.acceptingRequests <;> rfl
  case check c => exact World.seen_called w.world w'.world (.check c)
  case take c => exact World.seen_called w.world w'.world (.take c)
  case run c reply => exact World.seen_called w.world w'.world (.run c reply)
  case backEnd b => exact World.seen_called w.world w'.world b
  case headerRead | failed | sweep =>
    simp only [seen, left, asked]
    split <;> rfl
  all_goals rfl

theorem history_called {r : Except FrontEndFault TcpWorld} {tr : List (TcpWorld × TcpLabel)}
    (h : (frontEndMachine codec messages).Run w tr r) (hr : ∃ w', r = .ok w') :
    (history codec messages tr).filterMap Event.called = tr.filterMap (asked messages) := by
  induction h with
  | done => rfl
  | fault => obtain ⟨w', hw'⟩ := hr; cases hw'
  | @step w w₁ l tr r hg hf _ ih =>
    have hf : w.fire codec messages l = .ok w₁ := hf
    rw [history, List.flatMap_cons, List.filterMap_append, observe, hf, seen_called, ← history,
      ih hr]
    cases hl : asked messages (w, l) <;> simp [hl]

/-- A run is one of the server. -/
structure Linearizes (codec : BasicProtocolCodec) (messages : ClientMessageCodec) (w₀ : TcpWorld)
    (tr : List (TcpWorld × TcpLabel)) (w : TcpWorld) : Prop where
  trace : (sessionServer codec).Trace w₀.served (history codec messages tr) w.served
  serial : (sessionServer codec).Serial w₀.world.server
    ((history codec messages tr).filterMap Event.act) w.world.server
  conversation : ∀ c, Conversation (w₀.served.turns c)
    ((history codec messages tr).filterMap (Event.of c)) (w.served.turns c)
  requests : (history codec messages tr).filterMap Event.called = tr.filterMap (asked messages)

/-- **The TCP front end is linearizable.**  In every order of the handlers of all connections, of
the pool threads and of the other users of the back end, what the clients see is a history of the
session server: its calls are the requests parsed from the bodies, the effects are an execution
that serves one request after the other, and each connection is sent, for each request, the response
of that request's effect, after it took effect and before the next request is read. -/
theorem front_end_linearizable (codec : BasicProtocolCodec) (messages : ClientMessageCodec)
    (sourceType : SourceConnectionType) (backendType : DestinationConnectionType)
    {tr : List (TcpWorld × TcpLabel)} {w : TcpWorld}
    (h : (frontEndMachine codec messages).Run (init sourceType backendType) tr (.ok w)) :
    Linearizes codec messages (init sourceType backendType) tr w := by
  have htrace := (front_end_implements codec messages).trace h
    ⟨init_disciplined _ _, World.init_serving _ _⟩
  exact ⟨htrace, htrace.serial, htrace.conversation, history_called h ⟨w, rfl⟩⟩

/-- A hello is served while another user of the back end comes and goes. -/
def sampleServedBeside : List TcpLabel :=
  sampleAccept 7 ++ sampleFrames 7 sampleHelloBody ++
    [.check 7, .backEnd (.connect 8 true), .take 7, .run 7 {}, .endRan 7,
      .backEnd (.disconnect 8 fun _ => {}), .answerRan 7 fun _ => 0, .responseWritten 7]

theorem front_end_linearizable_sample : ∃ tr w,
    (history basicProtocolCodec clientMessageCodec tr).length = 7 ∧
      Linearizes basicProtocolCodec clientMessageCodec (init .sourceRelay .targetMarshall) tr w := by
  obtain ⟨w, hrun, -⟩ := (frontEndMachine basicProtocolCodec clientMessageCodec).exec_observed
    (init .sourceRelay .targetMarshall) sampleServedBeside (fun w => w.unanswered 7) (a := false)
    (by decide +kernel) (by decide +kernel)
  exact ⟨_, w, by decide +kernel, front_end_linearizable _ _ _ _ hrun⟩

end TcpWorld

end RblRpc
