import RblRpc.Backend.Unending
import RblRpc.Tcp.Exchange

/-!
# Every request is answered

The io thread and a pool thread take the request of a connection from one step to the next.  No
other step takes it back, and each of its own returns, unless the request is one that no dispatch
ends.

* `ownSteps` — the steps that bring a request nearer to `handle_write_response`.
* `AnswersOnce` — they can be taken, and call `handle_write_response` once.
* `Steady.answersOnce_iff` — **this is so exactly for the requests that do not strand.**
* `one_response_per_request` — **on every connection and in every run, bodies and responses
  alternate, and `disconnect_client` is applied to idle connections only; and what is read is
  answered exactly if nothing that strands is.**
-/

namespace RblRpc

open Transition Pairing

namespace TcpWorld

variable {codec : BasicProtocolCodec} {messages : ClientMessageCodec} {w w' : TcpWorld}
  {c : ClientPtr} {q : Option Phase} {l : TcpLabel} {reply : ServiceReply} {fresh : ℕ → UInt8}

/-! ## The steps of a request -/

/-- The steps from the body of a request to its response, where its service replies so and a new
array holds this. -/
def ownSteps (c : ClientPtr) (reply : ServiceReply) (fresh : ℕ → UInt8) : List TcpLabel :=
  [.check c, .endRejected c, .answerRejected c fresh, .take c, .run c reply, .endRan c,
    .answerRan c fresh]

theorem ownSteps_connection (hl : l ∈ ownSteps c reply fresh) :
    l.connection = some c ∧ l.renews = false := by
  simp only [ownSteps, List.mem_cons, List.not_mem_nil, or_false] at hl
  rcases hl with rfl | rfl | rfl | rfl | rfl | rfl | rfl <;> exact ⟨rfl, rfl⟩

theorem distance_lt {q' : Option Phase} (hl : l ∈ ownSteps c reply fresh)
    (h : PhaseStep c l q q') : q'.elim 0 Phase.distance < q.elim 0 Phase.distance := by
  simp only [ownSteps, List.mem_cons, List.not_mem_nil, or_false] at hl
  rcases hl with rfl | rfl | rfl | rfl | rfl | rfl | rfl <;> cases h <;>
    first | contradiction | decide

/-- **Each of them brings the request nearer** to its response. -/
theorem ownSteps_nearer (h : w.Disciplined) (hl : l ∈ ownSteps c reply fresh)
    (hg : w.enabled l = true) (hf : w.fire codec messages l = .ok w') :
    w'.distance c < w.distance c := by
  obtain ⟨q, hq⟩ := h.placed c
  obtain ⟨q', hstep, hq', -⟩ := fire_phaseStep h hq hg hf
  rw [hq'.distance, hq.distance]
  exact distance_lt hl hstep

/-- The step of another user that lets requests in does so in turn. -/
def opensInTurn (w : TcpWorld) : TcpLabel → Bool
  | .backEnd b => w.world.opensInTurn b
  | _ => true

/-- The invariant of the runs in which requests are let in in turn. -/
structure Steady (w : TcpWorld) : Prop extends Disciplined w where
  world : World.Steady w.world

theorem Steady.step (h : w.Steady) (hopens : w.opensInTurn l = true) (hg : w.enabled l = true)
    (hf : w.fire codec messages l = .ok w') : w'.Steady := by
  refine ⟨h.toDisciplined.step hg hf, ?_⟩
  cases fire_backEndStep h.toDisciplined hg hf with
  | none heq => rw [heq]; exact h.world
  | client _ hb _ hgw hfw => exact h.world.step (World.opensInTurn_client hb) hgw hfw
  | other hl hgw hfw =>
    subst hl
    exact h.world.step hopens hgw hfw

theorem opensInTurn_own (hl : l ∈ ownSteps c reply fresh) : w.opensInTurn l = true := by
  cases l <;> first | rfl | cases (ownSteps_connection hl).1

theorem init_steady (sourceType : SourceConnectionType)
    (backendType : DestinationConnectionType) : (init sourceType backendType).Steady :=
  ⟨init_disciplined _ _, World.init_steady _ _⟩

namespace Steady

/-- **One of them can be taken** while the request has no response. -/
theorem progress (h : w.Steady) (hun : w.unanswered c = true) (reply : ServiceReply)
    (fresh : ℕ → UInt8) : ∃ l ∈ ownSteps c reply fresh, w.enabled l = true := by
  obtain ⟨_ | p, hq⟩ := h.placed c
  · rw [hq.unanswered] at hun
    cases hun
  rw [hq.unanswered] at hun
  cases p with
  | header | body | answered | writing => cases hun
  | accepted =>
    refine ⟨.check c, by simp [ownSteps], ?_⟩
    simp only [enabled, World.enabled, taskOf_eq_some hq.task, hq.stage, Phase.stage,
      decide_true, Bool.and_self]
  | rejected =>
    refine ⟨.endRejected c, by simp [ownSteps], ?_⟩
    simp only [enabled, taskOf_eq_some hq.task, hq.stage, Phase.stage, decide_true, Bool.and_self]
  | refused =>
    refine ⟨.answerRejected c fresh, by simp [ownSteps], ?_⟩
    simp only [enabled, taskOf_eq_some hq.task, decide_true]
  | posted =>
    refine ⟨.take c, by simp [ownSteps], ?_⟩
    have hst : w.world.stage c = .posted := hq.stage
    have hlasting := h.world.lasting (c := c) (by rw [hst]; exact Stage.noConfusion)
    simp only [enabled, hq.alive, (hlasting.take_total basicProtocolCodec hst).1, Bool.and_self]
  | running =>
    refine ⟨.run c reply, by simp [ownSteps], ?_⟩
    simp only [enabled, World.enabled, hq.alive, hq.stage, Phase.stage, decide_true, Bool.and_self]
  | ran =>
    refine ⟨.endRan c, by simp [ownSteps], ?_⟩
    simp only [enabled, hq.alive, hq.stage, Phase.stage, decide_true, Bool.and_self]
  | poolAnswering =>
    refine ⟨.answerRan c fresh, by simp [ownSteps], ?_⟩
    exact hq.poolAnswers

/-- **Each of them returns**, unless the request is one that no dispatch ends. -/
theorem own_total (h : w.Steady) (hends : ¬World.Unending codec w.world c)
    (hl : l ∈ ownSteps c reply fresh) (hg : w.enabled l = true) :
    ∃ w', w.fire codec messages l = .ok w' := by
  have haccounted := h.world.attended.serving.sound.accounted
  simp only [ownSteps, List.mem_cons, List.not_mem_nil, or_false] at hl
  rcases hl with rfl | rfl | rfl | rfl | rfl | rfl | rfl
  · simp only [enabled, Bool.and_eq_true] at hg
    have hst : w.world.stage c = .accepted := of_decide_eq_true hg.2
    have hbusy : w.world.stage c ≠ .idle := by rw [hst]; exact Stage.noConfusion
    obtain ⟨v, hv⟩ : ∃ v, World.fire codec w.world (.check c) = .ok v :=
      (h.world.lasting hbusy).fire_total (h.world.busy c hbusy) rfl hg.2 fun _ h => by cases h
    exact ⟨_, bind_eq_ok.mpr ⟨_, onWorld_ok.mpr ⟨v, hv, rfl⟩, rfl⟩⟩
  · simp only [enabled, Bool.and_eq_true, decide_eq_true_eq] at hg
    obtain ⟨v, hv⟩ := haccounted.finish_total codec (c := c)
      (by simp only [World.enabled, hg.2, decide_true, Bool.true_or])
    exact ⟨_, bind_eq_ok.mpr ⟨_, onWorld_ok.mpr ⟨v, hv, rfl⟩, rfl⟩⟩
  · obtain ⟨k, hk, -⟩ := Connection.handleWriteResponse_eq messages fresh (w.view c)
    exact ⟨_, bind_eq_ok.mpr ⟨_, onConnection_ok.mpr ⟨k, hk, rfl⟩, rfl⟩⟩
  · exact ⟨_, onWorld_ok.mpr ⟨_, rfl, rfl⟩⟩
  · simp only [enabled, Bool.and_eq_true] at hg
    have hst : w.world.stage c = .running := of_decide_eq_true hg.2
    have hbusy : w.world.stage c ≠ .idle := by rw [hst]; exact Stage.noConfusion
    have hstranded : w.world.stranded codec c = false := by
      rw [← Bool.not_eq_true]
      exact fun hs => hends ⟨.inr (.inr hst), hs⟩
    obtain ⟨v, hv⟩ := ((h.world.lasting hbusy).run_ok_iff hst reply).mpr hstranded
    exact ⟨_, (onWorld_ok (f := (World.fire codec · (.run c reply)))).mpr ⟨v, hv, rfl⟩⟩
  · simp only [enabled, Bool.and_eq_true, decide_eq_true_eq] at hg
    obtain ⟨v, hv⟩ := haccounted.finish_total codec (c := c)
      (by simp only [World.enabled, hg.2, decide_true, Bool.or_true])
    exact ⟨_, bind_eq_ok.mpr ⟨_, onWorld_ok.mpr ⟨v, hv, rfl⟩, rfl⟩⟩
  · obtain ⟨k, hk, -⟩ := Connection.handleWriteResponse_eq messages fresh (w.view c)
    exact ⟨_, bind_eq_ok.mpr ⟨_, onConnection_ok.mpr ⟨k, hk, rfl⟩, rfl⟩⟩

end Steady

/-! ## Requests that never end -/

/-- `handle_read_body` reads a request that no dispatch ends, exactly if `invoke` accepts it and its
checks will post it. -/
theorem bodyRead_unending_iff {body : Bytes} (hf : w.bodyRead messages c body = .ok w') :
    World.Unending codec w'.world c ↔
      World.AcceptsUnending codec w.world c (w.parsed messages c body) := by
  obtain ⟨request, k, v, hk, hv, rfl⟩ := bodyRead_ok hf
  rw [parsed, hk]
  exact World.request_unending_iff hv

/-- Such a request stays so. -/
theorem unending_step (h : w.Steady) (hg : w.enabled l = true)
    (hf : w.fire codec messages l = .ok w') (hun : World.Unending codec w.world c) :
    World.Unending codec w'.world c := by
  cases fire_backEndStep h.toDisciplined hg hf with
  | none heq => rwa [heq]
  | client _ _ _ hgw hfw => exact hun.step h.world hgw hfw
  | other _ hgw hfw => exact hun.step h.world hgw hfw

/-- The other steps found it so. -/
theorem unending_back (h : w.Steady) (hun : w.unanswered c = true)
    (hl : ∀ body, l ≠ .bodyRead c body) (hg : w.enabled l = true)
    (hf : w.fire codec messages l = .ok w') (hend : World.Unending codec w'.world c) :
    World.Unending codec w.world c := by
  have ha : (w.connections c).alive = true := by
    simp only [unanswered, Bool.and_eq_true] at hun
    exact hun.1
  cases fire_backEndStep h.toDisciplined hg hf with
  | none heq => rwa [heq] at hend
  | client hconn hb hnew hgw hfw =>
    rcases World.unending_step h.world hgw hfw hend with hend | ⟨resets, r, rfl, -⟩
    · exact hend
    · cases hb
      cases l with
      | accept c' fresh =>
        cases hconn
        simp only [enabled, unused_of_alive ha, Bool.and_false, Bool.false_and] at hg
        cases hg
      | bodyRead c' body =>
        cases hconn
        exact absurd rfl (hl body)
      | _ => cases hnew
  | other heq hgw hfw =>
    rcases World.unending_step h.world hgw hfw hend with hend | ⟨resets, r, rfl, -⟩
    · exact hend
    · subst heq
      simp only [enabled, foreign, Label.client, Option.all_some, unused_of_alive ha,
        Bool.false_and] at hg
      cases hg

/-- None of its steps starts its response. -/
theorem own_unanswered (h : w.Disciplined) (hun : w.unanswered c = true)
    (hend : World.Unending codec w.world c) (hl : l ∈ ownSteps c reply fresh)
    (hg : w.enabled l = true) (hf : w.fire codec messages l = .ok w') :
    w'.unanswered c = true := by
  obtain ⟨_ | p, hq⟩ := h.placed c
  · rw [hq.unanswered] at hun
    cases hun
  obtain ⟨q', hstep, hq', -⟩ := fire_phaseStep h hq hg hf
  have hbusy : p.stage ≠ .idle := by
    rw [← hq.stage]
    exact hend.busy
  rw [hq'.unanswered]
  have hconn := ownSteps_connection hl
  cases hstep with
  | reject | post | endRejected | take | run | endRan => rfl
  | other _ hne => exact absurd hconn.1 hne
  | failed reply hcarries => exact absurd (Phase.carries_idle hcarries) hbusy
  | sweep => simp [ownSteps] at hl
  | _ => exact absurd rfl hbusy

/-! ## The response -/

/-- **What one of them does**: it calls `handle_write_response` for the request, or the request is
still without its response. -/
theorem own_exchanged (h : w.Disciplined) (hun : w.unanswered c = true)
    (hl : l ∈ ownSteps c reply fresh) (hg : w.enabled l = true)
    (hf : w.fire codec messages l = .ok w') :
    (exchanged messages c (w, l) = some (.closed (w.world.data c).request) ∧
        w'.unanswered c = false ∧ w'.writes c = true) ∨
      exchanged messages c (w, l) = none ∧ w'.unanswered c = true ∧
        (w'.world.data c).request = (w.world.data c).request := by
  have hpaired := exchanged_step (c := c) h hg hf
  rw [hun, slot, if_pos rfl] at hpaired
  have hkept : exchanged messages c (w, l) = none → w'.unanswered c = true ∧
      (w'.world.data c).request = (w.world.data c).request := by
    intro he
    rw [he] at hpaired
    cases hun' : w'.unanswered c with
    | false =>
      rw [hun'] at hpaired
      cases hpaired
    | true =>
      rw [hun', slot, if_pos rfl] at hpaired
      generalize hr : (w'.world.data c).request = r at hpaired
      cases hpaired
      exact ⟨rfl, rfl⟩
  have hclosed : exchanged messages c (w, l) = some (.closed (w.world.data c).request) →
      w'.unanswered c = false := by
    intro he
    rw [he] at hpaired
    cases hun' : w'.unanswered c with
    | false => rfl
    | true =>
      rw [hun', slot, if_pos rfl] at hpaired
      obtain - | - | hnil := hpaired
      cases hnil
  have hwrites : ∀ w₁ : TcpWorld,
      w.onConnection c (Connection.handleWriteResponse messages fresh) = .ok w₁ →
      (w'.connections c).operation = (w₁.connections c).operation → w'.writes c = true :=
    fun w₁ h₁ hop => (writes_congr hop).trans (writeResponse_writes h₁)
  simp only [ownSteps, List.mem_cons, List.not_mem_nil, or_false] at hl
  rcases hl with rfl | rfl | rfl | rfl | rfl | rfl | rfl
  · exact .inr ⟨rfl, hkept rfl⟩
  · exact .inr ⟨rfl, hkept rfl⟩
  · have he : exchanged messages c (w, .answerRejected c fresh) =
      some (.closed (w.world.data c).request) := if_pos rfl
    obtain ⟨w₁, h₁, hret⟩ := bind_eq_ok.mp hf
    cases hret
    exact .inl ⟨he, hclosed he, hwrites w₁ h₁ rfl⟩
  · exact .inr ⟨rfl, hkept rfl⟩
  · exact .inr ⟨rfl, hkept rfl⟩
  · exact .inr ⟨rfl, hkept rfl⟩
  · have he : exchanged messages c (w, .answerRan c fresh) =
      some (.closed (w.world.data c).request) := if_pos rfl
    obtain ⟨w₁, h₁, hret⟩ := bind_eq_ok.mp hf
    cases hret
    exact .inl ⟨he, hclosed he, hwrites w₁ h₁ (by rw [modify_connections_self])⟩

/-- The steps `tr`, all of them of the request of `c`, take `w` to `w'` and call
`handle_write_response` once, for that request. -/
structure AnsweredBy (codec : BasicProtocolCodec) (messages : ClientMessageCodec) (c : ClientPtr)
    (reply : ServiceReply) (fresh : ℕ → UInt8) (w : TcpWorld) (tr : List (TcpWorld × TcpLabel))
    (w' : TcpWorld) : Prop where
  run : (frontEndMachine codec messages).Run w tr (.ok w')
  own : ∀ p ∈ tr, p.2 ∈ ownSteps c reply fresh
  length : tr.length ≤ w.distance c
  once : exchange messages c tr = [.closed (w.world.data c).request]
  answered : w'.unanswered c = false
  writes : w'.writes c = true

/-- **The request of `c` is answered**: what is left to do of it can be done, whatever its service
replies and a new array holds. -/
def AnswersOnce (codec : BasicProtocolCodec) (messages : ClientMessageCodec) (c : ClientPtr)
    (w : TcpWorld) : Prop :=
  ∀ reply fresh, ∃ tr w', AnsweredBy codec messages c reply fresh w tr w'

namespace Steady

/-- A request that does not strand is answered.  By induction on how far it is from its response. -/
theorem answersOnce (h : w.Steady) (hun : w.unanswered c = true)
    (hends : ¬World.Unending codec w.world c) : AnswersOnce codec messages c w := by
  intro reply fresh
  induction hn : w.distance c using Nat.strong_induction_on generalizing w with
  | _ n ih =>
    obtain ⟨l, hl, hg⟩ := h.progress hun reply fresh
    obtain ⟨w₁, hf⟩ : ∃ w₁, w.fire codec messages l = .ok w₁ := h.own_total hends hl hg
    have hlt : w₁.distance c < n := hn ▸ ownSteps_nearer h.toDisciplined hl hg hf
    rcases own_exchanged h.toDisciplined hun hl hg hf with ⟨he, hun₁, hw⟩ | ⟨he, hun₁, hreq⟩
    · refine ⟨[(w, l)], w₁, .step hg hf (.done w₁), ?_, ?_, ?_, hun₁, hw⟩
      · simpa using hl
      · show 1 ≤ w.distance c
        omega
      · rw [exchange, List.filterMap_cons, he]
        rfl
    · have hends₁ : ¬World.Unending codec w₁.world c := by
        intro hun'
        refine hends (unending_back h hun (fun body heq => ?_) hg hf hun')
        rw [heq] at hl
        cases (ownSteps_connection hl).2
      have h₁ := h.step (opensInTurn_own hl) hg hf
      obtain ⟨tr, w', hrun, hown, hlen, honce, hans, hw⟩ := ih _ hlt h₁ hun₁ hends₁ rfl
      refine ⟨(w, l) :: tr, w', .step hg hf hrun, ?_, ?_, ?_, hans, hw⟩
      · rintro p (- | ⟨-, hp⟩)
        · exact hl
        · exact hown p hp
      · rw [List.length_cons]
        omega
      · rw [exchange, List.filterMap_cons, he, ← hreq]
        exact honce

/-- **A request is answered exactly if it does not strand.** -/
theorem answersOnce_iff (h : w.Steady) (hun : w.unanswered c = true) :
    AnswersOnce codec messages c w ↔ ¬World.Unending codec w.world c := by
  refine ⟨fun hall hend => ?_, h.answersOnce hun⟩
  obtain ⟨tr, w', hrun, hown, -, -, hanswered, -⟩ := hall {} fun _ => 0
  have hlast := hrun.invariant
    (I := fun w => w.Steady ∧ w.unanswered c = true ∧ World.Unending codec w.world c)
    (C := fun _ l => l ∈ ownSteps c {} fun _ => 0)
    (fun _ _ _ ⟨hs, hun, hend⟩ hl hg hf => ⟨hs.step (opensInTurn_own hl) hg hf,
      own_unanswered hs.toDisciplined hun hend hl hg hf, unending_step hs hg hf hend⟩)
    ⟨h, hun, hend⟩ hown
  rw [(hlast.2 w' rfl).2.1] at hanswered
  cases hanswered

end Steady

/-! ## The theorem -/

/-- A body is read of a request that is accepted, that the checks will post, and that no dispatch
ends. -/
def ReadsUnending (codec : BasicProtocolCodec) (messages : ClientMessageCodec)
    (p : TcpWorld × TcpLabel) : Prop :=
  ∃ c body, p.2 = .bodyRead c body ∧
    World.AcceptsUnending codec p.1.world c (p.1.parsed messages c body)

/-- No request without its response is one that no dispatch ends. -/
def NoneUnending (codec : BasicProtocolCodec) (w : TcpWorld) : Prop :=
  ∀ c, w.unanswered c = true → ¬World.Unending codec w.world c

theorem NoneUnending.step (h : NoneUnending codec w) (hw : w.Steady)
    (hno : ¬ReadsUnending codec messages (w, l)) (hg : w.enabled l = true)
    (hf : w.fire codec messages l = .ok w') : NoneUnending codec w' := by
  intro c hun' hend
  by_cases hl : ∃ body, l = .bodyRead c body
  · obtain ⟨body, rfl⟩ := hl
    exact hno ⟨c, body, rfl, (bodyRead_unending_iff hf).mp hend⟩
  · obtain ⟨q, hq⟩ := hw.placed c
    obtain ⟨q', hstep, hq', -⟩ := fire_phaseStep hw.toDisciplined hq hg hf
    have hun : w.unanswered c = true := by
      rw [hq'.unanswered] at hun'
      rw [hq.unanswered]
      cases hstep with
      | bodyAccepted body | bodyRefused body => exact absurd ⟨body, rfl⟩ hl
      | _ => first | exact hun' | cases hun'
    exact h c hun (unending_back hw hun (fun body heq => hl ⟨body, heq⟩) hg hf hend)

/-- `handle_read_body` returns, or is in `invoke`. -/
theorem bodyRead_total {body : Bytes} (h : w.Disciplined)
    (hg : w.enabled (.bodyRead c body) = true) :
    ∃ w', w.fire codec messages (.bodyRead c body) = .ok w' ∧ w'.unanswered c = true := by
  obtain ⟨q, hq⟩ := h.placed c
  have hop := hg
  simp only [enabled, Bool.and_eq_true, decide_eq_true_eq] at hop
  obtain ⟨p, rfl, hp⟩ : ∃ p, q = some p ∧ p.carries (.readBody body.length) = true := by
    rcases hq.of_operation hop.2 with ⟨-, heq⟩ | hp
    · cases heq
    · exact hp
  have hgw : ∀ r, w.world.enabled (.request c false r) = true := fun r => by
    simp only [World.enabled, (h.sane c).connected hq.alive, h.idle_of_operation hq.alive hop.2,
      decide_true, Bool.and_self]
  obtain ⟨v, hv⟩ := h.accounted.request_total codec (hgw (w.parsed messages c body))
  have hf : ∃ w', w.fire codec messages (.bodyRead c body) = .ok w' :=
    ⟨_, bind_eq_ok.mpr ⟨_, onWorld_ok.mpr ⟨v, hv, rfl⟩, rfl⟩⟩
  obtain ⟨w', hf⟩ := hf
  obtain ⟨q', hstep, hq', -⟩ := fire_phaseStep h hq hg hf
  refine ⟨w', hf, ?_⟩
  rw [hq'.unanswered]
  cases hstep with
  | other _ hne => exact absurd rfl hne
  | bodyAccepted | bodyRefused => rfl

theorem run_steady {sourceType : SourceConnectionType} {backendType : DestinationConnectionType}
    {tr : List (TcpWorld × TcpLabel)} {r : Except FrontEndFault TcpWorld}
    (hrun : (frontEndMachine codec messages).Run (init sourceType backendType) tr r)
    (hopens : ∀ p ∈ tr, p.1.opensInTurn p.2 = true) : Machine.Always Steady tr r :=
  hrun.invariant (C := fun w l => w.opensInTurn l = true)
    (fun _ _ _ hw hopens hg hf => hw.step hopens hg hf) (init_steady _ _) hopens

/-- **What is read is answered, exactly** if nothing that strands is read. -/
theorem answers_iff {sourceType : SourceConnectionType} {backendType : DestinationConnectionType}
    {tr : List (TcpWorld × TcpLabel)} {r : Except FrontEndFault TcpWorld}
    (hrun : (frontEndMachine codec messages).Run (init sourceType backendType) tr r)
    (hopens : ∀ p ∈ tr, p.1.opensInTurn p.2 = true) :
    Machine.Always (fun w => ∀ c, w.unanswered c = true → AnswersOnce codec messages c w) tr r ↔
      ∀ p ∈ tr, ¬ReadsUnending codec messages p := by
  have hsteady := run_steady hrun hopens
  constructor
  · rintro hall ⟨w, l⟩ hp ⟨c, body, hl, haccepts⟩
    dsimp only at hl haccepts
    subst hl
    have hw := hsteady.1 _ hp
    obtain ⟨w', hf, hun⟩ : ∃ w', w.fire codec messages (.bodyRead c body) = .ok w' ∧
        w'.unanswered c = true := bodyRead_total hw.toDisciplined (hrun.guard _ hp)
    have hend := (bodyRead_unending_iff hf).mpr haccepts
    exact ((hrun.always_next hsteady hp hf).answersOnce_iff hun).mp
      (hrun.always_next hall hp hf c hun) hend
  · intro hno
    have hnone := hrun.invariant (I := fun w => w.Steady ∧ NoneUnending codec w)
      (C := fun w l => w.opensInTurn l = true ∧ ¬ReadsUnending codec messages (w, l))
      (fun _ _ _ hw hC hg hf => ⟨hw.1.step hC.1 hg hf, hw.2.step hw.1 hC.2 hg hf⟩)
      ⟨init_steady _ _, fun _ hun => Bool.noConfusion hun⟩
      fun p hp => ⟨hopens p hp, hno p hp⟩
    have hans : ∀ w, w.Steady ∧ NoneUnending codec w →
        ∀ c, w.unanswered c = true → AnswersOnce codec messages c w :=
      fun w hw c hun => (hw.1.answersOnce_iff hun).mpr (hw.2 c hun)
    exact ⟨fun p hp => hans _ (hnone.1 p hp), fun w hw => hans _ (hnone.2 w hw)⟩

/-- The requests of connection `c` and their responses, in the history of a run and from its last
state on. -/
structure Alternates (codec : BasicProtocolCodec) (messages : ClientMessageCodec) (c : ClientPtr)
    (tr : List (TcpWorld × TcpLabel)) (w : TcpWorld) : Prop where
  answered : Paired none (exchange messages c tr) (w.slot c (w.unanswered c))
  completed : Paired none (completions messages c tr) (w.slot c (w.outstanding c))
  unanswered : 0 < w.distance c ↔ w.unanswered c = true
  nearer : ∀ l w', w.unanswered c = true → w.enabled l = true →
    w.fire codec messages l = .ok w' → w'.distance c ≤ w.distance c ∧
      ∀ reply fresh, l ∈ ownSteps c reply fresh → w'.distance c < w.distance c

/-- `disconnect_client` is applied only to connections that wait for a header. -/
def CutsIdle (tr : List (TcpWorld × TcpLabel)) : Prop :=
  ∀ p ∈ tr, ∀ c, p.1.disconnects p.2 = some c →
    (p.1.connections c).ioState = .readHeaderWaitRequestStartInactive

/-- One response per request: the requests of each connection and their responses alternate, none
is cut off, and in all states of the run what was read is answered. -/
structure OneResponse (codec : BasicProtocolCodec) (messages : ClientMessageCodec)
    (tr : List (TcpWorld × TcpLabel)) (r : Except FrontEndFault TcpWorld) : Prop where
  alternates : ∀ w, r = .ok w → ∀ c, Alternates codec messages c tr w
  cutsIdle : CutsIdle tr
  answers : Machine.Always
    (fun w => ∀ c, w.unanswered c = true → AnswersOnce codec messages c w) tr r

/-- **One response per request.**  In every run of a front end, for every connection: bodies and
calls of `handle_write_response` alternate, each call for the request that was read last, and
bodies and completed writes do; a request without its response stays as near to it as it was with
every step of whatever thread, and comes nearer with each of its own; and `disconnect_client` is
applied only to connections that wait for a header.  And in every run in which requests are let in
between the start and the shutdown only, each request that was read has its response ahead of it,
whatever the other threads did, exactly if none was accepted that no dispatch ends. -/
theorem one_response_per_request (codec : BasicProtocolCodec) (messages : ClientMessageCodec)
    (sourceType : SourceConnectionType) (backendType : DestinationConnectionType)
    {tr : List (TcpWorld × TcpLabel)} {r : Except FrontEndFault TcpWorld}
    (hrun : (frontEndMachine codec messages).Run (init sourceType backendType) tr r) :
    (∀ w, r = .ok w → ∀ c, Alternates codec messages c tr w) ∧ CutsIdle tr ∧
      ((∀ p ∈ tr, p.1.opensInTurn p.2 = true) →
        (OneResponse codec messages tr r ↔ ∀ p ∈ tr, ¬ReadsUnending codec messages p)) := by
  have halternates : ∀ w, r = .ok w → ∀ c, Alternates codec messages c tr w := by
    rintro w rfl c
    have hinit := init_disciplined sourceType backendType
    have h : w.Disciplined := disciplined_reaches ⟨tr, hrun⟩
    obtain ⟨q, hq⟩ := h.placed c
    refine ⟨?_, ?_, hq.distance_pos, fun l w' hun hg hf => ⟨?_, fun reply fresh hl => ?_⟩⟩
    · exact hrun.paired (I := Disciplined) (f := fun w => w.slot c (w.unanswered c))
        (fun _ _ _ hI hg hf => ⟨hI.step hg hf, exchanged_step hI hg hf⟩) hinit
    · exact hrun.paired (I := Disciplined) (f := fun w => w.slot c (w.outstanding c))
        (fun _ _ _ hI hg hf => ⟨hI.step hg hf, completed_step hI hg hf⟩) hinit
    · obtain ⟨q', hstep, hq', -⟩ := fire_phaseStep h hq hg hf
      rw [hq'.distance, hq.distance]
      rw [hq.unanswered] at hun
      exact distance_le hstep hun
    · exact ownSteps_nearer h hl hg hf
  have hcuts : CutsIdle tr := fun p hp c hd =>
    disconnects_idle (disciplined_reaches (hrun.reaches hp)) (hrun.guard p hp) hd
  refine ⟨halternates, hcuts, fun hopens => ⟨fun hone => ?_, fun hno => ?_⟩⟩
  · exact (answers_iff hrun hopens).mp hone.answers
  · exact ⟨halternates, hcuts, (answers_iff hrun hopens).mpr hno⟩

/-- The body of a request that strands is read. -/
def readsStranded (codec : BasicProtocolCodec) (messages : ClientMessageCodec)
    (p : TcpWorld × TcpLabel) : Bool :=
  match p.2 with
  | .bodyRead c body => p.1.world.backEnd.strands codec (p.1.parsed messages c body)
  | _ => false

theorem ReadsUnending.reads {p : TcpWorld × TcpLabel} (h : ReadsUnending codec messages p) :
    readsStranded codec messages p = true := by
  obtain ⟨c, body, hl, haccepts⟩ := h
  rw [readsStranded, hl]
  exact haccepts.strands

/-- A hello is answered over TCP, and the body of the next request is read. -/
def sampleRead (body : Bytes) : List TcpLabel :=
  sampleAccept 7 ++ sampleFrames 7 sampleHelloBody ++
    [.check 7, .take 7, .run 7 {}, .endRan 7, .answerRan 7 fun _ => 0, .responseWritten 7] ++
    sampleFrames 7 body

/-- A hello is sent again while its client waits for the answer. -/
theorem one_response_per_request_sample : ∃ tr w,
    (exchange clientMessageCodec 7 tr).length = 3 ∧ w.unanswered 7 = true ∧
      OneResponse basicProtocolCodec clientMessageCodec tr (.ok w) := by
  let m := frontEndMachine basicProtocolCodec clientMessageCodec
  obtain ⟨w, heq, hrun⟩ := m.exec_run_ok (init .sourceRelay .targetMarshall)
    (sampleRead sampleHelloBody) (by decide +kernel) (by decide +kernel)
  have hun : (m.exec (init .sourceRelay .targetMarshall)
      (sampleRead sampleHelloBody)).2.toOption.map (·.unanswered 7) = some true := by
    decide +kernel
  rw [heq] at hun
  have hall : (m.exec (init .sourceRelay .targetMarshall) (sampleRead sampleHelloBody)).1.all
      (fun p => p.1.opensInTurn p.2 &&
        !readsStranded basicProtocolCodec clientMessageCodec p) = true := by
    decide +kernel
  have hp : ∀ p ∈ _, _ := List.all_eq_true.mp hall
  simp only [Bool.and_eq_true, Bool.not_eq_true'] at hp
  refine ⟨_, w, by decide +kernel, Option.some.inj hun,
    ((one_response_per_request _ _ _ _ hrun).2.2 fun p hmem => (hp p hmem).1).mpr
      fun p hmem hreads => ?_⟩
  exact Bool.false_ne_true ((hp p hmem).2.symm.trans hreads.reads)

/-- **The request `(0, 65536)` of an established client is never answered.** -/
theorem request_never_answered : ¬ ∀ (codec : BasicProtocolCodec) (messages : ClientMessageCodec)
    (sourceType : SourceConnectionType) (backendType : DestinationConnectionType)
    (tr : List (TcpWorld × TcpLabel)) (r : Except FrontEndFault TcpWorld), codec.Lawful →
    messages.Lawful → (frontEndMachine codec messages).Run (init sourceType backendType) tr r →
      (∀ p ∈ tr, p.1.opensInTurn p.2 = true) → OneResponse codec messages tr r := by
  intro h
  let m := frontEndMachine basicProtocolCodec clientMessageCodec
  let body := clientMessageCodec.serializeRequest ⟨0, 65536, World.sampleHello⟩
  obtain ⟨w, hrun, hobs⟩ := m.exec_observed (init .sourceRelay .targetMarshall)
    (sampleRead body ++ [.check 7, .take 7])
    (fun w => (w.unanswered 7, w.world.stage 7, w.world.stranded basicProtocolCodec 7))
    (a := (true, .running, true)) (by decide +kernel) (by decide +kernel)
  obtain ⟨hun, hobs⟩ := Prod.ext_iff.mp hobs
  obtain ⟨hst, hstranded⟩ := Prod.ext_iff.mp hobs
  have hall : (m.exec (init .sourceRelay .targetMarshall)
      (sampleRead body ++ [.check 7, .take 7])).1.all (fun p => p.1.opensInTurn p.2) = true := by
    decide +kernel
  have hopens := List.all_eq_true.mp hall
  have hone := h _ _ _ _ _ _ basicProtocolCodec_lawful clientMessageCodec_lawful hrun hopens
  exact (((run_steady hrun hopens).2 w rfl).answersOnce_iff hun).mp
    (hone.answers.2 w rfl 7 hun) ⟨.inr (.inr hst), hstranded⟩

end TcpWorld

end RblRpc
