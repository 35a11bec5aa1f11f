import RblRpc.Backend.ResponseString
import RblRpc.Tcp.MalformedBodies

/-!
# The responses of a connection

The response object of a connection lives as long as the connection, and
`TcpFrontEndConnectionInvoker` never calls the `reset` it has.  A response is compared with the
one of a second run, in which the object was cleared before the request.

* `fire_setInvoker` — the frame rule for the steps of other connections.
* `OwnResponse` — the response of the second run is the same.
* `Fresh` — the object held no string before the request, or the request stores one.
* `own_response_iff` — **the responses of a run are its requests' own exactly when they are fresh.**
-/

namespace RblRpc

open Transition

namespace World

variable {codec : BasicProtocolCodec} {w : World} {c : ClientPtr} {l : Label}

theorem stage_setInvoker {i : Invoker} (h : i.stage = w.stage c) :
    (w.setInvoker c i).stage = w.stage := by
  funext c'
  by_cases hc : c' = c
  · subst hc
    rw [stage, setInvoker_self]
    exact h
  · rw [stage, setInvoker_ne hc]
    rfl

/-- The guards look at the stages of the clients only. -/
theorem enabled_setInvoker {i : Invoker} (h : i.stage = w.stage c) :
    (w.setInvoker c i).enabled l = w.enabled l := by
  have hstage := stage_setInvoker h
  cases l <;> simp only [enabled, hstage, managersFree, poolIdle] <;> rfl

end World

namespace TcpWorld

variable {codec : BasicProtocolCodec} {messages : ClientMessageCodec} {w w' : TcpWorld}
  {c c' : ClientPtr} {l : TcpLabel}

/-! ## The frame -/

def setInvoker (c : ClientPtr) (i : Invoker) (w : TcpWorld) : TcpWorld :=
  { w with world := w.world.setInvoker c i }

theorem view_setInvoker (h : c' ≠ c) (w : TcpWorld) (i : Invoker) :
    (w.setInvoker c i).view c' = w.view c' := by
  unfold view
  rw [show (w.setInvoker c i).world.data c' = w.world.data c' from
    congrArg Invoker.clientData (World.setInvoker_ne h i)]
  rfl

theorem onConnection_setInvoker {f : Connection → Except TcpFault Connection} (h : c' ≠ c)
    (w : TcpWorld) (i : Invoker) :
    (w.setInvoker c i).onConnection c' f = (w.onConnection c' f).map (setInvoker c i) := by
  unfold onConnection
  rw [view_setInvoker h]
  cases (f (w.view c')).mapError FrontEndFault.frontEnd <;> rfl

theorem onWorld_map {f : World → Except Fault World} {v : World} {g : World → World}
    (h : f v = (f w.world).map g) :
    ({ w with world := v } : TcpWorld).onWorld f =
      (w.onWorld f).map fun w' => { w' with world := g w'.world } := by
  unfold onWorld
  rw [h]
  cases f w.world <;> rfl

theorem onWorld_setInvoker {b : Label} (hb : b.client ≠ some c)
    (hsig : ∀ reply, b = .signalStage reply →
      ∀ m ∈ w.world.state.slots, ∀ p ∈ (reply m).disconnects, p.1 ≠ c) (i : Invoker) :
    (w.setInvoker c i).onWorld (World.fire codec · b) =
      (w.onWorld (World.fire codec · b)).map (setInvoker c i) :=
  onWorld_map (World.fire_setInvoker hb hsig i)

theorem release_setInvoker {reply : ℕ → ServiceReply} (h : c' ≠ c) (w : TcpWorld) (i : Invoker) :
    (w.setInvoker c i).release c' reply = (w.release c' reply).map (setInvoker c i) := by
  unfold release
  rw [show (w.setInvoker c i).connections = w.connections from rfl,
    show (w.setInvoker c i).members = w.members from rfl]
  split
  · rw [show (w.setInvoker c i).onWorld (World.disconnect c' reply) =
      (w.onWorld (World.disconnect c' reply)).map (setInvoker c i) from
        onWorld_map (World.disconnect_setInvoker h w.world i)]
    cases w.onWorld (World.disconnect c' reply) <;> rfl
  · rfl

/-- **The frame rule.**  A step of another connection, or of none, does the same whatever the
invoker of a live connection holds, and leaves it. -/
theorem fire_setInvoker (hl : l.connection ≠ some c) (hg : w.enabled l = true)
    (hused : w.unused c = false) (i : Invoker) :
    (w.setInvoker c i).fire codec messages l =
      (w.fire codec messages l).map (setInvoker c i) := by
  have hne : ∀ c', l.connection = some c' → c' ≠ c :=
    fun c' h heq => hl (h.trans (congrArg some heq))
  have hworld : ∀ (v : TcpWorld) (b : Label) (c' : ClientPtr), b.client = some c' → c' ≠ c →
      (v.setInvoker c i).onWorld (World.fire codec · b) =
        (v.onWorld (World.fire codec · b)).map (setInvoker c i) := by
    intro v b c' hb hc
    refine onWorld_setInvoker (fun h => hc (Option.some.inj (hb.symm.trans h))) ?_ i
    rintro reply rfl
    cases hb
  cases l with
  | accept c' fresh =>
    refine congrArg Except.ok ?_
    have hconnect := World.connect_setInvoker (hne c' rfl) true w.world i
    unfold accept
    rw [show (w.setInvoker c i).world = w.world.setInvoker c i from rfl, hconnect]
    rfl
  | headerRead c' header fresh closes reply =>
    exact bind_map_eq_map (onConnection_setInvoker (hne c' rfl) w i) fun v =>
      release_setInvoker (hne c' rfl) (v.modify c' fun k => { k with handlerOwns := false }) i
  | bodyRead c' body =>
    simp only [fire, bodyRead, view_setInvoker (hne c' rfl) w i]
    generalize ((w.view c').receive body).beginReadBody messages body.length = p
    refine bind_map_eq_map
      (hworld (w.store c' p.2) (.request c' false p.1) c' rfl (hne c' rfl)) fun v => ?_
    rw [show (v.setInvoker c i).world.stage c' = v.world.stage c' from
      congrArg Invoker.stage (World.setInvoker_ne (hne c' rfl) i)]
    rfl
  | check c' =>
    refine bind_map_eq_map (hworld w (.check c') c' rfl (hne c' rfl))
      fun v => ?_
    rw [show (v.setInvoker c i).world.stage c' = v.world.stage c' from
      congrArg Invoker.stage (World.setInvoker_ne (hne c' rfl) i)]
    split <;> rfl
  | endRejected c' =>
    exact bind_map_eq_map (hworld w (.finish c') c' rfl (hne c' rfl))
      fun v => rfl
  | answerRejected c' fresh =>
    exact bind_map_eq_map (onConnection_setInvoker (hne c' rfl) w i) fun v => rfl
  | uncount c' =>
    exact bind_map_eq_map (onConnection_setInvoker (hne c' rfl) w i) fun v => rfl
  | take c' => exact hworld w (.take c') c' rfl (hne c' rfl)
  | run c' reply => exact hworld w (.run c' reply) c' rfl (hne c' rfl)
  | endRan c' =>
    exact bind_map_eq_map (hworld w (.finish c') c' rfl (hne c' rfl))
      fun v => rfl
  | answerRan c' fresh =>
    exact bind_map_eq_map (onConnection_setInvoker (hne c' rfl) w i) fun v => rfl
  | responseWritten c' => exact onConnection_setInvoker (hne c' rfl) w i
  | failed c' reply =>
    exact release_setInvoker (hne c' rfl)
      ((w.modify c' fun k => { k with operation := none }).modify c' fun k =>
        { k with handlerOwns := false }) i
  | shutdown closes => cases closes <;> rfl
  | sweep c' closes reply =>
    obtain ⟨left, hat, -⟩ := sweep_enabled hg
    simp only [fire, sweep, show (w.setInvoker c i).ioPoint = w.ioPoint from rfl, hat]
    show (if (w.connections c').ioState = .readHeaderWaitRequestStartInactive then _ else _) =
      Except.map _ (if (w.connections c').ioState = .readHeaderWaitRequestStartInactive then _
        else _)
    split
    · exact bind_map_eq_map
        (onConnection_setInvoker (hne c' rfl) (w.goto (.sweeping (left.erase c'))) i)
        fun v => release_setInvoker (hne c' rfl) v i
    · rfl
  | backEnd b =>
    simp only [enabled, Bool.and_eq_true] at hg
    refine onWorld_setInvoker (fun hb => ?_) ?_ i
    · have hforeign : b.client.all w.unused = true := by
        have := hg.1
        cases b <;> first | exact this | cases hb
      rw [hb, Option.all_some, hused] at hforeign
      cases hforeign
    · rintro reply rfl m hm p hp rfl
      have hall := List.all_eq_true.mp (List.all_eq_true.mp hg.1 m hm) p hp
      rw [hused] at hall
      cases hall
  | acceptFailed | swept => rfl

/-! ## The steps of a request -/

/-- The client data of `c` has another response string. -/
def withString (c : ClientPtr) (t : Option Bytes) (w : TcpWorld) : TcpWorld :=
  { w with world := w.world.withString c t }

/-- `response().Clear()` of the client data of `c`. -/
def clearResponse (c : ClientPtr) (w : TcpWorld) : TcpWorld :=
  { w with world := w.world.clearResponse c }

/-- What a step leaves of a front end that was given another response string. -/
def keepString (t : Option Bytes) (c : ClientPtr) (stored : Bool) (w : TcpWorld) : TcpWorld :=
  { w with world := w.world.keepString t c stored }

/-- The step stores a response string for `c`: it turns down a repeated hello, or runs a request
whose string parses. -/
def storesString (codec : BasicProtocolCodec) (c : ClientPtr) (w : TcpWorld) : TcpLabel → Bool
  | .check c' => c' = c && (w.world.data c).repeatsHello
  | .run c' reply => c' = c && w.world.backEnd.parsesPosted codec reply (w.world.invokers c)
  | _ => false

theorem storesString_other (h : l.connection ≠ some c) : w.storesString codec c l = false := by
  cases l <;> first
  | rfl
  | exact Bool.and_eq_false_imp.mpr fun hc => absurd (congrArg some (of_decide_eq_true hc)) h

theorem enabled_withString (t : Option Bytes) (w : TcpWorld) (l : TcpLabel) :
    (w.withString c t).enabled l = w.enabled l := by
  have hstage : (w.world.withString c t).stage = w.world.stage := World.stage_setInvoker rfl
  have hworld : ∀ b, (w.world.withString c t).enabled b = w.world.enabled b :=
    fun b => World.enabled_setInvoker rfl
  have hforeign : ∀ b, (w.withString c t).foreign b = w.foreign b := fun b => rfl
  cases l <;> simp only [enabled, withString, hstage, hworld] <;> rfl

/-- **A step before the answer** leaves the request unanswered. -/
theorem phaseStep_unanswered_kept {q q' : Option Phase} (h : PhaseStep c l q q')
    (hun : q.any Phase.unanswered = true) (hans : l.answers ≠ some c) :
    q'.any Phase.unanswered = true := by
  cases h with
  | answerRejected | answerRan => exact absurd rfl hans
  | other | sweep | failed => exact hun
  | reject | post | endRejected | take | run | endRan => rfl
  | _ => cases hun

theorem keepString_stage (t : Option Bytes) (c : ClientPtr) (stored : Bool) (w : TcpWorld) :
    (w.keepString t c stored).world.stage = w.world.stage := by
  cases stored with
  | true => rfl
  | false => exact World.stage_setInvoker rfl

theorem check_withString (h : BackEnd.RegistrySound w.world.backEnd) (t : Option Bytes) :
    (w.withString c t).check codec c =
      (w.check codec c).map (keepString t c (w.world.data c).repeatsHello) := by
  refine bind_map_eq_map (onWorld_map (World.check_withString t h)) fun v => ?_
  have hstage := congrFun (keepString_stage t c (w.world.data c).repeatsHello v) c
  unfold keepString at hstage
  rw [hstage]
  split <;> rfl

theorem endRejected_withString (t : Option Bytes) (w : TcpWorld) :
    (w.withString c t).endRejected c = (w.endRejected c).map (keepString t c false) :=
  bind_map_eq_map (onWorld_map (World.finish_withString t w.world)) fun _ => rfl

theorem endRan_withString (t : Option Bytes) (w : TcpWorld) :
    (w.withString c t).endRan c = (w.endRan c).map (keepString t c false) :=
  bind_map_eq_map (onWorld_map (World.finish_withString t w.world)) fun _ => rfl

theorem poolRun_withString (t : Option Bytes) (reply : ServiceReply) (w : TcpWorld) :
    (w.withString c t).fire codec messages (.run c reply) =
      (w.fire codec messages (.run c reply)).map
        (keepString t c (w.world.backEnd.parsesPosted codec reply (w.world.invokers c))) :=
  onWorld_map (f := (World.fire codec · (.run c reply))) (World.run_withString t reply w.world)

/-- **A step before the answer** does the same whatever the response string is; the strings still
differ unless it stores one. -/
theorem fire_withString (h : w.Disciplined) (hreg : BackEnd.RegistrySound w.world.backEnd)
    (hun : w.unanswered c = true) (hg : w.enabled l = true) (hans : l.answers ≠ some c)
    (hf : w.fire codec messages l = .ok w') (t : Option Bytes) :
    (w.withString c t).fire codec messages l =
      .ok (w'.keepString t c (w.storesString codec c l)) ∧ w'.unanswered c = true := by
  obtain ⟨q, hq⟩ := h.placed c
  obtain ⟨q', hstep, hq', -⟩ := fire_phaseStep h hq hg hf
  have hun' := hq.unanswered.symm.trans hun
  refine ⟨?_, hq'.unanswered.trans (phaseStep_unanswered_kept hstep hun' hans)⟩
  cases hstep with
  | other _ hl =>
    have hused : w.unused c = false := by
      cases q with
      | none => cases hun'
      | some p => exact unused_of_alive hq.alive
    have hkept := ((fire_backEndStep h hg hf).elsewhere hl hg hused).1
    rw [storesString_other hl]
    refine (fire_setInvoker hl hg hused ((w.world.invokers c).withString t)).trans ?_
    rw [hf, ← hkept]
    rfl
  | reject | post =>
    rw [storesString, decide_eq_true rfl, Bool.true_and]
    exact (check_withString hreg t).trans (congrArg _ hf)
  | endRejected => exact (endRejected_withString t w).trans (congrArg _ hf)
  | take => exact (onWorld_map (World.take_withString t w.world)).trans (congrArg _ hf)
  | run reply =>
    rw [storesString, decide_eq_true rfl, Bool.true_and]
    exact (poolRun_withString t reply w).trans (congrArg _ hf)
  | endRan => exact (endRan_withString t w).trans (congrArg _ hf)
  | sweep closes reply =>
    obtain ⟨left, hat, -⟩ := sweep_enabled hg
    have hbusy : (w.connections c).ioState ≠ .readHeaderWaitRequestStartInactive := by
      cases q with
      | none => cases hun'
      | some p =>
        rw [hq.ioState]
        cases p <;> first | decide | cases hun'
    have hleft : ∀ v : TcpWorld, v.ioPoint = .sweeping left → v.connections = w.connections →
        v.sweep c closes reply = .ok (v.goto (.sweeping (left.erase c))) := by
      intro v hv hconn
      simp only [sweep, hv]
      rw [show (v.goto (.sweeping (left.erase c))).connections = w.connections from hconn,
        if_neg hbusy]
      rfl
    cases (hleft w hat rfl).symm.trans hf
    exact hleft (w.withString c t) hat rfl
  | @failed reply op p hcarries =>
    cases p <;> cases op <;> first | (cases hcarries; done) | cases hun'
  | answerRejected | answerRan => exact absurd rfl hans
  | _ => cases hun'

/-! ## The response of a request -/

/-- The response string in the client data of `c`. -/
def responseString (w : TcpWorld) (c : ClientPtr) : Option Bytes :=
  (w.world.data c).response.responseString

theorem bodyRead_withString {body : Bytes} (t : Option Bytes) (w : TcpWorld) :
    (w.withString c t).bodyRead messages c body =
      (w.bodyRead messages c body).map (keepString t c false) := by
  have hrequest : ∀ r k, ((w.withString c t).store c k).onWorld (World.request c false r) =
      ((w.store c k).onWorld (World.request c false r)).map (keepString t c false) :=
    fun r k => onWorld_map (w := w.store c k) (World.request_withString t r w.world)
  refine bind_map_eq_map (hrequest _ _) fun v => ?_
  rw [congrFun (keepString_stage t c false v) c]
  rfl

theorem bodyRead_cleared {body : Bytes} (w : TcpWorld) :
    (w.clearResponse c).bodyRead messages c body =
      (w.withString c none).bodyRead messages c body := by
  have hrequest : ∀ r k, ((w.clearResponse c).store c k).onWorld (World.request c false r) =
      ((w.withString c none).store c k).onWorld (World.request c false r) := by
    intro r k
    unfold onWorld
    rw [show World.request c false r ((w.clearResponse c).store c k).world = _ from
      World.request_cleared r w.world]
    rfl
  exact congrArg (· >>= _) (hrequest _ _)

theorem withString_self (w : TcpWorld) : w.withString c (w.responseString c) = w := by
  have hself : w.world.withString c (w.responseString c) = w.world := World.setInvoker_eq_self _
  rw [withString, hself]

theorem withString_response (t : Option Bytes) (w : TcpWorld) :
    ((w.withString c t).world.data c).response =
      { (w.world.data c).response with responseString := t } :=
  congrArg (fun i : Invoker => i.clientData.response) (World.setInvoker_self _)

/-- A step that leaves the difference of two strings keeps the string. -/
theorem responseString_kept (hf : w.fire codec messages l = .ok w')
    (h : ∀ t, (w.withString c t).fire codec messages l = .ok (w'.withString c t)) :
    w'.responseString c = w.responseString c := by
  have hown := h (w.responseString c)
  rw [withString_self, hf] at hown
  rw [responseString, Except.ok.inj hown, withString_response]

theorem registrySound_step (h : w.Disciplined) (hreg : BackEnd.RegistrySound w.world.backEnd)
    (hg : w.enabled l = true) (hf : w.fire codec messages l = .ok w') :
    BackEnd.RegistrySound w'.world.backEnd := by
  cases fire_backEndStep h hg hf with
  | none heq => rwa [heq]
  | client _ _ _ hgb hfb => exact World.registrySound_step hreg hgb hfb
  | other _ hgb hfb => exact World.registrySound_step hreg hgb hfb

/-- A step of the trace stores a response string for `c`. -/
def Stores (codec : BasicProtocolCodec) (c : ClientPtr) (tr : List (TcpWorld × TcpLabel)) : Prop :=
  ∃ p ∈ tr, p.1.storesString codec c p.2 = true

/-- **The second run** of the steps before an answer: the strings differ until one is stored. -/
theorem second_run {u : TcpWorld} {tr : List (TcpWorld × TcpLabel)}
    (hrun : (frontEndMachine codec messages).Run w tr (.ok u)) (h : w.Disciplined)
    (hreg : BackEnd.RegistrySound w.world.backEnd) (hun : w.unanswered c = true)
    (hans : ∀ p ∈ tr, p.2.answers ≠ some c) (t : Option Bytes) :
    ∃ tr' u', (frontEndMachine codec messages).Run (w.withString c t) tr' (.ok u') ∧
      tr'.map Prod.snd = tr.map Prod.snd ∧
      (Stores codec c tr ∧ u' = u ∨
        ¬Stores codec c tr ∧ u' = u.withString c t ∧
          u.responseString c = w.responseString c) := by
  generalize hr : (Except.ok u : Except FrontEndFault TcpWorld) = r at hrun
  induction hrun with
  | done w =>
    cases hr
    exact ⟨[], _, .done _, rfl, .inr ⟨fun ⟨p, hp, _⟩ => (nomatch hp), rfl, rfl⟩⟩
  | fault => cases hr
  | @step w w₁ l tr r hg hf hrest ih =>
    obtain ⟨hl, hans⟩ := List.forall_mem_cons.mp hans
    have hsecond := fun t => fire_withString h hreg hun hg hl hf t
    have hg' : (frontEndMachine codec messages).guard (w.withString c t) l = true :=
      (enabled_withString t w l).trans hg
    cases hstores : w.storesString codec c l with
    | true =>
      have hf' := (hsecond t).1
      rw [hstores] at hf'
      cases hr
      exact ⟨_, u, .step hg' hf' hrest, rfl, .inl ⟨⟨_, List.mem_cons_self, hstores⟩, rfl⟩⟩
    | false =>
      have hf' : ∀ t, (w.withString c t).fire codec messages l = .ok (w₁.withString c t) := by
        intro t
        rw [(hsecond t).1, hstores]
        rfl
      obtain ⟨tr', u', hrun', hlabels, hend⟩ :=
        ih (h.step hg hf) (registrySound_step h hreg hg hf) (hsecond t).2 hans hr
      refine ⟨_, u', .step hg' (hf' t) hrun', congrArg (l :: ·) hlabels, ?_⟩
      have hiff : Stores codec c ((w, l) :: tr) ↔ Stores codec c tr := by
        refine ⟨fun ⟨p, hp, hs⟩ => ?_, fun ⟨p, hp, hs⟩ => ⟨p, List.mem_cons_of_mem _ hp, hs⟩⟩
        rcases List.mem_cons.mp hp with rfl | hp
        · rw [hstores] at hs
          cases hs
        · exact ⟨p, hp, hs⟩
      rw [hiff]
      exact hend.imp id fun ⟨hnot, heq, hkept⟩ =>
        ⟨hnot, heq, hkept.trans (responseString_kept hf hf')⟩

/-- A request of connection `c` in a run: its body is read in `start`, and `handle_write_response`
is called for it in `answer`. -/
structure Exchange (c : ClientPtr) (tr : List (TcpWorld × TcpLabel)) where
  start : TcpWorld
  body : Bytes
  between : List (TcpWorld × TcpLabel)
  answer : TcpWorld
  label : TcpLabel
  answers : label.answers = some c
  first : ∀ p ∈ between, p.2.answers ≠ some c
  inRun : (start, .bodyRead c body) :: (between ++ [(answer, label)]) <:+: tr

namespace Exchange

variable {tr : List (TcpWorld × TcpLabel)} (e : Exchange c tr)

/-- The response that is serialised is the one of the second run, which takes the same steps after
`response().Clear()`. -/
def OwnResponse (codec : BasicProtocolCodec) (messages : ClientMessageCodec) : Prop :=
  ∃ tr' u, (frontEndMachine codec messages).Run (e.start.clearResponse c) tr' (.ok u) ∧
    tr'.map Prod.snd = .bodyRead c e.body :: e.between.map Prod.snd ∧
    (u.world.data c).response = (e.answer.world.data c).response

/-- No string is left from an earlier request, or this one stores a string. -/
def Fresh (codec : BasicProtocolCodec) : Prop :=
  e.start.responseString c = none ∨ Stores codec c e.between

/-- **A response is its request's own** exactly when no string is left in it. -/
theorem own_iff {w₀ : TcpWorld} {r : Except FrontEndFault TcpWorld}
    (hrun : (frontEndMachine codec messages).Run w₀ tr r) (h : w₀.Disciplined)
    (hreg : BackEnd.RegistrySound w₀.world.backEnd) :
    e.OwnResponse codec messages ↔ e.Fresh codec := by
  obtain ⟨hreach, r₁, hseg⟩ := hrun.of_infix e.inRun
  obtain ⟨hd, hregistry⟩ := hreach.invariant
    (I := fun w : TcpWorld => w.Disciplined ∧ BackEnd.RegistrySound w.world.backEnd)
    (fun _ _ _ hI hg hf => ⟨hI.1.step hg hf, registrySound_step hI.1 hI.2 hg hf⟩) ⟨h, hreg⟩
  rw [← List.cons_append] at hseg
  obtain ⟨hbefore, -⟩ := hseg.split
  obtain ⟨-, hg, w₁, hf, hbetween⟩ := hbefore.uncons
  have hg : e.start.enabled (.bodyRead c e.body) = true := hg
  have hf : e.start.fire codec messages (.bodyRead c e.body) = .ok w₁ := hf
  have hread : ∀ t, (e.start.withString c t).fire codec messages (.bodyRead c e.body) =
      .ok (w₁.withString c t) := fun t => (bodyRead_withString t e.start).trans (congrArg _ hf)
  have hun : w₁.unanswered c = true := by
    obtain ⟨q, hq⟩ := hd.placed c
    obtain ⟨q', hstep, hq', -⟩ := fire_phaseStep hd hq hg hf
    rw [hq'.unanswered]
    cases hstep with
    | other _ hl => exact absurd rfl hl
    | bodyAccepted | bodyRefused => rfl
  obtain ⟨tr', u', hrun', hlabels, hend⟩ := second_run hbetween (hd.step hg hf)
    (registrySound_step hd hregistry hg hf) hun e.first none
  have hcleared : (frontEndMachine codec messages).Run (e.start.clearResponse c)
      ((e.start.clearResponse c, .bodyRead c e.body) :: tr') (.ok u') :=
    .step hg ((bodyRead_cleared e.start).trans (hread none)) hrun'
  have hown : e.OwnResponse codec messages ↔
      (u'.world.data c).response = (e.answer.world.data c).response := by
    constructor
    · rintro ⟨tr₂, u₂, hrun₂, hlabels₂, hresponse⟩
      rw [hcleared.det hrun₂ ((congrArg _ hlabels).trans hlabels₂.symm)]
      exact hresponse
    · exact fun hresponse => ⟨_, u', hcleared, congrArg _ hlabels, hresponse⟩
  have hstart := responseString_kept hf hread
  rw [hown, Fresh]
  rcases hend with ⟨hstores, rfl⟩ | ⟨hnot, rfl, hkept⟩
  · exact iff_of_true rfl (.inr hstores)
  · rw [or_iff_left hnot, ← hstart, ← hkept, withString_response]
    constructor
    · intro heq
      exact (congrArg ClientResponse.responseString heq).symm
    · intro hnone
      rw [← hnone]
      rfl

end Exchange

/-! ## The theorem -/

/-- **A response is its request's own exactly when it is fresh**: in every run of a front end, for
every request of every connection, whatever came before it. -/
theorem own_response_iff (codec : BasicProtocolCodec) (messages : ClientMessageCodec)
    (sourceType : SourceConnectionType) (backendType : DestinationConnectionType)
    {tr : List (TcpWorld × TcpLabel)} {r : Except FrontEndFault TcpWorld}
    (hrun : (frontEndMachine codec messages).Run (init sourceType backendType) tr r)
    {c : ClientPtr} (e : Exchange c tr) : e.OwnResponse codec messages ↔ e.Fresh codec :=
  e.own_iff hrun (init_disciplined _ _) (BackEnd.RegistrySound.new _ _)

/-- A request in an execution. -/
theorem exec_exchange (codec : BasicProtocolCodec) (messages : ClientMessageCodec)
    {w₀ w : TcpWorld} (before between : List TcpLabel) (body : Bytes) (l : TcpLabel)
    (hw : ((frontEndMachine codec messages).exec w₀ before).2 = .ok w)
    (hu : ((frontEndMachine codec messages).exec w (.bodyRead c body :: between)).2.toOption.isSome
      = true)
    (hl : l.answers = some c) (hbetween : between.all (fun l => l.answers ≠ some c) = true) :
    ∃ e : Exchange c ((frontEndMachine codec messages).exec w₀
        (before ++ (.bodyRead c body :: between ++ [l]))).1,
      e.start = w ∧ (w, .bodyRead c body) :: e.between =
        ((frontEndMachine codec messages).exec w (.bodyRead c body :: between)).1 := by
  obtain ⟨u, hu, -⟩ := Machine.exec_eq_ok (f := fun _ => true) (a := true) (by
    rw [Option.map_eq_some_iff]
    exact (Option.isSome_iff_exists.mp hu).imp fun u hu => ⟨hu, rfl⟩)
  have hanswer : ((frontEndMachine codec messages).exec u [l]).1 = [(u, l)] := by
    cases hf : (frontEndMachine codec messages).fire u l <;> simp [Machine.exec, hf]
  have htrace : ((frontEndMachine codec messages).exec w₀
      (before ++ (.bodyRead c body :: between ++ [l]))).1 =
      ((frontEndMachine codec messages).exec w₀ before).1 ++
        (((frontEndMachine codec messages).exec w (.bodyRead c body :: between)).1 ++
          [(u, l)]) := by
    rw [Machine.exec_append hw, Machine.exec_append hu, hanswer]
  have hlabels := Machine.exec_labels hu
  cases hf : (frontEndMachine codec messages).fire w (.bodyRead c body) with
  | error f =>
    simp only [Machine.exec, hf] at hu
    cases hu
  | ok w₁ =>
    simp only [Machine.exec, hf, List.map_cons] at htrace hlabels ⊢
    rw [List.cons_eq_cons] at hlabels
    refine ⟨⟨w, body, _, u, l, hl, fun p hp => ?_, ?_⟩, rfl, rfl⟩
    · have hmem := List.mem_map_of_mem (f := Prod.snd) hp
      rw [hlabels.2] at hmem
      exact of_decide_eq_true (List.all_eq_true.mp hbetween _ hmem)
    · exact ⟨_, [], by rw [List.append_nil]; exact htrace.symm⟩

/-- The steps of a hello between its body and its answer. -/
def sampleServed (c : ClientPtr) : List TcpLabel := [.check c, .take c, .run c {}, .endRan c]

/-- The response to the first request of a connection. -/
theorem own_response_iff_sample : ∃ tr, ∃ e : Exchange 7 tr,
    e.OwnResponse basicProtocolCodec clientMessageCodec := by
  let m := frontEndMachine basicProtocolCodec clientMessageCodec
  let before := sampleAccept 7 ++ (sampleFrames 7 sampleHelloBody).take 1
  let steps := .bodyRead 7 sampleHelloBody :: sampleServed 7
  have hadmits : m.admits (init .sourceRelay .targetMarshall)
      (before ++ (steps ++ [.answerRan 7 fun _ => 0])) = true := by
    decide +kernel
  have hobs : (m.exec (init .sourceRelay .targetMarshall) before).2.toOption.map
      (fun w => ((w.responseString 7).isNone, (m.exec w steps).2.toOption.isSome)) =
        some (true, true) := by
    decide +kernel
  obtain ⟨w, hw, hobs⟩ := Machine.exec_eq_ok hobs
  obtain ⟨hnone, hserved⟩ := Prod.ext_iff.mp hobs
  obtain ⟨e, rfl, -⟩ := exec_exchange basicProtocolCodec clientMessageCodec before _ _
    (.answerRan 7 fun _ => 0) hw hserved rfl (by decide)
  exact ⟨_, e, (own_response_iff _ _ _ _ (Machine.exec_run hadmits) e).mpr
    (.inl (Option.isNone_iff_eq_none.mp hnone))⟩

/-- A request to an ordinal without a service. -/
def sampleRefusedBody : Bytes := clientMessageCodec.serializeRequest ⟨5, 0, []⟩

/-- **A request that is turned down** is answered with the string of the hello before it. -/
theorem refusal_carries_string : ¬ ∀ (codec : BasicProtocolCodec) (messages : ClientMessageCodec)
    (sourceType : SourceConnectionType) (backendType : DestinationConnectionType)
    (tr : List (TcpWorld × TcpLabel)) (r : Except FrontEndFault TcpWorld) (c : ClientPtr)
    (e : Exchange c tr),
    (frontEndMachine codec messages).Run (init sourceType backendType) tr r →
      e.OwnResponse codec messages := by
  intro h
  let m := frontEndMachine basicProtocolCodec clientMessageCodec
  let before := sampleAccept 7 ++ sampleFrames 7 sampleHelloBody ++ sampleServed 7 ++
    [.answerRan 7 fun _ => 0, .responseWritten 7] ++ (sampleFrames 7 sampleRefusedBody).take 1
  let steps : List TcpLabel := [.bodyRead 7 sampleRefusedBody, .check 7, .endRejected 7]
  have hadmits : m.admits (init .sourceRelay .targetMarshall)
      (before ++ (steps ++ [.answerRejected 7 fun _ => 0])) = true := by
    decide +kernel
  have hobs : (m.exec (init .sourceRelay .targetMarshall) before).2.toOption.map
      (fun w => ((w.responseString 7).isNone, (m.exec w steps).2.toOption.isSome,
        (m.exec w steps).1.any fun p => p.1.storesString basicProtocolCodec 7 p.2)) =
        some (false, true, false) := by
    decide +kernel
  obtain ⟨w, hw, hobs⟩ := Machine.exec_eq_ok hobs
  obtain ⟨hleft, hobs⟩ := Prod.ext_iff.mp hobs
  obtain ⟨hserved, hstores⟩ := Prod.ext_iff.mp hobs
  obtain ⟨e, rfl, hbetween⟩ := exec_exchange basicProtocolCodec clientMessageCodec before _ _
    (.answerRejected 7 fun _ => 0) hw hserved rfl (by decide)
  have hown := h _ _ _ _ _ _ 7 e (Machine.exec_run hadmits)
  rcases (e.own_iff (Machine.exec_run hadmits) (init_disciplined _ _)
    (BackEnd.RegistrySound.new _ _)).mp hown with hnone | ⟨p, hp, hstored⟩
  · rw [hnone] at hleft
    cases hleft
  · have hany : (m.exec e.start steps).1.any
        (fun p => p.1.storesString basicProtocolCodec 7 p.2) = true := by
      rw [← hbetween]
      exact List.any_eq_true.mpr ⟨p, List.mem_cons_of_mem _ hp, hstored⟩
    rw [hany] at hstores
    cases hstores

end TcpWorld

end RblRpc
