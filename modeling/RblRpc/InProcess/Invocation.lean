import RblRpc.Backend.Admission
import RblRpc.Proto.WireFormat

/-!
# Invocations in the process

A caller of `InProcessInvoker::invoke` posts its request and waits for a pool thread at a
notification object: a flag, and a condition variable that may wake up without a notification.

* `Handoff` — where the caller is, the flag, and the pool threads that have yet to notify; and, as
  history, which invocation was dispatched, ended and notified last.
* `invocationMachine` — every order of these actions and of the other operations on a back end.
* `Phase` — the invariant of the hand-off.
* `invocation_synchronous` — **an invocation returns with what its own dispatch produced.**
* `wakesInOrder_of_notified` — so it does in every run without spurious wake-ups.
-/

namespace RblRpc

open Transition

/-- Where the caller is: outside `invoke`, between `reset` and `invoke`, in `BackEnd::invoke`,
before the test of the flag, or asleep at the condition variable. -/
inductive CallerPoint where
  | outside
  | prepared
  | invoking
  | waiting
  | asleep
  deriving DecidableEq

/-- The hand-off of one invoker.  `serial` numbers its invocations, and the last three fields are
history. -/
structure Handoff where
  caller : CallerPoint := .outside
  ready : Bool := false
  notifying : List ℕ := []
  serial : ℕ := 0
  produced : Option (ℕ × ClientResponse) := none
  ended : Option ℕ := none
  notified : Option ℕ := none

/-- A back end, and the hand-offs of its invokers. -/
structure Invocations where
  world : World
  handoff : ClientPtr → Handoff := fun _ => {}

/-- An action of a caller or of a pool thread, or another operation on the back end. -/
inductive InvocationLabel where
  | reset (c : ClientPtr)
  | throwDisconnected (c : ClientPtr)
  | wait (c : ClientPtr)
  | wake (c : ClientPtr)
  | notify (c : ClientPtr)
  | backEnd (l : Label)

namespace InvocationLabel

/-- The client an action is about. -/
def client : InvocationLabel → Option ClientPtr
  | .reset c | .throwDisconnected c | .wait c | .wake c | .notify c => some c
  | .backEnd l => l.client

end InvocationLabel

namespace Handoff

/-- Nobody has locked `m_mutex`. -/
def unlocked (h : Handoff) : Bool := h.caller = .outside || h.caller = .prepared

/-- The caller is at `wait_for_notification`. -/
def waits (h : Handoff) : Bool := h.caller = .waiting || h.caller = .asleep

/-- `notification_object.reset()`, of a new invocation. -/
def reset (h : Handoff) : Handoff :=
  { h with caller := .prepared, ready := false, serial := h.serial + 1 }

/-- The test of the flag in `wait_for_notification`. -/
def wait (h : Handoff) : Handoff :=
  { h with caller := if h.ready then .outside else .asleep }

/-- `notify_one`, of the pool thread that ended the first of the invocations. -/
def notify (h : Handoff) : Handoff :=
  match h.notifying with
  | [] => h
  | n :: rest => { h with ready := true, notifying := rest, notified := some n }

/-- What an operation on the back end means for the hand-off of its client: `invoke` returns if the
request is turned down, and waits once it is posted; a pool thread notifies after `end_rpc`. -/
def after (l : Label) (w w' : World) (c : ClientPtr) (h : Handoff) : Handoff :=
  match l with
  | .request _ _ _ => { h with caller := if w'.stage c = .accepted then .invoking else .outside }
  | .check _ => { h with caller := if w'.stage c = .posted then .waiting else .invoking }
  | .run _ _ => { h with produced := some (h.serial, (w'.data c).response) }
  | .finish _ =>
    if w.stage c = .ran then
      { h with notifying := h.notifying ++ [h.serial], ended := some h.serial }
    else { h with caller := .outside }
  | _ => h

end Handoff

namespace Invocations

def setHandoff (c : ClientPtr) (h : Handoff) (s : Invocations) : Invocations :=
  { s with handoff := Function.update s.handoff c h }

/-- `reset()`, which a generated method calls before `invoke`. -/
def reset (c : ClientPtr) (s : Invocations) : Except Fault Invocations := do
  let i ← (s.world.invokers c).prepare true {}
  return setHandoff c (s.handoff c).reset { s with world := s.world.setInvoker c i }

/-- When an action can take place: the caller is at its place; `m_mutex` is locked throughout
`invoke`, so that the client is connected and disconnected between invocations. -/
def enabled (s : Invocations) : InvocationLabel → Bool
  | .reset c => (s.handoff c).caller = .outside
  | .throwDisconnected c =>
    (s.handoff c).caller = .prepared && decide (c ∉ s.world.backEnd.connectedClients)
  | .wait c => (s.handoff c).caller = .waiting
  | .wake c => (s.handoff c).caller = .asleep
  | .notify c => !(s.handoff c).notifying.isEmpty
  | .backEnd l => s.world.enabled l && match l with
    | .request c resets _ => !resets && (s.handoff c).caller = .prepared
    | .connect c _ | .disconnect c _ => (s.handoff c).unlocked
    | .signalStage reply => s.world.state.slots.all fun m =>
      (reply m).disconnects.all fun p => (s.handoff p.1).unlocked
    | _ => true

def fire (codec : BasicProtocolCodec) (s : Invocations) :
    InvocationLabel → Except Fault Invocations
  | .reset c => s.reset c
  | .throwDisconnected c => .ok (s.setHandoff c { s.handoff c with caller := .outside })
  | .wait c => .ok (s.setHandoff c (s.handoff c).wait)
  | .wake c => .ok (s.setHandoff c { s.handoff c with caller := .outside })
  | .notify c => .ok (s.setHandoff c (s.handoff c).notify)
  | .backEnd l => do
    let w ← s.world.fire codec l
    match l.client with
    | some c => return setHandoff c ((s.handoff c).after l s.world w c) { s with world := w }
    | none => return { s with world := w }

/-- The invocation that posted its request returns: the flag is set, or `wait` returns. -/
def returns (s : Invocations) (c : ClientPtr) : InvocationLabel → Bool
  | .wait c' => c' = c && (s.handoff c).ready
  | .wake c' => c' = c
  | _ => false

/-- What an invocation of `c` that returns finds: its request has been dispatched, and the response
is the one its dispatch produced; `end_rpc` has run for it; and if the flag is set, then by the
notification of this invocation. -/
structure Synchronous (s : Invocations) (c : ClientPtr) : Prop where
  dispatched : (s.handoff c).produced = some ((s.handoff c).serial, (s.world.data c).response)
  ended : (s.handoff c).ended = some (s.handoff c).serial
  notified : (s.handoff c).ready = true → (s.handoff c).notified = some (s.handoff c).serial

end Invocations

/-- Every order of the actions of callers, pool threads and the back end. -/
def invocationMachine (codec : BasicProtocolCodec) : Machine Invocations InvocationLabel Fault where
  guard := Invocations.enabled
  fire := Invocations.fire codec

namespace Invocations

variable {codec : BasicProtocolCodec} {s s' : Invocations} {c : ClientPtr} {l : InvocationLabel}

/-- `wait` returns without a notification only while the pool thread has run `end_rpc` and is about
to notify, and then it notifies before the next `reset`. -/
structure WakesInOrder (p : Invocations × InvocationLabel) : Prop where
  wakes : ∀ c, p.2 = .wake c → (p.1.handoff c).ready = false → (p.1.handoff c).notifying ≠ []
  resets : ∀ c, p.2 = .reset c → (p.1.handoff c).notifying = []

/-- **The invariant of the hand-off**: how far the caller, the request and the pool thread are. -/
inductive Phase (i : Invoker) (h : Handoff) : Prop
  | outside (hcaller : h.caller = .outside) (hstage : i.stage = .idle)
      (hpending : h.notifying = [] ∨ h.notifying = [h.serial])
  | prepared (hcaller : h.caller = .prepared) (hstage : i.stage = .idle)
      (hpending : h.notifying = []) (hready : h.ready = false)
  | invoking (hcaller : h.caller = .invoking) (hstage : i.stage = .accepted ∨ i.stage = .rejected)
      (hpending : h.notifying = []) (hready : h.ready = false)
  | served (hcaller : h.waits = true) (hstage : i.stage ∈ [Stage.posted, .running, .ran])
      (hpending : h.notifying = []) (hready : h.ready = false)
      (hproduced : i.stage = .ran → h.produced = some (h.serial, i.clientData.response))
  | ended (hcaller : h.waits = true) (hstage : i.stage = .idle)
      (hproduced : h.produced = some (h.serial, i.clientData.response))
      (hended : h.ended = some h.serial)
      (hpending : h.notifying = [h.serial] ∧ h.ready = false ∨
        h.notifying = [] ∧ h.notified = some h.serial)

/-- Every invoker is in a phase. -/
def Phased (s : Invocations) : Prop := ∀ c, Phase (s.world.invokers c) (s.handoff c)

namespace Phase

variable {i : Invoker} {h : Handoff}

theorem outside_of_caller (hp : Phase i h) (hcaller : h.caller = .outside) :
    i.stage = .idle ∧ (h.notifying = [] ∨ h.notifying = [h.serial]) := by
  cases hp with
  | outside _ hstage hpending => exact ⟨hstage, hpending⟩
  | prepared hcaller' | invoking hcaller' => rw [hcaller] at hcaller'; cases hcaller'
  | served hcaller' | ended hcaller' => simp [Handoff.waits, hcaller] at hcaller'

theorem idle_of_unlocked (hp : Phase i h) (hfree : h.unlocked = true) : i.stage = .idle := by
  cases hp with
  | outside _ hstage | prepared _ hstage | ended _ hstage => exact hstage
  | invoking hcaller => simp [Handoff.unlocked, hcaller] at hfree
  | served hcaller =>
    simp only [Handoff.waits, Handoff.unlocked, Bool.or_eq_true, decide_eq_true_eq] at hcaller hfree
    rcases hcaller with hcaller | hcaller <;> rw [hcaller] at hfree <;> simp at hfree

/-- A client that is disconnected or connected again is in the same phase. -/
theorem of_unlocked {i' : Invoker} (hp : Phase i h) (hfree : h.unlocked = true)
    (hstage : i'.stage = .idle) : Phase i' h := by
  have hnot : h.waits = false := by
    simp only [Handoff.unlocked, Bool.or_eq_true, decide_eq_true_eq] at hfree
    rcases hfree with hc | hc <;> simp [Handoff.waits, hc]
  cases hp with
  | outside hcaller _ hpending => exact .outside hcaller hstage hpending
  | prepared hcaller _ hpending hready => exact .prepared hcaller hstage hpending hready
  | invoking hcaller => simp [Handoff.unlocked, hcaller] at hfree
  | served hcaller | ended hcaller =>
    rw [hnot] at hcaller
    cases hcaller

theorem served_of_stage (hp : Phase i h) (hst : i.stage ∈ [Stage.posted, .running, .ran]) :
    h.waits = true ∧ h.notifying = [] ∧ h.ready = false ∧
      (i.stage = .ran → h.produced = some (h.serial, i.clientData.response)) := by
  cases hp with
  | outside _ hstage | prepared _ hstage | ended _ hstage => rw [hstage] at hst; simp at hst
  | invoking _ hstage => rcases hstage with hstage | hstage <;> rw [hstage] at hst <;> simp at hst
  | served hcaller _ hpending hready hproduced => exact ⟨hcaller, hpending, hready, hproduced⟩

theorem invoking_of_stage (hp : Phase i h) (hst : i.stage = .accepted ∨ i.stage = .rejected) :
    h.caller = .invoking ∧ h.notifying = [] ∧ h.ready = false := by
  cases hp with
  | outside _ hstage | prepared _ hstage | ended _ hstage => rw [hstage] at hst; simp at hst
  | invoking hcaller _ hpending hready => exact ⟨hcaller, hpending, hready⟩
  | served _ hstage => rcases hst with hst | hst <;> rw [hst] at hstage <;> simp at hstage

/-- **The test of the flag.** -/
theorem wait (hp : Phase i h) (hcaller : h.caller = .waiting) : Phase i h.wait := by
  have hasleep : ({ h with caller := .asleep } : Handoff).waits = true := by simp [Handoff.waits]
  unfold Handoff.wait
  cases hp with
  | outside hc | prepared hc | invoking hc => rw [hcaller] at hc; cases hc
  | served _ hstage hpending hready hproduced =>
    rw [hready]
    exact .served hasleep hstage hpending rfl hproduced
  | ended _ hstage hproduced hended hpending =>
    cases hready : h.ready with
    | false =>
      refine .ended hasleep hstage hproduced hended ?_
      rw [hready] at hpending
      exact hpending
    | true =>
      refine .outside rfl hstage (.inl ?_)
      rw [hready] at hpending
      exact (hpending.resolve_left fun hc => nomatch hc.2).1

/-- **The notification.** -/
theorem notify (hp : Phase i h) : Phase i h.notify := by
  unfold Handoff.notify
  split
  · exact hp
  · rename_i n rest hlist
    cases hp with
    | outside hcaller hstage hpending =>
      rw [hlist] at hpending
      refine .outside hcaller hstage (.inl ?_)
      rcases hpending with hpending | hpending <;> cases hpending
      rfl
    | prepared _ _ hpending | invoking _ _ hpending | served _ _ hpending =>
      rw [hlist] at hpending
      cases hpending
    | ended hcaller hstage hproduced hended hpending =>
      rw [hlist] at hpending
      rcases hpending with ⟨hpending, -⟩ | ⟨hpending, -⟩ <;> cases hpending
      exact .ended hcaller hstage hproduced hended (.inr ⟨rfl, rfl⟩)

end Phase

theorem setHandoff_self (c : ClientPtr) (h : Handoff) (s : Invocations) :
    (s.setHandoff c h).handoff c = h := Function.update_self ..

theorem setHandoff_ne {k : ClientPtr} (hne : k ≠ c) (h : Handoff) (s : Invocations) :
    (s.setHandoff c h).handoff k = s.handoff k := Function.update_of_ne hne ..

theorem setHandoff_world (c : ClientPtr) (h : Handoff) (s : Invocations) :
    (s.setHandoff c h).world = s.world := rfl

/-- A step of client `c` that changes its hand-off only. -/
theorem Phased.setHandoff {h : Handoff} (hp : Phased s) (hc : Phase (s.world.invokers c) h) :
    Phased (s.setHandoff c h) := by
  intro k
  rw [setHandoff_world]
  by_cases hk : k = c
  · subst hk
    rw [setHandoff_self]
    exact hc
  · rw [setHandoff_ne hk]
    exact hp k

theorem reset_ok (h : s.reset c = .ok s') : ∃ cd, s' = setHandoff c (s.handoff c).reset
    { s with world := s.world.setInvoker c { s.world.invokers c with clientData := cd } } := by
  obtain ⟨i, hi, hret⟩ := bind_eq_ok.mp h
  cases hret
  unfold Invoker.prepare at hi
  rw [if_pos rfl] at hi
  obtain ⟨cd, hcd, hret⟩ := bind_eq_ok.mp hi
  cases hret
  exact ⟨_, rfl⟩

theorem Phased.reset (hp : Phased s) (hcaller : (s.handoff c).caller = .outside)
    (hpending : (s.handoff c).notifying = []) (hf : s.reset c = .ok s') : Phased s' := by
  obtain ⟨cd, rfl⟩ := reset_ok hf
  obtain ⟨hstage, -⟩ := (hp c).outside_of_caller hcaller
  intro k
  rw [setHandoff_world]
  by_cases hk : k = c
  · subst hk
    rw [setHandoff_self, World.setInvoker_self]
    exact .prepared rfl hstage hpending rfl
  · rw [setHandoff_ne hk, World.setInvoker_ne hk]
    exact hp k

/-- Signalling the managers leaves the invokers alone that no manager disconnects. -/
theorem signalStage_invoker {w w' : World} {reply : ManagerId → ManagerReply}
    (hs : w.signalStage reply = .ok w')
    (hne : ∀ m ∈ w.state.slots, ∀ p ∈ (reply m).disconnects, p.1 ≠ c) :
    w'.invokers c = w.invokers c := by
  obtain ⟨w₁, threw, hsig, rfl⟩ := World.signalStage_ok hs
  have hw₁ : w₁.invokers c = w.invokers c := by
    refine World.signalManagers_rule (I := fun w' => w'.invokers c = w.invokers c) ?_ ?_ hsig rfl
    · rintro w₁ w₂ hI m hm p hmem hd
      obtain ⟨b, cd, -, rfl⟩ := World.disconnect_ok hd
      rw [World.setInvoker_ne (Ne.symm (hne m hm p hmem))]
      exact hI
    · rintro w₁ hI m -
      exact hI
  cases threw <;> exact hw₁

/-- **A step of the back end for client `c`** moves its phase along. -/
theorem phase_backEnd {w : World} {l : Label} (hp : Phase (s.world.invokers c) (s.handoff c))
    (hl : l.client = some c) (hg : s.enabled (.backEnd l) = true)
    (hf : s.world.fire codec l = .ok w) :
    Phase (w.invokers c) ((s.handoff c).after l s.world w c) := by
  simp only [enabled, Bool.and_eq_true] at hg
  obtain ⟨hgw, hg⟩ := hg
  have hst := World.fire_stageStep c hgw hf
  have hstage : ∀ {st}, w.stage c = st → (w.invokers c).stage = st := id
  generalize hbefore : s.world.stage c = before at hst
  generalize hafter : w.stage c = after at hst
  cases hst with
  | other _ hne => exact absurd hl hne
  | connect | disconnect =>
    exact hp.of_unlocked hg (hafter.trans (hbefore.symm.trans (hp.idle_of_unlocked hg)))
  | accept resets r =>
    simp only [Bool.and_eq_true, decide_eq_true_eq] at hg
    simp only [Handoff.after, hafter, if_true]
    cases hp with
    | prepared _ _ hpending hready => exact .invoking rfl (.inl hafter) hpending hready
    | outside hc | invoking hc => rw [hg.2] at hc; cases hc
    | served hc | ended hc => simp [Handoff.waits, hg.2] at hc
  | refuse resets r =>
    simp only [Bool.and_eq_true, decide_eq_true_eq] at hg
    simp only [Handoff.after, hafter, reduceCtorEq, if_false]
    cases hp with
    | prepared _ _ hpending _ => exact .outside rfl hafter (.inl hpending)
    | outside hc | invoking hc => rw [hg.2] at hc; cases hc
    | served hc | ended hc => simp [Handoff.waits, hg.2] at hc
  | reject =>
    obtain ⟨-, hpending, hready⟩ := hp.invoking_of_stage (.inl hbefore)
    simp only [Handoff.after, hafter, reduceCtorEq, if_false]
    exact .invoking rfl (.inr hafter) hpending hready
  | post =>
    obtain ⟨-, hpending, hready⟩ := hp.invoking_of_stage (.inl hbefore)
    simp only [Handoff.after, hafter, if_true]
    refine .served (by simp [Handoff.waits]) ?_ hpending hready fun hran => ?_
    · rw [hstage hafter]
      decide
    · rw [hstage hafter] at hran
      cases hran
  | take =>
    obtain ⟨hcaller, hpending, hready, -⟩ := hp.served_of_stage (by
      rw [show (s.world.invokers c).stage = .posted from hbefore]
      decide)
    refine .served hcaller ?_ hpending hready fun hran => ?_
    · rw [hstage hafter]
      decide
    · rw [hstage hafter] at hran
      cases hran
  | run reply =>
    obtain ⟨hcaller, hpending, hready, -⟩ := hp.served_of_stage (by
      rw [show (s.world.invokers c).stage = .running from hbefore]
      decide)
    refine .served hcaller ?_ hpending hready fun _ => rfl
    rw [hstage hafter]
    decide
  | finishRejected =>
    obtain ⟨-, hpending, -⟩ := hp.invoking_of_stage (.inr hbefore)
    simp only [Handoff.after, hbefore, reduceCtorEq, if_false]
    exact .outside rfl hafter (.inl hpending)
  | finishRan =>
    obtain ⟨hcaller, hpending, hready, hproduced⟩ := hp.served_of_stage (by
      rw [show (s.world.invokers c).stage = .ran from hbefore]
      decide)
    obtain ⟨-, rfl⟩ := World.finish_ok hf
    simp only [Handoff.after, hbefore, if_true, hpending, List.nil_append]
    refine .ended hcaller hafter ?_ rfl (.inl ⟨rfl, hready⟩)
    rw [World.setInvoker_self]
    exact hproduced hbefore

/-- A step of the back end for nobody leaves the phases as they are. -/
theorem phase_backEnd_other {w : World} {l : Label} {k : ClientPtr}
    (hp : Phase (s.world.invokers k) (s.handoff k)) (hl : l.client ≠ some k)
    (hg : s.enabled (.backEnd l) = true) (hf : s.world.fire codec l = .ok w) :
    Phase (w.invokers k) (s.handoff k) := by
  simp only [enabled, Bool.and_eq_true] at hg
  cases hcl : l.client with
  | some c =>
    have hne : k ≠ c := fun heq => hl (hcl.trans (congrArg some heq.symm))
    rw [World.fire_invoker_other hcl hne hf]
    exact hp
  | none =>
    cases hsig : l.signals with
    | false =>
      rw [(World.fire_sameClients hcl hsig hf).invokers]
      exact hp
    | true =>
      obtain ⟨reply, rfl⟩ := Label.signals_eq_true hsig
      cases hfree : (s.handoff k).unlocked with
      | true =>
        have hsame : w.stage k = s.world.stage k := by rw [World.signalStage_stage hf]
        exact hp.of_unlocked hfree (hsame.trans (hp.idle_of_unlocked hfree))
      | false =>
        have hall := hg.2
        simp only [List.all_eq_true] at hall
        have hne : ∀ m ∈ s.world.state.slots, ∀ p ∈ (reply m).disconnects, p.1 ≠ k := by
          rintro m hm p hmem rfl
          exact Bool.false_ne_true (hfree.symm.trans (hall m hm p hmem))
        rw [signalStage_invoker hf hne]
        exact hp

theorem Phased.backEnd {l : Label} (hp : Phased s) (hg : s.enabled (.backEnd l) = true)
    (hf : s.fire codec (.backEnd l) = .ok s') : Phased s' := by
  obtain ⟨w, hw, hret⟩ := bind_eq_ok.mp hf
  intro k
  have hother : l.client ≠ some k → Phase (w.invokers k) (s.handoff k) :=
    fun hne => phase_backEnd_other (hp k) hne hg hw
  cases hl : l.client with
  | none =>
    simp only [hl] at hret
    cases hret
    exact hother (by simp [hl])
  | some c =>
    simp only [hl] at hret
    cases hret
    rw [setHandoff_world]
    by_cases hk : k = c
    · subst hk
      rw [setHandoff_self]
      exact phase_backEnd (hp k) hl hg hw
    · rw [setHandoff_ne hk]
      exact hother (by simp [hl, Ne.symm hk])

/-- **Every step that keeps the wake-ups in order keeps the phases.** -/
theorem Phased.step (hp : Phased s) (hcond : WakesInOrder (s, l)) (hg : s.enabled l = true)
    (hf : s.fire codec l = .ok s') : Phased s' := by
  cases l with
  | reset c => exact hp.reset (of_decide_eq_true hg) (hcond.resets c rfl) hf
  | throwDisconnected c =>
    simp only [enabled, Bool.and_eq_true, decide_eq_true_eq] at hg
    cases hf
    refine hp.setHandoff ?_
    have hpc := hp c
    cases hpc with
    | prepared _ hstage hpending _ => exact .outside rfl hstage (.inl hpending)
    | outside hc | invoking hc => rw [hg.1] at hc; cases hc
    | served hc | ended hc => simp [Handoff.waits, hg.1] at hc
  | wait c =>
    cases hf
    exact hp.setHandoff ((hp c).wait (of_decide_eq_true hg))
  | wake c =>
    have hcaller : (s.handoff c).caller = .asleep := of_decide_eq_true hg
    cases hf
    refine hp.setHandoff ?_
    have hpc := hp c
    cases hpc with
    | outside hc | prepared hc | invoking hc => rw [hcaller] at hc; cases hc
    | served _ _ hpending hready => exact absurd hpending (hcond.wakes c rfl hready)
    | ended _ hstage _ _ hpending =>
      exact .outside rfl hstage (hpending.symm.imp (·.1) (·.1))
  | notify c =>
    cases hf
    exact hp.setHandoff (hp c).notify
  | backEnd l => exact hp.backEnd hg hf

/-- The invocation that returns has ended. -/
theorem Phased.synchronous (hp : Phased s) (hcond : WakesInOrder (s, l))
    (hg : s.enabled l = true) (hret : s.returns c l = true) : Synchronous s c := by
  have hwaits : (s.handoff c).waits = true ∧
      ((s.handoff c).ready = false → (s.handoff c).notifying ≠ []) := by
    cases l with
    | wait c' =>
      simp only [returns, Bool.and_eq_true, decide_eq_true_eq] at hret
      obtain ⟨rfl, hready⟩ := hret
      have hcaller : (s.handoff c').caller = .waiting := of_decide_eq_true hg
      refine ⟨by simp [Handoff.waits, hcaller], fun hnot => ?_⟩
      exact absurd (hready.symm.trans hnot) Bool.noConfusion
    | wake c' =>
      obtain rfl : c' = c := of_decide_eq_true hret
      have hcaller : (s.handoff c').caller = .asleep := of_decide_eq_true hg
      exact ⟨by simp [Handoff.waits, hcaller], hcond.wakes c' rfl⟩
    | reset | throwDisconnected | notify | backEnd => cases hret
  have hpc := hp c
  cases hpc with
  | outside hc | prepared hc | invoking hc => simp [Handoff.waits, hc] at hwaits
  | served _ _ hpending hready => exact absurd hpending (hwaits.2 hready)
  | ended _ _ hproduced hended hpending =>
    refine ⟨hproduced, hended, fun hready => ?_⟩
    rcases hpending with ⟨-, hnot⟩ | ⟨-, hnotified⟩
    · exact absurd (hready.symm.trans hnot) Bool.noConfusion
    · exact hnotified

/-- A back end after its constructor, before any invoker. -/
def init (sourceType : SourceConnectionType) (backendType : DestinationConnectionType) :
    Invocations where
  world := World.init sourceType backendType

/-- **Invocations are synchronous.**  In every run whose wake-ups are in order, an invocation that
posted its request returns after the dispatch of that request and its `end_rpc`, with the response
of that dispatch, and a flag that is set was set for it. -/
theorem invocation_synchronous (codec : BasicProtocolCodec) (sourceType : SourceConnectionType)
    (backendType : DestinationConnectionType) {tr : List (Invocations × InvocationLabel)}
    {r : Except Fault Invocations}
    (h : (invocationMachine codec).Run (init sourceType backendType) tr r)
    (hcond : ∀ p ∈ tr, WakesInOrder p) :
    ∀ p ∈ tr, ∀ c, p.1.returns c p.2 = true → Synchronous p.1 c := by
  have hphased := h.invariant (I := Phased) (C := fun s l => WakesInOrder (s, l))
    (fun _ _ _ hp hcond hg hf => hp.step hcond hg hf)
    (fun _ => .outside rfl rfl (.inl rfl)) hcond
  intro p hp c hret
  exact (hphased.1 p hp).synchronous (hcond p hp) (h.guard p hp) hret

/-- No caller that has returned is about to be notified. -/
def Settled (s : Invocations) : Prop :=
  ∀ c, (s.handoff c).caller = .outside → (s.handoff c).notifying = []

theorem Settled.setHandoff {h : Handoff} (hs : Settled s)
    (hc : h.caller = .outside → h.notifying = []) : Settled (s.setHandoff c h) := by
  intro k
  by_cases hk : k = c
  · subst hk
    rw [setHandoff_self]
    exact hc
  · rw [setHandoff_ne hk]
    exact hs k

/-- An operation of the back end notifies nobody that has returned. -/
theorem Settled.after {w : World} {l : Label} (hs : Settled s) (hp : Phased s)
    (hg : s.enabled (.backEnd l) = true) (hl : l.client = some c) :
    ((s.handoff c).after l s.world w c).caller = .outside →
      ((s.handoff c).after l s.world w c).notifying = [] := by
  simp only [enabled, Bool.and_eq_true] at hg
  obtain ⟨hgw, hg⟩ := hg
  cases l with
  | request c' resets r =>
    cases hl
    simp only [Bool.and_eq_true, decide_eq_true_eq] at hg
    have hpc := hp c
    cases hpc with
    | prepared _ _ hpending _ => exact fun _ => hpending
    | outside hc | invoking hc => rw [hg.2] at hc; cases hc
    | served hc | ended hc => simp [Handoff.waits, hg.2] at hc
  | check c' =>
    simp only [Handoff.after]
    intro hout
    split at hout <;> cases hout
  | finish c' =>
    cases hl
    simp only [World.enabled, Bool.or_eq_true, decide_eq_true_eq] at hgw
    simp only [Handoff.after]
    split
    · rename_i hran
      intro hout
      have hserved := (hp c).served_of_stage (by
        rw [show (s.world.invokers c).stage = .ran from hran]
        decide)
      have hcaller : (s.handoff c).caller = .outside := hout
      simp [Handoff.waits, hcaller] at hserved
    · rename_i hran
      exact fun _ => ((hp c).invoking_of_stage (.inr (hgw.resolve_right hran))).2.1
  | _ => exact hs c

/-- **A step that is no spurious wake-up** leaves nobody behind who is yet to notify. -/
theorem Settled.step (hs : Settled s) (hp : Phased s)
    (hwake : ∀ c, l = .wake c → (s.handoff c).ready = true) (hg : s.enabled l = true)
    (hf : s.fire codec l = .ok s') : Settled s' := by
  cases l with
  | reset c =>
    obtain ⟨cd, rfl⟩ := reset_ok hf
    exact Settled.setHandoff (s := { s with world := _ }) hs fun hout => by cases hout
  | throwDisconnected c =>
    simp only [enabled, Bool.and_eq_true, decide_eq_true_eq] at hg
    cases hf
    refine hs.setHandoff fun _ => ?_
    have hpc := hp c
    cases hpc with
    | prepared _ _ hpending _ => exact hpending
    | outside hc | invoking hc => rw [hg.1] at hc; cases hc
    | served hc | ended hc => simp [Handoff.waits, hg.1] at hc
  | wait c =>
    have hcaller : (s.handoff c).caller = .waiting := of_decide_eq_true hg
    cases hf
    refine hs.setHandoff fun hout => ?_
    have hpc := hp c
    cases hpc with
    | outside hc | prepared hc | invoking hc => rw [hcaller] at hc; cases hc
    | served _ _ hpending => exact hpending
    | ended _ _ _ _ hpending =>
      rcases hpending with ⟨-, hready⟩ | ⟨hpending, -⟩
      · simp [Handoff.wait, hready] at hout
      · exact hpending
  | wake c =>
    have hcaller : (s.handoff c).caller = .asleep := of_decide_eq_true hg
    have hready := hwake c rfl
    cases hf
    refine hs.setHandoff fun _ => ?_
    have hpc := hp c
    cases hpc with
    | outside hc | prepared hc | invoking hc => rw [hcaller] at hc; cases hc
    | served _ _ hpending => exact hpending
    | ended _ _ _ _ hpending =>
      rcases hpending with ⟨-, hnot⟩ | ⟨hpending, -⟩
      · cases hready.symm.trans hnot
      · exact hpending
  | notify c =>
    cases hf
    refine hs.setHandoff fun hout => ?_
    unfold Handoff.notify at hout ⊢
    split
    · assumption
    · rename_i n rest hlist
      rw [hlist] at hout
      have hnil := hs c hout
      rw [hlist] at hnil
      cases hnil
  | backEnd l =>
    obtain ⟨w, hw, hret⟩ := bind_eq_ok.mp hf
    cases hl : l.client with
    | none =>
      simp only [hl] at hret
      cases hret
      exact hs
    | some c =>
      simp only [hl] at hret
      cases hret
      exact Settled.setHandoff (s := { s with world := w }) hs (hs.after hp hg hl)

/-- **Without spurious wake-ups** the wake-ups are in order: `wait` returns only with the flag
set. -/
theorem wakesInOrder_of_notified {sourceType : SourceConnectionType}
    {backendType : DestinationConnectionType} {tr : List (Invocations × InvocationLabel)}
    {r : Except Fault Invocations}
    (h : (invocationMachine codec).Run (init sourceType backendType) tr r)
    (hwake : ∀ p ∈ tr, ∀ c, p.2 = .wake c → (p.1.handoff c).ready = true) :
    ∀ p ∈ tr, WakesInOrder p := by
  have horder : ∀ s l, Settled s → (∀ c, l = .wake c → (s.handoff c).ready = true) →
      s.enabled l = true → WakesInOrder (s, l) := by
    intro s l hs hready hg
    refine ⟨fun c hl hnot => ?_, fun c hl => ?_⟩
    · cases (hready c hl).symm.trans hnot
    · obtain rfl : l = .reset c := hl
      exact hs c (of_decide_eq_true hg)
  have hinv := h.invariant (I := fun s => Phased s ∧ Settled s)
    (C := fun s l => ∀ c, l = .wake c → (s.handoff c).ready = true)
    (fun _ _ _ hI hC hg hf => ⟨hI.1.step (horder _ _ hI.2 hC hg) hg hf, hI.2.step hI.1 hC hg hf⟩)
    ⟨fun _ => .outside rfl rfl (.inl rfl), fun _ _ => rfl⟩ hwake
  exact fun p hp => horder _ _ (hinv.1 p hp).2 (hwake p hp) (h.guard p hp)

/-- Whether a step keeps the wake-ups in order can be computed. -/
def wakesInOrder (p : Invocations × InvocationLabel) : Bool :=
  match p.2 with
  | .wake c => (p.1.handoff c).ready || !(p.1.handoff c).notifying.isEmpty
  | .reset c => (p.1.handoff c).notifying.isEmpty
  | _ => true

theorem wakesInOrder_sound {p : Invocations × InvocationLabel} (h : wakesInOrder p = true) :
    WakesInOrder p := by
  obtain ⟨s, l⟩ := p
  constructor
  · rintro c rfl hready
    simp only [wakesInOrder, Bool.or_eq_true, Bool.not_eq_true'] at h
    have hpending := h.resolve_left fun hr => Bool.false_ne_true (hready.symm.trans hr)
    intro hnil
    rw [hnil] at hpending
    cases hpending
  · rintro c rfl
    exact List.isEmpty_iff.mp h

/-- Client 7 connects, and posts a hello. -/
def posting : List InvocationLabel :=
  (startUp 7).map .backEnd ++
    [.reset 7, .backEnd (.request 7 false {}), .backEnd (.check 7), .wait 7]

/-- The request is dispatched before the caller wakes up. -/
def served : List InvocationLabel :=
  posting ++ [.backEnd (.take 7), .backEnd (.run 7 {}), .backEnd (.finish 7), .notify 7, .wake 7]

theorem invocation_synchronous_sample : ∃ tr : List (Invocations × InvocationLabel),
    (∃ p ∈ tr, p.1.returns 7 p.2 = true) ∧
      ∀ p ∈ tr, ∀ c, p.1.returns c p.2 = true → Synchronous p.1 c := by
  obtain ⟨s, hrun, -⟩ := (invocationMachine basicProtocolCodec).exec_observed
    (init .sourceRelay .targetMarshall) served (fun s => (s.handoff 7).caller)
    (a := .outside) (by decide +kernel) (by decide +kernel)
  have hcheck : ((invocationMachine basicProtocolCodec).exec
      (init .sourceRelay .targetMarshall) served).1.all wakesInOrder = true := by
    decide +kernel
  have hreturns : ((invocationMachine basicProtocolCodec).exec
      (init .sourceRelay .targetMarshall) served).1.any (fun p => p.1.returns 7 p.2) = true := by
    decide +kernel
  refine ⟨_, List.any_eq_true.mp hreturns, invocation_synchronous _ _ _ hrun fun p hp => ?_⟩
  exact wakesInOrder_sound (List.all_eq_true.mp hcheck p hp)

/-- **A wake-up without a notification returns before the dispatch.** -/
theorem invocation_returns_early : ¬ ∀ (codec : BasicProtocolCodec)
    (sourceType : SourceConnectionType) (backendType : DestinationConnectionType)
    (tr : List (Invocations × InvocationLabel)) (r : Except Fault Invocations), codec.Lawful →
    (invocationMachine codec).Run (init sourceType backendType) tr r →
      ∀ p ∈ tr, ∀ c, p.1.returns c p.2 = true → Synchronous p.1 c := by
  intro h
  obtain ⟨s, hrun, hobs⟩ := (invocationMachine basicProtocolCodec).exec_observed
    (init .sourceRelay .targetMarshall) posting
    (fun s => ((s.handoff 7).caller, (s.handoff 7).produced)) (a := (.asleep, none))
    (by decide +kernel) (by decide +kernel)
  obtain ⟨hcaller, hproduced⟩ := by simpa only [Prod.mk.injEq] using hobs
  have hwake : (invocationMachine basicProtocolCodec).Run s [(s, .wake 7)]
      (.ok (s.setHandoff 7 { s.handoff 7 with caller := .outside })) :=
    .step (decide_eq_true hcaller) rfl (.done _)
  have hsync := h _ _ _ _ _ basicProtocolCodec_lawful (hrun.append hwake) (s, .wake 7)
    (by simp) 7 rfl
  exact nomatch hproduced.symm.trans hsync.dispatched

end Invocations

end RblRpc
