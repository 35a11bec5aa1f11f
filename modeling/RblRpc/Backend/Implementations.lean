import RblRpc.Backend.Endings

/-!
# Service implementations

The implementation of a service is given the client data and the client cookie of its caller.  What
it does to the cookie and what becomes of its output is in a `ServiceReply`; here it writes whatever
else it likes to the client data, when it is called and when the client is disconnected.

* `ClientWrites` — what an implementation writes; `rpcActive` is left to `BackEnd`.
* `serviceMachine` — the back end with such services.
* `Attended.applyWrites` — **the invariants do not depend on what they write.**
-/

namespace RblRpc

open Transition BackEnd

/-- What an implementation writes to the client data besides its reply.  The mark of the active
request is that of `start_rpc` and `end_rpc`, which `BackEnd` calls; and nothing takes back
`establish_client`. -/
structure ClientWrites where
  apply : ClientData → ClientData
  rpcActive : ∀ cd, (apply cd).rpcActive = cd.rpcActive
  clientEstablished : ∀ cd, cd.clientEstablished = true → (apply cd).clientEstablished = true

/-- An implementation that writes nothing else. -/
def ClientWrites.none : ClientWrites := ⟨id, fun _ => rfl, fun _ h => h⟩

/-- A step, and what the implementations write in it. -/
abbrev ServiceLabel := Label × ClientWrites

namespace World

/-- The implementation writes to the data of `c`. -/
def applyWrites (c : ClientPtr) (writes : ClientWrites) (w : World) : World :=
  w.setInvoker c { w.invokers c with clientData := writes.apply (w.data c) }

/-- What is written in a step, in a dispatch or by the calls of `unsubscribe` in a disconnection. -/
def afterwards (l : ServiceLabel) (w : World) : World :=
  match l.1 with
  | .run c _ | .disconnect c _ => w.applyWrites c l.2
  | _ => w

end World

/-- The back end, with services that write to the client data. -/
def serviceMachine (codec : BasicProtocolCodec) : Machine World ServiceLabel Fault where
  guard w l := w.enabled l.1
  fire w l := (World.fire codec w l.1).map (World.afterwards l)

namespace World

variable {codec : BasicProtocolCodec} {w w' : World} {c : ClientPtr} {writes : ClientWrites}
  {l : ServiceLabel}

theorem serviceMachine_ok : (serviceMachine codec).fire w l = .ok w' ↔
    ∃ w₁, fire codec w l.1 = .ok w₁ ∧ w' = w₁.afterwards l := by
  show (fire codec w l.1).map (afterwards l) = .ok w' ↔ _
  cases fire codec w l.1 with
  | ok w₁ => simp [Except.map, eq_comm]
  | error f => simp [Except.map]

theorem serviceMachine_error {f : Fault} : (serviceMachine codec).fire w l = .error f ↔
    fire codec w l.1 = .error f := by
  show (fire codec w l.1).map (afterwards l) = .error f ↔ _
  cases fire codec w l.1 with
  | ok w₁ => simp [Except.map]
  | error f => simp [Except.map]

/-! ## The invariants -/

theorem applyWrites_stage : (w.applyWrites c writes).stage = w.stage := by
  funext k
  by_cases hk : k = c
  · subst hk
    exact stage_setInvoker_self _
  · rw [stage, applyWrites, setInvoker_ne hk]
    rfl

theorem applyWrites_ne {k : ClientPtr} (hk : k ≠ c) :
    (w.applyWrites c writes).invokers k = w.invokers k := setInvoker_ne hk _

theorem applyWrites_accounted (h : Accounted w) : Accounted (w.applyWrites c writes) := by
  have hactive : ∀ k, ((w.applyWrites c writes).data k).rpcActive = (w.data k).rpcActive := by
    intro k
    by_cases hk : k = c
    · subst hk
      rw [data, applyWrites, setInvoker_self]
      exact writes.rpcActive _
    · rw [data, applyWrites_ne hk]
      rfl
  constructor
  · rw [applyWrites_stage]
    exact h.connected
  · intro k
    rw [hactive, applyWrites_stage]
    exact h.active k
  · rw [applyWrites_stage]
    exact h.count
  · rw [applyWrites_stage]
    exact h.queue

theorem applyWrites_gated (h : Gated w) (hc : ¬w.pending c) : Gated (w.applyWrites c writes) := by
  refine h.update (b := w.backEnd) (fun hpool => absurd (.inr hpool) hc) fun hrun =>
    ⟨hrun, fun o ho k hk => ?_⟩
  obtain ⟨hconn, hest⟩ := h.subscribed hrun o ho k hk
  by_cases hkc : k = c
  · subst hkc
    exact .inr ⟨rfl, hconn, writes.clientEstablished _ hest⟩
  · exact .inl ⟨hkc, hconn, hk⟩

/-- **What an implementation writes** to the data of a client whose request is not pending breaks no
invariant. -/
theorem Attended.applyWrites (h : Attended w) (hc : ¬w.pending c) :
    Attended (w.applyWrites c writes) := by
  have hstage : (w.applyWrites c writes).stage = w.stage := applyWrites_stage
  have hnot : ¬(w.applyWrites c writes).pending c := by
    rw [pending, inPool, hstage]
    exact hc
  have hsame : ∀ k, (w.applyWrites c writes).inPool k → w.inPool k ∧
      (w.applyWrites c writes).invokers k = w.invokers k := by
    intro k hk
    have hne : k ≠ c := by
      rintro rfl
      exact hnot (.inr hk)
    rw [inPool, hstage] at hk
    exact ⟨hk, applyWrites_ne hne⟩
  have hsound := h.serving.sound
  refine ⟨⟨⟨applyWrites_accounted hsound.accounted, hsound.registry,
      applyWrites_gated hsound.gated hc⟩, h.serving.fits,
      h.serving.underway.of_settled (fun k hk => ⟨applyWrites_ne hk, fun _ => rfl⟩) hnot⟩,
    ⟨h.store.registry, h.store.activated, ?_⟩, ⟨h.staged.point, h.staged.reset⟩, ?_⟩
  · rw [hstage]
    exact h.store.pool
  · refine ⟨fun k hk => h.pooled.isSealed k (hsame k hk).1, fun k hk => ?_, fun k hk => ?_,
      h.pooled.contiguous, h.pooled.stopped⟩
    · rw [(hsame k hk).2]
      exact h.pooled.cookie k (hsame k hk).1
    · rw [data, (hsame k hk).2]
      exact h.pooled.offered k (hsame k hk).1

/-- No request is pending where an implementation has written. -/
theorem afterwards_attended (h : Attended w) (hg : w.enabled l.1 = true)
    (hf : fire codec w l.1 = .ok w') : Attended (w'.afterwards l) := by
  have h' := h.step hg hf
  have hstep := fun c => fire_stageStep c hg hf
  obtain ⟨l, writes⟩ := l
  cases l with
  | run c reply =>
    refine h'.applyWrites ?_
    have hran := hstep c
    rw [show w.stage c = .running from of_decide_eq_true hg] at hran
    intro hp
    generalize hst : w'.stage c = s at hran
    cases hran with
    | other _ hl => exact hl rfl
    | run => exact not_pending_of_stage hst (.inr (.inr rfl)) hp
  | disconnect c reply =>
    simp only [enabled, Bool.and_eq_true, decide_eq_true_eq] at hg
    exact h'.applyWrites
      (not_pending_of_stage ((congrFun (disconnect_stage hf) c).trans hg.2) (.inl rfl))
  | _ => exact h'

/-- **The invariants hold in every run** with such services. -/
theorem attended_reaches {sourceType : SourceConnectionType}
    {backendType : DestinationConnectionType}
    (h : (serviceMachine codec).Reaches (init sourceType backendType) w) : Attended w := by
  refine h.invariant (fun w l w' hw hg hf => ?_) (init_attended _ _)
  obtain ⟨w₁, hf₁, rfl⟩ := serviceMachine_ok.mp hf
  exact afterwards_attended hw hg hf₁

/-- What the implementations write is in the client data. -/
theorem afterwards_backEnd : (w.afterwards l).backEnd = w.backEnd := by
  obtain ⟨l, writes⟩ := l
  cases l <;> rfl

/-- A step of a client keeps the back end lasting, and sealed. -/
theorem afterwards_lasting (h : Lasting w) (hl : l.1.client = some c) (hg : w.enabled l.1 = true)
    (hf : fire codec w l.1 = .ok w') : Lasting (w'.afterwards l) := by
  refine ⟨afterwards_attended h.toAttended hg hf, fun hwaits => ?_⟩
  refine (h.step_client hl hg hf).notWaiting ?_
  rw [waitsForManagers, state, afterwards_backEnd] at hwaits
  exact hwaits

end World

end RblRpc
