import RblRpc.Backend.Disconnection
import RblRpc.Backend.Endings

/-!
# Requests that never end

A request that was accepted waits for the checks of `invoke`, and then for the pool.  Whether it
will strand there is settled when it is accepted: nothing that others do in between changes what the
checks will find of it.

* `Unending` — an accepted request that will be posted, and that no dispatch ends.
* `opensInTurn`, `Steady` — requests are let in between the start and the shutdown only; the
  invariant of the runs in which they are.
* `Unending.step` — **such a request stays so with every step**; `unending_step` — and is one from
  the step on that accepts it.
-/

namespace RblRpc

open Transition BackEnd

namespace World

variable {codec : BasicProtocolCodec} {w w' : World} {c : ClientPtr} {l : Label}

/-! ## The runs that let requests in in turn -/

/-- Requests are let in after the start, and not once a shutdown has stopped them. -/
def opensInTurn (w : World) : Label → Bool
  | .resumeRequests => w.backEnd.isSealed && !w.requestsStopped
  | l => !(w.requestsStopped && w.reopens l)

theorem opensInTurn_shut (h : w.opensInTurn l = true) (hs : w.requestsStopped = true) :
    w.reopens l = false := by
  unfold opensInTurn at h
  split at h
  · rw [hs, Bool.not_true, Bool.and_false] at h
    cases h
  · rwa [hs, Bool.true_and, Bool.not_eq_true'] at h

theorem opensInTurn_client (hl : l.client = some c) : w.opensInTurn l = true := by
  cases l <;> cases hl <;> simp [opensInTurn, reopens]

/-- **The invariant of these runs**: a back end that accepts requests, or has one under way, was
started. -/
structure Steady (w : World) : Prop extends Attending w where
  accepting : w.state.acceptingRequests = true → w.backEnd.isSealed = true
  busy : ∀ c, w.stage c ≠ .idle → w.backEnd.isSealed = true

theorem init_steady (sourceType : SourceConnectionType)
    (backendType : DestinationConnectionType) : Steady (init sourceType backendType) where
  toAttending := init_attending _ _
  accepting hacc := by
    obtain ⟨services, ec, count, heq⟩ := registerAndInitService_writes basicProtocolService
      { sourceType := sourceType, backendType := backendType }
    rw [state, init, BackEnd.new, heq] at hacc
    cases hacc
  busy _ hc := absurd rfl hc

/-- What lets requests in leaves the back end started. -/
theorem opensInTurn_sealed (h : w.opensInTurn l = true) (hopens : w.reopens l = true)
    (hf : fire codec w l = .ok w') : w'.backEnd.isSealed = true := by
  cases l <;> first | cases hopens | skip
  case resumeRequests =>
    simp only [opensInTurn, Bool.and_eq_true] at h
    exact fire_sealed h.1 hf
  case start =>
    obtain ⟨b, e, hstart, rfl⟩ := start_ok hf
    obtain ⟨-, ⟨hs, rfl, -⟩ | ⟨-, -, -, cs₀, cs, -, -, rfl⟩⟩ := BackEnd.start_ok hstart
    · exact hs
    · rfl

/-- Only a request that is accepted makes its client busy. -/
theorem busy_step (hg : w.enabled l = true) (hf : fire codec w l = .ok w')
    (h : w'.stage c ≠ .idle) :
    w.stage c ≠ .idle ∨
      ∃ resets r, l = .request c resets r ∧ w.state.acceptingRequests = true := by
  have hstep := fire_stageStep c hg hf
  by_cases hidle : w.stage c = .idle
  · rw [hidle] at hstep
    generalize w'.stage c = s at hstep h
    cases hstep
    case accept resets r hacc => exact .inr ⟨resets, r, rfl, hacc⟩
    all_goals exact absurd rfl h
  · exact .inl hidle

theorem Steady.step (h : Steady w) (hopens : w.opensInTurn l = true) (hg : w.enabled l = true)
    (hf : fire codec w l = .ok w') : Steady w' where
  toAttending := h.toAttending.step (opensInTurn_shut hopens) hg hf
  accepting hacc := by
    have hkept : w.state.acceptingRequests = true → w'.backEnd.isSealed = true :=
      fun hacc => fire_sealed (h.accepting hacc) hf
    rcases fire_controlStep hf with ⟨-, hopen⟩ | ⟨hstate, hstate'⟩ | ⟨-, -, hclosed⟩ |
      ⟨-, -, -, hsame⟩
    · rcases hopen hacc with hacc | hopen
      · exact hkept hacc
      · exact opensInTurn_sealed hopens hopen hf
    · have hsame : w.state.checkAndInitiateShutdown.2.acceptingRequests =
          w.state.acceptingRequests := by
        unfold SynchronisedBackEndState.checkAndInitiateShutdown
        split <;> rfl
      cases hf
      exact hkept (hsame.symm.trans hacc)
    · exact absurd (hclosed.symm.trans hacc) Bool.false_ne_true
    · exact hkept (hsame.symm.trans hacc)
  busy c hc := by
    refine fire_sealed ?_ hf
    rcases busy_step hg hf hc with hbusy | ⟨-, -, -, hacc⟩
    · exact h.busy c hbusy
    · exact h.accepting hacc

/-! ## A request that is accepted -/

/-- A busy client keeps its cookies in the steps that are not its own. -/
theorem fire_busy_cookie (h : Serving w) (hl : l.client ≠ some c) (hg : w.enabled l = true)
    (hf : fire codec w l = .ok w') (hbusy : w.stage c ≠ .idle) (s : ℕ) :
    w'.cookie s c = w.cookie s c := by
  cases hcl : l.client with
  | some c' =>
    exact fire_lookup_client hcl (fun heq => hl (hcl.trans (congrArg some heq.symm))) hf s
  | none =>
    cases hsig : l.signals with
    | false => exact fire_lookup_server h.sound.registry hcl hsig hf s c
    | true =>
      obtain ⟨reply, rfl⟩ := Label.signals_eq_true hsig
      simp only [enabled, Bool.and_eq_true, decide_eq_true_eq] at hg
      exact ((signalStage_departed h.sound.registry h.fits hg.2 hf).busy c hbusy).2 s

/-- The request of `c` waits for the checks, which will post it, or is in the pool; and no dispatch
ends it. -/
structure Unending (codec : BasicProtocolCodec) (w : World) (c : ClientPtr) : Prop where
  pending : w.stage c = .accepted ∧ Admitted c w.backEnd (w.data c) ∨ w.inPool c
  stranded : w.stranded codec c = true

theorem Unending.busy (h : Unending codec w c) : w.stage c ≠ .idle := by
  rcases h.pending with ⟨hst, -⟩ | hc
  · rw [hst]
    exact Stage.noConfusion
  · exact hc.busy

/-- What others do changes nothing of a request. -/
theorem unending_other (h : Steady w) (hl : l.client ≠ some c) (hg : w.enabled l = true)
    (hf : fire codec w l = .ok w') (hbusy : w.stage c ≠ .idle) :
    Unending codec w' c ↔ Unending codec w c := by
  have hlasting := h.lasting hbusy
  have hsame := fire_busy hlasting.serving hl hg hf hbusy
  have hservices := hlasting.services_step (h.busy c hbusy) hg hf
  obtain ⟨hsource, hbackend⟩ := types_step hlasting.serving hg hf
  have hdata : w'.data c = w.data c := congrArg Invoker.clientData hsame
  have hstage : w'.stage c = w.stage c := congrArg Invoker.stage hsame
  have hsub : ∀ s, w'.backEnd.clientServiceCookies.isSubscribed s c =
      w.backEnd.clientServiceCookies.isSubscribed s c := fun s =>
    isSubscribed_congr (fire_busy_cookie hlasting.serving hl hg hf hbusy s)
  have hstranded : w'.stranded codec c = w.stranded codec c := by
    rw [stranded, stranded, hdata]
    exact strands_congr _ hservices hsource hbackend
  have hadm : Admitted c w'.backEnd (w'.data c) ↔ Admitted c w.backEnd (w.data c) := by
    rw [hdata]
    exact ⟨fun hadm => hadm.congr hservices.symm (fun s => (hsub s).symm) rfl rfl,
      fun hadm => hadm.congr hservices hsub rfl rfl⟩
  have hpool : w'.inPool c ↔ w.inPool c := by rw [inPool, inPool, hstage]
  constructor <;> rintro ⟨hpending, hs⟩ <;> refine ⟨?_, ?_⟩
  · rwa [hstage, hadm, hpool] at hpending
  · rwa [hstranded] at hs
  · rwa [hstage, hadm, hpool]
  · rwa [hstranded]

/-- **A request that is posted, and that no dispatch ends, stays so** with the steps of its client:
the last of them does not return. -/
theorem Unending.own (hun : Unending codec w c) (h : Steady w) (hl : l.client = some c)
    (hg : w.enabled l = true) (hf : fire codec w l = .ok w') : Unending codec w' c := by
  have hlasting := h.lasting hun.busy
  have hsealed := h.busy c hun.busy
  cases l <;> cases hl
  case connect fresh =>
    cases fresh with
    | true =>
      simp only [enabled, Bool.not_true, Bool.false_or, Bool.and_eq_true, decide_eq_true_eq] at hg
      exact absurd hg.2 hun.busy
    | false =>
      cases hf
      exact ⟨hun.pending.imp_left (And.imp_right fun hadm => hadm.congr rfl (fun _ => rfl) rfl rfl),
        hun.stranded⟩
  case disconnect reply | request resets r =>
    simp only [enabled, Bool.and_eq_true, decide_eq_true_eq] at hg
    exact absurd hg.2 hun.busy
  case check =>
    have hst : w.stage c = .accepted := of_decide_eq_true hg
    rcases hun.pending with ⟨-, hadm⟩ | hpool
    · obtain ⟨w₁, hf₁, hposted, hdata⟩ := hlasting.check_posts codec hsealed hadm
      cases hf₁.symm.trans hf
      exact ⟨.inr (.inl hposted), (hlasting.stranded_step hsealed hg hf hdata).trans hun.stranded⟩
    · rcases hpool with hpool | hpool <;> cases hst.symm.trans hpool
  case take =>
    simp only [enabled, Bool.and_eq_true, decide_eq_true_eq] at hg
    obtain ⟨hg', w₁, hf₁, hrunning, hdata⟩ := hlasting.take_total codec hg.2
    cases hf₁.symm.trans hf
    exact ⟨.inr (.inr hrunning), (hlasting.stranded_step hsealed hg' hf hdata).trans hun.stranded⟩
  case run reply =>
    have hends := (hlasting.run_ok_iff (of_decide_eq_true hg) reply).mp ⟨w', hf⟩
    cases hun.stranded.symm.trans hends
  case finish =>
    simp only [enabled, Bool.or_eq_true, decide_eq_true_eq] at hg
    rcases hun.pending with ⟨hst, -⟩ | hst | hst <;> rcases hg with heq | heq <;>
      cases hst.symm.trans heq

/-- **Such a request never ends**, whatever the threads do. -/
theorem Unending.step (hun : Unending codec w c) (h : Steady w) (hg : w.enabled l = true)
    (hf : fire codec w l = .ok w') : Unending codec w' c := by
  by_cases hl : l.client = some c
  · exact hun.own h hl hg hf
  · exact (unending_other h hl hg hf hun.busy).mpr hun

/-- The operation gives `c` a request that is accepted, that the checks will post, and that no
dispatch ends. -/
structure AcceptsUnending (codec : BasicProtocolCodec) (w : World) (c : ClientPtr)
    (r : ClientRequest) : Prop where
  accepting : w.state.acceptingRequests = true
  admitted : Admitted c w.backEnd { w.data c with request := r }
  strands : w.backEnd.strands codec r = true

theorem request_unending_iff {resets : Bool} {r : ClientRequest}
    (hf : w.request c resets r = .ok w') :
    Unending codec w' c ↔ AcceptsUnending codec w c r := by
  obtain ⟨b, i, rfl, hreq, hsame, hcase⟩ := request_ok hf
  have hadm : ∀ s, Admitted c (w.backEnd.setState s) i.clientData ↔
      Admitted c w.backEnd { w.data c with request := r } := fun s =>
    ⟨fun hadm => hadm.congr rfl (fun _ => rfl) hreq.symm hsame.clientEstablished.symm,
      fun hadm => hadm.congr rfl (fun _ => rfl) hreq hsame.clientEstablished⟩
  rcases hcase with ⟨hacc, -, rfl, hst, -⟩ | ⟨hacc, rfl, hst, -⟩
  · constructor
    · rintro ⟨⟨-, hadm'⟩ | hpool, hs⟩
      · rw [data, setInvoker_self] at hadm'
        rw [stranded, data, setInvoker_self, hreq] at hs
        exact ⟨hacc, (hadm _).mp hadm', hs⟩
      · rw [inPool, stage_setInvoker_self, hst] at hpool
        rcases hpool with hpool | hpool <;> cases hpool
    · rintro ⟨-, hadm', hs⟩
      refine ⟨.inl ⟨(stage_setInvoker_self i).trans hst, ?_⟩, ?_⟩
      · rw [data, setInvoker_self]
        exact (hadm _).mpr hadm'
      · rw [stranded, data, setInvoker_self, hreq]
        exact hs
  · refine ⟨fun hun => absurd ((stage_setInvoker_self i).trans hst) hun.busy, fun h => ?_⟩
    exact absurd (hacc.symm.trans h.accepting) Bool.false_ne_true

/-- The steps of its client but the first found it so. -/
theorem unending_own (h : Steady w) (hl : l.client = some c)
    (hnew : ∀ resets r, l ≠ .request c resets r) (hg : w.enabled l = true)
    (hf : fire codec w l = .ok w') (hun : Unending codec w' c) : Unending codec w c := by
  have hstep := fire_stageStep c hg hf
  have hstranded : w.stage c ≠ .idle → w'.data c = w.data c → w.stranded codec c = true :=
    fun hbusy hdata =>
      ((h.lasting hbusy).stranded_step (h.busy c hbusy) hg hf hdata).symm.trans hun.stranded
  have hno : w'.stage c ∉ [Stage.idle, .rejected, .ran] := by
    intro hmem
    rcases hun.pending with ⟨hst, -⟩ | hst | hst <;> rw [hst] at hmem <;> revert hmem <;> decide
  generalize hs : w.stage c = s at hstep
  generalize hs' : w'.stage c = s' at hstep hno
  cases hstep with
  | other _ hne => exact absurd hl hne
  | connect fresh =>
    cases fresh with
    | true =>
      cases hf
      rw [← hs', show (w.connect c true).stage c = .idle from stage_setInvoker_self _] at hno
      exact absurd (by decide) hno
    | false =>
      cases hf
      exact ⟨hun.pending.imp_left (And.imp_right fun hadm => hadm.congr rfl (fun _ => rfl) rfl rfl),
        hun.stranded⟩
  | disconnect reply =>
    simp only [enabled, Bool.and_eq_true, decide_eq_true_eq] at hg
    rw [← hs, hg.2] at hno
    exact absurd (by decide) hno
  | accept resets r | refuse resets r => exact absurd rfl (hnew resets r)
  | post =>
    obtain ⟨b, i, hcheck, rfl⟩ := stepInvoker_ok.mp hf
    obtain ⟨cs, -, -, ⟨hrej, -⟩ | ⟨hadm, -, rfl⟩⟩ := checkRequest_ok hcheck
    · rw [stage_setInvoker_self, hrej] at hs'
      cases hs'
    · refine ⟨.inl ⟨hs, hadm⟩, hstranded (hs ▸ Stage.noConfusion) ?_⟩
      rw [data, setInvoker_self]
      rfl
  | take =>
    cases hf
    refine ⟨.inr (.inl hs), hstranded (hs ▸ Stage.noConfusion) ?_⟩
    rw [data, setInvoker_self]
    rfl
  | reject | run | finishRejected | finishRan => exact absurd (by decide) hno

/-- **A request is one that never ends** from the step on that accepts it. -/
theorem unending_step (h : Steady w) (hg : w.enabled l = true) (hf : fire codec w l = .ok w')
    (hun : Unending codec w' c) :
    Unending codec w c ∨ ∃ resets r, l = .request c resets r ∧ AcceptsUnending codec w c r := by
  by_cases hl : l.client = some c
  · by_cases hnew : ∃ resets r, l = .request c resets r
    · obtain ⟨resets, r, rfl⟩ := hnew
      exact .inr ⟨resets, r, rfl, (request_unending_iff hf).mp hun⟩
    exact .inl (unending_own h hl (fun resets r heq => hnew ⟨resets, r, heq⟩) hg hf hun)
  · have hbusy : w.stage c ≠ .idle := by
      rw [← fire_stage_ne hl hf]
      exact hun.busy
    exact .inl ((unending_other h hl hg hf hbusy).mp hun)

end World

end RblRpc
