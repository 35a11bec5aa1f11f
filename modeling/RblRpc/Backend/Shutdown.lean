import RblRpc.Backend.Admission

/-!
# Shutting the back end down

The accepting flag, the state of the shutdown and the seal are written by different operations.

* `ControlStep` — what a step does to the state of the shutdown and to the flag.
* `Staged` — the invariant of every run: a service is torn down, and the step is past the test of
  the active requests, only when the shutdown waits for the managers.
* `Closed` — the invariant of the runs that let no request in again: nothing is accepted after the
  first step, and nothing is under way after the second test.
* `shutdown_final_iff` — **shutdown is final exactly in these runs.**
-/

namespace RblRpc

open Transition BackEnd

namespace World

variable {codec : BasicProtocolCodec} {w w' : World} {c : ClientPtr} {l : Label}

/-- Shutdown was initiated, and `shutdown_step` has stopped the requests. -/
def requestsStopped (w : World) : Bool :=
  match w.state.shutdownState with
  | .active | .shutdownInitiated => false
  | _ => true

/-- The operation lets requests in: `resume_requests`, and a `start` that neither throws nor
asserts. -/
def reopens (w : World) : Label → Bool
  | .resumeRequests => true
  | .start => !w.backEnd.isSealed && decide (0 < w.backEnd.poolSize) &&
      decide (w.backEnd.services.size = w.backEnd.services.occupiedSize)
  | _ => false

/-! ## The state of the shutdown -/

/-- What a step does to the state of the shutdown, and to the acceptance of requests. -/
inductive ControlStep (w w' : World) : Label → Prop
  | keep {l : Label} (hstate : w'.state.shutdownState = w.state.shutdownState)
      (hopen : w'.state.acceptingRequests = true →
        w.state.acceptingRequests = true ∨ w.reopens l = true) : ControlStep w w' l
  | initiate (hstate : w.state.shutdownState = .active)
      (hstate' : w'.state.shutdownState = .shutdownInitiated) :
    ControlStep w w' .initiateShutdown
  | stop (hstate : w.state.shutdownState = .shutdownInitiated)
      (hstate' : w'.state.shutdownState = .shutdownWaitingOnActiveRpcEnd)
      (hclosed : w'.state.acceptingRequests = false) : ControlStep w w' .stopStage
  | drained (hstate : w.state.shutdownState = .shutdownWaitingOnActiveRpcEnd)
      (hstate' : w'.state.shutdownState = .shutdownWaitingOnManagerDisconections)
      (hcount : w.state.activeRpcCount = 0)
      (hkept : w'.state.acceptingRequests = w.state.acceptingRequests) :
    ControlStep w w' .rpcStage

theorem ControlStep.of_state (hstate : w'.state.shutdownState = w.state.shutdownState)
    (hkept : w'.state.acceptingRequests = w.state.acceptingRequests) : ControlStep w w' l :=
  .keep hstate fun h => .inl (hkept ▸ h)

theorem disconnect_state {reply : ℕ → ServiceReply} (h : w.disconnect c reply = .ok w') :
    w'.state = w.state := by
  obtain ⟨b, cd, hd, rfl⟩ := disconnect_ok h
  obtain ⟨-, -, -, ⟨cs, calls, rfl⟩, -⟩ := BackEnd.disconnect_ok hd
  rfl

/-- The managers write neither the state of the shutdown nor the flag. -/
theorem signalManagers_control {reply : ManagerId → ManagerReply} {ms : List ManagerId}
    {threw : Bool} (h : signalManagers reply ms w = .ok (w', threw)) :
    w'.state.shutdownState = w.state.shutdownState ∧
      w'.state.acceptingRequests = w.state.acceptingRequests := by
  refine signalManagers_rule (I := fun w' => w'.state.shutdownState = w.state.shutdownState ∧
    w'.state.acceptingRequests = w.state.acceptingRequests) ?_ ?_ h ⟨rfl, rfl⟩
  · intro w₁ w₂ hI m _ p _ hd
    rw [disconnect_state hd]
    exact hI
  · intro w₁ hI m _
    exact hI

theorem fire_controlStep_server (hl : l.client = none) (hf : fire codec w l = .ok w') :
    ControlStep w w' l := by
  cases l <;> cases hl
  case registerService s =>
    cases hf
    obtain ⟨services, ec, count, heq⟩ := registerAndInitService_writes s w.backEnd
    apply ControlStep.of_state <;> simp only [state, setBackEnd_backEnd, heq]
  case start =>
    obtain ⟨b, e, hs, rfl⟩ := start_ok hf
    obtain ⟨hpool, ⟨-, rfl, -⟩ | ⟨hun, -, hcont, cs₀, cs, -, -, rfl⟩⟩ := BackEnd.start_ok hs
    · exact .of_state rfl rfl
    · refine .keep rfl fun _ => .inr ?_
      simp [reopens, hun, hpool, hcont]
  case pauseRequests =>
    cases hf
    exact .keep rfl fun h => by cases h
  case resumeRequests =>
    cases hf
    exact .keep rfl fun _ => .inr rfl
  case initiateShutdown =>
    cases hf
    unfold SynchronisedBackEndState.checkAndInitiateShutdown
    split
    · rename_i hst
      exact .initiate hst rfl
    · exact .of_state rfl rfl
  case stopStage =>
    cases hf
    unfold stopStage
    split
    · rename_i hst
      exact .stop hst rfl rfl
    · exact .of_state rfl rfl
  case rpcStage =>
    cases hf
    unfold rpcStage
    split
    · rename_i hst
      split
      · rename_i hcount
        exact .drained hst rfl hcount rfl
      · exact .of_state rfl rfl
    · exact .of_state rfl rfl
  case signalStage reply =>
    obtain ⟨w₁, threw, hs, rfl⟩ := signalStage_ok hf
    have hw₁ := signalManagers_control hs
    cases threw <;> exact .of_state hw₁.1 hw₁.2
  case managerStage =>
    rcases managerStage_ok hf with ⟨-, rfl, -⟩ | ⟨-, rfl⟩ <;> exact .of_state rfl rfl
  case teardownStage =>
    obtain ⟨services, ec, calls, p, r, rfl⟩ := teardownStage_writes hf
    exact .of_state rfl rfl
  all_goals
    cases hf
    exact .of_state rfl rfl

/-- **The state of the shutdown moves on in three places**, and the flag is raised by `start` and
`resume_requests` only. -/
theorem fire_controlStep (hf : fire codec w l = .ok w') : ControlStep w w' l := by
  cases hl : l.client with
  | some c =>
    have hsame := fire_sameControl hl hf
    exact .of_state hsame.shutdownState hsame.acceptingRequests
  | none => exact fire_controlStep_server hl hf

/-- Stopped requests stay stopped. -/
theorem requestsStopped_step (hf : fire codec w l = .ok w') (h : w.requestsStopped = true) :
    w'.requestsStopped = true := by
  rw [requestsStopped] at h ⊢
  rcases fire_controlStep hf with ⟨hstate, -⟩ | ⟨hstate, -⟩ | ⟨hstate, -, -⟩ | ⟨-, hstate', -, -⟩
  · rw [hstate]
    exact h
  · rw [hstate] at h
    cases h
  · rw [hstate] at h
    cases h
  · rw [hstate']

/-- The shutdown waits for the managers. -/
def waitsForManagers (w : World) : Prop :=
  w.state.shutdownState = .shutdownWaitingOnManagerDisconections

theorem waitsForManagers_stopped (h : w.waitsForManagers) : w.requestsStopped = true := by
  rw [requestsStopped, h]

theorem waitsForManagers_step (hf : fire codec w l = .ok w') (h : w.waitsForManagers) :
    w'.waitsForManagers := by
  rw [waitsForManagers] at h ⊢
  rcases fire_controlStep hf with ⟨hstate, -⟩ | ⟨hstate, -⟩ | ⟨hstate, -, -⟩ | ⟨-, hstate', -, -⟩
  · rw [hstate]
    exact h
  · rw [hstate] at h
    cases h
  · rw [hstate] at h
    cases h
  · exact hstate'

/-! ## Where the services are torn down -/

/-- The step is past the test of the managers. -/
def tearsDown (w : World) : Bool :=
  match w.point with
  | .join | .teardown _ => true
  | _ => false

/-- How `shutdown_step` goes on: where the thread is before and after a step of the back end. -/
inductive PointStep (w w' : World) : Label → StepPoint → StepPoint → Prop
  | other {l : Label} (p : StepPoint) (hresult : w'.result = w.result) : PointStep w w' l p p
  | stop : PointStep w w' .stopStage .outside .rpcTest
  | busy (hresult : w'.result = some (.returned .shutdownWaitingOnActiveRpcEnd)) :
    PointStep w w' .rpcStage .rpcTest .outside
  | drained : PointStep w w' .rpcStage .rpcTest .signal
  | passed : PointStep w w' .rpcStage .rpcTest .managerTest
  | signalled (reply : ManagerId → ManagerReply) :
    PointStep w w' (.signalStage reply) .signal .managerTest
  | managerThrew (reply : ManagerId → ManagerReply)
      (hresult : w'.result = some .managerThrew) :
    PointStep w w' (.signalStage reply) .signal .outside
  | tested (hwaits : w.waitsForManagers) (hsame : w' = w.goto .join)
      (hmanaged : w.state.slots = [] → w.backEnd.connectedClients = ∅) :
    PointStep w w' .managerStage .managerTest .join
  | early (hresult : w'.result = some (.returned .shutdownWaitingOnManagerDisconections)) :
    PointStep w w' .managerStage .managerTest .outside
  | joined (hsame : w' = w.joinStage) : PointStep w w' .joinStage .join (.teardown 0)
  | next (i : ℕ) : PointStep w w' .teardownStage (.teardown i) (.teardown (i + 1))
  | threw (i : ℕ) (e : BackEndException) (hresult : w'.result = some (.threw e)) :
    PointStep w w' .teardownStage (.teardown i) .outside
  | complete (i : ℕ) (hsame : w' = w.leave (.returned .shutdownComplete)) :
    PointStep w w' .teardownStage (.teardown i) .outside

theorem fire_pointStep_server (hl : l.client = none) (hg : w.enabled l = true)
    (hf : fire codec w l = .ok w') : PointStep w w' l w.point w'.point := by
  cases l <;> cases hl
  case start =>
    obtain ⟨b, e, -, rfl⟩ := start_ok hf
    exact .other _ rfl
  case stopStage =>
    cases hf
    rw [show w.point = .outside from of_decide_eq_true hg]
    exact .stop
  case rpcStage =>
    cases hf
    rw [show w.point = .rpcTest from of_decide_eq_true hg]
    unfold rpcStage
    split
    · split
      · exact .drained
      · exact .busy rfl
    · exact .passed
  case signalStage reply =>
    simp only [enabled, Bool.and_eq_true, decide_eq_true_eq] at hg
    obtain ⟨w₁, threw, -, rfl⟩ := signalStage_ok hf
    rw [hg.1]
    cases threw with
    | true => exact .managerThrew reply rfl
    | false => exact .signalled reply
  case managerStage =>
    rw [show w.point = .managerTest from of_decide_eq_true hg]
    rcases managerStage_ok hf with ⟨hst, rfl, hmanaged⟩ | ⟨-, rfl⟩
    · exact .tested hst rfl hmanaged
    · exact .early rfl
  case joinStage =>
    simp only [enabled, Bool.and_eq_true, decide_eq_true_eq] at hg
    cases hf
    rw [hg.1]
    exact .joined rfl
  case teardownStage =>
    simp only [enabled] at hg
    split at hg
    · rename_i i hp
      rcases teardownStage_ok hp hf with ⟨-, b, e, -, rfl⟩ | ⟨-, rfl⟩
      · rw [hp]
        cases e with
        | none => exact .next i
        | some e => exact .threw i e rfl
      · rw [hp]
        exact .complete i rfl
    · cases hg
  all_goals
    cases hf
    exact .other _ rfl

/-- **Every step moves the thread that shuts down along.** -/
theorem fire_pointStep (hg : w.enabled l = true) (hf : fire codec w l = .ok w') :
    PointStep w w' l w.point w'.point := by
  cases hl : l.client with
  | some c =>
    have hsame := fire_sameControl hl hf
    rw [hsame.point]
    exact .other _ hsame.result
  | none => exact fire_pointStep_server hl hg hf

/-- **The teardown is entered from the test of the managers.** -/
theorem fire_tearsDown (hg : w.enabled l = true) (hf : fire codec w l = .ok w')
    (h : w'.tearsDown = true) :
    w.tearsDown = true ∨ l = .managerStage ∧ w.waitsForManagers ∧ w' = w.goto .join ∧
      (w.state.slots = [] → w.backEnd.connectedClients = ∅) := by
  have hp := fire_pointStep hg hf
  rw [tearsDown] at h ⊢
  generalize w.point = p at hp
  generalize w'.point = p' at hp h
  cases hp
  case other => exact .inl h
  case tested hwaits hsame hmanaged => exact .inr ⟨rfl, hwaits, hsame, hmanaged⟩
  case joined => exact .inl rfl
  case next => exact .inl rfl
  all_goals cases h

/-- A registration resets no service. -/
theorem register_reset {b : BackEnd} {s : Service} {o : UInt16} (hreg : RegistrySound b)
    (h : (b.registerAndInitService s).1.serviceAt o = some none) : b.serviceAt o = some none := by
  cases hs : b.isSealed with
  | true => rwa [registerAndInitService_sealed hs] at h
  | false =>
    rw [serviceAt_eq] at h
    rcases registerAndInitService_services (s := s) hs with heq | ⟨id, -, heq⟩
    · rwa [heq, ← serviceAt_eq] at h
    · rcases hreg.wf.setEntry_cases hreg.linked ⟨id, some s⟩ with heq' | ⟨hinit, -, heq'⟩
      · rwa [heq, heq', OidContainer.at?_grow, ← serviceAt_eq] at h
      · rw [heq, heq', OidContainer.at?_placed hinit] at h
        split at h
        · cases h
        · rwa [← serviceAt_eq] at h

theorem fire_services_server (hl : l.client = none) (hf : fire codec w l = .ok w') :
    w'.backEnd.services = w.backEnd.services ∨ (∃ s, l = .registerService s) ∨
      l = .teardownStage := by
  rcases fire_sameRecords hl hf with hsame | ⟨s, rfl⟩ | rfl | ⟨reply, rfl⟩ | rfl | rfl
  · exact .inl hsame.services
  · exact .inr (.inl ⟨s, rfl⟩)
  · obtain ⟨b, e, hs, rfl⟩ := start_ok hf
    obtain ⟨-, ⟨-, rfl, -⟩ | ⟨-, -, -, cs₀, cs, -, -, rfl⟩⟩ := BackEnd.start_ok hs <;>
      exact .inl rfl
  · obtain ⟨w₁, threw, hs, rfl⟩ := signalStage_ok hf
    have hw₁ : w₁.backEnd.services = w.backEnd.services :=
      signalManagers_rule (I := fun w' => w'.backEnd.services = w.backEnd.services)
        (fun _ _ hI _ _ _ _ hd => (disconnect_sameControl hd).services.trans hI)
        (fun _ hI _ _ => hI) hs rfl
    cases threw <;> exact .inl hw₁
  · cases hf
    exact .inl rfl
  · exact .inr (.inr rfl)

/-- **A service is reset by the teardown loop only.** -/
theorem fire_reset {o : UInt16} (hreg : RegistrySound w.backEnd) (hg : w.enabled l = true)
    (hf : fire codec w l = .ok w') (h : w'.backEnd.serviceAt o = some none) :
    w.backEnd.serviceAt o = some none ∨ w.tearsDown = true := by
  have hsame : w'.backEnd.services = w.backEnd.services →
      w.backEnd.serviceAt o = some none := by
    intro hs
    rwa [serviceAt, hs] at h
  cases hl : l.client with
  | some c => exact .inl (hsame (fire_sameControl hl hf).services)
  | none =>
    rcases fire_services_server hl hf with hs | ⟨s, rfl⟩ | rfl
    · exact .inl (hsame hs)
    · cases hf
      exact .inl (register_reset hreg h)
    · simp only [enabled] at hg
      split at hg
      · rename_i i hp
        refine .inr ?_
        rw [tearsDown, hp]
      · cases hg

/-- **The invariant of every run**: services are torn down while the shutdown waits for the
managers. -/
structure Staged (w : World) : Prop where
  point : w.tearsDown = true → w.waitsForManagers
  reset : ∀ o, w.backEnd.serviceAt o = some none → w.waitsForManagers

theorem Staged.step (h : Staged w) (hreg : RegistrySound w.backEnd) (hg : w.enabled l = true)
    (hf : fire codec w l = .ok w') : Staged w' := by
  have hkeep : w.waitsForManagers → w'.waitsForManagers := waitsForManagers_step hf
  constructor
  · intro htear
    rcases fire_tearsDown hg hf htear with htear | ⟨-, hwaits, -⟩
    · exact hkeep (h.point htear)
    · exact hkeep hwaits
  · intro o ho
    rcases fire_reset hreg hg hf ho with ho | htear
    · exact hkeep (h.reset o ho)
    · exact hkeep (h.point htear)

theorem init_staged (sourceType : SourceConnectionType) (backendType : DestinationConnectionType) :
    Staged (init sourceType backendType) := by
  refine ⟨fun h => ?_, fun o ho => ?_⟩
  · cases h
  · have hreg := registered_new sourceType backendType
    rw [init, serviceAt_eq, hreg.entry, Option.map_eq_some_iff] at ho
    obtain ⟨s, -, hs⟩ := ho
    cases hs

/-! ## The runs that let no request in again -/

/-- **The invariant of the runs in which no operation lets requests in once they are stopped.** -/
structure Closed (w : World) : Prop where
  refuses : w.requestsStopped = true → w.state.acceptingRequests = false
  idle : w.waitsForManagers → ∀ c, w.stage c = .idle

theorem Accounted.idle_of_count (h : Accounted w) (hcount : w.state.activeRpcCount = 0)
    (c : ClientPtr) : w.stage c = .idle := by
  obtain ⟨busy, hbusy, hcard⟩ := h.count
  have hempty : busy = ∅ := Finset.card_eq_zero.mp (by omega)
  by_contra hc
  have hmem := (hbusy c).mpr hc
  rw [hempty] at hmem
  exact Finset.notMem_empty c hmem

theorem Accounted.count_of_idle (h : Accounted w) (hidle : ∀ c, w.stage c = .idle) :
    w.state.activeRpcCount = 0 := by
  obtain ⟨busy, hbusy, hcard⟩ := h.count
  have hempty : busy = ∅ :=
    Finset.eq_empty_of_forall_notMem fun c hc => (hbusy c).mp hc (hidle c)
  rw [hcard, hempty]
  rfl

/-- No request starts while none is accepted. -/
theorem idle_step (hclosed : w.state.acceptingRequests = false) (hg : w.enabled l = true)
    (hf : fire codec w l = .ok w') (h : w.stage c = .idle) : w'.stage c = .idle := by
  have hst := fire_stageStep c hg hf
  rw [h] at hst
  generalize w'.stage c = s at hst
  cases hst
  case accept resets r hacc => exact absurd (hclosed.symm.trans hacc) Bool.false_ne_true
  all_goals rfl

theorem Closed.step (h : Closed w) (hacc : Accounted w)
    (hno : w.requestsStopped = true → w.reopens l = false) (hg : w.enabled l = true)
    (hf : fire codec w l = .ok w') : Closed w' := by
  rcases hstep : fire_controlStep hf with ⟨hstate, hopen⟩ | ⟨-, hstate'⟩ | ⟨-, hstate', hclosed⟩ |
    ⟨hstate, hstate', hcount, hkept⟩
  · have hstopped : w'.requestsStopped = w.requestsStopped := by
      rw [requestsStopped, hstate, requestsStopped]
    constructor
    · intro hs
      rw [hstopped] at hs
      by_contra hopen'
      rcases hopen ((Bool.not_eq_false _).mp hopen') with ha | hr
      · exact Bool.false_ne_true ((h.refuses hs).symm.trans ha)
      · exact Bool.false_ne_true ((hno hs).symm.trans hr)
    · intro hw c
      have hw : w.waitsForManagers := hstate.symm.trans hw
      exact idle_step (h.refuses (waitsForManagers_stopped hw)) hg hf (h.idle hw c)
  · refine ⟨fun hs => ?_, fun hw => ?_⟩
    · rw [requestsStopped, hstate'] at hs
      cases hs
    · rw [waitsForManagers, hstate'] at hw
      cases hw
  · refine ⟨fun _ => hclosed, fun hw => ?_⟩
    rw [waitsForManagers, hstate'] at hw
    cases hw
  · -- the count is zero: nothing is under way, and nothing starts
    have hrefuses : w.state.acceptingRequests = false := by
      apply h.refuses
      rw [requestsStopped, hstate]
    exact ⟨fun _ => hkept.trans hrefuses,
      fun _ c => idle_step hrefuses hg hf (hacc.idle_of_count hcount c)⟩

/-- The step dereferences the pointer to a service that teardown has reset. -/
def dereferencesReset (w : World) : Label → Prop
  | .check c => w.backEnd.serviceAt (w.data c).request.serviceOrdinal.toUInt16 = some none
  | .run c _ => w.backEnd.serviceAt (w.invokers c).service = some none
  | _ => False

/-- An invoker whose service may be dereferenced is under way, so that nothing is reset. -/
theorem Staged.not_dereferencesReset (h : Staged w) (hclosed : Closed w)
    (hg : w.enabled l = true) : ¬w.dereferencesReset l := by
  intro hreset
  cases l
  case check c =>
    have hidle := hclosed.idle (h.reset _ hreset) c
    rw [show w.stage c = .accepted from of_decide_eq_true hg] at hidle
    cases hidle
  case run c reply =>
    have hidle := hclosed.idle (h.reset _ hreset) c
    rw [show w.stage c = .running from of_decide_eq_true hg] at hidle
    cases hidle
  all_goals cases hreset

/-- Letting requests in does so. -/
theorem reopens_accepts (hreg : RegistrySound w.backEnd) (h : w.reopens l = true) :
    ∃ w', fire codec w l = .ok w' ∧ w'.state.acceptingRequests = true := by
  cases l
  case resumeRequests => exact ⟨_, rfl, rfl⟩
  case start =>
    simp only [reopens, Bool.and_eq_true, Bool.not_eq_true', decide_eq_true_eq] at h
    obtain ⟨⟨hun, hpool⟩, hcont⟩ := h
    obtain ⟨b, hb⟩ := hreg.start_total hun hpool hcont
    refine ⟨w.setBackEnd b, by rw [fire, hb]; rfl, ?_⟩
    obtain ⟨-, ⟨-, -, he⟩ | ⟨-, -, -, cs₀, cs, -, -, rfl⟩⟩ := BackEnd.start_ok hb
    · exact absurd rfl he
    · rfl
  all_goals cases h

/-- Shutdown is final in a run: once the first step has stopped the requests, `start_a_request`
returns false; and `invoke` dereferences no pointer that teardown has reset. -/
structure ShutdownFinal (tr : List (World × Label)) (r : Except Fault World) : Prop where
  refuses : Machine.Always
    (fun w => w.requestsStopped = true → w.state.startARequest.1 = false) tr r
  pointers : ∀ p ∈ tr, ¬p.1.dereferencesReset p.2

theorem startARequest_eq_false (s : SynchronisedBackEndState) :
    s.startARequest.1 = false ↔ s.acceptingRequests = false := by
  unfold SynchronisedBackEndState.startARequest
  cases s.acceptingRequests <;> simp

/-- What every state satisfies as long as no request is let in again. -/
theorem run_closed {sourceType : SourceConnectionType} {backendType : DestinationConnectionType}
    {tr : List (World × Label)} {r : Except Fault World}
    (h : (backEndMachine codec).Run (init sourceType backendType) tr r)
    (hno : ∀ p ∈ tr, p.1.requestsStopped = true → p.1.reopens p.2 = false) :
    Machine.Always (fun w => Sound w ∧ Staged w ∧ Closed w) tr r := by
  refine h.invariant (C := fun w l => w.requestsStopped = true → w.reopens l = false) ?_
    ⟨init_sound _ _, init_staged _ _, fun hs => ?_, fun _ _ => rfl⟩ hno
  · rintro w l w' ⟨hsound, hstaged, hclosed⟩ hno hg hf
    exact ⟨hsound.step hg hf, hstaged.step hsound.registry hg hf,
      hclosed.step hsound.accounted hno hg hf⟩
  · obtain ⟨services, ec, count, heq⟩ := registerAndInitService_writes basicProtocolService
      { sourceType := sourceType, backendType := backendType }
    rw [requestsStopped, state, init, BackEnd.new, heq] at hs
    cases hs

/-- `start` and `resume_requests` are not called once the shutdown has begun. -/
def StaysShut (tr : List (World × Label)) : Prop :=
  ∀ p ∈ tr, p.1.state.shutdownState ≠ .active → p.2 ≠ .start ∧ p.2 ≠ .resumeRequests

theorem StaysShut.reopens {tr : List (World × Label)} (h : StaysShut tr) :
    ∀ p ∈ tr, p.1.requestsStopped = true → p.1.reopens p.2 = false := by
  rintro ⟨w, l⟩ hp hs
  have hne : w.state.shutdownState ≠ .active := by
    intro hst
    rw [requestsStopped, hst] at hs
    cases hs
  obtain ⟨hstart, hresume⟩ := h _ hp hne
  cases l
  case start => exact absurd rfl hstart
  case resumeRequests => exact absurd rfl hresume
  all_goals rfl

/-- Whether a run lets requests in after its shutdown has begun can be computed. -/
def staysShut (tr : List (World × Label)) : Bool :=
  tr.all fun p => decide (p.1.state.shutdownState = .active) || match p.2 with
    | .start | .resumeRequests => false
    | _ => true

theorem staysShut_iff {tr : List (World × Label)} : staysShut tr = true ↔ StaysShut tr := by
  rw [staysShut, List.all_eq_true]
  constructor
  · rintro h p hp hne
    have hp' := h p hp
    rw [decide_eq_false hne, Bool.false_or] at hp'
    constructor <;>
    · intro hl
      rw [hl] at hp'
      cases hp'
  · rintro h ⟨w, l⟩ hp
    by_cases hst : w.state.shutdownState = .active
    · simp [hst]
    · obtain ⟨hstart, hresume⟩ := h _ hp hst
      cases l <;> simp_all

/-- **Shutdown is final, exactly**: in every run, if and only if neither `resume_requests` nor a
first `start` comes after the requests were stopped. -/
theorem shutdown_final_iff (codec : BasicProtocolCodec) (sourceType : SourceConnectionType)
    (backendType : DestinationConnectionType) {tr : List (World × Label)}
    {r : Except Fault World}
    (h : (backEndMachine codec).Run (init sourceType backendType) tr r) :
    ShutdownFinal tr r ↔ ∀ p ∈ tr, p.1.requestsStopped = true → p.1.reopens p.2 = false := by
  constructor
  · intro hfinal p hp hs
    by_contra hr
    have hsound : Sound p.1 := sound_reaches (h.reaches hp)
    obtain ⟨w', hf, hacc⟩ := reopens_accepts hsound.registry ((Bool.not_eq_false _).mp hr)
    have hstopped := requestsStopped_step hf hs
    have hrefuses := h.always_next hfinal.refuses hp hf hstopped
    exact Bool.false_ne_true (((startARequest_eq_false _).mp hrefuses).symm.trans hacc)
  · intro hno
    have hclosed := run_closed h hno
    refine ⟨⟨?_, ?_⟩, ?_⟩
    · intro p hp hs
      exact (startARequest_eq_false _).mpr ((hclosed.1 p hp).2.2.refuses hs)
    · intro w hw hs
      exact (startARequest_eq_false _).mpr ((hclosed.2 w hw).2.2.refuses hs)
    · intro p hp
      obtain ⟨-, hstaged, hclosed⟩ := hclosed.1 p hp
      exact hstaged.not_dereferencesReset hclosed (h.guard p hp)

/-- The labels of a shutdown that waits for nothing, of a back end with `n` services. -/
def shutDown (n : ℕ) : List Label :=
  [.initiateShutdown, .stopStage, .rpcStage, .signalStage fun _ => {}, .managerStage, .joinStage] ++
    List.replicate (n + 1) .teardownStage

/-- A back end is started and shut down. -/
theorem shutdown_final_iff_sample : ∃ tr w, w.requestsStopped = true ∧
    w.result = some (.returned .shutdownComplete) ∧
    (ShutdownFinal tr (.ok w) ↔
      ∀ p ∈ tr, p.1.requestsStopped = true → p.1.reopens p.2 = false) := by
  obtain ⟨w, heq, hrun⟩ := (backEndMachine basicProtocolCodec).exec_run_ok
    (init .sourceRelay .targetMarshall) ([.poolSize 1, .start] ++ shutDown 1)
    (by decide +kernel) (by decide +kernel)
  have hend : (((backEndMachine basicProtocolCodec).exec (init .sourceRelay .targetMarshall)
      ([.poolSize 1, .start] ++ shutDown 1)).2.toOption.map
        fun w => (w.requestsStopped, w.result)) =
          some (true, some (.returned .shutdownComplete)) := by
    decide +kernel
  rw [heq] at hend
  have hend' := Prod.ext_iff.mp (Option.some.inj hend)
  exact ⟨_, w, hend'.1, hend'.2, shutdown_final_iff _ _ _ hrun⟩

/-- **`resume_requests` after a shutdown lets requests in.** -/
theorem shutdown_not_final : ¬ ∀ (codec : BasicProtocolCodec) (sourceType : SourceConnectionType)
    (backendType : DestinationConnectionType) (tr : List (World × Label))
    (r : Except Fault World), codec.Lawful →
    (backEndMachine codec).Run (init sourceType backendType) tr r → ShutdownFinal tr r := by
  intro h
  obtain ⟨w, heq, hrun⟩ := (backEndMachine basicProtocolCodec).exec_run_ok
    (init .sourceRelay .targetMarshall)
    ([.poolSize 1, .start] ++ shutDown 1 ++ [.resumeRequests])
    (by decide +kernel) (by decide +kernel)
  have hend : (((backEndMachine basicProtocolCodec).exec (init .sourceRelay .targetMarshall)
      ([.poolSize 1, .start] ++ shutDown 1 ++ [.resumeRequests])).2.toOption.map
        fun w => (w.requestsStopped, w.state.startARequest.1)) = some (true, true) := by
    decide +kernel
  rw [heq] at hend
  have hend' := Prod.ext_iff.mp (Option.some.inj hend)
  have hrefuses := (h _ _ _ _ _ basicProtocolCodec_lawful hrun).refuses.2 w rfl hend'.1
  exact Bool.false_ne_true (hrefuses.symm.trans hend'.2)

end World

end RblRpc
