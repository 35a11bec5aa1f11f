import RblRpc.Backend.Shutdown

/-!
# Completing a shutdown

`shutdown_step` asserts that no client is left without a manager; its test of the managers does not
end the step when some are still connected.

* `CompletesQuiet` — what the step promises of a run.
* `Undisturbed` — the steps that keep the promise.
* `completes_quiet_iff` — **the step completes on a quiet back end exactly in the runs whose tests
  find no manager, and in which nobody connects behind the test.**
-/

namespace RblRpc

open Transition BackEnd

namespace World

variable {codec : BasicProtocolCodec} {w w' : World} {c : ClientPtr} {l : Label}

/-- No request is active, no manager registered and no client connected. -/
structure AtRest (w : World) : Prop where
  rpcCount : w.state.activeRpcCount = 0
  managerCount : w.state.managerCount = 0
  clients : w.backEnd.connectedClients = ∅

/-- What `shutdown_step` promises in a run: it reaches the join and the teardown, and returns
`BACKEND_SHUTDOWN_COMPLETE`, on a quiet back end; a test that finds a manager ends the step. -/
structure CompletesQuiet (codec : BasicProtocolCodec) (tr : List (World × Label))
    (r : Except Fault World) : Prop where
  tearsDown : Machine.Always (fun w => w.tearsDown = true → w.AtRest) tr r
  completes : ∀ p ∈ tr, ∀ w', fire codec p.1 p.2 = .ok w' → p.1.point ≠ .outside →
    w'.point = .outside → w'.result = some (.returned .shutdownComplete) → w'.AtRest
  waits : ∀ p ∈ tr, p.2 = .managerStage → p.1.waitsForManagers → p.1.state.managerCount ≠ 0 →
    fire codec p.1 p.2 =
      .ok (p.1.leave (.returned .shutdownWaitingOnManagerDisconections))

/-- The test of the managers finds none, and nobody connects between the test and the end of the
step. -/
structure Undisturbed (p : World × Label) : Prop where
  tested : p.2 = .managerStage → p.1.waitsForManagers → p.1.state.managerCount = 0
  managers : p.1.tearsDown = true → ∀ m, p.2 ≠ .registerManager m
  clients : p.1.tearsDown = true → ∀ c fresh, p.2 ≠ .connect c fresh

/-- No manager and no client is there past the test. -/
def Drained (w : World) : Prop :=
  w.tearsDown = true → w.state.slots = [] ∧ w.backEnd.connectedClients = ∅

theorem fire_slots_server (hl : l.client = none) (hsig : l.signals = false)
    (hne : ∀ m, l ≠ .registerManager m) (hf : fire codec w l = .ok w')
    (h : w.state.slots = []) : w'.state.slots = [] := by
  cases l <;> cases hl
  case registerService s =>
    cases hf
    obtain ⟨services, ec, count, heq⟩ := registerAndInitService_writes s w.backEnd
    simp only [state, setBackEnd_backEnd, heq]
    exact h
  case start =>
    obtain ⟨b, e, hs, rfl⟩ := start_ok hf
    obtain ⟨-, ⟨-, rfl, -⟩ | ⟨-, -, -, cs₀, cs, -, -, rfl⟩⟩ := BackEnd.start_ok hs <;> exact h
  case registerManager m => exact absurd rfl (hne m)
  case disconnectManager m =>
    cases hf
    show w.state.slots.erase m = []
    rw [h]
    rfl
  case initiateShutdown =>
    cases hf
    unfold SynchronisedBackEndState.checkAndInitiateShutdown
    split <;> exact h
  case stopStage =>
    cases hf
    unfold stopStage
    split <;> exact h
  case rpcStage =>
    cases hf
    unfold rpcStage
    split
    · split <;> exact h
    · exact h
  case signalStage reply => cases hsig
  case managerStage =>
    rcases managerStage_ok hf with ⟨-, rfl, -⟩ | ⟨-, rfl⟩ <;> exact h
  case teardownStage =>
    obtain ⟨services, ec, calls, p, r, rfl⟩ := teardownStage_writes hf
    exact h
  all_goals
    cases hf
    exact h

/-- A client that is served is connected, unless it connects. -/
theorem Accounted.connected_of_enabled (h : Accounted w) (hl : l.client = some c)
    (hne : ∀ c fresh, l ≠ .connect c fresh) (hg : w.enabled l = true) :
    c ∈ w.backEnd.connectedClients := by
  cases l <;> cases hl
  case connect fresh => exact absurd rfl (hne c fresh)
  case disconnect reply =>
    simp only [enabled, Bool.and_eq_true, decide_eq_true_eq] at hg
    exact hg.1
  case request resets r =>
    simp only [enabled, Bool.and_eq_true, decide_eq_true_eq] at hg
    exact hg.1
  case check =>
    apply h.connected c
    rw [show w.stage c = .accepted from of_decide_eq_true hg]
    decide
  case take =>
    simp only [enabled, Bool.and_eq_true, decide_eq_true_eq] at hg
    apply h.connected c
    rw [hg.2]
    decide
  case run reply =>
    apply h.connected c
    rw [show w.stage c = .running from of_decide_eq_true hg]
    decide
  case finish =>
    simp only [enabled, Bool.or_eq_true, decide_eq_true_eq] at hg
    apply h.connected c
    rcases hg with hg | hg <;> rw [hg] <;> decide

/-- **A step that is not disturbed keeps managers and clients out.** -/
theorem Drained.step (h : Drained w) (hacc : Accounted w) (hquiet : Undisturbed (w, l))
    (hg : w.enabled l = true) (hf : fire codec w l = .ok w') : Drained w' := by
  intro htear'
  rcases fire_tearsDown hg hf htear' with htear | ⟨rfl, hwaits, rfl, hmanaged⟩
  · obtain ⟨hslots, hclients⟩ := h htear
    cases hl : l.client with
    | some c =>
      have hmem := hacc.connected_of_enabled hl (hquiet.clients htear) hg
      rw [hclients] at hmem
      exact absurd hmem (Finset.notMem_empty c)
    | none =>
      have hsig : l.signals = false := by
        by_contra hsig
        obtain ⟨reply, rfl⟩ := Label.signals_eq_true ((Bool.not_eq_false _).mp hsig)
        simp only [enabled, Bool.and_eq_true, decide_eq_true_eq] at hg
        rw [tearsDown, hg.1] at htear
        cases htear
      exact ⟨fire_slots_server hl hsig (hquiet.managers htear) hf hslots,
        (fire_sameClients hl hsig hf).connectedClients.trans hclients⟩
  · have hslots : w.state.slots = [] := List.length_eq_zero_iff.mp (hquiet.tested rfl hwaits)
    exact ⟨hslots, hmanaged hslots⟩

/-- The step that returns `BACKEND_SHUTDOWN_COMPLETE` ends the teardown loop. -/
theorem complete_tearsDown (hg : w.enabled l = true) (hf : fire codec w l = .ok w')
    (hin : w.point ≠ .outside) (hout : w'.point = .outside)
    (hresult : w'.result = some (.returned .shutdownComplete)) :
    w.tearsDown = true ∧ w' = w.leave (.returned .shutdownComplete) := by
  have hp := fire_pointStep hg hf
  rw [hout] at hp
  rw [tearsDown]
  generalize w.point = p at hp hin
  cases hp
  case other => exact absurd rfl hin
  case complete i hsame => exact ⟨rfl, hsame⟩
  all_goals
    rename_i hr
    rw [hr] at hresult
    cases hresult

/-- Nobody is there past the test, in the runs that nothing disturbs. -/
theorem run_drained {sourceType : SourceConnectionType} {backendType : DestinationConnectionType}
    {tr : List (World × Label)} {r : Except Fault World}
    (h : (backEndMachine codec).Run (init sourceType backendType) tr r)
    (hquiet : ∀ p ∈ tr, Undisturbed p) : Machine.Always Drained tr r := by
  refine h.invariant (C := fun w l => Accounted w ∧ Undisturbed (w, l)) ?_ ?_ ?_
  · intro w l w' hdrained hC hg hf
    exact hdrained.step hC.1 hC.2 hg hf
  · intro htear
    cases htear
  · intro p hp
    exact ⟨accounted_reaches (h.reaches hp), hquiet p hp⟩

/-- Past the test everything is at rest. -/
theorem Drained.atRest (h : Drained w) (hsound : Sound w) (hstaged : Staged w) (hclosed : Closed w)
    (htear : w.tearsDown = true) : w.AtRest := by
  obtain ⟨hslots, hclients⟩ := h htear
  have hidle := hclosed.idle (hstaged.point htear)
  exact ⟨hsound.accounted.count_of_idle hidle, List.length_eq_zero_iff.mpr hslots, hclients⟩

/-- A manager that is still connected does not end the step. -/
theorem managerStage_falls_through (hwaits : w.waitsForManagers)
    (hcount : w.state.managerCount ≠ 0) : w.managerStage = .ok (w.goto .join) := by
  rw [waitsForManagers] at hwaits
  unfold managerStage
  rw [if_pos hwaits]
  dsimp only
  rw [if_neg hcount]
  rfl

/-- **The step completes on a quiet back end, exactly**: in every run in which requests are not let
in again, if and only if each of its tests finds no manager and nobody connects behind it. -/
theorem completes_quiet_iff (codec : BasicProtocolCodec) (sourceType : SourceConnectionType)
    (backendType : DestinationConnectionType) {tr : List (World × Label)}
    {r : Except Fault World}
    (h : (backEndMachine codec).Run (init sourceType backendType) tr r) (hshut : StaysShut tr) :
    CompletesQuiet codec tr r ↔ ∀ p ∈ tr, Undisturbed p := by
  constructor
  · rintro ⟨htears, -, hwaits⟩ ⟨w, l⟩ hp
    refine ⟨?_, ?_, ?_⟩
    · rintro hl hw
      by_contra hcount
      have hleaves := hwaits _ hp hl hw hcount
      have hgoes := managerStage_falls_through hw hcount
      rw [show l = .managerStage from hl] at hleaves
      have heq := Except.ok.inj (hgoes.symm.trans hleaves)
      cases congrArg World.point heq
    · rintro htear m rfl
      have hrest := h.always_next htears hp (t := w.setState (w.state.registerInvokerManager m))
        rfl htear
      have hlen : (w.state.slots ++ [m]).length = 0 := hrest.managerCount
      rw [List.length_append, List.length_singleton] at hlen
      omega
    · rintro htear c fresh rfl
      have hpoint : (w.connect c fresh).tearsDown = true := by
        rw [← htear]
        cases fresh <;> rfl
      have hrest := h.always_next htears hp (t := w.connect c fresh) rfl hpoint
      have hmem : c ∈ (w.connect c fresh).backEnd.connectedClients := by
        cases fresh <;> exact Finset.mem_insert_self _ _
      rw [hrest.clients] at hmem
      exact Finset.notMem_empty c hmem
  · intro hquiet
    have hclosed := run_closed h hshut.reopens
    have hdrained := run_drained h hquiet
    have hrest : ∀ p ∈ tr, p.1.tearsDown = true → p.1.AtRest := by
      intro p hp htear
      obtain ⟨hsound, hstaged, hclosed⟩ := hclosed.1 p hp
      exact (hdrained.1 p hp).atRest hsound hstaged hclosed htear
    refine ⟨⟨hrest, ?_⟩, ?_, ?_⟩
    · intro w hw htear
      obtain ⟨hsound, hstaged, hclosed⟩ := hclosed.2 w hw
      exact (hdrained.2 w hw).atRest hsound hstaged hclosed htear
    · intro p hp w' hf hin hout hresult
      obtain ⟨htear, rfl⟩ := complete_tearsDown (h.guard p hp) hf hin hout hresult
      obtain ⟨hcount, hmanagers, hclients⟩ := hrest p hp htear
      exact ⟨hcount, hmanagers, hclients⟩
    · intro p hp hl hw hcount
      exact absurd ((hquiet p hp).tested hl hw) hcount

/-- A client and its manager disconnect, and the shutdown completes. -/
def quietShutdown : List Label :=
  startUp 7 ++ [.registerManager 1] ++
    [.initiateShutdown, .stopStage, .rpcStage,
      .signalStage fun _ => { disconnects := [(7, fun _ => {})] }, .managerStage, .joinStage,
      .teardownStage, .teardownStage]

theorem completes_quiet_iff_sample : ∃ tr w, w.result = some (.returned .shutdownComplete) ∧
    (CompletesQuiet basicProtocolCodec tr (.ok w) ↔ ∀ p ∈ tr, Undisturbed p) := by
  obtain ⟨w, heq, hrun⟩ := (backEndMachine basicProtocolCodec).exec_run_ok
    (init .sourceRelay .targetMarshall) quietShutdown (by decide +kernel) (by decide +kernel)
  have hend : (((backEndMachine basicProtocolCodec).exec (init .sourceRelay .targetMarshall)
      quietShutdown).2.toOption.map fun w => w.result) =
        some (some (.returned .shutdownComplete)) := by
    decide +kernel
  rw [heq] at hend
  exact ⟨_, w, Option.some.inj hend,
    completes_quiet_iff _ _ _ hrun (staysShut_iff.mp (by decide +kernel))⟩

/-- **A manager that registers while the step runs does not keep it from the join.** -/
theorem completes_disturbed : ¬ ∀ (codec : BasicProtocolCodec) (sourceType : SourceConnectionType)
    (backendType : DestinationConnectionType) (tr : List (World × Label))
    (r : Except Fault World), codec.Lawful →
    (backEndMachine codec).Run (init sourceType backendType) tr r → StaysShut tr →
      CompletesQuiet codec tr r := by
  intro h
  obtain ⟨w, heq, hrun⟩ := (backEndMachine basicProtocolCodec).exec_run_ok
    (init .sourceRelay .targetMarshall)
    [.poolSize 1, .start, .initiateShutdown, .stopStage, .rpcStage, .signalStage fun _ => {},
      .registerManager 1, .managerStage]
    (by decide +kernel) (by decide +kernel)
  have hend : (((backEndMachine basicProtocolCodec).exec (init .sourceRelay .targetMarshall)
      [.poolSize 1, .start, .initiateShutdown, .stopStage, .rpcStage, .signalStage fun _ => {},
        .registerManager 1, .managerStage]).2.toOption.map
          fun w => (w.tearsDown, w.state.managerCount)) = some (true, 1) := by
    decide +kernel
  rw [heq] at hend
  have hend' := Prod.ext_iff.mp (Option.some.inj hend)
  have hquiet := h _ _ _ _ _ basicProtocolCodec_lawful hrun
    (staysShut_iff.mp (by decide +kernel))
  have hcount := (hquiet.tearsDown.2 w rfl hend'.1).managerCount
  exact absurd (hcount.symm.trans hend'.2) (by decide)

end World

end RblRpc
