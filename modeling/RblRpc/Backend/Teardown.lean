import RblRpc.Backend.Shutdown

/-!
# After a teardown

The count of the active requests, which the shutdown polls, covers a request from `start_a_request`
to `end_rpc`.

* `HistoryStep` — what a step adds to the calls on the services.
* `Retired` — the invariant: once a teardown has begun the shutdown waits for the managers, and the
  pool does not run.
* `no_dispatch_after_teardown` — **what is left to do after a teardown, in every run.**
-/

namespace RblRpc

open Transition BackEnd

namespace World

variable {codec : BasicProtocolCodec} {w w' : World} {c : ClientPtr} {l : Label}

/-- Teardown of some service has been called. -/
def tornDown (w : World) : Prop := ∃ i, .teardown i ∈ w.backEnd.calls

/-- The pool runs: `disconnect` unsubscribes. -/
def running (w : World) : Bool := w.backEnd.isSealed && !w.backEnd.ioService.stopped

/-- What a step adds to the history of the calls on the services. -/
inductive HistoryStep (w w' : World) : Prop
  | silent (hcalls : w'.backEnd.calls = w.backEnd.calls)
  | serves (hserves : Serves w.backEnd w'.backEnd)
      (hrun : (∃ c, w.stage c ≠ .idle) ∨ w.running = true)
  | teardown (i : ℕ) (hpoint : w.point = .teardown i)
      (hcalls : w'.backEnd.calls = w.backEnd.calls ++ [.teardown i])

/-- What a step outside of the teardown loop adds. -/
inductive ServiceStep (w w' : World) : Prop
  | silent (hcalls : w'.backEnd.calls = w.backEnd.calls)
  | serves (hserves : Serves w.backEnd w'.backEnd)
      (hrun : (∃ c, w.stage c ≠ .idle) ∨ w.running = true)

theorem ServiceStep.history (h : ServiceStep w w') : HistoryStep w w' := by
  rcases h with hcalls | ⟨hserves, hrun⟩
  · exact .silent hcalls
  · exact .serves hserves hrun

theorem ServiceStep.onlyServes (h : ServiceStep w w') : Serves w.backEnd w'.backEnd := by
  rcases h with hcalls | ⟨hserves, -⟩
  · exact .of_eq hcalls
  · exact hserves

theorem disconnect_history {reply : ℕ → ServiceReply} (hd : w.disconnect c reply = .ok w') :
    w'.running = w.running ∧ Serves w.backEnd w'.backEnd ∧
      (w.running = false → w'.backEnd.calls = w.backEnd.calls) := by
  obtain ⟨b, cd, hb, rfl⟩ := disconnect_ok hd
  obtain ⟨-, -, -, heq, -, hsilent, hserves⟩ := BackEnd.disconnect_ok hb
  refine ⟨?_, hserves, fun hrun => hsilent ?_⟩
  · obtain ⟨cs, calls, rfl⟩ := heq
    rfl
  · rw [running] at hrun
    rw [hrun]
    exact Bool.false_ne_true

/-- Clients that are disconnected after the pool has stopped are not unsubscribed. -/
theorem ServiceStep.of_disconnect (hserves : Serves w.backEnd w'.backEnd)
    (hsilent : w.running = false → w'.backEnd.calls = w.backEnd.calls) : ServiceStep w w' := by
  cases hrun : w.running with
  | true => exact .serves hserves (.inr hrun)
  | false => exact .silent (hsilent hrun)

theorem signalManagers_history {reply : ManagerId → ManagerReply} {ms : List ManagerId}
    {threw : Bool} (h : signalManagers reply ms w = .ok (w', threw)) :
    w'.running = w.running ∧ Serves w.backEnd w'.backEnd ∧
      (w.running = false → w'.backEnd.calls = w.backEnd.calls) := by
  refine signalManagers_rule (I := fun w' => w'.running = w.running ∧
    Serves w.backEnd w'.backEnd ∧ (w.running = false → w'.backEnd.calls = w.backEnd.calls)) ?_ ?_ h
    ⟨rfl, .of_eq rfl, fun _ => rfl⟩
  · rintro w₁ w₂ ⟨hsame, hserves, hsilent⟩ m - p - hd
    obtain ⟨hsame', hserves', hsilent'⟩ := disconnect_history hd
    exact ⟨hsame'.trans hsame, hserves.trans hserves',
      fun hrun => (hsilent' (hsame.trans hrun)).trans (hsilent hrun)⟩
  · rintro w₁ hI m -
    exact hI

theorem fire_serviceStep_client (hl : l.client = some c) (hg : w.enabled l = true)
    (hf : fire codec w l = .ok w') : ServiceStep w w' := by
  cases l <;> cases hl
  case connect fresh =>
    cases hf
    cases fresh <;> exact .silent rfl
  case disconnect reply =>
    obtain ⟨-, hserves, hsilent⟩ := disconnect_history hf
    exact .of_disconnect hserves hsilent
  case request resets r =>
    obtain ⟨b, i, rfl, -, -, ⟨-, -, rfl, -⟩ | ⟨-, rfl, -⟩⟩ := request_ok hf <;> exact .silent rfl
  case check =>
    obtain ⟨b, i, hc, rfl⟩ := stepInvoker_ok.mp hf
    obtain ⟨cs, -, -, ⟨-, rfl, -⟩ | ⟨-, rfl, -⟩⟩ := checkRequest_ok hc <;> exact .silent rfl
  case take =>
    cases hf
    exact .silent rfl
  case run reply =>
    obtain ⟨b, i, hr, rfl⟩ := stepInvoker_ok.mp hf
    obtain ⟨s, cd, -, -, hd, -⟩ := runPosted_ok hr
    have hst : w.stage c = .running := of_decide_eq_true hg
    refine .serves hd.history (.inl ⟨c, ?_⟩)
    rw [hst]
    decide
  case finish =>
    obtain ⟨-, rfl⟩ := finish_ok hf
    exact .silent rfl

theorem fire_serviceStep_server (hl : l.client = none) (hno : l ≠ .teardownStage)
    (hf : fire codec w l = .ok w') : ServiceStep w w' := by
  rcases fire_sameRecords hl hf with hsame | ⟨s, rfl⟩ | rfl | ⟨reply, rfl⟩ | rfl | rfl
  · exact .silent hsame.calls
  · cases hf
    obtain ⟨services, ec, count, heq⟩ := registerAndInitService_writes s w.backEnd
    refine .silent ?_
    simp only [setBackEnd_backEnd, heq]
  · obtain ⟨b, e, hs, rfl⟩ := start_ok hf
    obtain ⟨-, ⟨-, rfl, -⟩ | ⟨-, -, -, cs₀, cs, -, -, rfl⟩⟩ := BackEnd.start_ok hs <;>
      exact .silent rfl
  · obtain ⟨w₁, threw, hs, rfl⟩ := signalStage_ok hf
    obtain ⟨-, hserves, hsilent⟩ := signalManagers_history hs
    cases threw <;> exact .of_disconnect hserves hsilent
  · cases hf
    exact .silent rfl
  · exact absurd rfl hno

/-- **A step outside of the teardown loop** tears no service down. -/
theorem fire_serviceStep (hno : l ≠ .teardownStage) (hg : w.enabled l = true)
    (hf : fire codec w l = .ok w') : ServiceStep w w' := by
  cases hl : l.client with
  | some c => exact fire_serviceStep_client hl hg hf
  | none => exact fire_serviceStep_server hl hno hf

/-- **A step calls no service**, or serves a client, or is a step of the teardown loop. -/
theorem fire_historyStep (hg : w.enabled l = true) (hf : fire codec w l = .ok w') :
    HistoryStep w w' := by
  by_cases hl : l = .teardownStage
  · subst hl
    simp only [enabled] at hg
    split at hg
    · rename_i i hp
      rcases teardownStage_ok hp hf with ⟨-, b, e, ht, rfl⟩ | ⟨-, rfl⟩
      · obtain ⟨⟨ec, rfl⟩, -⟩ | ⟨services, ec, -, rfl⟩ := teardownService_ok ht
        · cases e <;> exact .silent rfl
        · cases e <;> exact .teardown i hp rfl
      · exact .silent rfl
    · cases hg
  · exact (fire_serviceStep hl hg hf).history

theorem running_step_server (hl : l.client = none) (hno : w.reopens l = false)
    (hf : fire codec w l = .ok w') (h : w.running = false) : w'.running = false := by
  have hkept : w'.backEnd.isSealed = w.backEnd.isSealed →
      w'.backEnd.ioService.stopped = w.backEnd.ioService.stopped → w'.running = false := by
    intro hs hi
    rw [running, hs, hi]
    exact h
  rcases fire_sameRecords hl hf with hsame | ⟨s, rfl⟩ | rfl | ⟨reply, rfl⟩ | rfl | rfl
  · exact hkept hsame.isSealed hsame.stopped
  · cases hf
    obtain ⟨services, ec, count, heq⟩ := registerAndInitService_writes s w.backEnd
    apply hkept <;> simp only [setBackEnd_backEnd, heq]
  · obtain ⟨b, e, hs, rfl⟩ := start_ok hf
    obtain ⟨hpool, ⟨-, rfl, -⟩ | ⟨hun, -, hcont, -⟩⟩ := BackEnd.start_ok hs
    · exact h
    · simp [reopens, hun, hpool, hcont] at hno
  · obtain ⟨w₁, threw, hs, rfl⟩ := signalStage_ok hf
    have hw₁ := (signalManagers_history hs).1.trans h
    cases threw <;> exact hw₁
  · cases hf
    show (w.backEnd.isSealed && !(w.backEnd.ioService.stopped || w.backEnd.isSealed)) = false
    cases w.backEnd.isSealed <;> simp
  · obtain ⟨services, ec, calls, p, r, rfl⟩ := teardownStage_writes hf
    exact h

/-- Unless it is started, a pool that does not run stays so. -/
theorem running_step (hno : w.reopens l = false) (hf : fire codec w l = .ok w') (h : w.running = false) :
    w'.running = false := by
  cases hl : l.client with
  | some c =>
    have hsame := fire_sameControl hl hf
    rw [running, hsame.isSealed, hsame.stopped]
    exact h
  | none => exact running_step_server hl hno hf h

/-- The teardown has begun: in an earlier call of the step, or in this one. -/
def retired (w : World) : Prop := w.tornDown ∨ ∃ i, w.point = .teardown i

/-- **The invariant of the teardown.** -/
structure Retired (w : World) : Prop where
  waits : w.retired → w.waitsForManagers
  stopped : w.retired → w.running = false
  calls : w.backEnd.calls.Pairwise fun first later =>
    first.isTeardown = true → later.isTeardown = true

/-- The teardown begins after the join. -/
theorem retired_step (hg : w.enabled l = true) (hf : fire codec w l = .ok w') (h : w'.retired) :
    w.retired ∨ w.tearsDown = true ∧ w'.running = false := by
  rcases h with ⟨i, hi⟩ | ⟨i, hi⟩
  · left
    rcases fire_historyStep hg hf with hcalls | ⟨⟨calls, hcalls, hnot⟩, -⟩ | ⟨j, hpoint, -⟩
    · exact .inl ⟨i, hcalls ▸ hi⟩
    · rw [hcalls] at hi
      rcases List.mem_append.mp hi with hi | hi
      · exact .inl ⟨i, hi⟩
      · cases hnot _ hi
    · exact .inr ⟨j, hpoint⟩
  · have hp := fire_pointStep hg hf
    rw [hi] at hp
    rw [retired, tearsDown]
    generalize w.point = p at hp
    cases hp
    case other => exact .inl (.inr ⟨i, rfl⟩)
    case next i => exact .inl (.inr ⟨i, rfl⟩)
    case joined hsame =>
      refine .inr ⟨rfl, ?_⟩
      rw [hsame]
      show (w.backEnd.isSealed && !(w.backEnd.ioService.stopped || w.backEnd.isSealed)) = false
      cases w.backEnd.isSealed <;> simp

theorem Retired.step (h : Retired w) (hstaged : Staged w) (hclosed : Closed w)
    (hno : w.requestsStopped = true → w.reopens l = false) (hg : w.enabled l = true)
    (hf : fire codec w l = .ok w') : Retired w' := by
  have hwaits : w'.retired → w'.waitsForManagers := by
    intro hr
    apply waitsForManagers_step hf
    rcases retired_step hg hf hr with hr | ⟨htear, -⟩
    · exact h.waits hr
    · exact hstaged.point htear
  refine ⟨hwaits, fun hr => ?_, ?_⟩
  · rcases retired_step hg hf hr with hr | ⟨-, hrun⟩
    · exact running_step (hno (waitsForManagers_stopped (h.waits hr))) hf (h.stopped hr)
    · exact hrun
  · rcases fire_historyStep hg hf with hcalls | ⟨⟨calls, hcalls, hnot⟩, hrun⟩ | ⟨i, -, hcalls⟩
    · rw [hcalls]
      exact h.calls
    · -- somebody is served, so that nothing has been torn down
      have hnone : ∀ call ∈ w.backEnd.calls, call.isTeardown = false := by
        intro call hc
        by_contra htear
        have hr : w.retired := by
          cases call
          case teardown i => exact .inl ⟨i, hc⟩
          all_goals exact absurd rfl htear
        rcases hrun with ⟨c, hc⟩ | hrun
        · exact hc (hclosed.idle (h.waits hr) c)
        · exact Bool.false_ne_true ((h.stopped hr).symm.trans hrun)
      rw [hcalls]
      apply List.pairwise_of_forall_mem_list
      intro first hfirst later _ htear
      rcases List.mem_append.mp hfirst with hm | hm
      · rw [hnone first hm] at htear
        cases htear
      · rw [hnot first hm] at htear
        cases htear
    · rw [hcalls, List.pairwise_append]
      refine ⟨h.calls, List.pairwise_singleton _ _, fun first _ later hlater _ => ?_⟩
      rw [List.mem_singleton.mp hlater]
      rfl

theorem run_retired {sourceType : SourceConnectionType} {backendType : DestinationConnectionType}
    {tr : List (World × Label)} {r : Except Fault World}
    (h : (backEndMachine codec).Run (init sourceType backendType) tr r)
    (hno : ∀ p ∈ tr, p.1.requestsStopped = true → p.1.reopens p.2 = false) :
    Machine.Always Retired tr r := by
  have hclosed := run_closed h hno
  refine h.invariant (C := fun w l => Staged w ∧ Closed w ∧
    (w.requestsStopped = true → w.reopens l = false)) ?_ ⟨?_, ?_, ?_⟩ ?_
  · intro w l w' hretired hC hg hf
    exact hretired.step hC.1 hC.2.1 hC.2.2 hg hf
  · rintro (⟨i, hi⟩ | ⟨i, hi⟩)
    · cases hi
    · cases hi
  · rintro (⟨i, hi⟩ | ⟨i, hi⟩)
    · cases hi
    · cases hi
  · exact List.Pairwise.nil
  · intro p hp
    obtain ⟨-, hstaged, hclosed⟩ := hclosed.1 p hp
    exact ⟨hstaged, hclosed, hno p hp⟩

/-- What holds of a state whether or not a service has been torn down: afterwards no request is
under way and `disconnect` calls no service, and the calls that follow a teardown are teardowns. -/
structure AfterTeardown (w : World) : Prop where
  count : w.tornDown → w.state.activeRpcCount = 0
  idle : w.tornDown → ∀ c, w.stage c = .idle
  queue : w.tornDown → w.backEnd.ioService.queue = []
  cleanUp : w.tornDown → ∀ c reply cd, w.backEnd.cleanUp c reply cd = .ok (w.backEnd, cd)
  calls : w.backEnd.calls.Pairwise fun first later =>
    first.isTeardown = true → later.isTeardown = true

theorem Retired.afterTeardown (h : Retired w) (hacc : Accounted w) (hclosed : Closed w) :
    AfterTeardown w := by
  have hidle : w.tornDown → ∀ c, w.stage c = .idle := fun ht => hclosed.idle (h.waits (.inl ht))
  refine ⟨fun ht => hacc.count_of_idle (hidle ht), hidle, fun ht => ?_, fun ht c reply cd => ?_,
    h.calls⟩
  · apply List.eq_nil_iff_forall_not_mem.mpr
    intro c hc
    have hzero := hacc.queue_eq_zero (c := c) (by rw [hidle ht]; decide)
    exact List.count_eq_zero.mp hzero hc
  · have hrun := h.stopped (.inl ht)
    rw [running] at hrun
    rw [BackEnd.cleanUp, hrun]
    rfl

/-- **No dispatch after teardown.**  In every state of every run in which `start` and
`resume_requests` are not called once the shutdown has begun, a teardown of some service leaves no
request active, waiting or running, and is followed by no call on a service but teardowns. -/
theorem no_dispatch_after_teardown (codec : BasicProtocolCodec)
    (sourceType : SourceConnectionType) (backendType : DestinationConnectionType)
    {tr : List (World × Label)} {r : Except Fault World}
    (h : (backEndMachine codec).Run (init sourceType backendType) tr r) (hshut : StaysShut tr) :
    Machine.Always AfterTeardown tr r := by
  have hclosed := run_closed h hshut.reopens
  have hretired := run_retired h hshut.reopens
  constructor
  · intro p hp
    obtain ⟨hsound, -, hclosed⟩ := hclosed.1 p hp
    exact (hretired.1 p hp).afterTeardown hsound.accounted hclosed
  · intro w hw
    obtain ⟨hsound, -, hclosed⟩ := hclosed.2 w hw
    exact (hretired.2 w hw).afterTeardown hsound.accounted hclosed

/-- A request is served, and the back end is shut down. -/
theorem no_dispatch_after_teardown_sample : ∃ (tr : List (World × Label)) (w : World),
    w.backEnd.calls = [.dispatch 0 7, .teardown 0] ∧
      Machine.Always AfterTeardown tr (.ok w : Except Fault World) := by
  obtain ⟨w, heq, hrun⟩ := (backEndMachine basicProtocolCodec).exec_run_ok
    (init .sourceRelay .targetMarshall)
    (startUp 7 ++ serve 7 {} {} ++ [.disconnect 7 fun _ => {}] ++ shutDown 1)
    (by decide +kernel) (by decide +kernel)
  have hend : (((backEndMachine basicProtocolCodec).exec (init .sourceRelay .targetMarshall)
      (startUp 7 ++ serve 7 {} {} ++ [.disconnect 7 fun _ => {}] ++ shutDown 1)).2.toOption.map
        fun w => w.backEnd.calls) = some [.dispatch 0 7, .teardown 0] := by
    decide +kernel
  rw [heq] at hend
  exact ⟨_, w, Option.some.inj hend,
    no_dispatch_after_teardown _ _ _ hrun (staysShut_iff.mp (by decide +kernel))⟩

end World

end RblRpc
