import RblRpc.Backend.Steps

/-!
# The invoker of a client is its own

A step that does not concern a client neither reads nor writes its invoker: whatever the invoker
holds, the step does the same.

* `fire_setInvoker` — **the frame rule**, with `stepInvoker_setInvoker` for the steps of other
  clients.
-/

namespace RblRpc

namespace World

variable {codec : BasicProtocolCodec} {w : World} {c c' : ClientPtr}

theorem setInvoker_comm (h : c' ≠ c) (w : World) (i i' : Invoker) :
    (w.setInvoker c i).setInvoker c' i' = (w.setInvoker c' i').setInvoker c i := by
  unfold setInvoker
  dsimp only
  rw [Function.update_comm h]

theorem stepInvoker_setInvoker {f : BackEnd → Invoker → Except Fault (BackEnd × Invoker)}
    (h : c' ≠ c) (w : World) (i : Invoker) :
    stepInvoker c' f (w.setInvoker c i) = (stepInvoker c' f w).map (setInvoker c i) := by
  unfold stepInvoker
  rw [setInvoker_ne h, setInvoker_backEnd]
  cases f w.backEnd (w.invokers c') with
  | error x => rfl
  | ok p => exact congrArg Except.ok (setInvoker_comm h (w.setBackEnd p.1) i p.2)

theorem disconnect_setInvoker {reply : ℕ → ServiceReply} (h : c' ≠ c) (w : World) (i : Invoker) :
    (w.setInvoker c i).disconnect c' reply = (w.disconnect c' reply).map (setInvoker c i) := by
  unfold disconnect
  exact stepInvoker_setInvoker h w i

theorem connect_setInvoker (h : c' ≠ c) (fresh : Bool) (w : World) (i : Invoker) :
    (w.setInvoker c i).connect c' fresh = (w.connect c' fresh).setInvoker c i := by
  cases fresh with
  | false => rfl
  | true =>
    unfold connect
    dsimp only [if_true]
    rw [setInvoker_comm h]
    rfl

/-! ## The signal to the managers -/

theorem disconnectClients_setInvoker {cs : List (ClientPtr × (ℕ → ServiceReply))}
    (hne : ∀ p ∈ cs, p.1 ≠ c) (w : World) (i : Invoker) :
    disconnectClients cs (w.setInvoker c i) = (disconnectClients cs w).map (setInvoker c i) := by
  induction cs generalizing w with
  | nil => rfl
  | cons p cs ih =>
    unfold disconnectClients
    rw [disconnect_setInvoker (hne p List.mem_cons_self)]
    cases disconnect p.1 p.2 w with
    | error x => rfl
    | ok v => exact ih (fun q hq => hne q (List.mem_cons_of_mem _ hq)) v

theorem signalManager_setInvoker {m : ManagerId} {reply : ManagerReply}
    (hne : ∀ p ∈ reply.disconnects, p.1 ≠ c) (w : World) (i : Invoker) :
    signalManager m reply (w.setInvoker c i) =
      (signalManager m reply w).map (setInvoker c i) := by
  unfold signalManager
  rw [disconnectClients_setInvoker hne]
  cases disconnectClients reply.disconnects w with
  | error x => rfl
  | ok v =>
    show Except.ok _ = Except.ok _
    cases reply.detaches <;> rfl

theorem signalManagers_setInvoker {reply : ManagerId → ManagerReply} {ms : List ManagerId}
    (hne : ∀ m ∈ ms, ∀ p ∈ (reply m).disconnects, p.1 ≠ c) (w : World) (i : Invoker) :
    signalManagers reply ms (w.setInvoker c i) =
      (signalManagers reply ms w).map fun p => (p.1.setInvoker c i, p.2) := by
  induction ms generalizing w with
  | nil => rfl
  | cons m ms ih =>
    unfold signalManagers
    rw [signalManager_setInvoker (hne m List.mem_cons_self)]
    cases signalManager m (reply m) w with
    | error x => rfl
    | ok v =>
      have hrest := ih (fun m' hm' => hne m' (List.mem_cons_of_mem _ hm')) v
      show (if (reply m).throws then _ else signalManagers reply ms (v.setInvoker c i)) =
        Except.map _ (if (reply m).throws then _ else signalManagers reply ms v)
      split
      · rfl
      · exact hrest

theorem signalStage_setInvoker {reply : ManagerId → ManagerReply}
    (hne : ∀ m ∈ w.state.slots, ∀ p ∈ (reply m).disconnects, p.1 ≠ c) (i : Invoker) :
    (w.setInvoker c i).signalStage reply = (w.signalStage reply).map (setInvoker c i) := by
  unfold signalStage
  rw [show (w.setInvoker c i).state = w.state from rfl, signalManagers_setInvoker hne]
  cases signalManagers reply w.state.slots w with
  | error x => rfl
  | ok p =>
    show Except.ok _ = Except.ok _
    obtain ⟨v, threw⟩ := p
    cases threw <;> rfl

/-! ## The other steps -/

theorem stopStage_setInvoker (w : World) (i : Invoker) :
    (w.setInvoker c i).stopStage = w.stopStage.setInvoker c i := by
  unfold stopStage
  rw [show (w.setInvoker c i).state = w.state from rfl]
  split <;> rfl

theorem rpcStage_setInvoker (w : World) (i : Invoker) :
    (w.setInvoker c i).rpcStage = w.rpcStage.setInvoker c i := by
  unfold rpcStage
  rw [show (w.setInvoker c i).state = w.state from rfl]
  split
  · split <;> rfl
  · rfl

theorem managerStage_setInvoker (w : World) (i : Invoker) :
    (w.setInvoker c i).managerStage = w.managerStage.map (setInvoker c i) := by
  unfold managerStage
  rw [show (w.setInvoker c i).state = w.state from rfl, setInvoker_backEnd]
  split
  · split
    · cases boostAssert (w.backEnd.connectedClients.card = 0) .clientsManaged <;> rfl
    · rfl
  · rfl

theorem teardownStage_setInvoker (w : World) (i : Invoker) :
    (w.setInvoker c i).teardownStage = w.teardownStage.map (setInvoker c i) := by
  unfold teardownStage
  rw [show (w.setInvoker c i).point = w.point from rfl, setInvoker_backEnd]
  cases w.point with
  | teardown n =>
    dsimp only
    split
    · cases w.backEnd.teardownService n with
      | error x => rfl
      | ok p =>
        obtain ⟨b, e⟩ := p
        cases e <;> rfl
    · rfl
  | _ => rfl

/-- **The frame rule.**  A step that does not concern `c` does the same whatever the invoker of `c`
holds, and leaves it. -/
theorem fire_setInvoker {l : Label} (hl : l.client ≠ some c)
    (hsig : ∀ reply, l = .signalStage reply →
      ∀ m ∈ w.state.slots, ∀ p ∈ (reply m).disconnects, p.1 ≠ c) (i : Invoker) :
    fire codec (w.setInvoker c i) l = (fire codec w l).map (setInvoker c i) := by
  have hne : ∀ c', l.client = some c' → c' ≠ c :=
    fun c' h heq => hl (h.trans (congrArg some heq))
  cases l with
  | connect c' fresh => exact congrArg Except.ok (connect_setInvoker (hne c' rfl) fresh w i)
  | disconnect c' reply => exact disconnect_setInvoker (hne c' rfl) w i
  | request c' resets r =>
    simp only [fire, request]
    exact stepInvoker_setInvoker (hne c' rfl) w i
  | check c' => exact stepInvoker_setInvoker (hne c' rfl) w i
  | take c' =>
    simp only [fire, take]
    exact stepInvoker_setInvoker (hne c' rfl) w i
  | run c' reply => exact stepInvoker_setInvoker (hne c' rfl) w i
  | finish c' =>
    simp only [fire, finish]
    exact stepInvoker_setInvoker (hne c' rfl) w i
  | start =>
    simp only [fire, setInvoker_backEnd]
    cases w.backEnd.start <;> rfl
  | stopStage => exact congrArg Except.ok (stopStage_setInvoker w i)
  | rpcStage => exact congrArg Except.ok (rpcStage_setInvoker w i)
  | signalStage reply => exact signalStage_setInvoker (hsig reply rfl) i
  | managerStage => exact managerStage_setInvoker w i
  | teardownStage => exact teardownStage_setInvoker w i
  | _ => rfl

end World

end RblRpc
