import RblRpc.Backend.Teardown

/-!
# Every service is torn down once

The first call of `shutdown()` takes the state of the shutdown out of `BACKEND_ACTIVE` for good, so
that its loop is the only one there is.  What throws in `shutdown_step` ends it.

* `ownerMachine` — a back end, the calls of `shutdown()` on it and the destructor; `run_world`.
* `Dense` — the ordinals in use are the first ones.
* `OwnerSound` — the invariant: the loop has torn down the services it has passed.
* `torn_down_at_most_once`, `torn_down_once_iff` — **no service is torn down twice; all are torn
  down exactly if no manager throws and none but the last service reports an error.**
-/

namespace RblRpc

open Transition BackEnd OidContainer

/-- A back end and the calls of `shutdown()` on it: whether there was one, whether one is in its
loop, and whether the destructor has made its own. -/
structure OwnedBackEnd where
  world : World
  called : Bool := false
  inLoop : Bool := false
  destroyed : Bool := false

/-- What the owner of a back end does, and what else happens to it. -/
inductive OwnerLabel where
  | shutdown
  | destroy
  | backEnd (l : Label)

/-- The loop of `shutdown()` goes on: the step is under way, or it has returned a state other than
complete. -/
def World.shutdownLoops (w : World) : Bool :=
  match w.point, w.result with
  | .outside, some (.returned s) => s ≠ .shutdownComplete
  | .outside, some _ => false
  | _, _ => true

namespace OwnedBackEnd

/-- `shutdown()`, up to its loop. -/
def shutdown (o : OwnedBackEnd) : OwnedBackEnd :=
  let (initiated, s) := o.world.state.checkAndInitiateShutdown
  { o with world := o.world.setState s, called := true, inLoop := o.inLoop || initiated }

/-- Services are registered before the first call of `shutdown()`; the loop of `shutdown()` calls
`shutdown_step`. -/
def mayFire (o : OwnedBackEnd) : Label → Bool
  | .stopStage | .rpcStage | .signalStage _ | .managerStage | .joinStage | .teardownStage => o.inLoop
  | .initiateShutdown => false
  | .registerService _ => !o.called
  | _ => true

def enabled (o : OwnedBackEnd) : OwnerLabel → Bool
  | .shutdown => !o.destroyed
  | .destroy => !o.destroyed && !o.inLoop
  | .backEnd l => o.mayFire l && o.world.enabled l

def fire (codec : BasicProtocolCodec) (o : OwnedBackEnd) : OwnerLabel → Except Fault OwnedBackEnd
  | .shutdown => .ok o.shutdown
  | .destroy => .ok { o.shutdown with destroyed := true }
  | .backEnd l => do
    let w ← World.fire codec o.world l
    return { o with world := w, inLoop := o.inLoop && w.shutdownLoops }

/-- A new back end. -/
def init (sourceType : SourceConnectionType) (backendType : DestinationConnectionType) :
    OwnedBackEnd where
  world := .init sourceType backendType

end OwnedBackEnd

/-- Every order of calls of `shutdown()`, of the parts of its loop and of the other operations on a
back end, up to its destruction. -/
def ownerMachine (codec : BasicProtocolCodec) : Machine OwnedBackEnd OwnerLabel Fault where
  guard := OwnedBackEnd.enabled
  fire := OwnedBackEnd.fire codec

/-- The operation on the back end that a step is. -/
def OwnerLabel.label : OwnerLabel → Label
  | .shutdown | .destroy => .initiateShutdown
  | .backEnd l => l

/-- **A step of the owner is a step of the back end.** -/
theorem OwnedBackEnd.fire_world (codec : BasicProtocolCodec) (o : OwnedBackEnd) (l : OwnerLabel) :
    (o.fire codec l).map OwnedBackEnd.world = o.world.fire codec l.label := by
  cases l with
  | shutdown => rfl
  | destroy => rfl
  | backEnd l =>
    dsimp only [OwnedBackEnd.fire, OwnerLabel.label]
    cases o.world.fire codec l <;> rfl

/-- **The runs of the owner are runs of the back end.** -/
theorem OwnedBackEnd.run_world {codec : BasicProtocolCodec} {o : OwnedBackEnd}
    {tr : List (OwnedBackEnd × OwnerLabel)} {r : Except Fault OwnedBackEnd}
    (h : (ownerMachine codec).Run o tr r) : (backEndMachine codec).Run o.world
      (tr.map fun p => (p.1.world, p.2.label)) (r.map OwnedBackEnd.world) := by
  have hguard : ∀ (o : OwnedBackEnd) l, o.enabled l = true → o.world.enabled l.label = true := by
    intro o l hg
    cases l with
    | backEnd l => exact (Bool.and_eq_true_iff.mp hg).2
    | _ => rfl
  induction h with
  | done => exact .done _
  | @fault o l f hg hf =>
    refine .fault (hguard o l hg) ?_
    rw [show (backEndMachine codec).fire o.world l.label = _ from (fire_world codec o l).symm,
      show o.fire codec l = .error f from hf]
    rfl
  | @step o o' l tr r hg hf _ ih =>
    refine .step (hguard o l hg) ?_ ih
    rw [show (backEndMachine codec).fire o.world l.label = _ from (fire_world codec o l).symm,
      show o.fire codec l = .ok o' from hf]
    rfl

/-! ## The ordinals in use -/

namespace BackEnd

/-- The ordinals in use are the first ones, and the next registration takes the one behind them or
collides. -/
structure Dense (b : BackEnd) : Prop where
  present : ∀ i, (b.services.at? i).isSome = true ↔ i < b.services.occupiedSize
  next : b.serviceCount.toNat ≤ b.services.occupiedSize

variable {b b' : BackEnd} {s : Service} {i : ℕ}

theorem Dense.of_eq (h : Dense b) (hservices : b'.services = b.services)
    (hcount : b'.serviceCount = b.serviceCount) : Dense b' := by
  refine ⟨?_, ?_⟩
  · rw [hservices]
    exact h.present
  · rw [hservices, hcount]
    exact h.next

theorem Registered.dense {acc : List Service} (h : Registered acc b) : Dense b := by
  refine ⟨fun i => ?_, ?_⟩
  · have hentry := congrArg Option.isSome (h.entry i)
    rw [Option.isSome_map, Option.isSome_map] at hentry
    rw [hentry, h.occupiedSize]
    simp
  · rw [h.serviceCount, h.occupiedSize]

theorem ordinal_of_make {str : Bytes} {o : UInt16} {id : Oid}
    (h : Oid.make str o.toUInt32 = .ok id) : id.ordinal = o := by
  obtain ⟨name, -, h⟩ := bind_eq_ok.mp h
  split at h <;> cases h
  exact UInt16.toUInt16_toUInt32 o

/-- A registration takes the next ordinal, or leaves the ordinals in use. -/
theorem registerAndInitService_ordinals (hreg : RegistrySound b) :
    (∃ n, (b.registerAndInitService s).1.services = b.services.grow n) ∧
        (b.registerAndInitService s).1.serviceCount = b.serviceCount ∨
      ∃ e : OidContainerEntry (Option Service), e.ordinal = b.serviceCount ∧
        e.isInitialized = true ∧ Fresh b.services e ∧
        (b.registerAndInitService s).1.services = b.services.placed e ∧
        ((b.registerAndInitService s).1.serviceCount = b.serviceCount ∨
          (b.registerAndInitService s).1.serviceCount = b.serviceCount + 1) := by
  have hsame : ∃ n, b.services = b.services.grow n := ⟨0, by simp [grow]⟩
  unfold registerAndInitService
  split
  · exact .inl ⟨hsame, rfl⟩
  · split
    · exact .inl ⟨hsame, rfl⟩
    · rename_i id hid
      have hord := ordinal_of_make hid
      cases hinit : OidContainerEntry.isInitialized ⟨id, some s⟩ with
      | false =>
        rw [hreg.wf.setEntry_uninitialized hreg.linked hinit]
        exact .inl ⟨⟨_, rfl⟩, rfl⟩
      | true =>
        rw [hreg.wf.setEntry_eq hinit]
        by_cases hf : b.services.at? (OidContainerEntry.ordinal ⟨id, some s⟩).toNat = none ∧
            b.services.slotOf (OidContainerEntry.name ⟨id, some s⟩) = none
        · refine .inr ⟨⟨id, some s⟩, hord, hinit, ⟨hf.1, hf.2⟩, ?_⟩
          rw [if_pos hf, hf.1, hf.2]
          dsimp only [Option.isSome_none, response]
          split
          · exact ⟨rfl, .inl rfl⟩
          · exact ⟨rfl, .inr rfl⟩
        · have hr : response
              (b.services.at? (OidContainerEntry.ordinal ⟨id, some s⟩).toNat).isSome
              (b.services.slotOf (OidContainerEntry.name ⟨id, some s⟩)).isSome ≠ .opNoError := by
            revert hf
            cases b.services.at? (OidContainerEntry.ordinal ⟨id, some s⟩).toNat <;>
              cases b.services.slotOf (OidContainerEntry.name ⟨id, some s⟩) <;> simp [response]
          rw [if_neg hf]
          generalize response _ _ = r at hr
          cases r with
          | opNoError => exact absurd rfl hr
          | _ => exact .inl ⟨⟨_, rfl⟩, rfl⟩

/-- **A registration keeps the ordinals dense.** -/
theorem Dense.register (h : Dense b) (hreg : RegistrySound b) :
    Dense (b.registerAndInitService s).1 := by
  rcases registerAndInitService_ordinals (s := s) hreg with
    ⟨⟨n, hservices⟩, hcount⟩ | ⟨e, hord, hinit, hf, hservices, hcount⟩
  · refine ⟨fun i => ?_, ?_⟩
    · rw [hservices, at?_grow]
      exact h.present i
    · rw [hservices, hcount]
      exact h.next
  · have hfree : ¬ b.serviceCount.toNat < b.services.occupiedSize := by
      rw [← h.present, ← hord, hf.ordinal]
      exact Bool.false_ne_true
    have hnext := h.next
    have hocc := occupiedSize_placed hreg.wf hinit hf
    refine ⟨fun i => ?_, ?_⟩
    · rw [hservices, hocc, at?_placed hinit, hord]
      split
      · rename_i hi
        simp only [Option.isSome_some, true_iff]
        omega
      · rw [h.present]
        omega
    · rw [hservices, hocc]
      rcases hcount with hcount | hcount <;> rw [hcount]
      · omega
      · rw [UInt16.toNat_add]
        exact (Nat.mod_le _ _).trans (Nat.succ_le_succ hnext)

/-- A service is reset, which leaves its ordinal in use. -/
theorem Dense.reset (h : Dense b) (hservices : b'.services = b.services.setAt i none)
    (hcount : b'.serviceCount = b.serviceCount) : Dense b' := by
  refine ⟨fun j => ?_, ?_⟩
  · have hid := congrArg Option.isSome (id_setAt b.services i none j)
    rw [Option.isSome_map, Option.isSome_map] at hid
    rw [hservices, hid]
    exact h.present j
  · rw [hservices, hcount]
    exact h.next

/-! ## One teardown -/

/-- The teardown of the service at `i` reports an error. -/
def teardownReports (b : BackEnd) (i : ℕ) : Bool :=
  match b.serviceAt (UInt16.ofNat i) with
  | some (some s) => (s.teardown b.ec).isError
  | _ => false

theorem Dense.serviceAt_isSome (h : Dense b) (hreg : RegistrySound b)
    (hi : i < b.services.occupiedSize) : (b.serviceAt (UInt16.ofNat i)).isSome = true := by
  have hof : (UInt16.ofNat i).toNat = i :=
    UInt16.toNat_ofNat_of_lt (hi.trans_le hreg.occupiedSize_le)
  rw [serviceAt_eq, Option.isSome_map, hof]
  exact (h.present i).mpr hi

/-- **The teardown of a registered service.** -/
theorem teardownService_called {e : Option BackEndException}
    (hat : (b.serviceAt (UInt16.ofNat i)).isSome = true) (h : b.teardownService i = .ok (b', e)) :
    b'.calls = b.calls ++ [.teardown i] ∧
      (b'.services = b.services ∨ b'.services = b.services.setAt i none) ∧
      b'.serviceCount = b.serviceCount ∧ e.isSome = b.teardownReports i := by
  unfold teardownService at h
  unfold teardownReports
  split at h
  · rename_i hnone
    rw [hnone] at hat
    cases hat
  · cases h
  · rename_i s hs
    rw [hs]
    dsimp only at h ⊢
    split at h
    · rename_i herr
      cases h
      exact ⟨rfl, .inl rfl, rfl, herr.symm⟩
    · rename_i herr
      cases h
      exact ⟨rfl, .inr rfl, rfl, (Bool.eq_false_iff.mpr herr).symm⟩

end BackEnd

namespace World

variable {codec : BasicProtocolCodec} {w w' : World} {c : ClientPtr} {l : Label}

/-! ## The other operations -/

theorem fire_serviceCount_client (hl : l.client = some c) (hf : fire codec w l = .ok w') :
    w'.backEnd.serviceCount = w.backEnd.serviceCount := by
  cases l <;> cases hl
  case connect fresh =>
    cases hf
    cases fresh <;> rfl
  case disconnect reply =>
    obtain ⟨b, cd, hd, rfl⟩ := disconnect_ok hf
    obtain ⟨-, -, -, ⟨cs, calls, rfl⟩, -, -⟩ := BackEnd.disconnect_ok hd
    rfl
  case request resets r =>
    obtain ⟨b, i, rfl, -, -, ⟨-, -, rfl, -⟩ | ⟨-, rfl, -⟩⟩ := request_ok hf <;> rfl
  case check =>
    obtain ⟨b, i, hc, rfl⟩ := stepInvoker_ok.mp hf
    obtain ⟨cs, -, -, ⟨-, rfl, -⟩ | ⟨-, rfl, -⟩⟩ := checkRequest_ok hc <;> rfl
  case take =>
    cases hf
    rfl
  case run reply =>
    obtain ⟨b, i, hr, rfl⟩ := stepInvoker_ok.mp hf
    obtain ⟨s, cd, -, -, hd, -⟩ := runPosted_ok hr
    obtain ⟨cs, calls, rfl⟩ := hd.eq
    rfl
  case finish =>
    obtain ⟨-, rfl⟩ := finish_ok hf
    rfl

theorem fire_serviceCount_server (hl : l.client = none) (hno : ∀ s, l ≠ .registerService s)
    (hf : fire codec w l = .ok w') : w'.backEnd.serviceCount = w.backEnd.serviceCount := by
  rcases fire_sameRecords hl hf with hsame | ⟨s, rfl⟩ | rfl | ⟨reply, rfl⟩ | rfl | rfl
  · exact hsame.serviceCount
  · exact absurd rfl (hno s)
  · obtain ⟨b, e, hs, rfl⟩ := start_ok hf
    obtain ⟨-, ⟨-, rfl, -⟩ | ⟨-, -, -, cs₀, cs, -, -, rfl⟩⟩ := BackEnd.start_ok hs <;> rfl
  · obtain ⟨w₁, threw, hs, rfl⟩ := signalStage_ok hf
    have hw₁ : w₁.backEnd.serviceCount = w.backEnd.serviceCount :=
      signalManagers_rule (I := fun w' => w'.backEnd.serviceCount = w.backEnd.serviceCount)
        (fun _ _ hI _ _ p _ hd =>
          (fire_serviceCount_client (l := .disconnect p.1 p.2) rfl
            (show fire codec _ (.disconnect p.1 p.2) = .ok _ from hd)).trans hI)
        (fun _ hI _ _ => hI) hs rfl
    cases threw <;> exact hw₁
  · cases hf
    rfl
  · obtain ⟨services, ec, calls, p, r, rfl⟩ := teardownStage_writes hf
    rfl

/-- Only a registration counts a service. -/
theorem fire_serviceCount (hno : ∀ s, l ≠ .registerService s) (hf : fire codec w l = .ok w') :
    w'.backEnd.serviceCount = w.backEnd.serviceCount := by
  cases hl : l.client with
  | some c => exact fire_serviceCount_client hl hf
  | none => exact fire_serviceCount_server hl hno hf

/-- A step of the back end leaves the services alone, unless it registers or tears down one. -/
theorem fire_services (hno : ∀ s, l ≠ .registerService s) (hnot : l ≠ .teardownStage)
    (hf : fire codec w l = .ok w') : w'.backEnd.services = w.backEnd.services := by
  cases hl : l.client with
  | some c => exact (fire_sameControl hl hf).services
  | none =>
    rcases fire_services_server hl hf with hs | ⟨s, rfl⟩ | rfl
    · exact hs
    · exact absurd rfl (hno s)
    · exact absurd rfl hnot

/-- **The managers are signalled up to the first that throws.** -/
theorem signalManagers_threw {reply : ManagerId → ManagerReply} {ms : List ManagerId}
    {threw : Bool} (h : signalManagers reply ms w = .ok (w', threw)) :
    threw = ms.any fun m => (reply m).throws := by
  induction ms generalizing w with
  | nil =>
    cases h
    rfl
  | cons m ms ih =>
    obtain ⟨w₁, -, h⟩ := bind_eq_ok.mp h
    rw [List.any_cons]
    split at h
    · rename_i hthrows
      cases h
      rw [hthrows, Bool.true_or]
    · rename_i hthrows
      rw [Bool.eq_false_iff.mpr hthrows, Bool.false_or]
      exact ih h

/-! ## What has been torn down -/

/-- The services below `n` have been torn down once, and no others. -/
def TornUpTo (n : ℕ) (w : World) : Prop :=
  ∀ i, w.backEnd.calls.count (.teardown i) = if i < n then 1 else 0

theorem TornUpTo.serves {n : ℕ} (h : TornUpTo n w) (hs : Serves w.backEnd w'.backEnd) :
    TornUpTo n w' := by
  obtain ⟨calls, heq, hnot⟩ := hs
  intro i
  have hzero : calls.count (.teardown i) = 0 :=
    List.count_eq_zero.mpr fun hmem => by cases hnot _ hmem
  rw [heq, List.count_append, hzero, h i, Nat.add_zero]

theorem TornUpTo.next {n : ℕ} (h : TornUpTo n w)
    (heq : w'.backEnd.calls = w.backEnd.calls ++ [.teardown n]) : TornUpTo (n + 1) w' := by
  intro i
  rw [heq, List.count_append, h i]
  by_cases hi : i = n
  · subst hi
    rw [List.count_singleton_self]
    simp
  · have hzero : [ServiceCall.teardown n].count (.teardown i) = 0 :=
      List.count_eq_zero.mpr fun hmem => hi (by simpa using hmem)
    rw [hzero]
    split <;> split <;> omega

/-- Every registered service has been torn down. -/
def AllTorn (w : World) : Prop :=
  ∀ o, (w.backEnd.serviceAt o).isSome = true → .teardown o.toNat ∈ w.backEnd.calls

theorem TornUpTo.allTorn_iff {n : ℕ} (h : TornUpTo n w) (hdense : Dense w.backEnd)
    (hreg : RegistrySound w.backEnd) : w.AllTorn ↔ w.backEnd.services.occupiedSize ≤ n := by
  have hmem : ∀ i, .teardown i ∈ w.backEnd.calls ↔ i < n := by
    intro i
    rw [← List.count_pos_iff, h i]
    split <;> omega
  constructor
  · intro hall
    by_contra hlt
    have hlt : n < w.backEnd.services.occupiedSize := Nat.not_le.mp hlt
    have hof : (UInt16.ofNat n).toNat = n :=
      UInt16.toNat_ofNat_of_lt (hlt.trans_le hreg.occupiedSize_le)
    have hcall := (hmem _).mp (hall _ (hdense.serviceAt_isSome hreg hlt))
    rw [hof] at hcall
    exact Nat.lt_irrefl n hcall
  · intro hle o ho
    rw [serviceAt_eq, Option.isSome_map, hdense.present] at ho
    exact (hmem _).mpr (ho.trans_le hle)

end World

/-! ## The loop of `shutdown()` -/

theorem World.shutdownLoops_of_result {w : World} (h : w.result = none) :
    w.shutdownLoops = true := by
  unfold World.shutdownLoops
  rw [h]
  cases w.point <;> rfl

theorem World.shutdownLoops_of_point {w : World} (h : w.point ≠ .outside) :
    w.shutdownLoops = true := by
  unfold World.shutdownLoops
  split
  · rename_i hp _
    exact absurd hp h
  · rename_i hp _
    exact absurd hp h
  · rfl

theorem World.shutdownLoops_of_waiting {w : World} {s : BackEndShutdownState}
    (h : w.result = some (.returned s)) (hs : s ≠ .shutdownComplete) : w.shutdownLoops = true := by
  unfold World.shutdownLoops
  rw [h]
  cases w.point
  case outside => exact decide_eq_true hs
  all_goals rfl

theorem World.outside_of_loops {w : World} (h : w.shutdownLoops = false) : w.point = .outside := by
  by_contra hp
  exact absurd ((World.shutdownLoops_of_point hp).symm.trans h) Bool.noConfusion

theorem World.shutdownLoops_congr {w w' : World} (hp : w'.point = w.point)
    (hr : w'.result = w.result) : w'.shutdownLoops = w.shutdownLoops := by
  unfold World.shutdownLoops
  rw [hp, hr]

/-- How many services the teardown loop has passed. -/
def StepPoint.passed : StepPoint → ℕ
  | .teardown i => i
  | _ => 0

namespace World

variable {codec : BasicProtocolCodec} {w w' : World} {l : Label}

/-- **A step outside of the teardown loop** passes no service, and lets the loop of `shutdown()` go
on unless a manager throws. -/
theorem fire_loops (hno : l ≠ .teardownStage) (hg : w.enabled l = true)
    (hf : fire codec w l = .ok w') : w'.point.passed = w.point.passed ∧
      (w.shutdownLoops = true → w'.shutdownLoops = true ∨
        ∃ reply, l = .signalStage reply ∧ w'.result = some .managerThrew ∧
          w'.point = .outside) := by
  have hp := fire_pointStep hg hf
  have hbusy : w'.point ≠ .outside → w'.shutdownLoops = true := shutdownLoops_of_point
  have hwaits : ∀ s, w'.result = some (.returned s) → s ≠ .shutdownComplete →
      w'.shutdownLoops = true := fun s => shutdownLoops_of_waiting
  have hsame : w'.point = w.point → w'.result = w.result → w'.shutdownLoops = w.shutdownLoops :=
    shutdownLoops_congr
  generalize w'.point = p' at hp hbusy hsame ⊢
  generalize w.point = p at hp hsame ⊢
  cases hp
  case other hresult => exact ⟨rfl, fun h => .inl ((hsame rfl hresult).trans h)⟩
  case busy hresult => exact ⟨rfl, fun _ => .inl (hwaits _ hresult nofun)⟩
  case early hresult => exact ⟨rfl, fun _ => .inl (hwaits _ hresult nofun)⟩
  case managerThrew reply hresult => exact ⟨rfl, fun _ => .inr ⟨reply, rfl, hresult, rfl⟩⟩
  case next => exact absurd rfl hno
  case threw => exact absurd rfl hno
  case complete => exact absurd rfl hno
  all_goals exact ⟨rfl, fun _ => .inl (hbusy nofun)⟩

theorem teardown_enabled (hg : w.enabled .teardownStage = true) :
    ∃ i, w.point = .teardown i := by
  simp only [enabled] at hg
  split at hg
  · exact ⟨_, ‹_›⟩
  · cases hg

/-- **Where the managers are signalled**, the loop of `shutdown()` goes on exactly if none
throws. -/
theorem signalStage_loops {reply : ManagerId → ManagerReply} (hf : w.signalStage reply = .ok w') :
    w'.shutdownLoops = true ↔ ∀ m ∈ w.state.slots, (reply m).throws = false := by
  obtain ⟨w₁, threw, hs, rfl⟩ := signalStage_ok hf
  have hthrew := signalManagers_threw hs
  cases threw with
  | true =>
    obtain ⟨m, hm, hthrows⟩ := List.any_eq_true.mp hthrew.symm
    refine iff_of_false Bool.false_ne_true fun hall => ?_
    rw [hall m hm] at hthrows
    cases hthrows
  | false =>
    refine iff_of_true (shutdownLoops_of_point nofun) fun m hm => ?_
    exact Bool.eq_false_iff.mpr (List.any_eq_false.mp hthrew.symm m hm)

end World

namespace OwnedBackEnd

variable {codec : BasicProtocolCodec} {o o' : OwnedBackEnd} {l : OwnerLabel}

/-- **The invariant of the calls of `shutdown()`.** -/
structure OwnerSound (o : OwnedBackEnd) : Prop where
  registry : RegistrySound o.world.backEnd
  dense : Dense o.world.backEnd
  before : o.called = false →
    o.inLoop = false ∧ o.world.state.shutdownState = .active ∧ o.world.result = none
  after : o.called = true → o.world.state.shutdownState ≠ .active
  outside : o.inLoop = false → o.world.point = .outside
  loops : o.inLoop = true → o.world.shutdownLoops = true
  torn : ∃ n, n ≤ o.world.backEnd.services.occupiedSize ∧ o.world.TornUpTo n ∧
    (o.inLoop = true ∨ o.called = false → n = o.world.point.passed)
  destroyed : o.destroyed = true → o.called = true

theorem OwnerSound.called (h : OwnerSound o) (hin : o.inLoop = true) : o.called = true := by
  cases hc : o.called with
  | true => rfl
  | false => exact absurd (hin.symm.trans (h.before hc).1) Bool.noConfusion

theorem init_ownerSound (sourceType : SourceConnectionType)
    (backendType : DestinationConnectionType) : OwnerSound (init sourceType backendType) := by
  obtain ⟨services, ec, count, heq⟩ := registerAndInitService_writes basicProtocolService
    { sourceType := sourceType, backendType := backendType }
  have hnew : (init sourceType backendType).world.backEnd = BackEnd.new sourceType backendType :=
    rfl
  have hstate : (BackEnd.new sourceType backendType).synchronisedState = {} := by
    rw [BackEnd.new, heq]
  have hcalls : (BackEnd.new sourceType backendType).calls = [] := by rw [BackEnd.new, heq]
  refine ⟨.new _ _, (registered_new _ _).dense, fun _ => ⟨rfl, ?_, rfl⟩, fun hc => ?_,
    fun _ => rfl, fun hin => ?_, ⟨0, Nat.zero_le _, fun i => ?_, fun _ => rfl⟩,
    fun hd => ?_⟩
  · rw [World.state, hnew, hstate]
  · cases hc
  · cases hin
  · rw [hnew, hcalls]
    rfl
  · cases hd

/-- A call of `shutdown()` enters the loop if it is the first. -/
theorem shutdown_cases (h : OwnerSound o) :
    o.called = true ∧ o.shutdown = o ∨
      o.called = false ∧ o.shutdown.inLoop = true ∧ o.shutdown.called = true ∧
        o.shutdown.world = o.world.setState
          (o.world.state.setShutdownState .shutdownInitiated) := by
  cases hc : o.called with
  | true =>
    have hst := h.after hc
    refine .inl ⟨rfl, ?_⟩
    unfold shutdown SynchronisedBackEndState.checkAndInitiateShutdown
    rw [if_neg hst]
    dsimp only
    rw [Bool.or_false, ← hc]
    rfl
  | false =>
    obtain ⟨-, hst, -⟩ := h.before hc
    refine .inr ⟨rfl, ?_⟩
    unfold shutdown SynchronisedBackEndState.checkAndInitiateShutdown
    rw [if_pos hst]
    exact ⟨Bool.or_true _, rfl, rfl⟩

theorem OwnerSound.shutdown (h : OwnerSound o) : OwnerSound o.shutdown := by
  rcases shutdown_cases h with ⟨-, heq⟩ | ⟨hc, hin, hcalled, hworld⟩
  · rw [heq]
    exact h
  · obtain ⟨-, -, hresult⟩ := h.before hc
    obtain ⟨n, hn, htorn, hpassed⟩ := h.torn
    refine ⟨?_, ?_, fun hno => ?_, fun _ => ?_, fun hno => ?_, fun _ => ?_,
      ⟨n, ?_, ?_, fun _ => ?_⟩, fun _ => hcalled⟩
    · rw [hworld]
      exact h.registry.of_shape rfl rfl (.refl _)
    · rw [hworld]
      exact h.dense.of_eq rfl rfl
    · exact absurd (hcalled.symm.trans hno) Bool.noConfusion
    · rw [hworld]
      exact nofun
    · exact absurd (hin.symm.trans hno) Bool.noConfusion
    · rw [hworld]
      exact World.shutdownLoops_of_result hresult
    · rw [hworld]
      exact hn
    · rw [hworld]
      exact htorn
    · rw [hworld]
      exact hpassed (.inr hc)

/-- The step is a part of `shutdown_step`, or leaves its point and result. -/
theorem point_of_outside {l : Label} (hmay : o.mayFire l = true) (hin : o.inLoop = false)
    {w' : World} (hg : o.world.enabled l = true) (hf : o.world.fire codec l = .ok w') :
    w'.point = o.world.point ∧ w'.result = o.world.result := by
  have hp := World.fire_pointStep hg hf
  generalize w'.point = p' at hp ⊢
  generalize o.world.point = p at hp ⊢
  cases hp
  case other hresult => exact ⟨rfl, hresult⟩
  all_goals exact absurd (hin.symm.trans hmay) Bool.false_ne_true

/-- **What every operation on the back end keeps** of the invariant, where the teardown is as the
loop has left it. -/
theorem OwnerSound.backEnd (h : OwnerSound o) {l : Label} (hmay : o.mayFire l = true)
    (hg : o.world.enabled l = true) {w' : World} (hf : o.world.fire codec l = .ok w')
    (hdense : Dense w'.backEnd) (htorn : ∃ n, n ≤ w'.backEnd.services.occupiedSize ∧
      w'.TornUpTo n ∧ (o.inLoop = true ∨ o.called = false → w'.shutdownLoops = true →
        n = w'.point.passed)) :
    OwnerSound { o with world := w', inLoop := o.inLoop && w'.shutdownLoops } := by
  refine ⟨World.registrySound_step h.registry hg hf, hdense, fun hc => ?_, fun hc => ?_, fun hout => ?_,
    fun hin => ?_, ?_, h.destroyed⟩
  · obtain ⟨hin, hst, hresult⟩ := h.before hc
    have hr := (point_of_outside hmay hin hg hf).2
    refine ⟨by rw [hin, Bool.false_and], ?_, hr.trans hresult⟩
    rcases World.fire_controlStep hf with ⟨hstate, -⟩ | ⟨-, -⟩ | ⟨hstate, -, -⟩ | ⟨hstate, -, -, -⟩
    · exact hstate.trans hst
    · cases hmay
    · exact absurd (hstate.symm.trans hst) nofun
    · exact absurd (hstate.symm.trans hst) nofun
  · rcases World.fire_controlStep hf with ⟨hstate, -⟩ | ⟨-, -⟩ | ⟨-, hstate', -⟩ | ⟨-, hstate', -, -⟩
    · exact hstate ▸ h.after hc
    · cases hmay
    · rw [hstate']
      exact nofun
    · rw [hstate']
      exact nofun
  · cases hin : o.inLoop with
    | true =>
      rw [hin, Bool.true_and] at hout
      exact World.outside_of_loops hout
    | false => exact (point_of_outside hmay hin hg hf).1.trans (h.outside hin)
  · exact (Bool.and_eq_true_iff.mp hin).2
  · obtain ⟨n, hn, htorn, hpassed⟩ := htorn
    refine ⟨n, hn, htorn, fun hwhen => ?_⟩
    rcases hwhen with hin | hc
    · obtain ⟨hin, hloops⟩ := Bool.and_eq_true_iff.mp hin
      exact hpassed (.inl hin) hloops
    · obtain ⟨hin, -, hresult⟩ := h.before hc
      have hr := (point_of_outside hmay hin hg hf).2
      exact hpassed (.inr hc) (World.shutdownLoops_of_result (hr.trans hresult))

/-- **A step outside of the teardown loop.** -/
theorem OwnerSound.quiet (h : OwnerSound o) {l : Label} (hno : l ≠ .teardownStage)
    (hmay : o.mayFire l = true) (hg : o.world.enabled l = true) {w' : World}
    (hf : o.world.fire codec l = .ok w') :
    OwnerSound { o with world := w', inLoop := o.inLoop && w'.shutdownLoops } := by
  have hserves := (World.fire_serviceStep hno hg hf).onlyServes
  have hpoint := (World.fire_loops hno hg hf).1
  obtain ⟨n, hn, htorn, hpassed⟩ := h.torn
  by_cases hreg : ∃ s, l = .registerService s
  · obtain ⟨s, rfl⟩ := hreg
    have hc : o.called = false := Bool.not_eq_true' _ ▸ hmay
    have hzero : n = 0 := by
      rw [hpassed (.inr hc), h.outside (h.before hc).1]
      rfl
    subst hzero
    refine h.backEnd hmay hg hf ?_ ⟨0, Nat.zero_le _, htorn.serves hserves, fun hwhen _ => ?_⟩
    · cases hf
      exact h.dense.register h.registry
    · rw [hpoint]
      exact hpassed hwhen
  · have hreg' : ∀ s, l ≠ .registerService s := fun s hs => hreg ⟨s, hs⟩
    have hservices := World.fire_services hreg' hno hf
    refine h.backEnd hmay hg hf ?_ ⟨n, ?_, htorn.serves hserves, fun hwhen _ => ?_⟩
    · exact h.dense.of_eq hservices (World.fire_serviceCount hreg' hf)
    · rw [hservices]
      exact hn
    · rw [hpoint]
      exact hpassed hwhen

/-- **A step of the teardown loop**: the next service is torn down, and the loop of `shutdown()`
goes on if it reports no error; or there is none left. -/
theorem teardownStage_cases (h : OwnerSound o) {i : ℕ} (hp : o.world.point = .teardown i)
    {w' : World} (hf : o.world.teardownStage = .ok w') :
    i < o.world.backEnd.services.occupiedSize ∧ w'.backEnd.calls =
        o.world.backEnd.calls ++ [.teardown i] ∧
        w'.backEnd.services.occupiedSize = o.world.backEnd.services.occupiedSize ∧
        Dense w'.backEnd ∧ (w'.shutdownLoops = true → w'.point = .teardown (i + 1)) ∧
        w'.shutdownLoops = !o.world.backEnd.teardownReports i ∨
      ¬ i < o.world.backEnd.services.occupiedSize ∧ w'.backEnd = o.world.backEnd ∧
        w'.shutdownLoops = false := by
  rcases World.teardownStage_ok hp hf with ⟨hi, b, e, ht, rfl⟩ | ⟨hi, rfl⟩
  · obtain ⟨hcalls, hservices, hcount, herr⟩ :=
      teardownService_called (h.dense.serviceAt_isSome h.registry hi) ht
    have hocc : b.services.occupiedSize = o.world.backEnd.services.occupiedSize := by
      rcases hservices with heq | heq
      · rw [heq]
      · rw [heq]
        rfl
    have hdense : Dense b := by
      rcases hservices with heq | heq
      · exact h.dense.of_eq heq hcount
      · exact h.dense.reset heq hcount
    refine .inl ⟨hi, ?_⟩
    rw [← herr]
    cases e with
    | some e =>
      refine ⟨hcalls, hocc, hdense, fun hloops => ?_, rfl⟩
      cases hloops
    | none => exact ⟨hcalls, hocc, hdense, fun _ => rfl, rfl⟩
  · exact .inr ⟨hi, rfl, rfl⟩

theorem OwnerSound.step (h : OwnerSound o) (hg : o.enabled l = true)
    (hf : o.fire codec l = .ok o') : OwnerSound o' := by
  cases l with
  | shutdown =>
    cases hf
    exact h.shutdown
  | destroy =>
    cases hf
    obtain ⟨hreg, hdense, hbefore, hafter, hout, hloops, htorn, -⟩ := h.shutdown
    refine ⟨hreg, hdense, hbefore, hafter, hout, hloops, htorn, fun _ => ?_⟩
    rcases shutdown_cases h with ⟨hc, heq⟩ | ⟨-, -, hcalled, -⟩
    · show o.shutdown.called = true
      rw [heq]
      exact hc
    · exact hcalled
  | backEnd l =>
    obtain ⟨hmay, hg⟩ := Bool.and_eq_true_iff.mp hg
    obtain ⟨w', hfire, hret⟩ := bind_eq_ok.mp hf
    cases hret
    by_cases hl : l = .teardownStage
    · subst hl
      have hin : o.inLoop = true := hmay
      obtain ⟨i, hp⟩ := World.teardown_enabled hg
      obtain ⟨n, hn, htorn, hpassed⟩ := h.torn
      have hni : n = i := by
        rw [hpassed (.inl hin), hp]
        rfl
      subst hni
      rcases teardownStage_cases h hp hfire with
        ⟨hi, hcalls, hocc, hdense, hnext, -⟩ | ⟨-, hsame, hloops⟩
      · refine h.backEnd hmay hg hfire hdense ⟨n + 1, ?_, htorn.next hcalls, fun _ hloops => ?_⟩
        · rw [hocc]
          exact hi
        · rw [hnext hloops]
          rfl
      · refine h.backEnd hmay hg hfire (hsame ▸ h.dense) ⟨n, ?_, ?_, fun _ hloops' => ?_⟩
        · rw [hsame]
          exact hn
        · exact htorn.serves (.of_eq (by rw [hsame]))
        · exact absurd (hloops'.symm.trans hloops) Bool.noConfusion
    · exact h.quiet hl hmay hg hfire

/-! ## Which services are torn down -/

/-- No manager throws, and no service but the last one reports an error. -/
def SparesOthers (o : OwnedBackEnd) : OwnerLabel → Prop
  | .backEnd .teardownStage => o.world.backEnd.teardownReports o.world.point.passed = true →
    o.world.backEnd.services.occupiedSize ≤ o.world.point.passed + 1
  | .backEnd (.signalStage reply) => ∀ m ∈ o.world.state.slots, (reply m).throws = false
  | _ => True

/-- Where `shutdown()` has been called and no call is under way, every service has been torn
down. -/
def Finished (o : OwnedBackEnd) : Prop :=
  o.called = true → o.inLoop = false → o.world.AllTorn

/-- **After the loop** what has been torn down stays the same. -/
theorem ended_step (h : OwnerSound o) (hc : o.called = true) (hin : o.inLoop = false)
    (hg : o.enabled l = true) (hf : o.fire codec l = .ok o') :
    o'.called = true ∧ o'.inLoop = false ∧ (o'.world.AllTorn ↔ o.world.AllTorn) := by
  have hsame : o.shutdown = o := by
    rcases shutdown_cases h with ⟨-, heq⟩ | ⟨hno, -⟩
    · exact heq
    · exact absurd (hc.symm.trans hno) Bool.noConfusion
  cases l with
  | shutdown =>
    cases hf
    rw [hsame]
    exact ⟨hc, hin, Iff.rfl⟩
  | destroy =>
    cases hf
    rw [hsame]
    exact ⟨hc, hin, Iff.rfl⟩
  | backEnd l =>
    obtain ⟨hmay, hg'⟩ := Bool.and_eq_true_iff.mp hg
    obtain ⟨w', hfire, hret⟩ := bind_eq_ok.mp hf
    have hl : l ≠ .teardownStage := by
      rintro rfl
      exact absurd (hin.symm.trans hmay) Bool.noConfusion
    have hreg : ∀ s, l ≠ .registerService s := by
      rintro s rfl
      rw [mayFire, hc] at hmay
      cases hmay
    have hnext := h.step hg hf
    cases hret
    refine ⟨hc, by rw [hin, Bool.false_and], ?_⟩
    obtain ⟨n, -, htorn, -⟩ := h.torn
    have htorn' := htorn.serves (World.fire_serviceStep hl hg' hfire).onlyServes
    rw [htorn.allTorn_iff h.dense h.registry, htorn'.allTorn_iff hnext.dense hnext.registry,
      World.fire_services hreg hl hfire]

/-- A back end has a service. -/
theorem OwnerSound.occupied (h : OwnerSound o) : 0 < o.world.backEnd.services.occupiedSize := by
  have hbasic := h.registry.basic
  rwa [serviceAt_eq, Option.isSome_map, h.dense.present] at hbasic

/-- Outside of the loop there is nothing to spare. -/
theorem sparesOthers_of_outside (hin : o.inLoop = false) (hg : o.enabled l = true) :
    SparesOthers o l := by
  cases l with
  | backEnd l =>
    have hmay := (Bool.and_eq_true_iff.mp hg).1
    cases l
    case signalStage => exact absurd (hin.symm.trans hmay) Bool.noConfusion
    case teardownStage => exact absurd (hin.symm.trans hmay) Bool.noConfusion
    all_goals trivial
  | _ => trivial

/-- **In the loop** a step ends it early exactly if it does not spare the other services. -/
theorem loop_step (h : OwnerSound o) (hin : o.inLoop = true) {l : Label}
    (hg : o.enabled (.backEnd l) = true) {w' : World} (hf : o.world.fire codec l = .ok w') :
    (w'.shutdownLoops = false → w'.AllTorn) ↔ SparesOthers o (.backEnd l) := by
  obtain ⟨-, hg'⟩ := Bool.and_eq_true_iff.mp hg
  have hnext := h.step hg (bind_eq_ok.mpr ⟨w', hf, rfl⟩)
  obtain ⟨n, -, htorn, hpassed⟩ := h.torn
  have hpassed := hpassed (.inl hin)
  by_cases hl : l = .teardownStage
  · subst hl
    obtain ⟨i, hp⟩ := World.teardown_enabled hg'
    have hpi : o.world.point.passed = i := by rw [hp]; rfl
    rw [hpi] at hpassed
    subst hpassed
    rw [SparesOthers, hpi]
    rcases teardownStage_cases h hp hf with
      ⟨hi, hcalls, hocc, -, -, hloops⟩ | ⟨hi, hsame, -⟩
    · rw [hloops, (htorn.next hcalls).allTorn_iff hnext.dense hnext.registry, hocc,
        Bool.not_eq_false']
    · have htorn' := htorn.serves (.of_eq (by rw [hsame]))
      rw [htorn'.allTorn_iff hnext.dense hnext.registry, hsame]
      exact iff_of_true (fun _ => by omega) fun _ => by omega
  have hkept := World.fire_loops hl hg' hf
  by_cases hsig : ∃ reply, l = .signalStage reply
  · obtain ⟨reply, rfl⟩ := hsig
    have htorn' := htorn.serves (World.fire_serviceStep hl hg' hf).onlyServes
    have hzero : n = 0 := by
      simp only [World.enabled, Bool.and_eq_true, decide_eq_true_eq] at hg'
      rw [hpassed, hg'.1]
      rfl
    have hocc := hnext.occupied
    rw [SparesOthers, ← World.signalStage_loops hf,
      htorn'.allTorn_iff hnext.dense hnext.registry, hzero]
    cases w'.shutdownLoops with
    | true => exact iff_of_true (fun hno => absurd hno Bool.noConfusion) rfl
    | false =>
      refine iff_of_false (fun hall => absurd (hall rfl) (Nat.not_le.mpr hocc)) ?_
      exact Bool.false_ne_true
  · refine iff_of_true (fun hno => ?_) ?_
    · rcases hkept.2 (h.loops hin) with hyes | ⟨reply, rfl, -⟩
      · exact absurd (hyes.symm.trans hno) Bool.noConfusion
      · exact absurd ⟨reply, rfl⟩ hsig
    · cases l
      case signalStage reply => exact absurd ⟨reply, rfl⟩ hsig
      case teardownStage => exact absurd rfl hl
      all_goals trivial

/-- **A step leaves every service torn down at the end of the loop** exactly if it spares the
others. -/
theorem finished_step (h : OwnerSound o) (hfin : Finished o) (hg : o.enabled l = true)
    (hf : o.fire codec l = .ok o') : Finished o' ↔ SparesOthers o l := by
  by_cases hended : o.called = true ∧ o.inLoop = false
  · obtain ⟨hc, hin⟩ := hended
    obtain ⟨-, -, hsame⟩ := ended_step h hc hin hg hf
    exact iff_of_true (fun _ _ => hsame.mpr (hfin hc hin)) (sparesOthers_of_outside hin hg)
  cases l with
  | shutdown | destroy =>
    cases hf
    refine iff_of_true (fun _ hout => ?_) trivial
    rcases shutdown_cases h with ⟨hc, heq⟩ | ⟨-, hin, -⟩
    · have hout' : o.inLoop = false := (congrArg inLoop heq).symm.trans hout
      exact absurd ⟨hc, hout'⟩ hended
    · exact absurd (hin.symm.trans hout) Bool.noConfusion
  | backEnd l =>
    obtain ⟨w', hfire, hret⟩ := bind_eq_ok.mp hf
    cases hret
    cases hin : o.inLoop with
    | false =>
      refine iff_of_true (fun hc => ?_) (sparesOthers_of_outside hin hg)
      exact absurd ⟨hc, hin⟩ hended
    | true =>
      rw [← loop_step h hin hg hfire]
      unfold Finished
      dsimp only
      rw [Bool.true_and]
      exact ⟨fun hall hout => hall (h.called hin) hout, fun hall _ hout => hall hout⟩

/-! ## Whole runs -/

/-- Every service has been torn down exactly once. -/
structure TornDownOnce (w : World) : Prop where
  atMostOnce : ∀ i, w.backEnd.calls.count (.teardown i) ≤ 1
  all : w.AllTorn

theorem OwnerSound.atMostOnce (h : OwnerSound o) (i : ℕ) :
    o.world.backEnd.calls.count (.teardown i) ≤ 1 := by
  obtain ⟨n, -, htorn, -⟩ := h.torn
  rw [htorn i]
  split <;> omega

theorem run_ownerSound {sourceType : SourceConnectionType}
    {backendType : DestinationConnectionType} {tr : List (OwnedBackEnd × OwnerLabel)}
    {r : Except Fault OwnedBackEnd}
    (h : (ownerMachine codec).Run (init sourceType backendType) tr r) :
    Machine.Always OwnerSound tr r :=
  h.invariant (C := fun _ _ => True) (fun _ _ _ hI _ hg hf => hI.step hg hf) (init_ownerSound _ _)
    fun _ _ => trivial

/-- **No service is torn down twice**, in no run. -/
theorem torn_down_at_most_once (codec : BasicProtocolCodec) (sourceType : SourceConnectionType)
    (backendType : DestinationConnectionType) {tr : List (OwnedBackEnd × OwnerLabel)}
    {r : Except Fault OwnedBackEnd}
    (h : (ownerMachine codec).Run (init sourceType backendType) tr r) :
    Machine.Always (fun o => ∀ i, o.world.backEnd.calls.count (.teardown i) ≤ 1) tr r :=
  ⟨fun p hp => ((run_ownerSound h).1 p hp).atMostOnce,
    fun o ho => ((run_ownerSound h).2 o ho).atMostOnce⟩

/-- What has not been torn down when the loop is over is not torn down later. -/
theorem finished_of_end {p : OwnedBackEnd} (hp : OwnerSound p)
    (h : (ownerMachine codec).Reaches p o) (hall : o.world.AllTorn) : Finished p := by
  intro hc hin
  have hlast := h.invariant (I := fun q => OwnerSound q ∧ q.called = true ∧ q.inLoop = false ∧
    (q.world.AllTorn ↔ p.world.AllTorn)) (fun q l q' hI hg hf => ?_) ⟨hp, hc, hin, Iff.rfl⟩
  · exact hlast.2.2.2.mp hall
  · obtain ⟨hq, hqc, hqin, hsame⟩ := hI
    obtain ⟨hqc', hqin', hsame'⟩ := ended_step hq hqc hqin hg hf
    exact ⟨hq.step hg hf, hqc', hqin', hsame'.trans hsame⟩

/-- **Teardown, exactly.**  In every run up to the destruction of a back end every service has been
torn down once if and only if no manager threw and no service but the last one reported an
error. -/
theorem torn_down_once_iff (codec : BasicProtocolCodec) (sourceType : SourceConnectionType)
    (backendType : DestinationConnectionType) {tr : List (OwnedBackEnd × OwnerLabel)}
    {o : OwnedBackEnd} (h : (ownerMachine codec).Run (init sourceType backendType) tr (.ok o))
    (hdestroyed : o.destroyed = true) (hout : o.inLoop = false) :
    TornDownOnce o.world ↔ ∀ p ∈ tr, SparesOthers p.1 p.2 := by
  have hsound := run_ownerSound h
  have hend := hsound.2 o rfl
  rw [← h.always_iff (I := Finished) (J := OwnerSound) (fun _ _ _ hJ hg hf => hJ.step hg hf)
    (fun _ _ _ hJ hI hg hf => finished_step hJ hI hg hf) (init_ownerSound _ _)
    fun hc => by cases hc]
  constructor
  · rintro ⟨-, hall⟩
    refine ⟨fun p hp => ?_, fun _ _ => hall⟩
    obtain ⟨pre, post, rfl⟩ := List.append_of_mem hp
    exact finished_of_end (hsound.1 p hp) ⟨_, h.split.2⟩ hall
  · rintro ⟨-, hfin⟩
    exact ⟨hend.atMostOnce, hfin (hend.destroyed hdestroyed) hout⟩

/-- A service whose `teardown` assigns `e`. -/
def tearingService (name : Bytes) (e : ErrorCode) : Service where
  name := name
  impl := .application .empty
  init _ := {}
  teardown _ := e

/-- Two services are registered, `shutdown()` is called twice, and the back end is destroyed; the
teardown loop takes `n` turns. -/
def tearingRun (first second : ErrorCode) (n : ℕ) : List OwnerLabel :=
  [.backEnd (.registerService (tearingService (ascii "first") first)),
   .backEnd (.registerService (tearingService (ascii "second") second)), .shutdown,
   .backEnd .stopStage, .backEnd .rpcStage, .backEnd (.signalStage fun _ => {}),
   .backEnd .managerStage, .backEnd .joinStage] ++
    List.replicate n (.backEnd .teardownStage) ++ [.shutdown, .destroy]

/-- The last service reports an error. -/
theorem torn_down_once_iff_sample : ∃ (tr : List (OwnedBackEnd × OwnerLabel)) (o : OwnedBackEnd),
    o.world.backEnd.calls = [.teardown 0, .teardown 1, .teardown 2] ∧
      (TornDownOnce o.world ↔ ∀ p ∈ tr, SparesOthers p.1 p.2) := by
  obtain ⟨o, hrun, hobs⟩ := (ownerMachine basicProtocolCodec).exec_observed
    (init .sourceRelay .targetMarshall) (tearingRun {} { value := 1 } 3)
    (fun o => (o.destroyed, o.inLoop, o.world.backEnd.calls))
    (a := (true, false, [.teardown 0, .teardown 1, .teardown 2]))
    (by decide +kernel) (by decide +kernel)
  simp only [Prod.mk.injEq] at hobs
  obtain ⟨hdestroyed, hout, hcalls⟩ := hobs
  exact ⟨_, o, hcalls, torn_down_once_iff _ _ _ hrun hdestroyed hout⟩

/-- **The service above one that reports an error** is not torn down, by any later call. -/
theorem service_never_torn_down : ¬ ∀ (codec : BasicProtocolCodec)
    (sourceType : SourceConnectionType) (backendType : DestinationConnectionType)
    (tr : List (OwnedBackEnd × OwnerLabel)) (o : OwnedBackEnd),
    (ownerMachine codec).Run (init sourceType backendType) tr (.ok o) →
      o.destroyed = true → o.inLoop = false → TornDownOnce o.world := by
  intro h
  obtain ⟨o, hrun, hobs⟩ := (ownerMachine basicProtocolCodec).exec_observed
    (init .sourceRelay .targetMarshall) (tearingRun { value := 1 } {} 2)
    (fun o => (o.destroyed, o.inLoop, o.world.backEnd.calls, (o.world.backEnd.serviceAt 2).isSome))
    (a := (true, false, [.teardown 0, .teardown 1], true)) (by decide +kernel) (by decide +kernel)
  simp only [Prod.mk.injEq] at hobs
  obtain ⟨hdestroyed, hout, hcalls, hat⟩ := hobs
  have hcall := (h _ _ _ _ o hrun hdestroyed hout).all 2 hat
  rw [hcalls] at hcall
  exact absurd hcall (by decide)

end OwnedBackEnd

end RblRpc
