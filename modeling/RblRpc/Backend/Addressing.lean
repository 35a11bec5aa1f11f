import RblRpc.Backend.Accounting
import RblRpc.Backend.Establishment

/-!
# The addresses of requests

The ordinals of a request have 32 bits; services and functions are found with 16 of them.

* `HasService`, `HasFunction` — what is registered at an ordinal, compared in full.
* `invoke_accepted` — `invoke` of an accepted request is its checks and what follows from them.
* `addressed_exactly_iff` — **a request is served by what its ordinals name exactly if they fit in
  16 bits wherever these name something.**
-/

namespace RblRpc

open Transition World

/-- The entry of the dispatch table at an ordinal. -/
def Service.functionAt (s : Service) (o : UInt16) : Option (BasicMethod ⊕ ApplicationMethod) :=
  match s.impl with
  | .basicProtocol => (basicProtocolTable.atOrdinal o).map .inl
  | .application t => (t.atOrdinal o).map .inr

/-- `request_ordinal` is the ordinal of the entry `f` of the dispatch table. -/
def Service.HasFunction (s : Service) (requestOrdinal : UInt32)
    (f : BasicMethod ⊕ ApplicationMethod) : Prop :=
  ∃ o : UInt16, o.toUInt32 = requestOrdinal ∧ s.functionAt o = some f

/-- The entry that the generated dispatch calls. -/
def Service.dispatched (s : Service) (r : ClientRequest) : Option (BasicMethod ⊕ ApplicationMethod) :=
  s.functionAt r.requestOrdinal.toUInt16

namespace BackEnd

/-- `service_ordinal` is the ordinal of the registered service `s`. -/
def HasService (b : BackEnd) (serviceOrdinal : UInt32) (s : Service) : Prop :=
  ∃ o : UInt16, o.toUInt32 = serviceOrdinal ∧ b.serviceAt o = some (some s)

/-- Where 16 bits of the ordinals name a service, and a function of it, the ordinals have no others;
and the service was not reset by a shutdown. -/
def AddressFits (b : BackEnd) (r : ClientRequest) : Prop :=
  match b.serviceAt r.serviceOrdinal.toUInt16 with
  | none => True
  | some none => False
  | some (some s) => r.serviceOrdinal.toNat < 2 ^ 16 ∧
    (s.containsFunctionAtOrdinal r.requestOrdinal.toUInt16 = true → r.requestOrdinal.toNat < 2 ^ 16)

end BackEnd

/-- `invoke` turns the request down, with this error in the client data and in the response. -/
def World.TurnsDown (codec : BasicProtocolCodec) (c : ClientPtr) (resets : Bool) (r : ClientRequest)
    (w : World) (e : ECode) (err : ClientResponseErrorType) : Prop :=
  ∃ w', w.invoke codec c resets r = .ok (true, w') ∧ (w'.data c).errorCode = e.code ∧
    (w'.data c).response.error = some err

/-- A request is addressed exactly: it is posted only if its ordinals are those of a service and of a
function of it, which the dispatch calls; and it is turned down with the error of the first of them
that is none. -/
structure World.AddressedExactly (codec : BasicProtocolCodec) (c : ClientPtr) (resets : Bool)
    (r : ClientRequest) (w : World) : Prop where
  posted : ∀ w', w.invoke codec c resets r = .ok (false, w') →
    ∃ s f, w.backEnd.HasService r.serviceOrdinal s ∧ s.HasFunction r.requestOrdinal f ∧
      s.dispatched r = some f
  noService : (∀ s, ¬ w.backEnd.HasService r.serviceOrdinal s) →
    w.TurnsDown codec c resets r .invokeNoServiceWithOrdinalError .requestNoServiceWithOrdinal
  noFunction : ∀ s, w.backEnd.HasService r.serviceOrdinal s →
    (∀ f, ¬ s.HasFunction r.requestOrdinal f) →
      w.TurnsDown codec c resets r .invokeNoRequestWithOrdinalError .requestNoFunctionWithOrdinal

/-! ## Tables -/

theorem toUInt32_eq_iff {o : UInt16} {n : UInt32} :
    o.toUInt32 = n ↔ n.toNat < 2 ^ 16 ∧ n.toUInt16 = o := by
  constructor
  · rintro rfl
    exact ⟨o.toNat_lt, UInt16.toUInt16_toUInt32 o⟩
  · rintro ⟨hlt, rfl⟩
    refine UInt32.toNat.inj ?_
    rw [UInt16.toNat_toUInt32, UInt32.toNat_toUInt16]
    exact Nat.mod_eq_of_lt hlt

/-- **The generated dispatch calls the entry it finds.** -/
theorem Service.dispatch_eq (codec : BasicProtocolCodec) (o : UInt16) (c : ClientPtr)
    (reply : ServiceReply) (s : Service) (b : BackEnd) (cd : ClientData) :
    s.dispatch codec o c reply b cd = match s.dispatched cd.request with
      | none => .error .invalidPointer
      | some (.inl m) => dispatchBasic codec c reply m b cd
      | some (.inr _) => dispatchApplication o c reply b cd := by
  unfold Service.dispatch Service.dispatched Service.functionAt
  cases s.impl with
  | basicProtocol =>
    cases basicProtocolTable.atOrdinal cd.request.requestOrdinal.toUInt16 <;> rfl
  | application t =>
    dsimp only
    cases t.atOrdinal cd.request.requestOrdinal.toUInt16 <;> rfl

/-- A function runs on what its dispatch gives it. -/
def BackEnd.dispatchTo (codec : BasicProtocolCodec) (o : UInt16) (c : ClientPtr)
    (reply : ServiceReply) (b : BackEnd) (cd : ClientData) :
    BasicMethod ⊕ ApplicationMethod → Except Fault (BackEnd × ClientData)
  | .inl m => dispatchBasic codec c reply m b cd
  | .inr _ => dispatchApplication o c reply b cd

theorem Service.dispatch_of_dispatched {codec : BasicProtocolCodec} {o : UInt16} {c : ClientPtr}
    {reply : ServiceReply} {s : Service} {b : BackEnd} {cd : ClientData}
    {f : BasicMethod ⊕ ApplicationMethod} (h : s.dispatched cd.request = some f) :
    s.dispatch codec o c reply b cd = b.dispatchTo codec o c reply cd f := by
  rw [dispatch_eq, h]
  cases f <;> rfl

theorem Service.containsFunctionAtOrdinal_eq (s : Service) (o : UInt16) :
    s.containsFunctionAtOrdinal o = (s.functionAt o).isSome := by
  unfold Service.containsFunctionAtOrdinal Service.functionAt
  cases s.impl <;> exact (Option.isSome_map ..).symm

variable {s : Service} {b : BackEnd} {r : ClientRequest}

theorem BackEnd.hasService_iff : b.HasService r.serviceOrdinal s ↔
    r.serviceOrdinal.toNat < 2 ^ 16 ∧ b.serviceAt r.serviceOrdinal.toUInt16 = some (some s) := by
  constructor
  · rintro ⟨o, ho, hs⟩
    obtain ⟨hlt, rfl⟩ := toUInt32_eq_iff.mp ho
    exact ⟨hlt, hs⟩
  · rintro ⟨hlt, hs⟩
    exact ⟨_, toUInt32_eq_iff.mpr ⟨hlt, rfl⟩, hs⟩

theorem Service.hasFunction_iff {f : BasicMethod ⊕ ApplicationMethod} :
    s.HasFunction r.requestOrdinal f ↔
      r.requestOrdinal.toNat < 2 ^ 16 ∧ s.functionAt r.requestOrdinal.toUInt16 = some f := by
  constructor
  · rintro ⟨o, ho, hf⟩
    obtain ⟨hlt, rfl⟩ := toUInt32_eq_iff.mp ho
    exact ⟨hlt, hf⟩
  · rintro ⟨hlt, hf⟩
    exact ⟨_, toUInt32_eq_iff.mpr ⟨hlt, rfl⟩, hf⟩

/-! ## The checks -/

namespace BackEnd

variable {codec : BasicProtocolCodec} {c : ClientPtr} {b' : BackEnd} {i i' : Invoker}

theorem checkRequest_noService
    (hs : b.serviceAt i.clientData.request.serviceOrdinal.toUInt16 = none) :
    b.checkRequest codec c i =
      .ok (b, reject .invokeNoServiceWithOrdinalError .requestNoServiceWithOrdinal i) := by
  unfold checkRequest
  dsimp only
  rw [hs]

theorem checkRequest_noFunction
    (hs : b.serviceAt i.clientData.request.serviceOrdinal.toUInt16 = some (some s))
    (hf : s.containsFunctionAtOrdinal i.clientData.request.requestOrdinal.toUInt16 = false) :
    b.checkRequest codec c i =
      .ok (b, reject .invokeNoRequestWithOrdinalError .requestNoFunctionWithOrdinal
        { i with service := i.clientData.request.serviceOrdinal.toUInt16 }) := by
  unfold checkRequest
  dsimp only
  rw [hs]
  dsimp only
  rw [hf]
  rfl

/-- **A request that names a function** is not turned down for its ordinals. -/
theorem checkRequest_function
    (hs : b.serviceAt i.clientData.request.serviceOrdinal.toUInt16 = some (some s))
    (hf : s.containsFunctionAtOrdinal i.clientData.request.requestOrdinal.toUInt16 = true)
    (he : i.clientData.response.error = some .requestSuccess)
    (h : b.checkRequest codec c i = .ok (b', i')) :
    i'.clientData.response.error ≠ some .requestNoServiceWithOrdinal ∧
      i'.clientData.response.error ≠ some .requestNoFunctionWithOrdinal := by
  have hsuccess : i.clientData.response.error ≠ some .requestNoServiceWithOrdinal ∧
      i.clientData.response.error ≠ some .requestNoFunctionWithOrdinal := by
    rw [he]
    exact ⟨nofun, nofun⟩
  cases checkRequest_step h with
  | noService hnone => cases hnone.symm.trans hs
  | noFunction hs' hf' =>
    cases hs.symm.trans hs'
    cases hf.symm.trans hf'
  | notSubscribed | notEstablished => exact ⟨nofun, nofun⟩
  | greeted | posted => exact hsuccess

end BackEnd

namespace World

variable {codec : BasicProtocolCodec} {w w' : World} {c : ClientPtr} {resets : Bool}

/-- What follows the checks: `end_rpc` of a request that was turned down. -/
def settle (c : ClientPtr) (w : World) (p : BackEnd × Invoker) : Except Fault (Bool × World) :=
  if p.2.stage = .rejected then do
    let (b, cd) ← p.1.endRpc p.2.clientData
    return (true, (w.setBackEnd b).setInvoker c { p.2 with clientData := cd, stage := .idle })
  else return (false, (w.setBackEnd p.1).setInvoker c p.2)

/-- **`invoke` of an accepted request** is its checks and what follows from them. -/
theorem invoke_accepted (codec : BasicProtocolCodec) (c : ClientPtr) (resets : Bool)
    (r : ClientRequest) (hacc : w.state.acceptingRequests = true)
    (hinactive : (w.data c).rpcActive = false) :
    ∃ (b : BackEnd) (i : Invoker), b.services = w.backEnd.services ∧ i.clientData.request = r ∧
      i.clientData.rpcActive = true ∧ i.clientData.response.error = some .requestSuccess ∧
      w.invoke codec c resets r = b.checkRequest codec c i >>= w.settle c := by
  obtain ⟨i₁, hprep, hreq₁, hinactive₁⟩ : ∃ i₁, (w.invokers c).prepare resets r = .ok i₁ ∧
      i₁.clientData.request = r ∧ i₁.clientData.rpcActive = false := by
    have hinactive : (w.invokers c).clientData.rpcActive = false := hinactive
    unfold Invoker.prepare
    cases resets <;> simp [hinactive, bind, Except.bind, pure, Except.pure]
  obtain ⟨b, cd, hbegin, hservices, hreq, hactive, hsuccess⟩ : ∃ b cd,
      w.backEnd.beginInvoke i₁.clientData = .ok (true, b, cd) ∧
        b.services = w.backEnd.services ∧ cd.request = r ∧ cd.rpcActive = true ∧
        cd.response.error = some .requestSuccess := by
    have hacc : w.backEnd.synchronisedState.acceptingRequests = true := hacc
    refine ⟨w.backEnd.setState w.backEnd.synchronisedState.startARequest.2,
      { i₁.clientData.setError .requestSuccess with errorCode := {}, rpcActive := true },
      ?_, rfl, hreq₁, rfl, rfl⟩
    unfold BackEnd.beginInvoke SynchronisedBackEndState.startARequest
    rw [if_pos hacc]
    simp [ClientData.startRpc, ClientData.setError, hinactive₁, bind, Except.bind, pure,
      Except.pure]
  refine ⟨b, { i₁ with clientData := cd, stage := .accepted }, hservices, hreq, hactive, hsuccess, ?_⟩
  unfold invoke BackEnd.invoke
  rw [hprep]
  dsimp only [bind, Except.bind]
  rw [hbegin]
  dsimp only
  rw [if_neg (by decide)]
  cases b.checkRequest codec c { i₁ with clientData := cd, stage := .accepted } with
  | error f => rfl
  | ok p =>
    unfold settle
    dsimp only
    by_cases hrej : p.2.stage = .rejected
    · rw [if_pos hrej, if_pos hrej]
      dsimp only [bind, Except.bind]
      cases p.1.endRpc p.2.clientData <;> rfl
    · rw [if_neg hrej, if_neg hrej]
      rfl

/-- **A request that a check turned down** ends with the error of the check. -/
theorem turnsDown_of_reject {b b' : BackEnd} {i i' : Invoker} (e : ECode)
    (err : ClientResponseErrorType)
    (hinvoke : w.invoke codec c resets r = b.checkRequest codec c i >>= w.settle c)
    (hcheck : b.checkRequest codec c i = .ok (b', BackEnd.reject e err i'))
    (hactive : i'.clientData.rpcActive = true) : w.TurnsDown codec c resets r e err := by
  have hcd : (BackEnd.reject e err i').clientData.endRpc =
      .ok { (BackEnd.reject e err i').clientData with rpcActive := false } :=
    ClientData.endRpc_eq_ok.mpr ⟨hactive, rfl⟩
  have hend : b'.endRpc (BackEnd.reject e err i').clientData =
      .ok (b'.setState b'.synchronisedState.endARequest,
        { (BackEnd.reject e err i').clientData with rpcActive := false }) := by
    unfold BackEnd.endRpc
    rw [hcd]
    rfl
  have hsettle : w.settle c (b', BackEnd.reject e err i') = .ok (true,
      (w.setBackEnd (b'.setState b'.synchronisedState.endARequest)).setInvoker c
        { (BackEnd.reject e err i') with
          clientData := { (BackEnd.reject e err i').clientData with rpcActive := false }
          stage := .idle }) := by
    unfold settle
    rw [if_pos (show (BackEnd.reject e err i').stage = .rejected from rfl)]
    exact bind_eq_ok.mpr ⟨_, hend, rfl⟩
  refine ⟨_, hinvoke.trans (bind_eq_ok.mpr ⟨_, hcheck, hsettle⟩), ?_, ?_⟩ <;>
  · rw [data, setInvoker_self]
    rfl

theorem settle_response {b : BackEnd} {i : Invoker} {done : Bool}
    (h : w.settle c (b, i) = .ok (done, w')) :
    (w'.data c).response = i.clientData.response ∧ (done = false → i.stage ≠ .rejected) := by
  unfold settle at h
  split at h
  · obtain ⟨⟨b', cd⟩, hend, hret⟩ := bind_eq_ok.mp h
    cases hret
    obtain ⟨cd', hcd, hret⟩ := bind_eq_ok.mp hend
    cases hret
    obtain ⟨-, rfl⟩ := ClientData.endRpc_eq_ok.mp hcd
    rw [data, setInvoker_self]
    exact ⟨rfl, fun hdone => by cases hdone⟩
  · rename_i hrej
    cases h
    rw [data, setInvoker_self]
    exact ⟨rfl, fun _ => hrej⟩

/-- **Exact addressing, exactly.**  In every accepting state of a back end, a client's request is
addressed exactly if and only if its ordinals have no more than 16 bits where the low 16 bits of
them name a service, and a function of it. -/
theorem addressed_exactly_iff (codec : BasicProtocolCodec) (sourceType : SourceConnectionType)
    (backendType : DestinationConnectionType) {w : World} {c : ClientPtr} {resets : Bool}
    {r : ClientRequest}
    (hreach : (backEndMachine codec).Reaches (init sourceType backendType) w)
    (hacc : w.state.acceptingRequests = true) (hg : w.enabled (.request c resets r) = true) :
    w.AddressedExactly codec c resets r ↔ w.backEnd.AddressFits r := by
  simp only [enabled, Bool.and_eq_true, decide_eq_true_eq] at hg
  have hinactive : (w.data c).rpcActive = false := (accounted_reaches hreach).active_eq_false hg.2
  obtain ⟨b, i, hservices, rfl, hactive, hsuccess, hinvoke⟩ :=
    invoke_accepted codec c resets r hacc hinactive
  have hat : b.serviceAt i.clientData.request.serviceOrdinal.toUInt16 =
      w.backEnd.serviceAt i.clientData.request.serviceOrdinal.toUInt16 := by
    rw [BackEnd.serviceAt, hservices]
    rfl
  have hposted : ∀ w', w.invoke codec c resets i.clientData.request = .ok (false, w') →
      ∃ s, w.backEnd.serviceAt i.clientData.request.serviceOrdinal.toUInt16 = some (some s) ∧
        s.containsFunctionAtOrdinal i.clientData.request.requestOrdinal.toUInt16 = true := by
    intro w' h
    obtain ⟨⟨b', i'⟩, hcheck, hsettle⟩ := bind_eq_ok.mp (hinvoke.symm.trans h)
    obtain ⟨cs, -, -, ⟨hrej, -⟩ | ⟨hadm, -⟩⟩ := BackEnd.checkRequest_ok hcheck
    · exact absurd hrej ((settle_response hsettle).2 rfl)
    · rw [← hat]
      exact hadm.service
  unfold BackEnd.AddressFits
  cases hs : w.backEnd.serviceAt i.clientData.request.serviceOrdinal.toUInt16 with
  | none =>
    have hcheck := @BackEnd.checkRequest_noService _ codec c _ (hat.trans hs)
    refine iff_of_true ⟨fun w' h => ?_, fun _ => turnsDown_of_reject _ _ hinvoke hcheck hactive,
      fun s hservice => ?_⟩ trivial
    · obtain ⟨s, hs', -⟩ := hposted w' h
      cases hs.symm.trans hs'
    · cases hs.symm.trans (BackEnd.hasService_iff.mp hservice).2
  | some slot =>
    cases slot with
    | none =>
      refine iff_of_false (fun h => ?_) id
      have hservice : ∀ s, ¬ w.backEnd.HasService i.clientData.request.serviceOrdinal s := by
        intro s hservice
        cases hs.symm.trans (BackEnd.hasService_iff.mp hservice).2
      obtain ⟨w', hw', -⟩ := h.noService hservice
      obtain ⟨⟨b', i'⟩, hcheck, -⟩ := bind_eq_ok.mp (hinvoke.symm.trans hw')
      unfold BackEnd.checkRequest at hcheck
      dsimp only at hcheck
      rw [hat, hs] at hcheck
      cases hcheck
    | some s =>
      have hs' := hat.trans hs
      constructor
      · intro h
        -- the errors of the answers to other requests
        have hanswer : ∀ e err, w.TurnsDown codec c resets i.clientData.request e err →
            s.containsFunctionAtOrdinal i.clientData.request.requestOrdinal.toUInt16 = true →
              err ≠ .requestNoServiceWithOrdinal ∧ err ≠ .requestNoFunctionWithOrdinal := by
          rintro e err ⟨w', hw', -, herr⟩ hfn
          obtain ⟨⟨b', i'⟩, hcheck, hsettle⟩ := bind_eq_ok.mp (hinvoke.symm.trans hw')
          obtain ⟨h₁, h₂⟩ := BackEnd.checkRequest_function hs' hfn hsuccess hcheck
          rw [← (settle_response hsettle).1, herr] at h₁ h₂
          exact ⟨fun heq => h₁ (congrArg some heq), fun heq => h₂ (congrArg some heq)⟩
        have hlt : i.clientData.request.serviceOrdinal.toNat < 2 ^ 16 := by
          by_contra hge
          have hdown := h.noService fun s' hservice => hge (BackEnd.hasService_iff.mp hservice).1
          cases hfn : s.containsFunctionAtOrdinal
              i.clientData.request.requestOrdinal.toUInt16 with
          | true => exact (hanswer _ _ hdown hfn).1 rfl
          | false =>
            obtain ⟨w', hw', -, herr⟩ := hdown
            obtain ⟨⟨b', i'⟩, hcheck, hsettle⟩ := bind_eq_ok.mp (hinvoke.symm.trans hw')
            cases (BackEnd.checkRequest_noFunction hs' hfn).symm.trans hcheck
            cases herr.symm.trans (congrArg ClientResponse.error (settle_response hsettle).1)
        refine ⟨hlt, fun hfn => ?_⟩
        by_contra hge
        have hdown := h.noFunction s (BackEnd.hasService_iff.mpr ⟨hlt, hs⟩) fun f hfunction =>
          hge (Service.hasFunction_iff.mp hfunction).1
        exact (hanswer _ _ hdown hfn).2 rfl
      · rintro ⟨hlt, hfits⟩
        have hservice := BackEnd.hasService_iff.mpr ⟨hlt, hs⟩
        refine ⟨fun w' hw' => ?_, fun hno => absurd hservice (hno s), fun s' hs₁ hno => ?_⟩
        · obtain ⟨s', hs₁, hfn⟩ := hposted w' hw'
          cases hs.symm.trans hs₁
          have hsome := hfn
          rw [Service.containsFunctionAtOrdinal_eq] at hsome
          obtain ⟨f, hf⟩ := Option.isSome_iff_exists.mp hsome
          exact ⟨s, f, hservice, Service.hasFunction_iff.mpr ⟨hfits hfn, hf⟩, hf⟩
        · cases hs.symm.trans (BackEnd.hasService_iff.mp hs₁).2
          have hfn : s.containsFunctionAtOrdinal
              i.clientData.request.requestOrdinal.toUInt16 = false := by
            rw [Bool.eq_false_iff]
            intro hfn
            have hsome := hfn
            rw [Service.containsFunctionAtOrdinal_eq] at hsome
            obtain ⟨f, hf⟩ := Option.isSome_iff_exists.mp hsome
            exact hno f (Service.hasFunction_iff.mpr ⟨hfits hfn, hf⟩)
          exact turnsDown_of_reject _ _ hinvoke (BackEnd.checkRequest_noFunction hs' hfn) hactive

theorem addressed_exactly_iff_sample : ∃ w : World, w.state.acceptingRequests = true ∧
    w.backEnd.isSealed = true ∧
    (w.AddressedExactly basicProtocolCodec 7 true ⟨0, 0, sampleHello⟩ ↔
      w.backEnd.AddressFits ⟨0, 0, sampleHello⟩) := by
  obtain ⟨w, hrun, hobs⟩ := (backEndMachine basicProtocolCodec).exec_observed
    (init .sourceRelay .targetMarshall) (startUp 7)
    (fun w => (w.state.acceptingRequests, w.backEnd.isSealed,
      w.enabled (.request 7 true ⟨0, 0, sampleHello⟩)))
    (a := (true, true, true)) (by decide +kernel) (by decide +kernel)
  simp only [Prod.mk.injEq] at hobs
  obtain ⟨hacc, hsealed, hg⟩ := hobs
  exact ⟨w, hacc, hsealed, addressed_exactly_iff _ _ _ ⟨_, hrun⟩ hacc hg⟩

/-- **A request for function 65536 is posted**, and runs function 0. -/
theorem addressed_modulo : ¬ ∀ (codec : BasicProtocolCodec) (sourceType : SourceConnectionType)
    (backendType : DestinationConnectionType) (w : World) (c : ClientPtr) (resets : Bool)
    (r : ClientRequest), (backEndMachine codec).Reaches (init sourceType backendType) w →
    w.backEnd.isSealed = true → w.state.acceptingRequests = true →
      w.enabled (.request c resets r) = true → w.AddressedExactly codec c resets r := by
  intro h
  let r : ClientRequest := ⟨0, 65536, sampleHello⟩
  obtain ⟨w, hrun, hobs⟩ := (backEndMachine basicProtocolCodec).exec_observed
    (init .sourceRelay .targetMarshall) (startUp 7 ++ serve 7 ⟨0, 0, sampleHello⟩ {})
    (fun w => (w.backEnd.isSealed, w.state.acceptingRequests, w.enabled (.request 7 true r),
      (w.invoke basicProtocolCodec 7 true r).toOption.map (·.1)))
    (a := (true, true, true, some false)) (by decide +kernel) (by decide +kernel)
  simp only [Prod.mk.injEq] at hobs
  obtain ⟨hsealed, hacc, hg, hposts⟩ := hobs
  cases hinvoke : w.invoke basicProtocolCodec 7 true r with
  | error f =>
    rw [hinvoke] at hposts
    cases hposts
  | ok p =>
    obtain ⟨done, w'⟩ := p
    rw [hinvoke] at hposts
    cases hposts
    obtain ⟨s, f, -, hfunction, -⟩ := (h _ _ _ w 7 true r ⟨_, hrun⟩ hsealed hacc hg).posted w' hinvoke
    exact absurd (Service.hasFunction_iff.mp hfunction).1 (by decide)

end World

end RblRpc
