import Mathlib.Data.Finset.Card
import RblRpc.Backend.ClientServiceCookies
import RblRpc.Backend.Service

/-!
# The back end

Model of `SynchronisedBackEndState` and of the members of `BackEnd` (`BackEndBase.h`,
`BackEndBase.cc`) that do not serve requests: registration, start, the connected clients and the
teardown loop.  `calls` is the history of the calls made on the services; it has no counterpart in
the code.

* `registerAndInitService`, `start`, `connect`, `disconnect`, `teardownService`.
* `BackEnd.new` — the constructor: `basic_protocol` is registered at ordinal 0.
* `start_ok`, `disconnect_ok`, `teardownService_ok` — what a completed call wrote.
-/

namespace RblRpc

inductive BackEndShutdownState where
  | active
  | shutdownInitiated
  | shutdownWaitingOnActiveRpcEnd
  | shutdownWaitingOnManagerDisconections
  | shutdownComplete
  deriving DecidableEq, Repr

/-- A connected slot of `f_disc_invoker_sig`. -/
abbrev ManagerId := ℕ

structure SynchronisedBackEndState where
  acceptingRequests : Bool := false
  activeRpcCount : Int := 0
  slots : List ManagerId := []
  shutdownState : BackEndShutdownState := .active
  deriving DecidableEq

namespace SynchronisedBackEndState

def startARequest (s : SynchronisedBackEndState) : Bool × SynchronisedBackEndState :=
  if s.acceptingRequests then (true, { s with activeRpcCount := s.activeRpcCount + 1 })
  else (false, s)

def endARequest (s : SynchronisedBackEndState) : SynchronisedBackEndState :=
  { s with activeRpcCount := s.activeRpcCount - 1 }

def beginAcceptingRequests (s : SynchronisedBackEndState) : SynchronisedBackEndState :=
  { s with acceptingRequests := true }

def stopAcceptingRequests (s : SynchronisedBackEndState) : SynchronisedBackEndState :=
  { s with acceptingRequests := false }

/-- `f_disc_invoker_sig.connect`. -/
def registerInvokerManager (m : ManagerId) (s : SynchronisedBackEndState) :
    SynchronisedBackEndState := { s with slots := s.slots ++ [m] }

/-- `SynchronisedSignalConnection::disconnect`. -/
def disconnectManager (m : ManagerId) (s : SynchronisedBackEndState) :
    SynchronisedBackEndState := { s with slots := s.slots.erase m }

def managerCount (s : SynchronisedBackEndState) : ℕ := s.slots.length

def checkAndInitiateShutdown (s : SynchronisedBackEndState) : Bool × SynchronisedBackEndState :=
  if s.shutdownState = .active then (true, { s with shutdownState := .shutdownInitiated })
  else (false, s)

def setShutdownState (st : BackEndShutdownState) (s : SynchronisedBackEndState) :
    SynchronisedBackEndState := { s with shutdownState := st }

end SynchronisedBackEndState

/-- `io_service`: the clients whose invokers are posted, in order. -/
structure IoService where
  queue : List ClientPtr := []
  stopped : Bool := false
  deriving DecidableEq

/-- A call on the service at an ordinal. -/
inductive ServiceCall where
  | dispatch (service : ℕ) (client : ClientPtr)
  | subscribe (service : ℕ) (client : ClientPtr) (accepted : Bool)
  | unsubscribe (service : ℕ) (client : ClientPtr)
  | teardown (service : ℕ)
  deriving DecidableEq, Repr

def ServiceCall.isTeardown : ServiceCall → Bool
  | .teardown _ => true
  | _ => false

/-- `BackEnd`.  A service whose `shared_ptr` was reset is `none`. -/
structure BackEnd where
  sourceType : SourceConnectionType
  backendType : DestinationConnectionType
  poolSize : Int := 0
  ec : ErrorCode := {}
  clientServiceCookies : ClientServiceCookies := {}
  connectedClients : Finset ClientPtr := ∅
  synchronisedState : SynchronisedBackEndState := {}
  services : OidContainer (Option Service) := .empty
  serviceCount : UInt16 := 0
  isSealed : Bool := false
  ioService : IoService := {}
  calls : List ServiceCall := []

/-- What `register_and_init_service` throws. -/
inductive RegistrationError where
  | backEnd (e : BackEndException)
  | std (e : StdException)
  deriving DecidableEq

namespace BackEnd

/-- The `shared_ptr` at an ordinal; `none`: the lookup returned `NULL`. -/
def serviceAt (b : BackEnd) (o : UInt16) : Option (Option Service) := b.services.atOrdinal o

def setCookies (cs : ClientServiceCookies) (b : BackEnd) : BackEnd :=
  { b with clientServiceCookies := cs }

def setState (s : SynchronisedBackEndState) (b : BackEnd) : BackEnd :=
  { b with synchronisedState := s }

def logCall (call : ServiceCall) (b : BackEnd) : BackEnd := { b with calls := b.calls ++ [call] }

/-- `register_and_init_service`: what it leaves behind, and the exception it throws. -/
def registerAndInitService (service : Service) (b : BackEnd) :
    BackEnd × Except RegistrationError Unit :=
  if b.isSealed then
    (b, .error (.backEnd { errorCode := some ECode.backendSealed.code }))
  else
    match Oid.make service.name b.serviceCount.toUInt32 with
    | .error x => (b, .error (.std x))
    | .ok id =>
      match b.services.setEntry ⟨id, some service⟩ with
      | (services, .error x) => ({ b with services := services }, .error (.std x))
      | (services, .ok .opNoError) =>
        let ec := service.init b.ec
        let b := { b with services := services, ec := ec }
        if ec.isError then
          (b, .error (.backEnd
            { errorCode := some ECode.backendInitializationError.code
              serviceName := some service.name
              serviceErrorCode := some ec }))
        else ({ b with serviceCount := b.serviceCount + 1 }, .ok ())
      | (services, .ok _) =>
        ({ b with services := services },
          .error (.backEnd { errorCode := some ECode.backendIdentifierCollision.code }))

/-- The constructor. -/
def new (sourceType : SourceConnectionType) (backendType : DestinationConnectionType) : BackEnd :=
  (registerAndInitService basicProtocolService
    { sourceType := sourceType, backendType := backendType }).1

/-- The loop of `start` that activates the services. -/
def activateServices : List ℕ → ClientServiceCookies → Except Fault ClientServiceCookies
  | [], cs => .ok cs
  | i :: is, cs => do activateServices is (← cs.activateServiceWithOrdinal (UInt16.ofNat i))

/-- `start`; the pool threads are those that take handlers from the queue afterwards. -/
def start (b : BackEnd) : Except Fault (BackEnd × Option BackEndException) := do
  boostAssert (0 < b.poolSize) .poolSize
  if b.isSealed then return (b, some { errorCode := some ECode.backendSealed.code })
  let b := { b with isSealed := true }
  boostAssert (b.services.size = b.services.occupiedSize) .contiguousOrdinals
  let cookies ← b.clientServiceCookies.setSize b.services.occupiedSize
  let cookies ← activateServices (List.range b.services.occupiedSize) cookies
  let b := b.setCookies cookies
  return (b.setState b.synchronisedState.beginAcceptingRequests, none)

def pauseRequests (b : BackEnd) : BackEnd := b.setState b.synchronisedState.stopAcceptingRequests
def resumeRequests (b : BackEnd) : BackEnd := b.setState b.synchronisedState.beginAcceptingRequests

/-- `connect`. -/
def connect (c : ClientPtr) (b : BackEnd) : BackEnd :=
  { b with connectedClients := insert c b.connectedClients }

/-- The test of a subscription in `disconnect`, and the call of `unsubscribe`. -/
def unsubscribeClient (c : ClientPtr) (o : UInt16) (reply : ServiceReply) (s : Option Service)
    (b : BackEnd) (cd : ClientData) : Except Fault (BackEnd × ClientData) :=
  if b.clientServiceCookies.isSubscribed o.toNat c then
    match s with
    | none => .error .invalidPointer
    | some _ => .ok (b.logCall (.unsubscribe o.toNat c), reply.applyTo cd)
  else .ok (b, cd)

/-- The body of the loop of `disconnect`: the subscription of client `c` for service `i`. -/
def disconnectService (c : ClientPtr) (reply : ℕ → ServiceReply) (i : ℕ)
    (b : BackEnd) (cd : ClientData) : Except Fault (BackEnd × ClientData) := do
  let o := UInt16.ofNat i
  let cookies ← b.clientServiceCookies.createOrRetrieveCookie o c
  match b.serviceAt o with
  | none => .error .invalidPointer
  | some s => do
    let (b, cd) ← unsubscribeClient c o (reply i) s (b.setCookies cookies) cd
    -- `destroy_cookie` frees the service's object; the map entry goes with `delete_cookie`
    let (_, cookies) ← b.clientServiceCookies.deleteCookie o c
    return (b.setCookies cookies, cd)

/-- The loop of `disconnect`. -/
def disconnectServices (c : ClientPtr) (reply : ℕ → ServiceReply) :
    List ℕ → BackEnd → ClientData → Except Fault (BackEnd × ClientData)
  | [], b, cd => .ok (b, cd)
  | i :: is, b, cd => do
    let (b, cd) ← disconnectService c reply i b cd
    disconnectServices c reply is b cd

/-- The subscriptions are cleaned up while the back end is up and running. -/
def cleanUp (c : ClientPtr) (reply : ℕ → ServiceReply) (b : BackEnd) (cd : ClientData) :
    Except Fault (BackEnd × ClientData) :=
  if b.isSealed && !b.ioService.stopped then
    disconnectServices c reply (List.range' 1 (b.services.size - 1)) b cd
  else .ok (b, cd)

/-- `disconnect`; `reply i` is what `unsubscribe` of service `i` does. -/
def disconnect (c : ClientPtr) (reply : ℕ → ServiceReply) (b : BackEnd) (cd : ClientData) :
    Except Fault (BackEnd × ClientData) := do
  let (b, cd) ← b.cleanUp c reply cd
  boostAssert (c ∈ b.connectedClients) .clientConnected
  return ({ b with connectedClients := b.connectedClients.erase c }, cd)

/-- The body of the teardown loop for service `i`.  The pointer looked up is tested, the
`shared_ptr` it points to is not. -/
def teardownService (i : ℕ) (b : BackEnd) : Except Fault (BackEnd × Option BackEndException) :=
  match b.serviceAt (UInt16.ofNat i) with
  | none => .ok (b, none)
  | some none => .error .invalidPointer
  | some (some service) =>
    let ec := service.teardown b.ec
    let b := { b.logCall (.teardown i) with ec := ec }
    if ec.isError then
      .ok (b, some
        { errorCode := some ECode.backendTeardownError.code
          serviceName := some service.name
          serviceErrorCode := some ec })
    else .ok ({ b with services := b.services.setAt i none }, none)

/-! ## What the operations write -/

/-- The history grew, by calls other than teardowns. -/
def Serves (b b' : BackEnd) : Prop :=
  ∃ calls, b'.calls = b.calls ++ calls ∧ ∀ call ∈ calls, call.isTeardown = false

theorem Serves.of_eq {b b' : BackEnd} (h : b'.calls = b.calls) : Serves b b' :=
  ⟨[], by rw [h, List.append_nil], fun _ hc => (List.not_mem_nil hc).elim⟩

theorem Serves.trans {a b c : BackEnd} (h : Serves a b) (h' : Serves b c) : Serves a c := by
  obtain ⟨calls, heq, hnot⟩ := h
  obtain ⟨calls', heq', hnot'⟩ := h'
  refine ⟨calls ++ calls', by rw [heq', heq, List.append_assoc], fun call hc => ?_⟩
  rcases List.mem_append.mp hc with hc | hc
  · exact hnot call hc
  · exact hnot' call hc

theorem Serves.logCall {b b' : BackEnd} {call : ServiceCall} (h : b'.calls = b.calls ++ [call])
    (hcall : call.isTeardown = false) : Serves b b' := by
  refine ⟨[call], h, fun call' hc => ?_⟩
  rw [List.mem_singleton.mp hc]
  exact hcall

theorem registerAndInitService_writes (service : Service) (b : BackEnd) :
    ∃ services ec count, (b.registerAndInitService service).1 =
      { b with services := services, ec := ec, serviceCount := count } := by
  unfold registerAndInitService
  split
  · exact ⟨_, _, _, rfl⟩
  · split
    · exact ⟨_, _, _, rfl⟩
    · split
      · exact ⟨_, _, _, rfl⟩
      · dsimp only
        split <;> exact ⟨_, _, _, rfl⟩
      · exact ⟨_, _, _, rfl⟩

theorem registerAndInitService_sealed {service : Service} {b : BackEnd} (h : b.isSealed = true) :
    (b.registerAndInitService service).1 = b := by
  unfold registerAndInitService
  rw [if_pos h]

/-- **`start`** throws on a sealed back end; else it seals it, activates every ordinal and accepts
requests. -/
theorem start_ok {b b' : BackEnd} {e : Option BackEndException} (h : b.start = .ok (b', e)) :
    0 < b.poolSize ∧ (b.isSealed = true ∧ b' = b ∧ e ≠ none ∨
      b.isSealed = false ∧ e = none ∧ b.services.size = b.services.occupiedSize ∧
        ∃ cs₀ cs, b.clientServiceCookies.setSize b.services.occupiedSize = .ok cs₀ ∧
          activateServices (List.range b.services.occupiedSize) cs₀ = .ok cs ∧
          b' = { b with
            isSealed := true
            clientServiceCookies := cs
            synchronisedState := b.synchronisedState.beginAcceptingRequests }) := by
  unfold start at h
  obtain ⟨_, hpool, h⟩ := bind_eq_ok.mp h
  refine ⟨of_decide_eq_true (boostAssert_eq_ok.mp hpool), ?_⟩
  split at h
  · rename_i hs
    cases h
    exact .inl ⟨hs, rfl, by simp⟩
  · rename_i hs
    obtain ⟨_, hcont, h⟩ := bind_eq_ok.mp h
    obtain ⟨cs₀, hcs₀, h⟩ := bind_eq_ok.mp h
    obtain ⟨cs, hcs, h⟩ := bind_eq_ok.mp h
    cases h
    exact .inr ⟨Bool.eq_false_iff.mpr hs, rfl, of_decide_eq_true (boostAssert_eq_ok.mp hcont),
      cs₀, cs, hcs₀, hcs, rfl⟩

/-- The cookies after client `c` was removed from the services in `is`. -/
structure CookiesRemoved (c : ClientPtr) (is : List ℕ) (cs cs' : ClientServiceCookies) :
    Prop where
  shape : ClientServiceCookies.SameShape cs cs'
  removed : ∀ i ∈ is, cs'.lookup (UInt16.ofNat i).toNat c = none
  kept : ∀ s k, (k ≠ c ∨ ∀ i ∈ is, s ≠ (UInt16.ofNat i).toNat) → cs'.lookup s k = cs.lookup s k

theorem disconnectService_ok {c : ClientPtr} {reply : ℕ → ServiceReply} {i : ℕ}
    {b b' : BackEnd} {cd cd' : ClientData} (h : disconnectService c reply i b cd = .ok (b', cd')) :
    (∃ cs calls, b' = { b with clientServiceCookies := cs, calls := calls }) ∧
      SameClient cd cd' ∧ SameIdentity cd cd' ∧
      CookiesRemoved c [i] b.clientServiceCookies b'.clientServiceCookies ∧ Serves b b' := by
  unfold disconnectService at h
  obtain ⟨cs, hcs, h⟩ := bind_eq_ok.mp h
  obtain ⟨hshape, hlook⟩ := ClientServiceCookies.createOrRetrieveCookie_ok hcs
  dsimp only at h
  split at h
  · cases h
  · obtain ⟨⟨b₁, cd₁⟩, hunsub, h⟩ := bind_eq_ok.mp h
    obtain ⟨⟨r, cs'⟩, hcs', h⟩ := bind_eq_ok.mp h
    cases h
    have hb₁ : (∃ calls, b₁ = { b with clientServiceCookies := cs, calls := calls }) ∧
        SameClient cd cd₁ ∧ SameIdentity cd cd₁ ∧ Serves b b₁ := by
      unfold unsubscribeClient at hunsub
      split at hunsub
      · split at hunsub
        · cases hunsub
        · cases hunsub
          exact ⟨⟨_, rfl⟩, ⟨rfl, rfl, rfl⟩, ⟨rfl, rfl⟩, .logCall rfl rfl⟩
      · cases hunsub
        exact ⟨⟨_, rfl⟩, .refl _, .refl _, .of_eq rfl⟩
    obtain ⟨⟨calls, rfl⟩, hcd, hid, hserves⟩ := hb₁
    obtain ⟨hshape', hlook'⟩ := ClientServiceCookies.deleteCookie_ok hcs'
    refine ⟨⟨_, _, rfl⟩, hcd, hid, ⟨hshape.trans hshape', fun j hj => ?_, fun s k hk => ?_⟩,
      hserves⟩
    · rw [List.mem_singleton] at hj
      subst hj
      exact (hlook' _ _).trans (if_pos ⟨rfl, rfl⟩)
    · have hne : ¬(s = (UInt16.ofNat i).toNat ∧ k = c) := by
        rintro ⟨hs, hc⟩
        rcases hk with hk | hk
        · exact hk hc
        · exact hk i List.mem_cons_self hs
      exact (hlook' s k).trans ((if_neg hne).trans ((hlook s k).trans (if_neg hne)))

theorem disconnectServices_ok {c : ClientPtr} {reply : ℕ → ServiceReply} {is : List ℕ}
    {b b' : BackEnd} {cd cd' : ClientData}
    (h : disconnectServices c reply is b cd = .ok (b', cd')) :
    (∃ cs calls, b' = { b with clientServiceCookies := cs, calls := calls }) ∧
      SameClient cd cd' ∧ SameIdentity cd cd' ∧
      CookiesRemoved c is b.clientServiceCookies b'.clientServiceCookies ∧ Serves b b' := by
  induction is generalizing b cd with
  | nil =>
    cases h
    exact ⟨⟨_, _, rfl⟩, .refl _, .refl _,
      ⟨.refl _, fun _ hi => (List.not_mem_nil hi).elim, fun _ _ _ => rfl⟩, .of_eq rfl⟩
  | cons i is ih =>
    obtain ⟨⟨b₁, cd₁⟩, h₁, h₂⟩ := bind_eq_ok.mp h
    obtain ⟨⟨cs₁, calls₁, rfl⟩, hcd₁, hid₁, hr₁, hserves₁⟩ := disconnectService_ok h₁
    obtain ⟨⟨cs₂, calls₂, rfl⟩, hcd₂, hid₂, hr₂, hserves₂⟩ := ih h₂
    refine ⟨⟨_, _, rfl⟩, hcd₁.trans hcd₂, hid₁.trans hid₂,
      ⟨hr₁.shape.trans hr₂.shape, fun j hj => ?_, fun s k hk => ?_⟩, hserves₁.trans hserves₂⟩
    · rcases List.mem_cons.mp hj with rfl | hj
      · by_cases hmem : ∃ i' ∈ is, (UInt16.ofNat j).toNat = (UInt16.ofNat i').toNat
        · obtain ⟨i', hi', heq⟩ := hmem
          rw [heq]
          exact hr₂.removed i' hi'
        · rw [hr₂.kept _ _ (.inr fun i' hi' he => hmem ⟨i', hi', he⟩)]
          exact hr₁.removed j List.mem_cons_self
      · exact hr₂.removed j hj
    · rw [hr₂.kept s k (hk.imp id fun hk i' hi' => hk i' (List.mem_cons_of_mem _ hi')),
        hr₁.kept s k (hk.imp id fun hk i' hi' => by
          rw [List.mem_singleton] at hi'
          subst hi'
          exact hk _ List.mem_cons_self)]

/-- **`disconnect`** removes the client, and its cookies at every ordinal from 1 on while the back
end runs. -/
theorem disconnect_ok {c : ClientPtr} {reply : ℕ → ServiceReply} {b b' : BackEnd}
    {cd cd' : ClientData} (h : b.disconnect c reply cd = .ok (b', cd')) :
    c ∈ b.connectedClients ∧ SameClient cd cd' ∧ SameIdentity cd cd' ∧
      (∃ cs calls, b' = { b with
        clientServiceCookies := cs
        calls := calls
        connectedClients := b.connectedClients.erase c }) ∧
      CookiesRemoved c (if b.isSealed && !b.ioService.stopped
        then List.range' 1 (b.services.size - 1) else [])
        b.clientServiceCookies b'.clientServiceCookies ∧
      (¬(b.isSealed && !b.ioService.stopped) = true → b'.calls = b.calls) ∧ Serves b b' := by
  unfold disconnect at h
  obtain ⟨⟨b₁, cd₁⟩, h₁, h⟩ := bind_eq_ok.mp h
  obtain ⟨_, hmem, h⟩ := bind_eq_ok.mp h
  cases h
  have hmem := of_decide_eq_true (boostAssert_eq_ok.mp hmem)
  unfold cleanUp at h₁
  split at h₁
  · rename_i hrun
    obtain ⟨⟨cs, calls, rfl⟩, hcd, hid, hr, hserves⟩ := disconnectServices_ok h₁
    exact ⟨hmem, hcd, hid, ⟨_, _, rfl⟩, by rw [if_pos hrun]; exact hr, fun hn => absurd hrun hn,
      hserves⟩
  · rename_i hrun
    cases h₁
    refine ⟨hmem, .refl _, .refl _, ⟨_, _, rfl⟩, ?_, fun _ => rfl, .of_eq rfl⟩
    rw [if_neg hrun]
    exact ⟨.refl _, fun _ hi => (List.not_mem_nil hi).elim, fun _ _ _ => rfl⟩

/-- What a lookup finds after a service was reset. -/
theorem atOrdinal_setAt_none (c : OidContainer (Option Service)) (i : ℕ) (o : UInt16) :
    (c.setAt i none).atOrdinal o = if o.toNat = i then (c.atOrdinal o).map fun _ => none
      else c.atOrdinal o := by
  rw [OidContainer.atOrdinal, OidContainer.entryAtOrdinal, OidContainer.at?_setAt,
    UInt16.toNat_toUInt32]
  split
  · rw [OidContainer.atOrdinal, OidContainer.entryAtOrdinal, UInt16.toNat_toUInt32,
      Option.map_map, Option.map_map]
    rfl
  · rw [OidContainer.atOrdinal, OidContainer.entryAtOrdinal, UInt16.toNat_toUInt32]

/-- **A teardown** is recorded, and resets the service; nothing else is written but the error
code. -/
theorem teardownService_ok {i : ℕ} {b b' : BackEnd} {e : Option BackEndException}
    (h : teardownService i b = .ok (b', e)) :
    (∃ ec, b' = { b with ec := ec }) ∧ b.serviceAt (UInt16.ofNat i) = none ∨
      ∃ services ec, (services = b.services ∨ services = b.services.setAt i none) ∧
        b' = { b.logCall (.teardown i) with services := services, ec := ec } := by
  unfold teardownService at h
  split at h
  · rename_i hnone
    cases h
    exact .inl ⟨⟨_, rfl⟩, hnone⟩
  · cases h
  · dsimp only at h
    split at h
    · cases h; exact .inr ⟨_, _, .inl rfl, rfl⟩
    · cases h; exact .inr ⟨_, _, .inr rfl, rfl⟩

end BackEnd

end RblRpc
