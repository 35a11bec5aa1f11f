import RblRpc.Backend.Steps

/-!
# The assertions of `ClientData`

`start_rpc`, `end_rpc` and `establish_client` assert.  Each is called in one place of a run: at the
start of a request, at its end, and by `hello`.

* `Quiet` — a computation that raises no fault of a kind.
* `runPosted_establishes` — the dispatch that raises one is a hello of an established client.
* `fire_clientFault` — **the steps that can raise one.**
* `fire_clientConnected` — **the steps that can raise the assertion of `disconnect`.**
-/

namespace RblRpc

open Transition BackEnd

/-- An assertion of `ClientData`. -/
def Fault.ofClientData : Fault → Bool
  | .assertion .startRpc | .assertion .endRpc | .assertion .establishClient
  | .assertion .resetInactive => true
  | _ => false

/-- An assertion of `ClientData`, or that of `BackEnd::disconnect`. -/
def Fault.ofClient : Fault → Bool
  | .assertion .clientConnected => true
  | f => f.ofClientData

theorem Fault.ofClient_of_clientData {f : Fault} (h : f.ofClientData = true) :
    f.ofClient = true := by
  cases f with
  | assertion a => cases a <;> first | rfl | exact h
  | _ => exact h

/-- A computation that raises no fault of a kind. -/
def Quiet (kind : Fault → Bool) {α : Type} (x : Except Fault α) : Prop :=
  ∀ f, x = .error f → kind f = false

namespace Quiet

variable {α β : Type} {kind : Fault → Bool}

theorem ok (a : α) : Quiet kind (.ok a : Except Fault α) := fun _ h => nomatch h

theorem error {f : Fault} (h : kind f = false) : Quiet kind (.error f : Except Fault α) := by
  intro f' hf
  cases hf
  exact h

/-- A sequence of quiet parts is quiet. -/
theorem bind {x : Except Fault α} {g : α → Except Fault β} (hx : Quiet kind x)
    (hg : ∀ a, x = .ok a → Quiet kind (g a)) : Quiet kind (x >>= g) := by
  intro f hf
  rcases bind_eq_error.mp hf with hf | ⟨a, ha, hf⟩
  · exact hx f hf
  · exact hg a ha f hf

theorem boostAssert {b : Bool} {a : Assertion} (h : kind (.assertion a) = false) :
    Quiet kind (boostAssert b a) := by
  cases b
  · exact error h
  · exact ok _

theorem mapM {f : α → Except Fault β} (h : ∀ a, Quiet kind (f a)) (l : List α) :
    Quiet kind (l.mapM f) := by
  induction l with
  | nil => exact .ok _
  | cons a l ih =>
    rw [List.mapM_cons]
    exact .bind (h a) fun _ _ => .bind ih fun _ _ => .ok _

/-- A computation that raises no fault of the kind is not one that ends with such a fault. -/
theorem ne_error {x : Except Fault α} {f : Fault} (hx : Quiet kind x) (hf : kind f = true) :
    x ≠ .error f := fun he => Bool.false_ne_true ((hx f he).symm.trans hf)

end Quiet

/-! ## The cookie store -/

namespace ClientServiceCookies

variable (cs : ClientServiceCookies) (o : UInt16) (k : ClientPtr)

theorem mapAt_quiet : Quiet Fault.ofClient (cs.mapAt o) := by
  unfold mapAt
  refine .bind (.boostAssert rfl) fun _ _ => ?_
  split
  · exact .error rfl
  · exact .error rfl
  · exact .ok _

theorem createOrRetrieveCookie_quiet : Quiet Fault.ofClient (cs.createOrRetrieveCookie o k) := by
  unfold createOrRetrieveCookie
  refine .bind (mapAt_quiet cs o) fun _ _ => ?_
  split <;> exact .ok _

theorem deleteCookie_quiet : Quiet Fault.ofClient (cs.deleteCookie o k) := by
  unfold deleteCookie
  refine .bind (mapAt_quiet cs o) fun _ _ => ?_
  split <;> exact .ok _

theorem setCookie_quiet (c : ClientCookie) : Quiet Fault.ofClient (cs.setCookie o k c) := by
  unfold setCookie
  split
  · exact .error rfl
  · split
    · exact .error rfl
    · exact .ok _

end ClientServiceCookies

/-! ## The members of the back end -/

namespace BackEnd

open ClientServiceCookies

theorem activateServices_quiet (is : List ℕ) (cs : ClientServiceCookies) :
    Quiet Fault.ofClient (activateServices is cs) := by
  induction is generalizing cs with
  | nil => exact .ok _
  | cons i is ih =>
    refine .bind ?_ fun cs' _ => ih cs'
    exact .bind (.boostAssert rfl) fun _ _ => .bind (.boostAssert rfl) fun _ _ => .ok _

theorem start_quiet (b : BackEnd) : Quiet Fault.ofClient b.start := by
  unfold start
  refine .bind (.boostAssert rfl) fun _ _ => ?_
  split
  · exact .ok _
  · refine .bind (.boostAssert rfl) fun _ _ => ?_
    refine .bind (.bind (.boostAssert rfl) fun _ _ => .ok _) fun cs _ => ?_
    exact .bind (activateServices_quiet _ cs) fun _ _ => .ok _

theorem disconnectService_quiet (c : ClientPtr) (reply : ℕ → ServiceReply) (i : ℕ) (b : BackEnd)
    (cd : ClientData) : Quiet Fault.ofClient (disconnectService c reply i b cd) := by
  unfold disconnectService
  refine .bind (createOrRetrieveCookie_quiet _ _ _) fun cs _ => ?_
  dsimp only
  split
  · exact .error rfl
  · refine .bind ?_ fun _ _ => .bind (deleteCookie_quiet _ _ _) fun _ _ => .ok _
    unfold unsubscribeClient
    split
    · split
      · exact .error rfl
      · exact .ok _
    · exact .ok _

theorem disconnectServices_quiet (c : ClientPtr) (reply : ℕ → ServiceReply) (is : List ℕ)
    (b : BackEnd) (cd : ClientData) : Quiet Fault.ofClient (disconnectServices c reply is b cd) := by
  induction is generalizing b cd with
  | nil => exact .ok _
  | cons i is ih => exact .bind (disconnectService_quiet _ _ _ _ _) fun p _ => ih p.1 p.2

theorem cleanUp_quiet (c : ClientPtr) (reply : ℕ → ServiceReply) (b : BackEnd) (cd : ClientData) :
    Quiet Fault.ofClient (cleanUp c reply b cd) := by
  unfold cleanUp
  split
  · exact disconnectServices_quiet _ _ _ _ _
  · exact .ok _

/-- **`disconnect` asserts that the client is connected**, and nothing else of a client. -/
theorem disconnect_fault {c : ClientPtr} {reply : ℕ → ServiceReply} {b : BackEnd} {cd : ClientData}
    {f : Fault} (h : b.disconnect c reply cd = .error f) (hf : f.ofClient = true) :
    f = .assertion .clientConnected ∧ c ∉ b.connectedClients := by
  unfold disconnect at h
  rcases bind_eq_error.mp h with h | ⟨⟨b₁, cd₁⟩, h₁, h⟩
  · exact absurd h ((cleanUp_quiet c reply b cd).ne_error hf)
  · have hclients : b₁.connectedClients = b.connectedClients := by
      unfold cleanUp at h₁
      split at h₁
      · obtain ⟨⟨cs, calls, rfl⟩, -⟩ := disconnectServices_ok h₁
        rfl
      · cases h₁
        rfl
    rcases bind_eq_error.mp h with h | ⟨_, -, h⟩
    · cases hmem : decide (c ∈ b₁.connectedClients) with
      | true =>
        rw [hmem] at h
        cases h
      | false =>
        rw [hmem] at h
        cases h
        exact ⟨rfl, hclients ▸ of_decide_eq_false hmem⟩
    · cases h

theorem disconnect_quiet (c : ClientPtr) (reply : ℕ → ServiceReply) (b : BackEnd)
    (cd : ClientData) : Quiet Fault.ofClientData (b.disconnect c reply cd) := by
  intro f h
  cases hf : f.ofClientData with
  | false => rfl
  | true =>
    obtain ⟨rfl, -⟩ := disconnect_fault h (Fault.ofClient_of_clientData hf)
    cases hf

theorem checkRequest_quiet (codec : BasicProtocolCodec) (c : ClientPtr) (b : BackEnd)
    (i : Invoker) : Quiet Fault.ofClient (b.checkRequest codec c i) := by
  unfold checkRequest
  dsimp only
  split
  · exact .ok _
  · exact .error rfl
  · split
    · exact .ok _
    · refine .bind (createOrRetrieveCookie_quiet _ _ _) fun cs _ => ?_
      split
      · exact .ok _
      · split
        · split <;> exact .ok _
        · split <;> exact .ok _

theorem teardownService_quiet (i : ℕ) (b : BackEnd) : Quiet Fault.ofClient (b.teardownService i) := by
  unfold teardownService
  split
  · exact .ok _
  · exact .error rfl
  · dsimp only
    split <;> exact .ok _

end BackEnd

/-! ## The methods of `basic_protocol` -/

namespace BasicProtocolImpl

open ClientServiceCookies

theorem listServices_quiet (b : BackEnd) : Quiet Fault.ofClient (listServices b) := by
  unfold listServices
  refine .bind (.mapM (fun i => ?_) _) fun _ _ => .ok _
  split
  · exact .error rfl
  · exact .ok _

theorem rpcSubscribeService_quiet (c : ClientPtr) (reply : ServiceReply) (b : BackEnd)
    (cd : ClientData) (req : SubscribeServiceRequest) :
    Quiet Fault.ofClient (rpcSubscribeService c reply b cd req) := by
  unfold rpcSubscribeService
  split
  · exact .ok _
  · refine .bind (createOrRetrieveCookie_quiet _ _ _) fun cs _ => ?_
    dsimp only
    split
    · exact .ok _
    · split
      · exact .error rfl
      · exact .error rfl
      · exact .bind (setCookie_quiet _ _ _ _) fun _ _ => .ok _

theorem rpcUnsubscribeService_quiet (c : ClientPtr) (reply : ServiceReply) (b : BackEnd)
    (cd : ClientData) (req : UnsubscribeServiceRequest) :
    Quiet Fault.ofClient (rpcUnsubscribeService c reply b cd req) := by
  unfold rpcUnsubscribeService
  split
  · exact .ok _
  · refine .bind (createOrRetrieveCookie_quiet _ _ _) fun cs _ => ?_
    dsimp only
    split
    · exact .ok _
    · split
      · exact .error rfl
      · exact .error rfl
      · exact .bind (deleteCookie_quiet _ _ _) fun _ _ => .ok _

theorem produceMethodList_quiet (s : Service) : Quiet Fault.ofClient s.produceMethodList := by
  unfold Service.produceMethodList ffProduceMethodList
  split <;>
  · refine .mapM (fun i => ?_) _
    split
    · exact .error rfl
    · exact .ok _

theorem listMethods_quiet (b : BackEnd) (cd : ClientData) (req : ListMethodsRequest) :
    Quiet Fault.ofClient (listMethods b cd req) := by
  unfold listMethods
  split
  · exact .ok _
  · split
    · exact .error rfl
    · exact .error rfl
    · exact .bind (produceMethodList_quiet _) fun _ _ => .ok _

/-- `hello` asserts that the client is not established. -/
theorem hello_error {b : BackEnd} {cd : ClientData} {hr : HelloRequest} {f : Fault}
    (h : hello b cd hr = .error f) :
    f = .assertion .establishClient ∧ cd.clientEstablished = true := by
  unfold hello at h
  split at h
  · cases h
  · split at h
    · cases h
    · rcases bind_eq_error.mp h with h | ⟨_, -, h⟩
      · simp only [ClientData.establishClient] at h
        cases hest : cd.clientEstablished with
        | true =>
          rw [hest] at h
          cases h
          exact ⟨rfl, rfl⟩
        | false =>
          rw [hest] at h
          cases h
      · cases h

end BasicProtocolImpl

/-- A generated dispatch function is as quiet as its method. -/
theorem runMethod_quiet {I O : Type} {input : MessageCodec I} {output : MessageCodec O}
    {impl : BackEnd → ClientData → I → Except Fault (BackEnd × ClientData × O)}
    {b : BackEnd} {cd : ClientData} (h : ∀ req, Quiet Fault.ofClient (impl b cd req)) :
    Quiet Fault.ofClient (runMethod input output impl b cd) := by
  unfold runMethod
  split
  · exact .ok _
  · exact .bind (h _) fun _ _ => .ok _

theorem dispatchBasic_quiet {codec : BasicProtocolCodec} {c : ClientPtr} {reply : ServiceReply}
    {m : BasicMethod} (hm : m ≠ .hello) (b : BackEnd) (cd : ClientData) :
    Quiet Fault.ofClient (dispatchBasic codec c reply m b cd) := by
  cases m
  case hello => exact absurd rfl hm
  case listServices =>
    simp only [dispatchBasic]
    refine runMethod_quiet fun _ => ?_
    exact .bind (BasicProtocolImpl.listServices_quiet b) fun _ _ => .ok _
  case rpcSubscribeService =>
    exact runMethod_quiet fun req => BasicProtocolImpl.rpcSubscribeService_quiet c reply b cd req
  case rpcUnsubscribeService =>
    exact runMethod_quiet fun req => BasicProtocolImpl.rpcUnsubscribeService_quiet c reply b cd req
  case listMethods =>
    simp only [dispatchBasic]
    refine runMethod_quiet fun req => ?_
    exact .bind (BasicProtocolImpl.listMethods_quiet b cd req) fun _ _ => .ok _

theorem dispatchApplication_quiet (o : UInt16) (c : ClientPtr) (reply : ServiceReply) (b : BackEnd)
    (cd : ClientData) : Quiet Fault.ofClient (dispatchApplication o c reply b cd) := by
  unfold dispatchApplication
  split
  · exact .ok _
  · split
    · exact .error rfl
    · exact .bind (ClientServiceCookies.setCookie_quiet _ _ _ _) fun _ _ => .ok _

/-! ## The steps -/

/-- The dispatch of an invoker runs `BasicProtocolImpl::hello`. -/
def RunsHello (codec : BasicProtocolCodec) (b : BackEnd) (i : Invoker) : Prop :=
  (∃ s, b.serviceAt i.service = some (some s) ∧ s.impl = .basicProtocol) ∧
    requestedMethod i.clientData.request = some .hello ∧
    (codec.helloRequest.parseFromString i.clientData.request.requestString).1 = true

/-- **A dispatch that raises an assertion about its client** is a hello of an established one. -/
theorem runPosted_clientFault {codec : BasicProtocolCodec} {c : ClientPtr} {reply : ServiceReply}
    {b : BackEnd} {i : Invoker} {f : Fault} (h : b.runPosted codec c reply i = .error f)
    (hf : f.ofClient = true) : f = .assertion .establishClient ∧ RunsHello codec b i ∧
      i.clientData.clientEstablished = true := by
  have hquiet : ∀ {α : Type} {x : Except Fault α}, Quiet Fault.ofClient x → x ≠ .error f :=
    fun hx => hx.ne_error hf
  unfold runPosted at h
  split at h
  · rename_i s hs
    rcases bind_eq_error.mp h with h | ⟨_, -, h⟩
    · unfold Service.dispatch at h
      split at h
      · rename_i himpl
        rw [basicProtocolTable_atOrdinal] at h
        split at h
        · exact absurd h (hquiet (.error rfl))
        · rename_i m hm
          by_cases hhello : m = .hello
          · subst hhello
            -- the request string parsed, and `establish_client` asserted
            simp only [dispatchBasic, runMethod] at h
            split at h
            · cases h
            · rename_i hparse
              rcases bind_eq_error.mp h with h | ⟨_, -, h⟩
              · rcases bind_eq_error.mp h with h | ⟨_, -, h⟩
                · obtain ⟨rfl, hest⟩ := BasicProtocolImpl.hello_error h
                  exact ⟨rfl, ⟨⟨s, hs, himpl⟩, hm, by rw [hparse]⟩, hest⟩
                · cases h
              · cases h
          · exact absurd h (hquiet (dispatchBasic_quiet hhello _ _))
      · split at h
        · exact absurd h (hquiet (.error rfl))
        · exact absurd h (hquiet (dispatchApplication_quiet _ _ _ _ _))
    · cases h
  · exact absurd h (hquiet (.error rfl))

namespace World

variable {codec : BasicProtocolCodec} {w : World} {c : ClientPtr}

theorem stepInvoker_error {f : BackEnd → Invoker → Except Fault (BackEnd × Invoker)} {e : Fault}
    (h : stepInvoker c f w = .error e) : f w.backEnd (w.invokers c) = .error e := by
  rcases bind_eq_error.mp h with h | ⟨_, -, h⟩
  · exact h
  · cases h

theorem stepInvoker_quiet {kind : Fault → Bool}
    {f : BackEnd → Invoker → Except Fault (BackEnd × Invoker)}
    (h : Quiet kind (f w.backEnd (w.invokers c))) : Quiet kind (stepInvoker c f w) :=
  fun e he => h e (stepInvoker_error he)

/-- The assertion of `disconnect` fails only for a client that is not connected. -/
theorem disconnect_fault {reply : ℕ → ServiceReply} {f : Fault}
    (h : w.disconnect c reply = .error f) (hf : f.ofClient = true) :
    f = .assertion .clientConnected ∧ c ∉ w.backEnd.connectedClients := by
  rcases bind_eq_error.mp (stepInvoker_error h) with h | ⟨_, -, h⟩
  · exact BackEnd.disconnect_fault h hf
  · cases h

theorem disconnect_quiet (reply : ℕ → ServiceReply) :
    Quiet Fault.ofClientData (w.disconnect c reply) :=
  stepInvoker_quiet (.bind (BackEnd.disconnect_quiet _ _ _ _) fun _ _ => .ok _)

theorem disconnectClients_quiet (cs : List (ClientPtr × (ℕ → ServiceReply))) (w : World) :
    Quiet Fault.ofClientData (disconnectClients cs w) := by
  induction cs generalizing w with
  | nil => exact .ok _
  | cons p cs ih => exact .bind (disconnect_quiet p.2) fun w' _ => ih w'

theorem signalManagers_quiet (reply : ManagerId → ManagerReply) (ms : List ManagerId) (w : World) :
    Quiet Fault.ofClientData (signalManagers reply ms w) := by
  induction ms generalizing w with
  | nil => exact .ok _
  | cons m ms ih =>
    refine .bind (.bind (disconnectClients_quiet _ w) fun _ _ => ?_) fun w' _ => ?_
    · split <;> exact .ok _
    · split
      · exact .ok _
      · exact ih w'

theorem managerStage_quiet : Quiet Fault.ofClient w.managerStage := by
  unfold managerStage
  split
  · dsimp only
    split
    · exact .bind (.boostAssert rfl) fun _ _ => .ok _
    · exact .ok _
  · exact .ok _

theorem teardownStage_quiet : Quiet Fault.ofClient w.teardownStage := by
  unfold teardownStage
  split
  · split
    · refine .bind (teardownService_quiet _ _) fun p _ => ?_
      split <;> exact .ok _
    · exact .ok _
  · exact .ok _

/-- **The steps that raise an assertion of `ClientData`**: the start of a request, its end, and the
dispatch of a hello of an established client. -/
theorem fire_clientFault {l : Label} {f : Fault} (h : fire codec w l = .error f)
    (hf : f.ofClientData = true) : (∃ c resets r, l = .request c resets r) ∨
      (∃ c, l = .finish c) ∨ f = .assertion .establishClient ∧ ∃ c reply, l = .run c reply ∧
        RunsHello codec w.backEnd (w.invokers c) ∧ (w.data c).clientEstablished = true := by
  have hclient := Fault.ofClient_of_clientData hf
  have hquiet : ∀ {α : Type} {x : Except Fault α}, Quiet Fault.ofClient x → x ≠ .error f :=
    fun hx => hx.ne_error hclient
  cases l
  case start =>
    exact absurd h (hquiet (.bind (start_quiet _) fun _ _ => .ok _))
  case disconnect c reply => exact absurd h ((disconnect_quiet reply).ne_error hf)
  case request c resets r => exact .inl ⟨c, resets, r, rfl⟩
  case check c => exact absurd h (hquiet (stepInvoker_quiet (checkRequest_quiet _ _ _ _)))
  case run c reply =>
    obtain ⟨hfault, hhello, hest⟩ := runPosted_clientFault (stepInvoker_error h) hclient
    exact .inr (.inr ⟨hfault, c, reply, rfl, hhello, hest⟩)
  case finish c => exact .inr (.inl ⟨c, rfl⟩)
  case signalStage reply =>
    have hsignal : Quiet Fault.ofClientData (w.signalStage reply) :=
      .bind (signalManagers_quiet _ _ w) fun _ _ => .ok _
    exact absurd h (hsignal.ne_error hf)
  case managerStage => exact absurd h (hquiet managerStage_quiet)
  case teardownStage => exact absurd h (hquiet teardownStage_quiet)
  all_goals cases h

theorem request_quiet {kind : Fault → Bool} {resets : Bool} {r : ClientRequest}
    (hreset : kind (.assertion .resetInactive) = false) (hstart : kind (.assertion .startRpc) = false) :
    Quiet kind (w.request c resets r) := by
  refine stepInvoker_quiet (.bind ?_ fun i _ => .bind ?_ fun _ _ => .ok _)
  · cases resets with
    | false => exact .ok _
    | true => exact .bind (.boostAssert hreset) fun _ _ => .ok _
  · unfold beginInvoke
    dsimp only
    split
    · exact .bind (.bind (.boostAssert hstart) fun _ _ => .ok _) fun _ _ => .ok _
    · exact .ok _

theorem finish_quiet {kind : Fault → Bool} (hend : kind (.assertion .endRpc) = false) :
    Quiet kind (w.finish c) :=
  stepInvoker_quiet (.bind (.bind (.bind (.boostAssert hend) fun _ _ => .ok _) fun _ _ => .ok _)
    fun _ _ => .ok _)

/-- **The steps that raise the assertion of `disconnect`**: the disconnection of a client that is
not connected, and the signal. -/
theorem fire_clientConnected {l : Label} (h : fire codec w l = .error (.assertion .clientConnected)) :
    (∃ c reply, l = .disconnect c reply ∧ c ∉ w.backEnd.connectedClients) ∨ l.signals = true := by
  have hquiet : ∀ {α : Type} {x : Except Fault α}, Quiet Fault.ofClient x →
      x ≠ .error (.assertion .clientConnected) := fun hx => hx.ne_error rfl
  let kind : Fault → Bool
    | .assertion .clientConnected => true
    | _ => false
  have hcalls : ∀ {c}, (∀ resets r, w.request c resets r ≠ .error (.assertion .clientConnected)) ∧
      w.finish c ≠ .error (.assertion .clientConnected) := fun {c} =>
    ⟨fun resets r => (request_quiet rfl rfl : Quiet kind (w.request c resets r)).ne_error rfl,
      (finish_quiet rfl : Quiet kind (w.finish c)).ne_error rfl⟩
  cases l
  case start =>
    exact absurd h (hquiet (.bind (start_quiet _) fun _ _ => .ok _))
  case disconnect c reply => exact .inl ⟨c, reply, rfl, (disconnect_fault h rfl).2⟩
  case request c resets r => exact absurd h (hcalls.1 resets r)
  case check c => exact absurd h (hquiet (stepInvoker_quiet (checkRequest_quiet _ _ _ _)))
  case run c reply => exact nomatch (runPosted_clientFault (stepInvoker_error h) rfl).1
  case finish c => exact absurd h hcalls.2
  case signalStage reply => exact .inr rfl
  case managerStage => exact absurd h (hquiet managerStage_quiet)
  case teardownStage => exact absurd h (hquiet teardownStage_quiet)
  all_goals cases h

end World

end RblRpc
