import RblRpc.Backend.Disconnection
import RblRpc.Client.Factory

/-!
# A loss-free transport

A client whose requests reach the back end and whose responses come back, whole and in turn.  An
exchange is a run of the back end: `invoke` accepts the request and checks it, a pool thread takes
and dispatches it, and the response of the server's client data is the client's.  In process both
are one object, which `reset` clears first; over a connection they are not (`resets`).

* `World.exchange` — the exchange; `exchange_reaches`: it is a run of the back end.
* `exchange_ok` — **it is refused, turned down, or dispatched**, and what it leaves.
* `lossFree` — the transport as an `InvokerBase`.
-/

namespace RblRpc

open Transition BackEnd

/-- Where an exchange ends without a response: the back end faults, or an operation cannot take
place, so that the client waits for ever. -/
inductive LinkFault where
  | backEnd (f : Fault)
  | stuck
  deriving DecidableEq

namespace World

variable {codec : BasicProtocolCodec} {c : ClientPtr} {resets : Bool} {r : ClientRequest}
  {reply : ServiceReply} {w w' : World} {res : ClientResponse}

/-- The next operation on the back end. -/
def attempt (codec : BasicProtocolCodec) (l : Label) (w : World) : Except LinkFault World :=
  if w.enabled l then (w.fire codec l).mapError .backEnd else .error .stuck

/-- A request of `c` that runs to its end: the response, and the world. -/
def exchange (codec : BasicProtocolCodec) (c : ClientPtr) (resets : Bool) (r : ClientRequest)
    (reply : ServiceReply) (w : World) : Except LinkFault (ClientResponse × World) := do
  let w ← w.attempt codec (.request c resets r)
  if w.stage c = .idle then return ((w.data c).response, w)
  else
    let w ← w.attempt codec (.check c)
    if w.stage c = .rejected then
      let w ← w.attempt codec (.finish c)
      return ((w.data c).response, w)
    else
      let w ← w.attempt codec (.take c)
      let w ← w.attempt codec (.run c reply)
      let w ← w.attempt codec (.finish c)
      return ((w.data c).response, w)

theorem attempt_eq_ok {l : Label} :
    w.attempt codec l = .ok w' ↔ w.enabled l = true ∧ w.fire codec l = .ok w' := by
  unfold attempt
  split
  · rename_i hg
    cases w.fire codec l <;> simp [Except.mapError, hg]
  · rename_i hg
    simp [hg]

theorem attempt_reaches {l : Label} (h : w.attempt codec l = .ok w') :
    (backEndMachine codec).Reaches w w' := by
  obtain ⟨hg, hf⟩ := attempt_eq_ok.mp h
  exact ⟨_, .step hg hf (.done w')⟩

/-- The parts of an exchange that succeeded. -/
theorem exchange_eq_ok (h : w.exchange codec c resets r reply = .ok (res, w')) :
    ∃ w₁, w.attempt codec (.request c resets r) = .ok w₁ ∧
      (w₁.stage c = .idle ∧ w' = w₁ ∧ res = (w₁.data c).response ∨
      w₁.stage c ≠ .idle ∧ ∃ w₂, w₁.attempt codec (.check c) = .ok w₂ ∧
        (w₂.stage c = .rejected ∧ w₂.attempt codec (.finish c) = .ok w' ∨
        w₂.stage c ≠ .rejected ∧ ∃ w₃ w₄, w₂.attempt codec (.take c) = .ok w₃ ∧
          w₃.attempt codec (.run c reply) = .ok w₄ ∧ w₄.attempt codec (.finish c) = .ok w') ∧
        res = (w'.data c).response) := by
  unfold exchange at h
  obtain ⟨w₁, h₁, h⟩ := bind_eq_ok.mp h
  refine ⟨w₁, h₁, ?_⟩
  split at h
  · rename_i hidle
    cases h
    exact .inl ⟨hidle, rfl, rfl⟩
  · rename_i hidle
    obtain ⟨w₂, h₂, h⟩ := bind_eq_ok.mp h
    refine .inr ⟨hidle, w₂, h₂, ?_⟩
    split at h
    · rename_i hrej
      obtain ⟨w₃, h₃, h⟩ := bind_eq_ok.mp h
      cases h
      exact ⟨.inl ⟨hrej, h₃⟩, rfl⟩
    · rename_i hrej
      obtain ⟨w₃, h₃, h⟩ := bind_eq_ok.mp h
      obtain ⟨w₄, h₄, h⟩ := bind_eq_ok.mp h
      obtain ⟨w₅, h₅, h⟩ := bind_eq_ok.mp h
      cases h
      exact ⟨.inr ⟨hrej, w₃, w₄, h₃, h₄, h₅⟩, rfl⟩

/-- **An exchange is a run of the back end.** -/
theorem exchange_reaches (h : w.exchange codec c resets r reply = .ok (res, w')) :
    (backEndMachine codec).Reaches w w' := by
  obtain ⟨w₁, h₁, ⟨-, rfl, -⟩ | ⟨-, w₂, h₂, hrest, -⟩⟩ := exchange_eq_ok h
  · exact attempt_reaches h₁
  · refine (attempt_reaches h₁).trans ((attempt_reaches h₂).trans ?_)
    rcases hrest with ⟨-, h₃⟩ | ⟨-, w₃, w₄, h₃, h₄, h₅⟩
    · exact attempt_reaches h₃
    · exact (attempt_reaches h₃).trans ((attempt_reaches h₄).trans (attempt_reaches h₅))

/-! ## What an exchange leaves -/

@[simp] theorem data_setInvoker_self (i : Invoker) : (w.setInvoker c i).data c = i.clientData := by
  rw [data, setInvoker_self]

/-- The response that `invoke` starts from. -/
theorem request_response (h : w.request c resets r = .ok w') :
    (w'.stage c = .accepted ∧ (w'.data c).response.error = some .requestSuccess ∧
        (w'.data c).errorCode = {}) ∨
      w'.stage c = .idle ∧
        (w'.data c).response.getError = .requestBackendNotAcceptingRequests := by
  obtain ⟨b, i, hf, rfl⟩ := stepInvoker_ok.mp h
  obtain ⟨i₁, hprep, hf⟩ := bind_eq_ok.mp hf
  obtain ⟨⟨started, b₁, cd₁⟩, hbegin, hret⟩ := bind_eq_ok.mp hf
  cases hret
  rw [data_setInvoker_self, stage_setInvoker_self]
  unfold beginInvoke at hbegin
  dsimp only at hbegin
  split at hbegin
  · obtain ⟨cd₂, hcd₂, hret⟩ := bind_eq_ok.mp hbegin
    cases hret
    obtain ⟨-, rfl⟩ := ClientData.startRpc_eq_ok.mp hcd₂
    exact .inl ⟨rfl, rfl, rfl⟩
  · cases hbegin
    exact .inr ⟨rfl, rfl⟩

/-- The client data the server has for a request `r` of `c`. -/
def received (c : ClientPtr) (r : ClientRequest) (w : World) : ClientData :=
  { w.data c with request := r }

/-- A request that is not dispatched: it was refused or failed a check.  The response says so, but
for a second hello. -/
structure TurnedDown (codec : BasicProtocolCodec) (c : ClientPtr) (r : ClientRequest) (w : World)
    (res : ClientResponse) (w' : World) : Prop where
  reason : w.state.acceptingRequests = true → ¬Admitted c w.backEnd (w.received c r) ∧
    w.backEnd.serviceAt r.serviceOrdinal.toUInt16 ≠ some none
  response : res.getError ≠ .requestSuccess ∨ r.isHello ∧ res.getResponseString =
    (codec.helloResponse.serializeToString { errorType := some .clientAllreadyEstablished }).getD []
  identity : SameIdentity (w.data c) (w'.data c)
  subscriptions : ∀ s k, w'.backEnd.clientServiceCookies.isSubscribed s k =
    w.backEnd.clientServiceCookies.isSubscribed s k

/-- A request that is dispatched: service `s` runs on the back end `b`, which has the services of
`w` and its subscriptions, and leaves `b'` and `cd'`. -/
structure Ran (codec : BasicProtocolCodec) (c : ClientPtr) (r : ClientRequest)
    (reply : ServiceReply) (w : World) (res : ClientResponse) (w' : World) (s : Service)
    (b b' : BackEnd) (cd cd' : ClientData) : Prop where
  accepting : w.state.acceptingRequests = true
  running : w.backEnd.ioService.stopped = false
  admitted : Admitted c w.backEnd (w.received c r)
  service : w.backEnd.serviceAt r.serviceOrdinal.toUInt16 = some (some s)
  dispatch : s.dispatch codec r.serviceOrdinal.toUInt16 c reply b cd = .ok (b', cd')
  services : b.services = w.backEnd.services
  subscriptions : ∀ s k, b.clientServiceCookies.isSubscribed s k =
    w.backEnd.clientServiceCookies.isSubscribed s k
  types : b.sourceType = w.backEnd.sourceType ∧ b.backendType = w.backEnd.backendType
  request : cd.request = r
  identity : SameIdentity (w.data c) cd
  noError : cd.response.error = some .requestSuccess ∧ cd.errorCode = {}
  response : res = cd'.response
  cookies : w'.backEnd.clientServiceCookies = b'.clientServiceCookies
  established : (w'.data c).clientEstablished = cd'.clientEstablished

theorem finish_idle (h : w.finish c = .ok w') : w'.stage c = .idle := by
  obtain ⟨-, rfl⟩ := finish_ok h
  exact stage_setInvoker_self _

/-- The request `r` was accepted; `b` and `i` are what the checks start from. -/
structure Accepted (r : ClientRequest) (c : ClientPtr) (w : World) (b : BackEnd) (i : Invoker) :
    Prop where
  accepting : w.state.acceptingRequests = true
  backEnd : ∃ s, b = w.backEnd.setState s
  request : i.clientData.request = r
  identity : SameIdentity (w.data c) i.clientData
  noError : i.clientData.response.error = some .requestSuccess ∧ i.clientData.errorCode = {}

theorem Accepted.admitted {b : BackEnd} {i : Invoker} (h : Accepted r c w b i) :
    Admitted c b i.clientData ↔ Admitted c w.backEnd (w.received c r) := by
  obtain ⟨s, rfl⟩ := h.backEnd
  constructor
  · intro ha
    exact ha.congr rfl (fun _ => rfl) h.request.symm h.identity.clientEstablished.symm
  · intro ha
    exact ha.congr rfl (fun _ => rfl) h.request h.identity.clientEstablished

/-- An accepted request that fails a check. -/
theorem Accepted.turnedDown {b b₂ : BackEnd} {i i₂ : Invoker} (h : Accepted r c w b i)
    (hcheck : b.checkRequest codec c i = .ok (b₂, i₂)) (hrej : i₂.stage = .rejected)
    {w₂ : World} (hw₂ : w₂.backEnd = b₂ ∧ w₂.invokers c = i₂) (hfinish : w₂.finish c = .ok w') :
    TurnedDown codec c r w (w'.data c).response w' := by
  obtain ⟨hnot, hlive, hresp⟩ := checkRequest_rejected hcheck hrej
  obtain ⟨cs, -, hsub, ⟨-, rfl, -, hid⟩ | ⟨-, -, rfl⟩⟩ := checkRequest_ok hcheck
  · obtain ⟨-, rfl⟩ := finish_ok hfinish
    have hdata : w₂.data c = i₂.clientData := by rw [data, hw₂.2]
    obtain ⟨s, rfl⟩ := h.backEnd
    rw [h.request] at hlive
    refine ⟨fun _ => ⟨fun ha => hnot (h.admitted.mpr ha), hlive⟩, ?_, ?_, fun s k => ?_⟩
    · rw [data_setInvoker_self, hdata]
      refine hresp.imp id ?_
      rintro ⟨h0, h1, heq⟩
      rw [h.request] at h0 h1
      exact ⟨⟨h0, h1⟩, by rw [heq]; rfl⟩
    · rw [data_setInvoker_self, hdata]
      exact h.identity.trans ⟨hid.name, hid.clientEstablished⟩
    · rw [setInvoker_backEnd, setBackEnd_backEnd, hw₂.1]
      exact hsub s k
  · cases hrej

/-- An accepted request that passes the checks, is taken and runs. -/
theorem Accepted.ran {b b₂ : BackEnd} {i i₂ : Invoker} (h : Accepted r c w b i)
    (hrunning : w.backEnd.ioService.stopped = false)
    (hcheck : b.checkRequest codec c i = .ok (b₂, i₂)) (hposted : i₂.stage ≠ .rejected)
    {w₂ w₃ w₄ : World} (hw₂ : w₂.backEnd = b₂ ∧ w₂.invokers c = i₂)
    (htake : w₂.take c = .ok w₃)
    (hrun : w₃.stepInvoker c (fun b i => b.runPosted codec c reply i) = .ok w₄)
    (hfinish : w₄.finish c = .ok w') :
    ∃ s b b' cd cd', Ran codec c r reply w (w'.data c).response w' s b b' cd cd' := by
  obtain ⟨cs, -, hsub, ⟨hrej, -⟩ | ⟨hadm, hb₂, hi₂⟩⟩ := checkRequest_ok hcheck
  · exact absurd hrej hposted
  · obtain ⟨t, hb⟩ := h.backEnd
    -- a pool thread takes the request: only the queue and the stage change
    obtain ⟨b₃, i₃, ht, rfl⟩ := stepInvoker_ok.mp htake
    rw [hw₂.1, hw₂.2] at ht
    obtain ⟨hb₃, hi₃⟩ := Prod.mk.inj (Except.ok.inj ht)
    have hdata : i₃.clientData = i.clientData := by rw [← hi₃, hi₂]
    have hservice : i₃.service = r.serviceOrdinal.toUInt16 := by rw [← hi₃, hi₂, h.request]
    have hcookie : i₃.clientCookie = r.serviceOrdinal.toUInt16 := by rw [← hi₃, hi₂, h.request]
    have hservices : b₃.services = w.backEnd.services := by rw [← hb₃, hb₂, hb]; rfl
    have hcookies : b₃.clientServiceCookies = cs := by rw [← hb₃, hb₂]; rfl
    have htypes : b₃.sourceType = w.backEnd.sourceType ∧ b₃.backendType = w.backEnd.backendType := by
      rw [← hb₃, hb₂, hb]
      exact ⟨rfl, rfl⟩
    -- and dispatches it
    obtain ⟨b₄, i₄, hr, rfl⟩ := stepInvoker_ok.mp hrun
    simp only [setInvoker_backEnd, setBackEnd_backEnd, setInvoker_self] at hr
    obtain ⟨-, rfl⟩ := finish_ok hfinish
    obtain ⟨s, cd', hs, hd, hi₄⟩ := runPosted_dispatch hr
    rw [hdata, hcookie] at hd
    refine ⟨s, b₃.logCall (.dispatch i₃.service.toNat c), b₄, i.clientData, cd', h.accepting,
      hrunning, h.admitted.mp hadm, ?_, hd, hservices, fun s' k => ?_, htypes, h.request, h.identity,
      h.noError, ?_, ?_, ?_⟩
    · rw [hservice, serviceAt, hservices] at hs
      exact hs
    · rw [show (b₃.logCall _).clientServiceCookies = cs from hcookies, hsub, hb]
      rfl
    · rw [data_setInvoker_self, data_setInvoker_self, hi₄]
    · rw [setInvoker_backEnd, setBackEnd_backEnd, setInvoker_backEnd, setBackEnd_backEnd]
      rfl
    · rw [data_setInvoker_self, data_setInvoker_self, hi₄]

/-- **What an exchange leaves.** -/
theorem exchange_ok (h : w.exchange codec c resets r reply = .ok (res, w')) :
    SameControl w w' ∧ w'.stage c = .idle ∧
      (TurnedDown codec c r w res w' ∨
        ∃ s b b' cd cd', Ran codec c r reply w res w' s b b' cd cd') := by
  obtain ⟨w₁, h₁, hcase⟩ := exchange_eq_ok h
  obtain ⟨-, hf₁⟩ := attempt_eq_ok.mp h₁
  have hctl₁ : SameControl w w₁ := fire_sameControl rfl hf₁
  have hresp := request_response hf₁
  obtain ⟨b₁, i₁, rfl, hreq₁, hid₁, hstart⟩ := request_ok hf₁
  rw [data_setInvoker_self, stage_setInvoker_self] at hresp
  rw [stage_setInvoker_self, data_setInvoker_self] at hcase
  rcases hcase with ⟨hidle, rfl, rfl⟩ | ⟨hbusy, w₂, h₂, hcase, rfl⟩
  · -- the back end does not accept requests
    rcases hstart with ⟨-, -, -, hacc, -⟩ | ⟨hnot, rfl, -, -⟩
    · exact nomatch hidle.symm.trans hacc
    · rcases hresp with ⟨hacc, -⟩ | ⟨-, herr⟩
      · exact nomatch hidle.symm.trans hacc
      · refine ⟨hctl₁, (stage_setInvoker_self _).trans hidle, .inl ⟨fun ha => ?_, .inl ?_, ?_,
          fun _ _ => rfl⟩⟩
        · exact nomatch hnot.symm.trans ha
        · rw [herr]
          exact fun he => nomatch he
        · rw [data_setInvoker_self]
          exact hid₁
  · have hacc : Accepted r c w b₁ i₁ := by
      rcases hresp with ⟨-, herr⟩ | ⟨hidle, -⟩
      · rcases hstart with ⟨ha, -, hb, -, -⟩ | ⟨-, -, hidle, -⟩
        · exact ⟨ha, ⟨_, hb⟩, hreq₁, hid₁, herr⟩
        · exact absurd hidle hbusy
      · exact absurd hidle hbusy
    obtain ⟨-, hf₂⟩ := attempt_eq_ok.mp h₂
    have hctl₂ := hctl₁.trans (fire_sameControl rfl hf₂)
    obtain ⟨b₂, i₂, hcheck, rfl⟩ := stepInvoker_ok.mp hf₂
    simp only [setInvoker_backEnd, setBackEnd_backEnd, setInvoker_self] at hcheck
    rw [stage_setInvoker_self] at hcase
    rcases hcase with ⟨hrej, h₃⟩ | ⟨hposted, w₃, w₄, h₃, h₄, h₅⟩
    · obtain ⟨-, hf₃⟩ := attempt_eq_ok.mp h₃
      exact ⟨hctl₂.trans (fire_sameControl rfl hf₃), finish_idle hf₃,
        .inl (hacc.turnedDown hcheck hrej ⟨rfl, setInvoker_self _⟩ hf₃)⟩
    · obtain ⟨hg₃, hf₃⟩ := attempt_eq_ok.mp h₃
      obtain ⟨-, hf₄⟩ := attempt_eq_ok.mp h₄
      obtain ⟨-, hf₅⟩ := attempt_eq_ok.mp h₅
      have hrunning : w.backEnd.ioService.stopped = false := by
        rw [← hctl₂.stopped]
        simp only [enabled, Bool.and_eq_true, Bool.not_eq_true'] at hg₃
        exact hg₃.1.2
      exact ⟨((hctl₂.trans (fire_sameControl rfl hf₃)).trans (fire_sameControl rfl hf₄)).trans
          (fire_sameControl rfl hf₅), finish_idle hf₅,
        .inr (hacc.ran hrunning hcheck hposted ⟨rfl, setInvoker_self _⟩ hf₃ hf₄ hf₅)⟩

end World

/-! ## The transport -/

/-- The client's request and response, and the back end. -/
structure ServerLink where
  world : World
  request : ClientRequest := {}
  response : ClientResponse := {}

/-- The transport of client `c`.  `reply` is what the service does in the next call. -/
def lossFree (codec : BasicProtocolCodec) (c : ClientPtr) (resets : Bool) (reply : ServiceReply) :
    InvokerBase LinkFault ServerLink where
  isUseable l := l.world.backEnd.isSealed
  reset l := .ok { l with request := {}, response := {} }
  setRequest r l := { l with request := r }
  invoke l := do
    let (res, w) ← l.world.exchange codec c resets l.request reply
    return (false, { l with world := w, response := res })
  response l := l.response

variable {codec : BasicProtocolCodec} {c : ClientPtr} {resets : Bool} {r : ClientRequest}
  {reply : ServiceReply} {w w' : World} {res : ClientResponse} {l l' : ServerLink}

theorem exchange_lossFree (h : (lossFree codec c resets reply).exchange r l = .ok (res, l')) :
    l.world.exchange codec c resets r reply = .ok (res, l'.world) := by
  obtain ⟨l₁, hreset, h⟩ := bind_eq_ok.mp h
  cases hreset
  obtain ⟨⟨b, l₂⟩, hinvoke, hret⟩ := bind_eq_ok.mp h
  cases hret
  obtain ⟨⟨res', w'⟩, hex, hret⟩ := bind_eq_ok.mp hinvoke
  cases hret
  exact hex

/-- What holds between the calls of a client that has been established. -/
structure Serving (c : ClientPtr) (w : World) : Prop where
  sound : World.Sound w
  accepting : w.state.acceptingRequests = true
  established : (w.data c).clientEstablished = true

/-- An exchange takes `w` to `w'`. -/
structure Advances (codec : BasicProtocolCodec) (c : ClientPtr) (w w' : World) : Prop where
  serving : Serving c w'
  control : World.SameControl w w'
  reaches : (backEndMachine codec).Reaches w w'

open World

theorem Serving.advances (h : Serving c w)
    (hex : w.exchange codec c resets r reply = .ok (res, w')) : Advances codec c w w' := by
  have hreach := exchange_reaches hex
  obtain ⟨hctl, -, hcase⟩ := exchange_ok hex
  refine ⟨⟨?_, hctl.acceptingRequests.trans h.accepting, ?_⟩, hctl, hreach⟩
  · exact hreach.invariant (fun _ _ _ hI hg hf => hI.step hg hf) h.sound
  · rcases hcase with hdown | ⟨s, b, b', cd, cd', hran⟩
    · exact hdown.identity.clientEstablished.trans h.established
    · rw [hran.established]
      rcases (dispatch_ok hran.dispatch).identity with hid | ⟨-, -, hest⟩
      · exact hid.clientEstablished.trans (hran.identity.clientEstablished.trans h.established)
      · exact hest

section

variable {s : Service} {b b' : BackEnd} {cd cd' : ClientData}

/-- A request for service 0 runs a method of `basic_protocol`. -/
theorem World.Ran.basic (h : Ran codec c r reply w res w' s b b' cd cd') (hsound : Sound w)
    (hr : r.serviceOrdinal = 0) : ∃ m, basicMethodAt r.requestOrdinal.toUInt16.toNat = some m ∧
      dispatchBasic codec c reply m b cd = .ok (b', cd') := by
  have himpl : s.impl = .basicProtocol := by
    refine (hsound.registry.typed _ _ h.service).mpr ?_
    rw [hr]
    rfl
  rcases dispatch_cases h.dispatch with ⟨-, m, hm, hd⟩ | ⟨t, hother, -⟩
  · rw [h.request] at hm
    exact ⟨m, hm, hd⟩
  · rw [himpl] at hother
    cases hother

end

/-- **A request for a method of `basic_protocol` other than hello is dispatched.** -/
theorem Serving.ran (h : Serving c w) {k : ℕ} {m : BasicMethod} (hk : 1 ≤ k)
    (hm : basicMethodAt k = some m) {string : Bytes}
    (hex : w.exchange codec c resets ⟨0, UInt32.ofNat k, string⟩ reply = .ok (res, w')) :
    ∃ s b b' cd cd', Ran codec c ⟨0, UInt32.ofNat k, string⟩ reply w res w' s b b' cd cd' ∧
      dispatchBasic codec c reply m b cd = .ok (b', cd') := by
  obtain ⟨-, hord, hord'⟩ := basicMethodAt_ordinal hm
  obtain ⟨-, -, hdown | ⟨s, b, b', cd, cd', hran⟩⟩ := exchange_ok hex
  · obtain ⟨hnot, hlive⟩ := hdown.reason h.accepting
    refine absurd ?_ hnot
    obtain ⟨x, hx⟩ := Option.isSome_iff_exists.mp h.sound.registry.basic
    cases x with
    | none => exact absurd hx hlive
    | some s =>
      have himpl := (h.sound.registry.typed 0 s hx).mpr rfl
      refine ⟨⟨s, hx, ?_⟩, fun hne => absurd rfl hne, fun _ hz => ?_, fun _ => h.established⟩
      · rw [Service.containsFunctionAtOrdinal_basic himpl]
        show (basicMethodAt (UInt32.ofNat k).toUInt16.toNat).isSome = true
        rw [hord', hm]
        rfl
      · have := congrArg UInt32.toNat (show UInt32.ofNat k = 0 from hz)
        rw [hord] at this
        simp at this
        omega
  · obtain ⟨m', hm', hd⟩ := hran.basic h.sound rfl
    rw [hord', hm] at hm'
    cases hm'
    exact ⟨s, b, b', cd, cd', hran, hd⟩

end RblRpc
