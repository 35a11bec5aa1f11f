import Mathlib.Tactic.IntervalCases
import RblRpc.Backend.Admission

/-!
# Establishing a client

`invoke` turns a second hello down by the 32-bit ordinals of the request; the dispatch narrows them
to 16 bits, and so finds `hello` for other requests as well.

* `AliasesHello` — a request that is not hello to `invoke`, and is to the dispatch.
* `fire_identity` — what a step leaves of an established client.
* `established_once_iff` — **clients are established once exactly in the runs that dispatch no
  aliased hello whose request string parses.**
-/

namespace RblRpc

open Transition BackEnd

/-- Not the ordinals of hello, but the same 16 low bits. -/
def ClientRequest.AliasesHello (r : ClientRequest) : Prop :=
  ¬r.isHello ∧ r.serviceOrdinal.toUInt16 = 0 ∧ r.requestOrdinal.toUInt16 = 0

theorem requestedMethod_eq_hello {r : ClientRequest} :
    requestedMethod r = some .hello ↔ r.requestOrdinal.toUInt16 = 0 := by
  rw [requestedMethod, basicMethodAt]
  constructor
  · intro h
    have hlt : r.requestOrdinal.toUInt16.toNat < 5 := by
      by_contra hge
      rw [List.getElem?_eq_none (Nat.not_lt.mp hge)] at h
      cases h
    generalize hn : r.requestOrdinal.toUInt16.toNat = n at h hlt
    have hzero : n = 0 := by
      interval_cases n <;> first | rfl | cases h
    exact UInt16.toNat_inj.mp (hn.trans hzero)
  · intro h
    rw [h]
    rfl

namespace World

variable {codec : BasicProtocolCodec} {w w' : World} {c : ClientPtr}

theorem sameIdentity_setInvoker {b : BackEnd} {i : Invoker} {c' : ClientPtr}
    (h : SameIdentity (w.data c') i.clientData) (c : ClientPtr) :
    SameIdentity (w.data c) (((w.setBackEnd b).setInvoker c' i).data c) := by
  by_cases heq : c = c'
  · subst heq
    rw [data, data, setInvoker_self]
    exact h
  · rw [data, data, setInvoker_ne heq]
    exact .refl _

theorem disconnect_identity {reply : ℕ → ServiceReply} {c' : ClientPtr}
    (h : w.disconnect c' reply = .ok w') (c : ClientPtr) :
    SameIdentity (w.data c) (w'.data c) := by
  obtain ⟨b, cd, hb, rfl⟩ := disconnect_ok h
  obtain ⟨-, -, hid, -⟩ := BackEnd.disconnect_ok hb
  exact sameIdentity_setInvoker hid c

theorem signalStage_identity {reply : ManagerId → ManagerReply} (h : w.signalStage reply = .ok w')
    (c : ClientPtr) : SameIdentity (w.data c) (w'.data c) := by
  obtain ⟨w₁, threw, hs, rfl⟩ := signalStage_ok h
  have hw₁ : SameIdentity (w.data c) (w₁.data c) :=
    signalManagers_rule (I := fun w' => SameIdentity (w.data c) (w'.data c))
      (fun _ _ hI _ _ _ _ hd => hI.trans (disconnect_identity hd c)) (fun _ hI _ _ => hI) hs
      (.refl _)
  cases threw <;> exact hw₁

/-- **A step leaves an established client as it is**, unless its `ClientData` is a new one. -/
theorem fire_identity {l : Label} (hf : fire codec w l = .ok w')
    (hest : (w.data c).clientEstablished = true) (hl : l ≠ .connect c true) :
    SameIdentity (w.data c) (w'.data c) := by
  cases l
  case connect c' fresh =>
    cases hf
    cases fresh with
    | false => exact .refl _
    | true =>
      have hne : c ≠ c' := by
        rintro rfl
        exact hl rfl
      have hsame : ((w.connect c' true).invokers c) = w.invokers c := setInvoker_ne hne _
      rw [data, data, hsame]
      exact .refl _
  case disconnect c' reply => exact disconnect_identity hf c
  case request c' resets r =>
    obtain ⟨b, i, rfl, -, hid, -⟩ := request_ok hf
    exact sameIdentity_setInvoker hid c
  case check c' =>
    obtain ⟨b, i, hc, rfl⟩ := stepInvoker_ok.mp hf
    obtain ⟨cs, -, -, ⟨-, -, -, hid⟩ | ⟨-, -, rfl⟩⟩ := checkRequest_ok hc
    · exact sameIdentity_setInvoker hid c
    · refine sameIdentity_setInvoker ?_ c
      exact .refl _
  case take c' =>
    cases hf
    refine sameIdentity_setInvoker ?_ c
    exact .refl _
  case run c' reply =>
    obtain ⟨b, i, hr, rfl⟩ := stepInvoker_ok.mp hf
    obtain ⟨s, cd, -, rfl, -, -, hid, -⟩ := runPosted_ok hr
    by_cases heq : c = c'
    · subst heq
      rcases hid with hid | ⟨-, hnot, -⟩
      · refine sameIdentity_setInvoker ?_ c
        exact hid
      · rw [show (w.invokers c).clientData.clientEstablished = true from hest] at hnot
        cases hnot
    · rw [data, data, setInvoker_ne heq]
      exact .refl _
  case finish c' =>
    obtain ⟨-, rfl⟩ := finish_ok hf
    refine sameIdentity_setInvoker ?_ c
    exact ⟨rfl, rfl⟩
  case signalStage reply => exact signalStage_identity hf c
  all_goals
    rw [data, data, (fire_sameClients rfl rfl hf).invokers]
    exact .refl _

/-! ## Runs -/

/-- No client is established twice: `establish_client` does not assert, `hello` does not run for an
established client, and an established client keeps its name. -/
structure EstablishedOnce (codec : BasicProtocolCodec) (tr : List (World × Label))
    (r : Except Fault World) : Prop where
  asserts : r ≠ .error (.assertion .establishClient)
  hello : ∀ p ∈ tr, ∀ c reply, p.2 = .run c reply → (p.1.data c).clientEstablished = true →
    ¬RunsHello codec p.1.backEnd (p.1.invokers c)
  kept : ∀ p ∈ tr, ∀ c w', fire codec p.1 p.2 = .ok w' → p.2 ≠ .connect c true →
    (p.1.data c).clientEstablished = true →
      (w'.data c).clientEstablished = true ∧ (w'.data c).name = (p.1.data c).name

/-- What is dispatched is not an aliased hello with a request string that parses, while
`basic_protocol` is there. -/
def NoAliasedHello (codec : BasicProtocolCodec) (p : World × Label) : Prop :=
  ∀ c reply, p.2 = .run c reply → (p.1.data c).request.AliasesHello →
    p.1.backEnd.serviceAt 0 ≠ some none →
    (codec.helloRequest.parseFromString (p.1.data c).request.requestString).1 = false

/-- A request in the pool that runs `hello`, of an established client. -/
theorem Sound.runsHello_iff (h : Sound w) (hpool : w.inPool c) :
    (w.data c).clientEstablished = true ∧ RunsHello codec w.backEnd (w.invokers c) ↔
      (w.data c).request.AliasesHello ∧ w.backEnd.serviceAt 0 ≠ some none ∧
        (codec.helloRequest.parseFromString (w.data c).request.requestString).1 = true := by
  have haddr := h.gated.addressed c hpool
  have hest := h.gated.established c hpool
  constructor
  · rintro ⟨he, ⟨s, hs, himpl⟩, hm, hparse⟩
    have hzero := (h.registry.typed _ s hs).mp himpl
    refine ⟨⟨hest.mp he, haddr.symm.trans hzero, requestedMethod_eq_hello.mp hm⟩, ?_, hparse⟩
    rw [← hzero, hs]
    simp
  · rintro ⟨⟨hn, hs0, hm0⟩, halive, hparse⟩
    refine ⟨hest.mpr hn, ?_, requestedMethod_eq_hello.mpr hm0, hparse⟩
    have hservice : (w.invokers c).service = 0 := haddr.trans hs0
    rw [hservice]
    obtain ⟨x, hx⟩ := Option.isSome_iff_exists.mp h.registry.basic
    cases x with
    | none => exact absurd hx halive
    | some s => exact ⟨s, hx, (h.registry.typed 0 s hx).mpr rfl⟩

/-- **A client is established at most once, exactly**: in every run, if and only if no request that
is dispatched aliases hello with a request string that parses. -/
theorem established_once_iff (codec : BasicProtocolCodec) (sourceType : SourceConnectionType)
    (backendType : DestinationConnectionType) {tr : List (World × Label)}
    {r : Except Fault World}
    (h : (backEndMachine codec).Run (init sourceType backendType) tr r) :
    EstablishedOnce codec tr r ↔ ∀ p ∈ tr, NoAliasedHello codec p := by
  have hsound : ∀ p ∈ tr, Sound p.1 := fun p hp => sound_reaches (h.reaches hp)
  have hpool : ∀ p ∈ tr, ∀ c reply, p.2 = .run c reply → p.1.inPool c := by
    intro p hp c reply hl
    have hg : p.1.enabled p.2 = true := h.guard p hp
    rw [hl] at hg
    exact .inr (of_decide_eq_true hg)
  constructor
  · intro honce p hp c reply hl halias halive
    by_contra hparse
    have hruns := ((hsound p hp).runsHello_iff (hpool p hp c reply hl)).mpr
      ⟨halias, halive, (Bool.not_eq_false _).mp hparse⟩
    exact honce.hello p hp c reply hl hruns.1 hruns.2
  · intro hno
    have hhello : ∀ p ∈ tr, ∀ c reply, p.2 = .run c reply →
        (p.1.data c).clientEstablished = true →
        ¬RunsHello codec p.1.backEnd (p.1.invokers c) := by
      intro p hp c reply hl hest hruns
      obtain ⟨halias, halive, hparse⟩ :=
        ((hsound p hp).runsHello_iff (hpool p hp c reply hl)).mp ⟨hest, hruns⟩
      exact Bool.false_ne_true ((hno p hp c reply hl halias halive).symm.trans hparse)
    refine ⟨?_, hhello, ?_⟩
    · rintro rfl
      obtain ⟨p, hp, hf⟩ := h.fault_attempt
      obtain ⟨c, resets, req, hl⟩ | ⟨c, hl⟩ | ⟨-, c, reply, hl, hruns, hest⟩ :=
        fire_clientFault hf rfl
      · obtain ⟨w', hok⟩ := (hsound p hp).accounted.request_total codec (hl ▸ h.guard p hp)
        rw [← hl] at hok
        exact nomatch hok.symm.trans hf
      · obtain ⟨w', hok⟩ := (hsound p hp).accounted.finish_total codec (hl ▸ h.guard p hp)
        rw [← hl] at hok
        exact nomatch hok.symm.trans hf
      · exact hhello p hp c reply hl hest hruns
    · intro p hp c w' hf hl hest
      have hid := fire_identity hf hest hl
      exact ⟨hid.clientEstablished.trans hest, hid.name⟩

/-- The client is established, and its second hello is turned down. -/
theorem established_once_iff_sample : ∃ tr w, (w.data 7).clientEstablished = true ∧
    (EstablishedOnce basicProtocolCodec tr (.ok w) ↔
      ∀ p ∈ tr, NoAliasedHello basicProtocolCodec p) := by
  obtain ⟨w, heq, hrun⟩ := (backEndMachine basicProtocolCodec).exec_run_ok
    (init .sourceRelay .targetMarshall)
    (startUp 7 ++ serve 7 ⟨0, 0, sampleHello⟩ {} ++ [.request 7 true ⟨0, 0, sampleHello⟩, .check 7])
    (by decide +kernel) (by decide +kernel)
  have hest : (((backEndMachine basicProtocolCodec).exec (init .sourceRelay .targetMarshall)
      (startUp 7 ++ serve 7 ⟨0, 0, sampleHello⟩ {} ++
        [.request 7 true ⟨0, 0, sampleHello⟩, .check 7])).2.toOption.map
          fun w => (w.data 7).clientEstablished) = some true := by
    decide +kernel
  rw [heq] at hest
  exact ⟨_, w, Option.some.inj hest, established_once_iff _ _ _ hrun⟩

/-- **The request `(0, 65536)` of an established client runs `hello` again.** -/
theorem established_twice : ¬ ∀ (codec : BasicProtocolCodec) (sourceType : SourceConnectionType)
    (backendType : DestinationConnectionType) (tr : List (World × Label))
    (r : Except Fault World), codec.Lawful →
    (backEndMachine codec).Run (init sourceType backendType) tr r →
      EstablishedOnce codec tr r := by
  intro h
  have hrun : (backEndMachine basicProtocolCodec).Run (init .sourceRelay .targetMarshall) _
      (.error (.assertion .establishClient)) :=
    Machine.exec_run_fault _ _ (startUp 7 ++ serve 7 ⟨0, 0, sampleHello⟩ {} ++
      [.request 7 true ⟨0, 65536, sampleHello⟩, .check 7, .take 7, .run 7 {}])
      (by decide +kernel) (by decide +kernel)
  exact (h _ _ _ _ _ basicProtocolCodec_lawful hrun).asserts rfl

end World

end RblRpc
