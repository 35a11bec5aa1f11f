import RblRpc.Client.Sessions

/-!
# Agreement on subscriptions

A client object says that it is subscribed, and the cookie of the server says so.
`subscribe_service` is several exchanges: the server has subscribed, or refused to, before the
client knows of it, and the client throws or goes on for reasons of its own.

* `Agreement` — both sides say the same of every service.
* `Completes`, `Meets` — the calls that the client completes, and those that keep the agreement.
* `Agreement.step` — **a call keeps the agreement exactly when it meets the condition**.
* `subscriptions_agree_iff` — over runs.
-/

namespace RblRpc

open World ServiceClientFactory Transition

/-- **Client and server agree** on every service but `basic_protocol`. -/
def Agreement (c : ClientPtr) (side : ClientSide ServerLink) : Prop :=
  ∀ o : UInt16, o ≠ 0 → (side.factory.client? o).any (·.isSubscribed) =
    side.invoker.world.backEnd.clientServiceCookies.isSubscribed o.toNat c

/-- The client has an object for the result string, if there is one, and its class can be
constructed. -/
def Completes (hasResponseData : Bool) (methods : List Bytes) (reply : ServiceReply) : Prop :=
  (reply.output.getD [] = [] ∨ hasResponseData = true) ∧
    ∃ client, ClientServiceBase.construct methods = .ok client

/-- A call that the service accepts is completed by the client; one that it refuses is not, or the
response to it, which lacks its required field, cannot be serialised. -/
def Meets (codec : BasicProtocolCodec) (side : ClientSide ServerLink) : FactoryCall → Prop
  | .subscribeService serviceName _ hasResponseData methods reply =>
    ∀ e, Asks side.factory serviceName e → e.ordinal ≠ 0 →
      if reply.errorCode.isError then
        ¬(Completes hasResponseData methods reply ∧
          (codec.subscribeServiceResponse.serializeToString (subscribeAnswer reply)).isSome = true)
      else Completes hasResponseData methods reply
  | _ => True

variable {codec : BasicProtocolCodec} {c : ClientPtr} {resets : Bool} {reply : ServiceReply}
  {side side' : ClientSide ServerLink} {o : UInt16} {w w' : World}

/-- When the client takes the answer for a subscription. -/
theorem takesFor_iff (hcodec : codec.Lawful) (hasResponseData : Bool) (reply : ServiceReply) :
    TakesFor hasResponseData (delivered codec.subscribeServiceResponse (subscribeAnswer reply)) ↔
      (reply.output.getD [] = [] ∨ hasResponseData = true) ∧ (reply.errorCode.isError = true →
        (codec.subscribeServiceResponse.serializeToString (subscribeAnswer reply)).isSome = true) := by
  have hgot : ∀ m, m = subscribeAnswer reply → (TakesFor hasResponseData (.ok m) ↔
      (reply.output.getD [] = [] ∨ hasResponseData = true)) := by
    rintro m rfl
    have herr : (subscribeAnswer reply).getError = .noSubscribeServiceError := by
      unfold subscribeAnswer SubscribeServiceResponse.getError
      cases reply.errorCode.isError <;> rfl
    constructor
    · rintro ⟨r, hr, -, hstring⟩
      cases hr
      exact hstring
    · intro hstring
      exact ⟨_, rfl, herr, hstring⟩
  cases hrefused : reply.errorCode.isError with
  | false =>
    have hset : (subscribeAnswer reply).error.isSome = true := by
      rw [subscribeAnswer, hrefused]
      rfl
    rw [delivered_of_initialized hcodec.subscribeServiceResponse hset, hgot _ rfl]
    simp
  | true =>
    have hunset : (subscribeAnswer reply).error.isSome = false := by
      rw [subscribeAnswer, hrefused]
      rfl
    rw [delivered_of_unset hcodec.subscribeServiceResponse hunset]
    cases codec.subscribeServiceResponse.serializeToString (subscribeAnswer reply) with
    | none =>
      dsimp only
      constructor
      · rintro ⟨r, hr, -⟩
        cases hr
      · rintro ⟨-, hser⟩
        cases hser rfl
    | some b =>
      dsimp only
      rw [hgot _ rfl]
      simp

/-- A call about the service at `o` keeps the agreement on the others. -/
theorem Agreement.iff_at (h : Agreement c side) (side' : ClientSide ServerLink) (o : UInt16)
    (hclients : ∀ o', o' ≠ o → side'.factory.client? o' = side.factory.client? o')
    (hcookies : ∀ s, s ≠ o.toNat →
      side'.invoker.world.backEnd.clientServiceCookies.isSubscribed s c =
        side.invoker.world.backEnd.clientServiceCookies.isSubscribed s c) :
    Agreement c side' ↔ (o ≠ 0 → (side'.factory.client? o).any (·.isSubscribed) =
      side'.invoker.world.backEnd.clientServiceCookies.isSubscribed o.toNat c) := by
  constructor
  · intro h'
    exact h' o
  · intro hown o' ho'
    by_cases heq : o' = o
    · rw [heq]
      exact hown (heq ▸ ho')
    · rw [hclients o' heq, hcookies _ fun hnat => heq (UInt16.toNat.inj hnat)]
      exact h o' ho'

/-- **`subscribe_service` keeps the agreement exactly when it meets the condition.** -/
theorem Agreement.subscribeService (h : Agreement c side) (hsession : Session c side)
    (hcodec : codec.Lawful) {serviceName : Bytes} {requestData : Option Bytes}
    {hasResponseData : Bool} {methods : List Bytes}
    {res : Except ClientException ClientServiceBase}
    (hnames : ∀ n ∈ methods, n ≠ [] ∧ (0 : UInt8) ∉ n)
    (hrun : (ServiceClientFactory.subscribeService (lossFree codec c resets reply) codec serviceName
      requestData hasResponseData methods).runOn side = .ok (res, side')) :
    Agreement c side' ↔
      Meets codec side (.subscribeService serviceName requestData hasResponseData methods reply) := by
  rcases hsession.subscribeService hcodec hnames hrun with
    ⟨hno, rfl, -⟩ | ⟨e, answer, i, hasks, honly, hanswer, hrest⟩
  · exact iff_of_true h fun e he => absurd he (hno e)
  · obtain ⟨-, hnone, -⟩ := hsession.asks hasks
    -- only the subscription to the service at `e.ordinal` is touched
    have hclients : ∀ o', o' ≠ e.ordinal →
        side'.factory.client? o' = side.factory.client? o' := by
      intro o' ho'
      rcases hrest with ⟨-, rfl, -⟩ | ⟨-, client, -, -, hclient, -⟩
      · rfl
      · exact hclient.others o' ho'
    have hcookies : ∀ s, side'.invoker.world.backEnd.clientServiceCookies.isSubscribed s c =
        i.world.backEnd.clientServiceCookies.isSubscribed s c := by
      intro s
      rcases hrest with ⟨-, rfl, -⟩ | ⟨-, client, -, -, -, hmade⟩
      · rfl
      · exact hmade.subscriptions s
    rw [h.iff_at side' e.ordinal hclients fun s hs => (hcookies s).trans (honly.others s hs)]
    have hunique : ∀ e', Asks side.factory serviceName e' → e' = e := fun e' he' =>
      Except.ok.inj (he'.lookup.symm.trans hasks.lookup)
    have hmeets : Meets codec side
        (.subscribeService serviceName requestData hasResponseData methods reply) ↔
        (e.ordinal ≠ 0 → if reply.errorCode.isError then
          ¬(Completes hasResponseData methods reply ∧
            (codec.subscribeServiceResponse.serializeToString (subscribeAnswer reply)).isSome = true)
          else Completes hasResponseData methods reply) := by
      constructor
      · intro hm
        exact hm e hasks
      · intro hm e' he' ho'
        obtain rfl := hunique e' he'
        exact hm ho'
    rw [hmeets]
    refine forall_congr' fun ho => ?_
    have hclosed : side.invoker.world.backEnd.clientServiceCookies.isSubscribed e.ordinal.toNat c =
        false := by
      rw [← h e.ordinal ho, hnone]
      rfl
    obtain ⟨hflag, rfl⟩ := hanswer ho hclosed
    rw [hcookies, hflag]
    rcases hrest with ⟨hfail, rfl, -⟩ | ⟨htakes, client, -, hclient, -, hmade⟩
    · -- the client threw
      have hno : ¬(Completes hasResponseData methods reply ∧ (reply.errorCode.isError = true →
          (codec.subscribeServiceResponse.serializeToString
            (subscribeAnswer reply)).isSome = true)) := by
        rintro ⟨⟨hstring, made, hconstruct⟩, hser⟩
        rcases hfail with htakes | ⟨x, hx⟩
        · exact htakes ((takesFor_iff hcodec _ _).mpr ⟨hstring, hser⟩)
        · exact nomatch hx.symm.trans hconstruct
      rw [hnone]
      cases hrefused : reply.errorCode.isError with
      | true => exact iff_of_true rfl fun hc => hno ⟨hc.1, fun _ => hc.2⟩
      | false =>
        refine iff_of_false (fun hf => nomatch hf) fun hc => hno ⟨hc, fun hr => ?_⟩
        exact nomatch hrefused.symm.trans hr
    · -- the client object is made, and says that it is subscribed
      obtain ⟨hstring, hser⟩ := (takesFor_iff hcodec _ _).mp htakes
      obtain ⟨made, s, mes, hconstruct, -⟩ := hmade.bound
      have hcomplete : Completes hasResponseData methods reply := ⟨hstring, made, hconstruct⟩
      rw [hclient, Option.any_some, hmade.isSubscribed]
      cases hrefused : reply.errorCode.isError with
      | true => exact iff_of_false (fun hf => nomatch hf) fun hc => hc ⟨hcomplete, hser hrefused⟩
      | false => exact iff_of_true rfl hcomplete

/-- `unsubscribe_service` keeps the agreement. -/
theorem Agreement.unsubscribeService (h : Agreement c side) (hsession : Session c side)
    (hcodec : codec.Lawful) {serviceName : Bytes} {res : Except ClientException Unit}
    (hrun : (ServiceClientFactory.unsubscribeService (lossFree codec c resets reply) codec
      serviceName).runOn side = .ok (res, side')) : Agreement c side' := by
  rcases hsession.unsubscribeService hcodec hrun with
    rfl | ⟨e, client, i, hlookup, hentry, honly, hclosed, ⟨hwas, rfl⟩ | rfl⟩
  · exact h
  · refine (h.iff_at { side with invoker := i } e.ordinal (fun _ _ => rfl) honly.others).mpr fun ho => ?_
    exact (h e.ordinal ho).trans (hwas.trans hclosed.symm)
  · have hset := onlyClient_setClient side.factory e.ordinal { client with isSubscribed := false }
    refine (h.iff_at ⟨_, i⟩ e.ordinal hset.others honly.others).mpr fun _ => ?_
    obtain ⟨hat, -⟩ := hsession.valid.lookup hlookup
    have hlists : side.factory.Lists e.ordinal := by
      rw [ServiceClientFactory.Lists, hat]
      rfl
    have hclient := hlists.client?_setClient { client with isSubscribed := false }
    refine (congrArg (Option.any fun x : ClientServiceBase => x.isSubscribed) hclient).trans ?_
    exact hclosed.symm

/-- **A call keeps the agreement exactly when it meets the condition.** -/
theorem Agreement.step (h : Agreement c side) (hsession : Session c side) (hcodec : codec.Lawful)
    {call : FactoryCall} (hg : call.enabled = true)
    (hrun : call.run codec c resets side = .ok side') :
    Agreement c side' ↔ Meets codec side call := by
  cases call with
  | getService serviceName =>
    obtain ⟨⟨res, side₁⟩, hcall, rfl⟩ := Call.map_eq_ok.mp hrun
    rw [runOn_getService hcall]
    exact iff_of_true h trivial
  | subscribeService serviceName requestData hasResponseData methods reply =>
    obtain ⟨⟨res, side₁⟩, hcall, rfl⟩ := Call.map_eq_ok.mp hrun
    exact h.subscribeService hsession hcodec
      (fun n hn => of_decide_eq_true (List.all_eq_true.mp hg n hn)) hcall
  | unsubscribeService serviceName reply =>
    obtain ⟨⟨res, side₁⟩, hcall, rfl⟩ := Call.map_eq_ok.mp hrun
    exact iff_of_true (h.unsubscribeService hsession hcodec hcall) trivial

/-- **Agreement on subscriptions**: in a run of the calls on a factory both sides agree after every
call exactly when every call meets the condition. -/
theorem subscriptions_agree_iff {side side' : ClientSide ServerLink}
    {tr : List (ClientSide ServerLink × FactoryCall)} (hcodec : codec.Lawful)
    (hstart : Started codec c resets side)
    (hrun : (factoryMachine codec c resets).Run side tr (.ok side')) :
    ((∀ p ∈ tr, Agreement c p.1) ∧ Agreement c side') ↔ ∀ p ∈ tr, Meets codec p.1 p.2 := by
  obtain ⟨hsession, hinit⟩ := hstart.session hcodec
  have hagree : Agreement c side := fun o ho => by
    rw [(hinit o).1, (hinit o).2 ho]
    rfl
  have hrun_step : ∀ s call s', (factoryMachine codec c resets).fire s call = .ok s' →
      call.run codec c resets s = .ok s' := fun _ _ _ hf => hf
  exact hrun.always_iff (fun s call s' hJ hg hf => hJ.step hcodec hg (hrun_step s call s' hf))
    (fun s call s' hJ hI hg hf => hI.step hJ hcodec hg (hrun_step s call s' hf)) hsession hagree

/-- The service is subscribed to, and unsubscribed from. -/
def subscribedAndNot : List FactoryCall :=
  [.subscribeService (ascii "store") none false [ascii "get", ascii "set"] {},
   .getService (ascii "store"), .unsubscribeService (ascii "store") {}]

theorem subscriptions_agree_iff_sample : ∃ (side' : ClientSide ServerLink)
    (tr : List (ClientSide ServerLink × FactoryCall)),
    tr.map (fun p => (p.1.factory.client? 1).map (·.isSubscribed)) = [none, some true, some true] ∧
      ((∀ p ∈ tr, Agreement 7 p.1) ∧ Agreement 7 side' ↔
        ∀ p ∈ tr, Meets basicProtocolCodec p.1 p.2) := by
  obtain ⟨side, hside, hstart⟩ := startFactory_store
  have hrun : (startFactory storeLabels).map (fun side =>
      let x := (factoryMachine basicProtocolCodec 7 true).exec side subscribedAndNot
      ((factoryMachine basicProtocolCodec 7 true).admits side subscribedAndNot,
        x.1.map fun p => (p.1.factory.client? 1).map (·.isSubscribed),
        x.2.toOption.isSome)) =
      some (true, [none, some true, some true], true) := by decide +kernel
  rw [hside] at hrun
  obtain ⟨hadm, hobs⟩ := Prod.mk.inj (Option.some.inj hrun)
  obtain ⟨hobs, hok⟩ := Prod.mk.inj hobs
  obtain ⟨side', -, hexec⟩ := (factoryMachine basicProtocolCodec 7 true).exec_run_ok side
    subscribedAndNot hadm hok
  exact ⟨side', _, hobs, subscriptions_agree_iff basicProtocolCodec_lawful hstart hexec⟩

/-- **A refused client takes itself for subscribed.** -/
theorem refused_client_subscribed : ¬ ∀ (codec : BasicProtocolCodec) (c : ClientPtr) (resets : Bool)
    (side side' : ClientSide ServerLink) (tr : List (ClientSide ServerLink × FactoryCall)),
    codec.Lawful → Started codec c resets side →
    (factoryMachine codec c resets).Run side tr (.ok side') →
    (∀ p ∈ tr, Agreement c p.1) ∧ Agreement c side' := by
  intro h
  obtain ⟨side, hside, hstart⟩ := startFactory_store
  have hrun : (startFactory storeLabels).map (fun side =>
      ((factoryMachine basicProtocolCodec 7 true).admits side
        [.subscribeService (ascii "store") none false [ascii "get", ascii "set"]
          { errorCode := { value := 1 } }],
        ((factoryMachine basicProtocolCodec 7 true).exec side
          [.subscribeService (ascii "store") none false [ascii "get", ascii "set"]
            { errorCode := { value := 1 } }]).2.toOption.map fun side' =>
          ((side'.factory.client? 1).any (·.isSubscribed),
            side'.invoker.world.backEnd.clientServiceCookies.isSubscribed 1 7))) =
      some (true, some (true, false)) := by decide +kernel
  rw [hside] at hrun
  obtain ⟨hadm, hobs⟩ := Prod.mk.inj (Option.some.inj hrun)
  obtain ⟨side', hexec, hobs⟩ := (factoryMachine basicProtocolCodec 7 true).exec_observed side _ _
    hadm hobs
  obtain ⟨hclient, hserver⟩ := Prod.mk.inj hobs
  have hagree := (h _ _ _ _ _ _ basicProtocolCodec_lawful hstart hexec).2 1 (by decide)
  rw [hclient] at hagree
  exact nomatch hagree.trans hserver

end RblRpc
