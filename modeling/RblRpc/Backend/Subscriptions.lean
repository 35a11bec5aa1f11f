import RblRpc.Backend.Disconnection
import RblRpc.Lib.Pairing

/-!
# The history of the subscriptions

The accepted calls of `subscribe` open a subscription, the calls of `unsubscribe` close it; the
flag of the cookie says which of the two came last.

* `Tracks` — the calls of a step alternate, from the flags before it to the flags after it.
* `Closes` — `disconnect` closes what is open, with one call each.
* `fire_tracks` — **every step tracks the subscriptions.**
* `fire_closes` — **a client that is gone after a step had its subscriptions closed by it.**
-/

namespace RblRpc

open Transition Pairing

/-- What a call does to the subscription of client `c` for the service at `s`. -/
def ServiceCall.subscription (s : ℕ) (c : ClientPtr) : ServiceCall → Option (Event Unit)
  | .subscribe s' c' true => if s' = s ∧ c' = c then some (.opened ()) else none
  | .unsubscribe s' c' => if s' = s ∧ c' = c then some (.closed ()) else none
  | _ => none

/-- The calls that concern the subscription of client `c` for the service at `s`. -/
def subscriptions (s : ℕ) (c : ClientPtr) (calls : List ServiceCall) : List (Event Unit) :=
  calls.filterMap (ServiceCall.subscription s c)

theorem subscriptions_append (s : ℕ) (c : ClientPtr) (calls calls' : List ServiceCall) :
    subscriptions s c (calls ++ calls') = subscriptions s c calls ++ subscriptions s c calls' :=
  List.filterMap_append

namespace BackEnd

variable {codec : BasicProtocolCodec} {b b' b₁ b₂ b₃ : BackEnd} {c k : ClientPtr} {s : ℕ}
  {cd cd' : ClientData}

/-- The subscription the cookie says is open. -/
def openSubscription (b : BackEnd) (s : ℕ) (c : ClientPtr) : Option Unit :=
  if b.clientServiceCookies.isSubscribed s c then some () else none

/-- The calls from `b` to `b'` alternate for every client and service, from the flags of the
cookies of `b` to those of `b'`. -/
def Tracks (b b' : BackEnd) : Prop :=
  ∃ calls, b'.calls = b.calls ++ calls ∧ ∀ s c,
    Paired (b.openSubscription s c) (subscriptions s c calls) (b'.openSubscription s c)

theorem Tracks.of_same (hcalls : b'.calls = b.calls)
    (hsame : ∀ s c, b'.openSubscription s c = b.openSubscription s c) : Tracks b b' := by
  refine ⟨[], by rw [hcalls, List.append_nil], fun s c => ?_⟩
  rw [hsame]
  exact .nil _

theorem Tracks.trans (h : Tracks b₁ b₂) (h' : Tracks b₂ b₃) : Tracks b₁ b₃ := by
  obtain ⟨calls, heq, hpaired⟩ := h
  obtain ⟨calls', heq', hpaired'⟩ := h'
  refine ⟨calls ++ calls', by rw [heq', heq, List.append_assoc], fun s c => ?_⟩
  rw [subscriptions_append]
  exact (hpaired s c).append (hpaired' s c)

/-- From `b` to `b'` the open subscriptions in `S` are closed, by one call each, and nothing else
is called. -/
def Closes (S : Set (ClientPtr × ℕ)) (b b' : BackEnd) : Prop :=
  ∃ calls, b'.calls = b.calls ++ calls ∧ ∀ s c,
    ((c, s) ∈ S → subscriptions s c calls = ((b.openSubscription s c).map Event.closed).toList ∧
      b'.openSubscription s c = none) ∧
    ((c, s) ∉ S → subscriptions s c calls = [] ∧
      b'.openSubscription s c = b.openSubscription s c)

theorem Closes.tracks {S : Set (ClientPtr × ℕ)} (h : Closes S b b') : Tracks b b' := by
  obtain ⟨calls, heq, hclose⟩ := h
  refine ⟨calls, heq, fun s c => ?_⟩
  by_cases hcs : (c, s) ∈ S
  · obtain ⟨hcalls, hnone⟩ := (hclose s c).1 hcs
    rw [hcalls, hnone]
    exact .close _
  · obtain ⟨hcalls, hsame⟩ := (hclose s c).2 hcs
    rw [hcalls, hsame]
    exact .nil _

theorem Closes.empty (hcalls : b'.calls = b.calls)
    (hsame : ∀ s c, b'.openSubscription s c = b.openSubscription s c) : Closes ∅ b b' :=
  ⟨[], by rw [hcalls, List.append_nil], fun s c => ⟨fun h => h.elim, fun _ => ⟨rfl, hsame s c⟩⟩⟩

/-- Disjoint closings add up. -/
theorem Closes.union {S T : Set (ClientPtr × ℕ)} (h : Closes S b₁ b₂) (h' : Closes T b₂ b₃)
    (hdisj : ∀ p ∈ S, p ∉ T) : Closes (S ∪ T) b₁ b₃ := by
  obtain ⟨calls, heq, hS⟩ := h
  obtain ⟨calls', heq', hT⟩ := h'
  refine ⟨calls ++ calls', by rw [heq', heq, List.append_assoc], fun s c => ⟨?_, fun hnot => ?_⟩⟩
  · rintro (hs | hs)
    · obtain ⟨hcalls, hnone⟩ := (hS s c).1 hs
      obtain ⟨hcalls', hsame'⟩ := (hT s c).2 (hdisj _ hs)
      rw [subscriptions_append, hcalls, hcalls', List.append_nil]
      exact ⟨rfl, hsame'.trans hnone⟩
    · obtain ⟨hcalls, hsame⟩ := (hS s c).2 fun hs' => hdisj _ hs' hs
      obtain ⟨hcalls', hnone'⟩ := (hT s c).1 hs
      rw [subscriptions_append, hcalls, hcalls', List.nil_append, hsame]
      exact ⟨rfl, hnone'⟩
  · obtain ⟨hcalls, hsame⟩ := (hS s c).2 fun hs => hnot (.inl hs)
    obtain ⟨hcalls', hsame'⟩ := (hT s c).2 fun hs => hnot (.inr hs)
    rw [subscriptions_append, hcalls, hcalls']
    exact ⟨rfl, hsame'.trans hsame⟩

theorem openSubscription_congr (hsub : b'.clientServiceCookies.isSubscribed s k =
    b.clientServiceCookies.isSubscribed s k) :
    b'.openSubscription s k = b.openSubscription s k := by
  rw [openSubscription, openSubscription, hsub]

/-- A call of `subscribe` opens a subscription if it is accepted. -/
theorem subscribe_paired (i : ℕ) (c : ClientPtr) (accepted : Bool) :
    Paired none (subscriptions i c [.subscribe i c accepted])
      (if accepted then some () else none) := by
  cases accepted with
  | true =>
    simp only [subscriptions, ServiceCall.subscription, List.filterMap_cons, and_self, if_true]
    exact .opened (.nil _)
  | false => exact .nil _

theorem subscribe_other {i : ℕ} (hne : ¬(s = i ∧ k = c)) (accepted : Bool) :
    subscriptions s k [.subscribe i c accepted] = [] := by
  have hne' : ¬(i = s ∧ c = k) := fun hik => hne ⟨hik.1.symm, hik.2.symm⟩
  cases accepted <;> simp [subscriptions, ServiceCall.subscription, hne']

theorem unsubscribe_other {i : ℕ} (hne : ¬(s = i ∧ k = c)) :
    subscriptions s k [.unsubscribe i c] = [] := by
  have hne' : ¬(i = s ∧ c = k) := fun hik => hne ⟨hik.1.symm, hik.2.symm⟩
  simp [subscriptions, ServiceCall.subscription, hne']

/-! ## `disconnect` -/

/-- **The body of the loop of `disconnect`** closes the subscription for its service. -/
theorem disconnectService_closes {reply : ℕ → ServiceReply} {i : ℕ} (hi : i < 2 ^ 16)
    (h : disconnectService c reply i b cd = .ok (b', cd')) : Closes {(c, i)} b b' := by
  have hof : (UInt16.ofNat i).toNat = i := UInt16.toNat_ofNat_of_lt hi
  unfold disconnectService at h
  obtain ⟨cs, hcs, h⟩ := bind_eq_ok.mp h
  have hsub := ClientServiceCookies.isSubscribed_createOrRetrieveCookie hcs
  dsimp only at h
  split at h
  · cases h
  · obtain ⟨⟨b₁, cd₁⟩, hunsub, h⟩ := bind_eq_ok.mp h
    obtain ⟨⟨r, cs'⟩, hcs', h⟩ := bind_eq_ok.mp h
    cases h
    have hb₁ : b₁ = { b with
        clientServiceCookies := cs
        calls := b.calls ++ if b.clientServiceCookies.isSubscribed i c
          then [.unsubscribe i c] else [] } := by
      unfold unsubscribeClient at hunsub
      have hflag : (b.setCookies cs).clientServiceCookies.isSubscribed (UInt16.ofNat i).toNat c =
          b.clientServiceCookies.isSubscribed i c := by
        rw [hof]
        exact hsub i c
      rw [hflag] at hunsub
      cases hs : b.clientServiceCookies.isSubscribed i c with
      | true =>
        rw [hs, if_pos rfl] at hunsub
        split at hunsub
        · cases hunsub
        · cases hunsub
          rw [hof]
          rfl
      | false =>
        rw [hs, if_neg Bool.false_ne_true] at hunsub
        cases hunsub
        simp [setCookies]
    subst hb₁
    have hdel := ClientServiceCookies.isSubscribed_deleteCookie hcs'
    refine ⟨_, rfl, fun s k => ⟨?_, fun hnot => ⟨?_, ?_⟩⟩⟩
    · intro hsk
      cases hsk
      constructor
      · rw [openSubscription]
        split <;> simp [subscriptions, ServiceCall.subscription]
      · have hflag := hdel i c
        rw [hof, if_pos ⟨rfl, rfl⟩] at hflag
        exact if_neg (Bool.eq_false_iff.mp hflag)
    · split
      · refine unsubscribe_other fun hsk => hnot ?_
        rw [hsk.1, hsk.2]
        rfl
      · rfl
    · have hflag := hdel s k
      have hne : ¬(s = i ∧ k = c) := by
        rintro ⟨rfl, rfl⟩
        exact hnot rfl
      rw [hof, if_neg hne] at hflag
      exact openSubscription_congr (hflag.trans (hsub s k))

theorem disconnectServices_closes {reply : ℕ → ServiceReply} {is : List ℕ} (hnodup : is.Nodup)
    (his : ∀ i ∈ is, i < 2 ^ 16) (h : disconnectServices c reply is b cd = .ok (b', cd')) :
    Closes { p | p.1 = c ∧ p.2 ∈ is } b b' := by
  induction is generalizing b cd with
  | nil =>
    cases h
    have hset : { p : ClientPtr × ℕ | p.1 = c ∧ p.2 ∈ ([] : List ℕ) } = ∅ := by
      ext p
      simp
    rw [hset]
    exact .empty rfl fun _ _ => rfl
  | cons i is ih =>
    obtain ⟨⟨b₁, cd₁⟩, h₁, h₂⟩ := bind_eq_ok.mp h
    obtain ⟨hnot, hnodup⟩ := List.nodup_cons.mp hnodup
    have hfirst := disconnectService_closes (his i List.mem_cons_self) h₁
    have hrest := ih hnodup (fun j hj => his j (List.mem_cons_of_mem _ hj)) h₂
    have hset : { p | p.1 = c ∧ p.2 ∈ i :: is } = {(c, i)} ∪ { p | p.1 = c ∧ p.2 ∈ is } := by
      ext ⟨k, s⟩
      simp only [Set.mem_ofPred_eq, List.mem_cons, Set.mem_union, Set.mem_singleton_iff,
        Prod.mk.injEq]
      tauto
    rw [hset]
    refine hfirst.union hrest fun p hp hmem => ?_
    rw [Set.mem_singleton_iff.mp hp] at hmem
    exact hnot hmem.2

/-- The services `disconnect` cleans up. -/
def cleaned (b : BackEnd) : Set ℕ :=
  { s | (b.isSealed && !b.ioService.stopped) = true ∧ 1 ≤ s ∧ s < b.services.size }

/-- **`disconnect`** closes the subscriptions of the client with one call each. -/
theorem disconnect_closes {reply : ℕ → ServiceReply} (hfits : b.services.size ≤ 2 ^ 16)
    (h : b.disconnect c reply cd = .ok (b', cd')) :
    Closes { p | p.1 = c ∧ p.2 ∈ b.cleaned } b b' := by
  unfold disconnect at h
  obtain ⟨⟨b₁, cd₁⟩, h₁, h⟩ := bind_eq_ok.mp h
  obtain ⟨_, -, h⟩ := bind_eq_ok.mp h
  cases h
  unfold cleanUp at h₁
  split at h₁
  · rename_i hrun
    have hclose := disconnectServices_closes List.nodup_range' (fun i hi => by
      have hi' := (List.mem_range'_1.mp hi).2
      omega) h₁
    have hset : b.cleaned = { s | s ∈ List.range' 1 (b.services.size - 1) } := by
      ext s
      simp only [cleaned, Set.mem_ofPred_eq, hrun, true_and, List.mem_range'_1]
      omega
    rw [hset]
    exact hclose
  · rename_i hrun
    cases h₁
    have hset : { p : ClientPtr × ℕ | p.1 = c ∧ p.2 ∈ b.cleaned } = ∅ := by
      ext p
      simp only [cleaned, Set.mem_ofPred_eq, hrun, Set.mem_empty_iff_false]
      simp
    rw [hset]
    exact .empty rfl fun _ _ => rfl

/-! ## The requests of `basic_protocol` -/

/-- One call for a service, and the flag of its cookie. -/
theorem Tracks.of_call {call : ServiceCall} {i : ℕ} {flag : Bool}
    (hcalls : b'.calls = b.calls ++ [call])
    (hflag : b'.clientServiceCookies.isSubscribed i c = flag)
    (hown : Paired (b.openSubscription i c) (subscriptions i c [call])
      (if flag then some () else none))
    (hother : ∀ s k, ¬(s = i ∧ k = c) → subscriptions s k [call] = [] ∧
      b'.clientServiceCookies.isSubscribed s k = b.clientServiceCookies.isSubscribed s k) :
    Tracks b b' := by
  refine ⟨[call], hcalls, fun s k => ?_⟩
  by_cases hsk : s = i ∧ k = c
  · obtain ⟨rfl, rfl⟩ := hsk
    have hopen : b'.openSubscription s k = if flag then some () else none := by
      rw [openSubscription, hflag]
    rw [hopen]
    exact hown
  · obtain ⟨hnone, hsame⟩ := hother s k hsk
    rw [hnone, openSubscription_congr hsame]
    exact .nil _

/-- The answers to a request that calls no service. -/
def answersWithoutCall : ServiceSubscribeErrorType → Bool
  | .serviceAllreadySubscribed | .noSubscriptionForService => true
  | _ => false

/-- **`rpc_subscribe_service`** opens what is closed, or calls nothing. -/
theorem rpcSubscribeService_tracks {reply : ServiceReply} {req : SubscribeServiceRequest}
    {res : SubscribeServiceResponse}
    (h : BasicProtocolImpl.rpcSubscribeService c reply b cd req = .ok (b', cd', res)) :
    Tracks b b' ∧
      ∀ e, res.error = some e → answersWithoutCall e = true → b'.calls = b.calls := by
  cases BasicProtocolImpl.rpcSubscribeService_step h with
  | outOfRange => exact ⟨.of_same rfl fun _ _ => rfl, fun _ _ _ => rfl⟩
  | allready _ hcs =>
    have hsub := ClientServiceCookies.isSubscribed_createOrRetrieveCookie hcs
    exact ⟨.of_same rfl fun s k => openSubscription_congr (hsub s k), fun _ _ _ => rfl⟩
  | called _ hcs hclosed _ _ hcs' =>
    have hsub := ClientServiceCookies.isSubscribed_createOrRetrieveCookie hcs
    have hset := ClientServiceCookies.isSubscribed_setCookie hcs'
    have hnone : b.openSubscription req.serviceOrdinal.toUInt16.toNat c = none := by
      rw [openSubscription, hclosed]
      rfl
    refine ⟨.of_call rfl ((hset _ c).trans (if_pos ⟨rfl, rfl⟩)) ?_
      fun s k hne => ⟨?_, (hset s k).trans ((if_neg hne).trans (hsub s k))⟩, ?_⟩
    · rw [hnone]
      exact subscribe_paired _ _ _
    · exact subscribe_other hne _
    · intro e herr hcall
      dsimp only at herr
      split at herr
      · cases herr
        cases hcall
      · cases herr

/-- **`rpc_unsubscribe_service`** closes what is open, or calls nothing. -/
theorem rpcUnsubscribeService_tracks {reply : ServiceReply} {req : UnsubscribeServiceRequest}
    {res : UnsubscribeServiceResponse}
    (h : BasicProtocolImpl.rpcUnsubscribeService c reply b cd req = .ok (b', cd', res)) :
    Tracks b b' ∧
      ∀ e, res.error = some e → answersWithoutCall e = true → b'.calls = b.calls := by
  cases BasicProtocolImpl.rpcUnsubscribeService_step h with
  | outOfRange => exact ⟨.of_same rfl fun _ _ => rfl, fun _ _ _ => rfl⟩
  | notSubscribed _ hcs =>
    have hsub := ClientServiceCookies.isSubscribed_createOrRetrieveCookie hcs
    exact ⟨.of_same rfl fun s k => openSubscription_congr (hsub s k), fun _ _ _ => rfl⟩
  | called _ hcs hopen _ _ hcs' =>
    have hsub := ClientServiceCookies.isSubscribed_createOrRetrieveCookie hcs
    have hdel := ClientServiceCookies.isSubscribed_deleteCookie hcs'
    have hsome : b.openSubscription req.serviceOrdinal.toUInt16.toNat c = some () := by
      rw [openSubscription, hopen]
      rfl
    refine ⟨.of_call rfl ((hdel _ c).trans (if_pos ⟨rfl, rfl⟩)) ?_
      fun s k hne => ⟨?_, (hdel s k).trans ((if_neg hne).trans (hsub s k))⟩, ?_⟩
    · rw [hsome]
      simp only [subscriptions, ServiceCall.subscription, List.filterMap_cons, and_self,
        if_true]
      exact .closed (.nil _)
    · exact unsubscribe_other hne
    · intro e herr hcall
      cases herr
      cases hcall

/-! ## Dispatches -/

theorem runMethod_tracks {I O : Type} {input : MessageCodec I} {output : MessageCodec O}
    {impl : BackEnd → ClientData → I → Except Fault (BackEnd × ClientData × O)}
    (himpl : ∀ req cd' res, impl b cd req = .ok (b', cd', res) → Tracks b b')
    (h : runMethod input output impl b cd = .ok (b', cd')) : Tracks b b' := by
  rcases runMethod_ok h with ⟨-, rfl, rfl⟩ | ⟨req, cd₁, res, -, hrun, rfl⟩
  · exact .of_same rfl fun _ _ => rfl
  · exact himpl req cd₁ res hrun

theorem dispatchBasic_tracks {reply : ServiceReply} {m : BasicMethod}
    (h : dispatchBasic codec c reply m b cd = .ok (b', cd')) : Tracks b b' := by
  cases m <;> simp only [dispatchBasic] at h <;>
    refine runMethod_tracks (fun req cd₁ res himpl => ?_) h
  case hello =>
    obtain ⟨_, -, hret⟩ := bind_eq_ok.mp himpl
    cases hret
    exact .of_same rfl fun _ _ => rfl
  case listServices =>
    obtain ⟨_, -, hret⟩ := bind_eq_ok.mp himpl
    cases hret
    exact .of_same rfl fun _ _ => rfl
  case rpcSubscribeService => exact (rpcSubscribeService_tracks himpl).1
  case rpcUnsubscribeService => exact (rpcUnsubscribeService_tracks himpl).1
  case listMethods =>
    obtain ⟨_, -, hret⟩ := bind_eq_ok.mp himpl
    cases hret
    exact .of_same rfl fun _ _ => rfl

/-- The function of another service keeps the flag of its cookie. -/
theorem dispatchApplication_tracks {o : UInt16} {reply : ServiceReply}
    (h : dispatchApplication o c reply b cd = .ok (b', cd')) : Tracks b b' := by
  rcases dispatchApplication_cases h with ⟨-, rfl, -⟩ | ⟨-, cookie, cs, hcookie, hcs, rfl, -⟩
  · exact .of_same rfl fun _ _ => rfl
  · refine .of_same rfl fun s k => openSubscription_congr ?_
    refine (ClientServiceCookies.isSubscribed_setCookie hcs s k).trans ?_
    split
    · rename_i hsk
      rw [ClientServiceCookies.isSubscribed, hsk.1, hsk.2, hcookie]
      rfl
    · rfl

theorem runPosted_tracks {reply : ServiceReply} {i i' : Invoker}
    (h : b.runPosted codec c reply i = .ok (b', i')) : Tracks b b' := by
  obtain ⟨service, cd', -, hd, -⟩ := runPosted_dispatch h
  have hlog : Tracks b (b.logCall (.dispatch i.service.toNat c)) :=
    ⟨[.dispatch i.service.toNat c], rfl, fun _ _ => .nil _⟩
  refine hlog.trans ?_
  rcases dispatch_cases hd with ⟨-, m, -, hd⟩ | ⟨t, -, hd⟩
  · exact dispatchBasic_tracks hd
  · exact dispatchApplication_tracks hd

end BackEnd

namespace World

open BackEnd

variable {codec : BasicProtocolCodec} {w w' : World} {c : ClientPtr} {l : Label}

theorem disconnect_world_closes {reply : ℕ → ServiceReply} (hfits : FitsOrdinals w)
    (hd : w.disconnect c reply = .ok w') :
    Closes { p | p.1 = c ∧ p.2 ∈ w.backEnd.cleaned } w.backEnd w'.backEnd := by
  obtain ⟨b, cd, hb, rfl⟩ := disconnect_ok hd
  exact BackEnd.disconnect_closes hfits hb

/-- The subscriptions of the clients that are gone from `w` to `w'`. -/
def closedBy (w w' : World) : Set (ClientPtr × ℕ) :=
  { p | p.1 ∈ w.backEnd.connectedClients ∧ p.1 ∉ w'.backEnd.connectedClients ∧
    p.2 ∈ w.backEnd.cleaned }

theorem cleaned_disconnect {reply : ℕ → ServiceReply} (hd : w.disconnect c reply = .ok w') :
    w'.backEnd.cleaned = w.backEnd.cleaned := by
  have hsame := disconnect_sameControl hd
  rw [cleaned, hsame.isSealed, hsame.stopped, hsame.services]
  rfl

/-- **Signalling the managers** closes the subscriptions of the clients they disconnect. -/
theorem signalManagers_closes {reply : ManagerId → ManagerReply} {ms : List ManagerId}
    {threw : Bool} (hfits : FitsOrdinals w)
    (h : signalManagers reply ms w = .ok (w', threw)) :
    Closes (closedBy w w') w.backEnd w'.backEnd := by
  have hstart : closedBy w w = ∅ := by
    ext p
    simp only [closedBy, Set.mem_ofPred_eq, Set.mem_empty_iff_false, iff_false]
    exact fun hp => hp.2.1 hp.1
  refine (signalManagers_rule (I := fun w' => Closes (closedBy w w') w.backEnd w'.backEnd ∧
    w'.backEnd.connectedClients ⊆ w.backEnd.connectedClients ∧
    w'.backEnd.cleaned = w.backEnd.cleaned ∧ FitsOrdinals w') ?_ ?_ h
    ⟨by rw [hstart]; exact .empty rfl fun _ _ => rfl, subset_rfl, rfl, hfits⟩).1
  · rintro w₁ w₂ ⟨hclose, hsub, hclean, hfits₁⟩ m - ⟨k, r⟩ - hd
    have hclose' := disconnect_world_closes hfits₁ hd
    have hclean' := cleaned_disconnect hd
    have hservices := (disconnect_sameControl hd).services
    obtain ⟨b, cd, hb, rfl⟩ := disconnect_ok hd
    obtain ⟨hmem, -, -, ⟨cs, calls, rfl⟩, -⟩ := BackEnd.disconnect_ok hb
    refine ⟨?_, (Finset.erase_subset _ _).trans hsub, hclean'.trans hclean,
      by rw [FitsOrdinals, hservices]; exact hfits₁⟩
    have hset : ∀ w₂ : World, w₂.backEnd.connectedClients = w₁.backEnd.connectedClients.erase k →
        closedBy w w₂ = closedBy w w₁ ∪ { p | p.1 = k ∧ p.2 ∈ w₁.backEnd.cleaned } := by
      intro w₂ heq
      ext ⟨k', s⟩
      simp only [closedBy, Set.mem_ofPred_eq, Set.mem_union, heq, Finset.mem_erase, hclean]
      by_cases hk : k' = k
      · subst hk
        simp [hmem, hsub hmem]
      · simp [hk]
    rw [hset _ rfl]
    refine hclose.union hclose' fun p hp hp' => hp.2.1 ?_
    rw [hp'.1]
    exact hmem
  · rintro w₁ ⟨hclose, hsub, hclean, hfits₁⟩ m -
    exact ⟨hclose, hsub, hclean, hfits₁⟩

theorem fire_calls_server (hl : l.client = none) (hsig : l.signals = false)
    (hg : w.enabled l = true) (hf : fire codec w l = .ok w') :
    w'.backEnd.calls = w.backEnd.calls ∨
      ∃ i, w.point = .teardown i ∧ w'.backEnd.calls = w.backEnd.calls ++ [.teardown i] := by
  rcases fire_sameRecords hl hf with hsame | ⟨s, rfl⟩ | rfl | ⟨reply, rfl⟩ | rfl | rfl
  · exact .inl hsame.calls
  · cases hf
    obtain ⟨services, ec, count, heq⟩ := registerAndInitService_writes s w.backEnd
    left
    simp only [setBackEnd_backEnd, heq]
  · obtain ⟨b, e, hs, rfl⟩ := start_ok hf
    obtain ⟨-, ⟨-, rfl, -⟩ | ⟨-, -, -, cs₀, cs, -, -, rfl⟩⟩ := BackEnd.start_ok hs <;>
      exact .inl rfl
  · cases hsig
  · cases hf
    exact .inl rfl
  · simp only [enabled] at hg
    split at hg
    · rename_i i hp
      rcases teardownStage_ok hp hf with ⟨-, b, e, ht, rfl⟩ | ⟨-, rfl⟩
      · obtain ⟨⟨ec, rfl⟩, -⟩ | ⟨services, ec, -, rfl⟩ := teardownService_ok ht
        · cases e <;> exact .inl rfl
        · cases e <;> exact .inr ⟨i, hp, rfl⟩
      · exact .inl rfl
    · cases hg

theorem fire_tracks_client (hfits : FitsOrdinals w) (hl : l.client = some c)
    (hf : fire codec w l = .ok w') : Tracks w.backEnd w'.backEnd := by
  cases l <;> cases hl
  case connect fresh =>
    cases hf
    cases fresh <;> exact .of_same rfl fun _ _ => rfl
  case disconnect reply => exact (disconnect_world_closes hfits hf).tracks
  case request resets r =>
    obtain ⟨b, i, rfl, -, -, ⟨-, -, rfl, -⟩ | ⟨-, rfl, -⟩⟩ := request_ok hf <;>
      exact .of_same rfl fun _ _ => rfl
  case check =>
    obtain ⟨b, i, hc, rfl⟩ := stepInvoker_ok.mp hf
    obtain ⟨cs, -, hsub, ⟨-, rfl, -⟩ | ⟨-, rfl, -⟩⟩ := checkRequest_ok hc <;>
      exact .of_same rfl fun s k => openSubscription_congr (hsub s k)
  case take =>
    cases hf
    exact .of_same rfl fun _ _ => rfl
  case run reply =>
    obtain ⟨b, i, hr, rfl⟩ := stepInvoker_ok.mp hf
    exact runPosted_tracks hr
  case finish =>
    obtain ⟨-, rfl⟩ := finish_ok hf
    exact .of_same rfl fun _ _ => rfl

theorem openSubscription_of_cookie {b b' : BackEnd} {s : ℕ} {c : ClientPtr}
    (h : b'.clientServiceCookies.lookup s c = b.clientServiceCookies.lookup s c) :
    b'.openSubscription s c = b.openSubscription s c := by
  apply openSubscription_congr
  rw [ClientServiceCookies.isSubscribed, h]
  rfl

/-- **Every step tracks the subscriptions.** -/
theorem fire_tracks (hsound : Sound w) (hfits : FitsOrdinals w) (hg : w.enabled l = true)
    (hf : fire codec w l = .ok w') : Tracks w.backEnd w'.backEnd := by
  cases hl : l.client with
  | none =>
    cases hsig : l.signals with
    | true =>
      obtain ⟨reply, rfl⟩ := Label.signals_eq_true hsig
      obtain ⟨w₁, threw, hs, rfl⟩ := signalStage_ok hf
      have htracks := (signalManagers_closes hfits hs).tracks
      cases threw <;> exact htracks
    | false =>
      have hsame : ∀ s c, w'.backEnd.openSubscription s c = w.backEnd.openSubscription s c :=
        fun s c => openSubscription_of_cookie
          (fire_lookup_server hsound.registry hl hsig hf s c)
      rcases fire_calls_server hl hsig hg hf with hcalls | ⟨i, -, hcalls⟩
      · exact .of_same hcalls hsame
      · refine ⟨_, hcalls, fun s c => ?_⟩
        rw [hsame]
        exact .nil _
  | some c => exact fire_tracks_client hfits hl hf

theorem fire_connected_client (hl : l.client = some c) {k : ClientPtr}
    (hne : ∀ reply, l ≠ .disconnect k reply) (hf : fire codec w l = .ok w')
    (h : k ∈ w.backEnd.connectedClients) : k ∈ w'.backEnd.connectedClients := by
  cases l <;> cases hl
  case connect fresh =>
    cases hf
    cases fresh <;> exact Finset.mem_insert_of_mem h
  case disconnect reply =>
    obtain ⟨b, cd, hb, rfl⟩ := disconnect_ok hf
    obtain ⟨-, -, -, ⟨cs, calls, rfl⟩, -⟩ := BackEnd.disconnect_ok hb
    refine Finset.mem_erase.mpr ⟨?_, h⟩
    rintro rfl
    exact hne reply rfl
  case request resets r =>
    obtain ⟨b, i, rfl, -, -, ⟨-, -, rfl, -⟩ | ⟨-, rfl, -⟩⟩ := request_ok hf <;> exact h
  case check =>
    obtain ⟨b, i, hc, rfl⟩ := stepInvoker_ok.mp hf
    obtain ⟨cs, -, -, ⟨-, rfl, -⟩ | ⟨-, rfl, -⟩⟩ := checkRequest_ok hc <;> exact h
  case take =>
    cases hf
    exact h
  case run reply =>
    obtain ⟨b, i, hr, rfl⟩ := stepInvoker_ok.mp hf
    obtain ⟨service, cd, -, -, hd, -⟩ := runPosted_ok hr
    obtain ⟨cs, calls, rfl⟩ := hd.eq
    exact h
  case finish =>
    obtain ⟨-, rfl⟩ := finish_ok hf
    exact h

/-- **A client that is gone after a step** had the subscriptions closed that are cleaned up. -/
theorem fire_closes (hfits : FitsOrdinals w) (hf : fire codec w l = .ok w')
    (hin : c ∈ w.backEnd.connectedClients) (hout : c ∉ w'.backEnd.connectedClients) :
    ∃ S, Closes S w.backEnd w'.backEnd ∧ ∀ s, (c, s) ∈ S ↔ s ∈ w.backEnd.cleaned := by
  cases hl : l.client with
  | none =>
    cases hsig : l.signals with
    | false =>
      rw [(fire_sameClients hl hsig hf).connectedClients] at hout
      exact absurd hin hout
    | true =>
      obtain ⟨reply, rfl⟩ := Label.signals_eq_true hsig
      obtain ⟨w₁, threw, hs, rfl⟩ := signalStage_ok hf
      have hclose := signalManagers_closes hfits hs
      have hout₁ : c ∉ w₁.backEnd.connectedClients := by cases threw <;> exact hout
      refine ⟨closedBy w w₁, by cases threw <;> exact hclose, fun s => ?_⟩
      simp only [closedBy, Set.mem_ofPred_eq]
      exact ⟨fun h => h.2.2, fun h => ⟨hin, hout₁, h⟩⟩
  | some k =>
    by_cases hdisc : ∃ reply, l = .disconnect c reply
    · obtain ⟨reply, rfl⟩ := hdisc
      exact ⟨_, disconnect_world_closes hfits hf, fun s => by simp⟩
    · exact absurd (fire_connected_client hl (fun reply h => hdisc ⟨reply, h⟩) hf hin) hout

end World

end RblRpc
