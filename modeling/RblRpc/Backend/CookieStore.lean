import RblRpc.Backend.ClientServiceCookies
import RblRpc.Lib.Machine

/-!
# The cookie store as a finite map

`ClientServiceCookies` behind the pointers it hands out.  A `ClientCookie *` is a node of a map:
the pair it was made for, and its number among the nodes made for that pair.

* `CookieHeap.perform` — the calls on the store and on retrieved cookies, with their answers.
* `cookieMachine` — all sequences of calls at activated ordinals.
* `Held` — a pair was created and not deleted since.
* `cookie_store_is_map` — what a retrieve returns, what the results and counts say, and that calls
  for one pair do not show at another.
-/

namespace RblRpc

open Transition ClientServiceCookies

/-- `ClientCookie *`. -/
structure CookieHandle where
  service : UInt16
  client : ClientPtr
  node : ℕ
  deriving DecidableEq

/-- What callers do through a `ClientCookie *`. -/
inductive CookieChange where
  | subscribe
  | createCookie (base : ℕ)
  | destroyCookie
  deriving DecidableEq

/-- Calls on the store, and on a cookie retrieved from it. -/
inductive CookieCall where
  | createOrRetrieveCookie (o : UInt16) (k : ClientPtr)
  | deleteCookie (o : UInt16) (k : ClientPtr)
  | containsCookie (o : UInt16) (k : ClientPtr)
  | cookieCount (o : UInt16)
  | change (h : CookieHandle) (what : CookieChange)
  deriving DecidableEq

/-- What a call answers: a pointer and what it points to, a result, or a result and a size. -/
inductive CookieAnswer where
  | cookie (h : CookieHandle) (c : ClientCookie)
  | result (r : CookieResult)
  | count (r : CookieResult) (n : ℕ)
  | changed

/-- Where a sequence of calls ends: a fault of the store, a pointer to a deleted cookie, or the
assertion of `create_cookie`. -/
inductive CookieFault where
  | store (f : Fault)
  | dangling
  | cookieBasePresent
  deriving DecidableEq

/-- `subscribe`, `create_cookie` and `destroy_cookie`. -/
def CookieChange.apply (c : ClientCookie) : CookieChange → Except CookieFault ClientCookie
  | subscribe => .ok { c with subscribed := true }
  | createCookie base =>
    if c.cookieBase = none then .ok { c with cookieBase := some base }
    else .error .cookieBasePresent
  | destroyCookie => .ok { c with cookieBase := none }

/-- The store, with the number of nodes made for each pair. -/
structure CookieHeap where
  store : ClientServiceCookies
  made : UInt16 → ClientPtr → ℕ

namespace CookieHeap

/-- The cookie of a pair. -/
def cookieAt (s : CookieHeap) (o : UInt16) (k : ClientPtr) : Option ClientCookie :=
  s.store.lookup o.toNat k

/-- A node is made for a pair that has none. -/
def makeNode (s : CookieHeap) (o : UInt16) (k : ClientPtr) : UInt16 → ClientPtr → ℕ :=
  fun o' k' =>
    if o' = o ∧ k' = k ∧ s.cookieAt o k = none then s.made o' k' + 1 else s.made o' k'

/-- A call: what it leaves, and its answer. -/
def perform (s : CookieHeap) : CookieCall → Except CookieFault (CookieHeap × CookieAnswer)
  | .createOrRetrieveCookie o k => do
    let store ← (s.store.createOrRetrieveCookie o k).mapError .store
    let t : CookieHeap := ⟨store, s.makeNode o k⟩
    match t.cookieAt o k with
    | none => .error .dangling
    | some c => .ok (t, .cookie ⟨o, k, t.made o k⟩ c)
  | .deleteCookie o k => do
    let (r, store) ← (s.store.deleteCookie o k).mapError .store
    return ({ s with store }, .result r)
  | .containsCookie o k => do
    return (s, .result (← (s.store.containsCookie o k).mapError .store))
  | .cookieCount o => do
    let (r, n) ← (s.store.cookieCount o).mapError .store
    return (s, .count r n)
  | .change h what => do
    match s.cookieAt h.service h.client with
    | none => .error .dangling
    | some c =>
      if s.made h.service h.client = h.node then
        let c ← what.apply c
        let store ← (s.store.setCookie h.service h.client c).mapError .store
        return ({ s with store }, .changed)
      else .error .dangling

end CookieHeap

/-- The ordinal a call is made at. -/
def CookieCall.service : CookieCall → UInt16
  | createOrRetrieveCookie o _ => o
  | deleteCookie o _ => o
  | containsCookie o _ => o
  | cookieCount o => o
  | change h _ => h.service

/-- The call is for this pair. -/
def CookieCall.Concerns (o : UInt16) (k : ClientPtr) : CookieCall → Prop
  | createOrRetrieveCookie o' k' => o' = o ∧ k' = k
  | deleteCookie o' k' => o' = o ∧ k' = k
  | containsCookie o' k' => o' = o ∧ k' = k
  | cookieCount _ => False
  | change h _ => h.service = o ∧ h.client = k

/-- Calls at activated ordinals. -/
def cookieMachine : Machine CookieHeap CookieCall CookieFault where
  guard s call := s.store.isActive call.service.toNat
  fire s call := (s.perform call).map (·.1)

/-- `set_size`, and `activate_service_with_ordinal` for each of the ordinals. -/
def preparedStore (sz : ℕ) (ordinals : List UInt16) : Except Fault ClientServiceCookies := do
  let cs ← ({} : ClientServiceCookies).setSize sz
  ordinals.foldlM (fun cs o => cs.activateServiceWithOrdinal o) cs

theorem CookieChange.apply_error {c : ClientCookie} {what : CookieChange} {f : CookieFault}
    (h : what.apply c = .error f) : f = .cookieBasePresent := by
  cases what with
  | subscribe => cases h
  | createCookie base =>
    simp only [CookieChange.apply] at h
    split at h
    · cases h
    · cases h
      rfl
  | destroyCookie => cases h

namespace CookieHeap

variable {s t : CookieHeap} {o o' : UInt16} {k k' : ClientPtr} {a : CookieAnswer}

/-! ## What one call does -/

theorem toNat_pair_iff : (o'.toNat = o.toNat ∧ k' = k) ↔ (o' = o ∧ k' = k) := by
  rw [UInt16.toNat_inj]

theorem perform_createOrRetrieveCookie
    (h : s.perform (.createOrRetrieveCookie o k) = .ok (t, a)) :
    a = .cookie ⟨o, k, t.made o k⟩ ((s.cookieAt o k).getD {}) ∧ t.made = s.makeNode o k ∧
      SameShape s.store t.store ∧ ∀ o' k', t.cookieAt o' k' =
        if o' = o ∧ k' = k then some ((s.cookieAt o k).getD {}) else s.cookieAt o' k' := by
  obtain ⟨store, hstore, h⟩ := bind_eq_ok.mp h
  obtain ⟨hshape, hlookup⟩ := createOrRetrieveCookie_ok (mapError_eq_ok.mp hstore)
  have hcookie : ∀ o' k', store.lookup o'.toNat k' =
      if o' = o ∧ k' = k then some ((s.cookieAt o k).getD {}) else s.cookieAt o' k' := by
    intro o' k'
    rw [hlookup]
    simp only [toNat_pair_iff]
    rfl
  have hown : (⟨store, s.makeNode o k⟩ : CookieHeap).cookieAt o k =
      some ((s.cookieAt o k).getD {}) := (hcookie o k).trans (if_pos ⟨rfl, rfl⟩)
  simp only [hown] at h
  cases h
  exact ⟨rfl, rfl, hshape, hcookie⟩

theorem perform_deleteCookie (h : s.perform (.deleteCookie o k) = .ok (t, a)) :
    a = .result (if (s.cookieAt o k).isSome = true then .success else .cookieAbsent) ∧
      t.made = s.made ∧ SameShape s.store t.store ∧ ∀ o' k', t.cookieAt o' k' =
        if o' = o ∧ k' = k then none else s.cookieAt o' k' := by
  obtain ⟨⟨r, store⟩, hstore, h⟩ := bind_eq_ok.mp h
  have hstore := mapError_eq_ok.mp hstore
  obtain ⟨hshape, hlookup⟩ := deleteCookie_ok hstore
  cases h
  refine ⟨?_, rfl, hshape, fun o' k' => ?_⟩
  · rw [deleteCookie_result hstore]
    rfl
  · rw [cookieAt, hlookup]
    simp only [toNat_pair_iff]
    rfl

theorem perform_containsCookie (h : s.perform (.containsCookie o k) = .ok (t, a)) :
    t = s ∧
      a = .result (if (s.cookieAt o k).isSome = true then .success else .cookieAbsent) := by
  obtain ⟨r, hr, h⟩ := bind_eq_ok.mp h
  cases h
  rw [containsCookie_ok (mapError_eq_ok.mp hr)]
  exact ⟨rfl, rfl⟩

theorem perform_cookieCount (h : s.perform (.cookieCount o) = .ok (t, a)) :
    t = s ∧ a = .count .success {k | (s.cookieAt o k).isSome = true}.ncard := by
  obtain ⟨⟨r, n⟩, hr, h⟩ := bind_eq_ok.mp h
  cases h
  obtain ⟨rfl, rfl⟩ := cookieCount_ok (mapError_eq_ok.mp hr)
  exact ⟨rfl, rfl⟩

theorem perform_change {h : CookieHandle} {what : CookieChange}
    (hp : s.perform (.change h what) = .ok (t, a)) :
    a = .changed ∧ t.made = s.made ∧ SameShape s.store t.store ∧
      s.made h.service h.client = h.node ∧ ∃ c c', s.cookieAt h.service h.client = some c ∧
        what.apply c = .ok c' ∧ ∀ o' k', t.cookieAt o' k' =
          if o' = h.service ∧ k' = h.client then some c' else s.cookieAt o' k' := by
  simp only [perform] at hp
  split at hp
  · cases hp
  · rename_i c hc
    split at hp
    · rename_i hnode
      obtain ⟨c', hc', hp⟩ := bind_eq_ok.mp hp
      obtain ⟨store, hstore, hp⟩ := bind_eq_ok.mp hp
      cases hp
      obtain ⟨hshape, -, hlookup⟩ := setCookie_ok (mapError_eq_ok.mp hstore)
      refine ⟨rfl, rfl, hshape, hnode, c, c', hc, hc', fun o' k' => ?_⟩
      rw [cookieAt, hlookup]
      simp only [toNat_pair_iff]
      rfl
    · cases hp

/-- At an activated ordinal only the misuse of a pointer fails. -/
theorem perform_total {call : CookieCall} (h : s.store.isActive call.service.toNat = true) :
    (∃ t a, s.perform call = .ok (t, a)) ∨ ∃ h what, call = .change h what ∧
      (s.perform call = .error .dangling ∨ s.perform call = .error .cookieBasePresent) := by
  match call with
  | .createOrRetrieveCookie o k =>
    obtain ⟨store, hstore⟩ := createOrRetrieveCookie_total h k
    have hown : (⟨store, s.makeNode o k⟩ : CookieHeap).cookieAt o k =
        some ((s.cookieAt o k).getD {}) := by
      rw [cookieAt, (createOrRetrieveCookie_ok hstore).2, if_pos ⟨rfl, rfl⟩]
      rfl
    refine .inl ⟨⟨store, s.makeNode o k⟩,
      .cookie ⟨o, k, s.makeNode o k o k⟩ ((s.cookieAt o k).getD {}), ?_⟩
    simp only [perform, CookieCall.service] at hstore ⊢
    simp only [hstore, Except.mapError, bind, Except.bind, hown]
  | .deleteCookie o k =>
    obtain ⟨r, store, hstore⟩ := deleteCookie_total h k
    refine .inl ⟨{ s with store }, .result r, ?_⟩
    simp only [perform, CookieCall.service] at hstore ⊢
    simp only [hstore, Except.mapError, bind, Except.bind, pure, Except.pure]
  | .containsCookie o k =>
    obtain ⟨r, hr⟩ := containsCookie_total h k
    refine .inl ⟨s, .result r, ?_⟩
    simp only [perform, CookieCall.service] at hr ⊢
    simp only [hr, Except.mapError, bind, Except.bind, pure, Except.pure]
  | .cookieCount o =>
    obtain ⟨r, n, hr⟩ := cookieCount_total h
    refine .inl ⟨s, .count r n, ?_⟩
    simp only [perform, CookieCall.service] at hr ⊢
    simp only [hr, Except.mapError, bind, Except.bind, pure, Except.pure]
  | .change h what =>
    simp only [perform]
    cases hc : s.cookieAt h.service h.client with
    | none => exact .inr ⟨h, what, rfl, .inl rfl⟩
    | some c =>
      simp only
      split
      · cases hw : what.apply c with
        | error f =>
          refine .inr ⟨h, what, rfl, .inr ?_⟩
          rw [CookieChange.apply_error hw]
          rfl
        | ok c' =>
          obtain ⟨store, hstore⟩ := setCookie_total (o := h.service) (k := h.client)
            (Option.isSome_of_eq_some hc) c'
          refine .inl ⟨{ s with store }, .changed, ?_⟩
          simp only [hstore, Except.mapError, bind, Except.bind, pure, Except.pure]
      · exact .inr ⟨h, what, rfl, .inl rfl⟩

/-- **What a call does to the presence of a cookie**, and to its node. -/
theorem perform_presence {call : CookieCall} (h : s.perform call = .ok (t, a)) (o : UInt16)
    (k : ClientPtr) :
    ((t.cookieAt o k).isSome = true ↔ call = .createOrRetrieveCookie o k ∨
      (s.cookieAt o k).isSome = true ∧ call ≠ .deleteCookie o k) ∧
    s.made o k ≤ t.made o k ∧
    ((s.cookieAt o k).isSome = true → t.made o k = s.made o k) := by
  match call with
  | .createOrRetrieveCookie o' k' =>
    obtain ⟨-, hmade, -, hcookie⟩ := perform_createOrRetrieveCookie h
    rw [hmade, hcookie, makeNode]
    by_cases hpair : o = o' ∧ k = k'
    · obtain ⟨rfl, rfl⟩ := hpair
      refine ⟨by simp, ?_, fun hsome => ?_⟩
      · split <;> omega
      · rw [if_neg]
        rintro ⟨-, -, hnone⟩
        rw [hnone] at hsome
        cases hsome
    · rw [if_neg hpair, if_neg fun hc => hpair ⟨hc.1, hc.2.1⟩]
      refine ⟨?_, le_rfl, fun _ => rfl⟩
      constructor
      · intro hsome
        exact .inr ⟨hsome, by simp⟩
      · rintro (heq | ⟨hsome, -⟩)
        · cases heq
          exact absurd ⟨rfl, rfl⟩ hpair
        · exact hsome
  | .deleteCookie o' k' =>
    obtain ⟨-, hmade, -, hcookie⟩ := perform_deleteCookie h
    rw [hmade, hcookie]
    refine ⟨?_, le_rfl, fun _ => rfl⟩
    by_cases hpair : o = o' ∧ k = k'
    · obtain ⟨rfl, rfl⟩ := hpair
      simp
    · rw [if_neg hpair]
      constructor
      · intro hsome
        refine .inr ⟨hsome, fun heq => ?_⟩
        cases heq
        exact hpair ⟨rfl, rfl⟩
      · rintro (heq | ⟨hsome, -⟩)
        · cases heq
        · exact hsome
  | .containsCookie o' k' =>
    obtain ⟨rfl, -⟩ := perform_containsCookie h
    exact ⟨by simp, le_rfl, fun _ => rfl⟩
  | .cookieCount o' =>
    obtain ⟨rfl, -⟩ := perform_cookieCount h
    exact ⟨by simp, le_rfl, fun _ => rfl⟩
  | .change p what =>
    obtain ⟨-, hmade, -, -, c, c', hc, -, hcookie⟩ := perform_change h
    rw [hmade, hcookie]
    refine ⟨?_, le_rfl, fun _ => rfl⟩
    split
    · rename_i hpair
      rw [hpair.1, hpair.2, hc]
      simp
    · simp

/-- A call for one pair leaves the others, and the activated ordinals. -/
theorem perform_frame {call : CookieCall} (h : s.perform call = .ok (t, a)) :
    SameShape s.store t.store ∧ ∀ o k, ¬call.Concerns o k →
      t.cookieAt o k = s.cookieAt o k ∧ t.made o k = s.made o k := by
  match call with
  | .createOrRetrieveCookie o' k' =>
    obtain ⟨-, hmade, hshape, hcookie⟩ := perform_createOrRetrieveCookie h
    refine ⟨hshape, fun o k hother => ⟨?_, ?_⟩⟩
    · rw [hcookie, if_neg fun hc => hother ⟨hc.1.symm, hc.2.symm⟩]
    · rw [hmade, makeNode, if_neg fun hc => hother ⟨hc.1.symm, hc.2.1.symm⟩]
  | .deleteCookie o' k' =>
    obtain ⟨-, hmade, hshape, hcookie⟩ := perform_deleteCookie h
    refine ⟨hshape, fun o k hother => ⟨?_, congrFun (congrFun hmade o) k⟩⟩
    rw [hcookie, if_neg fun hc => hother ⟨hc.1.symm, hc.2.symm⟩]
  | .containsCookie o' k' =>
    obtain ⟨rfl, -⟩ := perform_containsCookie h
    exact ⟨.refl _, fun _ _ _ => ⟨rfl, rfl⟩⟩
  | .cookieCount o' =>
    obtain ⟨rfl, -⟩ := perform_cookieCount h
    exact ⟨.refl _, fun _ _ _ => ⟨rfl, rfl⟩⟩
  | .change p what =>
    obtain ⟨-, hmade, hshape, -, c, c', -, -, hcookie⟩ := perform_change h
    refine ⟨hshape, fun o k hother => ⟨?_, congrFun (congrFun hmade o) k⟩⟩
    rw [hcookie, if_neg fun hc => hother ⟨hc.1.symm, hc.2.symm⟩]

end CookieHeap

/-- What a call for a pair answers, given the cookie of the pair and its number of nodes. -/
def CookieCall.answerOf (cookie : Option ClientCookie) (made : ℕ) :
    CookieCall → Except CookieFault CookieAnswer
  | createOrRetrieveCookie o k =>
    .ok (.cookie ⟨o, k, if cookie = none then made + 1 else made⟩ (cookie.getD {}))
  | deleteCookie _ _ => .ok (.result (if cookie.isSome = true then .success else .cookieAbsent))
  | containsCookie _ _ => .ok (.result (if cookie.isSome = true then .success else .cookieAbsent))
  | cookieCount _ => .error .dangling
  | change h what =>
    match cookie with
    | none => .error .dangling
    | some c => if made = h.node then (what.apply c).map fun _ => .changed else .error .dangling

/-- **What a call answers** is what its pair holds. -/
theorem CookieHeap.perform_answer {s : CookieHeap} {call : CookieCall} {o : UInt16} {k : ClientPtr}
    (hc : call.Concerns o k) (h : s.store.isActive call.service.toNat = true) :
    (s.perform call).map (·.2) = call.answerOf (s.cookieAt o k) (s.made o k) := by
  have hok : ∀ {t a}, s.perform call = .ok (t, a) → (s.perform call).map (·.2) = .ok a :=
    fun hp => by rw [hp]; rfl
  cases call with
  | createOrRetrieveCookie o' k' =>
    obtain ⟨rfl, rfl⟩ := hc
    obtain ⟨t, a, hp⟩ := (perform_total h).resolve_right fun ⟨_, _, hne, _⟩ => by cases hne
    obtain ⟨rfl, hmade, -⟩ := perform_createOrRetrieveCookie hp
    rw [hok hp, hmade]
    simp only [makeNode, true_and, CookieCall.answerOf]
  | deleteCookie o' k' =>
    obtain ⟨rfl, rfl⟩ := hc
    obtain ⟨t, a, hp⟩ := (perform_total h).resolve_right fun ⟨_, _, hne, _⟩ => by cases hne
    rw [hok hp, (perform_deleteCookie hp).1]
    rfl
  | containsCookie o' k' =>
    obtain ⟨rfl, rfl⟩ := hc
    obtain ⟨t, a, hp⟩ := (perform_total h).resolve_right fun ⟨_, _, hne, _⟩ => by cases hne
    rw [hok hp, (perform_containsCookie hp).2]
    rfl
  | cookieCount o' => exact hc.elim
  | change p what =>
    obtain ⟨rfl, rfl⟩ := hc
    simp only [perform, CookieCall.answerOf]
    cases hcookie : s.cookieAt p.service p.client with
    | none => rfl
    | some c =>
      simp only
      split
      · cases hw : what.apply c with
        | error f => rfl
        | ok c' =>
          obtain ⟨store, hstore⟩ := setCookie_total (o := p.service) (k := p.client)
            (Option.isSome_of_eq_some hcookie) c'
          simp only [hstore, Except.mapError, Except.map, bind, Except.bind, pure, Except.pure]
      · rfl

theorem CookieHeap.count_answer {s : CookieHeap} {o : UInt16}
    (h : s.store.isActive o.toNat = true) : (s.perform (.cookieCount o)).map (·.2) =
      .ok (.count .success {k | (s.cookieAt o k).isSome = true}.ncard) := by
  have htotal : (∃ t a, s.perform (.cookieCount o) = .ok (t, a)) ∨ _ := perform_total h
  obtain ⟨t, a, hp⟩ := htotal.resolve_right fun ⟨_, _, hne, _⟩ => by cases hne
  rw [hp, (perform_cookieCount hp).2]
  rfl

theorem CookieCall.Concerns.service {call : CookieCall} {o : UInt16} {k : ClientPtr}
    (h : call.Concerns o k) : call.service = o := by
  cases call with
  | cookieCount o' => exact h.elim
  | createOrRetrieveCookie o' k' => exact h.1
  | deleteCookie o' k' => exact h.1
  | containsCookie o' k' => exact h.1
  | change p what => exact h.1

/-! ## Runs -/

/-- The pair was created and not deleted since. -/
def Held (calls : List CookieCall) (o : UInt16) (k : ClientPtr) : Prop :=
  ∃ pre post, calls = pre ++ .createOrRetrieveCookie o k :: post ∧ .deleteCookie o k ∉ post

section Runs

variable {s t : CookieHeap} {tr : List (CookieHeap × CookieCall)} {o : UInt16} {k : ClientPtr}

/-- The calls of a run. -/
def callsOf (tr : List (CookieHeap × CookieCall)) : List CookieCall := tr.map Prod.snd

theorem fire_perform {call : CookieCall} (h : cookieMachine.fire s call = .ok t) :
    ∃ a, s.perform call = .ok (t, a) := by
  simp only [cookieMachine] at h
  cases hp : s.perform call with
  | error f =>
    rw [hp] at h
    cases h
  | ok q =>
    rw [hp] at h
    cases h
    exact ⟨q.2, rfl⟩

theorem held_cons {call : CookieCall} {calls : List CookieCall} :
    Held (call :: calls) o k ↔
      Held calls o k ∨ call = .createOrRetrieveCookie o k ∧ .deleteCookie o k ∉ calls := by
  constructor
  · rintro ⟨pre, post, heq, hnot⟩
    cases pre with
    | nil =>
      cases heq
      exact .inr ⟨rfl, hnot⟩
    | cons c pre =>
      cases heq
      exact .inl ⟨pre, post, rfl, hnot⟩
  · rintro (⟨pre, post, rfl, hnot⟩ | ⟨rfl, hnot⟩)
    · exact ⟨call :: pre, post, rfl, hnot⟩
    · exact ⟨[], calls, rfl, hnot⟩

/-- **A pair is present after a run** if it is held, or was there and has not been deleted. -/
theorem run_presence (h : cookieMachine.Run s tr (.ok t)) (o : UInt16) (k : ClientPtr) :
    (t.cookieAt o k).isSome = true ↔ Held (callsOf tr) o k ∨
      (s.cookieAt o k).isSome = true ∧ .deleteCookie o k ∉ callsOf tr := by
  generalize hr : (Except.ok t : Except CookieFault CookieHeap) = r at h
  induction h with
  | done s =>
    cases hr
    have hnone : ¬Held (callsOf []) o k := by
      rintro ⟨pre, post, heq, -⟩
      cases pre <;> cases heq
    rw [or_iff_right hnone]
    exact (and_iff_left List.not_mem_nil).symm
  | fault => cases hr
  | @step s s₁ call tr r _ hf _ ih =>
    obtain ⟨a, hp⟩ := fire_perform hf
    have hone := (CookieHeap.perform_presence hp o k).1
    have hcalls : callsOf ((s, call) :: tr) = call :: callsOf tr := rfl
    rw [ih hr, hone, hcalls, held_cons, List.mem_cons, not_or]
    constructor
    · rintro (hheld | ⟨hcreate | ⟨hsome, hne⟩, hnot⟩)
      · exact .inl (.inl hheld)
      · exact .inl (.inr ⟨hcreate, hnot⟩)
      · exact .inr ⟨hsome, Ne.symm hne, hnot⟩
    · rintro ((hheld | ⟨hcreate, hnot⟩) | ⟨hsome, hne, hnot⟩)
      · exact .inl hheld
      · exact .inr ⟨.inl hcreate, hnot⟩
      · exact .inr ⟨.inr ⟨hsome, Ne.symm hne⟩, hnot⟩

/-- Nodes are never reused, and a cookie that is not deleted keeps its node. -/
theorem run_made (h : cookieMachine.Run s tr (.ok t)) (o : UInt16) (k : ClientPtr) :
    s.made o k ≤ t.made o k ∧ ((s.cookieAt o k).isSome = true →
      .deleteCookie o k ∉ callsOf tr → t.made o k = s.made o k) := by
  generalize hr : (Except.ok t : Except CookieFault CookieHeap) = r at h
  induction h with
  | done s =>
    cases hr
    exact ⟨le_rfl, fun _ _ => rfl⟩
  | fault => cases hr
  | @step s s₁ call tr r _ hf _ ih =>
    obtain ⟨a, hp⟩ := fire_perform hf
    obtain ⟨hone, hle, hkeep⟩ := CookieHeap.perform_presence hp o k
    obtain ⟨hle', hkeep'⟩ := ih hr
    refine ⟨hle.trans hle', fun hsome hnot => ?_⟩
    have hcalls : callsOf ((s, call) :: tr) = call :: callsOf tr := rfl
    rw [hcalls, List.mem_cons, not_or] at hnot
    rw [hkeep' (hone.mpr (.inr ⟨hsome, Ne.symm hnot.1⟩)) hnot.2, hkeep hsome]

/-- The laws of a finite map with two keys, for the calls of a run. -/
structure FiniteMapLaws (tr : List (CookieHeap × CookieCall)) : Prop where
  /-- Every call answers, unless a pointer is misused. -/
  answered : ∀ p ∈ tr, (∃ t a, p.1.perform p.2 = .ok (t, a)) ∨ ∃ h what, p.2 = .change h what ∧
    (p.1.perform p.2 = .error .dangling ∨ p.1.perform p.2 = .error .cookieBasePresent)
  /-- The first retrieve for a pair gives an empty cookie. -/
  first : ∀ {pre p post o k t a}, tr = pre ++ p :: post → p.2 = .createOrRetrieveCookie o k →
    p.1.perform p.2 = .ok (t, a) → .createOrRetrieveCookie o k ∉ callsOf pre →
    ∃ h, a = .cookie h {}
  /-- A later one gives the same cookie, if it was not deleted, -/
  same : ∀ {pre q mid p post o k t a t' a'}, tr = pre ++ q :: (mid ++ p :: post) →
    q.2 = .createOrRetrieveCookie o k → p.2 = .createOrRetrieveCookie o k →
    q.1.perform q.2 = .ok (t, a) → p.1.perform p.2 = .ok (t', a') →
    .deleteCookie o k ∉ callsOf mid → ∃ h c c', a = .cookie h c ∧ a' = .cookie h c'
  /-- and else another one, which is empty. -/
  renewed : ∀ {pre q mid p post o k t a t' a'}, tr = pre ++ q :: (mid ++ p :: post) →
    q.2 = .createOrRetrieveCookie o k → p.2 = .createOrRetrieveCookie o k →
    q.1.perform q.2 = .ok (t, a) → p.1.perform p.2 = .ok (t', a') →
    .createOrRetrieveCookie o k ∉ callsOf mid → .deleteCookie o k ∈ callsOf mid →
    ∃ h c h', a = .cookie h c ∧ a' = .cookie h' {} ∧ h' ≠ h
  /-- A retrieved pointer can be used until the cookie is deleted. -/
  usable : ∀ {pre q mid p post o k t h c what}, tr = pre ++ q :: (mid ++ p :: post) →
    q.2 = .createOrRetrieveCookie o k → p.2 = .change h what →
    q.1.perform q.2 = .ok (t, .cookie h c) → .deleteCookie o k ∉ callsOf mid →
    p.1.perform p.2 ≠ .error .dangling
  /-- A change is what the next retrieve sees. -/
  changed : ∀ {p h what t a}, p ∈ tr → p.2 = .change h what → p.1.perform p.2 = .ok (t, a) →
    ∃ c c', p.1.cookieAt h.service h.client = some c ∧ what.apply c = .ok c' ∧
      (t.perform (.createOrRetrieveCookie h.service h.client)).map (·.2) = .ok (.cookie h c')
  deleted : ∀ {pre p post o k t a}, tr = pre ++ p :: post → p.2 = .deleteCookie o k →
    p.1.perform p.2 = .ok (t, a) → (a = .result .success ↔ Held (callsOf pre) o k)
  contained : ∀ {pre p post o k t a}, tr = pre ++ p :: post → p.2 = .containsCookie o k →
    p.1.perform p.2 = .ok (t, a) → (a = .result .success ↔ Held (callsOf pre) o k)
  counted : ∀ {pre p post o t a}, tr = pre ++ p :: post → p.2 = .cookieCount o →
    p.1.perform p.2 = .ok (t, a) → a = .count .success {k | Held (callsOf pre) o k}.ncard
  /-- What is not for a pair changes no answer for it. -/
  frame : ∀ {p t a o k call}, p ∈ tr → p.1.perform p.2 = .ok (t, a) → ¬p.2.Concerns o k →
    call.Concerns o k → cookieMachine.guard p.1 call = true →
    (t.perform call).map (·.2) = (p.1.perform call).map (·.2)
  /-- What is not for a service changes no count of it. -/
  frameCount : ∀ {p t a o}, p ∈ tr → p.1.perform p.2 = .ok (t, a) → p.2.service ≠ o →
    cookieMachine.guard p.1 (.cookieCount o) = true →
    (t.perform (.cookieCount o)).map (·.2) = (p.1.perform (.cookieCount o)).map (·.2)

theorem preparedStore_lookup {sz : ℕ} {ordinals : List UInt16} {cs : ClientServiceCookies}
    (h : preparedStore sz ordinals = .ok cs) (n : ℕ) (k : ClientPtr) : cs.lookup n k = none := by
  obtain ⟨cs₀, hsize, hfold⟩ := bind_eq_ok.mp h
  have hnone := setSize_lookup hsize
  clear h hsize
  induction ordinals generalizing cs₀ with
  | nil =>
    cases hfold
    exact hnone n k
  | cons o os ih =>
    rw [List.foldlM_cons] at hfold
    obtain ⟨cs₁, hact, hfold⟩ := bind_eq_ok.mp hfold
    exact ih cs₁ hfold (activateServiceWithOrdinal_lookup hact hnone)

/-- A retrieve later in a run, and the state it is made in. -/
theorem between {s₀ : CookieHeap} {r : Except CookieFault CookieHeap}
    {pre mid post : List (CookieHeap × CookieCall)} {q p : CookieHeap × CookieCall}
    {a : CookieAnswer} (h : cookieMachine.Run s₀ (pre ++ q :: (mid ++ p :: post)) r)
    (hq : q.1.perform q.2 = .ok (t, a)) : cookieMachine.Run t mid (.ok p.1) := by
  have hrest := h.split.2
  rw [← List.cons_append] at hrest
  obtain ⟨-, -, t', hf, hmid⟩ := hrest.split.1.uncons
  obtain ⟨a', hp⟩ := fire_perform hf
  rw [hq] at hp
  cases hp
  exact hmid

/-- The node of a cookie that a retrieve found. -/
theorem retrieved_node {a : CookieAnswer} {q : CookieHeap × CookieCall}
    (hcall : q.2 = .createOrRetrieveCookie o k) (hq : q.1.perform q.2 = .ok (t, a)) :
    a = .cookie ⟨o, k, t.made o k⟩ ((q.1.cookieAt o k).getD {}) ∧
      (t.cookieAt o k).isSome = true ∧
      t.made o k = if q.1.cookieAt o k = none then q.1.made o k + 1 else q.1.made o k := by
  rw [hcall] at hq
  obtain ⟨ha, hmade, -, hcookie⟩ := CookieHeap.perform_createOrRetrieveCookie hq
  refine ⟨ha, by rw [hcookie, if_pos ⟨rfl, rfl⟩]; rfl, ?_⟩
  rw [hmade, CookieHeap.makeNode]
  simp only [true_and]

/-- **The cookie store is a finite map** from services and clients to cookies: for every size, every
set of activated ordinals and every sequence of calls at them. -/
theorem cookie_store_is_map {sz : ℕ} {ordinals : List UInt16} {cs : ClientServiceCookies}
    {r : Except CookieFault CookieHeap} (hcs : preparedStore sz ordinals = .ok cs)
    (hrun : cookieMachine.Run ⟨cs, fun _ _ => 0⟩ tr r) : FiniteMapLaws tr := by
  have hpresent : ∀ {pre p post}, tr = pre ++ p :: post → ∀ o k,
      (p.1.cookieAt o k).isSome = true ↔ Held (callsOf pre) o k := by
    intro pre p post htr o k
    subst htr
    have hnone : (⟨cs, fun _ _ => 0⟩ : CookieHeap).cookieAt o k = none :=
      preparedStore_lookup hcs _ _
    rw [run_presence hrun.split.1 o k, hnone]
    simp
  have hguard := hrun.guard
  refine ⟨fun p hp => CookieHeap.perform_total (hguard p hp),
    ?_, ?_, ?_, ?_, ?_, ?_, ?_, ?_, ?_, ?_⟩
  · -- first
    intro pre p post o k t a htr hcall hp hnew
    obtain ⟨ha, -⟩ := retrieved_node hcall hp
    have hnone : p.1.cookieAt o k = none := by
      rw [← Option.not_isSome_iff_eq_none, hpresent htr]
      rintro ⟨pre', post', heq, -⟩
      rw [heq] at hnew
      exact hnew (by simp)
    exact ⟨_, by rw [ha, hnone]; rfl⟩
  · -- same
    intro pre q mid p post o k t a t' a' htr hq hp hpq hpp hnot
    subst htr
    obtain ⟨ha, hsome, -⟩ := retrieved_node hq hpq
    obtain ⟨ha', -, hnode⟩ := retrieved_node hp hpp
    have hmid := between hrun hpq
    have hkept := (run_made hmid o k).2 hsome hnot
    have hthere := (run_presence hmid o k).mpr (.inr ⟨hsome, hnot⟩)
    have hfound : p.1.cookieAt o k ≠ none := fun hnone => by
      rw [hnone] at hthere
      cases hthere
    rw [if_neg hfound, hkept] at hnode
    exact ⟨_, _, _, ha, by rw [ha', hnode]⟩
  · -- renewed
    intro pre q mid p post o k t a t' a' htr hq hp hpq hpp hnew hdel
    subst htr
    obtain ⟨ha, -, -⟩ := retrieved_node hq hpq
    obtain ⟨ha', -, hnode⟩ := retrieved_node hp hpp
    have hmid := between hrun hpq
    have hle := (run_made hmid o k).1
    have hnone : p.1.cookieAt o k = none := by
      rw [← Option.not_isSome_iff_eq_none, run_presence hmid o k]
      rintro (⟨pre', post', heq, -⟩ | ⟨-, hnot⟩)
      · rw [heq] at hnew
        exact hnew (by simp)
      · exact hnot hdel
    rw [if_pos hnone] at hnode
    refine ⟨_, _, _, ha, by rw [ha', hnone]; rfl, fun heq => ?_⟩
    have hsame := congrArg CookieHandle.node heq
    simp only at hsame
    omega
  · -- usable
    intro pre q mid p post o k t h c what htr hq hp hpq hnot hdangling
    subst htr
    obtain ⟨ha, hsome, -⟩ := retrieved_node hq hpq
    cases ha
    have hmid := between hrun hpq
    have hkept := (run_made hmid o k).2 hsome hnot
    have hthere := (run_presence hmid o k).mpr (.inr ⟨hsome, hnot⟩)
    obtain ⟨c', hc'⟩ := Option.isSome_iff_exists.mp hthere
    have hactive := hguard p (by simp)
    rw [hp] at hdangling hactive
    have hown : (CookieCall.change ⟨o, k, t.made o k⟩ what).Concerns o k := ⟨rfl, rfl⟩
    have hanswer := CookieHeap.perform_answer hown hactive
    rw [hdangling, hc'] at hanswer
    simp only [CookieCall.answerOf, hkept, if_true] at hanswer
    cases hw : what.apply c' with
    | ok c'' =>
      rw [hw] at hanswer
      cases hanswer
    | error f =>
      rw [hw, CookieChange.apply_error hw] at hanswer
      cases hanswer
  · -- changed
    intro p h what t a hp hcall hperform
    have hactive := hguard p hp
    rw [hcall] at hperform hactive
    obtain ⟨-, hmade, hshape, hnode, c, c', hc, hw, hcookie⟩ := CookieHeap.perform_change hperform
    have hown : t.cookieAt h.service h.client = some c' := by rw [hcookie, if_pos ⟨rfl, rfl⟩]
    have hnext : (CookieCall.createOrRetrieveCookie h.service h.client).Concerns h.service
        h.client := ⟨rfl, rfl⟩
    refine ⟨c, c', hc, hw, ?_⟩
    rw [CookieHeap.perform_answer hnext ((hshape.isActive _).trans hactive), hown,
      CookieCall.answerOf, hmade, hnode]
    rfl
  · -- deleted
    intro pre p post o k t a htr hcall hp
    rw [hcall] at hp
    rw [(CookieHeap.perform_deleteCookie hp).1, ← hpresent htr]
    cases (p.1.cookieAt o k).isSome <;> simp
  · -- contained
    intro pre p post o k t a htr hcall hp
    rw [hcall] at hp
    rw [(CookieHeap.perform_containsCookie hp).2, ← hpresent htr]
    cases (p.1.cookieAt o k).isSome <;> simp
  · -- counted
    intro pre p post o t a htr hcall hp
    rw [hcall] at hp
    rw [(CookieHeap.perform_cookieCount hp).2]
    congr 2
    ext k
    exact hpresent htr o k
  · -- frame
    intro p t a o k call hp hperform hother hcall hactive
    obtain ⟨hshape, hframe⟩ := CookieHeap.perform_frame hperform
    obtain ⟨hcookie, hmade⟩ := hframe o k hother
    rw [CookieHeap.perform_answer hcall hactive,
      CookieHeap.perform_answer hcall ((hshape.isActive _).trans hactive), hcookie, hmade]
  · -- frameCount
    intro p t a o hp hperform hother hactive
    obtain ⟨hshape, hframe⟩ := CookieHeap.perform_frame hperform
    rw [CookieHeap.count_answer (o := o) hactive,
      CookieHeap.count_answer (o := o) ((hshape.isActive _).trans hactive)]
    congr 3
    ext k
    rw [Set.mem_ofPred_eq, Set.mem_ofPred_eq,
      (hframe o k fun hc => hother hc.service).1]

end Runs

/-- A store of five slots, two of them activated. -/
def sampleStore : ClientServiceCookies := ⟨[some ∅, some ∅, none, none, none]⟩

/-- A cookie is made, retrieved again and written, deleted, and made again. -/
def sampleCookieCalls : List CookieCall :=
  [.createOrRetrieveCookie 0 7, .createOrRetrieveCookie 1 7, .createOrRetrieveCookie 0 7,
    .change ⟨0, 7, 1⟩ .subscribe, .deleteCookie 0 7, .createOrRetrieveCookie 0 7, .cookieCount 0]

theorem cookie_store_is_map_sample :
    FiniteMapLaws (cookieMachine.exec ⟨sampleStore, fun _ _ => 0⟩ sampleCookieCalls).1 := by
  have hcs : preparedStore 5 [0, 1] = .ok sampleStore := rfl
  exact cookie_store_is_map hcs (Machine.exec_run (by decide))

end RblRpc
