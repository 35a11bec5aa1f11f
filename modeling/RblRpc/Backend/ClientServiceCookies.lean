import Mathlib.Algebra.Group.Nat.Defs
import Mathlib.Data.List.AList
import Mathlib.Data.Set.Card
import RblRpc.Backend.ClientData

/-!
# Client cookies

Model of `ClientServiceCookies`: a vector over the service ordinals of maps from `ClientData *` to
`ClientCookie`; a slot whose service is not active holds no map.  A `ClientCookie *` is the slot
and the key it was retrieved with.

* `lookup`, `isActive` — what the store holds.
* `createOrRetrieveCookie_ok`, `deleteCookie_ok`, `setCookie_ok` — what a successful call leaves.
* `createOrRetrieveCookie_total` etc. — at an active ordinal the calls succeed.
-/

namespace RblRpc

/-- `ClientCookie`; the cookie base is the service's own object. -/
structure ClientCookie where
  cookieBase : Option ℕ := none
  subscribed : Bool := false
  deriving DecidableEq

/-- `t_service_client_cookie_map`. -/
abbrev CookieMap := AList fun _ : ClientPtr => ClientCookie

/-- `ClientServiceCookies`. -/
structure ClientServiceCookies where
  serviceCookieVector : List (Option CookieMap) := []

/-- `OP_ERROR_CODE`. -/
inductive CookieResult where
  | success
  | cookieAbsent
  deriving DecidableEq, Repr

namespace ClientServiceCookies

variable {cs cs' : ClientServiceCookies} {o : UInt16} {s : ℕ} {k k' : ClientPtr}
  {c : ClientCookie}

/-- The cookie of client `k` for the service at `s`. -/
def lookup (cs : ClientServiceCookies) (s : ℕ) (k : ClientPtr) : Option ClientCookie :=
  cs.serviceCookieVector[s]?.join.bind (·.lookup k)

def isActive (cs : ClientServiceCookies) (s : ℕ) : Bool :=
  cs.serviceCookieVector[s]?.join.isSome

/-- The client has a subscribed cookie. -/
def isSubscribed (cs : ClientServiceCookies) (s : ℕ) (k : ClientPtr) : Bool :=
  (cs.lookup s k).any (·.subscribed)

/-- `m_service_cookie_vector.size()-1`, a `size_t`: it wraps for an empty vector. -/
def lastOrdinal (cs : ClientServiceCookies) : ℕ :=
  if cs.serviceCookieVector.length = 0 then 2 ^ 64 - 1 else cs.serviceCookieVector.length - 1

/-- The two assertions and the access at the start of every operation. -/
def mapAt (cs : ClientServiceCookies) (o : UInt16) : Except Fault CookieMap := do
  boostAssert (!decide (cs.lastOrdinal < o.toNat)) .cookieOrdinalRange
  match cs.serviceCookieVector[o.toNat]? with
  | none => .error .outOfRange
  | some none => .error (.assertion .cookieOrdinalRegistered)
  | some (some m) => return m

def setMap (cs : ClientServiceCookies) (o : UInt16) (m : CookieMap) : ClientServiceCookies :=
  ⟨cs.serviceCookieVector.set o.toNat (some m)⟩

/-- `set_size`. -/
def setSize (cs : ClientServiceCookies) (sz : ℕ) : Except Fault ClientServiceCookies := do
  boostAssert (cs.serviceCookieVector.length = 0) .cookieSizeOnce
  return ⟨List.replicate sz none⟩

/-- `activate_service_with_ordinal`. -/
def activateServiceWithOrdinal (cs : ClientServiceCookies) (o : UInt16) :
    Except Fault ClientServiceCookies := do
  boostAssert (o.toNat < cs.serviceCookieVector.length) .activateOrdinalRange
  boostAssert (!cs.isActive o.toNat) .activateOnce
  return cs.setMap o ∅

/-- `create_or_retrieve_cookie`; the cookie it points to is `lookup o k` of the result. -/
def createOrRetrieveCookie (cs : ClientServiceCookies) (o : UInt16) (k : ClientPtr) :
    Except Fault ClientServiceCookies := do
  let m ← cs.mapAt o
  match m.lookup k with
  | none => return cs.setMap o (m.insert k {})
  | some _ => return cs

/-- `delete_cookie`. -/
def deleteCookie (cs : ClientServiceCookies) (o : UInt16) (k : ClientPtr) :
    Except Fault (CookieResult × ClientServiceCookies) := do
  let m ← cs.mapAt o
  match m.lookup k with
  | none => return (.cookieAbsent, cs)
  | some _ => return (.success, cs.setMap o (m.erase k))

/-- `cookie_count`, with the size it writes. -/
def cookieCount (cs : ClientServiceCookies) (o : UInt16) : Except Fault (CookieResult × ℕ) := do
  let m ← cs.mapAt o
  return (.success, m.entries.length)

/-- `contains_cookie`. -/
def containsCookie (cs : ClientServiceCookies) (o : UInt16) (k : ClientPtr) :
    Except Fault CookieResult := do
  let m ← cs.mapAt o
  match m.lookup k with
  | none => return .cookieAbsent
  | some _ => return .success

/-- Writing through a retrieved pointer. -/
def setCookie (cs : ClientServiceCookies) (o : UInt16) (k : ClientPtr) (c : ClientCookie) :
    Except Fault ClientServiceCookies :=
  match cs.serviceCookieVector[o.toNat]?.join with
  | none => .error .invalidPointer
  | some m => match m.lookup k with
    | none => .error .invalidPointer
    | some _ => .ok (cs.setMap o (m.insert k c))

theorem lookup_of_length_le (h : cs.serviceCookieVector.length ≤ s) : cs.lookup s k = none := by
  rw [lookup, List.getElem?_eq_none h]
  rfl

/-! ## What the operations leave -/

theorem mapAt_eq_ok {m : CookieMap} :
    cs.mapAt o = .ok m ↔ cs.serviceCookieVector[o.toNat]? = some (some m) := by
  have ho := o.toNat_lt
  unfold mapAt
  cases hr : decide (cs.lastOrdinal < o.toNat) with
  | true =>
    have hlt := of_decide_eq_true hr
    rw [lastOrdinal] at hlt
    rw [List.getElem?_eq_none (by split at hlt <;> omega)]
    simp [bind, Except.bind]
  | false =>
    cases hv : cs.serviceCookieVector[o.toNat]? with
    | none => simp [bind, Except.bind]
    | some x => cases x <;> simp [bind, Except.bind, pure, Except.pure]

theorem mapAt_of_isActive (h : cs.isActive o.toNat = true) : ∃ m, cs.mapAt o = .ok m := by
  simp only [isActive] at h
  cases hv : cs.serviceCookieVector[o.toNat]? with
  | none => simp [hv] at h
  | some x =>
    cases x with
    | none => simp [hv] at h
    | some m => exact ⟨m, mapAt_eq_ok.mpr hv⟩

theorem lookup_of_mapAt {m : CookieMap} (h : cs.mapAt o = .ok m) (k : ClientPtr) :
    cs.lookup o.toNat k = m.lookup k := by
  simp [lookup, mapAt_eq_ok.mp h]

theorem lookup_setMap {m m' : CookieMap} (h : cs.mapAt o = .ok m) (s : ℕ) (k : ClientPtr) :
    (cs.setMap o m').lookup s k = if s = o.toNat then m'.lookup k else cs.lookup s k := by
  have hlt : o.toNat < cs.serviceCookieVector.length :=
    (List.getElem?_eq_some_iff.mp (mapAt_eq_ok.mp h)).1
  simp only [lookup, setMap, List.getElem?_set]
  split
  · rename_i heq
    rw [if_pos heq.symm]
    simp
  · rename_i hne
    rw [if_neg (Ne.symm hne)]

theorem isActive_setMap {m m' : CookieMap} (h : cs.mapAt o = .ok m) (s : ℕ) :
    (cs.setMap o m').isActive s = cs.isActive s := by
  have hget := mapAt_eq_ok.mp h
  simp only [isActive, setMap, List.getElem?_set]
  split
  · rename_i heq
    have hlt := (List.getElem?_eq_some_iff.mp hget).1
    rw [← heq, hget, if_pos hlt]
    rfl
  · rfl

@[simp] theorem length_setMap {m : CookieMap} :
    (cs.setMap o m).serviceCookieVector.length = cs.serviceCookieVector.length := by
  simp [setMap]

/-- What two stores share when only cookies were written. -/
structure SameShape (cs cs' : ClientServiceCookies) : Prop where
  isActive : ∀ s, cs'.isActive s = cs.isActive s
  length : cs'.serviceCookieVector.length = cs.serviceCookieVector.length

theorem SameShape.refl (cs : ClientServiceCookies) : SameShape cs cs := ⟨fun _ => rfl, rfl⟩

theorem SameShape.trans {cs₁ cs₂ cs₃ : ClientServiceCookies} (h : SameShape cs₁ cs₂)
    (h' : SameShape cs₂ cs₃) : SameShape cs₁ cs₃ :=
  ⟨fun s => (h'.isActive s).trans (h.isActive s), h'.length.trans h.length⟩

theorem sameShape_setMap {m m' : CookieMap} (h : cs.mapAt o = .ok m) :
    SameShape cs (cs.setMap o m') := ⟨isActive_setMap h, length_setMap⟩

/-- Neither `set_size` nor an activation makes a cookie. -/
theorem setSize_lookup {n : ℕ} (h : cs.setSize n = .ok cs') (s : ℕ) (k : ClientPtr) :
    cs'.lookup s k = none := by
  obtain ⟨_, -, hret⟩ := bind_eq_ok.mp h
  cases hret
  rw [lookup]
  cases hg : (List.replicate n (none : Option CookieMap))[s]? with
  | none => rfl
  | some m =>
    rw [List.eq_of_mem_replicate (List.mem_of_getElem? hg)]
    rfl

theorem activateServiceWithOrdinal_lookup (h : cs.activateServiceWithOrdinal o = .ok cs')
    (hcs : ∀ s k, cs.lookup s k = none) (s : ℕ) (k : ClientPtr) : cs'.lookup s k = none := by
  obtain ⟨_, -, h⟩ := bind_eq_ok.mp h
  obtain ⟨_, -, hret⟩ := bind_eq_ok.mp h
  cases hret
  have hs := hcs s k
  simp only [lookup, setMap, List.getElem?_set] at hs ⊢
  split
  · split <;> rfl
  · exact hs

/-- **A cookie is created or retrieved**; every other cookie stays. -/
theorem createOrRetrieveCookie_ok (h : cs.createOrRetrieveCookie o k = .ok cs') :
    SameShape cs cs' ∧ ∀ s' k', cs'.lookup s' k' =
      if s' = o.toNat ∧ k' = k then some ((cs.lookup o.toNat k).getD {}) else cs.lookup s' k' := by
  unfold createOrRetrieveCookie at h
  cases hm : cs.mapAt o with
  | error f => rw [hm] at h; cases h
  | ok m =>
    rw [hm] at h
    have hl := lookup_of_mapAt hm
    simp only [bind, Except.bind] at h
    cases hk : m.lookup k with
    | none =>
      rw [hk] at h
      cases h
      refine ⟨sameShape_setMap hm, fun s' k' => ?_⟩
      rw [lookup_setMap hm, hl, hk]
      by_cases hs : s' = o.toNat
      · by_cases hk' : k' = k
        · subst hk'; simp [hs]
        · rw [if_pos hs, AList.lookup_insert_ne hk', if_neg (fun hc => hk' hc.2), hs, hl]
      · rw [if_neg hs, if_neg (fun hc => hs hc.1)]
    | some c =>
      rw [hk] at h
      cases h
      refine ⟨.refl cs, fun s' k' => ?_⟩
      split
      · rename_i hc
        rw [hc.1, hc.2, hl, hk]
        rfl
      · rfl

theorem subscribed_getD (cs : ClientServiceCookies) (s : ℕ) (k : ClientPtr) :
    ((cs.lookup s k).getD {}).subscribed = cs.isSubscribed s k := by
  rw [isSubscribed]
  cases cs.lookup s k <;> rfl

theorem lookup_createOrRetrieveCookie (h : cs.createOrRetrieveCookie o k = .ok cs') :
    cs'.lookup o.toNat k = some ((cs.lookup o.toNat k).getD {}) := by
  rw [(createOrRetrieveCookie_ok h).2, if_pos ⟨rfl, rfl⟩]

theorem createOrRetrieveCookie_total (h : cs.isActive o.toNat = true) (k : ClientPtr) :
    ∃ cs', cs.createOrRetrieveCookie o k = .ok cs' := by
  obtain ⟨m, hm⟩ := mapAt_of_isActive h
  unfold createOrRetrieveCookie
  rw [hm]
  simp only [bind, Except.bind]
  cases m.lookup k <;> exact ⟨_, rfl⟩

/-- Creating or retrieving a cookie subscribes nobody. -/
theorem isSubscribed_createOrRetrieveCookie (h : cs.createOrRetrieveCookie o k = .ok cs')
    (s : ℕ) (k' : ClientPtr) : cs'.isSubscribed s k' = cs.isSubscribed s k' := by
  rw [isSubscribed, (createOrRetrieveCookie_ok h).2]
  split
  · rename_i hc
    rw [isSubscribed, hc.1, hc.2]
    cases cs.lookup o.toNat k <;> rfl
  · rfl

/-- **A cookie is deleted**; every other cookie stays. -/
theorem deleteCookie_ok {r : CookieResult} (h : cs.deleteCookie o k = .ok (r, cs')) :
    SameShape cs cs' ∧ ∀ s' k', cs'.lookup s' k' =
      if s' = o.toNat ∧ k' = k then none else cs.lookup s' k' := by
  unfold deleteCookie at h
  cases hm : cs.mapAt o with
  | error f => rw [hm] at h; cases h
  | ok m =>
    rw [hm] at h
    have hl := lookup_of_mapAt hm
    simp only [bind, Except.bind] at h
    cases hk : m.lookup k with
    | none =>
      rw [hk] at h
      cases h
      refine ⟨.refl cs, fun s' k' => ?_⟩
      split
      · rename_i hc
        rw [hc.1, hc.2, hl, hk]
      · rfl
    | some c =>
      rw [hk] at h
      cases h
      refine ⟨sameShape_setMap hm, fun s' k' => ?_⟩
      rw [lookup_setMap hm]
      by_cases hs : s' = o.toNat
      · by_cases hk' : k' = k
        · subst hk'; simp [hs]
        · rw [if_pos hs, AList.lookup_erase_ne hk', if_neg (fun hc => hk' hc.2), hs, hl]
      · rw [if_neg hs, if_neg (fun hc => hs hc.1)]

/-- `SUCCESS` is for a cookie that was there. -/
theorem deleteCookie_result {r : CookieResult} (h : cs.deleteCookie o k = .ok (r, cs')) :
    r = if (cs.lookup o.toNat k).isSome = true then .success else .cookieAbsent := by
  obtain ⟨m, hm, h⟩ := bind_eq_ok.mp h
  rw [lookup_of_mapAt hm]
  cases hk : m.lookup k <;> (rw [hk] at h; cases h; rfl)

theorem containsCookie_ok {r : CookieResult} (h : cs.containsCookie o k = .ok r) :
    r = if (cs.lookup o.toNat k).isSome = true then .success else .cookieAbsent := by
  obtain ⟨m, hm, h⟩ := bind_eq_ok.mp h
  rw [lookup_of_mapAt hm]
  cases hk : m.lookup k <;> (rw [hk] at h; cases h; rfl)

theorem containsCookie_total (h : cs.isActive o.toNat = true) (k : ClientPtr) :
    ∃ r, cs.containsCookie o k = .ok r := by
  obtain ⟨m, hm⟩ := mapAt_of_isActive h
  unfold containsCookie
  rw [hm]
  simp only [bind, Except.bind]
  cases m.lookup k <;> exact ⟨_, rfl⟩

/-- **The count** is the number of clients with a cookie. -/
theorem cookieCount_ok {r : CookieResult} {n : ℕ} (h : cs.cookieCount o = .ok (r, n)) :
    r = .success ∧ n = {k | (cs.lookup o.toNat k).isSome = true}.ncard := by
  obtain ⟨m, hm, h⟩ := bind_eq_ok.mp h
  cases h
  have hkeys : {k | (cs.lookup o.toNat k).isSome = true} = ↑m.keys.toFinset := by
    ext k
    rw [Set.mem_ofPred_eq, lookup_of_mapAt hm, AList.lookup_isSome, Finset.mem_coe,
      List.mem_toFinset, AList.mem_keys]
  refine ⟨rfl, ?_⟩
  rw [hkeys, Set.ncard_coe_finset, List.toFinset_card_of_nodup m.keys_nodup]
  exact (List.length_map _).symm

theorem cookieCount_total (h : cs.isActive o.toNat = true) :
    ∃ r n, cs.cookieCount o = .ok (r, n) := by
  obtain ⟨m, hm⟩ := mapAt_of_isActive h
  unfold cookieCount
  rw [hm]
  exact ⟨_, _, rfl⟩

theorem deleteCookie_total (h : cs.isActive o.toNat = true) (k : ClientPtr) :
    ∃ r cs', cs.deleteCookie o k = .ok (r, cs') := by
  obtain ⟨m, hm⟩ := mapAt_of_isActive h
  unfold deleteCookie
  rw [hm]
  simp only [bind, Except.bind]
  cases m.lookup k <;> exact ⟨_, _, rfl⟩

theorem isSubscribed_deleteCookie {r : CookieResult} (h : cs.deleteCookie o k = .ok (r, cs'))
    (s : ℕ) (k' : ClientPtr) : cs'.isSubscribed s k' =
      if s = o.toNat ∧ k' = k then false else cs.isSubscribed s k' := by
  rw [isSubscribed, (deleteCookie_ok h).2]
  split <;> rfl

/-- **A cookie is written**; every other cookie stays. -/
theorem setCookie_ok (h : cs.setCookie o k c = .ok cs') :
    SameShape cs cs' ∧ (cs.lookup o.toNat k).isSome = true ∧ ∀ s' k', cs'.lookup s' k' =
      if s' = o.toNat ∧ k' = k then some c else cs.lookup s' k' := by
  unfold setCookie at h
  split at h
  · cases h
  · rename_i m hv
    have hm : cs.mapAt o = .ok m := mapAt_eq_ok.mpr (by
      cases hg : cs.serviceCookieVector[o.toNat]? with
      | none => simp [hg] at hv
      | some x => simp only [hg, Option.join_some] at hv; rw [hv])
    have hl := lookup_of_mapAt hm
    split at h
    · cases h
    · rename_i c₀ hk
      cases h
      refine ⟨sameShape_setMap hm, by rw [hl, hk]; rfl, fun s' k' => ?_⟩
      rw [lookup_setMap hm]
      by_cases hs : s' = o.toNat
      · by_cases hk' : k' = k
        · subst hk'; simp [hs]
        · rw [if_pos hs, AList.lookup_insert_ne hk', if_neg (fun hc => hk' hc.2), hs, hl]
      · rw [if_neg hs, if_neg (fun hc => hs hc.1)]

theorem isSubscribed_setCookie (h : cs.setCookie o k c = .ok cs') (s : ℕ) (k' : ClientPtr) :
    cs'.isSubscribed s k' =
      if s = o.toNat ∧ k' = k then c.subscribed else cs.isSubscribed s k' := by
  rw [isSubscribed, (setCookie_ok h).2.2]
  split <;> rfl

theorem setCookie_total (h : (cs.lookup o.toNat k).isSome = true) (c : ClientCookie) :
    ∃ cs', cs.setCookie o k c = .ok cs' := by
  simp only [lookup] at h
  unfold setCookie
  cases hv : cs.serviceCookieVector[o.toNat]?.join with
  | none => simp [hv] at h
  | some m =>
    simp only [hv, Option.bind_some] at h
    obtain ⟨c₀, hc₀⟩ := Option.isSome_iff_exists.mp h
    simp only [hc₀]
    exact ⟨_, rfl⟩

end ClientServiceCookies

end RblRpc
