import RblRpc.Client.Sessions

/-!
# Methods are bound by their names

Four tables compose: the dispatch table of the service, the list of its methods, the map of the
client class and the numbers of its methods.

* `SameNames` — the service and the class declare the same methods, but for case and order.
* `rebound_ordinal` — **the binding loop gives each method the ordinal of its name**.
-/

namespace RblRpc

open World ServiceClientFactory Transition BackEnd

/-- The server and the client declare the same methods, but for case and order. -/
def SameNames (server client : List Bytes) : Prop :=
  ∀ n, n ∈ server.map foldCase ↔ n ∈ client.map foldCase

/-- **The binding loop gives each method the ordinal of its name.** -/
theorem rebound_ordinal {M : Type} [Inhabited M] {ms : List (Bytes × M)} {t : OidContainer M}
    {methods : List Bytes} {made : ClientServiceBase} {m : OidContainer UInt16}
    {mes : List MethodEntry} (htable : buildTable ms = .ok t)
    (hlist : ffProduceMethodList t = .ok mes)
    (hmade : ClientServiceBase.construct methods = .ok made)
    (hrebound : Rebound mes made.serviceMethodMap m) (hserver : DistinctNames (ms.map (·.1)))
    (hclient : DistinctNames methods) (hsame : SameNames (ms.map (·.1)) methods) {i : ℕ} {n : Bytes}
    (hn : methods[i]? = some n) :
    ∃ name fn v, (name, fn) ∈ ms ∧ foldCase name = foldCase n ∧
      m.atOrdinal (UInt16.ofNat i) = some v ∧ t.atOrdinal v = some fn := by
  obtain ⟨u, hu, hret⟩ := bind_eq_ok.mp hmade
  cases hret
  have ht := tableOf_buildTable hserver htable
  have hnames : (methods.map fun name => (name, ClientServiceBase.unbound)).map (·.1) = methods := by
    rw [List.map_map]
    exact List.map_id _
  have hmap := tableOf_buildTable (by rw [hnames]; exact hclient) hu
  obtain ⟨e, he, hname, -⟩ := hmap.entry i (n, ClientServiceBase.unbound) (by
    rw [List.getElem?_map, hn]
    rfl)
  obtain ⟨v, hv, hbound⟩ := hrebound.slot i e he
  -- the slot of method `i`, read with 16 bits
  have hat : m.atOrdinal (UInt16.ofNat i) = some v := by
    have hfit := e.ordinal.toNat_lt
    rw [hmap.wf.ordinal i e he] at hfit
    rw [atOrdinal_eq, UInt16.toNat_ofNat_of_lt' hfit, hv]
    rfl
  -- the entries of the table of the service
  have hentry : ∀ j p, ms[j]? = some p → ∃ x, t.at? j = some x ∧ x.name.str = foldCase p.1 ∧
      t.atOrdinal x.ordinal = some p.2 := by
    intro j p hp
    obtain ⟨x, hx, hstr, hfn⟩ := ht.entry j p hp
    refine ⟨x, hx, hstr, ?_⟩
    rw [atOrdinal_eq, ht.wf.ordinal j x hx, hx, ← hfn]
    rfl
  rcases hbound with ⟨me, hme, hfold, rfl⟩ | ⟨hno, -⟩
  · obtain ⟨j, x, hx, rfl⟩ := (mem_ffProduceMethodList ht.wf hlist me).mp hme
    have hj : j < ms.length := by
      rw [← ht.size]
      exact (List.getElem?_eq_some_iff.mp (OidContainer.at?_eq_some.mp hx).1).1
    obtain ⟨x', hx', hstr, hfn⟩ := hentry j _ (List.getElem?_eq_getElem hj)
    cases hx.symm.trans hx'
    refine ⟨ms[j].1, ms[j].2, x.ordinal, List.getElem_mem hj, ?_, ?_, hfn⟩
    · rw [← foldCase_foldCase, ← hstr]
      exact hfold.trans hname
    · rw [hat, UInt16.toUInt16_toUInt32]
  · -- every name of the client is one of the service
    have hmem : foldCase n ∈ (ms.map (·.1)).map foldCase :=
      (hsame _).mpr (List.mem_map_of_mem (List.mem_of_getElem? hn))
    obtain ⟨name, hmem, hfold⟩ := List.mem_map.mp hmem
    obtain ⟨p, hp, rfl⟩ := List.mem_map.mp hmem
    obtain ⟨j, hj⟩ := List.mem_iff_getElem?.mp hp
    obtain ⟨x, hx, hstr, -⟩ := hentry j p hj
    refine absurd ?_ (hno _ ((mem_ffProduceMethodList ht.wf hlist _).mpr ⟨j, x, hx, rfl⟩))
    rw [hstr, foldCase_foldCase, hfold, hname]

end RblRpc
