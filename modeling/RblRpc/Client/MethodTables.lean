import RblRpc.Backend.Service
import RblRpc.Common.OidRefinement

/-!
# Tables of methods

The containers that generated constructors fill, on the server and on the client: one entry for
each declared method, in the order of the declarations, found by its name whatever its case.

* `DistinctNames` — what the names of the methods of a service satisfy.
* `TableOf` — the table of a list of declarations; `tableOf_buildTable`.
* `findName_eq_some`, `findName_total` — lookup by name in a well-formed container.
* `mem_ffProduceMethodList` — what `list_methods` lists of a table.
-/

namespace RblRpc

/-- Legal names, no two of which differ in case only. -/
structure DistinctNames (names : List Bytes) : Prop where
  legal : ∀ n ∈ names, LegalName n
  nodup : (names.map foldCase).Nodup

instance (names : List Bytes) : Decidable (DistinctNames names) :=
  decidable_of_iff ((∀ n ∈ names, LegalName n) ∧ (names.map foldCase).Nodup)
    ⟨fun h => ⟨h.1, h.2⟩, fun h => ⟨h.legal, h.nodup⟩⟩

namespace OidContainer

variable {E : Type} [Inhabited E] {c : OidContainer E} {e : OidContainerEntry E} {n : Bytes}

/-- An entry that lookup by name finds is in its own slot. -/
theorem WF.findName_eq_some (h : WF c) (hf : c.findName n = .ok (some e)) :
    c.at? e.ordinal.toNat = some e ∧ OidName.construct_ n = .ok e.name := by
  unfold findName at hf
  cases hm : OidName.construct_ n with
  | error x => rw [hm] at hf; cases hf
  | ok m =>
    have hw : c.entryWithName m = .ok (some e) := by
      rw [hm] at hf
      exact hf
    cases hinit : m.isInitialized with
    | true =>
      obtain ⟨i, hat, hname⟩ := (h.entryWithName_iff hinit).mp hw
      refine ⟨?_, by rw [hname]⟩
      rw [h.ordinal i e hat]
      exact hat
    | false =>
      -- an uninitialised name throws at the first comparison, or finds nothing
      have hlt : ∀ k : OidName, k.lt m = .error .invalidArgument := fun k =>
        if_neg (by rw [hinit]; exact Bool.false_ne_true)
      unfold entryWithName slotWithName at hw
      cases hidx : c.nameIndex with
      | nil =>
        rw [hidx] at hw
        cases hw
      | cons i idx =>
        rw [hidx] at hw
        simp only [findSlot, hlt, bind, Except.bind] at hw
        cases hw

/-- Lookup by a legal name returns, and finds every entry of that name. -/
theorem WF.findName_total (h : WF c) (hn : LegalName n) :
    ∃ r, c.findName n = .ok r ∧
      ∀ e, r = some e ↔ c.at? e.ordinal.toNat = some e ∧ e.name.str = foldCase n := by
  obtain ⟨m, hm, hstr, hinit⟩ := hn.construct_eq
  have hfind : c.findName n = c.entryWithName m := by simp only [findName, hm, bind, Except.bind]
  obtain ⟨r, hr⟩ : ∃ r, c.entryWithName m = .ok r := by
    simp only [entryWithName, h.slotWithName_eq hinit, bind, Except.bind, pure, Except.pure]
    exact ⟨_, rfl⟩
  refine ⟨r, hfind.trans hr, fun e => ?_⟩
  have hiff := h.entryWithName_iff (e := e) hinit
  rw [hr, Except.ok.injEq] at hiff
  rw [hiff]
  constructor
  · rintro ⟨i, he, hname⟩
    rw [h.ordinal i e he]
    exact ⟨he, by rw [hname, hstr]⟩
  · rintro ⟨he, hs⟩
    exact ⟨_, he, OidName.ext (hs.trans hstr.symm)⟩

end OidContainer

open OidContainer

/-- The table of the declarations `ms`: one entry for each, in order. -/
structure TableOf {M : Type} [Inhabited M] (ms : List (Bytes × M)) (t : OidContainer M) : Prop where
  wf : t.WF
  size : t.size = ms.length
  entry : ∀ j p, ms[j]? = some p →
    ∃ e, t.at? j = some e ∧ e.name.str = foldCase p.1 ∧ e.entry = p.2

variable {M : Type} [Inhabited M] {ms : List (Bytes × M)} {c t : OidContainer M} {i : UInt32}

/-- The identifier of a legal name. -/
theorem make_eq_ok {n : Bytes} {id : Oid} (hn : LegalName n) (h : Oid.make n i = .ok id) :
    id.name.str = foldCase n ∧ id.name.isInitialized = true ∧ id.ordinal.toNat = i.toNat ∧
      i.toNat ≤ 65535 := by
  obtain ⟨m, hm, hstr, hinit⟩ := hn.construct_eq
  unfold Oid.make at h
  rw [hm] at h
  dsimp only [bind, Except.bind] at h
  split at h
  · cases h
  · cases h
    refine ⟨hstr, hinit, ?_, by omega⟩
    show i.toUInt16.toNat = i.toNat
    rw [UInt32.toNat_toUInt16]
    omega

/-- The next number of a method. -/
theorem toNat_succ (h : i.toNat ≤ 65535) : (i + 1).toNat = i.toNat + 1 := by
  have hone : (1 : UInt32).toNat = 1 := rfl
  rw [UInt32.toNat_add]
  omega

/-- One turn of the loop that returns: the name is short, and what `SetEntry` returns is dropped. -/
theorem setMethods_cons {name : Bytes} {m : M} (h : setMethods ((name, m) :: ms) i c = .ok t) :
    ∃ id, Oid.make name i = .ok id ∧ name.length ≤ 31 ∧
      setMethods ms (i + 1) (c.setEntry ⟨id, m⟩).1 = .ok t := by
  unfold setMethods at h
  obtain ⟨id, hid, h⟩ := bind_eq_ok.mp h
  obtain ⟨n, hn, -⟩ := bind_eq_ok.mp hid
  refine ⟨id, hid, Nat.le_of_lt_succ (OidName.construct_ok hn).1, ?_⟩
  split at h
  · cases h
  · rename_i c' x hset
    rw [hset]
    exact h

/-- **The loop of a generated constructor**: the declarations `ms` follow those of the table. -/
theorem setMethods_tableOf {pre : List (Bytes × M)} (hc : TableOf pre c)
    (hnames : DistinctNames ((pre ++ ms).map (·.1))) (hi : i.toNat = pre.length)
    (h : setMethods ms i c = .ok t) : TableOf (pre ++ ms) t := by
  induction ms generalizing pre c i with
  | nil =>
    cases h
    rw [List.append_nil]
    exact hc
  | cons p ms ih =>
    obtain ⟨name, m⟩ := p
    obtain ⟨id, hid, -, h⟩ := setMethods_cons h
    have hlegal : LegalName name := hnames.legal name (by simp)
    obtain ⟨hstr, hinit, hord, hfit⟩ := make_eq_ok hlegal hid
    have hinit' : OidContainerEntry.isInitialized ⟨id, m⟩ = true := hinit
    have hord' : OidContainerEntry.ordinal ⟨id, m⟩ = id.ordinal := rfl
    -- the slot behind the table is free, and so is the name
    have hat : c.at? id.ordinal.toNat = none := by
      have hlen : c.entries.length ≤ id.ordinal.toNat := by
        have := hc.size
        rw [OidContainer.size] at this
        omega
      rw [OidContainer.at?, List.getElem?_eq_none hlen]
      rfl
    have hfree : c.slotOf id.name = none := by
      refine hc.wf.slotOf_eq_none.mpr fun j e he hname => ?_
      have hj : j < pre.length := by
        rw [← hc.size]
        exact (List.getElem?_eq_some_iff.mp (OidContainer.at?_eq_some.mp he).1).1
      obtain ⟨e', he', hstr', -⟩ := hc.entry j _ (List.getElem?_eq_getElem hj)
      rw [he] at he'
      cases he'
      rw [hname, hstr] at hstr'
      have hnodup := hnames.nodup
      rw [List.map_append, List.map_append, List.nodup_append'] at hnodup
      refine List.disjoint_left.mp hnodup.2.2 ?_ (List.mem_cons_self (a := foldCase name))
      rw [hstr']
      exact List.mem_map_of_mem (List.mem_map_of_mem (List.getElem_mem hj))
    have hfresh : Fresh c ⟨id, m⟩ := ⟨hat, hfree⟩
    rw [hc.wf.setEntry_eq hinit', if_pos ⟨hat, hfree⟩] at h
    have hnext : TableOf (pre ++ [(name, m)]) (c.placed ⟨id, m⟩) := by
      refine ⟨hc.wf.placed hinit' hfresh, ?_, fun j p hp => ?_⟩
      · rw [size_placed, hord', hc.size, List.length_append, List.length_singleton]
        omega
      · rw [at?_placed hinit', hord', hord, hi]
        rw [List.getElem?_append] at hp
        split at hp
        · rename_i hj
          rw [if_neg (by omega)]
          exact hc.entry j p hp
        · rename_i hj
          obtain ⟨hlt, hp⟩ := List.getElem?_eq_some_iff.mp hp
          rw [List.length_singleton] at hlt
          rw [if_pos (by omega)]
          refine ⟨⟨id, m⟩, rfl, ?_⟩
          have hzero : j - pre.length = 0 := by omega
          simp only [hzero, List.getElem_cons_zero] at hp
          subst hp
          exact ⟨hstr, rfl⟩
    have := ih hnext (by simpa using hnames) (by
      rw [List.length_append, List.length_singleton, toNat_succ hfit, hi]) h
    simpa using this

/-- **A generated constructor builds the table of its declarations.** -/
theorem tableOf_buildTable (hnames : DistinctNames (ms.map (·.1))) (h : buildTable ms = .ok t) :
    TableOf ms t := by
  have hempty : TableOf ([] : List (Bytes × M)) OidContainer.empty :=
    ⟨WF.empty, rfl, fun _ _ hp => by simp at hp⟩
  have := setMethods_tableOf hempty (by simpa using hnames) rfl h
  simpa using this

omit [Inhabited M] in
/-- The name of an entry is legal. -/
theorem legalName_of_at? {e : OidContainerEntry M} {j : ℕ} (he : t.at? j = some e) :
    LegalName e.name.str where
  nonempty := by
    have hinit := (OidContainer.at?_eq_some.mp he).2
    intro h0
    rw [OidContainerEntry.isInitialized, OidName.isInitialized, h0] at hinit
    cases hinit
  nulFree := e.name.nulFree
  fits := Nat.le_of_lt_succ e.name.fits

theorem ffProduceMethodList_legal {mes : List MethodEntry} (h : ffProduceMethodList t = .ok mes) :
    ∀ me ∈ mes, LegalName me.serviceName := by
  intro me hme
  obtain ⟨i, -, hi⟩ := (mem_of_mapM h me).mp hme
  split at hi
  · cases hi
  · rename_i e he
    cases hi
    exact legalName_of_at? he

/-- The methods of a service have legal names. -/
theorem Service.produceMethodList_legal {s : Service} {mes : List MethodEntry}
    (h : s.produceMethodList = .ok mes) : ∀ me ∈ mes, LegalName me.serviceName := by
  unfold Service.produceMethodList at h
  split at h <;> exact ffProduceMethodList_legal h

/-- **`produce_method_list`** lists the table, which has no holes. -/
theorem mem_ffProduceMethodList {mes : List MethodEntry} (hwf : t.WF)
    (h : ffProduceMethodList t = .ok mes) (me : MethodEntry) :
    me ∈ mes ↔ ∃ j e, t.at? j = some e ∧ me = ⟨e.ordinal.toUInt32, e.name.str⟩ := by
  rw [mem_of_mapM h]
  constructor
  · rintro ⟨i, -, hi⟩
    split at hi
    · cases hi
    · rename_i e he
      cases hi
      exact ⟨_, e, he, rfl⟩
  · rintro ⟨j, e, he, rfl⟩
    have hj : j < t.size := (List.getElem?_eq_some_iff.mp (OidContainer.at?_eq_some.mp he).1).1
    refine ⟨j, List.mem_range.mpr hj, ?_⟩
    have hfit := e.ordinal.toNat_lt
    rw [hwf.ordinal j e he] at hfit
    have hat : t.entryAtOrdinal (UInt32.ofNat j) = some e := by
      rw [OidContainer.entryAtOrdinal, UInt32.toNat_ofNat_of_lt' (Nat.lt_trans hfit (by decide))]
      exact he
    rw [hat]

/-- The loop of a generated constructor builds a well-formed container, whatever the names. -/
theorem setMethods_wf (hc : c.WF) (hnames : ∀ p ∈ ms, p.1 ≠ [] ∧ (0 : UInt8) ∉ p.1)
    (h : setMethods ms i c = .ok t) : t.WF := by
  induction ms generalizing c i with
  | nil =>
    cases h
    exact hc
  | cons p ms ih =>
    obtain ⟨name, m⟩ := p
    obtain ⟨id, hid, hlen, h⟩ := setMethods_cons h
    obtain ⟨hne, hnul⟩ := hnames _ List.mem_cons_self
    have hinit : OidContainerEntry.isInitialized ⟨id, m⟩ = true :=
      (make_eq_ok ⟨hne, hnul, hlen⟩ hid).2.1
    exact ih (hc.setEntry hinit) (fun q hq => hnames q (List.mem_cons_of_mem _ hq)) h

/-- The container has a slot for each method, whether it took the entry or not. -/
theorem setMethods_size (hc : c.WF) (hnames : ∀ p ∈ ms, p.1 ≠ [] ∧ (0 : UInt8) ∉ p.1)
    (hi : i.toNat = c.size) (hfit : c.size ≤ 65536) (h : setMethods ms i c = .ok t) :
    t.size = c.size + ms.length ∧ t.size ≤ 65536 := by
  induction ms generalizing c i with
  | nil =>
    cases h
    exact ⟨rfl, hfit⟩
  | cons p ms ih =>
    obtain ⟨name, m⟩ := p
    obtain ⟨id, hid, hlen, h⟩ := setMethods_cons h
    obtain ⟨hne, hnul⟩ := hnames _ List.mem_cons_self
    obtain ⟨-, hinit, hord, hlast⟩ := make_eq_ok ⟨hne, hnul, hlen⟩ hid
    have hinit' : OidContainerEntry.isInitialized ⟨id, m⟩ = true := hinit
    have hord' : OidContainerEntry.ordinal ⟨id, m⟩ = id.ordinal := rfl
    have hsize : (c.setEntry ⟨id, m⟩).1.size = c.size + 1 := by
      rw [hc.setEntry_eq hinit']
      dsimp only
      split
      · rw [size_placed, hord']
        omega
      · rw [size_grow, hord']
        omega
    obtain ⟨hslots, hmax⟩ := ih (hc.setEntry hinit')
      (fun q hq => hnames q (List.mem_cons_of_mem _ hq)) (by rw [toNat_succ hlast]; omega) (by omega) h
    refine ⟨?_, hmax⟩
    rw [hslots, hsize, List.length_cons]
    omega

end RblRpc
