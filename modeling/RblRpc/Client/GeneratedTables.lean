import RblRpc.Client.ClientService
import RblRpc.Client.MethodTables

/-!
# Dispatch tables of generated classes

The generator writes one `SetEntry` for each method into the constructors of a service and of its
client, and neither looks at what it returns.  Method names that protoc keeps apart can meet in the
container, which ignores case, or not fit into it.

* `ProtocAccepts` — the method names of a service description.
* `TablesComplete` — both tables hold every method at its number, and `list_methods` lists them.
* `tables_complete_iff` — when they do.
-/

namespace RblRpc

open OidContainer

/-- Letters, digits and `_`. -/
def isIdentifierChar (c : UInt8) : Bool :=
  (97 ≤ c && c ≤ 122) || (65 ≤ c && c ≤ 90) || (48 ≤ c && c ≤ 57) || c == 95

/-- An identifier of the protocol buffer language does not begin with a digit. -/
def isProtoIdentifier : Bytes → Bool
  | [] => false
  | c :: cs => !(48 ≤ c && c ≤ 57) && (c :: cs).all isIdentifierChar

/-- The method names of a service are identifiers, no two of them the same. -/
structure ProtocAccepts (names : List Bytes) : Prop where
  identifier : ∀ n ∈ names, isProtoIdentifier n = true
  nodup : names.Nodup

theorem identifier_legal {n : Bytes} (h : isProtoIdentifier n = true) :
    n ≠ [] ∧ (0 : UInt8) ∉ n := by
  cases n with
  | nil => cases h
  | cons c cs =>
    rw [isProtoIdentifier, Bool.and_eq_true, List.all_eq_true] at h
    refine ⟨List.cons_ne_nil c cs, fun h0 => ?_⟩
    have hzero := h.2 0 h0
    revert hzero
    decide

variable {M : Type} [Inhabited M] {ms methods : List (Bytes × M)} {c t : OidContainer M}
  {i : UInt32}

/-- The methods in order, as `list_methods` names them. -/
def listing (methods : List (Bytes × M)) : List MethodEntry :=
  methods.mapIdx fun j p => ⟨UInt32.ofNat j, foldCase p.1⟩

/-- The server's table holds the function of each method at its number and is listed whole, and the
client's map has an entry for each. -/
structure TablesComplete (methods : List (Bytes × M)) : Prop where
  server : ∃ t, buildTable methods = .ok t ∧
    (∀ j p, methods[j]? = some p → (t.entryAtOrdinal (UInt32.ofNat j)).map (·.entry) = some p.2) ∧
    ffProduceMethodList t = .ok (listing methods)
  client : ∃ cl, ClientServiceBase.construct (methods.map (·.1)) = .ok cl ∧
    ∀ j, j < methods.length → (cl.serviceMethodMap.entryAtOrdinal (UInt32.ofNat j)).isSome = true

/-- No two names differ in case only, none is longer than 31 characters, and there are enough
ordinals. -/
structure FitContainer (methods : List (Bytes × M)) : Prop where
  fits : ∀ p ∈ methods, p.1.length ≤ 31
  apart : (methods.map fun p => foldCase p.1).Nodup
  count : methods.length ≤ 65536

/-! ## Constructors that return -/

/-- Short enough names at ordinals in range: the loop of the constructor does not throw. -/
theorem setMethods_total (hc : c.WF) (hlegal : ∀ p ∈ ms, LegalName p.1)
    (hi : i.toNat + ms.length ≤ 65536) : ∃ t, setMethods ms i c = .ok t := by
  induction ms generalizing c i with
  | nil => exact ⟨c, rfl⟩
  | cons p ms ih =>
    obtain ⟨name, m⟩ := p
    rw [List.length_cons] at hi
    obtain ⟨n, hn, -, hinit⟩ := (hlegal _ List.mem_cons_self).construct_eq
    have hmake : Oid.make name i = .ok ⟨n, i.toUInt16⟩ := by
      simp only [Oid.make, hn, bind, Except.bind]
      rw [if_neg (by omega)]
    have hinit : OidContainerEntry.isInitialized (⟨⟨n, i.toUInt16⟩, m⟩ : OidContainerEntry M) =
        true := hinit
    have hnext : (i + 1).toNat = i.toNat + 1 := toNat_succ (by omega)
    obtain ⟨t, ht⟩ := ih (hc.setEntry hinit) (i := i + 1)
      (fun q hq => hlegal q (List.mem_cons_of_mem _ hq)) (by omega)
    refine ⟨t, ?_⟩
    rw [hc.setEntry_eq hinit] at ht
    simp only [setMethods, hmake, bind, Except.bind]
    rw [hc.setEntry_eq hinit]
    exact ht

theorem fits_of_setMethods (h : setMethods ms i c = .ok t) :
    ∀ p ∈ ms, p.1.length ≤ 31 := by
  induction ms generalizing c i with
  | nil => exact fun p hp => absurd hp List.not_mem_nil
  | cons q ms ih =>
    obtain ⟨name, m⟩ := q
    obtain ⟨id, -, hlen, hrest⟩ := setMethods_cons h
    intro p hp
    rcases List.mem_cons.mp hp with rfl | hp
    · exact hlen
    · exact ih hrest p hp

omit [Inhabited M] in
/-- The slot of a number that an ordinal can have. -/
theorem entryAtOrdinal_ofNat {j : ℕ} (hj : j < 65536) :
    t.entryAtOrdinal (UInt32.ofNat j) = t.at? j := by
  rw [entryAtOrdinal, UInt32.toNat_ofNat_of_lt' (Nat.lt_trans hj (by decide))]

/-! ## What the tables hold -/

/-- **A table without holes** is listed whole. -/
theorem TableOf.listed (h : TableOf ms t) (hcount : ms.length ≤ 65536) :
    ffProduceMethodList t = .ok (listing ms) := by
  refine mapM_of_getElem? ?_ fun j k me hk hme => ?_
  · rw [listing, List.length_mapIdx, List.length_range, h.size]
  · obtain ⟨hj, hk⟩ := List.getElem?_eq_some_iff.mp hk
    rw [List.length_range, h.size] at hj
    rw [List.getElem_range] at hk
    subst hk
    obtain ⟨e, hat, hname, -⟩ := h.entry j _ (List.getElem?_eq_getElem hj)
    rw [listing, List.getElem?_mapIdx, List.getElem?_eq_getElem hj] at hme
    cases hme
    have hord : e.ordinal.toUInt32 = UInt32.ofNat j := by
      refine UInt32.toNat.inj ?_
      rw [UInt16.toNat_toUInt32, h.wf.ordinal j e hat,
        UInt32.toNat_ofNat_of_lt' (show j < UInt32.size from by
          have : UInt32.size = 4294967296 := rfl
          omega)]
    simp only [entryAtOrdinal_ofNat (t := t) (show j < 65536 by omega), hat, hname, hord]

/-- The names of a listed table differ in more than case: lookup by name tells its slots apart. -/
theorem apart_of_listed (hwf : t.WF) (hcount : methods.length ≤ 65536)
    (h : ffProduceMethodList t = .ok (listing methods)) :
    (methods.map fun p => foldCase p.1).Nodup := by
  have hslot : ∀ j p, methods[j]? = some p →
      ∃ e, t.at? j = some e ∧ e.name.str = foldCase p.1 := by
    intro j p hp
    have hj : j < methods.length := (List.getElem?_eq_some_iff.mp hp).1
    have hmem : (⟨UInt32.ofNat j, foldCase p.1⟩ : MethodEntry) ∈ listing methods := by
      refine List.mem_of_getElem? (i := j) ?_
      rw [listing, List.getElem?_mapIdx, hp]
      rfl
    obtain ⟨k, e, hat, heq⟩ := (mem_ffProduceMethodList hwf h _).mp hmem
    rw [MethodEntry.mk.injEq] at heq
    have hk : k = j := by
      have hord := congrArg UInt32.toNat heq.1
      rw [UInt16.toNat_toUInt32, hwf.ordinal k e hat, UInt32.toNat_ofNat_of_lt' (by
        have : UInt32.size = 4294967296 := rfl
        omega)] at hord
      exact hord.symm
    rw [hk] at hat
    exact ⟨e, hat, heq.2.symm⟩
  refine List.pairwise_iff_getElem.mpr fun a b ha hb hlt heq => ?_
  rw [List.length_map] at ha hb
  rw [List.getElem_map, List.getElem_map] at heq
  obtain ⟨e, hat, hname⟩ := hslot a _ (List.getElem?_eq_getElem ha)
  obtain ⟨e', hat', hname'⟩ := hslot b _ (List.getElem?_eq_getElem hb)
  have hsame : e.name = e'.name := OidName.ext (by rw [hname, hname', heq])
  exact absurd (hwf.at?_inj hat hat' hsame) hlt.ne

/-- **The tables of a service have no holes** exactly when its method names fit the container. -/
theorem tables_complete_iff (hproto : ProtocAccepts (methods.map (·.1))) :
    TablesComplete methods ↔ FitContainer methods := by
  have hnames : ∀ p ∈ methods, p.1 ≠ [] ∧ (0 : UInt8) ∉ p.1 := fun p hp =>
    identifier_legal (hproto.identifier p.1 (List.mem_map_of_mem hp))
  constructor
  · rintro ⟨⟨t, hbuild, -, hlist⟩, -⟩
    have hcount : methods.length ≤ 65536 := by
      obtain ⟨hlen, hmax⟩ := setMethods_size (c := .empty) WF.empty hnames rfl
        (Nat.zero_le _) hbuild
      have hzero : (OidContainer.empty : OidContainer M).size = 0 := rfl
      omega
    exact ⟨fits_of_setMethods hbuild,
      apart_of_listed (setMethods_wf WF.empty hnames hbuild) hcount hlist, hcount⟩
  · intro hfit
    have hlegal : ∀ n ∈ methods.map (·.1), LegalName n := by
      intro n hn
      obtain ⟨p, hp, rfl⟩ := List.mem_map.mp hn
      exact ⟨(hnames p hp).1, (hnames p hp).2, hfit.fits p hp⟩
    have hdistinct : DistinctNames (methods.map (·.1)) := by
      refine ⟨hlegal, ?_⟩
      rw [List.map_map]
      exact hfit.apart
    constructor
    · obtain ⟨t, ht⟩ := setMethods_total (c := OidContainer.empty) (i := 0) WF.empty
        (fun p hp => hlegal _ (List.mem_map_of_mem hp)) (by
          have hzero : (0 : UInt32).toNat = 0 := rfl
          have := hfit.count
          omega)
      have htable := tableOf_buildTable hdistinct ht
      refine ⟨t, ht, fun j p hp => ?_, htable.listed hfit.count⟩
      have hj := (List.getElem?_eq_some_iff.mp hp).1
      obtain ⟨e, hat, -, hentry⟩ := htable.entry j p hp
      rw [entryAtOrdinal_ofNat (by have := hfit.count; omega), hat, Option.map_some, hentry]
    · have hclient : (methods.map (·.1)).map (fun name => (name, ClientServiceBase.unbound)) =
          methods.map fun p => (p.1, ClientServiceBase.unbound) := by
        rw [List.map_map]
        rfl
      have hmapped : ∀ q ∈ methods.map fun p => (p.1, ClientServiceBase.unbound),
          LegalName q.1 := by
        intro q hq
        obtain ⟨p, hp, rfl⟩ := List.mem_map.mp hq
        exact hlegal _ (List.mem_map_of_mem hp)
      obtain ⟨t, ht⟩ := setMethods_total (c := OidContainer.empty) (i := 0) WF.empty hmapped (by
        have hzero : (0 : UInt32).toNat = 0 := rfl
        have := hfit.count
        rw [List.length_map]
        omega)
      have htable : TableOf (methods.map fun p => (p.1, ClientServiceBase.unbound)) t := by
        refine tableOf_buildTable ?_ ht
        rw [List.map_map]
        exact hdistinct
      refine ⟨{ serviceMethodMap := t }, ?_, fun j hj => ?_⟩
      · rw [ClientServiceBase.construct, hclient, buildTable, ht]
        rfl
      · obtain ⟨e, hat, -⟩ := htable.entry j (methods[j].1, ClientServiceBase.unbound)
          (by rw [List.getElem?_map, List.getElem?_eq_getElem hj]; rfl)
        rw [entryAtOrdinal_ofNat (by have := hfit.count; omega), hat]
        rfl

/-- The methods `get` and `put`, and the functions behind them. -/
def getPutMethods : List (Bytes × ApplicationMethod) := [(ascii "get", 1), (ascii "put", 2)]

theorem tables_complete_iff_sample : TablesComplete getPutMethods := by
  have hproto : ProtocAccepts (getPutMethods.map (·.1)) := ⟨by decide, by decide⟩
  exact (tables_complete_iff hproto).mpr ⟨by decide, by decide, by decide⟩

/-- The methods `get` and `Get`. -/
def caseMethods : List (Bytes × ApplicationMethod) := [(ascii "get", 1), (ascii "Get", 2)]

/-- Two names that differ in case only: the second method has a hole in its place. -/
theorem methods_lost_by_case :
    ¬∀ methods : List (Bytes × ApplicationMethod), ProtocAccepts (methods.map (·.1)) →
      TablesComplete methods := by
  intro hall
  obtain ⟨t, hbuild, hheld, -⟩ := (hall caseMethods ⟨by decide, by decide⟩).server
  have hhole : (buildTable caseMethods).toOption.map (fun t => t.entryAtOrdinal (UInt32.ofNat 1)) =
      some none := by decide +kernel
  rw [hbuild] at hhole
  have hnone : t.entryAtOrdinal (UInt32.ofNat 1) = none := Option.some.inj hhole
  have hsome := hheld 1 (ascii "Get", 2) rfl
  rw [hnone] at hsome
  cases hsome

end RblRpc
