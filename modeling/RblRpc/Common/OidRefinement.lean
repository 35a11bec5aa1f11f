import RblRpc.Common.OidContainer
import RblRpc.Lib.PartialBijection
import Mathlib.Data.List.TakeWhile

/-!
# The identifier container is a partial bijection

What `OidContainer` is for: a finite partial bijection between ordinals and names, up to the
case of the names, with an entry at each pair.

* `ContainerOp` — `SetEntry`, `clear`, copy construction and assignment on numbered containers,
  as the class performs them (`apply`) and on partial bijections (`spec`).
* `Refines` — the slots, the index, both lookups and the size of a container are those of a
  partial bijection.
* `Represents` — the invariant that carries it through every operation.
-/

namespace RblRpc

/-- Names of one to 31 characters, none of them NUL. -/
structure LegalName (n : Bytes) : Prop where
  nonempty : n ≠ []
  nulFree : (0 : UInt8) ∉ n
  fits : n.length ≤ 31

instance (n : Bytes) : Decidable (LegalName n) :=
  decidable_of_iff (n ≠ [] ∧ (0 : UInt8) ∉ n ∧ n.length ≤ 31)
    ⟨fun h => ⟨h.1, h.2.1, h.2.2⟩, fun h => ⟨h.nonempty, h.nulFree, h.fits⟩⟩

/-- A name with its case removed. -/
def foldCase (n : Bytes) : Bytes := n.map toLower

theorem toLower_ne_zero {c : UInt8} (h : c ≠ 0) : toLower c ≠ 0 := by
  unfold toLower
  split
  · rename_i hr
    intro h0
    have := congrArg UInt8.toNat h0
    have h1 := UInt8.le_iff_toNat_le.mp hr.1
    have h2 := UInt8.le_iff_toNat_le.mp hr.2
    simp only [UInt8.toNat_add, UInt8.reduceToNat] at this h1 h2
    omega
  · exact h

theorem toLower_toLower (c : UInt8) : toLower (toLower c) = toLower c := by
  have h : ∀ n : Fin 256, toLower (toLower (UInt8.ofNat n)) = toLower (UInt8.ofNat n) := by
    decide +kernel
  simpa using h ⟨c.toNat, c.toNat_lt⟩

theorem foldCase_foldCase (n : Bytes) : foldCase (foldCase n) = foldCase n := by
  simp only [foldCase, List.map_map]
  exact List.map_congr_left fun c _ => toLower_toLower c

/-- The names that the code stores have no case. -/
theorem foldCase_normalize (n : Bytes) : foldCase (OidName.normalize n) = OidName.normalize n := by
  refine (List.map_congr_left fun c hc => ?_).trans (List.map_id _)
  obtain ⟨d, -, rfl⟩ := List.mem_map.mp ((List.takeWhile_prefix _).subset hc)
  exact toLower_toLower d

/-- **A legal name is kept whole**, in lower case. -/
theorem LegalName.construct_eq {n : Bytes} (h : LegalName n) :
    ∃ m, OidName.construct_ n = .ok m ∧ m.str = foldCase n ∧ m.isInitialized = true := by
  have hfit : ¬ n.length + 1 > 32 := by have := h.fits; omega
  have hnorm : OidName.normalize n = foldCase n := by
    refine List.takeWhile_eq_self_iff.mpr fun c hc => ?_
    obtain ⟨d, hd, rfl⟩ := List.mem_map.mp hc
    have hne : d ≠ 0 := by
      rintro rfl
      exact h.nulFree hd
    exact decide_eq_true (toLower_ne_zero hne)
  refine ⟨_, dif_neg hfit, hnorm, ?_⟩
  have hcons : foldCase n ≠ [] := fun h0 => h.nonempty (List.map_eq_nil_iff.mp h0)
  simpa [OidName.isInitialized, hnorm] using hcons

namespace OidContainer

variable {E : Type} [Inhabited E] {c : OidContainer E} {b : PartialBijection UInt16 Bytes E}
  {e : OidContainerEntry E} {n : Bytes} {o : UInt16} {v : E}

/-- `EntryWithName` of a name given as a string. -/
def findName (c : OidContainer E) (n : Bytes) :
    Except StdException (Option (OidContainerEntry E)) := do
  c.entryWithName (← OidName.construct_ n)

/-- `regen_name_index_`. -/
def regenNameIndex_ (c : OidContainer E) : OidContainer E × Except StdException Unit :=
  let r := regenFrom c.entries (List.range c.entries.length) c.nameIndex
  (⟨c.entries, r.1⟩, r.2)

/-- `clear`. -/
def clear (_ : OidContainer E) : OidContainer E := ⟨[], []⟩

/-- The copy constructor; `operator=` on another container does the same. -/
def copyOf (rhs : OidContainer E) : OidContainer E × Except StdException Unit :=
  regenNameIndex_ ⟨rhs.entries, []⟩

/-- A copy of a well-formed container is the same container. -/
theorem WF.copyOf_eq (h : WF c) : copyOf c = (c, .ok ()) := by
  simp only [copyOf, regenNameIndex_, h.regen_eq]

/-! ## Abstraction -/

/-- The entry as the partial bijection has it. -/
def triple (e : OidContainerEntry E) : UInt16 × Bytes × E := (e.ordinal, e.name.str, e.entry)

/-- The container is well-formed and its slots hold the entries of `b`. -/
structure Represents (c : OidContainer E) (b : PartialBijection UInt16 Bytes E) : Prop where
  wf : WF c
  mem : ∀ x, x ∈ b.entries ↔ ∃ e, c.at? e.ordinal.toNat = some e ∧ triple e = x
  card : c.occupiedSize = b.card

theorem Represents.empty :
    Represents (OidContainer.empty : OidContainer E) PartialBijection.empty where
  wf := WF.empty
  mem x := by simp [OidContainer.empty, at?]
  card := by simp [OidContainer.empty, occupiedSize]

theorem Represents.mem_of_at? (h : Represents c b) {i : ℕ} (he : c.at? i = some e) :
    triple e ∈ b.entries :=
  (h.mem _).mpr ⟨e, by rw [h.wf.ordinal i e he]; exact he, rfl⟩

/-- An ordinal is in use exactly when its slot is initialised. -/
theorem Represents.keyUsed (h : Represents c b) :
    b.KeyUsed o ↔ (c.at? o.toNat).isSome = true := by
  rw [Option.isSome_iff_exists]
  constructor
  · rintro ⟨n, v, hm⟩
    obtain ⟨e, he, ht⟩ := (h.mem _).mp hm
    cases ht
    exact ⟨e, he⟩
  · rintro ⟨e, he⟩
    have ho : e.ordinal = o := UInt16.toNat.inj (h.wf.ordinal _ e he)
    have hm := h.mem_of_at? he
    rw [triple, ho] at hm
    exact ⟨_, _, hm⟩

/-- A name is in use exactly when the index finds it. -/
theorem Represents.nameUsed (h : Represents c b) {m : OidName} (hm : m.str = n) :
    b.NameUsed n ↔ (c.slotOf m).isSome = true := by
  rw [Option.isSome_iff_exists]
  constructor
  · rintro ⟨o, v, hx⟩
    obtain ⟨e, he, ht⟩ := (h.mem _).mp hx
    have hname : e.name = m := OidName.ext ((congrArg (fun x => x.2.1) ht).trans hm.symm)
    exact ⟨_, h.wf.slotOf_eq_some.mpr ⟨e, he, hname⟩⟩
  · rintro ⟨i, hi⟩
    obtain ⟨e, he, hname⟩ := h.wf.slotOf_eq_some.mp hi
    have hx := h.mem_of_at? he
    rw [triple, hname, hm] at hx
    exact ⟨_, _, hx⟩

/-! ## Lookups -/

/-- Lookup by ordinal, at any 32-bit ordinal. -/
theorem Represents.entryAtOrdinal_iff (h : Represents c b) (i : UInt32) :
    c.entryAtOrdinal i = some e ↔ triple e ∈ b.entries ∧ e.ordinal.toNat = i.toNat := by
  constructor
  · intro he
    exact ⟨h.mem_of_at? he, h.wf.ordinal _ e he⟩
  · rintro ⟨hm, hi⟩
    obtain ⟨e', he', ht⟩ := (h.mem _).mp hm
    have hid : e' = e := by
      obtain ⟨⟨na, oa⟩, va⟩ := e
      obtain ⟨⟨nb, ob⟩, vb⟩ := e'
      simp only [triple, OidContainerEntry.ordinal, OidContainerEntry.name, Prod.mk.injEq] at ht
      rw [OidName.ext ht.2.1, ht.1, ht.2.2]
    rw [entryAtOrdinal, ← hi, ← hid]
    exact he'

/-- Lookup by name, ignoring case. -/
theorem Represents.findName_iff (h : Represents c b) (hn : LegalName n) :
    ∃ r, c.findName n = .ok r ∧
      ∀ e, r = some e ↔ triple e ∈ b.entries ∧ e.name.str = foldCase n := by
  obtain ⟨m, hm, hstr, hinit⟩ := hn.construct_eq
  have hfind : c.findName n = c.entryWithName m := by simp only [findName, hm, bind, Except.bind]
  obtain ⟨r, hr⟩ : ∃ r, c.entryWithName m = .ok r := by
    simp only [entryWithName, h.wf.slotWithName_eq hinit, bind, Except.bind, pure, Except.pure]
    exact ⟨_, rfl⟩
  refine ⟨r, hfind.trans hr, fun e => ?_⟩
  have hiff := h.wf.entryWithName_iff (e := e) hinit
  rw [hr, Except.ok.injEq] at hiff
  rw [hiff]
  constructor
  · rintro ⟨i, he, rfl⟩
    exact ⟨h.mem_of_at? he, hstr⟩
  · rintro ⟨ht, hs⟩
    have he := (h.entryAtOrdinal_iff (e := e) e.ordinal.toUInt32).mpr
      ⟨ht, (UInt16.toNat_toUInt32 _).symm⟩
    exact ⟨_, he, OidName.ext (hs.trans hstr.symm)⟩

/-! ## `SetEntry` -/

open scoped Classical in
/-- The response `SetEntry` owes. -/
noncomputable def specResponse (b : PartialBijection UInt16 Bytes E) (o : UInt16) (n : Bytes) :
    OpResponse :=
  if b.KeyUsed o then if b.NameUsed n then .opAllreadyContainsEntry else .opOrdinalUsed
  else if b.NameUsed n then .opNameUsed else .opNoError

theorem Represents.response_eq (h : Represents c b) {m : OidName} (hm : m.str = n) :
    response (c.at? o.toNat).isSome (c.slotOf m).isSome = specResponse b o n := by
  unfold specResponse
  rw [h.keyUsed, h.nameUsed hm]
  cases (c.at? o.toNat).isSome <;> cases (c.slotOf m).isSome <;> simp [response]

/-- Holes at the end of the vector hold no entry. -/
theorem Represents.grow (h : Represents c b) (k : ℕ) : Represents (c.grow k) b where
  wf := h.wf.grow k
  mem x := by simpa using h.mem x
  card := h.card

theorem Represents.placed (h : Represents c b) (he : e.isInitialized = true) (hf : Fresh c e)
    (hfree : b.Free e.ordinal e.name.str) :
    Represents (c.placed e) (b.put e.ordinal e.name.str e.entry) where
  wf := h.wf.placed he hf
  mem x := by
    rw [PartialBijection.mem_put hfree, h.mem]
    constructor
    · rintro (rfl | ⟨e', he', rfl⟩)
      · exact ⟨e, by rw [at?_placed he, if_pos rfl], rfl⟩
      · refine ⟨e', ?_, rfl⟩
        have hne : e'.ordinal.toNat ≠ e.ordinal.toNat := by
          intro ho
          rw [ho, hf.ordinal] at he'
          cases he'
        rw [at?_placed he, if_neg hne]
        exact he'
    · rintro ⟨e', he', rfl⟩
      rw [at?_placed he] at he'
      split at he'
      · cases he'
        exact .inl rfl
      · exact .inr ⟨e', he', rfl⟩
  card := by rw [occupiedSize_placed h.wf he hf, PartialBijection.card_put hfree, h.card]

/-- **`SetEntry` is `put`**, and says which identifiers were in use. -/
theorem Represents.setEntry (h : Represents c b) (he : e.isInitialized = true) :
    Represents (c.setEntry e).1 (b.put e.ordinal e.name.str e.entry) ∧
      (c.setEntry e).2 = .ok (specResponse b e.ordinal e.name.str) := by
  have hkey := h.keyUsed (o := e.ordinal)
  have hname := h.nameUsed (m := e.name) rfl
  rw [h.wf.setEntry_eq he, h.response_eq rfl]
  refine ⟨?_, rfl⟩
  by_cases hf : c.at? e.ordinal.toNat = none ∧ c.slotOf e.name = none
  · have hfree : b.Free e.ordinal e.name.str := by
      rw [PartialBijection.Free, hkey, hname, hf.1, hf.2]
      simp
    rw [if_pos hf]
    exact h.placed he ⟨hf.1, hf.2⟩ hfree
  · have hused : ¬ b.Free e.ordinal e.name.str := by
      rintro ⟨hk, hn⟩
      rw [hkey, Option.not_isSome_iff_eq_none] at hk
      rw [hname, Option.not_isSome_iff_eq_none] at hn
      exact hf ⟨hk, hn⟩
    rw [if_neg hf, PartialBijection.put_of_not_free hused]
    exact h.grow _

end OidContainer

/-! ## Sequences of operations -/

/-- The operations, on containers numbered by `k` and `j`. -/
inductive ContainerOp (E : Type) where
  | setEntry (k : ℕ) (name : Bytes) (ordinal : UInt16) (entry : E)
  | clear (k : ℕ)
  | copy (k j : ℕ)
  | assign (k j : ℕ)

namespace ContainerOp

variable {E : Type} [Inhabited E]

def Legal : ContainerOp E → Prop
  | setEntry _ name _ _ => LegalName name
  | _ => True

/-- The operation on the containers, with its response or exception. -/
def apply (s : ℕ → OidContainer E) :
    ContainerOp E → (ℕ → OidContainer E) × Except StdException (Option OpResponse)
  | setEntry k name ordinal entry =>
    match Oid.make name ordinal.toUInt32 with
    | .error x => (s, .error x)
    | .ok id =>
      let r := (s k).setEntry ⟨id, entry⟩
      (Function.update s k r.1, r.2.map some)
  | clear k => (Function.update s k (s k).clear, .ok none)
  | copy k j =>
    let r := OidContainer.copyOf (s j)
    (Function.update s k r.1, r.2.map fun _ => none)
  | assign k j =>
    if k ≠ j then
      let r := OidContainer.copyOf (s j)
      (Function.update s k r.1, r.2.map fun _ => none)
    else (s, .ok none)

/-- The operation on the partial bijections, with the response it owes. -/
noncomputable def spec (b : ℕ → PartialBijection UInt16 Bytes E) :
    ContainerOp E → (ℕ → PartialBijection UInt16 Bytes E) × Option OpResponse
  | setEntry k name ordinal entry =>
    (Function.update b k ((b k).put ordinal (foldCase name) entry),
      some (OidContainer.specResponse (b k) ordinal (foldCase name)))
  | clear k => (Function.update b k .empty, none)
  | copy k j => (Function.update b k (b j), none)
  | assign k j => (Function.update b k (b j), none)

/-- All operations in order, with their responses. -/
def applyAll (s : ℕ → OidContainer E) :
    List (ContainerOp E) → (ℕ → OidContainer E) × List (Except StdException (Option OpResponse))
  | [] => (s, [])
  | op :: ops =>
    let rest := applyAll (op.apply s).1 ops
    (rest.1, (op.apply s).2 :: rest.2)

noncomputable def specAll (b : ℕ → PartialBijection UInt16 Bytes E) :
    List (ContainerOp E) → (ℕ → PartialBijection UInt16 Bytes E) × List (Option OpResponse)
  | [] => (b, [])
  | op :: ops =>
    let rest := specAll (op.spec b).1 ops
    (rest.1, (op.spec b).2 :: rest.2)

end ContainerOp

open OidContainer ContainerOp

section Operations

variable {E : Type} [Inhabited E] {s : ℕ → OidContainer E}
  {b : ℕ → PartialBijection UInt16 Bytes E} {c : OidContainer E}
  {p : PartialBijection UInt16 Bytes E} {k : ℕ}

/-- Each container represents its partial bijection. -/
def RepresentsAll (s : ℕ → OidContainer E) (b : ℕ → PartialBijection UInt16 Bytes E) : Prop :=
  ∀ k, Represents (s k) (b k)

theorem RepresentsAll.update (h : RepresentsAll s b) (hc : Represents c p) :
    RepresentsAll (Function.update s k c) (Function.update b k p) := by
  intro j
  by_cases hj : j = k
  · subst hj
    simpa using hc
  · rw [Function.update_of_ne hj, Function.update_of_ne hj]
    exact h j

/-- A legal name makes an identifier. -/
theorem LegalName.make_eq {n : Bytes} (h : LegalName n) (o : UInt16) :
    ∃ m, Oid.make n o.toUInt32 = .ok ⟨m, o⟩ ∧ m.str = foldCase n ∧ m.isInitialized = true := by
  obtain ⟨m, hm, hstr, hinit⟩ := h.construct_eq
  have hfit : ¬ o.toUInt32.toNat > 65535 := by
    have := o.toNat_lt
    rw [UInt16.toNat_toUInt32]
    omega
  refine ⟨m, ?_, hstr, hinit⟩
  simp only [Oid.make, hm, bind, Except.bind, if_neg hfit, UInt16.toUInt16_toUInt32]

/-- **Every operation is simulated**: same response, and the containers still represent. -/
theorem RepresentsAll.apply (h : RepresentsAll s b) (op : ContainerOp E) (hop : op.Legal) :
    RepresentsAll (op.apply s).1 (op.spec b).1 ∧ (op.apply s).2 = .ok (op.spec b).2 := by
  cases op with
  | setEntry k name ordinal entry =>
    obtain ⟨m, hm, hstr, hinit⟩ := LegalName.make_eq (n := name) hop ordinal
    obtain ⟨hrep, hresp⟩ := (h k).setEntry (e := ⟨⟨m, ordinal⟩, entry⟩) hinit
    have hname : OidContainerEntry.name (⟨⟨m, ordinal⟩, entry⟩ : OidContainerEntry E) = m := rfl
    rw [hname, hstr] at hrep hresp
    simp only [ContainerOp.apply, ContainerOp.spec, hm, hresp]
    exact ⟨h.update hrep, rfl⟩
  | clear k => exact ⟨h.update .empty, rfl⟩
  | copy k j =>
    simp only [ContainerOp.apply, ContainerOp.spec, (h j).wf.copyOf_eq]
    exact ⟨h.update (h j), rfl⟩
  | assign k j =>
    simp only [ContainerOp.apply, ContainerOp.spec, (h j).wf.copyOf_eq]
    split
    · exact ⟨h.update (h j), rfl⟩
    · rename_i hkj
      rw [ne_eq, not_not] at hkj
      subst hkj
      rw [Function.update_eq_self]
      exact ⟨h, rfl⟩

theorem RepresentsAll.applyAll (h : RepresentsAll s b) {ops : List (ContainerOp E)}
    (hops : ∀ op ∈ ops, op.Legal) :
    RepresentsAll (applyAll s ops).1 (specAll b ops).1 ∧
      (ContainerOp.applyAll s ops).2 = (specAll b ops).2.map .ok := by
  induction ops generalizing s b with
  | nil => exact ⟨h, rfl⟩
  | cons op ops ih =>
    obtain ⟨hrep, hresp⟩ := h.apply op (hops op List.mem_cons_self)
    obtain ⟨hrest, hresps⟩ := ih hrep fun o ho => hops o (List.mem_cons_of_mem _ ho)
    refine ⟨hrest, ?_⟩
    simp only [ContainerOp.applyAll, specAll, hresp, hresps, List.map_cons]

/-! ## Refinement -/

/-- What can be observed of a container is what the partial bijection says. -/
structure Refines (c : OidContainer E) (p : PartialBijection UInt16 Bytes E) : Prop where
  slots : ∀ i e, c.at? i = some e → e.ordinal.toNat = i
  index : ∀ i, i ∈ c.nameIndex ↔ ∃ e, c.at? i = some e
  once : c.nameIndex.Nodup
  ordered : c.nameIndex.Pairwise fun i j =>
    ∀ e e', c.at? i = some e → c.at? j = some e' → nameKey e.name < nameKey e'.name
  size : c.occupiedSize = p.card
  atOrdinal : ∀ i : UInt32, ∀ e,
    c.entryAtOrdinal i = some e ↔ triple e ∈ p.entries ∧ e.ordinal.toNat = i.toNat
  withName : ∀ n, LegalName n → ∃ r, c.findName n = .ok r ∧
    ∀ e, r = some e ↔ triple e ∈ p.entries ∧ e.name.str = foldCase n
  same : ∀ n, LegalName n → ∀ o v, (o, foldCase n, v) ∈ p.entries →
    ∃ e, triple e = (o, foldCase n, v) ∧ c.entryAtOrdinal o.toUInt32 = some e ∧
      c.findName n = .ok (some e)

theorem OidContainer.Represents.refines (h : Represents c p) : Refines c p where
  slots := h.wf.ordinal
  index i := (h.wf.mem i).trans nameAt_isInitialized
  once := h.wf.sorted.nodup
  ordered := by
    refine h.wf.sorted.imp fun hlt e e' he he' => ?_
    rw [slotKey, slotKey, nameAt_of_at? he, nameAt_of_at? he'] at hlt
    exact hlt
  size := h.card
  atOrdinal i _ := h.entryAtOrdinal_iff i
  withName _ hn := h.findName_iff hn
  same n hn o v hm := by
    obtain ⟨e, he, ht⟩ := (h.mem _).mp hm
    have ho : e.ordinal = o := congrArg (·.1) ht
    obtain ⟨r, hr, hiff⟩ := h.findName_iff hn
    have hmem : triple e ∈ p.entries := by rw [ht]; exact hm
    have hfound : r = some e := (hiff e).mpr ⟨hmem, congrArg (fun x => x.2.1) ht⟩
    refine ⟨e, ht, ?_, by rw [hr, hfound]⟩
    exact (h.entryAtOrdinal_iff o.toUInt32).mpr ⟨hmem, by rw [ho, UInt16.toNat_toUInt32]⟩

/-- From `s` to `s'` only lookups of `name` and `o` in container `k` may change. -/
structure ChangesOnly (s s' : ℕ → OidContainer E) (k : ℕ) (name : Bytes) (o : UInt16) : Prop where
  others : ∀ j, j ≠ k → s' j = s j
  ordinals : ∀ i : UInt32, i ≠ o.toUInt32 → (s' k).entryAtOrdinal i = (s k).entryAtOrdinal i
  names : ∀ n, LegalName n → foldCase n ≠ foldCase name → (s' k).findName n = (s k).findName n

theorem RepresentsAll.changesOnly (h : RepresentsAll s b) {name : Bytes} (hname : LegalName name)
    (k : ℕ) (o : UInt16) (v : E) :
    ChangesOnly s ((ContainerOp.setEntry k name o v).apply s).1 k name o := by
  obtain ⟨hafter, -⟩ := h.apply (.setEntry k name o v) hname
  have hk := hafter k
  simp only [ContainerOp.spec, Function.update_self] at hk
  refine ⟨fun j hj => ?_, fun i hi => ?_, fun n hn hne => ?_⟩
  · obtain ⟨m, hm, -, -⟩ := hname.make_eq o
    simp only [ContainerOp.apply, hm, Function.update_of_ne hj]
  · refine Option.ext fun e => ?_
    rw [hk.entryAtOrdinal_iff, (h k).entryAtOrdinal_iff]
    refine and_congr_left fun ho => PartialBijection.mem_put_of_ne (.inl fun heq => hi ?_)
    have heq : e.ordinal = o := heq
    rw [← UInt32.toNat_inj, UInt16.toNat_toUInt32, ← heq, ho]
  · obtain ⟨r', hr', hiff'⟩ := hk.findName_iff hn
    obtain ⟨r, hr, hiff⟩ := (h k).findName_iff hn
    rw [hr', hr]
    refine congrArg Except.ok (Option.ext fun e => ?_)
    rw [hiff', hiff]
    refine and_congr_left fun hs => PartialBijection.mem_put_of_ne (.inr fun heq => hne ?_)
    rw [← hs]
    exact heq

/-- **`OidContainer` refines a partial bijection**, over every sequence of operations. -/
theorem container_refines (ops : List (ContainerOp E)) (hops : ∀ op ∈ ops, op.Legal) :
    (applyAll (fun _ => .empty) ops).2 = (specAll (fun _ => .empty) ops).2.map .ok ∧
    (∀ k, Refines ((applyAll (fun _ => .empty) ops).1 k) ((specAll (fun _ => .empty) ops).1 k)) ∧
    ∀ k name o v, LegalName name →
      ((ContainerOp.setEntry k name o v).apply (applyAll (fun _ => .empty) ops).1).2 =
        .ok (some (specResponse ((specAll (fun _ => .empty) ops).1 k) o (foldCase name))) ∧
      ChangesOnly (applyAll (fun _ => .empty) ops).1
        ((ContainerOp.setEntry k name o v).apply (applyAll (fun _ => .empty) ops).1).1 k name o := by
  have hinit : RepresentsAll (fun _ => (OidContainer.empty : OidContainer E))
      (fun _ => PartialBijection.empty) := fun _ => .empty
  obtain ⟨hrep, hresp⟩ := hinit.applyAll hops
  refine ⟨hresp, fun k => (hrep k).refines, fun k name o v hname => ⟨?_, ?_⟩⟩
  · exact (hrep.apply (.setEntry k name o v) hname).2
  · exact hrep.changesOnly hname k o v

/-- Three entries, one of them refused, and a copy. -/
def sampleOps : List (ContainerOp ℕ) :=
  [.setEntry 0 (ascii "Hello") 2 7, .setEntry 0 (ascii "hello") 0 8, .setEntry 0 (ascii "list") 0 9,
    .copy 1 0, .clear 0]

theorem sampleOps_legal : ∀ op ∈ sampleOps, op.Legal := by
  have hlegal : ∀ n ∈ [ascii "Hello", ascii "hello", ascii "list"], LegalName n := by
    intro n hn
    have hdec : n ≠ [] ∧ (0 : UInt8) ∉ n ∧ n.length ≤ 31 := by
      revert n
      decide
    exact ⟨hdec.1, hdec.2.1, hdec.2.2⟩
  intro op hop
  simp only [sampleOps, List.mem_cons, List.not_mem_nil, or_false] at hop
  rcases hop with rfl | rfl | rfl | rfl | rfl
  · exact hlegal _ (by simp)
  · exact hlegal _ (by simp)
  · exact hlegal _ (by simp)
  · trivial
  · trivial

theorem container_refines_sample :
    Refines ((applyAll (fun _ => .empty) sampleOps).1 1)
      ((specAll (fun _ => .empty) sampleOps).1 1) :=
  (container_refines sampleOps sampleOps_legal).2.1 1

end Operations

end RblRpc
