import RblRpc.Common.OidName
import RblRpc.Lib.SortedIndex

/-!
# The identifier container

Model of `OidContainer` (`oid_container.h` / `oid_container-inl.h`): a vector of entries with
holes, and an intrusive set of the initialised slots ordered by name.  The set is modelled by
the list of its slots in order; every comparison goes through `operator<` and can throw.

* `setEntry` — resize, then the collision test, then the slot and the index.  It returns the
  container it leaves behind together with its response or exception.
* `WF` — the slots of the index are the initialised ones, in strictly increasing name order,
  and an initialised slot holds its own ordinal.
* `setEntry_eq` — what `SetEntry` does to a well-formed container, in all four cases.
* `WF.full_iff` — when every slot is in use.
* `WF.at?_setEntry_of_some`, `WF.entryWithName_iff` — the lookups.
-/

namespace RblRpc

/-- `OidContainerEntryType`. -/
structure OidContainerEntry (E : Type) where
  id : Oid
  entry : E
  deriving DecidableEq

namespace OidContainerEntry

variable {E : Type}

instance [Inhabited E] : Inhabited (OidContainerEntry E) := ⟨⟨default, default⟩⟩

def name (e : OidContainerEntry E) : OidName := e.id.name
def ordinal (e : OidContainerEntry E) : UInt16 := e.id.ordinal
def isInitialized (e : OidContainerEntry E) : Bool := e.name.isInitialized

@[simp] theorem default_isInitialized [Inhabited E] :
    (default : OidContainerEntry E).isInitialized = false := rfl

end OidContainerEntry

/-- `OP_RESPONSE`. -/
inductive OpResponse where
  | opNoError
  | opOrdinalUsed
  | opNameUsed
  | opAllreadyContainsEntry
  | opOrdinalOverflow
  deriving DecidableEq, Repr

/-- `OidContainer`: `entries_`, and `name_index_` as the list of its slots in order. -/
structure OidContainer (E : Type) where
  entries : List (OidContainerEntry E)
  nameIndex : List ℕ
  deriving DecidableEq

namespace OidContainer

variable {E : Type} {c : OidContainer E} {es : List (OidContainerEntry E)}
  {e : OidContainerEntry E} {n : OidName} {i j : ℕ} {idx : List ℕ}

def empty : OidContainer E := ⟨[], []⟩

def size (c : OidContainer E) : ℕ := c.entries.length
def occupiedSize (c : OidContainer E) : ℕ := c.nameIndex.length

/-- The initialised entry in slot `i`. -/
def at? (c : OidContainer E) (i : ℕ) : Option (OidContainerEntry E) :=
  c.entries[i]?.filter (·.isInitialized)

theorem at?_eq_some : c.at? i = some e ↔ c.entries[i]? = some e ∧ e.isInitialized = true := by
  simp [at?, Option.filter_eq_some_iff]

/-- `EntryAtordinal`. -/
def entryAtOrdinal (c : OidContainer E) (ordinal : UInt32) : Option (OidContainerEntry E) :=
  c.at? ordinal.toNat

/-- `operator[](ordinal)`: the parameter is an `ordinal_type`. -/
def atOrdinal (c : OidContainer E) (ordinal : UInt16) : Option E :=
  (c.entryAtOrdinal ordinal.toUInt32).map (·.entry)

/-- In a container without holes the lookup by ordinal is that of the vector. -/
theorem atOrdinal_of_all (h : c.entries.all (·.isInitialized) = true) (o : UInt16) :
    c.atOrdinal o = (c.entries.map (·.entry))[o.toNat]? := by
  rw [atOrdinal, entryAtOrdinal, UInt16.toNat_toUInt32, at?, List.getElem?_map]
  cases hg : c.entries[o.toNat]? with
  | none => rfl
  | some e =>
    have he := List.all_eq_true.mp h e (List.mem_of_getElem? hg)
    rw [Option.filter_some, if_pos he]

variable [Inhabited E]

/-- The name in slot `i`. -/
def nameAt (es : List (OidContainerEntry E)) (i : ℕ) : OidName := (es.getD i default).name

/-- `name_index_.find(name, name_key_finder())`, over the slots `idx`. -/
def findSlot (es : List (OidContainerEntry E)) (n : OidName) :
    List ℕ → Except StdException (Option ℕ)
  | [] => .ok none
  | i :: idx => do
    if ← (nameAt es i).lt n then findSlot es n idx
    else if ← n.lt (nameAt es i) then .ok none
    else .ok (some i)

/-- `EntryWithName`: the slot the returned pointer refers to. -/
def slotWithName (c : OidContainer E) (n : OidName) : Except StdException (Option ℕ) :=
  findSlot c.entries n c.nameIndex

/-- `EntryWithName`. -/
def entryWithName (c : OidContainer E) (n : OidName) :
    Except StdException (Option (OidContainerEntry E)) := do
  return (← c.slotWithName n).bind (c.entries[·]?)

/-- `name_index_.insert(entries_.at(i))`. -/
def insertSlot (es : List (OidContainerEntry E)) (i : ℕ) : List ℕ → Except StdException (List ℕ)
  | [] => .ok [i]
  | j :: idx => do
    if ← (nameAt es i).lt (nameAt es j) then return i :: j :: idx
    else if ← (nameAt es j).lt (nameAt es i) then return j :: (← insertSlot es i idx)
    else return j :: idx

/-- The loop of `regen_name_index_` over the slots `is`; an exception leaves what is linked. -/
def regenFrom (es : List (OidContainerEntry E)) :
    List ℕ → List ℕ → List ℕ × Except StdException Unit
  | [], idx => (idx, .ok ())
  | i :: is, idx =>
    if (es.getD i default).isInitialized then
      match insertSlot es i idx with
      | .ok idx' => regenFrom es is idx'
      | .error x => (idx, .error x)
    else regenFrom es is idx

/-- `entries_.resize(n)` for a growing size. -/
def grow (c : OidContainer E) (n : ℕ) : OidContainer E :=
  { c with entries := c.entries ++ List.replicate (n - c.entries.length) default }

/-- `resize_if_needed_`. -/
def resizeIfNeeded (c : OidContainer E) (ordinal : UInt32) :
    OidContainer E × Except StdException Unit :=
  if c.entries.length < (ordinal + 1).toNat then
    let es := (c.grow (ordinal + 1).toNat).entries
    if c.entries.length ≠ 0 then
      let r := regenFrom es (List.range es.length) []
      (⟨es, r.1⟩, r.2)
    else (⟨es, []⟩, .ok ())
  else (c, .ok ())

/-- `ContainsEither`. -/
def containsEither (c : OidContainer E) (id : Oid) : Except StdException OpResponse := do
  if c.occupiedSize = 0 then return .opNoError
  let ordinalInVector :=
    if c.size < id.ordinal.toNat + 1 then false
    else (c.entries.getD id.ordinal.toNat default).isInitialized
  let entryNameUsed := (← c.slotWithName id.name).isSome
  if ordinalInVector != entryNameUsed then
    if ordinalInVector then return .opOrdinalUsed else return .opNameUsed
  else if entryNameUsed then return .opAllreadyContainsEntry
  else return .opNoError

/-- `SetEntry`. -/
def setEntry (c : OidContainer E) (e : OidContainerEntry E) :
    OidContainer E × Except StdException OpResponse :=
  match c.resizeIfNeeded e.ordinal.toUInt32 with
  | (c₁, .error x) => (c₁, .error x)
  | (c₁, .ok ()) =>
    match c₁.containsEither e.id with
    | .error x => (c₁, .error x)
    | .ok .opNoError =>
      let es := c₁.entries.set e.ordinal.toNat e
      match insertSlot es e.ordinal.toNat c₁.nameIndex with
      | .error x => ({ c₁ with entries := es }, .error x)
      | .ok idx => (⟨es, idx⟩, .ok .opNoError)
    | .ok r => (c₁, .ok r)

/-- Write through the pointer to the entry in slot `i`. -/
def setAt (c : OidContainer E) (i : ℕ) (x : E) : OidContainer E :=
  { c with entries := c.entries.modify i fun e => { e with entry := x } }

/-! ## Searching and linking initialised names -/

theorem nameAt_of_at? (h : c.at? i = some e) : nameAt c.entries i = e.name := by
  simp [nameAt, List.getD_eq_getElem?_getD, (at?_eq_some.mp h).1]

theorem nameAt_isInitialized :
    (nameAt c.entries i).isInitialized = true ↔ ∃ e, c.at? i = some e := by
  constructor
  · intro h
    cases hg : c.entries[i]? with
    | none =>
      rw [nameAt, List.getD_eq_getElem?_getD, hg] at h
      cases h
    | some e =>
      rw [nameAt, List.getD_eq_getElem?_getD, hg] at h
      exact ⟨e, at?_eq_some.mpr ⟨hg, h⟩⟩
  · rintro ⟨e, h⟩
    rw [nameAt_of_at? h]
    exact (at?_eq_some.mp h).2

/-- The key of a slot. -/
def slotKey (es : List (OidContainerEntry E)) (i : ℕ) : List ℕ := nameKey (nameAt es i)

theorem findSlot_eq (hn : n.isInitialized = true)
    (hidx : ∀ i ∈ idx, (nameAt es i).isInitialized = true) :
    findSlot es n idx = .ok (SortedIndex.find (slotKey es) (nameKey n) idx) := by
  induction idx with
  | nil => rfl
  | cons i idx ih =>
    have h₁ : (nameAt es i).lt n = .ok (decide (slotKey es i < nameKey n)) := OidName.lt_eq hn
    have h₂ : n.lt (nameAt es i) = .ok (decide (nameKey n < slotKey es i)) :=
      OidName.lt_eq (hidx i List.mem_cons_self)
    simp only [findSlot, SortedIndex.find, h₁, h₂, bind, Except.bind, decide_eq_true_eq,
      ih fun j hj => hidx j (List.mem_cons_of_mem _ hj)]
    by_cases hlt : slotKey es i < nameKey n
    · rw [if_pos hlt, if_pos hlt]
    · rw [if_neg hlt, if_neg hlt]
      by_cases hgt : nameKey n < slotKey es i
      · rw [if_pos hgt, if_pos hgt]
      · rw [if_neg hgt, if_neg hgt]

theorem insertSlot_eq (hi : (nameAt es i).isInitialized = true)
    (hidx : ∀ j ∈ idx, (nameAt es j).isInitialized = true) :
    insertSlot es i idx = .ok (SortedIndex.insert (slotKey es) i idx) := by
  induction idx with
  | nil => rfl
  | cons j idx ih =>
    have h₁ : (nameAt es i).lt (nameAt es j) = .ok (decide (slotKey es i < slotKey es j)) :=
      OidName.lt_eq (hidx j List.mem_cons_self)
    have h₂ : (nameAt es j).lt (nameAt es i) = .ok (decide (slotKey es j < slotKey es i)) :=
      OidName.lt_eq hi
    simp only [insertSlot, SortedIndex.insert, h₁, h₂, bind, Except.bind, pure, Except.pure,
      decide_eq_true_eq, ih fun k hk => hidx k (List.mem_cons_of_mem _ hk)]
    by_cases hlt : slotKey es i < slotKey es j
    · rw [if_pos hlt, if_pos hlt]
    · rw [if_neg hlt, if_neg hlt]
      by_cases hgt : slotKey es j < slotKey es i
      · rw [if_pos hgt, if_pos hgt]
      · rw [if_neg hgt, if_neg hgt]

/-- Relinking: the names of the initialised slots of `is` join the index. -/
theorem regenFrom_spec : ∀ (is idx : List ℕ), SortedIndex.Sorted (slotKey es) idx →
    (∀ i ∈ idx, (nameAt es i).isInitialized = true) →
    ∃ idx', regenFrom es is idx = (idx', .ok ()) ∧ SortedIndex.Sorted (slotKey es) idx' ∧
      (∀ j ∈ idx', j ∈ idx ∨ (nameAt es j).isInitialized = true) ∧
      ∀ j, j ∈ idx ∨ (j ∈ is ∧ (nameAt es j).isInitialized = true) →
        ∃ j' ∈ idx', slotKey es j' = slotKey es j
  | [], idx, hs, _ => by
    refine ⟨idx, rfl, hs, fun j hj => .inl hj, fun j hj => ?_⟩
    rcases hj with hj | ⟨hj, -⟩
    · exact ⟨j, hj, rfl⟩
    · cases hj
  | i :: is, idx, hs, hall => by
    simp only [regenFrom]
    by_cases hinit : (nameAt es i).isInitialized = true
    · obtain ⟨idx', heq, hs', hsub, hkeys⟩ := regenFrom_spec is
        (SortedIndex.insert (slotKey es) i idx) (SortedIndex.insert_sorted hs)
        (fun j hj => by
          rcases SortedIndex.of_mem_insert hj with rfl | hj
          · exact hinit
          · exact hall j hj)
      have hlinked : ∀ j, j = i ∨ j ∈ idx → ∃ j' ∈ idx', slotKey es j' = slotKey es j := by
        intro j hj
        obtain ⟨x, hx, hk⟩ : ∃ x ∈ SortedIndex.insert (slotKey es) i idx,
            slotKey es x = slotKey es j := SortedIndex.exists_mem_insert hj
        obtain ⟨j', hj', hk'⟩ := hkeys x (.inl hx)
        exact ⟨j', hj', hk'.trans hk⟩
      refine ⟨idx', ?_, hs', fun j hj => ?_, fun j hj => ?_⟩
      · rw [if_pos (show (es.getD i default).isInitialized = true from hinit),
          insertSlot_eq hinit hall]
        exact heq
      · rcases hsub j hj with hj | hj
        · rcases SortedIndex.of_mem_insert hj with rfl | hj
          · exact .inr hinit
          · exact .inl hj
        · exact .inr hj
      · rcases hj with hj | ⟨hj, hji⟩
        · exact hlinked j (.inr hj)
        · rcases List.mem_cons.mp hj with rfl | hj
          · exact hlinked j (.inl rfl)
          · exact hkeys j (.inr ⟨hj, hji⟩)
    · rw [if_neg (show ¬(es.getD i default).isInitialized = true from hinit)]
      obtain ⟨idx', heq, hs', hsub, hkeys⟩ := regenFrom_spec is idx hs hall
      refine ⟨idx', heq, hs', hsub, fun j hj => ?_⟩
      rcases hj with hj | ⟨hj, hji⟩
      · exact hkeys j (.inl hj)
      · rcases List.mem_cons.mp hj with rfl | hj
        · exact absurd hji hinit
        · exact hkeys j (.inr ⟨hj, hji⟩)

/-- An initialised slot is one of the vector. -/
theorem lt_length_of_isInitialized (h : (nameAt c.entries i).isInitialized = true) :
    i < c.entries.length := by
  obtain ⟨e, he⟩ := nameAt_isInitialized.mp h
  exact (List.getElem?_eq_some_iff.mp (at?_eq_some.mp he).1).1

/-- **`regen_name_index_` from an empty index** links initialised slots, one for each name. -/
theorem regen_spec (c : OidContainer E) :
    ∃ idx, regenFrom c.entries (List.range c.entries.length) [] = (idx, .ok ()) ∧
      SortedIndex.Sorted (slotKey c.entries) idx ∧
      (∀ i ∈ idx, (nameAt c.entries i).isInitialized = true) ∧
      ∀ i, (nameAt c.entries i).isInitialized = true →
        ∃ j ∈ idx, slotKey c.entries j = slotKey c.entries i := by
  have hnil : SortedIndex.Sorted (slotKey c.entries) [] := List.Pairwise.nil
  obtain ⟨idx, heq, hs, hsub, hkeys⟩ :=
    regenFrom_spec (List.range c.entries.length) [] hnil fun i hi => by cases hi
  refine ⟨idx, heq, hs, fun i hi => ?_, fun i hi => ?_⟩
  · exact (hsub i hi).resolve_left List.not_mem_nil
  · exact hkeys i (.inr ⟨List.mem_range.mpr (lt_length_of_isInitialized hi), hi⟩)

/-! ## Well-formed containers -/

/-- The index lists the initialised slots by name, and each of them holds its own ordinal. -/
structure WF (c : OidContainer E) : Prop where
  sorted : SortedIndex.Sorted (slotKey c.entries) c.nameIndex
  mem : ∀ i, i ∈ c.nameIndex ↔ (nameAt c.entries i).isInitialized = true
  ordinal : ∀ i e, c.at? i = some e → e.ordinal.toNat = i

theorem WF.empty : WF (OidContainer.empty : OidContainer E) :=
  ⟨List.Pairwise.nil, fun i => by simp [OidContainer.empty, nameAt]; rfl,
   fun i e h => by simp [OidContainer.empty, at?] at h⟩

theorem WF.name_inj (h : WF c) (hi : (nameAt c.entries i).isInitialized = true)
    (hj : (nameAt c.entries j).isInitialized = true)
    (he : nameAt c.entries i = nameAt c.entries j) : i = j := by
  have hfi := SortedIndex.find_of_mem h.sorted ((h.mem i).mpr hi)
  have hfj := SortedIndex.find_of_mem h.sorted ((h.mem j).mpr hj)
  rw [slotKey, he] at hfi
  rw [slotKey, hfi] at hfj
  exact Option.some.inj hfj

/-- The index counts the initialised slots. -/
theorem WF.occupiedSize_eq (h : WF c) :
    c.occupiedSize = c.entries.countP (·.isInitialized) := by
  have hentries : c.entries =
      (List.range c.entries.length).map fun i => c.entries.getD i default := by
    refine List.ext_getElem (by simp) fun i hi _ => ?_
    rw [List.getElem_map, List.getElem_range, List.getD_eq_getElem?_getD,
      List.getElem?_eq_getElem hi, Option.getD_some]
  have hperm : c.nameIndex.Perm ((List.range c.entries.length).filter
      fun i => (c.entries.getD i default).isInitialized) := by
    refine (List.perm_ext_iff_of_nodup h.sorted.nodup (List.nodup_range.filter _)).mpr fun i => ?_
    rw [h.mem, List.mem_filter, List.mem_range]
    constructor
    · intro hi
      exact ⟨lt_length_of_isInitialized hi, hi⟩
    · exact And.right
  rw [occupiedSize, hperm.length_eq, hentries, List.countP_map, ← List.countP_eq_length_filter]
  rw [← hentries]
  rfl

/-- **All slots are in use** exactly when the index counts them all. -/
theorem WF.full_iff (h : WF c) :
    c.occupiedSize = c.size ↔ ∀ i < c.size, (c.at? i).isSome = true := by
  rw [h.occupiedSize_eq, size, List.countP_eq_length]
  constructor
  · intro hall i hi
    rw [at?_eq_some.mpr ⟨List.getElem?_eq_getElem hi, hall _ (List.getElem_mem hi)⟩]
    rfl
  · intro hfull e he
    obtain ⟨i, hi, rfl⟩ := List.mem_iff_getElem.mp he
    obtain ⟨e, he⟩ := Option.isSome_iff_exists.mp (hfull i hi)
    obtain ⟨hget, hinit⟩ := at?_eq_some.mp he
    rw [List.getElem?_eq_getElem hi] at hget
    rw [Option.some.inj hget]
    exact hinit

/-- The entries of two slots have different names. -/
theorem WF.at?_inj {e' : OidContainerEntry E} (h : WF c) (he : c.at? i = some e)
    (he' : c.at? j = some e') (hname : e.name = e'.name) : i = j := by
  refine h.name_inj ?_ ?_ ?_
  · exact nameAt_isInitialized.mpr ⟨e, he⟩
  · exact nameAt_isInitialized.mpr ⟨e', he'⟩
  · rw [nameAt_of_at? he, nameAt_of_at? he', hname]

/-- The slot a name refers to. -/
def slotOf (c : OidContainer E) (n : OidName) : Option ℕ :=
  SortedIndex.find (slotKey c.entries) (nameKey n) c.nameIndex

theorem WF.slotWithName_eq (h : WF c) (hn : n.isInitialized = true) :
    c.slotWithName n = .ok (c.slotOf n) :=
  findSlot_eq hn fun i hi => (h.mem i).mp hi

/-- **Lookup by name**: the slot found is the initialised one with that name. -/
theorem WF.slotOf_eq_some (h : WF c) :
    c.slotOf n = some i ↔ ∃ e, c.at? i = some e ∧ e.name = n := by
  rw [slotOf, SortedIndex.find_eq_some_iff h.sorted, h.mem, nameAt_isInitialized]
  constructor
  · rintro ⟨⟨e, he⟩, hk⟩
    refine ⟨e, he, nameKey_injective ?_⟩
    rw [← nameAt_of_at? he]; exact hk
  · rintro ⟨e, he, rfl⟩
    exact ⟨⟨e, he⟩, by rw [slotKey, nameAt_of_at? he]⟩

theorem WF.slotOf_eq_none (h : WF c) :
    c.slotOf n = none ↔ ∀ i e, c.at? i = some e → e.name ≠ n := by
  constructor
  · intro hs i e he hn
    rw [h.slotOf_eq_some.mpr ⟨e, he, hn⟩] at hs
    cases hs
  · intro hall
    cases hs : c.slotOf n with
    | none => rfl
    | some i =>
      obtain ⟨e, he, hn⟩ := h.slotOf_eq_some.mp hs
      exact absurd hn (hall i e he)

/-- `EntryWithName` returns the entry of that name, if there is one. -/
theorem WF.entryWithName_iff (h : WF c) (hn : n.isInitialized = true) :
    c.entryWithName n = .ok (some e) ↔ ∃ i, c.at? i = some e ∧ e.name = n := by
  simp only [entryWithName, h.slotWithName_eq hn, bind, Except.bind, pure, Except.pure,
    Except.ok.injEq, Option.bind_eq_some_iff, h.slotOf_eq_some]
  constructor
  · rintro ⟨i, ⟨e', he', hn'⟩, hg⟩
    have := (at?_eq_some.mp he').1
    rw [hg] at this
    cases this
    exact ⟨i, he', hn'⟩
  · rintro ⟨i, he, hn'⟩
    exact ⟨i, ⟨e, he, hn'⟩, (at?_eq_some.mp he).1⟩

/-! ## Growing -/

@[simp] theorem grow_nameIndex (k : ℕ) : (c.grow k).nameIndex = c.nameIndex := rfl

@[simp] theorem size_grow (k : ℕ) : (c.grow k).size = max c.size k := by
  simp only [grow, size, List.length_append, List.length_replicate]; omega

theorem nameAt_grow (k i : ℕ) : nameAt (c.grow k).entries i = nameAt c.entries i := by
  simp only [nameAt, grow, List.getD_eq_getElem?_getD, List.getElem?_append,
    List.getElem?_replicate]
  split
  · rfl
  · rename_i hi
    rw [List.getElem?_eq_none (by omega)]
    split <;> rfl

theorem slotKey_grow (k : ℕ) : slotKey (c.grow k).entries = slotKey c.entries :=
  funext fun i => congrArg nameKey (nameAt_grow k i)

@[simp] theorem at?_grow (k i : ℕ) : (c.grow k).at? i = c.at? i := by
  simp only [at?, grow, List.getElem?_append, List.getElem?_replicate]
  split
  · rfl
  · rename_i hi
    rw [List.getElem?_eq_none (by omega)]
    split <;> simp

theorem WF.grow (h : WF c) (k : ℕ) : WF (c.grow k) :=
  ⟨by rw [slotKey_grow]; exact h.sorted, fun i => by rw [nameAt_grow]; exact h.mem i,
   fun i e he => h.ordinal i e (by rwa [at?_grow] at he)⟩

theorem grow_of_le {k : ℕ} (hk : k ≤ c.size) : c.grow k = c := by
  simp only [OidContainer.grow, show k - c.entries.length = 0 by simp only [size] at hk; omega,
    List.replicate_zero, List.append_nil]

theorem slotOf_grow (k : ℕ) : (c.grow k).slotOf n = c.slotOf n := by
  simp only [slotOf, slotKey_grow, grow_nameIndex]

theorem toNat_succ_toUInt32 (o : UInt16) : (o.toUInt32 + 1).toNat = o.toNat + 1 := by
  have := o.toNat_lt
  simp only [UInt32.toNat_add, UInt16.toNat_toUInt32, UInt32.reduceToNat]
  omega

/-- **Relinking a well-formed container** gives the index it already has. -/
theorem WF.regen_eq (h : WF c) :
    regenFrom c.entries (List.range c.entries.length) [] = (c.nameIndex, .ok ()) := by
  obtain ⟨idx, heq, hs, hinit, hkeys⟩ := regen_spec c
  have hidx : idx = c.nameIndex := by
    refine hs.ext h.sorted fun j => ?_
    rw [h.mem]
    constructor
    · exact hinit j
    · intro hj
      obtain ⟨j', hj', hk⟩ := hkeys j hj
      have hsame : j' = j := h.name_inj (hinit j' hj') hj (nameKey_injective hk)
      rw [← hsame]
      exact hj'
  rw [heq, hidx]

/-- A slot of the vector needs no resize. -/
theorem resizeIfNeeded_of_lt {o : UInt16} (h : o.toNat < c.size) :
    c.resizeIfNeeded o.toUInt32 = (c, .ok ()) := by
  unfold resizeIfNeeded
  rw [toNat_succ_toUInt32, if_neg (by simp only [size] at h; omega)]

/-- `resize_if_needed_` relinks the same slots. -/
theorem WF.resizeIfNeeded_eq (h : WF c) (o : UInt16) :
    c.resizeIfNeeded o.toUInt32 = (c.grow (o.toNat + 1), .ok ()) := by
  unfold resizeIfNeeded
  rw [toNat_succ_toUInt32]
  split
  · simp only
    split
    · rw [(h.grow (o.toNat + 1)).regen_eq, grow_nameIndex]
      rfl
    · rename_i hz
      have hnil : c.nameIndex = [] := by
        refine List.eq_nil_iff_forall_not_mem.mpr fun i hi => ?_
        have := lt_length_of_isInitialized ((h.mem i).mp hi)
        omega
      rw [← hnil]
      rfl
  · rename_i hge
    rw [grow_of_le (by simp only [size]; omega)]

/-! ## `SetEntry` -/

/-- The response to an identifier whose ordinal, respectively name, is in use. -/
def response : Bool → Bool → OpResponse
  | false, false => .opNoError
  | true, false => .opOrdinalUsed
  | false, true => .opNameUsed
  | true, true => .opAllreadyContainsEntry

/-- `ContainsEither` of a name that can be searched for. -/
theorem containsEither_eq (id : Oid) {found : Option ℕ}
    (hfound : c.slotWithName id.name = .ok found)
    (hbare : c.nameIndex = [] → ∀ i, c.at? i = none) :
    c.containsEither id = .ok (response (c.at? id.ordinal.toNat).isSome found.isSome) := by
  have hord : (if c.size < id.ordinal.toNat + 1 then false
      else (c.entries.getD id.ordinal.toNat default).isInitialized) =
        (c.at? id.ordinal.toNat).isSome := by
    by_cases hlt : c.size < id.ordinal.toNat + 1
    · rw [if_pos hlt, at?, List.getElem?_eq_none (by simp only [size] at hlt; omega)]
      rfl
    · rw [if_neg hlt, Bool.eq_iff_iff, Option.isSome_iff_exists]
      exact nameAt_isInitialized
  unfold containsEither
  by_cases hocc : c.occupiedSize = 0
  · have hnil : c.nameIndex = [] := List.eq_nil_of_length_eq_zero hocc
    rw [slotWithName, hnil] at hfound
    cases hfound
    rw [if_pos hocc, hbare hnil]
    rfl
  · rw [if_neg hocc]
    simp only [hfound, hord, bind, Except.bind, pure, Except.pure]
    cases (c.at? id.ordinal.toNat).isSome <;> cases found.isSome <;> rfl

theorem WF.bare (h : WF c) (hnil : c.nameIndex = []) (i : ℕ) : c.at? i = none := by
  rw [Option.eq_none_iff_forall_ne_some]
  intro e he
  have hmem := (h.mem i).mpr (nameAt_isInitialized.mpr ⟨e, he⟩)
  rw [hnil] at hmem
  cases hmem

theorem WF.containsEither_eq (h : WF c) (id : Oid) (hn : id.name.isInitialized = true) :
    c.containsEither id =
      .ok (response (c.at? id.ordinal.toNat).isSome (c.slotOf id.name).isSome) :=
  OidContainer.containsEither_eq id (h.slotWithName_eq hn) h.bare

/-- The container after the entry was accepted. -/
def placed (c : OidContainer E) (e : OidContainerEntry E) : OidContainer E :=
  let es := (c.grow (e.ordinal.toNat + 1)).entries.set e.ordinal.toNat e
  ⟨es, SortedIndex.insert (slotKey es) e.ordinal.toNat c.nameIndex⟩

theorem at?_placed (he : e.isInitialized = true) (i : ℕ) :
    (c.placed e).at? i = if i = e.ordinal.toNat then some e else c.at? i := by
  have hlen : e.ordinal.toNat < (c.grow (e.ordinal.toNat + 1)).entries.length := by
    have := size_grow (c := c) (e.ordinal.toNat + 1)
    simp only [size] at this; omega
  simp only [at?, placed, List.getElem?_set]
  split
  · rename_i heq
    rw [if_pos heq.symm]
    simp [he]
  · rename_i hne
    rw [if_neg (Ne.symm hne)]
    exact at?_grow _ i

theorem size_placed : (c.placed e).size = max c.size (e.ordinal.toNat + 1) := by
  simp only [placed, size, List.length_set]
  exact size_grow _

theorem nameAt_placed (he : e.isInitialized = true) (i : ℕ) :
    nameAt (c.placed e).entries i =
      if i = e.ordinal.toNat then e.name else nameAt c.entries i := by
  split
  · rename_i heq
    exact nameAt_of_at? (by rw [at?_placed he, if_pos heq])
  · rename_i hne
    rw [← nameAt_grow (c := c) (e.ordinal.toNat + 1) i]
    simp only [placed, nameAt, List.getD_eq_getElem?_getD,
      List.getElem?_set_ne (Ne.symm hne)]

/-- Linking a new slot among initialised ones compares initialised names. -/
theorem insertSlot_placed (hl : ∀ i ∈ c.nameIndex, (nameAt c.entries i).isInitialized = true)
    (he : e.isInitialized = true) :
    insertSlot (c.placed e).entries e.ordinal.toNat c.nameIndex =
      .ok (c.placed e).nameIndex := by
  refine insertSlot_eq ?_ fun j hj => ?_
  · rw [nameAt_placed he, if_pos rfl]
    exact he
  · rw [nameAt_placed he]
    split
    · exact he
    · exact hl j hj

/-- Neither the ordinal nor the name of `e` is in use. -/
structure Fresh (c : OidContainer E) (e : OidContainerEntry E) : Prop where
  ordinal : c.at? e.ordinal.toNat = none
  name : c.slotOf e.name = none

theorem WF.fresh_index (h : WF c) (he : e.isInitialized = true) (hf : Fresh c e) {i : ℕ}
    (hi : i ∈ c.nameIndex) : i ≠ e.ordinal.toNat ∧
      slotKey (c.placed e).entries i = slotKey c.entries i ∧
      slotKey (c.placed e).entries i ≠ slotKey (c.placed e).entries e.ordinal.toNat := by
  obtain ⟨x, hx⟩ := nameAt_isInitialized.mp ((h.mem i).mp hi)
  have hne : i ≠ e.ordinal.toNat := by
    rintro rfl
    rw [hf.ordinal] at hx
    cases hx
  have hkey : slotKey (c.placed e).entries i = slotKey c.entries i := by
    rw [slotKey, nameAt_placed he, if_neg hne, slotKey]
  refine ⟨hne, hkey, fun hk => ?_⟩
  rw [hkey, slotKey, nameAt_of_at? hx, slotKey, nameAt_placed he, if_pos rfl] at hk
  exact h.slotOf_eq_none.mp hf.name i x hx (nameKey_injective hk)

/-- **What `SetEntry` does to a well-formed container.** -/
theorem WF.setEntry_eq (h : WF c) (he : e.isInitialized = true) :
    c.setEntry e =
      (if c.at? e.ordinal.toNat = none ∧ c.slotOf e.name = none then c.placed e
        else c.grow (e.ordinal.toNat + 1),
       .ok (response (c.at? e.ordinal.toNat).isSome (c.slotOf e.name).isSome)) := by
  have hce := (h.grow (e.ordinal.toNat + 1)).containsEither_eq e.id he
  have ho : e.id.ordinal = e.ordinal := rfl
  have hn : e.id.name = e.name := rfl
  rw [at?_grow, slotOf_grow, ho, hn] at hce
  simp only [setEntry, h.resizeIfNeeded_eq, hce]
  cases hat : c.at? e.ordinal.toNat with
  | some x => cases c.slotOf e.name <;> simp [response]
  | none =>
    cases hsl : c.slotOf e.name with
    | some i => simp [response]
    | none =>
      have hins : insertSlot ((c.grow (e.ordinal.toNat + 1)).entries.set e.ordinal.toNat e)
          e.ordinal.toNat c.nameIndex = .ok (c.placed e).nameIndex :=
        insertSlot_placed (fun i hi => (h.mem i).mp hi) he
      simp only [response, Option.isSome_none, grow_nameIndex, hins, and_self, if_true]
      rfl

/-- Searching for an uninitialised name throws at the first comparison. -/
theorem containsEither_uninitialized (hne : c.nameIndex ≠ []) {id : Oid}
    (hid : id.name.isInitialized = false) : c.containsEither id = .error .invalidArgument := by
  have hocc : c.occupiedSize ≠ 0 := by simpa [occupiedSize] using hne
  have hlt : ∀ n : OidName, n.lt id.name = .error .invalidArgument := fun n =>
    if_neg (by rw [hid]; decide)
  unfold containsEither slotWithName
  rw [if_neg hocc]
  cases hidx : c.nameIndex with
  | nil => exact absurd hidx hne
  | cons i idx => simp only [findSlot, hlt, bind, Except.bind]

/-- An uninitialised name throws, but only after the resize. -/
theorem WF.setEntry_uninitialized (h : WF c) (hne : c.nameIndex ≠ [])
    (he : e.isInitialized = false) :
    c.setEntry e = (c.grow (e.ordinal.toNat + 1), .error .invalidArgument) := by
  have hid : e.id.name.isInitialized = false := he
  have hce := containsEither_uninitialized (c := c.grow (e.ordinal.toNat + 1)) hne hid
  simp only [setEntry, h.resizeIfNeeded_eq, hce]

theorem WF.placed (h : WF c) (he : e.isInitialized = true) (hf : Fresh c e) :
    WF (c.placed e) where
  sorted := by
    refine SortedIndex.insert_sorted (h.sorted.congr fun i hi => ?_)
    exact (h.fresh_index he hf hi).2.1.symm
  mem i := by
    have hfresh : ∀ j ∈ c.nameIndex, slotKey (c.placed e).entries j ≠
        slotKey (c.placed e).entries e.ordinal.toNat := fun j hj => (h.fresh_index he hf hj).2.2
    refine (SortedIndex.mem_insert hfresh).trans ?_
    rw [nameAt_placed he]
    split
    · rename_i heq
      simp only [heq, true_or, true_iff]
      exact he
    · rename_i hne
      rw [← h.mem i]
      simp [hne]
  ordinal i x hx := by
    rw [at?_placed he] at hx
    split at hx
    · rename_i heq
      cases hx
      exact heq.symm
    · exact h.ordinal i x hx

theorem occupiedSize_placed (h : WF c) (he : e.isInitialized = true) (hf : Fresh c e) :
    (c.placed e).occupiedSize = c.occupiedSize + 1 :=
  SortedIndex.length_insert fun _ hi => (h.fresh_index he hf hi).2.2

/-- `SetEntry` keeps containers well-formed. -/
theorem WF.setEntry (h : WF c) (he : e.isInitialized = true) : WF (c.setEntry e).1 := by
  rw [h.setEntry_eq he]
  simp only
  split
  · rename_i hf
    exact h.placed he ⟨hf.1, hf.2⟩
  · exact h.grow _

/-- An entry once set stays. -/
theorem WF.at?_setEntry_of_some (h : WF c) (he : e.isInitialized = true) {x : OidContainerEntry E}
    (hx : c.at? i = some x) : (c.setEntry e).1.at? i = some x := by
  rw [h.setEntry_eq he]
  simp only
  split
  · rename_i hf
    rw [at?_placed he, if_neg]
    · exact hx
    · rintro rfl
      rw [hf.1] at hx
      cases hx
  · rw [at?_grow]; exact hx

/-- `SetEntry` leaves the slots as they are, or puts the entry into a free one. -/
theorem WF.setEntry_cases (h : WF c) (hne : c.nameIndex ≠ []) (e : OidContainerEntry E) :
    (c.setEntry e).1 = c.grow (e.ordinal.toNat + 1) ∨
      e.isInitialized = true ∧ Fresh c e ∧ (c.setEntry e).1 = c.placed e := by
  cases he : e.isInitialized with
  | false =>
    rw [h.setEntry_uninitialized hne he]
    exact .inl rfl
  | true =>
    rw [h.setEntry_eq he]
    by_cases hf : c.at? e.ordinal.toNat = none ∧ c.slotOf e.name = none
    · rw [if_pos hf]
      exact .inr ⟨rfl, ⟨hf.1, hf.2⟩, rfl⟩
    · rw [if_neg hf]
      exact .inl rfl

omit [Inhabited E] in
/-- A write through the pointer to an entry. -/
theorem at?_setAt (c : OidContainer E) (i : ℕ) (x : E) (j : ℕ) :
    (c.setAt i x).at? j =
      if j = i then (c.at? j).map fun e => { e with entry := x } else c.at? j := by
  simp only [at?, setAt, List.getElem?_modify]
  cases c.entries[j]? with
  | none => simp
  | some e =>
    by_cases hij : j = i
    · subst hij
      simp only [if_true, Option.map_eq_map, Option.map_some, Option.filter_some]
      cases hinit : e.isInitialized with
      | true =>
        rw [if_pos (show ({ e with entry := x } : OidContainerEntry E).isInitialized = true from
          hinit)]
        rfl
      | false =>
        rw [if_neg (show ¬({ e with entry := x } : OidContainerEntry E).isInitialized = true from
          fun ht => Bool.false_ne_true (hinit.symm.trans ht))]
        rfl
    · simp only [if_neg hij, if_neg (Ne.symm hij), Option.map_eq_map, Option.map_some]

omit [Inhabited E] in
/-- A write to an entry leaves the identifiers. -/
theorem id_setAt (c : OidContainer E) (i : ℕ) (x : E) (j : ℕ) :
    ((c.setAt i x).at? j).map (·.id) = (c.at? j).map (·.id) := by
  rw [at?_setAt]
  split
  · cases c.at? j <;> rfl
  · rfl

omit [Inhabited E] in
theorem size_setAt (c : OidContainer E) (i : ℕ) (x : E) : (c.setAt i x).size = c.size :=
  List.length_modify ..

theorem nameAt_setAt (c : OidContainer E) (i : ℕ) (x : E) (j : ℕ) :
    nameAt (c.setAt i x).entries j = nameAt c.entries j := by
  simp only [nameAt, setAt, List.getD_eq_getElem?_getD, List.getElem?_modify]
  cases c.entries[j]? with
  | none => rfl
  | some e =>
    by_cases hij : i = j <;> simp [hij, OidContainerEntry.name]

/-- Writing an entry keeps containers well-formed. -/
theorem WF.setAt (h : WF c) (i : ℕ) (x : E) : WF (c.setAt i x) where
  sorted := h.sorted.congr fun j _ => by rw [slotKey, slotKey, nameAt_setAt]
  mem j := by
    rw [nameAt_setAt]
    exact h.mem j
  ordinal j e he := by
    rw [at?_setAt] at he
    split at he
    · obtain ⟨e', he', rfl⟩ := Option.map_eq_some_iff.mp he
      exact h.ordinal j e' he'
    · exact h.ordinal j e he

end OidContainer

end RblRpc
