import RblRpc.Common.OidRefinement
import RblRpc.Lib.Machine

/-!
# Containers under any accepted name

The constructor of names accepts the empty name and names that begin with NUL, and both are
the name of an uninitialised slot.  `SetEntry` resizes and relinks before it looks for
collisions, and writes the slot before the comparisons that can throw.

* `Reachable` — containers made with any names; `Sane` is what holds of all of them.
* `Sane.setEntry_cases` — what `SetEntry` does to a sane container whose vector is long enough.
* `failure_changes_nothing_iff` — when a `SetEntry` that fails leaves no trace.
-/

namespace RblRpc

namespace OidContainer

variable {E : Type} [Inhabited E] {c c₁ : OidContainer E} {e : OidContainerEntry E} {n : OidName}
  {i j : ℕ} {idx : List ℕ}

/-- The containers that the operations make out of the empty one. -/
inductive Reachable : OidContainer E → Prop
  | empty : Reachable .empty
  | setEntry {c : OidContainer E} (e : OidContainerEntry E) (h : Reachable c) :
      Reachable (c.setEntry e).1
  | setAt {c : OidContainer E} (i : ℕ) (x : E) (h : Reachable c) : Reachable (c.setAt i x)
  | clear {c : OidContainer E} (h : Reachable c) : Reachable c.clear
  | copyOf {c : OidContainer E} (h : Reachable c) : Reachable (OidContainer.copyOf c).1

/-! ## The invariant -/

/-- Every slot of the index is initialised. -/
def Linked (c : OidContainer E) : Prop :=
  ∀ i ∈ c.nameIndex, (nameAt c.entries i).isInitialized = true

/-- The index holds slot `i` only, and the name in it is empty. -/
structure EmptyNamed (c : OidContainer E) (i : ℕ) : Prop where
  index : c.nameIndex = [i]
  unnamed : (nameAt c.entries i).isInitialized = false

/-- The index is in order, of initialised slots or of one slot with the empty name, and while it
is empty no slot is initialised. -/
structure Sane (c : OidContainer E) : Prop where
  sorted : SortedIndex.Sorted (slotKey c.entries) c.nameIndex
  linked : Linked c ∨ ∃ i, EmptyNamed c i
  bare : c.nameIndex = [] → ∀ i, c.at? i = none

theorem at?_eq_none_iff : c.at? i = none ↔ (nameAt c.entries i).isInitialized = false := by
  rw [← Bool.not_eq_true, nameAt_isInitialized, Option.eq_none_iff_forall_ne_some]
  exact not_exists.symm

/-- Relinking a vector gives a sane container that knows every name in it. -/
theorem sane_of_regen (c : OidContainer E) :
    ∃ idx, regenFrom c.entries (List.range c.entries.length) [] = (idx, .ok ()) ∧
      Sane ⟨c.entries, idx⟩ ∧ Linked ⟨c.entries, idx⟩ ∧
      ∀ i e, c.at? i = some e → ∃ j ∈ idx, slotKey c.entries j = nameKey e.name := by
  obtain ⟨idx, heq, hs, hinit, hkeys⟩ := regen_spec c
  refine ⟨idx, heq, ⟨hs, .inl hinit, fun hnil i => ?_⟩, hinit, fun i e he => ?_⟩
  · rw [at?_eq_none_iff, ← Bool.not_eq_true]
    intro hi
    obtain ⟨j, hj, -⟩ := hkeys i hi
    have hnil : idx = [] := hnil
    rw [hnil] at hj
    cases hj
  · obtain ⟨j, hj, hk⟩ := hkeys i (nameAt_isInitialized.mpr ⟨e, he⟩)
    rw [slotKey, slotKey, nameAt_of_at? he] at hk
    exact ⟨j, hj, hk⟩

/-- **`resize_if_needed_` beyond the vector** lengthens it and relinks every name. -/
theorem resizeIfNeeded_of_le {o : UInt16} (h : c.size ≤ o.toNat) :
    ∃ c₁, c.resizeIfNeeded o.toUInt32 = (c₁, .ok ()) ∧ c₁.size = o.toNat + 1 ∧
      (∀ i, c₁.at? i = c.at? i) ∧ Sane c₁ ∧ Linked c₁ ∧
      ∀ i e, c.at? i = some e → ∃ j ∈ c₁.nameIndex, slotKey c₁.entries j = nameKey e.name := by
  have hsize : (c.grow (o.toNat + 1)).entries.length = o.toNat + 1 := by
    have hgrow := size_grow (c := c) (o.toNat + 1)
    simp only [size] at hgrow h
    omega
  obtain ⟨idx, heq, hsane, hlinked, hkeys⟩ := sane_of_regen (c.grow (o.toNat + 1))
  have hat : ∀ i, (⟨(c.grow (o.toNat + 1)).entries, idx⟩ : OidContainer E).at? i = c.at? i :=
    fun i => at?_grow (o.toNat + 1) i
  refine ⟨⟨(c.grow (o.toNat + 1)).entries, idx⟩, ?_, hsize, hat, hsane, hlinked, ?_⟩
  · unfold resizeIfNeeded
    rw [toNat_succ_toUInt32, if_pos (by simp only [size] at h; omega)]
    simp only
    split
    · rw [heq]
    · -- A vector that was empty is not relinked, and has nothing to link.
      rename_i hz
      have hnil : idx = [] := by
        refine List.eq_nil_iff_forall_not_mem.mpr fun i hi => ?_
        have hi := hlinked i hi
        rw [nameAt_grow] at hi
        have := lt_length_of_isInitialized hi
        omega
      rw [hnil]
  · intro i e he
    exact hkeys i e ((at?_grow _ i).trans he)

/-! ## `SetEntry` -/

/-- After the resize `SetEntry` goes on as it would in the longer vector. -/
theorem setEntry_resized (h : c.resizeIfNeeded e.ordinal.toUInt32 = (c₁, .ok ()))
    (hlt : e.ordinal.toNat < c₁.size) : c.setEntry e = c₁.setEntry e := by
  simp only [setEntry, h, resizeIfNeeded_of_lt hlt]

theorem Linked.slotWithName_eq (h : Linked c) (hn : n.isInitialized = true) :
    c.slotWithName n = .ok (c.slotOf n) :=
  findSlot_eq hn h

/-- The search passes over a slot with the empty name. -/
theorem EmptyNamed.slotWithName_eq (h : EmptyNamed c i) (hn : n.isInitialized = true) :
    c.slotWithName n = .ok none := by
  have hempty : (nameAt c.entries i).str = [] := by
    simpa [OidName.isInitialized] using h.unnamed
  have hkey : nameKey (nameAt c.entries i) < nameKey n := by
    have hne : n.str ≠ [] := by simpa [OidName.isInitialized] using hn
    rw [nameKey, nameKey, hempty]
    cases hstr : n.str with
    | nil => exact absurd hstr hne
    | cons x xs => exact List.nil_lt_cons _ _
  simp only [slotWithName, h.index, findSlot, OidName.lt_eq hn, bind, Except.bind,
    decide_eq_true hkey, if_true]

/-- The container after the entry was written and the insertion into the index threw. -/
def written (c : OidContainer E) (e : OidContainerEntry E) : OidContainer E :=
  { c with entries := c.entries.set e.ordinal.toNat e }

theorem entries_written (hlt : e.ordinal.toNat < c.size) :
    (c.written e).entries = (c.placed e).entries := by
  simp only [written, placed, grow_of_le (k := e.ordinal.toNat + 1) hlt]

/-- An entry without a collision is written, and then linked. -/
theorem setEntry_placed (hlt : e.ordinal.toNat < c.size)
    (hce : c.containsEither e.id = .ok .opNoError)
    (hins : insertSlot (c.placed e).entries e.ordinal.toNat c.nameIndex =
      .ok (c.placed e).nameIndex) : c.setEntry e = (c.placed e, .ok .opNoError) := by
  rw [← entries_written hlt, written] at hins
  simp only [setEntry, resizeIfNeeded_of_lt hlt, hce, hins]
  exact Prod.ext (congrArg₂ OidContainer.mk (entries_written hlt) rfl) rfl

theorem setEntry_linked (hs : Sane c) (hl : Linked c) (he : e.isInitialized = true)
    (hlt : e.ordinal.toNat < c.size) :
    c.setEntry e =
      (if c.at? e.ordinal.toNat = none ∧ c.slotOf e.name = none then c.placed e else c,
       .ok (response (c.at? e.ordinal.toNat).isSome (c.slotOf e.name).isSome)) := by
  have hce : c.containsEither e.id =
      .ok (response (c.at? e.ordinal.toNat).isSome (c.slotOf e.name).isSome) :=
    containsEither_eq e.id (hl.slotWithName_eq he) hs.bare
  cases hat : c.at? e.ordinal.toNat with
  | some x =>
    rw [hat] at hce
    simp only [setEntry, resizeIfNeeded_of_lt hlt, hce]
    cases c.slotOf e.name <;> simp [response]
  | none =>
    rw [hat] at hce
    cases hsl : c.slotOf e.name with
    | some i =>
      rw [hsl] at hce
      simp only [setEntry, resizeIfNeeded_of_lt hlt, hce]
      simp [response]
    | none =>
      rw [hsl] at hce
      rw [setEntry_placed hlt hce (insertSlot_placed hl he), if_pos ⟨rfl, rfl⟩]
      rfl

/-- Beside a slot with the empty name nothing can be linked: the insertion compares with it. -/
theorem EmptyNamed.insertSlot_written (h : EmptyNamed c i) (hne : i ≠ e.ordinal.toNat) :
    insertSlot (c.written e).entries e.ordinal.toNat c.nameIndex = .error .invalidArgument := by
  have hi : nameAt (c.written e).entries i = nameAt c.entries i := by
    simp only [written, nameAt, List.getD_eq_getElem?_getD, List.getElem?_set_ne (Ne.symm hne)]
  have hlt : ∀ n : OidName, n.lt (nameAt (c.written e).entries i) = .error .invalidArgument :=
    fun n => if_neg (by rw [hi, h.unnamed]; decide)
  simp only [h.index, insertSlot, hlt, bind, Except.bind]

theorem setEntry_emptyNamed (hs : Sane c) (h : EmptyNamed c i) (he : e.isInitialized = true)
    (hlt : e.ordinal.toNat < c.size) :
    c.setEntry e =
      if (c.at? e.ordinal.toNat).isSome = true then (c, .ok .opOrdinalUsed)
      else if i = e.ordinal.toNat then (c.placed e, .ok .opNoError)
      else (c.written e, .error .invalidArgument) := by
  have hce : c.containsEither e.id = .ok (response (c.at? e.ordinal.toNat).isSome false) :=
    containsEither_eq e.id (h.slotWithName_eq he) hs.bare
  cases hat : c.at? e.ordinal.toNat with
  | some x =>
    rw [hat] at hce
    simp only [setEntry, resizeIfNeeded_of_lt hlt, hce]
    rfl
  | none =>
    rw [hat] at hce
    rw [if_neg (by simp)]
    by_cases hi : i = e.ordinal.toNat
    · -- The slot itself is written, so the index already has the new name.
      have hnew : (nameAt (c.placed e).entries e.ordinal.toNat).isInitialized = true := by
        rw [nameAt_placed he, if_pos rfl]
        exact he
      rw [if_pos hi]
      refine setEntry_placed hlt hce (insertSlot_eq hnew fun j hj => ?_)
      rw [h.index, List.mem_singleton, hi] at hj
      rw [hj]
      exact hnew
    · have hins := h.insertSlot_written (e := e) hi
      rw [written] at hins
      rw [if_neg hi]
      simp only [setEntry, resizeIfNeeded_of_lt hlt, hce, response, Option.isSome_none, hins,
        written]

theorem setEntry_unnamed (hne : c.nameIndex ≠ []) (he : e.isInitialized = false)
    (hlt : e.ordinal.toNat < c.size) : c.setEntry e = (c, .error .invalidArgument) := by
  have hid : e.id.name.isInitialized = false := he
  simp only [setEntry, resizeIfNeeded_of_lt hlt, containsEither_uninitialized hne hid]

/-- An empty container takes any entry, the empty name included. -/
theorem setEntry_first (hs : Sane c) (hnil : c.nameIndex = [])
    (hlt : e.ordinal.toNat < c.size) : c.setEntry e = (c.placed e, .ok .opNoError) := by
  have hfound : c.slotWithName e.id.name = .ok none := by rw [slotWithName, hnil]; rfl
  have hce := containsEither_eq e.id hfound hs.bare
  rw [hs.bare hnil] at hce
  refine setEntry_placed hlt hce ?_
  simp only [placed, hnil, insertSlot, SortedIndex.insert]

/-- **The four ways of `SetEntry`** in a vector that is long enough: it takes the entry, refuses it,
throws before it writes the slot, or throws after. -/
theorem Sane.setEntry_cases (hs : Sane c) (hlt : e.ordinal.toNat < c.size) :
    (c.setEntry e = (c.placed e, .ok .opNoError) ∧
      (c.nameIndex = [] ∨ e.isInitialized = true ∧ c.at? e.ordinal.toNat = none ∧
        (Linked c ∨ EmptyNamed c e.ordinal.toNat))) ∨
    (∃ r, c.setEntry e = (c, .ok r) ∧ r ≠ .opNoError) ∨
    c.setEntry e = (c, .error .invalidArgument) ∨
    (c.setEntry e = (c.written e, .error .invalidArgument) ∧ e.isInitialized = true ∧
      c.at? e.ordinal.toNat = none ∧ ∃ i, EmptyNamed c i ∧ i ≠ e.ordinal.toNat) := by
  cases he : e.isInitialized with
  | false =>
    by_cases hnil : c.nameIndex = []
    · exact .inl ⟨setEntry_first hs hnil hlt, .inl hnil⟩
    · exact .inr (.inr (.inl (setEntry_unnamed hnil he hlt)))
  | true =>
    rcases hs.linked with hl | ⟨i, hi⟩
    · have heq := setEntry_linked hs hl he hlt
      cases hat : c.at? e.ordinal.toNat with
      | some x =>
        rw [hat, if_neg (by simp)] at heq
        refine .inr (.inl ⟨_, heq, ?_⟩)
        cases c.slotOf e.name <;> simp [response]
      | none =>
        cases hsl : c.slotOf e.name with
        | some j =>
          rw [hat, hsl, if_neg (by simp)] at heq
          exact .inr (.inl ⟨_, heq, by simp [response]⟩)
        | none =>
          rw [hat, hsl, if_pos ⟨rfl, rfl⟩] at heq
          exact .inl ⟨heq, .inr ⟨rfl, rfl, .inl hl⟩⟩
    · have heq := setEntry_emptyNamed hs hi he hlt
      cases hat : c.at? e.ordinal.toNat with
      | some x =>
        rw [hat, if_pos Option.isSome_some] at heq
        exact .inr (.inl ⟨_, heq, by decide⟩)
      | none =>
        rw [hat, if_neg (by simp)] at heq
        by_cases hio : i = e.ordinal.toNat
        · rw [if_pos hio] at heq
          exact .inl ⟨heq, .inr ⟨rfl, rfl, .inr (hio ▸ hi)⟩⟩
        · rw [if_neg hio] at heq
          exact .inr (.inr (.inr ⟨heq, rfl, rfl, i, hi, hio⟩))

theorem at?_written (he : e.isInitialized = true) (hlt : e.ordinal.toNat < c.size) (i : ℕ) :
    (c.written e).at? i = if i = e.ordinal.toNat then some e else c.at? i := by
  rw [← at?_placed he, at?, at?, entries_written hlt]

/-- The index after a first entry. -/
theorem sane_of_first (hnil : c.nameIndex = []) : Sane (c.placed e) := by
  have hidx : (c.placed e).nameIndex = [e.ordinal.toNat] := by
    simp only [placed, hnil, SortedIndex.insert]
  refine ⟨by rw [hidx]; exact List.pairwise_singleton _ _, ?_, fun h => ?_⟩
  · cases hinit : (nameAt (c.placed e).entries e.ordinal.toNat).isInitialized with
    | true =>
      refine .inl fun i hi => ?_
      rw [hidx, List.mem_singleton] at hi
      rw [hi]
      exact hinit
    | false => exact .inr ⟨_, hidx, hinit⟩
  · rw [hidx] at h
    cases h

theorem Sane.placed (hs : Sane c) (he : e.isInitialized = true)
    (hfree : c.at? e.ordinal.toNat = none) (hl : Linked c ∨ EmptyNamed c e.ordinal.toNat) :
    Sane (c.placed e) := by
  have hnew : (nameAt (c.placed e).entries e.ordinal.toNat).isInitialized = true := by
    rw [nameAt_placed he, if_pos rfl]
    exact he
  have hsorted : SortedIndex.Sorted (slotKey (c.placed e).entries) c.nameIndex := by
    rcases hl with hl | hl
    · refine hs.sorted.congr fun i hi => ?_
      have hne : i ≠ e.ordinal.toNat := by
        rintro rfl
        have hi := hl _ hi
        rw [at?_eq_none_iff.mp hfree] at hi
        cases hi
      rw [slotKey, slotKey, nameAt_placed he, if_neg hne]
    · rw [hl.index]
      exact List.pairwise_singleton _ _
  have hold : ∀ i ∈ c.nameIndex, (nameAt (c.placed e).entries i).isInitialized = true := by
    intro i hi
    rw [nameAt_placed he]
    split
    · exact he
    · rename_i hne
      rcases hl with hl | hl
      · exact hl i hi
      · rw [hl.index, List.mem_singleton] at hi
        exact absurd hi hne
  refine ⟨SortedIndex.insert_sorted hsorted, .inl fun i hi => ?_, fun hnil => ?_⟩
  · rcases SortedIndex.of_mem_insert hi with rfl | hi
    · exact hnew
    · exact hold i hi
  · obtain ⟨x, hx, -⟩ : ∃ x ∈ (c.placed e).nameIndex, slotKey (c.placed e).entries x =
        slotKey (c.placed e).entries e.ordinal.toNat := SortedIndex.exists_mem_insert (.inl rfl)
    rw [hnil] at hx
    cases hx

theorem Sane.written (hi : EmptyNamed c i) (hne : i ≠ e.ordinal.toNat) : Sane (c.written e) := by
  have hname : EmptyNamed (c.written e) i := by
    refine ⟨hi.index, ?_⟩
    have hsame : nameAt (c.written e).entries i = nameAt c.entries i := by
      simp only [OidContainer.written, nameAt, List.getD_eq_getElem?_getD,
        List.getElem?_set_ne (Ne.symm hne)]
    rw [hsame]
    exact hi.unnamed
  refine ⟨?_, .inr ⟨i, hname⟩, fun hnil => ?_⟩
  · rw [hname.index]
    exact List.pairwise_singleton _ _
  · rw [hname.index] at hnil
    cases hnil

/-- `SetEntry` keeps containers sane, however it ends. -/
theorem Sane.setEntry (hs : Sane c) (e : OidContainerEntry E) : Sane (c.setEntry e).1 := by
  have hlong : ∀ {c : OidContainer E}, Sane c → e.ordinal.toNat < c.size →
      Sane (c.setEntry e).1 := by
    intro c hs hlt
    rcases hs.setEntry_cases hlt with ⟨heq, hnil | ⟨he, hfree, hl⟩⟩ | ⟨r, heq, -⟩ | heq |
      ⟨heq, -, -, i, hi, hne⟩
    · rw [heq]
      exact sane_of_first hnil
    · rw [heq]
      exact hs.placed he hfree hl
    · rw [heq]
      exact hs
    · rw [heq]
      exact hs
    · rw [heq]
      exact Sane.written hi hne
  by_cases hlt : e.ordinal.toNat < c.size
  · exact hlong hs hlt
  · obtain ⟨c₁, heq, hsize, -, hs₁, -⟩ := resizeIfNeeded_of_le (not_lt.mp hlt)
    rw [setEntry_resized heq (by omega)]
    exact hlong hs₁ (by omega)

theorem Sane.setAt (hs : Sane c) (i : ℕ) (x : E) : Sane (c.setAt i x) where
  sorted := hs.sorted.congr fun j _ => by rw [slotKey, slotKey, nameAt_setAt]
  linked := by
    rcases hs.linked with hl | ⟨j, hj⟩
    · exact .inl fun k hk => by rw [nameAt_setAt]; exact hl k hk
    · exact .inr ⟨j, hj.index, by rw [nameAt_setAt]; exact hj.unnamed⟩
  bare hnil j := by
    rw [at?_eq_none_iff, nameAt_setAt, ← at?_eq_none_iff]
    exact hs.bare hnil j

theorem sane_empty : Sane (OidContainer.empty : OidContainer E) where
  sorted := List.Pairwise.nil
  linked := .inl fun i hi => by cases hi
  bare _ i := by simp [OidContainer.empty, at?]

/-- **Every container is sane**, whatever names it was given. -/
theorem Reachable.sane (h : Reachable c) : Sane c := by
  induction h with
  | empty => exact sane_empty
  | setEntry e _ ih => exact ih.setEntry e
  | setAt i x _ ih => exact ih.setAt i x
  | clear => exact sane_empty
  | @copyOf c _ _ =>
    obtain ⟨idx, heq, hs, -⟩ := sane_of_regen c
    simp only [OidContainer.copyOf, regenNameIndex_, heq]
    exact hs

/-! ## What a failure leaves behind -/

/-- All that callers can see of a container. -/
structure SameView (c c' : OidContainer E) : Prop where
  size : c'.size = c.size
  occupiedSize : c'.occupiedSize = c.occupiedSize
  getEntries : c'.entries = c.entries
  containsEither : ∀ id, c'.containsEither id = c.containsEither id
  withName : ∀ n, c'.entryWithName n = c.entryWithName n
  atOrdinal : ∀ o, c'.entryAtOrdinal o = c.entryAtOrdinal o

theorem SameView.refl (c : OidContainer E) : SameView c c :=
  ⟨rfl, rfl, rfl, fun _ => rfl, fun _ => rfl, fun _ => rfl⟩

/-- If `SetEntry` does not succeed, nothing has changed. -/
def KeptOnFailure (c : OidContainer E) (e : OidContainerEntry E) : Prop :=
  (c.setEntry e).2 ≠ .ok .opNoError → SameView c (c.setEntry e).1

/-- Beyond the vector, the entry has a name, and one that no slot has; within it, it is not meant
for a free slot beside one with the empty name. -/
structure Harmless (c : OidContainer E) (e : OidContainerEntry E) : Prop where
  beyond : c.size ≤ e.ordinal.toNat →
    ∀ i x, c.at? i = some x → e.isInitialized = true ∧ x.name ≠ e.name
  within : e.ordinal.toNat < c.size → e.isInitialized = true → c.at? e.ordinal.toNat = none →
    ∀ i, EmptyNamed c i → i = e.ordinal.toNat

theorem written_ne (he : e.isInitialized = true) (hlt : e.ordinal.toNat < c.size)
    (hfree : c.at? e.ordinal.toNat = none) : (c.written e).entries ≠ c.entries := by
  intro heq
  have hat := at?_written he hlt e.ordinal.toNat
  rw [if_pos rfl, at?, heq] at hat
  rw [at?, hat] at hfree
  cases hfree

theorem Sane.kept_within (hs : Sane c) (hlt : e.ordinal.toNat < c.size) :
    KeptOnFailure c e ↔ (e.isInitialized = true → c.at? e.ordinal.toNat = none →
      ∀ i, EmptyNamed c i → i = e.ordinal.toNat) := by
  constructor
  · intro hkept he hfree i hi
    by_contra hne
    have heq := setEntry_emptyNamed hs hi he hlt
    rw [hfree, if_neg (by simp), if_neg hne] at heq
    have hsame := hkept (by rw [heq]; simp)
    rw [heq] at hsame
    exact written_ne he hlt hfree hsame.getEntries
  · intro hwithin hfail
    rcases hs.setEntry_cases hlt with ⟨heq, -⟩ | ⟨r, heq, -⟩ | heq | ⟨-, he, hfree, i, hi, hne⟩
    · rw [heq] at hfail
      exact absurd rfl hfail
    · rw [heq]
      exact SameView.refl c
    · rw [heq]
      exact SameView.refl c
    · exact absurd (hwithin he hfree i hi) hne

/-- Beyond the vector every failure is seen in `size()`. -/
theorem kept_beyond (hle : c.size ≤ e.ordinal.toNat) :
    KeptOnFailure c e ↔ ∀ i x, c.at? i = some x → e.isInitialized = true ∧ x.name ≠ e.name := by
  obtain ⟨c₁, hresize, hsize, hat, hs₁, hl₁, hkeys⟩ := resizeIfNeeded_of_le hle
  have hlt : e.ordinal.toNat < c₁.size := by omega
  have heq := setEntry_resized hresize hlt
  have hgrown : ¬SameView c c₁ := fun hsame => by
    have := hsame.size
    omega
  have hfree : c₁.at? e.ordinal.toNat = none := by
    rw [hat, at?, List.getElem?_eq_none (by simp only [size] at hle; omega)]
    rfl
  rw [KeptOnFailure, heq]
  cases he : e.isInitialized with
  | false =>
    -- Any name in the index is compared with the empty one.
    constructor
    · intro hkept i x hx
      obtain ⟨j, hj, -⟩ := hkeys i x hx
      have hne : c₁.nameIndex ≠ [] := List.ne_nil_of_mem hj
      rw [setEntry_unnamed hne he hlt] at hkept
      exact absurd (hkept (by simp)) hgrown
    · intro hnone hfail
      have hnil : c₁.nameIndex = [] := by
        refine List.eq_nil_iff_forall_not_mem.mpr fun i hi => ?_
        obtain ⟨x, hx⟩ := nameAt_isInitialized.mp (hl₁ i hi)
        have hno := (hnone i x ((hat i).symm.trans hx)).1
        cases hno
      rw [setEntry_first hs₁ hnil hlt] at hfail
      exact absurd rfl hfail
  | true =>
    rw [setEntry_linked hs₁ hl₁ he hlt, hfree]
    cases hsl : c₁.slotOf e.name with
    | some j =>
      obtain ⟨hj, hk⟩ := SortedIndex.find_mem hsl
      obtain ⟨x, hx⟩ := nameAt_isInitialized.mp (hl₁ j hj)
      have hname : x.name = e.name := by
        rw [slotKey, nameAt_of_at? hx] at hk
        exact nameKey_injective hk
      rw [if_neg (by simp)]
      refine iff_of_false (fun hkept => hgrown (hkept (by simp [response]))) fun hnone => ?_
      exact (hnone j x ((hat j).symm.trans hx)).2 hname
    | none =>
      have hunused := (SortedIndex.find_eq_none_iff hs₁.sorted).mp hsl
      refine iff_of_true (fun hfail => absurd rfl hfail) fun i x hx => ⟨rfl, fun hname => ?_⟩
      obtain ⟨j, hj, hk⟩ := hkeys i x hx
      exact hunused j hj (hk.trans (congrArg nameKey hname))

/-- **A `SetEntry` that fails leaves no trace** exactly when it is harmless. -/
theorem failure_changes_nothing_iff (h : Reachable c) (e : OidContainerEntry E) :
    KeptOnFailure c e ↔ Harmless c e := by
  rcases lt_or_ge e.ordinal.toNat c.size with hlt | hle
  · rw [h.sane.kept_within hlt]
    exact ⟨fun hwithin => ⟨fun hle => absurd hlt hle.not_gt, fun _ => hwithin⟩,
      fun hh => hh.within hlt⟩
  · rw [kept_beyond hle]
    exact ⟨fun hbeyond => ⟨fun _ => hbeyond, fun hlt => absurd hle hlt.not_ge⟩,
      fun hh => hh.beyond hle⟩

/-- An entry named `echo`, respectively `time`. -/
def echoAt (ordinal : UInt16) : OidContainerEntry ℕ :=
  ⟨⟨⟨ascii "echo", by decide, by decide⟩, ordinal⟩, 7⟩

def timeAt (ordinal : UInt16) : OidContainerEntry ℕ :=
  ⟨⟨⟨ascii "time", by decide, by decide⟩, ordinal⟩, 8⟩

/-- A container with one entry. -/
def echoContainer : OidContainer ℕ := (OidContainer.empty.setEntry (echoAt 0)).1

theorem echoContainer_reachable : Reachable echoContainer := .setEntry _ .empty

/-- A used ordinal within the vector is refused without a trace. -/
theorem failure_changes_nothing_iff_sample : KeptOnFailure echoContainer (timeAt 0) := by
  have hwithin : ¬echoContainer.size ≤ (timeAt 0).ordinal.toNat := by decide
  have hused : echoContainer.at? (timeAt 0).ordinal.toNat ≠ none := by decide
  exact (failure_changes_nothing_iff echoContainer_reachable _).mpr
    ⟨fun hle => absurd hle hwithin, fun _ _ hfree => absurd hfree hused⟩

/-- The used name at the next ordinal is refused, and `size()` has grown. -/
theorem failed_setEntry_grows :
    ¬∀ c : OidContainer ℕ, Reachable c → ∀ e, KeptOnFailure c e := by
  intro hall
  have hfail : (echoContainer.setEntry (echoAt 1)).2 = .ok .opNameUsed := by decide
  have hsize : (echoContainer.setEntry (echoAt 1)).1.size = 2 := by decide
  have hone : echoContainer.size = 1 := by decide
  have hkept := (hall echoContainer echoContainer_reachable (echoAt 1) (by rw [hfail]; decide)).size
  rw [hsize, hone] at hkept
  cases hkept

end OidContainer

end RblRpc
