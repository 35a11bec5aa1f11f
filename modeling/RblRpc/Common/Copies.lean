import RblRpc.Common.Errors
import RblRpc.Common.OidRefinement

/-!
# Copies of containers

The three ways to copy a container: the copy constructor and `operator=` copy the vector and link
it again, `SlicingPopulate` inserts the entries one by one, converted, into another container.

* `slicingPopulate` — its loop over the slots of the source, holes included.
* `AnswersLike` — lookups, size of the index and the index itself are those of another container.
* `populateFrom_spec` — the loop invariant of `SlicingPopulate`.
* `copies_answer_alike` — all three copies answer like the original.
-/

namespace RblRpc

/-- The conversion operator of an entry: the identifier stays. -/
def OidContainerEntry.convert {E F : Type} (conv : E → F) (e : OidContainerEntry E) :
    OidContainerEntry F := ⟨e.id, conv e.entry⟩

namespace OidContainer

variable {E F : Type} [Inhabited E] [Inhabited F] {conv : E → F} {c : OidContainer E}
  {t : OidContainer F} {e : OidContainerEntry E} {i j n : ℕ}

/-- The loop of `SlicingPopulate` over the slots `is`; what `SetEntry` returns is not looked at. -/
def populateFrom (conv : E → F) (c : OidContainer E) :
    List ℕ → OidContainer F → OidContainer F × Except StdException Unit
  | [], t => (t, .ok ())
  | i :: is, t =>
    match c.entryAtOrdinal (UInt32.ofNat i) with
    | none => populateFrom conv c is t
    | some e =>
      match t.setEntry (e.convert conv) with
      | (t', .error x) => (t', .error x)
      | (t', .ok _) => populateFrom conv c is t'

/-- `SlicingPopulate`: the target afterwards. -/
def slicingPopulate (conv : E → F) (c : OidContainer E) (target : OidContainer F) :
    OidContainer F × Except StdException Unit :=
  populateFrom conv c (List.range c.size) target.clear

/-- The lookups of `t` return the entries of `c`, converted; the index of `t` has one of its own
initialised slots for each of them. -/
structure AnswersLike (conv : E → F) (c : OidContainer E) (t : OidContainer F) : Prop where
  atOrdinal : ∀ o, t.entryAtOrdinal o = (c.entryAtOrdinal o).map (·.convert conv)
  withName : ∀ m, t.entryWithName m = (c.entryWithName m).map (Option.map (·.convert conv))
  occupiedSize : t.occupiedSize = c.occupiedSize
  ownSlots : ∀ i ∈ t.nameIndex, i < t.size ∧ (t.at? i).isSome = true

/-! ## Containers with the same slots -/

/-- The name in a slot that is not initialised is empty. -/
theorem nameAt_of_none (h : c.at? i = none) : nameAt c.entries i = OidName.empty := by
  have hinit : ¬(nameAt c.entries i).isInitialized = true := by
    rw [nameAt_isInitialized, h]
    rintro ⟨e, he⟩
    cases he
  refine OidName.ext ?_
  simpa [OidName.isInitialized, OidName.empty] using hinit

/-- A search looks at the names of the slots only. -/
theorem findSlot_congr {es : List (OidContainerEntry E)} {es' : List (OidContainerEntry F)}
    (h : ∀ i, nameAt es' i = nameAt es i) (m : OidName) (idx : List ℕ) :
    findSlot es' m idx = findSlot es m idx := by
  induction idx with
  | nil => rfl
  | cons i idx ih => simp only [findSlot, h, ih]

/-- What a search finds is a slot of the index. -/
theorem mem_of_findSlot {es : List (OidContainerEntry E)} {m : OidName} {idx : List ℕ}
    (h : findSlot es m idx = .ok (some i)) : i ∈ idx := by
  induction idx with
  | nil => cases h
  | cons j idx ih =>
    obtain ⟨below, -, h⟩ := bind_eq_ok.mp h
    cases below with
    | true => exact List.mem_cons_of_mem _ (ih h)
    | false =>
      obtain ⟨above, -, h⟩ := bind_eq_ok.mp h
      cases above with
      | true => cases h
      | false =>
        cases h
        exact List.mem_cons_self

/-- **Containers with the same slots answer alike.** -/
theorem WF.answersLike (hc : WF c) (ht : WF t)
    (hat : ∀ i, t.at? i = (c.at? i).map (·.convert conv)) : AnswersLike conv c t := by
  have hname : ∀ i, nameAt t.entries i = nameAt c.entries i := by
    intro i
    cases hi : c.at? i with
    | none => rw [nameAt_of_none hi, nameAt_of_none ((hat i).trans (by rw [hi]; rfl))]
    | some e =>
      have hti : t.at? i = some (e.convert conv) := by rw [hat, hi]; rfl
      rw [nameAt_of_at? hi, nameAt_of_at? hti]
      rfl
  have hkey : slotKey t.entries = slotKey c.entries := funext fun i => congrArg nameKey (hname i)
  have hindex : t.nameIndex = c.nameIndex := by
    refine ht.sorted.ext (hkey ▸ hc.sorted) fun i => ?_
    rw [ht.mem, hc.mem, hname]
  refine ⟨fun o => hat o.toNat, fun m => ?_, congrArg List.length hindex, fun i hi => ?_⟩
  · have hslot : t.slotWithName m = c.slotWithName m := by
      rw [slotWithName, slotWithName, hindex]
      exact findSlot_congr hname m _
    have hfound : ∀ i, c.slotWithName m = .ok (some i) →
        t.entries[i]? = (c.entries[i]?).map (·.convert conv) := by
      intro i hi
      obtain ⟨e, he⟩ := nameAt_isInitialized.mp ((hc.mem i).mp (mem_of_findSlot hi))
      have hti : t.at? i = some (e.convert conv) := by rw [hat, he]; rfl
      rw [(at?_eq_some.mp he).1, (at?_eq_some.mp hti).1]
      rfl
    simp only [entryWithName, hslot]
    cases hs : c.slotWithName m with
    | error x => rfl
    | ok r =>
      cases r with
      | none => rfl
      | some i => exact congrArg Except.ok (hfound i hs)
  · have hinit := (ht.mem i).mp hi
    obtain ⟨e, he⟩ := nameAt_isInitialized.mp hinit
    exact ⟨lt_length_of_isInitialized hinit, by rw [he]; rfl⟩

/-! ## `SlicingPopulate` -/

/-- The target after the slots below `n`. -/
structure Populated (conv : E → F) (c : OidContainer E) (n : ℕ) (t : OidContainer F) : Prop where
  wf : WF t
  at? : ∀ i, t.at? i = if i < n then (c.at? i).map (·.convert conv) else none

omit [Inhabited E] in
theorem populated_empty (conv : E → F) (c : OidContainer E) :
    Populated conv c 0 (OidContainer.empty : OidContainer F) where
  wf := WF.empty
  at? i := by simp [OidContainer.empty, OidContainer.at?]

omit [Inhabited E] in
/-- A hole is passed over. -/
theorem Populated.hole (h : Populated conv c n t) (hn : c.at? n = none) :
    Populated conv c (n + 1) t where
  wf := h.wf
  at? i := by
    rw [h.at?]
    rcases Nat.lt_trichotomy i n with hlt | rfl | hgt
    · rw [if_pos hlt, if_pos (by omega)]
    · rw [if_neg (by omega), if_pos (by omega), hn]
      rfl
    · rw [if_neg (by omega), if_neg (by omega)]

/-- An entry is taken: its ordinal is the next one, and no slot below has its name. -/
theorem Populated.entry (hc : WF c) (h : Populated conv c n t) (hn : c.at? n = some e) :
    Populated conv c (n + 1) (t.setEntry (e.convert conv)).1 ∧
      (t.setEntry (e.convert conv)).2 = .ok .opNoError := by
  have hinit : (e.convert conv).isInitialized = true := (at?_eq_some.mp hn).2
  have hord : (e.convert conv).ordinal.toNat = n := hc.ordinal n e hn
  have hfree : t.at? (e.convert conv).ordinal.toNat = none := by
    rw [hord, h.at?, if_neg (by omega)]
  have hnew : t.slotOf (e.convert conv).name = none := by
    refine h.wf.slotOf_eq_none.mpr fun i x hx hname => ?_
    rw [h.at?] at hx
    split at hx
    · rename_i hlt
      obtain ⟨x', hx', rfl⟩ := Option.map_eq_some_iff.mp hx
      exact absurd (hc.at?_inj hx' hn hname) (by omega)
    · cases hx
  have hfresh : Fresh t (e.convert conv) := ⟨hfree, hnew⟩
  rw [h.wf.setEntry_eq hinit, if_pos ⟨hfree, hnew⟩, hfree, hnew]
  refine ⟨⟨h.wf.placed hinit hfresh, fun i => ?_⟩, rfl⟩
  rw [at?_placed hinit, hord, h.at?]
  rcases Nat.lt_trichotomy i n with hlt | rfl | hgt
  · rw [if_neg (by omega), if_pos hlt, if_pos (by omega)]
  · rw [if_pos rfl, if_pos (by omega), hn]
    rfl
  · rw [if_neg (by omega), if_neg (by omega), if_neg (by omega)]

/-- **The loop of `SlicingPopulate`** takes the slots in order. -/
theorem populateFrom_spec (hc : WF c) {m : ℕ} (hfit : n + m ≤ 65536) (h : Populated conv c n t) :
    ∃ t', populateFrom conv c (List.range' n m) t = (t', .ok ()) ∧
      Populated conv c (n + m) t' := by
  induction m generalizing n t with
  | zero => exact ⟨t, rfl, h⟩
  | succ m ih =>
    have hslot : c.entryAtOrdinal (UInt32.ofNat n) = c.at? n := by
      rw [entryAtOrdinal, UInt32.toNat_ofNat_of_lt' (show n < UInt32.size from by
        have hsize : UInt32.size = 4294967296 := rfl
        omega)]
    have hnext : n + 1 + m = n + (m + 1) := by omega
    rw [List.range'_succ]
    simp only [populateFrom, hslot]
    cases hn : c.at? n with
    | none =>
      rw [← hnext]
      exact ih (by omega) (h.hole hn)
    | some e =>
      obtain ⟨hpop, hok⟩ := h.entry hc hn
      obtain ⟨t', ht', hend⟩ := ih (by omega) hpop
      rw [← hnext]
      refine ⟨t', ?_, hend⟩
      cases hset : t.setEntry (e.convert conv) with
      | mk t₁ r =>
        rw [hset] at hok ht'
        dsimp only at hok
        subst hok
        simp only [hset]
        exact ht'

/-- `SlicingPopulate` of a well-formed container, into any other. -/
theorem WF.slicingPopulate (hc : WF c) (hfit : c.size ≤ 65536) (target : OidContainer F) :
    ∃ t, c.slicingPopulate conv target = (t, .ok ()) ∧ AnswersLike conv c t := by
  obtain ⟨t, ht, hpop⟩ := populateFrom_spec hc (m := c.size) (by omega) (populated_empty conv c)
  refine ⟨t, ?_, hc.answersLike hpop.wf fun i => ?_⟩
  · rw [OidContainer.slicingPopulate, List.range_eq_range']
    exact ht
  · rw [hpop.at?, Nat.zero_add]
    split
    · rfl
    · rename_i hge
      rw [OidContainer.at?, List.getElem?_eq_none (by simpa [size] using hge)]
      rfl

/-- An entry copied as it is. -/
theorem WF.answersLike_self (hc : WF c) : AnswersLike id c c :=
  hc.answersLike hc fun i => by
    cases c.at? i <;> rfl

end OidContainer

/-! ## Reachable containers -/

open OidContainer ContainerOp

section Copies

variable {E F : Type} [Inhabited E] [Inhabited F] {s : ℕ → OidContainer E}

/-- Ordinals have 16 bits, so vectors stay within `2 ^ 16` slots. -/
theorem apply_size (h : ∀ k, WF (s k)) (hsize : ∀ k, (s k).size ≤ 65536) (op : ContainerOp E)
    (hop : op.Legal) (k : ℕ) : ((op.apply s).1 k).size ≤ 65536 := by
  have hupdate : ∀ {c : OidContainer E} (j : ℕ), c.size ≤ 65536 →
      (Function.update s j c k).size ≤ 65536 := by
    intro c j hc
    by_cases hj : k = j
    · subst hj
      rwa [Function.update_self]
    · rw [Function.update_of_ne hj]
      exact hsize k
  cases op with
  | setEntry j name ordinal entry =>
    obtain ⟨m, hm, -, hinit⟩ := LegalName.make_eq (n := name) hop ordinal
    have he : OidContainerEntry.isInitialized (⟨⟨m, ordinal⟩, entry⟩ : OidContainerEntry E) =
        true := hinit
    have hord : OidContainerEntry.ordinal (⟨⟨m, ordinal⟩, entry⟩ : OidContainerEntry E) =
        ordinal := rfl
    have hfit := ordinal.toNat_lt
    have hj := hsize j
    simp only [ContainerOp.apply, hm]
    refine hupdate j ?_
    rw [(h j).setEntry_eq he]
    dsimp only
    split
    · rw [size_placed, hord]
      omega
    · rw [size_grow, hord]
      omega
  | clear j => exact hupdate j (Nat.zero_le _)
  | copy j i =>
    simp only [ContainerOp.apply, (h i).copyOf_eq]
    exact hupdate j (hsize i)
  | assign j i =>
    simp only [ContainerOp.apply, (h i).copyOf_eq]
    split
    · exact hupdate j (hsize i)
    · exact hsize k

theorem applyAll_size {b : ℕ → PartialBijection UInt16 Bytes E} (h : RepresentsAll s b)
    (hsize : ∀ k, (s k).size ≤ 65536) {ops : List (ContainerOp E)}
    (hops : ∀ op ∈ ops, op.Legal) (k : ℕ) : ((applyAll s ops).1 k).size ≤ 65536 := by
  induction ops generalizing s b with
  | nil => exact hsize k
  | cons op ops ih =>
    have hop := hops op List.mem_cons_self
    exact ih (h.apply op hop).1 (apply_size (fun k => (h k).wf) hsize op hop)
      fun o ho => hops o (List.mem_cons_of_mem _ ho)

/-- Container `k` of `s'` answers like container `j` of `s`, and all others are as they were. -/
structure CopiedInto (s s' : ℕ → OidContainer E) (k j : ℕ) : Prop where
  answers : AnswersLike id (s j) (s' k)
  others : ∀ i, i ≠ k → s' i = s i

/-- **Copies answer like the original**: copy construction, assignment, also to itself, and
`SlicingPopulate` into any other container. -/
theorem copies_answer_alike (ops : List (ContainerOp E)) (hops : ∀ op ∈ ops, op.Legal) (k j : ℕ)
    (conv : E → F) (target : OidContainer F) :
    let s := (applyAll (fun _ => .empty) ops).1
    (∃ s', (ContainerOp.copy k j).apply s = (s', .ok none) ∧ CopiedInto s s' k j) ∧
    (∃ s', (ContainerOp.assign k j).apply s = (s', .ok none) ∧ CopiedInto s s' k j ∧
      (k = j → s' = s)) ∧
    ∃ t, (s j).slicingPopulate conv target = (t, .ok ()) ∧ AnswersLike conv (s j) t := by
  intro s
  have hinit : RepresentsAll (fun _ => (OidContainer.empty : OidContainer E))
      (fun _ => PartialBijection.empty) := fun _ => .empty
  have hwf : ∀ i, WF (s i) := fun i => ((hinit.applyAll hops).1 i).wf
  have hsize : ∀ i, (s i).size ≤ 65536 := applyAll_size hinit (fun _ => Nat.zero_le _) hops
  have hcopied : CopiedInto s (Function.update s k (s j)) k j := by
    refine ⟨?_, fun i hi => Function.update_of_ne hi _ _⟩
    rw [Function.update_self]
    exact (hwf j).answersLike_self
  refine ⟨⟨_, ?_, hcopied⟩, ?_, (hwf j).slicingPopulate (hsize j) target⟩
  · simp only [ContainerOp.apply, (hwf j).copyOf_eq]
    rfl
  · by_cases hkj : k = j
    · subst hkj
      refine ⟨s, ?_, ⟨(hwf k).answersLike_self, fun _ _ => rfl⟩, fun _ => rfl⟩
      simp only [ContainerOp.apply, ne_eq, not_true_eq_false, if_false]
    · refine ⟨_, ?_, hcopied, fun h => absurd h hkj⟩
      simp only [ContainerOp.apply, ne_eq, hkj, not_false_eq_true, if_true, (hwf j).copyOf_eq]
      rfl

/-- A target that held another entry. -/
def usedTarget : OidContainer ℕ :=
  (OidContainer.empty.setEntry ⟨⟨⟨ascii "old", by decide, by decide⟩, 4⟩, 1⟩).1

theorem copies_answer_alike_sample :
    ∃ t, ((applyAll (fun _ => .empty) sampleOps).1 1).slicingPopulate Nat.succ usedTarget =
        (t, .ok ()) ∧
      AnswersLike Nat.succ ((applyAll (fun _ => .empty) sampleOps).1 1) t :=
  (copies_answer_alike sampleOps sampleOps_legal 2 1 Nat.succ usedTarget).2.2

end Copies

end RblRpc
