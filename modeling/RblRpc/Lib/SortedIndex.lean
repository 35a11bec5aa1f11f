import Mathlib.Data.List.Lex
import Mathlib.Order.Lattice

/-!
# Ordered indexes

A list of elements kept in strictly increasing order of a key: the search for the first
element that is not smaller, and the insertion that refuses a key already present.

* `find_eq_some_iff`, `find_eq_none_iff` — on a sorted list the search decides presence.
* `insert_sorted`, `exists_mem_insert` — insertion keeps the order and every key.
* `mem_insert`, `length_insert` — insertion of a fresh key.
* `Sorted.congr` — only the keys of the elements count.
-/

namespace SortedIndex

variable {α κ : Type} [LinearOrder κ] {key key' : α → κ} {k : κ} {a b : α} {l : List α}

/-- Keys strictly increase along the list. -/
def Sorted (key : α → κ) (l : List α) : Prop := l.Pairwise fun a b => key a < key b

/-- The first element whose key is not below `k`, if that key is `k`. -/
def find (key : α → κ) (k : κ) : List α → Option α
  | [] => none
  | a :: l => if key a < k then find key k l else if k < key a then none else some a

/-- Insert `a` at its place unless its key is present. -/
def insert (key : α → κ) (a : α) : List α → List α
  | [] => [a]
  | b :: l =>
    if key a < key b then a :: b :: l
    else if key b < key a then b :: insert key a l else b :: l

theorem Sorted.nodup (hs : Sorted key l) : l.Nodup :=
  hs.imp fun hlt => ne_of_apply_ne key (ne_of_lt hlt)

theorem find_mem (h : find key k l = some a) : a ∈ l ∧ key a = k := by
  induction l with
  | nil => cases h
  | cons b l ih =>
    simp only [find] at h
    split at h
    · exact ⟨List.mem_cons_of_mem _ (ih h).1, (ih h).2⟩
    · rename_i hlt
      split at h
      · cases h
      · rename_i hgt
        cases h
        exact ⟨List.mem_cons_self, le_antisymm (not_lt.mp hgt) (not_lt.mp hlt)⟩

theorem find_of_mem (hs : Sorted key l) (ha : a ∈ l) : find key (key a) l = some a := by
  induction l with
  | nil => cases ha
  | cons b l ih =>
    obtain ⟨hb, hs⟩ := List.pairwise_cons.mp hs
    rcases List.mem_cons.mp ha with rfl | ha
    · simp [find]
    · simp only [find, if_pos (hb a ha)]
      exact ih hs ha

/-- **The search finds exactly the present keys.** -/
theorem find_eq_some_iff (hs : Sorted key l) : find key k l = some a ↔ a ∈ l ∧ key a = k := by
  constructor
  · exact find_mem
  · rintro ⟨ha, rfl⟩
    exact find_of_mem hs ha

theorem find_eq_none_iff (hs : Sorted key l) : find key k l = none ↔ ∀ a ∈ l, key a ≠ k := by
  constructor
  · intro h a ha hk
    rw [(find_eq_some_iff hs).mpr ⟨ha, hk⟩] at h
    cases h
  · intro h
    cases hf : find key k l with
    | none => rfl
    | some a => exact absurd (find_mem hf).2 (h a (find_mem hf).1)

theorem mem_insert (hf : ∀ x ∈ l, key x ≠ key a) : b ∈ insert key a l ↔ b = a ∨ b ∈ l := by
  induction l with
  | nil => simp [insert]
  | cons c l ih =>
    have hl : ∀ x ∈ l, key x ≠ key a := fun x hx => hf x (List.mem_cons_of_mem _ hx)
    simp only [insert]
    split
    · simp
    · rename_i hlt
      rw [if_pos (lt_of_le_of_ne (not_lt.mp hlt) (hf c List.mem_cons_self))]
      simp only [List.mem_cons, ih hl]
      tauto

theorem length_insert (hf : ∀ x ∈ l, key x ≠ key a) : (insert key a l).length = l.length + 1 := by
  induction l with
  | nil => rfl
  | cons c l ih =>
    simp only [insert]
    split
    · rfl
    · rename_i hlt
      rw [if_pos (lt_of_le_of_ne (not_lt.mp hlt) (hf c List.mem_cons_self)), List.length_cons,
        ih fun x hx => hf x (List.mem_cons_of_mem _ hx), List.length_cons]

theorem of_mem_insert (h : b ∈ insert key a l) : b = a ∨ b ∈ l := by
  induction l with
  | nil => exact .inl (List.mem_singleton.mp h)
  | cons c l ih =>
    simp only [insert] at h
    split at h
    · exact List.mem_cons.mp h
    · split at h
      · rcases List.mem_cons.mp h with rfl | h
        · exact .inr List.mem_cons_self
        · exact (ih h).imp_right (List.mem_cons_of_mem _)
      · exact .inr h

/-- Insertion loses no key. -/
theorem exists_mem_insert (hb : b = a ∨ b ∈ l) : ∃ x ∈ insert key a l, key x = key b := by
  induction l with
  | nil =>
    obtain rfl : b = a := hb.resolve_right List.not_mem_nil
    exact ⟨b, List.mem_singleton_self b, rfl⟩
  | cons c l ih =>
    simp only [insert]
    split
    · refine ⟨b, ?_, rfl⟩
      rcases hb with rfl | hb
      · exact List.mem_cons_self
      · exact List.mem_cons_of_mem _ hb
    · rename_i hlt
      split
      · rcases hb with rfl | hb
        · obtain ⟨x, hx, hk⟩ := ih (.inl rfl)
          exact ⟨x, List.mem_cons_of_mem _ hx, hk⟩
        · rcases List.mem_cons.mp hb with rfl | hb
          · exact ⟨b, List.mem_cons_self, rfl⟩
          · obtain ⟨x, hx, hk⟩ := ih (.inr hb)
            exact ⟨x, List.mem_cons_of_mem _ hx, hk⟩
      · rename_i hgt
        rcases hb with rfl | hb
        · exact ⟨c, List.mem_cons_self, le_antisymm (not_lt.mp hlt) (not_lt.mp hgt)⟩
        · exact ⟨b, hb, rfl⟩

/-- **Insertion keeps the order.** -/
theorem insert_sorted (hs : Sorted key l) : Sorted key (insert key a l) := by
  induction l with
  | nil => exact List.pairwise_singleton _ _
  | cons c l ih =>
    obtain ⟨hc, hs'⟩ := List.pairwise_cons.mp hs
    simp only [insert]
    split
    · rename_i hlt
      refine List.pairwise_cons.mpr ⟨fun x hx => ?_, hs⟩
      rcases List.mem_cons.mp hx with rfl | hx
      · exact hlt
      · exact hlt.trans (hc x hx)
    · split
      · rename_i hca
        refine List.pairwise_cons.mpr ⟨fun x hx => ?_, ih hs'⟩
        rcases of_mem_insert hx with rfl | hx
        · exact hca
        · exact hc x hx
      · exact hs

/-- Sorted lists with the same elements are equal. -/
theorem Sorted.ext {l l' : List α} (hs : Sorted key l) (hs' : Sorted key l')
    (h : ∀ a, a ∈ l ↔ a ∈ l') : l = l' := by
  have hanti : ∀ a b, a ∈ l → b ∈ l' → key a < key b → key b < key a → a = b :=
    fun a b _ _ hab hba => absurd hba hab.not_gt
  refine List.Perm.eq_of_pairwise hanti hs hs' ((List.perm_ext_iff_of_nodup ?_ ?_).mpr h)
  · exact hs.imp fun hab heq => by subst heq; exact lt_irrefl _ hab
  · exact hs'.imp fun hab heq => by subst heq; exact lt_irrefl _ hab

/-! ## Only the keys of the elements count -/

theorem Sorted.congr (hs : Sorted key l) (h : ∀ x ∈ l, key x = key' x) : Sorted key' l := by
  refine List.Pairwise.imp_of_mem (fun {a b} ha hb hab => ?_) hs
  rw [← h a ha, ← h b hb]
  exact hab

end SortedIndex
