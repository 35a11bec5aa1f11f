import Mathlib.Data.Set.Card

/-!
# Finite partial bijections with values

A finite set of entries `(k, n, v)` in which no two entries share a key and no two share a
name: a partial bijection between keys and names that carries a value at each pair.

* `put` — add an entry unless its key or its name is in use.
* `mem_put`, `card_put` — what an addition changes, and what it leaves alone.
-/

/-- A finite partial bijection between keys `K` and names `N`, with values `V`. -/
structure PartialBijection (K N V : Type) where
  entries : Set (K × N × V)
  finite : entries.Finite
  key_inj : entries.InjOn fun e => e.1
  name_inj : entries.InjOn fun e => e.2.1

namespace PartialBijection

variable {K N V : Type} {b : PartialBijection K N V} {k k' : K} {n n' : N} {v v' : V}
  {e : K × N × V}

/-- The number of entries. -/
noncomputable def card (b : PartialBijection K N V) : ℕ := b.entries.ncard

def KeyUsed (b : PartialBijection K N V) (k : K) : Prop := ∃ n v, (k, n, v) ∈ b.entries
def NameUsed (b : PartialBijection K N V) (n : N) : Prop := ∃ k v, (k, n, v) ∈ b.entries

/-- Neither identifier is in use. -/
def Free (b : PartialBijection K N V) (k : K) (n : N) : Prop := ¬ b.KeyUsed k ∧ ¬ b.NameUsed n

/-- No entry. -/
def empty : PartialBijection K N V :=
  ⟨∅, Set.finite_empty, Set.injOn_empty _, Set.injOn_empty _⟩

@[simp] theorem not_mem_empty : e ∉ (empty : PartialBijection K N V).entries := Set.notMem_empty e

@[simp] theorem card_empty : (empty : PartialBijection K N V).card = 0 := Set.ncard_empty _

/-- One more entry, with free identifiers. -/
def insert (b : PartialBijection K N V) (k : K) (n : N) (v : V) (h : b.Free k n) :
    PartialBijection K N V where
  entries := Insert.insert (k, n, v) b.entries
  finite := b.finite.insert _
  key_inj := by
    intro x hx y hy hxy
    rcases hx with rfl | hx <;> rcases hy with rfl | hy
    · rfl
    · exact absurd ⟨y.2.1, y.2.2, by rw [show k = y.1 from hxy]; exact hy⟩ h.1
    · exact absurd ⟨x.2.1, x.2.2, by rw [← show x.1 = k from hxy]; exact hx⟩ h.1
    · exact b.key_inj hx hy hxy
  name_inj := by
    intro x hx y hy hxy
    rcases hx with rfl | hx <;> rcases hy with rfl | hy
    · rfl
    · exact absurd ⟨y.1, y.2.2, by rw [show n = y.2.1 from hxy]; exact hy⟩ h.2
    · exact absurd ⟨x.1, x.2.2, by rw [← show x.2.1 = n from hxy]; exact hx⟩ h.2
    · exact b.name_inj hx hy hxy

open scoped Classical in
/-- Add an entry if its identifiers are free. -/
noncomputable def put (b : PartialBijection K N V) (k : K) (n : N) (v : V) :
    PartialBijection K N V :=
  if h : b.Free k n then b.insert k n v h else b

theorem put_of_not_free (h : ¬ b.Free k n) : b.put k n v = b := dif_neg h

/-- **An addition** to free identifiers brings its own entry and no other. -/
theorem mem_put (h : b.Free k n) : e ∈ (b.put k n v).entries ↔ e = (k, n, v) ∨ e ∈ b.entries := by
  rw [put, dif_pos h]
  exact Set.mem_insert_iff

/-- An attempt to add leaves every entry of another key or name alone. -/
theorem mem_put_of_ne (hne : e.1 ≠ k ∨ e.2.1 ≠ n) : e ∈ (b.put k n v).entries ↔ e ∈ b.entries := by
  by_cases h : b.Free k n
  · have hother : e ≠ (k, n, v) := by
      rintro rfl
      exact hne.elim (fun hk => hk rfl) (fun hn => hn rfl)
    rw [mem_put h]
    exact or_iff_right hother
  · rw [put_of_not_free h]

/-- An addition to free identifiers raises the number of entries by one. -/
theorem card_put (h : b.Free k n) : (b.put k n v).card = b.card + 1 := by
  have hnew : (k, n, v) ∉ b.entries := fun hm => h.1 ⟨n, v, hm⟩
  rw [put, dif_pos h]
  exact Set.ncard_insert_of_notMem hnew b.finite

end PartialBijection
