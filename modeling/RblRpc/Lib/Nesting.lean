import Mathlib.Combinatorics.Enumerative.DyckWord

/-!
# Nested words

Opening steps `U` and closing steps `D` of any kind: calls that indent and outdent, the braces of
a text.

* `Nested` — as many steps close as open, and no prefix closes more than it opened.
* `nested_iff_dyckWord` — these are the Dyck words.
* `Nested.append`, `Nested.nest`, `Nested.flatMap`, `Nested.layers` — how they are put together.
* `Nested.append_iff`, `Nested.iff_append`, `Nested.repeated` — and taken apart.
-/

namespace Nesting

open DyckStep

/-- As many close as open, and no prefix closes more than it opened. -/
structure Nested (l : List DyckStep) : Prop where
  balanced : l.count U = l.count D
  covered : ∀ p, p <+: l → p.count D ≤ p.count U

variable {a b l : List DyckStep}

instance (l : List DyckStep) : Decidable (Nested l) :=
  decidable_of_iff (l.count U = l.count D ∧ ∀ p ∈ l.inits, p.count D ≤ p.count U) <| by
    simp only [List.mem_inits]
    exact ⟨fun h => ⟨h.1, h.2⟩, fun h => ⟨h.balanced, h.covered⟩⟩

theorem nested_iff_dyckWord : Nested l ↔ ∃ w : DyckWord, w.toList = l := by
  constructor
  · intro h
    exact ⟨⟨l, h.balanced, fun i => h.covered _ (List.take_prefix i l)⟩, rfl⟩
  · rintro ⟨w, rfl⟩
    refine ⟨w.count_U_eq_count_D, fun p hp => ?_⟩
    rw [List.prefix_iff_eq_take.mp hp]
    exact w.count_D_le_count_U p.length

/-- Turns of a loop that are all the same. -/
theorem count_turns {α : Type*} (l : List α) (w : List DyckStep) (s : DyckStep) :
    (l.flatMap fun _ => w).count s = l.length * w.count s := by
  simp only [List.count_flatMap, Function.comp_def, List.map_const', List.sum_replicate,
    smul_eq_mul]

namespace Nested

/-! ## Put together -/

theorem nil : Nested [] := ⟨rfl, fun p hp => by rw [List.prefix_nil.mp hp]; rfl⟩

theorem append (ha : Nested a) (hb : Nested b) : Nested (a ++ b) := by
  obtain ⟨v, rfl⟩ := nested_iff_dyckWord.mp ha
  obtain ⟨w, rfl⟩ := nested_iff_dyckWord.mp hb
  exact nested_iff_dyckWord.mpr ⟨v + w, rfl⟩

theorem nest (h : Nested l) : Nested (U :: (l ++ [D])) := by
  obtain ⟨w, rfl⟩ := nested_iff_dyckWord.mp h
  exact nested_iff_dyckWord.mpr ⟨w.nest, rfl⟩

/-- The turns of a loop one after the other. -/
theorem flatMap {α : Type*} {xs : List α} {f : α → List DyckStep} (h : ∀ x ∈ xs, Nested (f x)) :
    Nested (xs.flatMap f) := by
  induction xs with
  | nil => exact nil
  | cons x xs ih =>
    rw [List.flatMap_cons]
    exact (h x List.mem_cons_self).append (ih fun y hy => h y (List.mem_cons_of_mem x hy))

/-- A loop that opens, what stands inside, and a loop that closes as often. -/
theorem layers (n : ℕ) (h : Nested l) :
    Nested (List.replicate n U ++ (l ++ List.replicate n D)) := by
  induction n with
  | zero => simpa using h
  | succ n ih =>
    have hword : List.replicate (n + 1) U ++ (l ++ List.replicate (n + 1) D) =
        U :: ((List.replicate n U ++ (l ++ List.replicate n D)) ++ [D]) := by
      rw [List.replicate_succ, List.replicate_succ']
      simp only [List.cons_append, List.append_assoc]
    rw [hword]
    exact ih.nest

/-! ## Taken apart -/

theorem covered_left (h : Nested (a ++ b)) : ∀ p, p <+: a → p.count D ≤ p.count U :=
  fun p hp => h.covered p (hp.trans (List.prefix_append a b))

/-- After a nested part the rest is nested for itself. -/
theorem append_iff (ha : Nested a) : Nested (a ++ b) ↔ Nested b := by
  refine ⟨fun h => ⟨?_, fun p hp => ?_⟩, ha.append⟩
  · have hall := h.balanced
    rw [List.count_append, List.count_append, ha.balanced] at hall
    exact Nat.add_left_cancel hall
  · have hcov := h.covered (a ++ p) ((List.prefix_append_right_inj a).mpr hp)
    rw [List.count_append, List.count_append, ha.balanced] at hcov
    exact Nat.le_of_add_le_add_left hcov

/-- So it is before one. -/
theorem iff_append (hb : Nested b) : Nested (a ++ b) ↔ Nested a := by
  refine ⟨fun h => ⟨?_, h.covered_left⟩, fun h => h.append hb⟩
  have hall := h.balanced
  rw [List.count_append, List.count_append, hb.balanced] at hall
  exact Nat.add_right_cancel hall

/-- What one part leaves open cannot be closed between its copies. -/
theorem repeated (hl : Nested l) :
    Nested (a ++ (a ++ (b ++ (a ++ l)))) ↔ Nested a ∧ Nested b := by
  have hassoc : a ++ (a ++ (b ++ (a ++ l))) = (a ++ (a ++ (b ++ a))) ++ l := by
    simp only [List.append_assoc]
  rw [hassoc, hl.iff_append]
  constructor
  · intro h
    have hfirst := h.covered_left a (List.prefix_refl a)
    have hmid := h.covered (a ++ (a ++ b)) ⟨a, by simp only [List.append_assoc]⟩
    have hall := h.balanced
    simp only [List.count_append] at hmid hall
    have ha : Nested a := ⟨by omega, h.covered_left⟩
    exact ⟨ha, ha.iff_append.mp (ha.append_iff.mp (ha.append_iff.mp h))⟩
  · rintro ⟨ha, hb⟩
    exact ha.append (ha.append (hb.append ha))

end Nested

end Nesting
