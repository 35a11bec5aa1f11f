import Mathlib.Data.List.Lex
import Mathlib.Data.List.TakeWhile

/-!
# C strings in buffers of a fixed size

A buffer holds the characters of a string, a NUL, and anything behind it.

* `strncpy` — the characters up to the terminator, filled up with NULs.
* `strncmp` — up to a difference, a NUL at the same place, or the given number of characters.
* `strncmp_terminated` — on terminated strings within the limit `strncmp` is the lexicographic
  comparison of their characters, whatever stands behind the terminators.
* `compare_eq_lt` — which is that of the order of lists.
-/

namespace CString

variable {n : ℕ} {a b x y s : List UInt8}

/-- `strncpy(dst, src, n)`: what it leaves in the `n` characters of `dst`. -/
def strncpy (n : ℕ) (src : List UInt8) : List UInt8 :=
  ((src.takeWhile (· ≠ 0)).take n).rightpad n 0

/-- `strncmp` on the characters of two buffers. -/
def strncmp : ℕ → List UInt8 → List UInt8 → Ordering
  | 0, _, _ => .eq
  | n + 1, a :: as, b :: bs =>
    if a < b then .lt else if b < a then .gt else if a = 0 then .eq else strncmp n as bs
  | _ + 1, _, _ => .eq

/-- A string that fits is copied with its terminator. -/
theorem strncpy_of_lt (hs : (0 : UInt8) ∉ s) (h : s.length < n) :
    strncpy n s = s ++ 0 :: List.replicate (n - s.length - 1) 0 := by
  have hall : s.takeWhile (· ≠ 0) = s := by
    refine List.takeWhile_eq_self_iff.mpr fun c hc => decide_eq_true ?_
    rintro rfl
    exact hs hc
  rw [strncpy, hall, List.take_of_length_le h.le, List.rightpad, ← List.replicate_succ]
  congr 2
  omega

/-- Only the characters before the terminator are copied. -/
theorem strncpy_takeWhile (n : ℕ) (s : List UInt8) :
    strncpy n (s.takeWhile (· ≠ 0)) = strncpy n s := by
  rw [strncpy, strncpy, List.takeWhile_takeWhile]
  simp

private theorem zero_lt_of_ne {c : UInt8} (h : c ≠ 0) : 0 < c := by
  rw [UInt8.lt_iff_toNat_lt]
  refine Nat.pos_of_ne_zero fun h0 => h (UInt8.toNat.inj h0)

/-- The comparison of two characters, and of what follows them. -/
theorem compare_then (c d : UInt8) (o : Ordering) :
    (compare c d).then o = if c < d then .lt else if d < c then .gt else o := by
  show (compareOfLessAndEq c d).then o = _
  unfold compareOfLessAndEq
  by_cases hlt : c < d
  · simp [hlt]
  · by_cases heq : c = d
    · simp [heq]
    · have hgt : d < c :=
        UInt8.not_le.mp fun hle => heq (UInt8.le_antisymm hle (UInt8.not_lt.mp hlt))
      simp [hlt, hgt, heq]

/-- **On terminated strings within the limit** `strncmp` compares the characters in order. -/
theorem strncmp_terminated (ha : (0 : UInt8) ∉ a) (hb : (0 : UInt8) ∉ b) (hna : a.length < n)
    (hnb : b.length < n) : strncmp n (a ++ 0 :: x) (b ++ 0 :: y) = compare a b := by
  induction n generalizing a b with
  | zero => exact absurd hna (Nat.not_lt_zero _)
  | succ n ih =>
    match a, b with
    | [], [] => rfl
    | [], d :: ds =>
      have hd := zero_lt_of_ne (List.ne_of_not_mem_cons hb).symm
      rw [List.nil_append, List.cons_append, strncmp, if_pos hd, List.compare_nil_cons]
    | c :: cs, [] =>
      have hc := zero_lt_of_ne (List.ne_of_not_mem_cons ha).symm
      rw [List.nil_append, List.cons_append, strncmp, if_neg (UInt8.lt_asymm hc), if_pos hc,
        List.compare_cons_nil]
    | c :: cs, d :: ds =>
      have hc : c ≠ 0 := (List.ne_of_not_mem_cons ha).symm
      have hrest := ih (a := cs) (b := ds) (List.not_mem_of_not_mem_cons ha)
        (List.not_mem_of_not_mem_cons hb) (Nat.lt_of_succ_lt_succ hna) (Nat.lt_of_succ_lt_succ hnb)
      rw [List.cons_append, List.cons_append, strncmp, hrest, List.compare_cons_cons, compare_then,
        if_neg hc]

/-- The comparison decides the lexicographic order. -/
theorem compare_eq_lt : compare a b = .lt ↔ a < b := by
  induction a generalizing b with
  | nil => cases b <;> simp
  | cons c cs ih =>
    cases b with
    | nil => simp
    | cons d ds =>
      have hlt : compare c d = .lt ↔ c < d := compareOfLessAndEq_eq_lt
      have heq : compare c d = .eq ↔ c = d := Std.LawfulEqOrd.compare_eq_iff_eq
      rw [List.compare_cons_cons, Ordering.then_eq_lt, List.cons_lt_cons_iff, ih, hlt, heq]

end CString
