import Mathlib.Data.List.Basic

/-!
# Walking a set that the body changes

A loop over an ordered set whose body may erase elements of it.  The iterator is at an element, or
behind the last one.  Erasing other elements leaves it valid; once its own element is erased it
cannot be advanced.

* `walk` — the loop over the set itself: the elements visited, and how it ends.
* `walk_skip` — **turns that leave the state alone are passed over.**
* `walk_erased` / `walk_throws` — the walk ends at an element whose turn erases it, or throws.
* `walkCopy_ok` — a walk over a copy visits every element, whatever the turns erase.
-/

namespace Traversal

variable {α S F : Type}

/-- How a walk goes wrong: a turn throws, the iterator is advanced from an erased element, or the
turns allowed are used up. -/
inductive Fault (F : Type) where
  | body (f : F)
  | erased
  | unfinished
  deriving DecidableEq

section Walk

variable [DecidableEq α]

/-- The elements behind `x`. -/
def behind (x : α) : List α → List α
  | [] => []
  | y :: ys => if y = x then ys else behind x ys

theorem behind_append {x : α} {pre : List α} (h : x ∉ pre) (post : List α) :
    behind x (pre ++ x :: post) = post := by
  induction pre with
  | nil => exact if_pos rfl
  | cons y ys ih =>
    rw [List.mem_cons, not_or] at h
    exact (if_neg fun heq => h.1 heq.symm).trans (ih h.2)

/-- The loop from the iterator on, for at most so many turns.  `elems` lists the set in order. -/
def walk (elems : S → List α) (body : α → S → Except F S) :
    ℕ → Option α → S → List α × Except (Fault F) S
  | _, none, s => ([], .ok s)
  | 0, some _, _ => ([], .error .unfinished)
  | n + 1, some x, s =>
    match body x s with
    | .error f => ([x], .error (.body f))
    | .ok s' =>
      if x ∈ elems s' then
        let r := walk elems body n (behind x (elems s')).head? s'
        (x :: r.1, r.2)
      else ([x], .error .erased)

variable {elems : S → List α} {body : α → S → Except F S} {s s' : S} {x : α}

/-- **Turns that leave the state alone** are passed over. -/
theorem walk_skip (front : List α) {pre post : List α} (hs : elems s = front ++ (pre ++ post))
    (hnodup : (elems s).Nodup) (hpre : ∀ x ∈ pre, body x s = .ok s) (n : ℕ) :
    walk elems body (pre.length + n) (pre ++ post).head? s =
      (pre ++ (walk elems body n post.head? s).1, (walk elems body n post.head? s).2) := by
  induction pre generalizing front with
  | nil => rw [List.length_nil, Nat.zero_add, List.nil_append, List.nil_append]
  | cons x pre ih =>
    have hsplit : elems s = front ++ x :: (pre ++ post) := hs
    have hx : x ∉ front := by
      rw [hsplit] at hnodup
      intro hmem
      exact (List.nodup_append.mp hnodup).2.2 x hmem x List.mem_cons_self rfl
    have hmem : x ∈ elems s := by
      rw [hsplit]
      exact List.mem_append_right _ List.mem_cons_self
    have hrest := ih (front ++ [x]) (by rw [hsplit, List.append_assoc]; rfl)
      fun y hy => hpre y (List.mem_cons_of_mem _ hy)
    rw [List.length_cons, Nat.add_right_comm, List.cons_append, List.head?_cons, walk,
      hpre x List.mem_cons_self]
    dsimp only
    rw [if_pos hmem, hsplit, behind_append hx, hrest, List.cons_append]

/-- **A turn that erases its own element** ends the walk. -/
theorem walk_erased (hbody : body x s = .ok s') (hx : x ∉ elems s') (n : ℕ) :
    walk elems body (n + 1) (some x) s = ([x], .error .erased) := by
  rw [walk, hbody]
  exact if_neg hx

theorem walk_throws {f : F} (hbody : body x s = .error f) (n : ℕ) :
    walk elems body (n + 1) (some x) s = ([x], .error (.body f)) := by
  rw [walk, hbody]

end Walk

/-- The loop over a copy of the elements. -/
def walkCopy (body : α → S → Except F S) (xs : List α) (s : S) : Except F S :=
  xs.foldlM (fun s x => body x s) s

/-- **The rule of a copy.**  What a turn for the next element turns into the same for the elements
up to it holds of all elements at the end. -/
theorem walkCopy_ok {body : α → S → Except F S} {s s' : S} {I : List α → S → Prop}
    (hturn : ∀ pre x s s', I pre s → x ∉ pre → body x s = .ok s' → I (pre ++ [x]) s')
    (pre : List α) {xs : List α} (hnodup : (pre ++ xs).Nodup) (hs : I pre s)
    (h : walkCopy body xs s = .ok s') : I (pre ++ xs) s' := by
  induction xs generalizing s pre with
  | nil =>
    cases h
    rw [List.append_nil]
    exact hs
  | cons x xs ih =>
    rw [walkCopy, List.foldlM_cons] at h
    cases hbody : body x s with
    | error f =>
      rw [hbody] at h
      cases h
    | ok s₁ =>
      rw [hbody] at h
      have hx : x ∉ pre := fun hmem =>
        (List.nodup_append.mp hnodup).2.2 x hmem x List.mem_cons_self rfl
      have hsplit : pre ++ x :: xs = (pre ++ [x]) ++ xs := by rw [List.append_assoc]; rfl
      rw [hsplit] at hnodup ⊢
      exact ih _ hnodup (hturn pre x s s₁ hs hx hbody) h

end Traversal
