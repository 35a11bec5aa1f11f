import Mathlib.Data.List.Count
import RblRpc.Lib.Machine

/-!
# Openings and closings

A history of openings and closings in which at most one thing is open at a time.

* `Paired s l t` — starting with `s` open the history `l` alternates, closes what was opened last,
  and leaves `t` open.
* `Paired.append` / `Paired.split` — histories compose and are cut at any point.
* `Paired.count` — **what is closed at the end has been closed as often as it was opened.**
* `Run.paired` — the openings and closings of a run, read off its steps.
-/

namespace Pairing

/-- Something is opened or closed. -/
inductive Event (α : Type) where
  | opened (a : α)
  | closed (a : α)
  deriving DecidableEq, Repr

/-- The history alternates between openings and the closings of what was opened. -/
inductive Paired {α : Type} : Option α → List (Event α) → Option α → Prop
  | nil (s : Option α) : Paired s [] s
  | opened {a : α} {l : List (Event α)} {t : Option α} (h : Paired (some a) l t) :
    Paired none (.opened a :: l) t
  | closed {a : α} {l : List (Event α)} {t : Option α} (h : Paired none l t) :
    Paired (some a) (.closed a :: l) t

namespace Paired

variable {α : Type} {s t u : Option α} {l l' : List (Event α)} {a : α}

/-- What is open is closed. -/
theorem close (s : Option α) : Paired s (s.map Event.closed).toList none := by
  cases s with
  | none => exact .nil none
  | some a => exact .closed (.nil none)

theorem append (h : Paired s l t) (h' : Paired t l' u) : Paired s (l ++ l') u := by
  induction h with
  | nil => exact h'
  | opened _ ih => exact .opened (ih h')
  | closed _ ih => exact .closed (ih h')

theorem split (h : Paired s (l ++ l') u) : ∃ t, Paired s l t ∧ Paired t l' u := by
  induction l generalizing s with
  | nil => exact ⟨s, .nil s, h⟩
  | cons e l ih =>
    cases h with
    | opened h =>
      obtain ⟨t, h₁, h₂⟩ := ih h
      exact ⟨t, .opened h₁, h₂⟩
    | closed h =>
      obtain ⟨t, h₁, h₂⟩ := ih h
      exact ⟨t, .closed h₁, h₂⟩

/-- The history determines what is open after it. -/
theorem unique (h : Paired s l t) (h' : Paired s l u) : t = u := by
  induction h with
  | nil => cases h'; rfl
  | opened _ ih =>
    cases h' with
    | opened h' => exact ih h'
  | closed _ ih =>
    cases h' with
    | closed h' => exact ih h'

variable [DecidableEq α]

/-- **Openings and closings balance.** -/
theorem count (h : Paired s l t) (a : α) :
    (if s = some a then 1 else 0) + l.count (.opened a) =
      l.count (.closed a) + if t = some a then 1 else 0 := by
  induction h with
  | nil => simp
  | @opened b l t h ih =>
    rw [List.count_cons, List.count_cons]
    by_cases hb : b = a <;> simp [hb] at ih ⊢ <;> omega
  | @closed b l t h ih =>
    rw [List.count_cons, List.count_cons]
    by_cases hb : b = a <;> simp [hb] at ih ⊢ <;> omega

end Paired

end Pairing

namespace Transition.Machine

open Pairing

/-- **The pairing rule.**  If each step opens or closes what its states say, so does a run. -/
theorem Run.paired {S L F α : Type} {m : Machine S L F} {I : S → Prop} {f : S → Option α}
    {event : S × L → Option (Event α)}
    (hstep : ∀ s l s', I s → m.guard s l = true → m.fire s l = .ok s' →
      I s' ∧ Paired (f s) (event (s, l)).toList (f s'))
    {s s' : S} {tr : List (S × L)} (h : m.Run s tr (.ok s')) (hs : I s) :
    Paired (f s) (tr.filterMap event) (f s') := by
  generalize hr : (Except.ok s' : Except F S) = r at h
  induction h with
  | done => cases hr; exact .nil _
  | fault => cases hr
  | @step s s₁ l tr r hg hf _ ih =>
    obtain ⟨hs₁, hpaired⟩ := hstep s l s₁ hs hg hf
    have hcons : ((s, l) :: tr).filterMap event = (event (s, l)).toList ++ tr.filterMap event := by
      rw [List.filterMap_cons]
      cases event (s, l) <;> rfl
    rw [hcons]
    exact hpaired.append (ih hs₁ hr)

end Transition.Machine
