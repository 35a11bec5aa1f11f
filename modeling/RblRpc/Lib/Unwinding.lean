import Mathlib.Data.List.Forall2
import RblRpc.Lib.Machine

/-!
# Unwinding

An observer owns some labels of a machine.  Where its own labels do alike in states that look alike
to it, and the labels of others change nothing it can see, it sees the same in a run and in the one
that takes only its own labels.

* `Outcomes` — the same fault, or related values; `Outcomes.bind`.
* `Unwinding` — the two conditions on steps.
* `Unwinding.purge` — **the run without the others.**
-/

namespace Transition

section Outcomes

variable {F A B A' B' : Type}

/-- Both fail with the same fault, or both succeed with related values. -/
inductive Outcomes (R : A → B → Prop) : Except F A → Except F B → Prop
  | ok {a : A} {b : B} (h : R a b) : Outcomes R (.ok a) (.ok b)
  | error (f : F) : Outcomes R (.error f) (.error f)

namespace Outcomes

variable {R : A → B → Prop} {Q : A' → B' → Prop} {x : Except F A} {y : Except F B}

/-- Related outcomes are passed on. -/
theorem bind {f : A → Except F A'} {g : B → Except F B'} (h : Outcomes R x y)
    (hfg : ∀ a b, R a b → Outcomes Q (f a) (g b)) : Outcomes Q (x >>= f) (y >>= g) := by
  cases h with
  | ok hab => exact hfg _ _ hab
  | error e => exact .error e

theorem map {f : A → A'} {g : B → B'} (h : Outcomes R x y) (hfg : ∀ a b, R a b → Q (f a) (g b)) :
    Outcomes Q (x.map f) (y.map g) := by
  cases h with
  | ok hab => exact .ok (hfg _ _ hab)
  | error e => exact .error e

/-- What does not depend on the state has related outcomes. -/
theorem same {R : A → A → Prop} (hR : ∀ a, R a a) (x : Except F A) : Outcomes R x x := by
  cases x with
  | ok a => exact .ok (hR a)
  | error e => exact .error e

theorem of_ok {a : A} (h : Outcomes R x y) (hx : x = .ok a) : ∃ b, y = .ok b ∧ R a b := by
  subst hx
  cases h with
  | ok hab => exact ⟨_, rfl, hab⟩

theorem of_error {f : F} (h : Outcomes R x y) (hx : x = .error f) : y = .error f := by
  subst hx
  cases h with
  | error => rfl

end Outcomes

end Outcomes

namespace Machine

variable {S L F : Type} {m : Machine S L F}

/-- The unwinding conditions for the steps that meet `C`.  `mine` are the labels of the observer;
`R` relates states that look alike to it. -/
structure Unwinding (m : Machine S L F) (mine : L → Bool) (R : S → S → Prop)
    (C : S → L → Prop) : Prop where
  own : ∀ s t l, R s t → C s l → mine l = true → m.guard s l = true →
    m.guard t l = true ∧ Outcomes R (m.fire s l) (m.fire t l)
  others : ∀ s t l s', R s t → C s l → mine l = false → m.guard s l = true →
    m.fire s l = .ok s' → R s' t

/-- Two attempts look alike. -/
def SameAttempt (R : S → S → Prop) (p q : S × L) : Prop := R p.1 q.1 ∧ p.2 = q.2

/-- **The run without the others.**  From a state that looks alike there is a run of exactly the
observer's labels, each attempted in a state that looks like the one it was attempted in; and its
faults are those of the observer. -/
theorem Unwinding.purge {mine : L → Bool} {R : S → S → Prop} {C : S → L → Prop}
    (h : m.Unwinding mine R C) {s t : S} {tr : List (S × L)} {r : Except F S}
    (hrun : m.Run s tr r) (hC : ∀ p ∈ tr, C p.1 p.2) (hR : R s t) :
    ∃ tr' r', m.Run t tr' r' ∧
      List.Forall₂ (SameAttempt R) (tr.filter fun p => mine p.2) tr' ∧
      (∀ s', r = .ok s' → ∃ t', r' = .ok t' ∧ R s' t') ∧
      ∀ f, r' = .error f ↔ ∃ p ∈ tr, mine p.2 = true ∧ m.fire p.1 p.2 = .error f := by
  have hown : ∀ s l (tr : List (S × L)), mine l = true →
      ((s, l) :: tr).filter (fun p => mine p.2) = (s, l) :: tr.filter fun p => mine p.2 :=
    fun s l tr hl => List.filter_cons_of_pos (p := fun p => mine p.2) (a := (s, l)) hl
  have hother : ∀ s l (tr : List (S × L)), mine l = false →
      ((s, l) :: tr).filter (fun p => mine p.2) = tr.filter fun p => mine p.2 := by
    intro s l tr hl
    refine List.filter_cons_of_neg ?_
    rw [hl]
    exact Bool.false_ne_true
  induction hrun generalizing t with
  | done s =>
    refine ⟨[], .ok t, .done t, .nil, fun s' hs => ?_, fun f => iff_of_false nofun ?_⟩
    · cases hs
      exact ⟨t, rfl, hR⟩
    · rintro ⟨p, hp, -⟩
      cases hp
  | @fault s l f hg hf =>
    cases hl : mine l with
    | true =>
      obtain ⟨hg', hout⟩ := h.own s t l hR (hC _ List.mem_cons_self) hl hg
      refine ⟨_, _, .fault hg' (hout.of_error hf), ?_, nofun, fun f' => ?_⟩
      · rw [hown _ _ _ hl]
        exact .cons ⟨hR, rfl⟩ .nil
      · simp [hl, hf]
    | false =>
      -- the fault is another's: the observer's run is over without it
      refine ⟨[], .ok t, .done t, ?_, nofun, fun f' => ?_⟩
      · rw [hother _ _ _ hl]
        exact .nil
      · simp [hl]
  | @step s s₁ l tr r hg hf _ ih =>
    have hCl := hC _ List.mem_cons_self
    have hCtr : ∀ p ∈ tr, C p.1 p.2 := fun p hp => hC p (List.mem_cons_of_mem _ hp)
    cases hl : mine l with
    | true =>
      obtain ⟨hg', hout⟩ := h.own s t l hR hCl hl hg
      obtain ⟨t₁, hf', hR₁⟩ := hout.of_ok hf
      obtain ⟨tr', r', hrun', hsame, hend, hfault⟩ := ih hCtr hR₁
      refine ⟨_, r', .step hg' hf' hrun', ?_, hend, fun f => (hfault f).trans ?_⟩
      · rw [hown _ _ _ hl]
        exact .cons ⟨hR, rfl⟩ hsame
      · simp [hf]
    | false =>
      obtain ⟨tr', r', hrun', hsame, hend, hfault⟩ :=
        ih hCtr (h.others s t l s₁ hR hCl hl hg hf)
      refine ⟨tr', r', hrun', ?_, hend, fun f => (hfault f).trans ?_⟩
      · rw [hother _ _ _ hl]
        exact hsame
      · simp [hl]

/-- Attempts that look alike have the same observations. -/
theorem filterMap_of_sameAttempt {A : Type} {R : S → S → Prop} {f : S × L → Option A}
    {tr tr' : List (S × L)} (h : List.Forall₂ (SameAttempt R) tr tr')
    (hf : ∀ s t l, R s t → f (s, l) = f (t, l)) : tr'.filterMap f = tr.filterMap f := by
  induction h with
  | nil => rfl
  | @cons p q tr tr' hpq _ ih =>
    obtain ⟨hR, hl⟩ := hpq
    have hpq : f q = f p := by
      rw [show q = (q.1, p.2) from Prod.ext rfl hl.symm]
      exact (hf p.1 q.1 p.2 hR).symm
    rw [List.filterMap_cons, List.filterMap_cons, hpq, ih]

/-- What holds of an attempt holds of one that looks alike. -/
theorem forall_of_sameAttempt {R : S → S → Prop} {P : S × L → Prop} {tr tr' : List (S × L)}
    (h : List.Forall₂ (SameAttempt R) tr tr') (hP : ∀ s t l, R s t → P (s, l) → P (t, l))
    (hall : ∀ p ∈ tr, P p) : ∀ q ∈ tr', P q := by
  induction h with
  | nil => exact fun q hq => nomatch hq
  | @cons p q tr tr' hpq _ ih =>
    obtain ⟨hp, hall⟩ := List.forall_mem_cons.mp hall
    refine List.forall_mem_cons.mpr ⟨?_, ih hall⟩
    rw [show q = (q.1, p.2) from Prod.ext rfl hpq.2.symm]
    exact hP p.1 q.1 p.2 hpq.1 hp

theorem labels_of_sameAttempt {R : S → S → Prop} {tr tr' : List (S × L)}
    (h : List.Forall₂ (SameAttempt R) tr tr') : tr'.map Prod.snd = tr.map Prod.snd := by
  have hlabels := filterMap_of_sameAttempt (f := fun p => some p.2) h fun _ _ _ _ => rfl
  rwa [List.filterMap_eq_map'] at hlabels

end Machine

end Transition
