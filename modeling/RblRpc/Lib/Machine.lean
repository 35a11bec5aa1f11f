import Mathlib.Data.Int.Notation
import Mathlib.Data.Nat.Cast.Basic

/-!
# Guarded machines and their runs

A machine offers labels.  A label may fire in a state where its guard holds; firing it gives
the next state, or a fault that ends the run.

* `Machine.Run m s tr r` — a run from `s`: `tr` lists each state with the label fired in it,
  `r` is the state reached, or the fault of the last label.
* `Run.invariant` — what holds initially and is kept by every step that meets a side condition
  holds in every state of every run whose steps all meet it.
* `Run.always_next` — it holds after each step of such a run.
* `Run.always_iff` — where steps keep a property exactly when they meet a condition, so do runs.
* `Run.each_iff` — where steps do what they should exactly under a condition that also keeps the
  invariant, all steps of a run do so exactly when all meet it.
* `Run.balance` — a measure that moves with two kinds of attempts is their difference.
* `Run.count_le` — attempts that use up a measure are bounded by it.
* `Run.split` / `Run.append` — runs are cut and joined at any point.
* `Along`, `Run.along_iff` — conditions on a step that depend on the steps before it.
* `exec_run` — the runs of an executable machine can be computed.
-/

namespace Transition

/-- A guarded machine over states `S`, labels `L` and faults `F`. -/
structure Machine (S L F : Type) where
  guard : S → L → Bool
  fire : S → L → Except F S

namespace Machine

variable {S L F : Type} {m : Machine S L F}

/-- The runs of a machine. -/
inductive Run (m : Machine S L F) : S → List (S × L) → Except F S → Prop
  | done (s : S) : Run m s [] (.ok s)
  | fault {s : S} {l : L} {f : F} (hg : m.guard s l = true) (hf : m.fire s l = .error f) :
      Run m s [(s, l)] (.error f)
  | step {s s' : S} {l : L} {tr : List (S × L)} {r : Except F S} (hg : m.guard s l = true)
      (hf : m.fire s l = .ok s') (h : Run m s' tr r) : Run m s ((s, l) :: tr) r

/-- `s'` is reached from `s` by some run. -/
def Reaches (m : Machine S L F) (s s' : S) : Prop := ∃ tr, Run m s tr (.ok s')

theorem Reaches.refl (s : S) : m.Reaches s s := ⟨[], .done s⟩

/-- Every label of a run was enabled in its state. -/
theorem Run.guard {s : S} {tr : List (S × L)} {r : Except F S} (h : m.Run s tr r) :
    ∀ p ∈ tr, m.guard p.1 p.2 = true := by
  induction h with
  | done => intro p hp; cases hp
  | fault hg _ => intro p hp; rw [List.mem_singleton] at hp; subst hp; exact hg
  | step hg _ _ ih =>
    intro p hp
    rcases List.mem_cons.mp hp with rfl | hp
    · exact hg
    · exact ih p hp

/-- `I` holds in every state of a run. -/
def Always (I : S → Prop) (tr : List (S × L)) (r : Except F S) : Prop :=
  (∀ p ∈ tr, I p.1) ∧ ∀ s', r = .ok s' → I s'

/-- What holds in every state of a run holds where it starts. -/
theorem Run.always_start {I : S → Prop} {s : S} {tr : List (S × L)} {r : Except F S}
    (h : m.Run s tr r) (hI : Always I tr r) : I s := by
  cases h with
  | done => exact hI.2 s rfl
  | fault => exact hI.1 _ List.mem_cons_self
  | step => exact hI.1 _ List.mem_cons_self

/-- **The invariant rule.**  `I` holds initially and is kept by every step that meets `C`. -/
theorem Run.invariant {I : S → Prop} {C : S → L → Prop}
    (hstep : ∀ s l s', I s → C s l → m.guard s l = true → m.fire s l = .ok s' → I s')
    {s : S} {tr : List (S × L)} {r : Except F S} (h : m.Run s tr r) (hs : I s)
    (hC : ∀ p ∈ tr, C p.1 p.2) : Always I tr r := by
  induction h with
  | done s =>
    refine ⟨fun p hp => (List.not_mem_nil hp).elim, fun s' hs' => ?_⟩
    cases hs'; exact hs
  | fault _ _ =>
    refine ⟨fun p hp => ?_, fun s' hs' => by cases hs'⟩
    rw [List.mem_singleton] at hp; subst hp; exact hs
  | @step s s' l tr r hg hf _ ih =>
    have hs' : I s' := hstep s l s' hs (hC (s, l) List.mem_cons_self) hg hf
    obtain ⟨hall, hend⟩ := ih hs' (fun p hp => hC p (List.mem_cons_of_mem _ hp))
    refine ⟨fun p hp => ?_, hend⟩
    rcases List.mem_cons.mp hp with rfl | hp
    · exact hs
    · exact hall p hp

/-- What holds in every state of a run holds after each of its steps. -/
theorem Run.always_next {I : S → Prop} {s t : S} {tr : List (S × L)} {r : Except F S}
    (h : m.Run s tr r) (hI : Always I tr r) {p : S × L} (hp : p ∈ tr)
    (hf : m.fire p.1 p.2 = .ok t) : I t := by
  induction h with
  | done => cases hp
  | fault _ hf' =>
    rw [List.mem_singleton] at hp; subst hp
    rw [hf'] at hf; cases hf
  | @step s s₁ l tr r _ hf' hrest ih =>
    rcases List.mem_cons.mp hp with rfl | hp
    · rw [hf'] at hf; cases hf
      exact hrest.always_start ⟨fun q hq => hI.1 q (List.mem_cons_of_mem _ hq), hI.2⟩
    · exact ih ⟨fun q hq => hI.1 q (List.mem_cons_of_mem _ hq), hI.2⟩ hp

/-- **The exact rule.**  Where every step keeps `I` exactly when it meets `C`, `I` holds throughout
a run exactly when every step of it does.  `J` is an invariant of all steps. -/
theorem Run.always_iff {I J : S → Prop} {C : S → L → Prop}
    (hJ : ∀ s l s', J s → m.guard s l = true → m.fire s l = .ok s' → J s')
    (hstep : ∀ s l s', J s → I s → m.guard s l = true → m.fire s l = .ok s' → (I s' ↔ C s l))
    {s s' : S} {tr : List (S × L)} (h : m.Run s tr (.ok s')) (hsJ : J s) (hsI : I s) :
    ((∀ p ∈ tr, I p.1) ∧ I s') ↔ ∀ p ∈ tr, C p.1 p.2 := by
  generalize hr : (Except.ok s' : Except F S) = r at h
  induction h with
  | done s =>
    cases hr
    exact iff_of_true ⟨fun p hp => absurd hp List.not_mem_nil, hsI⟩
      fun p hp => absurd hp List.not_mem_nil
  | fault => cases hr
  | @step s s₁ l tr r hg hf hrest ih =>
    have hI := hstep s l s₁ hsJ hsI hg hf
    have hsJ₁ := hJ s l s₁ hsJ hg hf
    constructor
    · rintro ⟨hall, hend⟩ p hp
      have hsI₁ : I s₁ := by
        refine (Run.step hg hf hrest).always_next (I := I) ⟨hall, fun s₂ hs₂ => ?_⟩
          List.mem_cons_self hf
        cases hr
        cases hs₂
        exact hend
      rcases List.mem_cons.mp hp with rfl | hp
      · exact hI.mp hsI₁
      · exact (ih hsJ₁ hsI₁ hr).mp ⟨fun q hq => hall q (List.mem_cons_of_mem _ hq), hend⟩ p hp
    · intro hC
      have hsI₁ := hI.mpr (hC _ List.mem_cons_self)
      obtain ⟨hall, hend⟩ := (ih hsJ₁ hsI₁ hr).mpr fun p hp => hC p (List.mem_cons_of_mem _ hp)
      refine ⟨fun p hp => ?_, hend⟩
      rcases List.mem_cons.mp hp with rfl | hp
      · exact hsI
      · exact hall p hp

/-- **The rule of lasting conditions.**  Where steps that meet `C` keep `J`, and under `J` a step does
`P` exactly when it meets `C`, all steps of a run do `P` exactly when all of them meet `C`. -/
theorem Run.each_iff {J : S → Prop} {P C : S → L → Prop}
    (hJ : ∀ s l s', J s → C s l → m.guard s l = true → m.fire s l = .ok s' → J s')
    (hP : ∀ s l, J s → m.guard s l = true → (P s l ↔ C s l))
    {s : S} {tr : List (S × L)} {r : Except F S} (h : m.Run s tr r) (hs : J s) :
    (∀ p ∈ tr, P p.1 p.2) ↔ ∀ p ∈ tr, C p.1 p.2 := by
  induction h with
  | done =>
    exact iff_of_true (fun p hp => absurd hp List.not_mem_nil)
      fun p hp => absurd hp List.not_mem_nil
  | @fault s l _ hg _ =>
    rw [List.forall_mem_singleton, List.forall_mem_singleton]
    exact hP s l hs hg
  | @step s s₁ l tr r hg hf _ ih =>
    rw [List.forall_mem_cons, List.forall_mem_cons]
    constructor
    · rintro ⟨hp, htr⟩
      have hc := (hP s l hs hg).mp hp
      exact ⟨hc, (ih (hJ s l s₁ hs hc hg hf)).mp htr⟩
    · rintro ⟨hc, htr⟩
      exact ⟨(hP s l hs hg).mpr hc, (ih (hJ s l s₁ hs hc hg hf)).mpr htr⟩

/-- The invariant rule without a side condition, for reachable states. -/
theorem Reaches.invariant {I : S → Prop}
    (hstep : ∀ s l s', I s → m.guard s l = true → m.fire s l = .ok s' → I s')
    {s s' : S} (h : m.Reaches s s') (hs : I s) : I s' := by
  obtain ⟨tr, h⟩ := h
  exact (h.invariant (C := fun _ _ => True) (fun s l s' hI _ => hstep s l s' hI) hs
    (fun _ _ => trivial)).2 s' rfl

/-- **The balance rule.**  A measure that each `plus` attempt raises by one and each `minus`
attempt lowers by one counts their difference. -/
theorem Run.balance {I : S → Prop} {plus minus : S × L → Bool} (measure : S → ℤ)
    (hstep : ∀ s l s', I s → m.guard s l = true → m.fire s l = .ok s' →
      I s' ∧ (plus (s, l)).toNat + measure s = (minus (s, l)).toNat + measure s')
    {s s' : S} {tr : List (S × L)} (h : m.Run s tr (.ok s')) (hs : I s) :
    (tr.countP plus : ℤ) + measure s = tr.countP minus + measure s' := by
  generalize hr : (Except.ok s' : Except F S) = r at h
  induction h with
  | done => cases hr; simp
  | fault => cases hr
  | @step s s₁ l tr r hg hf _ ih =>
    obtain ⟨hI, hbal⟩ := hstep s l s₁ hs hg hf
    have hrest := ih hI hr
    have hcons : ∀ p : S × L → Bool,
        (((s, l) :: tr).countP p : ℤ) = (p (s, l)).toNat + tr.countP p := by
      intro p
      rw [List.countP_cons]
      cases p (s, l) <;> simp [Int.add_comm]
    rw [hcons, hcons]
    omega

/-- **The budget rule.**  Attempts that need a measure and use it up number at most what the measure
is at first and what other steps put back. -/
theorem Run.count_le {C : S → L → Prop} {uses gives : S × L → Bool} (measure : S → ℕ)
    (hneed : ∀ s l, C s l → m.guard s l = true → (uses (s, l)).toNat ≤ measure s)
    (hstep : ∀ s l s', C s l → m.guard s l = true → m.fire s l = .ok s' →
      (uses (s, l)).toNat + measure s' ≤ measure s + (gives (s, l)).toNat)
    {s : S} {tr : List (S × L)} {r : Except F S} (h : m.Run s tr r)
    (hC : ∀ p ∈ tr, C p.1 p.2) : tr.countP uses ≤ measure s + tr.countP gives := by
  have hcons : ∀ (p : S × L → Bool) (x : S × L) (xs : List (S × L)),
      (x :: xs).countP p = (p x).toNat + xs.countP p := by
    intro p x xs
    rw [List.countP_cons, Nat.add_comm]
    cases p x <;> rfl
  induction h with
  | done => exact Nat.zero_le _
  | @fault s l _ hg _ =>
    have hone := hneed s l (hC _ List.mem_cons_self) hg
    rw [hcons, hcons, List.countP_nil]
    omega
  | @step s s₁ l tr r hg hf _ ih =>
    have hbal := hstep s l s₁ (hC _ List.mem_cons_self) hg hf
    have hrest := ih fun p hp => hC p (List.mem_cons_of_mem _ hp)
    rw [hcons, hcons]
    omega

/-- The fault of a run is the fault of one of its labels. -/
theorem Run.fault_attempt {s : S} {tr : List (S × L)} {f : F} (h : m.Run s tr (.error f)) :
    ∃ p ∈ tr, m.fire p.1 p.2 = .error f := by
  generalize hr : (Except.error f : Except F S) = r at h
  induction h with
  | done => cases hr
  | fault _ hf => cases hr; exact ⟨_, List.mem_singleton_self _, hf⟩
  | step _ _ _ ih =>
    obtain ⟨p, hp, hf⟩ := ih hr
    exact ⟨p, List.mem_cons_of_mem _ hp, hf⟩

/-- An attempt that faults is the last of its run, and its fault is that of the run. -/
theorem Run.of_fault {s : S} {tr : List (S × L)} {r : Except F S} (h : m.Run s tr r) {p : S × L}
    {f : F} (hp : p ∈ tr) (hf : m.fire p.1 p.2 = .error f) :
    r = .error f ∧ tr.getLast? = some p := by
  induction h with
  | done => cases hp
  | fault _ hf' =>
    rw [List.mem_singleton] at hp
    subst hp
    rw [hf'] at hf
    cases hf
    exact ⟨rfl, rfl⟩
  | @step s s' l tr r _ hf' hrest ih =>
    rcases List.mem_cons.mp hp with rfl | hp
    · rw [hf'] at hf
      cases hf
    · obtain ⟨hr, hlast⟩ := ih hp
      refine ⟨hr, ?_⟩
      rw [List.getLast?_cons, hlast]
      rfl

/-- Runs compose. -/
theorem Run.append {s s' : S} {tr tr' : List (S × L)} {r : Except F S}
    (h : m.Run s tr (.ok s')) (h' : m.Run s' tr' r) : m.Run s (tr ++ tr') r := by
  generalize hr : (Except.ok s' : Except F S) = q at h
  induction h with
  | done => cases hr; exact h'
  | fault => cases hr
  | step hg hf _ ih => exact .step hg hf (ih hr)

/-- The first step of a run without a fault. -/
theorem Run.uncons {s s₁ s' : S} {l : L} {tr : List (S × L)} (h : m.Run s ((s₁, l) :: tr) (.ok s')) :
    s₁ = s ∧ m.guard s l = true ∧ ∃ s₂, m.fire s l = .ok s₂ ∧ m.Run s₂ tr (.ok s') := by
  cases h with
  | step hg hf h => exact ⟨rfl, hg, _, hf, h⟩

/-- A run is its first label and a run of the other labels. -/
theorem Run.uncons_label {s s' : S} {l : L} {ls : List L} {tr : List (S × L)}
    (h : m.Run s tr (.ok s')) (hl : tr.map Prod.snd = l :: ls) :
    m.guard s l = true ∧ ∃ s₁ tr', m.fire s l = .ok s₁ ∧ m.Run s₁ tr' (.ok s') ∧
      tr'.map Prod.snd = ls := by
  cases tr with
  | nil => cases hl
  | cons p tr =>
    obtain ⟨rfl, hls⟩ := List.cons_eq_cons.mp hl
    obtain ⟨rfl, hg, s₁, hf, hrun⟩ := h.uncons
    exact ⟨hg, s₁, tr, hf, hrun, hls⟩

/-- A machine is deterministic: the labels of a run fix what it reaches. -/
theorem Run.det {s s₁ s₂ : S} {tr₁ tr₂ : List (S × L)} (h₁ : m.Run s tr₁ (.ok s₁))
    (h₂ : m.Run s tr₂ (.ok s₂)) (hl : tr₁.map Prod.snd = tr₂.map Prod.snd) : s₁ = s₂ := by
  induction tr₁ generalizing s tr₂ with
  | nil =>
    cases tr₂ with
    | nil =>
      cases h₁
      cases h₂
      rfl
    | cons => cases hl
  | cons p tr₁ ih =>
    cases tr₂ with
    | nil => cases hl
    | cons q tr₂ =>
      obtain ⟨-, -, t₁, hf₁, hrest₁⟩ := h₁.uncons
      obtain ⟨-, -, t₂, hf₂, hrest₂⟩ := h₂.uncons
      rw [List.map_cons, List.map_cons, List.cons_eq_cons] at hl
      rw [hl.1, hf₂] at hf₁
      cases hf₁
      exact ih hrest₁ hrest₂ hl.2

theorem Reaches.trans {s₁ s₂ s₃ : S} (h : m.Reaches s₁ s₂) (h' : m.Reaches s₂ s₃) :
    m.Reaches s₁ s₃ := by
  obtain ⟨tr, h⟩ := h
  obtain ⟨tr', h'⟩ := h'
  exact ⟨_, h.append h'⟩

/-- Every attempt of a run happens in a state that a shorter run reaches, and what follows it
is again a run. -/
theorem Run.split {s : S} {tr tr' : List (S × L)} {p : S × L} {r : Except F S}
    (h : m.Run s (tr ++ p :: tr') r) : m.Run s tr (.ok p.1) ∧ m.Run p.1 (p :: tr') r := by
  induction tr generalizing s with
  | nil =>
    simp only [List.nil_append] at h
    cases h with
    | fault hg hf => exact ⟨.done _, .fault hg hf⟩
    | step hg hf h => exact ⟨.done _, .step hg hf h⟩
  | cons q tr ih =>
    cases htr : tr ++ p :: tr' with
    | nil => simp at htr
    | cons x xs =>
      rw [List.cons_append, htr] at h
      cases h with
      | step hg hf h =>
        rw [← htr] at h
        obtain ⟨h1, h2⟩ := ih h
        exact ⟨.step hg hf h1, h2⟩

/-- A run that faults is a run up to its last attempt, which faults. -/
theorem Run.fault_last {s : S} {tr : List (S × L)} {f : F} (h : m.Run s tr (.error f)) :
    ∃ tr' p, tr = tr' ++ [p] ∧ m.Run s tr' (.ok p.1) ∧ m.fire p.1 p.2 = .error f := by
  generalize hr : (Except.error f : Except F S) = r at h
  induction h with
  | done => cases hr
  | @fault s l f' hg hf =>
    cases hr
    exact ⟨[], (s, l), rfl, .done s, hf⟩
  | @step s s' l tr r hg hf _ ih =>
    obtain ⟨tr', p, rfl, hrun, hfault⟩ := ih hr
    exact ⟨(s, l) :: tr', p, rfl, .step hg hf hrun, hfault⟩

theorem Run.reaches {s : S} {tr : List (S × L)} {r : Except F S} (h : m.Run s tr r)
    {p : S × L} (hp : p ∈ tr) : m.Reaches s p.1 := by
  obtain ⟨a, b, rfl⟩ := List.append_of_mem hp
  exact ⟨a, h.split.1⟩

/-- A segment of a run is a run. -/
theorem Run.of_infix {s : S} {p : S × L} {tr mid : List (S × L)} {r : Except F S}
    (h : m.Run s tr r) (hmid : p :: mid <:+: tr) :
    m.Reaches s p.1 ∧ ∃ r₁, m.Run p.1 (p :: mid) r₁ := by
  obtain ⟨pre, post, rfl⟩ := hmid
  rw [List.append_assoc, List.cons_append] at h
  obtain ⟨hpre, hrest⟩ := h.split
  refine ⟨⟨pre, hpre⟩, ?_⟩
  cases post with
  | nil =>
    rw [List.append_nil] at hrest
    exact ⟨r, hrest⟩
  | cons q post =>
    rw [← List.cons_append] at hrest
    exact ⟨.ok q.1, hrest.split.1⟩

/-! ## Conditions on what came before -/

/-- Every step of a trace meets `C`, which may look at a summary of the steps before it; `next` adds
a step to the summary. -/
def Along {G : Type} (next : G → S → L → G) (C : G → S → L → Prop) : G → List (S × L) → Prop
  | _, [] => True
  | g, p :: tr => C g p.1 p.2 ∧ Along next C (next g p.1 p.2) tr

/-- **The rule of summaries.**  Where `J` relates summaries to states, and under it `C` of the
summary is `D` of the state, a condition along a run is one on its steps. -/
theorem Run.along_iff {G : Type} {next : G → S → L → G} {C : G → S → L → Prop} {J : G → S → Prop}
    {D : S → L → Prop}
    (hJ : ∀ g s l s', J g s → m.guard s l = true → m.fire s l = .ok s' → J (next g s l) s')
    (hC : ∀ g s l, J g s → m.guard s l = true → (C g s l ↔ D s l))
    {g : G} {s : S} {tr : List (S × L)} {r : Except F S} (h : m.Run s tr r) (hs : J g s) :
    Along next C g tr ↔ ∀ p ∈ tr, D p.1 p.2 := by
  induction h generalizing g with
  | done => exact iff_of_true trivial fun p hp => absurd hp List.not_mem_nil
  | @fault s l _ hg _ =>
    rw [List.forall_mem_singleton]
    exact (and_iff_left trivial).trans (hC g s l hs hg)
  | @step s s₁ l tr r hg hf _ ih =>
    rw [List.forall_mem_cons]
    exact and_congr (hC g s l hs hg) (ih (hJ g s l s₁ hs hg hf))

/-! ## Executing a machine -/

/-- Fire the labels in order: the attempts made and the outcome. -/
def exec (m : Machine S L F) : S → List L → List (S × L) × Except F S
  | s, [] => ([], .ok s)
  | s, l :: ls =>
    match m.fire s l with
    | .error f => ([(s, l)], .error f)
    | .ok s' => ((s, l) :: (exec m s' ls).1, (exec m s' ls).2)

/-- Every label is enabled when its turn comes, and none follows a fault. -/
def admits (m : Machine S L F) : S → List L → Bool
  | _, [] => true
  | s, l :: ls =>
    m.guard s l && match m.fire s l with
      | .error _ => ls.isEmpty
      | .ok s' => admits m s' ls

/-- **Executions are runs.** -/
theorem exec_run {s : S} {ls : List L} (h : m.admits s ls = true) :
    m.Run s (m.exec s ls).1 (m.exec s ls).2 := by
  induction ls generalizing s with
  | nil => exact .done s
  | cons l ls ih =>
    simp only [admits, Bool.and_eq_true] at h
    obtain ⟨hg, h⟩ := h
    cases hf : m.fire s l with
    | error f => simp only [exec, hf]; exact .fault hg hf
    | ok s' =>
      rw [hf] at h
      simp only [exec, hf]
      exact .step hg hf (ih h)

/-- An execution without a fault reaches a state. -/
theorem exec_run_ok (m : Machine S L F) (s : S) (ls : List L) (h : m.admits s ls = true)
    (hok : (m.exec s ls).2.toOption.isSome = true) :
    ∃ s', m.exec s ls = ((m.exec s ls).1, .ok s') ∧ m.Run s (m.exec s ls).1 (.ok s') := by
  have hrun := exec_run h
  cases hr : (m.exec s ls).2 with
  | ok s' =>
    rw [hr] at hrun
    exact ⟨s', Prod.ext rfl hr, hrun⟩
  | error f => rw [hr] at hok; cases hok

/-- **Runs are executions** of their labels. -/
theorem Run.exec_eq {s : S} {tr : List (S × L)} {r : Except F S} (h : m.Run s tr r) :
    m.exec s (tr.map Prod.snd) = (tr, r) := by
  induction h with
  | done => rfl
  | fault _ hf => simp only [List.map_cons, exec, hf]
  | step _ hf _ ih => simp only [List.map_cons, exec, hf, ih]

/-- What is observed of an outcome without a fault. -/
theorem exec_eq_ok {α : Type} {m : Machine S L F} {s : S} {ls : List L} {f : S → α} {a : α}
    (hobs : (m.exec s ls).2.toOption.map f = some a) :
    ∃ s', (m.exec s ls).2 = .ok s' ∧ f s' = a := by
  cases hr : (m.exec s ls).2 with
  | ok s' =>
    rw [hr] at hobs
    exact ⟨s', rfl, Option.some.inj hobs⟩
  | error e =>
    rw [hr] at hobs
    cases hobs

/-- **What is observed of an execution** is observed of the state its run reaches. -/
theorem exec_observed {α : Type} (m : Machine S L F) (s : S) (ls : List L) (f : S → α) {a : α}
    (h : m.admits s ls = true) (hobs : (m.exec s ls).2.toOption.map f = some a) :
    ∃ s', m.Run s (m.exec s ls).1 (.ok s') ∧ f s' = a := by
  obtain ⟨s', hr, hf⟩ := exec_eq_ok hobs
  exact ⟨s', hr ▸ exec_run h, hf⟩

/-- **A label in the middle of an execution** is attempted in the state the labels before it lead
to, and what is attempted after it follows. -/
theorem exec_at (m : Machine S L F) (s : S) (ls : List L) (l : L) (ls' : List L)
    (h : m.admits s (ls ++ l :: ls') = true) :
    ∃ s₁, (m.exec s ls).2 = .ok s₁ ∧
      (s₁, l) :: (m.exec s (ls ++ l :: ls')).1.drop (ls.length + 1) <:+
        (m.exec s (ls ++ l :: ls')).1 := by
  induction ls generalizing s with
  | nil =>
    refine ⟨s, rfl, ?_⟩
    cases hf : m.fire s l <;> simp [exec, hf]
  | cons x ls ih =>
    simp only [List.cons_append, admits, Bool.and_eq_true] at h
    obtain ⟨-, h⟩ := h
    cases hf : m.fire s x with
    | error f =>
      rw [hf] at h
      simp at h
    | ok s' =>
      rw [hf] at h
      obtain ⟨s₁, hs₁, hsuffix⟩ := ih s' h
      refine ⟨s₁, by simp only [exec, hf, hs₁], ?_⟩
      simp only [List.cons_append, exec, hf, List.length_cons, List.drop_succ_cons]
      exact hsuffix.trans (List.suffix_cons _ _)

/-- The labels of an execution without a fault are those it was given. -/
theorem exec_labels {s s' : S} {ls : List L} (h : (m.exec s ls).2 = .ok s') :
    (m.exec s ls).1.map Prod.snd = ls := by
  induction ls generalizing s with
  | nil => rfl
  | cons l ls ih =>
    cases hf : m.fire s l with
    | error f =>
      simp only [exec, hf] at h
      cases h
    | ok s₁ =>
      simp only [exec, hf] at h ⊢
      rw [List.map_cons, ih h]

/-- An execution attempts labels it was given. -/
theorem exec_mem {s : S} {ls : List L} {p : S × L} (h : p ∈ (m.exec s ls).1) : p.2 ∈ ls := by
  induction ls generalizing s with
  | nil => cases h
  | cons l ls ih =>
    cases hf : m.fire s l with
    | error f =>
      simp only [exec, hf, List.mem_singleton] at h
      subst h
      exact List.mem_cons_self
    | ok s' =>
      simp only [exec, hf] at h
      rcases List.mem_cons.mp h with rfl | h
      · exact List.mem_cons_self
      · exact List.mem_cons_of_mem _ (ih h)

/-- Executions compose. -/
theorem exec_append {s s' : S} {ls : List L} (h : (m.exec s ls).2 = .ok s') (ls' : List L) :
    m.exec s (ls ++ ls') = ((m.exec s ls).1 ++ (m.exec s' ls').1, (m.exec s' ls').2) := by
  induction ls generalizing s with
  | nil =>
    cases h
    rfl
  | cons l ls ih =>
    cases hf : m.fire s l with
    | error f =>
      simp only [exec, hf] at h
      cases h
    | ok s₁ =>
      simp only [exec, hf] at h
      simp only [List.cons_append, exec, hf, ih h]

/-- The fault an outcome is. -/
def faultOf : Except F S → Option F
  | .ok _ => none
  | .error f => some f

/-- An execution with a fault. -/
theorem exec_run_fault (m : Machine S L F) (s : S) (ls : List L) {f : F}
    (h : m.admits s ls = true) (hf : faultOf (m.exec s ls).2 = some f) :
    m.Run s (m.exec s ls).1 (.error f) := by
  have hrun := exec_run h
  cases hr : (m.exec s ls).2 with
  | ok s' => rw [hr] at hf; cases hf
  | error f' =>
    rw [hr] at hf hrun
    cases hf
    exact hrun

end Machine

end Transition
