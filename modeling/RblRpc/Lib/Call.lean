/-!
# Calls that return, throw or fault

The calls of an object-oriented program: a call changes a state, and returns or throws; a throw
leaves the state as it is then.  A fault ends the program, and leaves nothing.

* `Call F E S` — calls on states `S` that throw `E` and fault with `F`.
* `Call.runOn` — the run of a call from a state.
* `runOn_bind` / `runOn_bind_eq_ok` — the run of a sequence.
* `Call.zoom` — a call on a part of the state.
* `Call.Keeps` — a call keeps a property of the state, whether it returns or throws.
-/

/-- Calls on a state. -/
abbrev Call (F E S : Type) : Type → Type := ExceptT E (StateT S (Except F))

namespace Call

variable {F E S T α β : Type}

/-- The run of a call from `s`: a fault, or what it returns or throws and the state it leaves. -/
def runOn (x : Call F E S α) (s : S) : Except F (Except E α × S) := x s

/-- The program ends. -/
def fault (f : F) : Call F E S α := fun _ => .error f

/-- A step that changes the state and may fault. -/
def ofStep (f : S → Except F (α × S)) : Call F E S α := fun s =>
  (f s).map fun p => (.ok p.1, p.2)

/-- A step that may throw. -/
def ofExcept (x : Except E α) : Call F E S α := fun s => .ok (x, s)

/-- A value that has to be there. -/
def ofOption (f : F) : Option α → Call F E S α
  | none => fault f
  | some a => pure a

/-- A call on the part of a state that `view` reads and `put` writes. -/
def zoom (view : T → S) (put : S → T → T) (x : Call F E S α) : Call F E T α := fun t =>
  (x.runOn (view t)).map fun p => (p.1, put p.2 t)

/-! ## Runs -/

variable {x : Call F E S α} {g : α → Call F E S β} {s s' : S}

@[simp] theorem runOn_pure (a : α) (s : S) : (pure a : Call F E S α).runOn s = .ok (.ok a, s) := rfl

@[simp] theorem runOn_throw (e : E) (s : S) :
    (throw e : Call F E S α).runOn s = .ok (.error e, s) := rfl

@[simp] theorem runOn_fault (f : F) (s : S) : (fault f : Call F E S α).runOn s = .error f := rfl

@[simp] theorem runOn_get (s : S) : (get : Call F E S S).runOn s = .ok (.ok s, s) := rfl

@[simp] theorem runOn_modify (f : S → S) (s : S) :
    (modify f : Call F E S PUnit).runOn s = .ok (.ok ⟨⟩, f s) := rfl

@[simp] theorem runOn_ofExcept (y : Except E α) (s : S) :
    (ofExcept y : Call F E S α).runOn s = .ok (y, s) := rfl

@[simp] theorem runOn_ofOption_some (f : F) (a : α) (s : S) :
    (ofOption f (some a) : Call F E S α).runOn s = .ok (.ok a, s) := rfl

@[simp] theorem runOn_ofOption_none (f : F) (s : S) :
    (ofOption f (none : Option α) : Call F E S α).runOn s = .error f := rfl

/-- **The run of a sequence.** -/
theorem runOn_bind (x : Call F E S α) (g : α → Call F E S β) (s : S) :
    (x >>= g).runOn s =
      match x.runOn s with
      | .error f => .error f
      | .ok (.error e, s') => .ok (.error e, s')
      | .ok (.ok a, s') => (g a).runOn s' := by
  change (ExceptT.bind x g : Call F E S β) s = _
  unfold ExceptT.bind ExceptT.mk
  change (StateT.bind x (ExceptT.bindCont g)) s = _
  unfold StateT.bind runOn
  change (x s >>= fun p => ExceptT.bindCont g p.1 p.2) = _
  cases x s with
  | error f => rfl
  | ok p =>
    obtain ⟨r, s'⟩ := p
    cases r <;> rfl

/-- A sequence whose first call returns. -/
theorem runOn_bind_of_ok {a : α} {t : S} (h : x.runOn s = .ok (.ok a, t)) :
    (x >>= g).runOn s = (g a).runOn t := by
  rw [runOn_bind, h]

/-- **A sequence that does not fault**: its first call throws, or returns and the rest runs. -/
theorem runOn_bind_eq_ok {r : Except E β} :
    (x >>= g).runOn s = .ok (r, s') ↔
      (∃ e, x.runOn s = .ok (.error e, s') ∧ r = .error e) ∨
      ∃ a s₁, x.runOn s = .ok (.ok a, s₁) ∧ (g a).runOn s₁ = .ok (r, s') := by
  rw [runOn_bind]
  cases x.runOn s with
  | error f => simp
  | ok p =>
    obtain ⟨y, s₁⟩ := p
    cases y with
    | error e =>
      simp only [Except.ok.injEq, Prod.mk.injEq, reduceCtorEq, false_and, exists_false, or_false,
        Except.error.injEq]
      constructor
      · rintro ⟨rfl, rfl⟩
        exact ⟨e, ⟨rfl, rfl⟩, rfl⟩
      · rintro ⟨e', ⟨rfl, rfl⟩, rfl⟩
        exact ⟨rfl, rfl⟩
    | ok a =>
      simp only [Except.ok.injEq, Prod.mk.injEq, reduceCtorEq, false_and, exists_false, false_or]
      constructor
      · intro h
        exact ⟨a, s₁, ⟨rfl, rfl⟩, h⟩
      · rintro ⟨a', s₁', ⟨rfl, rfl⟩, h⟩
        exact h

/-- What a run that returns leaves. -/
def returned : Except F (Except E α × S) → Option (α × S)
  | .ok (.ok a, s) => some (a, s)
  | _ => none

theorem returned_eq_some {r : Except F (Except E α × S)} {a : α} (h : returned r = some (a, s)) :
    r = .ok (.ok a, s) := by
  unfold returned at h
  split at h <;> cases h
  rfl

/-- What a run that throws leaves. -/
def thrown : Except F (Except E α × S) → Option (E × S)
  | .ok (.error e, s) => some (e, s)
  | _ => none

theorem thrown_eq_some {r : Except F (Except E α × S)} {e : E} (h : thrown r = some (e, s)) :
    r = .ok (.error e, s) := by
  unfold thrown at h
  split at h <;> cases h
  rfl

theorem runOn_ofStep (f : S → Except F (α × S)) (s : S) :
    (ofStep f : Call F E S α).runOn s = (f s).map fun p => (.ok p.1, p.2) := rfl

theorem map_eq_ok {f : α → β} {y : Except F α} {b : β} :
    y.map f = .ok b ↔ ∃ a, y = .ok a ∧ f a = b := by
  cases y <;> simp [Except.map]

theorem runOn_ofStep_eq_ok {f : S → Except F (α × S)} {r : Except E α} :
    (ofStep f : Call F E S α).runOn s = .ok (r, s') ↔ ∃ a, f s = .ok (a, s') ∧ r = .ok a := by
  rw [runOn_ofStep, map_eq_ok]
  constructor
  · rintro ⟨⟨a, s₁⟩, h, heq⟩
    cases heq
    exact ⟨a, h, rfl⟩
  · rintro ⟨a, h, rfl⟩
    exact ⟨(a, s'), h, rfl⟩

theorem runOn_ofOption_eq_ok {f : F} {o : Option α} {r : Except E α} :
    (ofOption f o : Call F E S α).runOn s = .ok (r, s') ↔ ∃ a, o = some a ∧ r = .ok a ∧ s' = s := by
  cases o with
  | none => simp
  | some a => simp [eq_comm]

/-! ## Invariants -/

/-- The call keeps `P`, whether it returns or throws. -/
def Keeps (P : S → Prop) (x : Call F E S α) : Prop :=
  ∀ s r s', P s → x.runOn s = .ok (r, s') → P s'

variable {P : S → Prop}

/-- A call that leaves the state as it is. -/
theorem Keeps.of_eq (h : ∀ s r s', x.runOn s = .ok (r, s') → s' = s) : Keeps P x := by
  intro s r s' hs hrun
  rw [h s r s' hrun]
  exact hs

theorem Keeps.pure (a : α) : Keeps P (Pure.pure a : Call F E S α) := by
  refine .of_eq fun s r s' h => ?_
  cases h
  rfl

theorem Keeps.throw (e : E) : Keeps P (MonadExcept.throw e : Call F E S α) := by
  refine .of_eq fun s r s' h => ?_
  cases h
  rfl

theorem Keeps.fault (f : F) : Keeps P (Call.fault f : Call F E S α) := by
  intro s r s' _ h
  cases h

theorem Keeps.get : Keeps P (MonadState.get : Call F E S S) := by
  refine .of_eq fun s r s' h => ?_
  cases h
  rfl

theorem Keeps.ofExcept (y : Except E α) : Keeps P (Call.ofExcept y : Call F E S α) := by
  refine .of_eq fun s r s' h => ?_
  cases h
  rfl

theorem Keeps.ofOption (f : F) (o : Option α) : Keeps P (Call.ofOption f o : Call F E S α) := by
  refine .of_eq fun s r s' h => ?_
  obtain ⟨a, -, -, hs⟩ := runOn_ofOption_eq_ok.mp h
  exact hs

theorem Keeps.modify {f : S → S} (h : ∀ s, P s → P (f s)) :
    Keeps P (modifyGet fun s => (⟨⟩, f s) : Call F E S PUnit) := by
  intro s r s' hs hrun
  cases hrun
  exact h s hs

/-- **A sequence keeps what its calls keep.** -/
theorem Keeps.bind (hx : Keeps P x) (hg : ∀ a, Keeps P (g a)) : Keeps P (x >>= g) := by
  intro s r s' hs hrun
  rcases runOn_bind_eq_ok.mp hrun with ⟨e, hthrow, -⟩ | ⟨a, s₁, hfirst, hrest⟩
  · exact hx s _ s' hs hthrow
  · exact hg a s₁ r s' (hx s _ s₁ hs hfirst) hrest

theorem Keeps.ite {c : Prop} [Decidable c] {y : Call F E S α} (hx : Keeps P x) (hy : Keeps P y) :
    Keeps P (if c then x else y) := by
  by_cases hc : c
  · rw [if_pos hc]
    exact hx
  · rw [if_neg hc]
    exact hy

end Call
