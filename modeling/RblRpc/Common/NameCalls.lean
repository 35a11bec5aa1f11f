import RblRpc.Common.AnyNames
import Mathlib.Data.List.Perm.Basic

/-!
# Success of `SetEntry` over whole runs

Runs of operations and lookups on numbered containers, with every name the constructor
accepts.  A `SetEntry` should not say `OP_NO_ERROR` for an entry that cannot be found after
it, and no call with an accepted name should throw.

* `nameMachine` — the calls; exceptions are the caller's, the containers go on as they are left.
* `Fulfilled` — what a call promises; `Named` — its name is not the empty one, or there is nothing
  yet to compare it with.
* `names_fulfilled_iff` — the calls of a run are fulfilled exactly when they are named.
-/

namespace RblRpc

open OidContainer Transition

variable {E : Type} [Inhabited E]

/-- An operation, `EntryWithName`, or `ContainsEither`, on container `k`. -/
inductive NameCall (E : Type) where
  | perform (op : ContainerOp E)
  | find (k : ℕ) (name : Bytes)
  | contains (k : ℕ) (name : Bytes) (ordinal : UInt16)

/-- The containers and the calls on them.  No call needs a guard. -/
def nameMachine : Machine (ℕ → OidContainer E) (NameCall E) Empty where
  guard _ _ := true
  fire s call :=
    match call with
    | .perform op => .ok (op.apply s).1
    | .find _ _ => .ok s
    | .contains _ _ _ => .ok s

namespace OidContainer

variable {c : OidContainer E} {e : OidContainerEntry E} {n : OidName}

/-- `SetEntry` does not throw, a success leaves the entry where both lookups return it, and
`occupied_size()` is the number of initialised slots. -/
def Recorded (c : OidContainer E) (e : OidContainerEntry E) : Prop :=
  ∃ r, (c.setEntry e).2 = .ok r ∧
    (c.setEntry e).1.occupiedSize = (c.setEntry e).1.entries.countP (·.isInitialized) ∧
    (r = .opNoError → (c.setEntry e).1.entryAtOrdinal e.ordinal.toUInt32 = some e ∧
      (c.setEntry e).1.entryWithName e.name = .ok (some e))

theorem WF.sane (h : WF c) : Sane c := ⟨h.sorted, .inl fun i hi => (h.mem i).mp hi, h.bare⟩

/-- **`SetEntry` keeps its promise** exactly for entries with a name. -/
theorem WF.recorded_iff (h : WF c) (e : OidContainerEntry E) :
    Recorded c e ↔ e.isInitialized = true := by
  constructor
  · rintro ⟨r, hr, -, hfound⟩
    -- A nameless entry is refused by a throw, or taken and then not to be seen.
    by_contra he
    rw [Bool.not_eq_true] at he
    by_cases hnil : c.nameIndex = []
    · have hok : (c.setEntry e).2 = .ok .opNoError := by
        rcases lt_or_ge e.ordinal.toNat c.size with hlt | hle
        · rw [setEntry_first h.sane hnil hlt]
        · have hgrow := setEntry_resized (h.resizeIfNeeded_eq e.ordinal) (by rw [size_grow]; omega)
          rw [hgrow, setEntry_first (h.grow _).sane hnil (by rw [size_grow]; omega)]
      rw [hok] at hr
      cases hr
      obtain ⟨hat, -⟩ := hfound rfl
      rw [(at?_eq_some.mp hat).2] at he
      cases he
    · rw [h.setEntry_uninitialized hnil he] at hr
      cases hr
  · intro he
    have hwf := h.setEntry he
    have heq := h.setEntry_eq he
    refine ⟨_, congrArg Prod.snd heq, hwf.occupiedSize_eq, fun hr => ?_⟩
    have hfree : c.at? e.ordinal.toNat = none ∧ c.slotOf e.name = none := by
      cases hat : c.at? e.ordinal.toNat <;> cases hsl : c.slotOf e.name <;>
        simp [hat, hsl, response] at hr ⊢
    have hat : (c.setEntry e).1.at? e.ordinal.toNat = some e := by
      rw [heq, if_pos hfree]
      exact (at?_placed he _).trans (if_pos rfl)
    refine ⟨?_, (hwf.entryWithName_iff he).mpr ⟨_, hat, rfl⟩⟩
    rw [entryAtOrdinal, UInt16.toNat_toUInt32]
    exact hat

/-- A search by name throws exactly for an empty name that meets another. -/
theorem WF.slotWithName_ok_iff (h : WF c) :
    (∃ r, c.slotWithName n = .ok r) ↔ n.isInitialized = true ∨ c.occupiedSize = 0 := by
  cases hn : n.isInitialized with
  | true => exact iff_of_true ⟨_, h.slotWithName_eq hn⟩ (.inl rfl)
  | false =>
    have hlt : ∀ m : OidName, m.lt n = .error .invalidArgument := fun m =>
      if_neg (by rw [hn]; decide)
    rw [occupiedSize, slotWithName]
    cases c.nameIndex with
    | nil => exact iff_of_true ⟨none, rfl⟩ (.inr rfl)
    | cons i idx =>
      refine iff_of_false ?_ (by simp)
      rintro ⟨r, hr⟩
      simp only [findSlot, hlt, bind, Except.bind] at hr
      cases hr

theorem WF.entryWithName_ok_iff (h : WF c) :
    (∃ r, c.entryWithName n = .ok r) ↔ n.isInitialized = true ∨ c.occupiedSize = 0 := by
  rw [← h.slotWithName_ok_iff, entryWithName]
  cases c.slotWithName n with
  | ok r => exact iff_of_true ⟨_, rfl⟩ ⟨r, rfl⟩
  | error x =>
    refine iff_of_false ?_ ?_
    · rintro ⟨r, hr⟩
      cases hr
    · rintro ⟨r, hr⟩
      cases hr

theorem WF.containsEither_ok_iff (h : WF c) (id : Oid) :
    (∃ r, c.containsEither id = .ok r) ↔ id.name.isInitialized = true ∨ c.occupiedSize = 0 := by
  constructor
  · rintro ⟨r, hr⟩
    by_contra hno
    rw [not_or, Bool.not_eq_true] at hno
    have hne : c.nameIndex ≠ [] := fun hnil => hno.2 (by rw [occupiedSize, hnil]; rfl)
    rw [containsEither_uninitialized hne hno.1] at hr
    cases hr
  · intro hok
    obtain ⟨found, hfound⟩ := h.slotWithName_ok_iff.mpr hok
    exact ⟨_, OidContainer.containsEither_eq id hfound h.bare⟩

end OidContainer

/-- What a call with an accepted name promises. -/
def Fulfilled (s : ℕ → OidContainer E) : NameCall E → Prop
  | .perform (.setEntry k name ordinal entry) =>
    ∀ n, OidName.construct_ name = .ok n → Recorded (s k) ⟨⟨n, ordinal⟩, entry⟩
  | .perform _ => True
  | .find k name =>
    ∀ n, OidName.construct_ name = .ok n → ∃ r, (s k).entryWithName n = .ok r
  | .contains k name ordinal =>
    ∀ n, OidName.construct_ name = .ok n → ∃ r, (s k).containsEither ⟨n, ordinal⟩ = .ok r

/-- The constructor takes the name for an empty one: it is, or begins with NUL. -/
def Unnamed (name : Bytes) : Prop := name.length ≤ 31 ∧ OidName.normalize name = []

/-- No entry is set under an empty name, and none is looked up where there are entries. -/
def Named (s : ℕ → OidContainer E) : NameCall E → Prop
  | .perform (.setEntry _ name _ _) => ¬Unnamed name
  | .perform _ => True
  | .find k name => Unnamed name → (s k).occupiedSize = 0
  | .contains k name _ => Unnamed name → (s k).occupiedSize = 0

theorem unnamed_iff {name : Bytes} :
    Unnamed name ↔ ∃ n, OidName.construct_ name = .ok n ∧ n.isInitialized = false := by
  constructor
  · rintro ⟨hfit, hnorm⟩
    refine ⟨_, dif_neg (by omega), ?_⟩
    simp only [OidName.isInitialized, hnorm]
    rfl
  · rintro ⟨n, hn, hinit⟩
    obtain ⟨hfit, hstr⟩ := OidName.construct_ok hn
    refine ⟨by omega, ?_⟩
    rw [← hstr]
    simpa [OidName.isInitialized] using hinit

/-- Of the accepted names only the empty ones are unnamed. -/
theorem forall_accepted_iff {name : Bytes} {P : Prop} :
    (∀ n, OidName.construct_ name = .ok n → n.isInitialized = true ∨ P) ↔
      (Unnamed name → P) := by
  rw [unnamed_iff]
  constructor
  · rintro hall ⟨n, hn, hinit⟩
    refine (hall n hn).resolve_left fun ht => ?_
    rw [hinit] at ht
    cases ht
  · intro hP n hn
    cases hinit : n.isInitialized with
    | true => exact .inl rfl
    | false => exact .inr (hP ⟨n, hn, hinit⟩)

/-- **One call** on well-formed containers is fulfilled exactly when it is named. -/
theorem fulfilled_iff {s : ℕ → OidContainer E} (h : ∀ k, WF (s k)) (call : NameCall E) :
    Fulfilled s call ↔ Named s call := by
  match call with
  | .perform (.setEntry k name ordinal entry) =>
    refine Iff.trans (forall₂_congr fun n _ => ?_) (forall_accepted_iff (P := False))
    rw [(h k).recorded_iff, or_false]
    rfl
  | .perform (.clear _) => exact Iff.rfl
  | .perform (.copy _ _) => exact Iff.rfl
  | .perform (.assign _ _) => exact Iff.rfl
  | .find k name =>
    exact (forall₂_congr fun n _ => (h k).entryWithName_ok_iff).trans forall_accepted_iff
  | .contains k name ordinal =>
    exact (forall₂_congr fun n _ => (h k).containsEither_ok_iff ⟨n, ordinal⟩).trans
      forall_accepted_iff

theorem wf_update {s : ℕ → OidContainer E} (h : ∀ k, WF (s k)) {c : OidContainer E} (hc : WF c)
    (k : ℕ) : ∀ j, WF (Function.update s k c j) := by
  intro j
  by_cases hj : j = k
  · subst hj
    rwa [Function.update_self]
  · rw [Function.update_of_ne hj]
    exact h j

/-- An identifier has the name it was made of. -/
theorem name_of_make {str : Bytes} {o : UInt32} {id : Oid} (h : Oid.make str o = .ok id) :
    OidName.construct_ str = .ok id.name := by
  simp only [Oid.make, bind, Except.bind] at h
  split at h
  · cases h
  · rename_i n hn
    split at h
    · cases h
    · cases h
      exact hn

/-- Named calls keep containers well-formed. -/
theorem wf_fire {s s' : ℕ → OidContainer E} (h : ∀ k, WF (s k)) {call : NameCall E}
    (hc : Named s call) (hf : nameMachine.fire s call = .ok s') : ∀ k, WF (s' k) := by
  match call with
  | .perform (.setEntry k name ordinal entry) =>
    cases hf
    simp only [ContainerOp.apply]
    cases hid : Oid.make name ordinal.toUInt32 with
    | error x => exact h
    | ok id =>
      refine wf_update h ((h k).setEntry ?_) k
      by_contra hinit
      exact hc (unnamed_iff.mpr ⟨id.name, name_of_make hid, Bool.not_eq_true _ ▸ hinit⟩)
  | .perform (.clear k) =>
    cases hf
    exact wf_update h .empty k
  | .perform (.copy k j) =>
    cases hf
    simp only [ContainerOp.apply, (h j).copyOf_eq]
    exact wf_update h (h j) k
  | .perform (.assign k j) =>
    cases hf
    simp only [ContainerOp.apply, (h j).copyOf_eq]
    split
    · exact wf_update h (h j) k
    · exact h
  | .find _ _ =>
    cases hf
    exact h
  | .contains _ _ _ =>
    cases hf
    exact h

/-- **The calls of a run are fulfilled** exactly when they are named. -/
theorem names_fulfilled_iff {tr : List ((ℕ → OidContainer E) × NameCall E)}
    {s : ℕ → OidContainer E} (hrun : nameMachine.Run (fun _ => .empty) tr (.ok s)) :
    (∀ p ∈ tr, Fulfilled p.1 p.2) ↔ ∀ p ∈ tr, Named p.1 p.2 := by
  have hkeep : ∀ (s : ℕ → OidContainer E) call s', (∀ k, WF (s k)) → Named s call →
      nameMachine.guard s call = true → nameMachine.fire s call = .ok s' → ∀ k, WF (s' k) :=
    fun _ _ _ h hc _ hf => wf_fire h hc hf
  exact hrun.each_iff hkeep (fun _ call h _ => fulfilled_iff h call) fun _ => .empty

/-- An entry, and the lookup of a name like it. -/
def namedCalls : List (NameCall ℕ) :=
  [.perform (.setEntry 0 (ascii "Echo") 3 7), .find 0 (ascii "ECHO"), .contains 0 (ascii "list") 0]

theorem names_fulfilled_iff_sample :
    (nameMachine.exec (fun _ => (.empty : OidContainer ℕ)) namedCalls).1.map Prod.snd = namedCalls ∧
      ∀ p ∈ (nameMachine.exec (fun _ => .empty) namedCalls).1, Fulfilled p.1 p.2 := by
  have hlabels : (nameMachine.exec (fun _ => (.empty : OidContainer ℕ)) namedCalls).1.map
      Prod.snd = namedCalls := rfl
  have hrun : nameMachine.Run (fun _ => (.empty : OidContainer ℕ))
      (nameMachine.exec (fun _ => .empty) namedCalls).1
      (.ok (ContainerOp.apply (fun _ => .empty) (.setEntry 0 (ascii "Echo") 3 (7 : ℕ))).1) :=
    Machine.exec_run rfl
  refine ⟨hlabels, (names_fulfilled_iff hrun).mpr fun p hp => ?_⟩
  have hnamed : ∀ name ∈ [ascii "Echo", ascii "ECHO", ascii "list"], ¬Unnamed name := by
    intro name hname hun
    have hne : ∀ name ∈ [ascii "Echo", ascii "ECHO", ascii "list"],
        OidName.normalize name ≠ [] := by decide
    exact hne name hname hun.2
  have hcalls : p.2 ∈ namedCalls := by
    rw [← hlabels]
    exact List.mem_map_of_mem hp
  simp only [namedCalls, List.mem_cons, List.not_mem_nil, or_false] at hcalls
  rcases hcalls with hcall | hcall | hcall
  · rw [hcall]
    exact hnamed _ (by decide)
  · rw [hcall]
    exact fun hun => absurd hun (hnamed _ (by decide))
  · rw [hcall]
    exact fun hun => absurd hun (hnamed _ (by decide))

/-- The empty name in an empty container: `OP_NO_ERROR`, and no entry at its ordinal. -/
theorem unnamed_entry_lost :
    ¬∀ (tr : List ((ℕ → OidContainer ℕ) × NameCall ℕ)) (s : ℕ → OidContainer ℕ),
      nameMachine.Run (fun _ => .empty) tr (.ok s) → ∀ p ∈ tr, Fulfilled p.1 p.2 := by
  intro hall
  have hrun : nameMachine.Run (fun _ => (.empty : OidContainer ℕ))
      [(fun _ => .empty, .perform (.setEntry 0 [] 0 7))]
      (.ok (ContainerOp.apply (fun _ => .empty) (.setEntry 0 [] 0 (7 : ℕ))).1) :=
    .step rfl rfl (.done _)
  obtain ⟨r, hr, -, hfound⟩ := hall _ _ hrun _ (List.mem_singleton_self _) OidName.empty rfl
  have hok : (OidContainer.setEntry .empty (⟨⟨OidName.empty, 0⟩, 7⟩ : OidContainerEntry ℕ)).2 =
      .ok .opNoError := by decide
  have hnone : (OidContainer.setEntry .empty
      (⟨⟨OidName.empty, 0⟩, 7⟩ : OidContainerEntry ℕ)).1.entryAtOrdinal 0 = none := by decide
  have hr : (OidContainer.setEntry .empty (⟨⟨OidName.empty, 0⟩, 7⟩ : OidContainerEntry ℕ)).2 =
      .ok r := hr
  rw [hok] at hr
  have hsome := (hfound (Except.ok.inj hr).symm).1
  have hsome : (OidContainer.setEntry .empty
      (⟨⟨OidName.empty, 0⟩, 7⟩ : OidContainerEntry ℕ)).1.entryAtOrdinal 0 =
        some ⟨⟨OidName.empty, 0⟩, 7⟩ := hsome
  rw [hnone] at hsome
  cases hsome

end RblRpc
