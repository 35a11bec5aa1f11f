import RblRpc.Common.OidRefinement
import RblRpc.Lib.CString

/-!
# The order of names

The three comparisons of `OidConstrainedString`, those of `OidContainerEntryType`, which forward to
them, and `name_key_finder`, by which the index is searched.

* `OidName.buffer` — `str_`, the fixed buffer behind a name; `strncmp_buffer` says that the
  comparisons on names are those on their buffers.
* `Compared` — how two names compare, by the strings they are made of.
* `OneOrder` — an entry is searched for and linked by the same comparisons, and to the same place.
* `names_totally_ordered` — names are totally ordered by their strings without case.
-/

namespace RblRpc

namespace OidName

variable {a b c : OidName} {s : Bytes}

/-- `operator==`. -/
def eq (a b : OidName) : Except StdException Bool :=
  if b.isInitialized then .ok (strncmp 32 a.str b.str == .eq) else .error .invalidArgument

/-- `operator>`. -/
def gt (a b : OidName) : Except StdException Bool :=
  if b.isInitialized then .ok (strncmp 32 a.str b.str == .gt) else .error .invalidArgument

/-- `str_`. -/
def buffer (n : OidName) : Bytes := CString.strncpy 32 n.str

/-! ## Names and their buffers -/

/-- **`construct_` copies the lower-cased string** into the buffer. -/
theorem construct_buffer (h : construct_ s = .ok a) :
    a.buffer = CString.strncpy 32 (s.map toLower) := by
  rw [buffer, (construct_ok h).2, normalize]
  exact CString.strncpy_takeWhile 32 (s.map toLower)

/-- `strncmp` without terminators. -/
theorem strncmp_eq_compare {n : ℕ} {s t : Bytes} (hs : s.length < n) (ht : t.length < n) :
    strncmp n s t = compare s t := by
  induction n generalizing s t with
  | zero => exact absurd hs (Nat.not_lt_zero _)
  | succ n ih =>
    match s, t with
    | [], [] => rfl
    | [], _ :: _ => rfl
    | _ :: _, [] => rfl
    | x :: xs, y :: ys =>
      rw [strncmp, List.compare_cons_cons, CString.compare_then,
        ih (Nat.lt_of_succ_lt_succ hs) (Nat.lt_of_succ_lt_succ ht)]

/-- **The comparisons on names are those on their buffers.** -/
theorem strncmp_buffer (a b : OidName) :
    CString.strncmp 32 a.buffer b.buffer = strncmp 32 a.str b.str := by
  rw [buffer, buffer, CString.strncpy_of_lt a.nulFree a.fits,
    CString.strncpy_of_lt b.nulFree b.fits,
    CString.strncmp_terminated a.nulFree b.nulFree a.fits b.fits, strncmp_eq_compare a.fits b.fits]

/-! ## The comparisons -/

theorem lt_eq_compare (a : OidName) (hb : b.isInitialized = true) :
    a.lt b = .ok (compare a.str b.str == .lt) := by
  rw [lt, if_pos hb, strncmp_eq_compare a.fits b.fits]

theorem eq_eq_compare (a : OidName) (hb : b.isInitialized = true) :
    a.eq b = .ok (compare a.str b.str == .eq) := by
  rw [eq, if_pos hb, strncmp_eq_compare a.fits b.fits]

theorem gt_eq_compare (a : OidName) (hb : b.isInitialized = true) :
    a.gt b = .ok (compare a.str b.str == .gt) := by
  rw [gt, if_pos hb, strncmp_eq_compare a.fits b.fits]

theorem lt_iff (hb : b.isInitialized = true) : a.lt b = .ok true ↔ a.str < b.str := by
  rw [lt_eq_compare a hb, Except.ok.injEq, beq_iff_eq, CString.compare_eq_lt]

theorem eq_iff (hb : b.isInitialized = true) : a.eq b = .ok true ↔ a.str = b.str := by
  rw [eq_eq_compare a hb, Except.ok.injEq, beq_iff_eq, Std.LawfulEqOrd.compare_eq_iff_eq]

/-- **`operator>` is the converse of `operator<`.** -/
theorem gt_eq_lt (ha : a.isInitialized = true) (hb : b.isInitialized = true) :
    a.gt b = b.lt a := by
  have hswap : compare a.str b.str = (compare b.str a.str).swap := Std.OrientedCmp.eq_swap
  rw [gt_eq_compare a hb, lt_eq_compare b ha, hswap]
  cases compare b.str a.str <;> rfl

theorem lt_irreflexive (ha : a.isInitialized = true) : a.lt a = .ok false := by
  have hself : compare a.str a.str = .eq := Std.ReflCmp.compare_self
  rw [lt_eq_compare a ha, hself]
  rfl

theorem lt_transitive (hb : b.isInitialized = true) (hc : c.isInitialized = true)
    (hab : a.lt b = .ok true) (hbc : b.lt c = .ok true) : a.lt c = .ok true :=
  (lt_iff hc).mpr (List.lt_trans ((lt_iff hb).mp hab) ((lt_iff hc).mp hbc))

/-- **The three comparisons are exclusive, and one of them holds.** -/
theorem exactly_one (a : OidName) (hb : b.isInitialized = true) : ∃ lt eq gt,
    a.lt b = .ok lt ∧ a.eq b = .ok eq ∧ a.gt b = .ok gt ∧ [lt, eq, gt].count true = 1 := by
  refine ⟨_, _, _, lt_eq_compare a hb, eq_eq_compare a hb, gt_eq_compare a hb, ?_⟩
  cases compare a.str b.str <;> rfl

end OidName

namespace OidContainerEntry

variable {E : Type}

/-- `operator<` of the entries. -/
def lt (e e' : OidContainerEntry E) : Except StdException Bool := e.name.lt e'.name

/-- `operator==` of the entries. -/
def eq (e e' : OidContainerEntry E) : Except StdException Bool := e.name.eq e'.name

/-- `operator>` of the entries. -/
def gt (e e' : OidContainerEntry E) : Except StdException Bool := e.name.gt e'.name

end OidContainerEntry

namespace OidContainer

variable {E : Type} {es : List (OidContainerEntry E)} {n : OidName} {i : ℕ} {idx : List ℕ}

/-- `name_key_finder`, a name before an entry. -/
def nameKeyFinder (name : OidName) (entry : OidContainerEntry E) : Except StdException Bool :=
  name.lt entry.name

/-- `name_key_finder`, an entry before a name. -/
def entryKeyFinder (entry : OidContainerEntry E) (name : OidName) : Except StdException Bool :=
  entry.name.lt name

variable [Inhabited E]

/-- The search asks `name_key_finder`. -/
theorem findSlot_cons (es : List (OidContainerEntry E)) (n : OidName) (i : ℕ) (idx : List ℕ) :
    findSlot es n (i :: idx) = (do
      if ← entryKeyFinder (es.getD i default) n then findSlot es n idx
      else if ← nameKeyFinder n (es.getD i default) then .ok none
      else .ok (some i)) := rfl

/-- The insertion asks `operator<` of the entries. -/
theorem insertSlot_cons (es : List (OidContainerEntry E)) (i j : ℕ) (idx : List ℕ) :
    insertSlot es i (j :: idx) = (do
      if ← (es.getD i default).lt (es.getD j default) then return i :: j :: idx
      else if ← (es.getD j default).lt (es.getD i default) then
        return j :: (← insertSlot es i idx)
      else return j :: idx) := rfl

/-- Where the search for a name and the insertion of an entry with it come to in an index: behind
what is before the name.  There the search finds an entry with the name, which the insertion leaves
alone, or it finds none and the insertion links the entry. -/
def SamePlace (es : List (OidContainerEntry E)) (i : ℕ) (idx : List ℕ) : Prop :=
  ∃ before rest, idx = before ++ rest ∧
    (∀ j ∈ before, (es.getD j default).lt (es.getD i default) = .ok true) ∧
    ((findSlot es (nameAt es i) idx = .ok none ∧ insertSlot es i idx = .ok (before ++ i :: rest) ∧
        ∀ j ∈ rest.head?, (es.getD i default).lt (es.getD j default) = .ok true) ∨
      ∃ j, rest.head? = some j ∧ (es.getD j default).eq (es.getD i default) = .ok true ∧
        findSlot es (nameAt es i) idx = .ok (some j) ∧ insertSlot es i idx = .ok idx)

/-- **The search and the insertion come to the same place**, in any index of initialised slots. -/
theorem samePlace (hi : (nameAt es i).isInitialized = true)
    (hidx : ∀ j ∈ idx, (nameAt es j).isInitialized = true) : SamePlace es i idx := by
  induction idx with
  | nil => exact ⟨[], [], rfl, nofun, .inl ⟨rfl, rfl, nofun⟩⟩
  | cons j idx ih =>
    have hj := hidx j List.mem_cons_self
    have hswap : compare (nameAt es i).str (nameAt es j).str =
        (compare (nameAt es j).str (nameAt es i).str).swap := Std.OrientedCmp.eq_swap
    have hji := OidName.lt_eq_compare (nameAt es j) hi
    have hij := OidName.lt_eq_compare (nameAt es i) hj
    rw [hswap] at hij
    have hfind : entryKeyFinder (es.getD j default) (nameAt es i) =
        .ok (compare (nameAt es j).str (nameAt es i).str == .lt) := hji
    have hfind' : nameKeyFinder (nameAt es i) (es.getD j default) =
        .ok ((compare (nameAt es j).str (nameAt es i).str).swap == .lt) := hij
    have hlt : (es.getD j default).lt (es.getD i default) =
        .ok (compare (nameAt es j).str (nameAt es i).str == .lt) := hji
    have hgt : (es.getD i default).lt (es.getD j default) =
        .ok ((compare (nameAt es j).str (nameAt es i).str).swap == .lt) := hij
    cases hcmp : compare (nameAt es j).str (nameAt es i).str <;>
      rw [hcmp] at hlt hgt hfind hfind'
    case lt =>
      obtain ⟨before, rest, rfl, hbefore, hplace⟩ := ih fun k hk => hidx k (List.mem_cons_of_mem _ hk)
      have hsearch : findSlot es (nameAt es i) (j :: (before ++ rest)) =
          findSlot es (nameAt es i) (before ++ rest) := by
        rw [findSlot_cons, hfind]
        rfl
      have hlink : insertSlot es i (j :: (before ++ rest)) =
          (insertSlot es i (before ++ rest)).map (j :: ·) := by
        rw [insertSlot_cons, hgt, hlt]
        show (do return j :: (← insertSlot es i (before ++ rest))) = _
        cases insertSlot es i (before ++ rest) <;> rfl
      refine ⟨j :: before, rest, rfl, ?_, ?_⟩
      · intro k hk
        rcases List.mem_cons.mp hk with rfl | hk
        · exact hlt
        · exact hbefore k hk
      · rw [hsearch, hlink]
        rcases hplace with ⟨hnone, hins, hhead⟩ | ⟨k, hk, heq, hsome, hins⟩
        · exact .inl ⟨hnone, by rw [hins]; rfl, hhead⟩
        · exact .inr ⟨k, hk, heq, hsome, by rw [hins]; rfl⟩
    case eq =>
      refine ⟨[], j :: idx, rfl, nofun, .inr ⟨j, rfl, ?_, ?_, ?_⟩⟩
      · exact (OidName.eq_eq_compare (nameAt es j) hi).trans (by rw [hcmp]; rfl)
      · rw [findSlot_cons, hfind, hfind']
        rfl
      · rw [insertSlot_cons, hgt, hlt]
        rfl
    case gt =>
      refine ⟨[], j :: idx, rfl, nofun, .inl ⟨?_, ?_, ?_⟩⟩
      · rw [findSlot_cons, hfind, hfind']
        rfl
      · rw [insertSlot_cons, hgt]
        rfl
      · rintro k ⟨⟩
        exact hgt

end OidContainer

/-! ## The order of the strings -/

/-- How the names `a` and `b` compare that are made of `s` and `t`. -/
structure Compared (s t : Bytes) (a b : OidName) : Prop where
  exactlyOne : ∃ lt eq gt, a.lt b = .ok lt ∧ a.eq b = .ok eq ∧ a.gt b = .ok gt ∧
    [lt, eq, gt].count true = 1
  same : a.eq b = .ok true ↔ foldCase s = foldCase t
  lexicographic : a.lt b = .ok true ↔ foldCase s < foldCase t
  converse : a.gt b = b.lt a
  irreflexive : a.lt a = .ok false

/-- `name_key_finder` orders a name against an entry as `operator<` orders the entries, and the
index is searched for a name and an entry is linked into it in the same order. -/
structure OneOrder (a b : OidName) : Prop where
  finder : ∀ {E : Type} (e e' : OidContainerEntry E), e.name = a → e'.name = b →
    OidContainer.nameKeyFinder a e' = e.lt e' ∧ OidContainer.entryKeyFinder e b = e.lt e'
  index : ∀ {E : Type} [Inhabited E] (es : List (OidContainerEntry E)) (i : ℕ) (idx : List ℕ),
    OidContainer.nameAt es i = a →
    (∀ j ∈ idx, (OidContainer.nameAt es j).isInitialized = true) →
    OidContainer.SamePlace es i idx

theorem oneOrder {a : OidName} (ha : a.isInitialized = true) (b : OidName) : OneOrder a b := by
  refine ⟨fun e e' he he' => ?_, fun es i idx hi hidx => ?_⟩
  · subst he
    subst he'
    exact ⟨rfl, rfl⟩
  · exact OidContainer.samePlace (by rw [hi]; exact ha) hidx

/-- **Names are totally ordered by their strings without case**, and the index knows one order. -/
theorem names_totally_ordered {s t u : Bytes} (hs : LegalName s) (ht : LegalName t)
    (hu : LegalName u) : ∃ a b c, OidName.construct_ s = .ok a ∧ OidName.construct_ t = .ok b ∧
      OidName.construct_ u = .ok c ∧ Compared s t a b ∧ OneOrder a b ∧
      (a.lt b = .ok true → b.lt c = .ok true → a.lt c = .ok true) := by
  obtain ⟨a, ha, hastr, hainit⟩ := hs.construct_eq
  obtain ⟨b, hb, hbstr, hbinit⟩ := ht.construct_eq
  obtain ⟨c, hc, -, hcinit⟩ := hu.construct_eq
  refine ⟨a, b, c, ha, hb, hc, ?_, oneOrder hainit b, OidName.lt_transitive hbinit hcinit⟩
  refine ⟨OidName.exactly_one a hbinit, ?_, ?_, OidName.gt_eq_lt hainit hbinit,
    OidName.lt_irreflexive hainit⟩
  · rw [OidName.eq_iff hbinit, hastr, hbstr]
  · rw [OidName.lt_iff hbinit, hastr, hbstr]

/-- A name of the maximal length, a prefix of it in the other case, and a shorter one. -/
theorem names_totally_ordered_sample : ∃ a b c,
    OidName.construct_ (List.replicate 31 97) = .ok a ∧
      OidName.construct_ (List.replicate 30 65) = .ok b ∧ OidName.construct_ (ascii "Get") = .ok c ∧
      Compared (List.replicate 31 97) (List.replicate 30 65) a b ∧ OneOrder a b ∧
      (a.lt b = .ok true → b.lt c = .ok true → a.lt c = .ok true) :=
  names_totally_ordered ⟨by decide, by decide, by decide⟩ ⟨by decide, by decide, by decide⟩
    ⟨by decide, by decide, by decide⟩

end RblRpc
