import Mathlib.Data.List.Lex

/-!
# Constrained names

Model of `OidConstrainedString<char, 32>` and `OidType` of `oid_container.h` /
`oid_container-inl.h`: a name is lower-cased, cut at its first NUL and kept in 32 characters;
the empty name is the uninitialised one, and `c_str()` throws on it.

* `OidName.construct_` — the constructor, with its `length_error`.
* `OidName.lt` — `operator<`: `strncmp`, after `c_str()` of the right-hand side.
* `strncmp_lt` — on names `strncmp` is the byte-wise lexicographic order.
-/

namespace RblRpc

abbrev Bytes := List UInt8

/-- The characters of an ASCII literal. -/
def ascii (s : String) : Bytes := s.toList.map fun c => c.toNat.toUInt8

theorem ascii_ofList (l : List Char) :
    ascii (String.ofList l) = l.map fun c => c.toNat.toUInt8 := by
  rw [ascii, String.toList_ofList]

/-- Exceptions thrown by the identifier classes. -/
inductive StdException where
  | lengthError
  | invalidArgument
  | outOfRange
  deriving DecidableEq, Repr

/-- `what()`. -/
def StdException.what : StdException → String
  | .lengthError => "identifier string larger than identifier limit"
  | .invalidArgument => "the string is uninitialized"
  | .outOfRange => "ordinal exceeds limit"

/-- `boost::to_lower` on one character, in the C locale. -/
def toLower (c : UInt8) : UInt8 := if 65 ≤ c ∧ c ≤ 90 then c + 32 else c

/-- `OidConstrainedString<char, 32>`: the characters of `str_` before its first NUL. -/
structure OidName where
  str : Bytes
  fits : str.length < 32
  nulFree : (0 : UInt8) ∉ str
  deriving DecidableEq

namespace OidName

/-- The default constructor: `str_[0] = '\0'`. -/
def empty : OidName := ⟨[], by decide, by decide⟩

instance : Inhabited OidName := ⟨empty⟩

@[ext] theorem ext {a b : OidName} (h : a.str = b.str) : a = b := by
  cases a; cases b; cases h; rfl

/-- `is_initialized()`. -/
def isInitialized (n : OidName) : Bool := !n.str.isEmpty

/-- The characters `construct_` keeps: lower-cased, up to the first NUL. -/
def normalize (s : Bytes) : Bytes := (s.map toLower).takeWhile (· ≠ 0)

theorem normalize_length (s : Bytes) : (normalize s).length ≤ s.length := by
  unfold normalize
  exact (List.takeWhile_prefix _).length_le.trans (by simp)

theorem normalize_nulFree (s : Bytes) : (0 : UInt8) ∉ normalize s := by
  intro h
  have hall := List.all_takeWhile (p := fun c : UInt8 => decide (c ≠ 0)) (l := s.map toLower)
  rw [List.all_eq_true] at hall
  simpa using hall 0 h

/-- `construct_`. -/
def construct_ (s : Bytes) : Except StdException OidName :=
  if h : s.length + 1 > 32 then .error .lengthError
  else .ok ⟨normalize s, by have := normalize_length s; omega, normalize_nulFree s⟩

theorem construct_ok {s : Bytes} {n : OidName} (h : construct_ s = .ok n) :
    s.length < 32 ∧ n.str = normalize s := by
  unfold construct_ at h
  split at h
  · cases h
  · rename_i hl
    cases h
    exact ⟨by omega, rfl⟩

end OidName

/-- `strncmp` on NUL-terminated strings, given without their terminator. -/
def strncmp : Nat → Bytes → Bytes → Ordering
  | 0, _, _ => .eq
  | _ + 1, [], [] => .eq
  | _ + 1, [], _ :: _ => .lt
  | _ + 1, _ :: _, [] => .gt
  | n + 1, a :: as, b :: bs =>
    if a < b then .lt else if b < a then .gt else strncmp n as bs

/-- The key that orders names: the values of their bytes. -/
def nameKey (n : OidName) : List ℕ := n.str.map UInt8.toNat

theorem nameKey_injective : Function.Injective nameKey := by
  intro a b h
  exact OidName.ext (List.map_injective_iff.mpr (fun _ _ => UInt8.toNat.inj) h)

/-- **Within the limit `strncmp` is the byte-wise lexicographic order.** -/
theorem strncmp_lt {n : Nat} {a b : Bytes} (ha : a.length < n) (hb : b.length < n) :
    strncmp n a b = .lt ↔ a.map UInt8.toNat < b.map UInt8.toNat := by
  induction n generalizing a b with
  | zero => omega
  | succ n ih =>
    match a, b with
    | [], [] => simp [strncmp]
    | [], _ :: _ => simp [strncmp]
    | _ :: _, [] => simp [strncmp]
    | x :: xs, y :: ys =>
      simp only [List.length_cons] at ha hb
      simp only [strncmp, List.map_cons, List.cons_lt_cons_iff, UInt8.lt_iff_toNat_lt]
      rcases lt_trichotomy x.toNat y.toNat with h | h | h
      · simp [h]
      · simp [h, ih (by omega : xs.length < n) (by omega : ys.length < n)]
      · simp [h, h.not_gt, h.ne']

namespace OidName

/-- `operator<`. -/
def lt (a b : OidName) : Except StdException Bool :=
  if b.isInitialized then .ok (strncmp 32 a.str b.str == .lt) else .error .invalidArgument

theorem lt_eq {a b : OidName} (hb : b.isInitialized = true) :
    a.lt b = .ok (decide (nameKey a < nameKey b)) := by
  simp only [lt, hb, if_true, nameKey, ← strncmp_lt a.fits b.fits]
  congr 1

end OidName

/-- `Oid`: `OidType<OidName, uint16_t>`. -/
structure Oid where
  name : OidName
  ordinal : UInt16
  deriving DecidableEq

instance : Inhabited Oid := ⟨⟨default, 0⟩⟩

/-- `OidType(str_in, ordinal_in)`. -/
def Oid.make (str : Bytes) (ordinal : UInt32) : Except StdException Oid := do
  let name ← OidName.construct_ str
  if ordinal.toNat > 65535 then .error .outOfRange
  else .ok ⟨name, ordinal.toUInt16⟩

end RblRpc
