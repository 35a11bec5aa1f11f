import Mathlib.Tactic.Ring

/-!
# The tag/value wire format

Messages are sequences of pairs: a varint tag (field number and wire type) and a value.  Widths
are not limited here: a varint may have any number of bytes.

* `readVarint_writeVarint` — varints round trip.
* `decode` — reads pairs until the end of the bytes, a zero tag or an end-group tag; groups are
  skipped; a pair that is cut off or has an unknown wire type stops the decoder.
* `decode_encodePair_append` — an encoded pair at the front of any bytes is read back, and the
  decoder goes on with what follows.
* `pairs_encode_append` — the pairs of a concatenation.
* `Format` — a message type given by its fields; `Format.parse_encode` is its round trip.
-/

namespace Wire

/-! ## Varints -/

/-- Base-128 digits, least significant first; `fuel` bounds their number. -/
def digits : ℕ → ℕ → List UInt8
  | 0, n => [UInt8.ofNat (n % 128)]
  | fuel + 1, n =>
    if n < 128 then [UInt8.ofNat n] else UInt8.ofNat (n % 128 + 128) :: digits fuel (n / 128)

def writeVarint (n : ℕ) : List UInt8 := digits n n

def readVarint : List UInt8 → Option (ℕ × List UInt8)
  | [] => none
  | b :: bs =>
    if b.toNat < 128 then some (b.toNat, bs)
    else (readVarint bs).map fun r => (b.toNat - 128 + 128 * r.1, r.2)

theorem readVarint_digits (fuel n : ℕ) (hn : n < 128 ^ (fuel + 1)) (rest : List UInt8) :
    readVarint (digits fuel n ++ rest) = some (n, rest) := by
  induction fuel generalizing n with
  | zero =>
    have hn' : n < 128 := by simpa using hn
    have hb : (UInt8.ofNat (n % 128)).toNat = n := by rw [UInt8.toNat_ofNat']; omega
    simp [digits, readVarint, hb, hn']
  | succ fuel ih =>
    rw [digits]
    split
    · rename_i h
      have hb : (UInt8.ofNat n).toNat = n := by rw [UInt8.toNat_ofNat']; omega
      simp [readVarint, hb, h]
    · have hb : (UInt8.ofNat (n % 128 + 128)).toNat = n % 128 + 128 := by
        rw [UInt8.toNat_ofNat']; omega
      have hd : n / 128 < 128 ^ (fuel + 1) := by
        rw [Nat.div_lt_iff_lt_mul (by omega)]; rwa [pow_succ] at hn
      rw [List.cons_append, readVarint, hb, if_neg (by omega), ih _ hd]
      simp only [Option.map_some, Option.some.injEq, Prod.mk.injEq, and_true]
      omega

/-- **A written varint is read back.** -/
theorem readVarint_writeVarint (n : ℕ) (rest : List UInt8) :
    readVarint (writeVarint n ++ rest) = some (n, rest) := by
  refine readVarint_digits n n ?_ rest
  calc n < 128 ^ n := Nat.lt_pow_self (by omega)
    _ ≤ 128 ^ (n + 1) := Nat.pow_le_pow_right (by omega) (by omega)

theorem readVarint_length {n : ℕ} {bs rest : List UInt8}
    (h : readVarint bs = some (n, rest)) : rest.length < bs.length := by
  induction bs generalizing n with
  | nil => cases h
  | cons b bs ih =>
    simp only [readVarint] at h
    split at h
    · cases h; simp
    · cases hr : readVarint bs with
      | none => rw [hr] at h; cases h
      | some r =>
        rw [hr] at h
        cases h
        have := ih (n := r.1) (by rw [hr])
        simp only [List.length_cons]; omega

/-! ## Pairs -/

/-- The value of a pair; the contents of a group are skipped. -/
inductive Value where
  | varint (n : ℕ)
  | fixed64 (bs : List UInt8)
  | bytes (bs : List UInt8)
  | group
  | fixed32 (bs : List UInt8)
  deriving DecidableEq, Repr

/-- A field number with a value. -/
abbrev Pair := ℕ × Value

/-- Why the decoder stopped. -/
inductive Ending where
  | atEnd
  | zeroTag
  | endGroup (number : ℕ)
  | malformed
  deriving DecidableEq, Repr

/-- Read pairs until the end, a zero tag or an end-group tag: the pairs, the reason of the end
and the bytes not consumed. -/
def decode : ℕ → List UInt8 → List Pair × Ending × List UInt8
  | 0, bs => ([], .malformed, bs)
  | _ + 1, [] => ([], .atEnd, [])
  | fuel + 1, b :: bs =>
    match readVarint (b :: bs) with
    | none => ([], .malformed, [])
    | some (tag, rest) =>
      let next (v : Value) (rest : List UInt8) :=
        let r := decode fuel rest
        ((tag / 8, v) :: r.1, r.2)
      if tag = 0 then ([], .zeroTag, rest)
      else if tag % 8 = 0 then
        match readVarint rest with
        | none => ([], .malformed, [])
        | some (n, rest) => next (.varint n) rest
      else if tag % 8 = 1 then
        if rest.length < 8 then ([], .malformed, []) else next (.fixed64 (rest.take 8)) (rest.drop 8)
      else if tag % 8 = 2 then
        match readVarint rest with
        | none => ([], .malformed, [])
        | some (n, rest) =>
          if rest.length < n then ([], .malformed, [])
          else next (.bytes (rest.take n)) (rest.drop n)
      else if tag % 8 = 3 then
        let inner := decode fuel rest
        if inner.2.1 = .endGroup (tag / 8) then next .group inner.2.2 else ([], .malformed, [])
      else if tag % 8 = 4 then ([], .endGroup (tag / 8), rest)
      else if tag % 8 = 5 then
        if rest.length < 4 then ([], .malformed, []) else next (.fixed32 (rest.take 4)) (rest.drop 4)
      else ([], .malformed, [])

theorem decode_rest_length (fuel : ℕ) (bs : List UInt8) :
    (decode fuel bs).2.2.length ≤ bs.length := by
  induction fuel generalizing bs with
  | zero => simp [decode]
  | succ fuel ih =>
    cases bs with
    | nil => simp [decode]
    | cons b bs =>
      simp only [decode]
      cases hr : readVarint (b :: bs) with
      | none => simp
      | some r =>
        obtain ⟨tag, rest⟩ := r
        have hl := readVarint_length hr
        simp only
        have step : ∀ l : List UInt8, l.length ≤ rest.length →
            (decode fuel l).2.2.length ≤ (b :: bs).length := fun l hl' =>
          (ih l).trans (by omega)
        split_ifs
        · simp only; omega
        · cases hv : readVarint rest with
          | none => simp
          | some v => exact step _ (readVarint_length hv).le
        · simp
        · exact step _ (by simp)
        · cases hv : readVarint rest with
          | none => simp
          | some v =>
            simp only
            split_ifs
            · simp
            · refine step _ ?_
              have := readVarint_length hv
              simp only [List.length_drop]; omega
        · exact step _ (ih rest)
        · simp
        · simp only; omega
        · simp
        · exact step _ (by simp)
        · simp

/-- **Fuel beyond the length of the bytes does not count.** -/
theorem decode_fuel {f₁ : ℕ} : ∀ {f₂ : ℕ} {bs : List UInt8}, bs.length < f₁ → bs.length < f₂ →
    decode f₁ bs = decode f₂ bs := by
  induction f₁ with
  | zero => intro f₂ bs h; omega
  | succ f₁ ih =>
    intro f₂ bs h₁ h₂
    obtain ⟨f₂, rfl⟩ : ∃ k, f₂ = k + 1 := ⟨f₂ - 1, by omega⟩
    cases bs with
    | nil => rfl
    | cons b bs =>
      simp only [List.length_cons] at h₁ h₂
      simp only [decode]
      cases hr : readVarint (b :: bs) with
      | none => rfl
      | some r =>
        obtain ⟨tag, rest⟩ := r
        have hl := readVarint_length hr
        simp only [List.length_cons] at hl
        have step : ∀ l : List UInt8, l.length ≤ rest.length → decode f₁ l = decode f₂ l :=
          fun l hl' => ih (by omega) (by omega)
        have hdrop : ∀ k, decode f₁ (rest.drop k) = decode f₂ (rest.drop k) :=
          fun k => step _ (by simp)
        have hrest : decode f₁ rest = decode f₂ rest := step rest le_rfl
        have hinner : decode f₁ (decode f₂ rest).2.2 = decode f₂ (decode f₂ rest).2.2 :=
          step _ (decode_rest_length f₂ rest)
        simp only [hdrop, hrest, hinner]
        cases hv : readVarint rest with
        | none => rfl
        | some v =>
          have hvl := readVarint_length hv
          have hv1 : decode f₁ v.2 = decode f₂ v.2 := step _ hvl.le
          have hv2 : ∀ k, decode f₁ (v.2.drop k) = decode f₂ (v.2.drop k) :=
            fun k => step _ (by simp only [List.length_drop]; omega)
          simp only [hv1, hv2]

/-- The pairs of a byte string. -/
def pairs (bs : List UInt8) : List Pair := (decode (bs.length + 1) bs).1

/-! ## Encoding -/

/-- Varint and length-delimited pairs with a field number. -/
def Encodable : Pair → Prop
  | (k, .varint _) => 0 < k
  | (k, .bytes _) => 0 < k
  | _ => False

def encodePair : Pair → List UInt8
  | (k, .varint n) => writeVarint (8 * k) ++ writeVarint n
  | (k, .bytes bs) => writeVarint (8 * k + 2) ++ (writeVarint bs.length ++ bs)
  | _ => []

def encode (ps : List Pair) : List UInt8 := ps.flatMap encodePair

theorem writeVarint_ne_nil (n : ℕ) : writeVarint n ≠ [] := by
  unfold writeVarint
  cases n with
  | zero => simp [digits]
  | succ n => rw [digits]; split <;> simp

theorem encodePair_length_pos {p : Pair} (hp : Encodable p) : 0 < (encodePair p).length := by
  have hpos : ∀ n, 0 < (writeVarint n).length := fun n =>
    List.length_pos_iff.mpr (writeVarint_ne_nil n)
  obtain ⟨k, v⟩ := p
  cases v with
  | varint n => simp only [encodePair, List.length_append]; have := hpos (8 * k); omega
  | bytes bs => simp only [encodePair, List.length_append]; have := hpos (8 * k + 2); omega
  | fixed64 _ => exact hp.elim
  | group => exact hp.elim
  | fixed32 _ => exact hp.elim

/-- **An encoded pair is read back, whatever follows it.** -/
theorem decode_encodePair_append {p : Pair} (hp : Encodable p) (fuel : ℕ) (rest : List UInt8) :
    decode (fuel + 1) (encodePair p ++ rest) =
      (p :: (decode fuel rest).1, (decode fuel rest).2) := by
  obtain ⟨k, v⟩ := p
  cases v with
  | varint n =>
    have hk : 0 < k := hp
    simp only [encodePair, List.append_assoc]
    cases ht : writeVarint (8 * k) with
    | nil => exact absurd ht (writeVarint_ne_nil _)
    | cons b bs =>
      have htag := readVarint_writeVarint (8 * k) (writeVarint n ++ rest)
      have hval := readVarint_writeVarint n rest
      rw [ht] at htag
      simp only [List.cons_append] at htag ⊢
      simp only [decode, htag, hval, show 8 * k ≠ 0 by omega, show 8 * k % 8 = 0 by omega,
        show 8 * k / 8 = k by omega, if_false, if_true]
  | bytes bs' =>
    have hk : 0 < k := hp
    simp only [encodePair, List.append_assoc]
    cases ht : writeVarint (8 * k + 2) with
    | nil => exact absurd ht (writeVarint_ne_nil _)
    | cons b bs =>
      have htag := readVarint_writeVarint (8 * k + 2) (writeVarint bs'.length ++ (bs' ++ rest))
      have hval := readVarint_writeVarint bs'.length (bs' ++ rest)
      rw [ht] at htag
      simp only [List.cons_append] at htag ⊢
      simp only [decode, htag, hval, show 8 * k + 2 ≠ 0 by omega,
        show (8 * k + 2) % 8 = 2 by omega, show (8 * k + 2) / 8 = k by omega, if_true,
        List.take_left, List.drop_left, List.length_append]
      simp
  | fixed64 _ => exact hp.elim
  | group => exact hp.elim
  | fixed32 _ => exact hp.elim

/-- The decoder on a concatenation. -/
theorem decode_encode_append {ps : List Pair} (hps : ∀ p ∈ ps, Encodable p)
    (rest : List UInt8) :
    decode ((encode ps ++ rest).length + 1) (encode ps ++ rest) =
      (ps ++ pairs rest, (decode (rest.length + 1) rest).2) := by
  induction ps with
  | nil => rfl
  | cons p ps ih =>
    have hlen := encodePair_length_pos (hps p List.mem_cons_self)
    have hsplit : encode (p :: ps) ++ rest = encodePair p ++ (encode ps ++ rest) := by
      simp [encode]
    have hfuel : decode (encodePair p ++ (encode ps ++ rest)).length (encode ps ++ rest) =
        decode ((encode ps ++ rest).length + 1) (encode ps ++ rest) := by
      refine decode_fuel ?_ (by omega)
      simp only [List.length_append]; omega
    rw [hsplit, decode_encodePair_append (hps p List.mem_cons_self), hfuel,
      ih fun q hq => hps q (List.mem_cons_of_mem _ hq)]
    rfl

/-- **The pairs of a concatenation.** -/
theorem pairs_encode_append {ps : List Pair} (hps : ∀ p ∈ ps, Encodable p) (rest : List UInt8) :
    pairs (encode ps ++ rest) = ps ++ pairs rest := by
  rw [pairs, decode_encode_append hps]

theorem decode_encode {ps : List Pair} (hps : ∀ p ∈ ps, Encodable p) :
    decode ((encode ps).length + 1) (encode ps) = (ps, .atEnd, []) := by
  have h := decode_encode_append hps []
  simpa [pairs, decode] using h

/-! ## Message formats -/

/-- A number is given for field `k`. -/
def hasVarint (k : ℕ) (ps : List Pair) : Bool :=
  ps.any fun p => match p with | (j, .varint _) => j = k | _ => false

/-- A string is given for field `k`. -/
def hasBytes (k : ℕ) (ps : List Pair) : Bool :=
  ps.any fun p => match p with | (j, .bytes _) => j = k | _ => false

/-- A number below `bound`, a known enum value, is given for field `k`. -/
def hasEnum (k bound : ℕ) (ps : List Pair) : Bool :=
  ps.any fun p => match p with | (j, .varint n) => j = k && n < bound | _ => false

/-- A message type given by the pairs of its set fields, how a pair is merged into it, and
whether pairs set every required field. -/
structure Format (M : Type) where
  empty : M
  fields : M → List Pair
  merge : M → Pair → M
  initialized : List Pair → Bool

namespace Format

variable {M : Type}

/-- Parse a whole byte string into an empty message: the verdict, and the message left. -/
def parse (F : Format M) (bs : List UInt8) : Bool × M :=
  let r := decode (bs.length + 1) bs
  (decide (r.2.1 = .atEnd) && F.initialized r.1, r.1.foldl F.merge F.empty)

/-- The fields are encodable, and merging them rebuilds the message. -/
structure Lawful (F : Format M) : Prop where
  encodable : ∀ m, ∀ p ∈ F.fields m, Encodable p
  merge_fields : ∀ m, (F.fields m).foldl F.merge F.empty = m

/-- **Round trip**: parsing the encoding of a message gives the message back, and reports
whether its required fields were set. -/
theorem parse_encode {F : Format M} (h : F.Lawful) (m : M) :
    F.parse (encode (F.fields m)) = (F.initialized (F.fields m), m) := by
  simp only [parse, decode_encode (h.encodable m), h.merge_fields m]
  rfl

end Format

end Wire
