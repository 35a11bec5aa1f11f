import Mathlib.Data.List.TakeDrop

/-!
# Byte buffers and little-endian words

* `overwrite` — writing bytes at the start of a buffer: what is read back, what stays behind.
* `le32`, `readLe32` — the little-endian encoding of a 32-bit word and its inverse.
-/

namespace LittleEndian

/-- Write `src` at the start of `dst`; what does not fit is cut. -/
def overwrite (src dst : List UInt8) : List UInt8 :=
  src.take dst.length ++ dst.drop src.length

@[simp] theorem length_overwrite (src dst : List UInt8) :
    (overwrite src dst).length = dst.length := by
  simp only [overwrite, List.length_append, List.length_take, List.length_drop]; omega

theorem overwrite_of_le {src dst : List UInt8} (h : src.length ≤ dst.length) :
    overwrite src dst = src ++ dst.drop src.length := by
  rw [overwrite, List.take_of_length_le h]

theorem take_overwrite {src dst : List UInt8} (h : src.length ≤ dst.length) :
    (overwrite src dst).take src.length = src := by
  rw [overwrite_of_le h, List.take_left]

/-- The four bytes of a word, least significant first. -/
def le32 (x : UInt32) : List UInt8 :=
  [UInt8.ofNat x.toNat, UInt8.ofNat (x.toNat / 256), UInt8.ofNat (x.toNat / 65536),
   UInt8.ofNat (x.toNat / 16777216)]

/-- The word in the first four bytes. -/
def readLe32 : List UInt8 → UInt32
  | a :: b :: c :: d :: _ =>
    UInt32.ofNat (a.toNat + 256 * b.toNat + 65536 * c.toNat + 16777216 * d.toNat)
  | _ => 0

@[simp] theorem length_le32 (x : UInt32) : (le32 x).length = 4 := rfl

/-- **A written word is read back.** -/
theorem readLe32_le32 (x : UInt32) (rest : List UInt8) : readLe32 (le32 x ++ rest) = x := by
  have hx := x.toNat_lt
  apply UInt32.toNat.inj
  simp only [le32, readLe32, List.cons_append, List.nil_append, UInt32.toNat_ofNat',
    UInt8.toNat_ofNat']
  omega

end LittleEndian
