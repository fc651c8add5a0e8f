/-!
# Byte strings

Files, encoded keys and response bodies are lists of octets. This module gives their big-endian
integer fields.

- `Bytes.bigEndian w n` writes `n` in `w` octets, most significant first.
- `Bytes.ofBigEndian` reads such a field; it undoes `bigEndian` on every number that fits.
-/

namespace Shuffle

/-- A string of octets. -/
abbrev Bytes := List UInt8

namespace Bytes

/-! ## §1 Big-endian fields -/

/-- The `width` low octets of `n`, most significant first. Higher octets are dropped. -/
def bigEndian : (width : Nat) → (n : Nat) → Bytes
  | 0, _ => []
  | width + 1, n => bigEndian width (n / 256) ++ [UInt8.ofNat n]

/-- The number that a big-endian field spells. -/
def ofBigEndian (field : Bytes) : Nat :=
  field.foldl (fun n b => n * 256 + b.toNat) 0

@[simp] theorem length_bigEndian (width n : Nat) : (bigEndian width n).length = width := by
  induction width generalizing n with
  | zero => rfl
  | succ w ih => simp [bigEndian, ih]

theorem ofBigEndian_append (field : Bytes) (b : UInt8) :
    ofBigEndian (field ++ [b]) = ofBigEndian field * 256 + b.toNat := by
  simp [ofBigEndian]

/-- A field of `width` octets spells the number up to multiples of `256 ^ width`. -/
theorem ofBigEndian_bigEndian (width n : Nat) :
    ofBigEndian (bigEndian width n) = n % Nat.pow 256 width := by
  induction width generalizing n with
  | zero => exact (Nat.mod_one n).symm
  | succ w ih =>
    rw [bigEndian, ofBigEndian_append, ih, show Nat.pow 256 (w + 1) = 256 * Nat.pow 256 w from
      Nat.mul_comm _ _, Nat.mod_mul, UInt8.toNat_ofNat']
    omega

/-- A number that fits survives being written. -/
theorem ofBigEndian_bigEndian_of_lt {width n : Nat} (h : n < Nat.pow 256 width) :
    ofBigEndian (bigEndian width n) = n := by
  rw [ofBigEndian_bigEndian, Nat.mod_eq_of_lt h]

/-! ## §2 Text -/

/-- The UTF-8 form of a text. -/
def ofText (text : String) : Bytes := text.toUTF8.toList

/-- The text whose UTF-8 form this is, if it is one. -/
def toText? (bytes : Bytes) : Option String := String.fromUTF8? bytes.toByteArray

end Bytes

end Shuffle
