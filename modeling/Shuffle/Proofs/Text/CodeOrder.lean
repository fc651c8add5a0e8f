import Mathlib
import Shuffle.Proofs.Fields

/-!
# Octets keep the order of characters

Texts are ordered by the octets of their UTF-8 form. A character of a greater code point has the
greater form at the first octet where the two forms differ, whatever follows them, so this is the
order of code points: `Bytes.compare_ofText`.
-/

namespace Shuffle

open Std

namespace Bytes

/-- Octets that are made of numbers below 256 compare as these. -/
private theorem compare_octet {m n : Nat} (hm : m < 256) (hn : n < 256) :
    compare (UInt8.ofNat m) (UInt8.ofNat n) = compare m n := by
  have hm' : (UInt8.ofNat m).toNat = m := UInt8.toNat_ofNat_of_lt hm
  have hn' : (UInt8.ofNat n).toNat = n := UInt8.toNat_ofNat_of_lt hn
  simp only [compare, compareOfLessAndEq, UInt8.lt_iff_toNat_lt, ← UInt8.toNat_inj, hm', hn']

/-- Equal beginnings do not count. -/
private theorem compare_append_left (front x y : Bytes) :
    compare (front ++ x) (front ++ y) = compare x y := by
  induction front with
  | nil => rfl
  | cons b front ih =>
    have hsame : compare b b = .eq := ReflCmp.compare_self
    rw [List.cons_append, List.cons_append, List.compare_cons_cons, hsame, ih]
    rfl

/-- The digits of a code point, of which its form is made, are taken off one after the other. -/
private theorem digits_eq (n : Nat) : n / 4096 = n / 64 / 64 ∧ n / 262144 = n / 64 / 64 / 64 := by
  constructor <;> omega

/-- The form of a greater character is greater, whatever follows it. -/
private theorem compare_utf8_of_lt {c d : Char} (h : d.toNat < c.toNat) (x y : Bytes) :
    compare (String.utf8EncodeChar c ++ x) (String.utf8EncodeChar d ++ y) = .gt := by
  have hc := codePoint_lt c
  have hd := codePoint_lt d
  replace h : d.val.toNat < c.val.toNat := h
  -- One case for each pair of lengths: a longer form begins with a greater octet, and forms of one
  -- length are the digits of the code points.
  unfold String.utf8EncodeChar
  generalize c.val.toNat = m at h hc ⊢
  generalize d.val.toNat = n at h hd ⊢
  obtain ⟨hm, hm'⟩ := digits_eq m
  obtain ⟨hn, hn'⟩ := digits_eq n
  have htop : m / 64 / 64 / 64 % 8 = m / 64 / 64 / 64 := Nat.mod_eq_of_lt (by omega)
  have htop' : n / 64 / 64 / 64 % 8 = n / 64 / 64 / 64 := Nat.mod_eq_of_lt (by omega)
  dsimp only
  rw [hm, hm', hn, hn', htop, htop']
  split_ifs <;>
    simp only [List.cons_append, List.nil_append, List.compare_cons_cons, Ordering.then_eq_gt] <;>
    (repeat rw [compare_octet (by omega) (by omega)]) <;>
    simp only [Nat.compare_eq_gt, Nat.compare_eq_eq] <;>
    omega

/-- Two characters are compared by their octets as by their numbers. -/
theorem compare_utf8 (c d : Char) (x y : Bytes) :
    compare (String.utf8EncodeChar c ++ x) (String.utf8EncodeChar d ++ y)
      = (compare c.toNat d.toNat).then (compare x y) := by
  -- The encodings of two different characters differ before either one ends.
  rcases Nat.lt_trichotomy c.toNat d.toNat with h | h | h
  · have hswap : compare (String.utf8EncodeChar c ++ x) (String.utf8EncodeChar d ++ y)
        = (compare (String.utf8EncodeChar d ++ y) (String.utf8EncodeChar c ++ x)).swap :=
      OrientedCmp.eq_swap
    rw [Nat.compare_eq_lt.mpr h, hswap, compare_utf8_of_lt h]
    rfl
  · obtain rfl : c = d := Char.toNat_inj.mp h
    have hsame : compare c.toNat c.toNat = .eq := ReflCmp.compare_self
    rw [compare_append_left, hsame]
    rfl
  · rw [Nat.compare_eq_gt.mpr h, compare_utf8_of_lt h]
    rfl

/-- **Texts compare as their code points.** -/
theorem compare_ofText (a b : String) :
    compare (ofText a) (ofText b)
      = compare (a.toList.map Char.toNat) (b.toList.map Char.toNat) := by
  rw [← String.ofList_toList (s := a), ← String.ofList_toList (s := b), ofText_ofList,
    ofText_ofList, String.toList_ofList, String.toList_ofList]
  generalize a.toList = chars
  generalize b.toList = chars'
  induction chars generalizing chars' with
  | nil =>
    cases chars' with
    | nil => rfl
    | cons d rest =>
      -- No form is empty.
      obtain ⟨first, others, hform⟩ :=
        List.exists_cons_of_ne_nil (String.utf8EncodeChar_ne_nil (c := d))
      rw [List.flatMap_cons, hform]
      rfl
  | cons c rest ih =>
    cases chars' with
    | nil =>
      obtain ⟨first, others, hform⟩ :=
        List.exists_cons_of_ne_nil (String.utf8EncodeChar_ne_nil (c := c))
      rw [List.flatMap_cons, hform]
      rfl
    | cons d rest' =>
      rw [List.flatMap_cons, List.flatMap_cons, compare_utf8, ih]
      simp only [List.map_cons, List.compare_cons_cons]

end Bytes

end Shuffle
