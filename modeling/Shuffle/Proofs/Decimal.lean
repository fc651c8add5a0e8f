import Mathlib
import Shuffle.Output

/-!
# Decimal numbers are read back

Numbers, and the names of attempts, which are made of two numbers each.

- `Decimal.numeral_injective`: numbers have different numerals.
- `Decimal.readDigits_eq_ok`: digits are read as the number that they spell, if it is within the
  bound.
- `Decimal.readUInt32_numeral` is the round trip of a 32-bit number, and
  `TaskAttempt.parse_render` that of an attempt.
-/

namespace Shuffle

/-! ## §1 Texts that end at a character -/

section Span

variable {p : Char → Bool}

/-- A text is cut at the first character that does not belong to it. -/
theorem span_append {front rest : List Char} {c : Char} (hfront : ∀ d ∈ front, p d = true)
    (hc : p c = false) : (front ++ c :: rest).span p = (front, c :: rest) := by
  simp [List.span_eq_takeWhile_dropWhile, List.takeWhile_append_of_pos hfront,
    List.dropWhile_append_of_pos hfront, hc]

/-- Without such a character nothing is cut off. -/
theorem span_of_forall {text : List Char} (h : ∀ d ∈ text, p d = true) :
    text.span p = (text, []) := by
  rw [List.span_eq_takeWhile_dropWhile, List.takeWhile_eq_self_iff.mpr h,
    List.dropWhile_eq_nil_iff.mpr h]

end Span

namespace Decimal

/-! ## §2 Numerals -/

/-- A numeral is made of the digits of its number. -/
theorem toList_numeral (n : Nat) : (numeral n).toList = Nat.toDigits 10 n := by
  rw [numeral, Nat.toList_repr]

/-- Numerals are made of digits. -/
theorem isDigit_of_mem_numeral {n : Nat} {c : Char} (h : c ∈ (numeral n).toList) :
    c.isDigit = true := by
  rw [toList_numeral] at h
  exact Nat.isDigit_of_mem_toDigits (by decide) (by decide) h

theorem notMem_numeral {n : Nat} {c : Char} (hc : c.isDigit = false) : c ∉ (numeral n).toList := by
  intro h
  rw [isDigit_of_mem_numeral h] at hc
  cases hc

/-- A numeral has at least one digit, also that of zero. -/
theorem exists_digit_mem_numeral (n : Nat) : ∃ d ∈ (numeral n).toList, d.isDigit = true := by
  obtain ⟨d, hd⟩ := List.exists_mem_of_ne_nil (numeral n).toList (by simp [numeral])
  exact ⟨d, hd, isDigit_of_mem_numeral hd⟩

/-- A number is known from its numeral. -/
theorem numeral_injective {m n : Nat} (h : numeral m = numeral n) : m = n :=
  Nat.repr_injective h

/-! ## §3 Reading -/

/-- Further digits only make a number larger. -/
private theorem le_ofDigitChars (digits : List Char) (n : Nat) :
    n ≤ Nat.ofDigitChars 10 digits n := by
  rw [Nat.ofDigitChars_eq_ofDigitChars_zero]
  exact Nat.le_add_right_of_le (Nat.le_mul_of_pos_left n (Nat.pow_pos (by decide)))

/-- Digits are read as the number that they spell. A longer number is greater, so that no digit
takes the number above the bound. -/
theorem readDigits_eq_ok {bound n : Nat} {digits : List Char}
    (hdigits : ∀ c ∈ digits, c.isDigit = true) (hbound : Nat.ofDigitChars 10 digits n ≤ bound) :
    readDigits bound n digits = .ok (Nat.ofDigitChars 10 digits n) := by
  induction digits generalizing n with
  | nil => rfl
  | cons c rest ih =>
    have hvalue : digitValue? c = some (c.toNat - 0x30) :=
      if_pos (hdigits c List.mem_cons_self)
    have hstep : Nat.ofDigitChars 10 (c :: rest) n
        = Nat.ofDigitChars 10 rest (n * 10 + (c.toNat - 0x30)) := by
      rw [Nat.ofDigitChars_cons, Nat.mul_comm]
      rfl
    -- No prefix of the digits exceeds the bound, since the whole number does not.
    have hnext : n * 10 + (c.toNat - 0x30) ≤ bound :=
      (le_ofDigitChars rest _).trans (hstep ▸ hbound)
    simp only [readDigits, hvalue, hnext, if_true]
    rw [hstep]
    exact ih (fun d hd => hdigits d (List.mem_cons_of_mem c hd)) (hstep ▸ hbound)

/-- A number within the bound is read back from its numeral. -/
theorem readUpTo_numeral {bound n : Nat} (h : n ≤ bound) : readUpTo bound (numeral n) = .ok n := by
  have hdigits : ∀ c ∈ (numeral n).toList, c.isDigit = true := fun c hc =>
    isDigit_of_mem_numeral hc
  have hvalue : Nat.ofDigitChars 10 (numeral n).toList 0 = n := by
    rw [toList_numeral, Nat.ofDigitChars_ten_toDigits]
  have hread : readDigits bound 0 (numeral n).toList = .ok n := by
    rw [readDigits_eq_ok hdigits (by rwa [hvalue]), hvalue]
  have hne : (numeral n).toList ≠ [] := by
    rw [toList_numeral]
    exact Nat.toDigits_ne_nil
  unfold readUpTo
  split
  · contradiction
  -- A numeral has no sign.
  next h => exact absurd (hdigits '+' (h ▸ List.mem_cons_self)) (by decide)
  next rest h => exact absurd (hdigits '+' (h ▸ List.mem_cons_self)) (by decide)
  · exact hread

/-- **A 32-bit number is read back from its numeral.** -/
theorem readUInt32_numeral (n : UInt32) : readUInt32 (numeral n.toNat) = .ok n := by
  have hbound : n.toNat ≤ UInt32.size - 1 := Nat.le_sub_one_of_lt n.toNat_lt
  rw [readUInt32, readUpTo_numeral hbound]
  exact congrArg Except.ok (UInt32.ofNat_toNat)

end Decimal

/-! ## §4 Attempts -/

namespace TaskAttempt

/-- Both numbers of an attempt are written, with a low line between them. -/
theorem toList_render (a : TaskAttempt) :
    a.render.toList = (Decimal.numeral a.task.toNat).toList
      ++ '_' :: (Decimal.numeral a.attempt.toNat).toList := by
  simp [render]

/-- **An attempt is read back from its name.** -/
theorem parse_render (a : TaskAttempt) : TaskAttempt.parse a.render = .ok a := by
  have hdigits : ∀ c ∈ (Decimal.numeral a.task.toNat).toList, decide (c ≠ '_') = true := by
    intro c hc
    rw [decide_eq_true_eq]
    rintro rfl
    exact Decimal.notMem_numeral rfl hc
  rw [parse, toList_render, span_append hdigits (c := '_') rfl]
  simp only [String.ofList_toList, Decimal.readUInt32_numeral]

end TaskAttempt

end Shuffle
