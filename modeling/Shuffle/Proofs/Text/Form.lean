import Mathlib
import Shuffle.Text.Form
import Shuffle.Proofs.Fields

/-!
# Form fields are read back

Whatever names and values are written, reading gives them back: writing leaves no character in a
name or a value that separates fields, and reading undoes its escapes.

- `Form.IsFormChar` are the characters that stand in a written name or value, which are ASCII.
- `Form.parsePart_renderPart` is the round trip of a name or a value.
- `Form.parse_render` is that of a list of fields.
-/

namespace Shuffle

/-! ## §1 Characters of joined texts, and their octets -/

/-- A member of joined lists is one of a list or of the separator. -/
theorem mem_intercalate {α : Type} {sep : List α} {ls : List (List α)} {a : α}
    (h : a ∈ sep.intercalate ls) : a ∈ sep ∨ ∃ l ∈ ls, a ∈ l := by
  induction ls with
  | nil => cases h
  | cons l rest ih =>
    cases rest with
    | nil =>
      rw [List.intercalate_singleton] at h
      exact .inr ⟨l, by simp, h⟩
    | cons next rest =>
      rw [List.intercalate_cons_cons, List.mem_append, List.mem_append] at h
      -- It is in the first list, in the separator behind it, or further on.
      rcases h with (h | h) | h
      · exact .inr ⟨l, by simp, h⟩
      · exact .inl h
      · rcases ih h with h | ⟨l', hl', h⟩
        · exact .inl h
        · exact .inr ⟨l', List.mem_cons_of_mem l hl', h⟩

/-- The octet of an ASCII character. -/
theorem utf8EncodeChar_of_le {c : Char} (h : c.toNat ≤ 127) :
    String.utf8EncodeChar c = [UInt8.ofNat c.toNat] :=
  String.utf8EncodeChar_eq_singleton (Char.utf8Size_eq_one_iff.mpr h)

/-- An octet below 128 is that of a character in ASCII, in a text of any characters. -/
theorem toNat_of_mem_utf8 {cs : List Char} {b : UInt8}
    (hb : b ∈ cs.flatMap String.utf8EncodeChar) (hlt : b.toNat < 0x80) :
    ∃ c ∈ cs, c.toNat = b.toNat := by
  obtain ⟨c, hc, hb⟩ := List.mem_flatMap.mp hb
  refine ⟨c, hc, ?_⟩
  have hcode := Bytes.codePoint_lt c
  show c.val.toNat = b.toNat
  unfold String.utf8EncodeChar at hb
  generalize c.val.toNat = n at hb hcode ⊢
  dsimp only at hb
  split_ifs at hb <;> simp only [List.mem_cons, List.not_mem_nil, or_false] at hb
  · rw [hb, UInt8.toNat_ofNat']
    omega
  -- The octets of a longer form are all greater.
  · rcases hb with rfl | rfl <;> rw [UInt8.toNat_ofNat'] at hlt <;> omega
  · rcases hb with rfl | rfl | rfl <;> rw [UInt8.toNat_ofNat'] at hlt <;> omega
  · rcases hb with rfl | rfl | rfl | rfl <;> rw [UInt8.toNat_ofNat'] at hlt <;> omega

namespace Percent

/-! ## §2 Escapes -/

/-- Only an escape sign begins an escape. -/
theorem decode_cons_of_ne {b : UInt8} (h : b ≠ 0x25) (rest : Bytes) :
    decode (b :: rest) = b :: decode rest :=
  decode.eq_2 b rest fun _ _ _ hb _ => h hb

/-- Digits are ASCII, are read back, and are no sign. -/
theorem hexDigit_spec : ∀ n < 16, (hexDigit n).toNat ≤ 127 ∧
    hexValue? (UInt8.ofNat (hexDigit n).toNat) = some (UInt8.ofNat n) ∧
    (hexDigit n).isAlphanum = true ∧ UInt8.ofNat (hexDigit n).toNat ≠ 0x2B := by
  decide

/-- An escape is three octets: the percent sign and two digits. -/
theorem utf8_escape (b : UInt8) : (escape b).flatMap String.utf8EncodeChar
    = [0x25, UInt8.ofNat (hexDigit (b.toNat / 16)).toNat,
      UInt8.ofNat (hexDigit (b.toNat % 16)).toNat] := by
  have hbound := b.toNat_lt
  have hhigh := (hexDigit_spec (b.toNat / 16) (by omega)).1
  have hlow := (hexDigit_spec (b.toNat % 16) (by omega)).1
  simp only [escape, List.flatMap_cons, List.flatMap_nil, utf8EncodeChar_of_le hhigh,
    utf8EncodeChar_of_le hlow]
  rfl

/-- An escape stands for its octet. -/
theorem decode_escape (b : UInt8) (rest : Bytes) :
    decode ((escape b).flatMap String.utf8EncodeChar ++ rest) = b :: decode rest := by
  have hbound := b.toNat_lt
  have hhigh := (hexDigit_spec (b.toNat / 16) (by omega)).2.1
  have hlow := (hexDigit_spec (b.toNat % 16) (by omega)).2.1
  have hoctet : UInt8.ofNat (b.toNat / 16) * 16 + UInt8.ofNat (b.toNat % 16) = b := by
    apply UInt8.toNat_inj.mp
    simp only [UInt8.toNat_add, UInt8.toNat_mul, UInt8.toNat_ofNat', UInt8.reduceToNat]
    omega
  rw [utf8_escape]
  show decode (0x25 :: _ :: _ :: rest) = _
  rw [decode, hhigh, hlow]
  exact congrArg (· :: decode rest) hoctet

end Percent

namespace Form

/-! ## §3 Names and values -/

/-- A character that stands in a written name or value. -/
def IsFormChar (c : Char) : Prop := Percent.keptInForm c = true ∨ c = '+' ∨ c = '%'

/-- The numbers of the characters that are kept. -/
theorem toNat_of_keptInForm {c : Char} (h : Percent.keptInForm c = true) :
    (48 ≤ c.toNat ∧ c.toNat ≤ 57) ∨ (65 ≤ c.toNat ∧ c.toNat ≤ 90) ∨
      (97 ≤ c.toNat ∧ c.toNat ≤ 122) ∨ c.toNat = 42 ∨ c.toNat = 45 ∨ c.toNat = 46 ∨
      c.toNat = 95 := by
  simp [Percent.keptInForm, Char.isAlphanum, Char.isAlpha, Char.isUpper, Char.isLower,
    Char.isDigit, UInt32.le_iff_toNat_le] at h
  rcases h with ((hupper | hlower) | hdigit) | rfl | rfl | rfl | rfl
  · omega
  · omega
  · omega
  all_goals simp

/-- Characters of written fields are in ASCII, and none separates fields. -/
theorem IsFormChar.toNat {c : Char} (h : IsFormChar c) :
    c.toNat ≤ 127 ∧ c.toNat ≠ 0x26 ∧ c.toNat ≠ 0x3D := by
  rcases h with hkept | rfl | rfl
  · have hrange := toNat_of_keptInForm hkept
    omega
  · decide
  · decide

/-- What is written for a character. -/
def renderChar (c : Char) : List Char :=
  if c = ' ' then ['+'] else Percent.encode Percent.keptInForm [c]

theorem renderPart_eq (text : String) : renderPart text = text.toList.flatMap renderChar := rfl

/-- A character that may stay is written as it is. -/
theorem renderChar_of_kept {c : Char} (h : Percent.keptInForm c = true) : renderChar c = [c] := by
  have hspace : c ≠ ' ' := by
    rintro rfl
    exact absurd (toNat_of_keptInForm h) (by decide)
  simp [renderChar, hspace, Percent.encode, h]

/-- Any other one but the blank is escaped octet by octet. -/
theorem renderChar_of_not_kept {c : Char} (h : Percent.keptInForm c = false) (hspace : c ≠ ' ') :
    renderChar c = (String.utf8EncodeChar c).flatMap Percent.escape := by
  simp [renderChar, hspace, Percent.encode, h]

/-- Escapes are made of characters that a form may have. -/
theorem isFormChar_of_mem_escape {b : UInt8} {c : Char} (h : c ∈ Percent.escape b) :
    IsFormChar c := by
  have hbound := b.toNat_lt
  have halnum {n : Nat} (hn : n < 16) : IsFormChar (Percent.hexDigit n) := by
    left
    rw [Percent.keptInForm, (Percent.hexDigit_spec n hn).2.2.1, Bool.true_or]
  simp only [Percent.escape, List.mem_cons, List.not_mem_nil, or_false] at h
  rcases h with rfl | rfl | rfl
  · exact .inr (.inr rfl)
  · exact halnum (by omega)
  · exact halnum (by omega)

/-- Only such characters are written. -/
theorem isFormChar_of_mem_renderPart {text : String} {c : Char} (h : c ∈ renderPart text) :
    IsFormChar c := by
  rw [renderPart_eq] at h
  obtain ⟨c', -, hc⟩ := List.mem_flatMap.mp h
  -- A character is kept, is a blank that becomes a plus, or is escaped octet by octet.
  cases hkept : Percent.keptInForm c' with
  | true =>
    rw [renderChar_of_kept hkept, List.mem_singleton] at hc
    exact .inl (hc ▸ hkept)
  | false =>
    by_cases hspace : c' = ' '
    · rw [renderChar, if_pos hspace, List.mem_singleton] at hc
      exact .inr (.inl hc)
    · rw [renderChar_of_not_kept hkept hspace] at hc
      obtain ⟨b, -, hc⟩ := List.mem_flatMap.mp hc
      exact isFormChar_of_mem_escape hc

/-- Reading takes a plus sign for a space. -/
def unplus (b : UInt8) : UInt8 := if b = 0x2B then 0x20 else b

/-- Escapes have no plus sign. -/
private theorem map_unplus_escape (b : UInt8) :
    ((Percent.escape b).flatMap String.utf8EncodeChar).map unplus
      = (Percent.escape b).flatMap String.utf8EncodeChar := by
  have hbound := b.toNat_lt
  have hhigh := (Percent.hexDigit_spec (b.toNat / 16) (by omega)).2.2.2
  have hlow := (Percent.hexDigit_spec (b.toNat % 16) (by omega)).2.2.2
  rw [Percent.utf8_escape]
  simp [unplus, hhigh, hlow]

/-- What is written for a character stands for its octets. -/
theorem decode_renderChar (c : Char) (rest : Bytes) :
    Percent.decode (((renderChar c).flatMap String.utf8EncodeChar).map unplus ++ rest)
      = String.utf8EncodeChar c ++ Percent.decode rest := by
  cases hkept : Percent.keptInForm c with
  -- A character that stays is neither the plus of a blank nor the sign of an escape.
  | true =>
    have hrange := toNat_of_keptInForm hkept
    have hle : c.toNat ≤ 127 := by omega
    have hoctet : (UInt8.ofNat c.toNat).toNat = c.toNat := by
      rw [UInt8.toNat_ofNat']
      omega
    have hplus : UInt8.ofNat c.toNat ≠ 0x2B := fun h => by
      rw [h] at hoctet
      simp at hoctet
      omega
    have hsign : UInt8.ofNat c.toNat ≠ 0x25 := fun h => by
      rw [h] at hoctet
      simp at hoctet
      omega
    simp only [renderChar_of_kept hkept, List.flatMap_cons, List.flatMap_nil, List.append_nil,
      utf8EncodeChar_of_le hle, List.map_cons, List.map_nil, unplus, if_neg hplus,
      List.singleton_append, Percent.decode_cons_of_ne hsign]
  | false =>
    by_cases hspace : c = ' '
    · subst hspace
      exact Percent.decode_cons_of_ne (by decide) rest
    · rw [renderChar_of_not_kept hkept hspace]
      -- Each escaped octet is read on its own.
      induction String.utf8EncodeChar c with
      | nil => rfl
      | cons b bs ih =>
        rw [List.flatMap_cons, List.flatMap_append, List.map_append, List.append_assoc,
          map_unplus_escape, Percent.decode_escape, ih]
        rfl

/-- A name or a value is read as it was written. -/
theorem parsePart_renderPart (text : String) :
    parsePart ((renderPart text).flatMap String.utf8EncodeChar) = text := by
  -- On the characters: each is written on its own, and read back before the next one.
  have hdecode (cs : List Char) :
      Percent.decode (((cs.flatMap renderChar).flatMap String.utf8EncodeChar).map unplus)
        = cs.flatMap String.utf8EncodeChar := by
    induction cs with
    | nil => exact Percent.decode.eq_3
    | cons c cs ih =>
      rw [List.flatMap_cons, List.flatMap_append, List.map_append, decode_renderChar, ih,
        List.flatMap_cons]
  have hoctets := hdecode text.toList
  rw [← Bytes.ofText_ofList text.toList, String.ofList_toList, ← renderPart_eq] at hoctets
  show Utf8.decodeLossy (Percent.decode (((renderPart text).flatMap String.utf8EncodeChar).map
    unplus)) = text
  rw [hoctets, Utf8.decodeLossy, Bytes.toText?_ofText]

/-! ## §4 Fields -/

/-- An octet of a name or a value as it is written. -/
private theorem ne_of_mem_part {text : String} {b : UInt8}
    (hb : b ∈ (renderPart text).flatMap String.utf8EncodeChar) : b ≠ 0x26 ∧ b ≠ 0x3D := by
  constructor
  · rintro rfl
    obtain ⟨c, hc, hoctet⟩ := toNat_of_mem_utf8 hb (by decide)
    exact (isFormChar_of_mem_renderPart hc).toNat.2.1 hoctet
  · rintro rfl
    obtain ⟨c, hc, hoctet⟩ := toNat_of_mem_utf8 hb (by decide)
    exact (isFormChar_of_mem_renderPart hc).toNat.2.2 hoctet

/-- A field is written as its name and its value, with an equals sign between them. -/
private theorem utf8_renderField (field : Field) :
    (renderField field).flatMap String.utf8EncodeChar
      = (renderPart field.1).flatMap String.utf8EncodeChar
        ++ 0x3D :: (renderPart field.2).flatMap String.utf8EncodeChar := by
  rw [renderField, List.flatMap_append, List.flatMap_cons]
  rfl

/-- A field is read as it was written, whatever its characters. -/
theorem parseField_renderField (field : Field) :
    parseField ((renderField field).flatMap String.utf8EncodeChar) = field := by
  have hname : ∀ b ∈ (renderPart field.1).flatMap String.utf8EncodeChar,
      decide (b ≠ 0x3D) = true := fun b hb => decide_eq_true (ne_of_mem_part hb).2
  rw [parseField, utf8_renderField, List.takeWhile_append_of_pos hname,
    List.dropWhile_append_of_pos hname]
  simp [parsePart_renderPart]

/-- Encoding a joined list joins the encoded parts. -/
private theorem flatMap_intercalate {α β : Type} (f : α → List β) (sep : List α)
    (ls : List (List α)) : (sep.intercalate ls).flatMap f
      = (sep.flatMap f).intercalate (ls.map (·.flatMap f)) := by
  induction ls with
  | nil => rfl
  | cons l ls ih =>
    cases ls with
    | nil => simp
    | cons l' ls =>
      rw [List.intercalate_cons_cons, List.flatMap_append, List.flatMap_append, ih]
      simp [List.intercalate_cons_cons]

/-- **Fields are read as they were written**, whatever their names and values are. -/
theorem parse_render (fields : List Field) : parse (Bytes.ofText (render fields)) = fields := by
  have hoctets : Bytes.ofText (render fields)
      = [0x26].intercalate (fields.map fun field =>
          (renderField field).flatMap String.utf8EncodeChar) := by
    rw [render, Bytes.ofText_ofList, flatMap_intercalate, List.map_map]
    rfl
  rw [hoctets, parse]
  by_cases hnil : fields = []
  · subst hnil
    rfl
  · have hseparate : ∀ l ∈ fields.map fun field =>
        (renderField field).flatMap String.utf8EncodeChar, (0x26 : UInt8) ∉ l := by
      intro l hl hand
      obtain ⟨field, -, rfl⟩ := List.mem_map.mp hl
      rw [utf8_renderField] at hand
      rcases List.mem_append.mp hand with hand | hand
      · exact (ne_of_mem_part hand).1 rfl
      · rcases List.mem_cons.mp hand with hand | hand
        · cases hand
        · exact (ne_of_mem_part hand).1 rfl
    -- No field is empty, since each has its sign.
    have hkept : ∀ l ∈ fields.map fun field =>
        (renderField field).flatMap String.utf8EncodeChar, decide (l ≠ []) = true := by
      intro l hl
      obtain ⟨field, -, rfl⟩ := List.mem_map.mp hl
      simp [utf8_renderField]
    rw [List.splitOn_intercalate _ hseparate (by simpa using hnil), List.filter_eq_self.mpr hkept,
      List.map_map]
    simp [Function.comp_def, parseField_renderField]

/-! ## §5 Forms as queries -/

/-- Queries keep the characters of names and values. -/
theorem IsFormChar.keptInQuery {c : Char} (h : IsFormChar c) :
    Percent.keptInQuery true c = true := by
  rcases h with hkept | rfl | rfl
  · have hrange := toNat_of_keptInForm hkept
    have hne {d : Char} (hd : d.toNat < 42 ∨ d.toNat = 60 ∨ d.toNat = 62) : c ≠ d := by
      rintro rfl
      omega
    simp [Percent.keptInQuery, Percent.isPrintable, UInt32.le_iff_toNat_le, hne]
    omega
  · simp [Percent.keptInQuery, Percent.isPrintable]
  · simp [Percent.keptInQuery, Percent.isPrintable]

/-- A written form is a query that needs no escapes. -/
theorem keptInQuery_of_mem_render {fields : List Field} {c : Char}
    (h : c ∈ (render fields).toList) : Percent.keptInQuery true c = true := by
  rw [render, String.toList_ofList] at h
  rcases mem_intercalate h with hand | ⟨text, htext, hc⟩
  · rw [List.mem_singleton.mp hand]
    simp [Percent.keptInQuery, Percent.isPrintable]
  · obtain ⟨field, -, rfl⟩ := List.mem_map.mp htext
    rcases List.mem_append.mp hc with hc | hc
    · exact (isFormChar_of_mem_renderPart hc).keptInQuery
    · rcases List.mem_cons.mp hc with rfl | hc
      · simp [Percent.keptInQuery, Percent.isPrintable]
      · exact (isFormChar_of_mem_renderPart hc).keptInQuery

end Form

end Shuffle
