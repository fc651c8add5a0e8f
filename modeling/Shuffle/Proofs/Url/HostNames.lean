import Mathlib
import Shuffle.Proofs.Decimal
import Shuffle.Proofs.Url.Labels
import Shuffle.Url.Host

/-!
# Plain host names

Names of labels in lower case, and addresses of four decimal octets, are the normal forms of hosts:
reading a plain host under a web scheme leaves its text as it is.

- `Label.IsPlain` are labels in lower case, and `Label.toAscii?_of_isPlain` says that a name of them
  stands for itself, whatever they are made of.
- `Ipv4.read_labels`: four octets are read back.
- `PlainHost` are the names and the addresses, and `PlainHost.readWeb` says that each is read, and
  is written as it was.
-/

namespace Shuffle

/-! ## §1 Characters -/

/-- A character of a plain label. -/
def Label.IsPlainChar (c : Char) : Prop := c.isLower = true ∨ c.isDigit = true ∨ c = '-'

/-- A character of a plain host. -/
def Host.IsPlainChar (c : Char) : Prop := Label.IsPlainChar c ∨ c = '.'

/-- The numbers of the characters of plain hosts. -/
theorem Host.IsPlainChar.toNat {c : Char} (h : IsPlainChar c) :
    (97 ≤ c.toNat ∧ c.toNat ≤ 122) ∨ (48 ≤ c.toNat ∧ c.toNat ≤ 57) ∨ c.toNat = 45 ∨
      c.toNat = 46 := by
  rcases h with (hlower | hdigit | rfl) | rfl
  · simp [Char.isLower, UInt32.le_iff_toNat_le] at hlower
    omega
  · simp [Char.isDigit, UInt32.le_iff_toNat_le] at hdigit
    omega
  · decide
  · decide

/-- A character outside these ranges stands in no plain host. -/
theorem Host.IsPlainChar.ne {c d : Char} (h : IsPlainChar c) (hd : d.toNat < 45 ∨ d.toNat = 47 ∨
    57 < d.toNat ∧ d.toNat < 97 ∨ 122 < d.toNat) : c ≠ d := by
  have hrange := h.toNat
  rintro rfl
  omega

namespace Percent

/-- Without an escape sign there is no escape. -/
theorem decode_of_notMem {bytes : Bytes} (h : 0x25 ∉ bytes) : decode bytes = bytes := by
  induction bytes with
  | nil => exact decode.eq_3
  | cons b rest ih =>
    rw [List.mem_cons, not_or] at h
    rw [decode_cons_of_ne (Ne.symm h.1), ih h.2]

end Percent

/-- Characters in ASCII do not run from right to left. -/
theorem Direction.of_ascii {c : Char} (h : c.toNat < 0x80) :
    of c ≠ .right ∧ of c ≠ .arabicNumber := by
  unfold of
  split_ifs <;> simp

/-! ## §2 Labels -/

/-- A label in lower case that stands for itself. -/
structure Label.IsPlain (label : List Char) : Prop where
  nonempty : label ≠ []
  chars : ∀ c ∈ label, IsPlainChar c
  uncoded : ¬ ['x', 'n', '-', '-'] <+: label

namespace Label

/-- Plain labels are made of characters of names in ASCII. -/
theorem IsPlain.isSmall {label : List Char} (h : IsPlain label) : ∀ c ∈ label, IsSmall c := by
  intro c hc
  have hrange := Host.IsPlainChar.toNat (.inl (h.chars c hc))
  refine ⟨by omega, ?_⟩
  rw [← Bool.not_eq_true]
  intro hupper
  simp [Char.isUpper, UInt32.le_iff_toNat_le] at hupper
  omega

/-- A plain label stands for itself. -/
theorem IsPlain.text? {label : List Char} (h : IsPlain label) : text? label = some label := by
  refine text?_of_isSmall h.isSmall ?_
  unfold code?
  split
  next code => exact absurd ⟨code, rfl⟩ h.uncoded
  · rfl

/-- No label has a dot. -/
theorem IsPlain.notMem_dot {label : List Char} (h : IsPlain label) : '.' ∉ label := by
  intro hdot
  rcases h.chars '.' hdot with hlower | hdigit | hhyphen
  · cases hlower
  · cases hdigit
  · cases hhyphen

/-- Plain labels are found between the dots of their name. -/
theorem splitOn_intercalate {labels : List (List Char)} (hne : labels ≠ [])
    (h : ∀ label ∈ labels, IsPlain label) : (['.'].intercalate labels).splitOn '.' = labels :=
  List.splitOn_intercalate '.' (fun label hlabel => (h label hlabel).notMem_dot) hne

/-- A name of plain labels has plain characters only. -/
theorem isPlainChar_of_mem_intercalate {labels : List (List Char)}
    (h : ∀ label ∈ labels, IsPlain label) {c : Char} (hc : c ∈ ['.'].intercalate labels) :
    Host.IsPlainChar c := by
  rcases mem_intercalate hc with hdot | ⟨label, hlabel, hc⟩
  · exact .inr (List.mem_singleton.mp hdot)
  · exact .inl ((h label hlabel).chars c hc)

/-- A name is not empty. -/
theorem intercalate_ne_nil {labels : List (List Char)} (hne : labels ≠ [])
    (h : ∀ label ∈ labels, IsPlain label) : ['.'].intercalate labels ≠ [] := by
  cases labels with
  | nil => contradiction
  | cons label rest =>
    have hlabel := (h label List.mem_cons_self).nonempty
    cases rest with
    | nil => simpa using hlabel
    | cons next rest => simp [List.intercalate_cons_cons, hlabel]

/-- Characters of a plain label run from left to right, or do not care. -/
theorem IsPlain.hasRightToLeft {label : List Char} (h : IsPlain label) :
    Direction.hasRightToLeft label = false := by
  rw [Direction.hasRightToLeft, List.any_eq_false]
  intro c hc
  have hrange := Host.IsPlainChar.toNat (.inl (h.chars c hc))
  simpa using Direction.of_ascii (c := c) (by omega)

/-- A name of plain labels stands for itself, whatever they are made of. -/
theorem toAscii?_of_isPlain {labels : List (List Char)} (hne : labels ≠ [])
    (h : ∀ label ∈ labels, IsPlain label) :
    toAscii? (['.'].intercalate labels) = some (['.'].intercalate labels) := by
  -- No label is a code, so each is its own text.
  have htexts : labels.mapM text? = some labels := by
    clear hne
    induction labels with
    | nil => rfl
    | cons label rest ih =>
      rw [List.mapM_cons, (h label List.mem_cons_self).text?,
        ih fun l hl => h l (List.mem_cons_of_mem label hl)]
      rfl
  -- No label is written from right to left.
  have hdirection : labels.any Direction.hasRightToLeft = false := by
    rw [List.any_eq_false]
    intro label hlabel
    simp [(h label hlabel).hasRightToLeft]
  exact toAscii?_intercalate hne (fun label hlabel => (h label hlabel).isSmall)
    (fun label hlabel => (h label hlabel).notMem_dot) htexts (by simp [Direction.agree, hdirection])

end Label

/-! ## §3 Numbers in the place of a label -/

namespace Ipv4

/-- No empty part is dropped from a name of plain labels. -/
theorem dotted_intercalate {labels : List (List Char)} (hne : labels ≠ [])
    (h : ∀ label ∈ labels, Label.IsPlain label) : dotted (['.'].intercalate labels) = labels := by
  have hlast : labels.getLast? ≠ some [] := fun heq =>
    (h [] (List.mem_of_getLast? heq)).nonempty rfl
  simp [dotted, Label.splitOn_intercalate hne h, hlast]

/-- The numbers of the letters in lower case. -/
private theorem toNat_of_isLower {c : Char} (h : c.isLower = true) :
    97 ≤ c.toNat ∧ c.toNat ≤ 122 := by
  simpa [Char.isLower, UInt32.le_iff_toNat_le] using h

/-- No letter is a digit. -/
private theorem isDigit_of_isLower {c : Char} (h : c.isLower = true) : c.isDigit = false := by
  have hrange := toNat_of_isLower h
  simp [Char.isDigit, UInt32.le_iff_toNat_le]
  omega

/-- A text that starts with a letter is no number. -/
theorem readNumber_of_isLower {letter : Char} (hletter : letter.isLower = true)
    (rest : List Char) : readNumber (letter :: rest) = none := by
  have hdigit := isDigit_of_isLower hletter
  have hzero : letter ≠ '0' := by
    rintro rfl
    cases hletter
  have hnumber : readNumber (letter :: rest) = readDigits 10 0 (letter :: rest) := by
    unfold readNumber
    split <;> simp_all
  rw [hnumber, readDigits]
  -- Letters are digits only of greater bases.
  split
  next d hd =>
    have hge : 10 ≤ d := by
      simp only [digitValue?, hdigit, Bool.false_eq_true, if_false] at hd
      split_ifs at hd <;> cases hd <;> omega
    rw [if_neg (by omega)]
  · rfl

/-- A name whose last label starts with a letter does not have to be an address. -/
theorem isNumeric_intercalate {labels : List (List Char)} {letter : Char} {rest : List Char}
    (h : ∀ label ∈ labels ++ [letter :: rest], Label.IsPlain label)
    (hletter : letter.isLower = true) :
    isNumeric (['.'].intercalate (labels ++ [letter :: rest])) = false := by
  rw [isNumeric, dotted_intercalate (by simp) h]
  simp [readNumber_of_isLower hletter, isDigit_of_isLower hletter]

/-- Four octets as text: decimal numbers without leading zeros, between dots. -/
def octetsText (a b c d : UInt8) : String :=
  ".".intercalate ([a, b, c, d].map fun octet => Decimal.numeral octet.toNat)

/-- The labels of this text. -/
def labels (a b c d : UInt8) : List (List Char) :=
  [a, b, c, d].map fun octet => (Decimal.numeral octet.toNat).toList

/-- An address in dotted form is four labels. -/
theorem toList_octetsText (a b c d : UInt8) :
    (octetsText a b c d).toList = ['.'].intercalate (labels a b c d) := by
  rw [octetsText, String.toList_intercalate, List.map_map]
  rfl

/-- The labels of an address of four octets are plain. -/
theorem isPlain_of_mem_labels {a b c d : UInt8} {label : List Char}
    (h : label ∈ labels a b c d) : Label.IsPlain label := by
  obtain ⟨octet, -, rfl⟩ := List.mem_map.mp h
  refine ⟨by simp [Decimal.toList_numeral], fun c hc => .inr (.inl ?_), ?_⟩
  · exact Decimal.isDigit_of_mem_numeral hc
  · rintro ⟨rest, heq⟩
    have hx : 'x' ∈ (Decimal.numeral octet.toNat).toList := by
      simp [← heq]
    exact Decimal.notMem_numeral rfl hx

/-- Numerals of octets are read back. -/
theorem readNumber_numeral (octet : UInt8) :
    readNumber (Decimal.numeral octet.toNat).toList = some octet.toNat := by
  -- Only numerals with a leading zero would be read in another base.
  have hall : ∀ n < 256, readNumber (Decimal.numeral n).toList = some n := by decide +kernel
  exact hall octet.toNat octet.toNat_lt

/-- A name made of the numerals of four octets ends in a number, so it is read as an address. -/
theorem isNumeric_labels (a b c d : UInt8) :
    isNumeric (['.'].intercalate (labels a b c d)) = true := by
  rw [isNumeric, dotted_intercalate (by simp [labels]) fun _ => isPlain_of_mem_labels]
  simp [labels, readNumber_numeral]

/-- The address of four octets. -/
def ofOctets (a b c d : UInt8) : Ipv4 :=
  ⟨UInt32.ofNat (((a.toNat * 256 + b.toNat) * 256 + c.toNat) * 256 + d.toNat)⟩

/-- An address is written as its octets. -/
theorem render_ofOctets (a b c d : UInt8) : (ofOctets a b c d).render = octetsText a b c d := by
  have hbounds := And.intro a.toNat_lt (And.intro b.toNat_lt (And.intro c.toNat_lt d.toNat_lt))
  have hdigits : ∀ n, n = ((a.toNat * 256 + b.toNat) * 256 + c.toNat) * 256 + d.toNat →
      n % 4294967296 / 16777216 % 256 = a.toNat ∧ n % 4294967296 / 65536 % 256 = b.toNat ∧
        n % 4294967296 / 256 % 256 = c.toNat := by
    omega
  obtain ⟨ha, hb, hc⟩ := hdigits _ rfl
  simp [ofOctets, render, octetsText, octet, List.range_succ, ha, hb, hc]

/-- **Four octets are read back.** -/
theorem read_labels (a b c d : UInt8) :
    read (['.'].intercalate (labels a b c d)) = some (ofOctets a b c d) := by
  have hread : read (['.'].intercalate (labels a b c d))
      = assemble [a.toNat, b.toNat, c.toNat] d.toNat := by
    rw [read, dotted_intercalate (by simp [labels]) fun _ => isPlain_of_mem_labels]
    simp [labels, readNumber_numeral]
  have hbounds := And.intro a.toNat_lt (And.intro b.toNat_lt (And.intro c.toNat_lt d.toNat_lt))
  -- Three octets lead, and the last number fills the one that is left.
  rw [hread, assemble, if_pos]
  · simp [ofOctets]
  · simp
    omega

end Ipv4

/-! ## §4 Hosts -/

/-- Texts of hosts that are in normal form. -/
inductive PlainHost : String → Prop
  /-- A name, whose last label starts with a letter. -/
  | name {labels : List (List Char)} {letter : Char} {rest : List Char}
      (h : ∀ label ∈ labels ++ [letter :: rest], Label.IsPlain label)
      (hletter : letter.isLower = true) :
      PlainHost (String.ofList (['.'].intercalate (labels ++ [letter :: rest])))
  /-- Four octets in decimal. -/
  | address (a b c d : UInt8) : PlainHost (Ipv4.octetsText a b c d)

namespace Host

/-- Plain characters may stand in a domain. -/
theorem IsPlainChar.isDomainChar {c : Char} (h : IsPlainChar c) : isDomainChar c = true := by
  have hrange := h.toNat
  simp [Host.isDomainChar, isReserved, Percent.isPrintable, UInt32.le_iff_toNat_le, h.ne]
  omega

/-- Where there is no escape, nothing is decoded. -/
theorem decode_of_notMem {text : List Char} (h : '%' ∉ text) :
    (Percent.decode (Bytes.ofText (String.ofList text))).toText? = some (String.ofList text) := by
  rw [Percent.decode_of_notMem, Bytes.toText?_ofText]
  intro hsign
  rw [Bytes.ofText_ofList] at hsign
  obtain ⟨c, hc, hnat⟩ := toNat_of_mem_utf8 hsign (by decide)
  have hpercent : c = '%' := Char.toNat_inj.mp hnat
  exact h (hpercent ▸ hc)

/-- Names in ASCII stay as they are until they are taken for addresses. -/
theorem readWeb_name {text : List Char} (hne : text ≠ [])
    (hchars : ∀ c ∈ text, isDomainChar c = true) (hascii : Label.toAscii? text = some text) :
    readWeb text =
      if Ipv4.isNumeric text then (Ipv4.read text).elim (.error .ipv4) fun a => .ok (.v4 a)
      else .ok (.name (String.ofList text)) := by
  have hdomain : text.all isDomainChar = true := List.all_eq_true.mpr hchars
  unfold readWeb
  split
  next => contradiction
  next rest =>
    exact absurd (hchars '[' List.mem_cons_self) (by simp [isDomainChar, isReserved])
  · -- Nothing is escaped, and nothing is changed by the mapping.
    have hsign : '%' ∉ text := fun hc => absurd (hchars '%' hc) (by simp [isDomainChar])
    rw [decode_of_notMem hsign]
    dsimp only
    rw [String.toList_ofList, hascii]
    obtain ⟨first, rest, rfl⟩ := List.exists_cons_of_ne_nil hne
    cases haddress : Ipv4.read (first :: rest) <;> simp [hdomain, haddress]

/-- Names of plain labels stay as they are. -/
theorem readWeb_intercalate {labels : List (List Char)} (hne : labels ≠ [])
    (h : ∀ label ∈ labels, Label.IsPlain label) :
    readWeb (['.'].intercalate labels) =
      if Ipv4.isNumeric (['.'].intercalate labels) then
        (Ipv4.read (['.'].intercalate labels)).elim (.error .ipv4) fun a => .ok (.v4 a)
      else .ok (.name (String.ofList (['.'].intercalate labels))) :=
  readWeb_name (Label.intercalate_ne_nil hne h)
    (fun _ hc => (Label.isPlainChar_of_mem_intercalate h hc).isDomainChar)
    (Label.toAscii?_of_isPlain hne h)

end Host

/-- A plain host has plain characters only. -/
theorem PlainHost.isPlainChar {host : String} (h : PlainHost host) :
    ∀ c ∈ host.toList, Host.IsPlainChar c := by
  cases h with
  | name h hletter =>
    rw [String.toList_ofList]
    exact fun c hc => Label.isPlainChar_of_mem_intercalate h hc
  | address a b c d =>
    rw [Ipv4.toList_octetsText]
    exact fun _ hc =>
      Label.isPlainChar_of_mem_intercalate (fun _ => Ipv4.isPlain_of_mem_labels) hc

/-- A plain host has no colon. -/
theorem PlainHost.notMem_colon {host : String} (h : PlainHost host) : ':' ∉ host.toList :=
  fun hc => (h.isPlainChar ':' hc).ne (by decide) rfl

/-- No plain host is empty. -/
theorem PlainHost.ne_nil {host : String} (h : PlainHost host) : host.toList ≠ [] := by
  cases h with
  | name h hletter =>
    rw [String.toList_ofList]
    exact Label.intercalate_ne_nil (by simp) h
  | address a b c d =>
    rw [Ipv4.toList_octetsText]
    exact Label.intercalate_ne_nil (by simp [Ipv4.labels]) fun _ => Ipv4.isPlain_of_mem_labels

/-- **A plain host is read under a web scheme, and is written as it was.** -/
theorem PlainHost.readWeb {host : String} (h : PlainHost host) :
    ∃ read, Host.readWeb host.toList = .ok read ∧ read.render = host ∧ ∀ a, read ≠ .v6 a := by
  cases h with
  | name h hletter =>
    refine ⟨.name _, ?_, rfl, by simp⟩
    rw [String.toList_ofList, Host.readWeb_intercalate (by simp) h,
      Ipv4.isNumeric_intercalate h hletter]
    rfl
  | address a b c d =>
    refine ⟨.v4 (Ipv4.ofOctets a b c d), ?_, Ipv4.render_ofOctets a b c d, by simp⟩
    rw [Ipv4.toList_octetsText, Host.readWeb_intercalate (by simp [Ipv4.labels])
      fun _ => Ipv4.isPlain_of_mem_labels, if_pos (Ipv4.isNumeric_labels a b c d),
      Ipv4.read_labels]
    rfl

end Shuffle
