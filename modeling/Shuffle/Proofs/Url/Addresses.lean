import Mathlib
import Shuffle.Proofs.Url.HostNames

/-!
# Numeric addresses are read back

Both kinds of addresses are written in one canonical form, and reading that form gives the address
again. Of an address of eight pieces the longest run of zeros is left out, and the last two pieces
are written as octets where the others say so.

- `Ipv4.read_render` is the round trip of four octets.
- `Ipv6.readPieces_renderPieces` reads pieces behind others, and `Ipv6.longestRun_eq` says what is
  left out.
- `Ipv6.read_renderMixed` is the round trip of eight pieces.
- `Ipv6.IsAddressChar` are the characters of such an address.
-/

namespace Shuffle

/-! ## §1 Four octets -/

namespace Ipv4

/-- Every address is four octets. -/
theorem exists_octets (address : Ipv4) : ∃ a b c d, address = ofOctets a b c d := by
  have hbound := address.value.toNat_lt
  refine ⟨UInt8.ofNat (address.octet 0), UInt8.ofNat (address.octet 1),
    UInt8.ofNat (address.octet 2), UInt8.ofNat (address.octet 3), ?_⟩
  have hvalue : address.value = UInt32.ofNat address.value.toNat := by simp
  rw [ofOctets, Ipv4.mk.injEq, hvalue]
  congr 1
  simp [octet]
  omega

/-- **Addresses of four octets are read back.** -/
theorem read_render (address : Ipv4) : read address.render.toList = some address := by
  obtain ⟨a, b, c, d, rfl⟩ := address.exists_octets
  rw [render_ofOctets, toList_octetsText, read_labels]

/-- Four octets are a plain host. -/
theorem plainHost_render (address : Ipv4) : PlainHost address.render := by
  obtain ⟨a, b, c, d, rfl⟩ := address.exists_octets
  rw [render_ofOctets]
  exact .address a b c d

/-! ## §2 Hexadecimal digits -/

/-- A digit is read back. -/
theorem digitValue?_digitChar : ∀ d < 16, digitValue? (Nat.digitChar d) = some d := by
  decide

/-- Digits are read one part after the other. -/
theorem readDigits_append (base n : Nat) (front back : List Char) :
    readDigits base n (front ++ back)
      = (readDigits base n front).bind fun m => readDigits base m back := by
  induction front generalizing n with
  | nil => rfl
  | cons c rest ih =>
    rw [List.cons_append, readDigits, readDigits]
    split
    · split
      · exact ih _
      · rfl
    · rfl

/-- Hexadecimal digits are read back. -/
theorem readDigits_toDigits (n : Nat) : readDigits 16 0 (Nat.toDigits 16 n) = some n := by
  have hone (m d : Nat) (hd : d < 16) : readDigits 16 m [Nat.digitChar d] = some (m * 16 + d) := by
    simp [readDigits, digitValue?_digitChar d hd, hd]
  induction n using Nat.strong_induction_on with
  | _ n ih =>
    by_cases hsmall : n < 16
    · rw [Nat.toDigits_of_lt_base hsmall, hone 0 n hsmall, Nat.zero_mul, Nat.zero_add]
    · rw [Nat.toDigits_of_base_le (by decide) (by omega), readDigits_append, ih (n / 16) (by omega),
        Option.bind_some, hone _ _ (by omega)]
      congr 1
      omega

end Ipv4

namespace Ipv6

/-- A number is written in hexadecimal digits. -/
theorem isHex_of_mem_toDigits {n : Nat} {c : Char} (h : c ∈ Nat.toDigits 16 n) :
    isHex c = true := by
  have hdigit (d : Nat) (hd : d < 16) : isHex (Nat.digitChar d) = true := by
    rw [isHex, Ipv4.digitValue?_digitChar d hd, Option.isSome_some]
  -- On the number: its last digit is a remainder by 16, the others are those of the quotient.
  induction n using Nat.strong_induction_on with
  | _ n ih =>
    by_cases hsmall : n < 16
    · rw [Nat.toDigits_of_lt_base hsmall, List.mem_singleton] at h
      exact h ▸ hdigit n hsmall
    · rw [Nat.toDigits_of_base_le (by decide) (by omega), List.mem_append,
        List.mem_singleton] at h
      rcases h with h | rfl
      · exact ih (n / 16) (by omega) h
      · exact hdigit _ (by omega)

/-- Decimal digits are hexadecimal ones too. -/
theorem isHex_of_isDigit {c : Char} (h : c.isDigit = true) : isHex c = true := by
  rw [isHex, Ipv4.digitValue?, if_pos h, Option.isSome_some]

/-! ## §3 One piece -/

/-- Texts that are taken for one piece: one to four digits. -/
structure IsPiece (digits : List Char) : Prop where
  nonempty : digits ≠ []
  short : digits.length ≤ 4
  hex : ∀ c ∈ digits, isHex c = true

/-- A piece is written in hexadecimal digits. -/
theorem toList_renderPiece (piece : UInt16) :
    (renderPiece piece).toList = Nat.toDigits 16 piece.toNat := by
  rw [renderPiece, String.toList_ofList]

/-- What is written of a piece can be read as one. -/
theorem isPiece_renderPiece (piece : UInt16) : IsPiece (renderPiece piece).toList := by
  rw [toList_renderPiece]
  refine ⟨Nat.toDigits_ne_nil, ?_, fun c hc => isHex_of_mem_toDigits hc⟩
  exact (Nat.length_toDigits_le_iff (by decide) (by decide)).mpr piece.toNat_lt

/-- The digits of a piece are read back. -/
theorem readDigits_renderPiece (piece : UInt16) :
    Ipv4.readDigits 16 0 (renderPiece piece).toList = some piece.toNat := by
  rw [toList_renderPiece, Ipv4.readDigits_toDigits]

/-- The decimal numeral of an octet could be a piece, if what follows did not tell otherwise. -/
theorem isPiece_numeral (octet : UInt8) : IsPiece (Decimal.numeral octet.toNat).toList := by
  rw [Decimal.toList_numeral]
  refine ⟨Nat.toDigits_ne_nil, ?_, fun c hc => ?_⟩
  · have := octet.toNat_lt
    exact (Nat.length_toDigits_le_iff (by decide) (by decide)).mpr (by omega)
  · exact isHex_of_isDigit (Nat.isDigit_of_mem_toDigits (by decide) (by decide) hc)

/-- A piece goes on up to the first character that is no digit. -/
theorem IsPiece.takeWhile {digits rest : List Char} (h : IsPiece digits)
    (hrest : ∀ c ∈ rest.head?, isHex c = false) :
    ((digits ++ rest).take 4).takeWhile isHex = digits := by
  -- Four characters at most are looked at, and what follows the digits is none of them.
  have hstop : (rest.take (4 - digits.length)).takeWhile isHex = [] := by
    cases rest with
    | nil => rw [List.take_nil, List.takeWhile_nil]
    | cons c more =>
      have hc := hrest c rfl
      cases 4 - digits.length with
      | zero => rfl
      | succ k => rw [List.take_succ_cons, List.takeWhile_cons_of_neg (by simp [hc])]
  rw [List.take_append, List.take_of_length_le h.short, List.takeWhile_append_of_pos h.hex, hstop,
    List.append_nil]

variable {p : Progress} {digits : List Char}

/-- What happens behind the digits of a piece. -/
def behindPiece (p : Progress) (digits rest : List Char) : Option Progress :=
  match rest with
  | [] => if p.pieces.length = 8 then none else (Ipv4.readDigits 16 0 digits).map p.push
  | '.' :: _ =>
    if 6 < p.pieces.length then none
    else (readTail (digits ++ rest)).map fun tail => { p with pieces := p.pieces ++ tail }
  | ':' :: more =>
    if p.pieces.length = 8 ∨ more.isEmpty then none
    else (Ipv4.readDigits 16 0 digits).bind fun piece => readPieces (p.push piece) more
  | _ => none

/-- The digits of a piece are read up to their end. -/
theorem IsPiece.readPieces_append (h : IsPiece digits) {rest : List Char}
    (hrest : ∀ c ∈ rest.head?, isHex c = false) :
    readPieces p (digits ++ rest) = behindPiece p digits rest := by
  have htake := h.takeWhile hrest
  have hdrop : (digits ++ rest).drop digits.length = rest := List.drop_left
  have hne := h.nonempty
  obtain ⟨c, more, rfl⟩ := List.exists_cons_of_ne_nil hne
  have hcolon : c ≠ ':' := by
    rintro rfl
    exact absurd (h.hex ':' List.mem_cons_self) (by decide)
  -- The reader cuts the text at the first character that is no hexadecimal digit. That is where the
  -- piece ends.
  rw [List.cons_append] at htake hdrop ⊢
  rw [readPieces.eq_3 _ _ _ hcolon]
  split
  next heq =>
    rw [htake, hdrop] at heq
    subst heq
    rw [htake]
    rfl
  next tail heq =>
    rw [htake, hdrop] at heq
    subst heq
    rw [htake, List.isEmpty_cons, behindPiece]
    simp only [Bool.false_eq_true, false_or, List.cons_append]
  next tail heq =>
    rw [htake, hdrop] at heq
    subst heq
    rw [htake, List.isEmpty_cons, behindPiece]
    simp only [Bool.false_eq_true, false_or]
  next hnil hdot hcolon =>
    simp only [htake, hdrop] at hnil hdot hcolon
    unfold behindPiece
    split
    · exact absurd rfl hnil
    · exact absurd rfl (hdot _)
    · exact absurd rfl (hcolon _)
    · rfl

/-! ## §4 Pieces between colons -/

/-- Adds pieces. -/
def Progress.append (p : Progress) (pieces : List UInt16) : Progress :=
  { p with pieces := p.pieces ++ pieces.map UInt16.toNat }

/-- Pieces are appended one by one. -/
theorem Progress.append_cons (p : Progress) (piece : UInt16) (pieces : List UInt16) :
    p.append (piece :: pieces) = (p.push piece.toNat).append pieces := by
  simp [append, push]

/-- Pieces, each with a colon behind it. -/
def colons (pieces : List UInt16) : List Char :=
  pieces.flatMap fun piece => (renderPiece piece).toList ++ [':']

/-- Every piece but the last has a colon behind it. -/
theorem toList_renderPieces_concat (pieces : List UInt16) (piece : UInt16) :
    (renderPieces (pieces ++ [piece])).toList = colons pieces ++ (renderPiece piece).toList := by
  rw [renderPieces, String.toList_intercalate, List.map_map]
  induction pieces with
  | nil => simp [colons]
  | cons first rest ih =>
    obtain ⟨next, more, hmore⟩ : ∃ next more, rest ++ [piece] = next :: more :=
      List.exists_cons_of_ne_nil (by simp)
    rw [hmore] at ih
    rw [List.cons_append, hmore, List.map_cons, List.map_cons, List.intercalate_cons_cons,
      ← List.map_cons, ih]
    simp [colons]

/-- Pieces in front of others are read, with the colons behind them. -/
theorem readPieces_colons {pieces : List UInt16} {rest : List Char} (hrest : rest ≠ [])
    (hroom : p.pieces.length + pieces.length ≤ 8) :
    readPieces p (colons pieces ++ rest) = readPieces (p.append pieces) rest := by
  -- On the pieces: each is followed by its colon, and there is something behind that.
  induction pieces generalizing p with
  | nil => simp [colons, Progress.append]
  | cons piece pieces ih =>
    rw [List.length_cons] at hroom
    have hmore : colons pieces ++ rest ≠ [] := by simp [hrest]
    have hcolons : colons (piece :: pieces) ++ rest
        = (renderPiece piece).toList ++ ':' :: (colons pieces ++ rest) := by
      simp [colons]
    rw [hcolons, (isPiece_renderPiece piece).readPieces_append (by simp [isHex]; decide),
      behindPiece, if_neg (by simp [hrest]; omega), readDigits_renderPiece, Option.bind_some,
      ih (by simp [Progress.push]; omega), Progress.append_cons]

/-- Pieces at the end are read as they were written. -/
theorem readPieces_renderPieces {pieces : List UInt16}
    (hroom : p.pieces.length + pieces.length ≤ 8) :
    readPieces p (renderPieces pieces).toList = some (p.append pieces) := by
  -- The last piece stands apart: no colon follows it.
  rcases List.eq_nil_or_concat pieces with rfl | ⟨front, piece, rfl⟩
  · simp [renderPieces, readPieces, Progress.append]
  · rw [List.concat_eq_append, List.length_append, List.length_singleton] at hroom
    have hne := (isPiece_renderPiece piece).nonempty
    have hlast : readPieces (p.append front) (renderPiece piece).toList
        = some ((p.append front).push piece.toNat) := by
      rw [← List.append_nil (renderPiece piece).toList,
        (isPiece_renderPiece piece).readPieces_append (by simp), behindPiece,
        if_neg (by simp [Progress.append]; omega), readDigits_renderPiece, Option.map_some]
    rw [List.concat_eq_append, toList_renderPieces_concat,
      readPieces_colons hne (by omega), hlast]
    simp [Progress.append, Progress.push]

/-! ## §5 The longest run of zeros -/

/-- The longest run is a run of zeros. -/
theorem longestRun_eq {pieces : List UInt16} {position start length : Nat}
    (h : longestRun position pieces = (start, length)) (hlength : 0 < length) :
    ∃ front back, pieces = front ++ List.replicate length 0 ++ back ∧
      start = position + front.length := by
  induction pieces generalizing position with
  | nil =>
    cases h
    contradiction
  | cons piece rest ih =>
    rw [longestRun] at h
    split at h
    · -- The run here is as long as any later one.
      cases h
      refine ⟨[], (piece :: rest).dropWhile (· = 0), ?_, rfl⟩
      have hzeros : (piece :: rest).takeWhile (· = 0)
          = List.replicate ((piece :: rest).takeWhile (· = 0)).length 0 :=
        List.eq_replicate_of_mem fun b hb => by simpa using List.mem_takeWhile_imp hb
      rw [List.nil_append, ← hzeros, List.takeWhile_append_dropWhile]
    · -- A later run is the longest one.
      obtain ⟨front, back, hrest, hstart⟩ := ih h
      refine ⟨piece :: front, back, by rw [hrest]; rfl, ?_⟩
      rw [hstart, List.length_cons]
      omega

/-- The words of an address, once the gap is filled. -/
def Progress.words (p : Progress) : List UInt16 :=
  (p.gap.elim p.pieces fun g =>
    p.pieces.take g ++ List.replicate (8 - p.pieces.length) 0 ++ p.pieces.drop g).map UInt16.ofNat

/-- What has been read is an address if its words are the pieces of one. -/
theorem Progress.close_eq {address : Ipv6} (h : p.words = address.pieces) :
    p.close = some address := by
  have hlength : p.words.length = 8 := h ▸ address.length_eq
  have hclose : p.close = some ⟨p.words, hlength⟩ := by
    rw [close, dif_pos]
    rfl
  rw [hclose, Option.some.injEq]
  obtain ⟨pieces, hpieces⟩ := address
  dsimp only at h
  subst h
  rfl

@[simp]
theorem map_ofNat_toNat (pieces : List UInt16) :
    pieces.map (UInt16.ofNat ∘ UInt16.toNat) = pieces := by
  simp [Function.comp_def]

/-- Without a gap the pieces are all. -/
theorem close_append (address : Ipv6) :
    (Progress.append ⟨[], none⟩ address.pieces).close = some address :=
  Progress.close_eq (by simp [Progress.words, Progress.append])

/-- The gap is filled with as many zeros as were left out. -/
theorem close_skip (address : Ipv6) {front back : List UInt16} {length : Nat}
    (h : address.pieces = front ++ List.replicate length 0 ++ back) (hlength : 0 < length) :
    ((Progress.append ⟨[], none⟩ front).skip.append back).close = some address := by
  have hcount : front.length + length + back.length = 8 := by
    rw [← address.length_eq, h, List.length_append, List.length_append, List.length_replicate]
  -- The skipped gap holds one zero already; closing puts in the others.
  have hfill : 8 - (front.length + (back.length + 1)) = length - 1 := by omega
  have hzeros : List.replicate length (0 : UInt16) = 0 :: List.replicate (length - 1) 0 := by
    rw [← List.replicate_succ, Nat.sub_add_cancel hlength]
  apply Progress.close_eq
  have htake (back : List Nat) : List.take (front.length + 1)
      (front.map UInt16.toNat ++ 0 :: back) = front.map UInt16.toNat ++ [0] := by
    simp [List.take_append]
  simp [Progress.words, Progress.skip, Progress.append, h, hzeros, hfill, htake, List.drop_append]

/-! ## §6 Eight pieces -/

/-- Reading from the first piece on. -/
theorem read_of_head {text : List Char} (h : text.head? ≠ some ':') :
    read text = (readPieces ⟨[], none⟩ text).bind Progress.close := by
  unfold read
  split
  · exact absurd rfl h
  · exact absurd rfl h
  · rw [readPieces]
    rfl
  · rfl

/-- A text that opens with a gap is read from behind the gap on. -/
theorem read_gap (rest : List Char) :
    read (':' :: ':' :: rest) = (readPieces (Progress.skip ⟨[], none⟩) rest).bind Progress.close :=
  rfl

/-- No piece opens with a colon. -/
theorem IsPiece.head?_ne (h : IsPiece digits) (rest : List Char) :
    (digits ++ rest).head? ≠ some ':' := by
  obtain ⟨c, more, rfl⟩ := List.exists_cons_of_ne_nil h.nonempty
  rw [List.cons_append, List.head?_cons, Ne, Option.some.injEq]
  rintro rfl
  exact absurd (h.hex ':' List.mem_cons_self) (by decide)

/-- A text of pieces does not open with a colon. -/
theorem head?_colons_ne {pieces : List UInt16} {rest : List Char}
    (hrest : pieces = [] → rest.head? ≠ some ':') :
    (colons pieces ++ rest).head? ≠ some ':' := by
  cases pieces with
  | nil => exact hrest rfl
  | cons piece pieces =>
    rw [colons, List.flatMap_cons, List.append_assoc, List.append_assoc]
    exact (isPiece_renderPiece piece).head?_ne _

/-- Written pieces do not open with a colon. -/
theorem head?_renderPieces_ne (pieces : List UInt16) :
    (renderPieces pieces).toList.head? ≠ some ':' := by
  rcases List.eq_nil_or_concat pieces with rfl | ⟨front, last, rfl⟩
  · simp [renderPieces]
  · rw [List.concat_eq_append, toList_renderPieces_concat]
    refine head?_colons_ne fun _ => ?_
    simpa using (isPiece_renderPiece last).head?_ne []

/-- With a colon behind the last piece, there is one behind every piece. -/
theorem renderPieces_append_colon {pieces : List UInt16} (hne : pieces ≠ []) (rest : List Char) :
    (renderPieces pieces).toList ++ ':' :: rest = colons pieces ++ rest := by
  obtain ⟨front, last, rfl⟩ := (List.eq_nil_or_concat pieces).resolve_left hne
  simp [toList_renderPieces_concat, colons]

/-- A gap between pieces is read. -/
theorem read_renderPieces_gap {front back : List UInt16}
    (hroom : front.length + 1 + back.length ≤ 8) :
    read ((renderPieces front).toList ++ ':' :: ':' :: (renderPieces back).toList)
      = ((Progress.append ⟨[], none⟩ front).skip.append back).close := by
  have hback : readPieces (Progress.append ⟨[], none⟩ front).skip (renderPieces back).toList
      = some ((Progress.append ⟨[], none⟩ front).skip.append back) :=
    readPieces_renderPieces (by simpa [Progress.append, Progress.skip] using hroom)
  -- A gap at the start has its two colons to itself, any other one shares the first of them with
  -- the piece in front of it.
  by_cases hfront : front = []
  · subst hfront
    have hnil : (renderPieces []).toList = [] := rfl
    rw [hnil, List.nil_append, read_gap]
    have hstart : Progress.append ⟨[], none⟩ [] = ⟨[], none⟩ := rfl
    rw [hstart] at hback ⊢
    rw [hback, Option.bind_some]
  · have hread : readPieces ⟨[], none⟩ (colons front ++ ':' :: (renderPieces back).toList)
        = some ((Progress.append ⟨[], none⟩ front).skip.append back) := by
      rw [readPieces_colons (by simp) (by simp; omega), readPieces, if_neg, hback]
      simp [Progress.append]
      omega
    rw [renderPieces_append_colon hfront, read_of_head (head?_colons_ne fun h => absurd h hfront),
      hread, Option.bind_some]

/-- The shortest form is read back. -/
theorem read_render (address : Ipv6) : read address.render.toList = some address := by
  rw [render]
  rcases hrun : longestRun 0 address.pieces with ⟨start, length⟩
  dsimp only
  split_ifs with hshort
  · -- Without a gap all eight pieces are written.
    rw [read_of_head (head?_renderPieces_ne _), readPieces_renderPieces, Option.bind_some,
      close_append]
    simp [address.length_eq]
  · -- The gap stands for the longest run of zeros, so what is around it determines the address.
    obtain ⟨front, back, hpieces, hstart⟩ := longestRun_eq hrun (by omega)
    have hcount := congrArg List.length hpieces
    rw [address.length_eq, List.length_append, List.length_append, List.length_replicate] at hcount
    have hfront : address.pieces.take start = front := by
      rw [hpieces, hstart]
      simp
    have hback : address.pieces.drop (start + length) = back := by
      rw [hpieces, hstart]
      simp
    rw [hfront, hback]
    have htext : (renderPieces front ++ "::" ++ renderPieces back).toList
        = (renderPieces front).toList ++ ':' :: ':' :: (renderPieces back).toList := by
      simp
    rw [htext, read_renderPieces_gap (by omega), close_skip address hpieces (by omega)]

/-! ## §7 Octets in the place of pieces -/

/-- An octet is read back. -/
theorem readOctet_numeral (octet : UInt8) :
    readOctet (Decimal.numeral octet.toNat).toList = some octet.toNat := by
  have hall : ∀ n < 256, readOctet (Decimal.numeral n).toList = some n := by decide +kernel
  exact hall octet.toNat octet.toNat_lt

/-- Four octets at the end of an address are read as its last two pieces. -/
theorem readTail_labels (a b c d : UInt8) :
    readTail (['.'].intercalate (Ipv4.labels a b c d))
      = some [a.toNat * 256 + b.toNat, c.toNat * 256 + d.toNat] := by
  rw [readTail, Label.splitOn_intercalate (by simp [Ipv4.labels])
    fun _ => Ipv4.isPlain_of_mem_labels]
  simp [Ipv4.labels, readOctet_numeral]

/-- Four octets at the end are two pieces. -/
theorem readPieces_labels (a b c d : UInt8) (hroom : p.pieces.length ≤ 6) :
    readPieces p (['.'].intercalate (Ipv4.labels a b c d))
      = some { p with
        pieces := p.pieces ++ [a.toNat * 256 + b.toNat, c.toNat * 256 + d.toNat] } := by
  have hlabels : ['.'].intercalate (Ipv4.labels a b c d) = (Decimal.numeral a.toNat).toList
      ++ '.' :: ['.'].intercalate [(Decimal.numeral b.toNat).toList,
        (Decimal.numeral c.toNat).toList, (Decimal.numeral d.toNat).toList] := by
    simp [Ipv4.labels, List.intercalate_cons_cons]
  have hread := readTail_labels a b c d
  rw [hlabels] at hread ⊢
  rw [(isPiece_numeral a).readPieces_append (by simp [isHex]; decide), behindPiece,
    if_neg (by omega), hread, Option.map_some]

/-- An address that holds another is written with that one at the end. -/
theorem mapped?_eq_some {address : Ipv6} {held : Ipv4} (h : address.mapped? = some held) :
    ∃ a b c d : UInt8, held = Ipv4.ofOctets a b c d ∧
      address.pieces = [0, 0, 0, 0, 0, 0xFFFF, UInt16.ofNat (a.toNat * 256 + b.toNat),
        UInt16.ofNat (c.toNat * 256 + d.toNat)] := by
  unfold mapped? at h
  split at h
  next high low hpieces =>
    cases h
    obtain ⟨a, b, c, d, hoctets⟩ :=
      Ipv4.exists_octets ⟨UInt32.ofNat (high.toNat * 65536 + low.toNat)⟩
    refine ⟨a, b, c, d, hoctets, ?_⟩
    -- Two pieces and four octets are the same word of 32 bits.
    have hhalves (x y w z n : Nat) (hx : x < 65536) (hy : y < 65536) (hw : w < 65536)
        (hz : z < 65536) (hn : n = w * 65536 + z) (heq : (x * 65536 + y) % 2 ^ 32 = n % 2 ^ 32) :
        w = x ∧ z = y := by
      omega
    rw [Ipv4.ofOctets, Ipv4.mk.injEq, ← UInt32.toNat_inj, UInt32.toNat_ofNat',
      UInt32.toNat_ofNat'] at hoctets
    have hpiece (m n : UInt8) : m.toNat * 256 + n.toNat < 65536 := by
      have hm := m.toNat_lt
      have hn := n.toNat_lt
      omega
    obtain ⟨hhigh, hlow⟩ := hhalves _ _ _ _ _ high.toNat_lt low.toNat_lt (hpiece a b)
      (hpiece c d) (by ring) hoctets
    simp only [hpieces, hhigh, hlow, UInt16.ofNat_toNat]
  · cases h

/-- **Addresses of eight pieces are read back**, with and without octets at their end. -/
theorem read_renderMixed (address : Ipv6) : read address.renderMixed.toList = some address := by
  rw [renderMixed]
  split
  next held hheld =>
    obtain ⟨a, b, c, d, rfl, hpieces⟩ := mapped?_eq_some hheld
    -- An address that holds one of four octets is written with a gap in front and with these octets
    -- at its end.
    have htext : ("::ffff:" ++ (Ipv4.ofOctets a b c d).render).toList
        = ':' :: ':' :: (colons [0xFFFF] ++ ['.'].intercalate (Ipv4.labels a b c d)) := by
      rw [String.toList_append, Ipv4.render_ofOctets, Ipv4.toList_octetsText]
      rfl
    have hne : ['.'].intercalate (Ipv4.labels a b c d) ≠ [] :=
      Label.intercalate_ne_nil (by simp [Ipv4.labels]) fun _ => Ipv4.isPlain_of_mem_labels
    rw [htext, read_gap, readPieces_colons hne (by simp [Progress.skip]),
      readPieces_labels a b c d (by simp [Progress.skip, Progress.append]), Option.bind_some]
    apply Progress.close_eq
    rw [hpieces]
    simp [Progress.words, Progress.skip, Progress.append]
  · exact read_render address

/-! ## §8 Characters -/

/-- A character of an address of eight pieces. -/
def IsAddressChar (c : Char) : Prop := isHex c = true ∨ c = ':' ∨ c = '.'

/-- The numbers of these characters. -/
theorem IsAddressChar.toNat {c : Char} (h : IsAddressChar c) :
    (46 ≤ c.toNat ∧ c.toNat ≤ 58 ∧ c.toNat ≠ 47) ∨ (65 ≤ c.toNat ∧ c.toNat ≤ 70) ∨
      (97 ≤ c.toNat ∧ c.toNat ≤ 102) := by
  rcases h with hhex | rfl | rfl
  · unfold isHex Ipv4.digitValue? at hhex
    -- A decimal digit, or a letter of either case.
    split_ifs at hhex with hdigit hlower hupper
    · simp only [Char.isDigit, Bool.and_eq_true, decide_eq_true_eq, ge_iff_le,
        UInt32.le_iff_toNat_le] at hdigit
      have hrange : 48 ≤ c.toNat ∧ c.toNat ≤ 57 := hdigit
      omega
    · have hrange : 97 ≤ c.toNat ∧ c.toNat ≤ 102 := hlower
      omega
    · have hrange : 65 ≤ c.toNat ∧ c.toNat ≤ 70 := hupper
      omega
    · cases hhex
  · decide
  · decide

/-- Pieces are written in digits and colons. -/
theorem isAddressChar_of_mem_renderPieces {pieces : List UInt16} {c : Char}
    (h : c ∈ (renderPieces pieces).toList) : IsAddressChar c := by
  rw [renderPieces, String.toList_intercalate, List.map_map] at h
  rcases mem_intercalate h with hc | ⟨text, htext, hc⟩
  · exact .inr (.inl (List.mem_singleton.mp hc))
  · obtain ⟨piece, -, rfl⟩ := List.mem_map.mp htext
    exact .inl ((isPiece_renderPiece piece).hex c hc)

/-- An address is written in digits, colons and dots. -/
theorem isAddressChar_of_mem_renderMixed {address : Ipv6} {c : Char}
    (h : c ∈ address.renderMixed.toList) : IsAddressChar c := by
  have hmark {d : Char} (hd : d = ':' ∨ d = 'f') : IsAddressChar d := by
    rcases hd with rfl | rfl
    · exact .inr (.inl rfl)
    · exact .inl rfl
  rw [renderMixed] at h
  split at h
  -- The last two pieces stand as an address in dotted form.
  next held _ =>
    obtain ⟨w, x, y, z, rfl⟩ := held.exists_octets
    rw [String.toList_append, Ipv4.render_ofOctets, Ipv4.toList_octetsText,
      List.mem_append] at h
    rcases h with h | h
    · have hall : ∀ d ∈ [':', ':', 'f', 'f', 'f', 'f', ':'], d = ':' ∨ d = 'f' := by simp
      exact hmark (hall c h)
    · rcases mem_intercalate h with hc | ⟨label, hlabel, hc⟩
      · exact .inr (.inr (List.mem_singleton.mp hc))
      · obtain ⟨octet, -, rfl⟩ := List.mem_map.mp hlabel
        exact .inl ((isPiece_numeral octet).hex c hc)
  next =>
    rw [render] at h
    dsimp only at h
    split_ifs at h
    · exact isAddressChar_of_mem_renderPieces h
    · rw [String.toList_append, String.toList_append, List.mem_append, List.mem_append] at h
      rcases h with (h | h) | h
      · exact isAddressChar_of_mem_renderPieces h
      · exact hmark (.inl (by simpa using h))
      · exact isAddressChar_of_mem_renderPieces h

/-- Every address of eight pieces has a colon. -/
theorem colon_mem_renderMixed (address : Ipv6) : ':' ∈ address.renderMixed.toList := by
  rw [renderMixed]
  split
  · simp
  · rw [render]
    dsimp only
    split_ifs
    · have hlength := address.length_eq
      match address.pieces, hlength with
      | first :: second :: rest, _ => simp [renderPieces]
    · simp

end Ipv6

end Shuffle
