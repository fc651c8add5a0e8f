import Mathlib
import Shuffle.Key.Codec
import Shuffle.Proofs.Fallible

/-!
# Reading fields back

A cursor that stands before a field answers the field and stands behind it, whatever follows. The
other way round, a cursor that answers a field stood before it. This is the part that all binary
formats share.

- §1 Texts and their octets: `Bytes.toText?_ofText`.
- §2 Fields of a fixed width: `Cursor.take_append`, `Cursor.number_bigEndian` and one lemma for
  each width.
- §3 Fields that were read: `Cursor.take_ok`, `Cursor.number_ok` and one lemma for each width say
  what stood before the cursor.
-/

namespace Shuffle

/-! ## §1 Texts -/

namespace Bytes

/-- The loop collects what is left of the array, `left` octets from position `i` on. -/
private theorem toList_loop (bytes : ByteArray) (left : Nat) :
    ∀ i done, i + left = bytes.size →
      ByteArray.toList.loop bytes i done = done.reverse ++ bytes.data.toList.drop i := by
  -- The position runs upward, so the induction is on what is left behind it.
  induction left with
  | zero =>
    intro i done hi
    have hend : bytes.data.toList.drop i = [] := List.drop_eq_nil_of_le (Nat.le_of_eq hi.symm)
    rw [ByteArray.toList.loop, if_neg (by omega), hend, List.append_nil]
  | succ left ih =>
    intro i done hi
    have hlt : i < bytes.size := by omega
    have hhead : bytes.data.toList.drop i = bytes.get! i :: bytes.data.toList.drop (i + 1) := by
      rw [List.drop_eq_getElem_cons hlt]
      exact congrArg (· :: _) (getElem!_pos bytes.data i hlt).symm
    rw [ByteArray.toList.loop, if_pos hlt, ih (i + 1) _ (by omega), hhead, List.reverse_cons,
      List.append_assoc, List.singleton_append]

/-- The octets of a text are those of its UTF-8 form. -/
theorem ofText_eq_data (text : String) : ofText text = text.toByteArray.data.toList := by
  rw [ofText, String.toUTF8, ByteArray.toList, toList_loop _ _ 0 [] (Nat.zero_add _)]
  rfl

/-- No character is behind the last code point. -/
theorem codePoint_lt (c : Char) : c.val.toNat < 0x110000 := by
  have hvalid : c.val.toNat.isValidChar := c.valid
  unfold Nat.isValidChar at hvalid
  omega

/-- A text is written character by character. -/
theorem ofText_ofList (chars : List Char) :
    ofText (String.ofList chars) = chars.flatMap String.utf8EncodeChar := by
  rw [ofText_eq_data]
  simp [List.utf8Encode]

/-- A text is read back from its octets. -/
theorem toText?_ofText (text : String) : toText? (ofText text) = some text := by
  have hraw : (ofText text).toByteArray = text.toByteArray := by
    rw [ofText_eq_data]
    exact ByteArray.ext (by simp)
  rw [toText?, hraw, String.fromUTF8?, dif_pos text.isValidUTF8]
  rfl

end Bytes

/-- A text is read as it was written. -/
theorem Utf8.decode_ofText (text : String) : Utf8.decode (Bytes.ofText text) = .ok text := by
  rw [Utf8.decode, Bytes.toText?_ofText]

/-- A text that was decoded has the octets it was decoded from. -/
theorem Utf8.ofText_of_decode {bytes : Bytes} {text : String} (h : decode bytes = .ok text) :
    Bytes.ofText text = bytes := by
  unfold decode at h
  split at h
  case h_1 text' htext =>
    cases h
    unfold Bytes.toText? String.fromUTF8? at htext
    split_ifs at htext with hvalid
    cases htext
    rw [Bytes.ofText_eq_data, String.fromUTF8, List.data_toByteArray]
  case h_2 => cases h

/-! ## §2 Fields of a fixed width -/

namespace Cursor

/-- A field is taken whole, and the rest is left. -/
theorem take_append (offset : Nat) (field rest : Bytes) :
    take ⟨offset, field ++ rest⟩ field.length = .ok (field, ⟨offset + field.length, rest⟩) := by
  simp [take]

/-- A big-endian field is read back up to multiples of its range. -/
theorem number_bigEndian (offset width n : Nat) (rest : Bytes) :
    number ⟨offset, Bytes.bigEndian width n ++ rest⟩ width
      = .ok (n % Nat.pow 256 width, ⟨offset + width, rest⟩) := by
  have htake := take_append offset (Bytes.bigEndian width n) rest
  rw [Bytes.length_bigEndian] at htake
  simp only [number, htake, Except.map, Bytes.ofBigEndian_bigEndian]

theorem u8_cons (offset : Nat) (b : UInt8) (rest : Bytes) :
    u8 ⟨offset, b :: rest⟩ = .ok (b, ⟨offset + 1, rest⟩) := by
  simp [u8, number, take, Except.map, Bytes.ofBigEndian]

/-- A number is read modulo the size of its field, since writing cuts it. -/
theorem u16_bigEndian (offset n : Nat) (rest : Bytes) :
    u16 ⟨offset, Bytes.bigEndian 2 n ++ rest⟩ = .ok (UInt16.ofNat n, ⟨offset + 2, rest⟩) := by
  have hwrap : UInt16.ofNat (n % 65536) = UInt16.ofNat n := UInt16.toNat_inj.mp (by simp)
  rw [u16, number_bigEndian]
  exact congrArg (fun v => Except.ok (v, _)) hwrap

theorem u32_bigEndian (offset n : Nat) (rest : Bytes) :
    u32 ⟨offset, Bytes.bigEndian 4 n ++ rest⟩ = .ok (UInt32.ofNat n, ⟨offset + 4, rest⟩) := by
  have hwrap : UInt32.ofNat (n % 4294967296) = UInt32.ofNat n := UInt32.toNat_inj.mp (by simp)
  rw [u32, number_bigEndian]
  exact congrArg (fun v => Except.ok (v, _)) hwrap

theorem u64_bigEndian (offset n : Nat) (rest : Bytes) :
    u64 ⟨offset, Bytes.bigEndian 8 n ++ rest⟩ = .ok (UInt64.ofNat n, ⟨offset + 8, rest⟩) := by
  have hwrap : UInt64.ofNat (n % 18446744073709551616) = UInt64.ofNat n :=
    UInt64.toNat_inj.mp (by simp)
  rw [u64, number_bigEndian]
  exact congrArg (fun v => Except.ok (v, _)) hwrap

end Cursor

/-! ## §3 Fields that were read -/

namespace Bytes

/-- A field holds numbers below its size. -/
theorem ofBigEndian_lt (field : Bytes) : ofBigEndian field < Nat.pow 256 field.length := by
  induction field using List.reverseRecOn with
  | nil => exact Nat.one_pos
  | append_singleton field b ih =>
    have hb := b.toNat_lt
    have hpow : Nat.pow 256 (field.length + 1) = 256 * Nat.pow 256 field.length :=
      Nat.mul_comm _ _
    rw [ofBigEndian_append, List.length_append, List.length_singleton, hpow]
    omega

/-- A field is the big-endian form of the number that it spells. -/
theorem bigEndian_ofBigEndian (field : Bytes) :
    bigEndian field.length (ofBigEndian field) = field := by
  -- The last octet is the low one, and the first to be split off when a number is written.
  induction field using List.reverseRecOn with
  | nil => rfl
  | append_singleton field b ih =>
    have hb := b.toNat_lt
    have hhigh : (ofBigEndian field * 256 + b.toNat) / 256 = ofBigEndian field := by omega
    have hlow : UInt8.ofNat (ofBigEndian field * 256 + b.toNat) = b := by
      apply UInt8.toNat_inj.mp
      rw [UInt8.toNat_ofNat']
      omega
    rw [ofBigEndian_append, List.length_append, List.length_singleton, bigEndian, hhigh, ih, hlow]

/-- Multiples of its range are lost from a number that is written. -/
theorem bigEndian_mod (width n : Nat) :
    bigEndian width (n % Nat.pow 256 width) = bigEndian width n := by
  have hagain := bigEndian_ofBigEndian (bigEndian width n)
  rwa [length_bigEndian, ofBigEndian_bigEndian] at hagain

end Bytes

namespace Cursor

variable {c c' : Cursor}

/-- Octets that were taken stood in front of those that are left. -/
theorem take_ok {count : Nat} {field : Bytes} (h : c.take count = .ok (field, c')) :
    field.length = count ∧ c.rest = field ++ c'.rest := by
  unfold take at h
  dsimp only at h
  split_ifs at h with hlength
  cases h
  exact ⟨hlength, (List.take_append_drop count c.rest).symm⟩

/-- In front of what is left stood the big-endian form of the number that was read. -/
theorem number_ok {width n : Nat} (h : c.number width = .ok (n, c')) :
    n < Nat.pow 256 width ∧ c.rest = Bytes.bigEndian width n ++ c'.rest := by
  obtain ⟨⟨field, rest⟩, htake, heq⟩ := Fallible.map_eq_ok.mp h
  cases heq
  obtain ⟨rfl, hrest⟩ := take_ok htake
  refine ⟨Bytes.ofBigEndian_lt field, ?_⟩
  rw [Bytes.bigEndian_ofBigEndian]
  exact hrest

/-- What a number was read from is what the number is written as. -/
theorem u8_ok {v : UInt8} (h : c.u8 = .ok (v, c')) : c.rest = v :: c'.rest := by
  obtain ⟨⟨n, rest⟩, hnumber, heq⟩ := Fallible.map_eq_ok.mp h
  cases heq
  exact (number_ok hnumber).2

theorem u32_ok {v : UInt32} (h : c.u32 = .ok (v, c')) :
    c.rest = Bytes.bigEndian 4 v.toNat ++ c'.rest := by
  obtain ⟨⟨n, rest⟩, hnumber, heq⟩ := Fallible.map_eq_ok.mp h
  cases heq
  obtain ⟨hlt, hrest⟩ := number_ok hnumber
  rw [UInt32.toNat_ofNat_of_lt' hlt]
  exact hrest

theorem u64_ok {v : UInt64} (h : c.u64 = .ok (v, c')) :
    c.rest = Bytes.bigEndian 8 v.toNat ++ c'.rest := by
  obtain ⟨⟨n, rest⟩, hnumber, heq⟩ := Fallible.map_eq_ok.mp h
  cases heq
  obtain ⟨hlt, hrest⟩ := number_ok hnumber
  rw [UInt64.toNat_ofNat_of_lt' hlt]
  exact hrest

theorem i32_ok {v : Int32} (h : c.i32 = .ok (v, c')) :
    c.rest = Bytes.bigEndian 4 v.toUInt32.toNat ++ c'.rest := by
  obtain ⟨⟨n, rest⟩, hnumber, heq⟩ := Fallible.map_eq_ok.mp h
  cases heq
  exact u32_ok hnumber

theorem i64_ok {v : Int64} (h : c.i64 = .ok (v, c')) :
    c.rest = Bytes.bigEndian 8 v.toUInt64.toNat ++ c'.rest := by
  obtain ⟨⟨n, rest⟩, hnumber, heq⟩ := Fallible.map_eq_ok.mp h
  cases heq
  exact u64_ok hnumber

end Cursor

end Shuffle
