import Mathlib
import Shuffle.Proofs.Key.RoundTrip

/-!
# Each row has one encoded form

Whatever octets are read as a row are the encoded form of that row, so a row that is read is
written again as it was. Together with the round trip, encoded rows and the rows that a schema keeps
correspond one to one.

- `KeySchema.encode_of_read` is the way back, value by value and then column by column.
- `KeySchema.stored_of_read`: rows that are read are as the schema keeps them.
- `KeySchema.codec_bijective` is the correspondence, which respects the order of rows.
-/

namespace Shuffle

open Std

/-! ## §1 Values -/

namespace SortKey

variable {key : SortKey} {c c' : Cursor} {value : Datum}

/-- A value that was read is written as the octets that it was read from. -/
private theorem encode_of_readValue (h : key.readValue c = .ok (value, c')) :
    ∃ field, key.encode value = .ok (valueMarker :: field) ∧ c.rest = field ++ c'.rest := by
  unfold readValue at h
  split at h
  case h_1 hkey =>
    -- The octets of a number that was read are its big-endian form.
    obtain ⟨⟨v, rest⟩, hv, h⟩ := Fallible.bind_eq_ok.mp h
    cases h
    exact ⟨_, by simp [encode, hkey], Cursor.i32_ok (Fallible.mapError_eq_ok.mp hv)⟩
  case h_2 hkey =>
    obtain ⟨⟨v, rest⟩, hv, h⟩ := Fallible.bind_eq_ok.mp h
    cases h
    exact ⟨_, by simp [encode, hkey], Cursor.i64_ok (Fallible.mapError_eq_ok.mp hv)⟩
  case h_3 hkey =>
    obtain ⟨⟨v, rest⟩, hv, h⟩ := Fallible.bind_eq_ok.mp h
    cases h
    exact ⟨_, by simp [encode, hkey], Cursor.u64_ok (Fallible.mapError_eq_ok.mp hv)⟩
  case h_4 hkey =>
    obtain ⟨⟨length, rest⟩, hlength, h⟩ := Fallible.bind_eq_ok.mp h
    obtain ⟨⟨raw, rest'⟩, hraw, h⟩ := Fallible.bind_eq_ok.mp h
    have hlengthRest := Cursor.u32_ok (Fallible.mapError_eq_ok.mp hlength)
    obtain ⟨hsize, hrawRest⟩ := Cursor.take_ok (Fallible.mapError_eq_ok.mp hraw)
    dsimp only at h
    cases htext : Utf8.decode raw with
    | error fault => rw [htext] at h; cases h
    | ok text =>
      rw [htext] at h
      cases h
      -- The length was read from four octets, so it is never too long to be written.
      have hfits : (Bytes.ofText text).length < UInt32.size := by
        rw [Utf8.ofText_of_decode htext, hsize]
        exact length.toNat_lt_size
      refine ⟨Bytes.bigEndian 4 (Bytes.ofText text).length ++ Bytes.ofText text, ?_, ?_⟩
      · simp only [encode, hkey, if_pos hfits]
      · rw [Utf8.ofText_of_decode htext, hsize, List.append_assoc, hlengthRest, hrawRest]

/-- What was read as a value is its encoded form. -/
theorem encode_of_read (h : key.read c = .ok (value, c')) :
    ∃ field, key.encode value = .ok field ∧ c.rest = field ++ c'.rest := by
  obtain ⟨⟨marker, rest⟩, hmarker, h⟩ := Fallible.bind_eq_ok.mp h
  have hrest := Cursor.u8_ok (Fallible.mapError_eq_ok.mp hmarker)
  dsimp only at h
  -- Any other octet in front of a value is refused.
  split_ifs at h with hnull hvalue
  · cases h
    refine ⟨[nullMarker], by rw [encode], ?_⟩
    rw [hrest, hnull]
    rfl
  · obtain ⟨field, hfield, hfieldRest⟩ := encode_of_readValue h
    refine ⟨valueMarker :: field, hfield, ?_⟩
    rw [hrest, hvalue, hfieldRest]
    rfl

end SortKey

/-! ## §2 Rows -/

namespace KeySchema

variable {schema : KeySchema} {c c' : Cursor} {row : Tuple}

/-- The columns of a key that was read, one behind the other, are encoded as they were. -/
private theorem encodeColumns_of_readColumns {keys : List SortKey} {values : List Datum}
    (h : readColumns keys c = .ok (values, c')) :
    values.length = keys.length ∧
      ∃ bytes, encodeColumns keys values = .ok bytes ∧ c.rest = bytes ++ c'.rest := by
  induction keys generalizing c values with
  | nil =>
    cases h
    exact ⟨rfl, [], rfl, rfl⟩
  | cons key keys ih =>
    obtain ⟨⟨value, rest⟩, hvalue, h⟩ := Fallible.bind_eq_ok.mp h
    obtain ⟨⟨more, rest'⟩, hmore, h⟩ := Fallible.bind_eq_ok.mp h
    cases h
    -- Reading is canonical, so there is one way to write what was read.
    obtain ⟨field, hfield, hfieldRest⟩ := SortKey.encode_of_read hvalue
    obtain ⟨hlength, bytes, hbytes, hbytesRest⟩ := ih hmore
    refine ⟨congrArg Nat.succ hlength, field ++ bytes, ?_, ?_⟩
    · simp only [encodeColumns, hfield, hbytes, bind, Except.bind, pure, Except.pure]
    · rw [hfieldRest, hbytesRest, List.append_assoc]

/-- What was read as a row is its encoded form. -/
theorem encode_of_read (h : schema.read c = .ok (row, c')) :
    ∃ bytes, schema.encode row = .ok bytes ∧ c.rest = bytes ++ c'.rest := by
  obtain ⟨⟨values, rest⟩, hvalues, h⟩ := Fallible.bind_eq_ok.mp h
  cases h
  obtain ⟨hlength, bytes, hbytes, hrest⟩ := encodeColumns_of_readColumns hvalues
  have hsize : (Tuple.mk values).size = schema.keys.length := hlength
  exact ⟨bytes, by rw [encode, if_pos hsize, hbytes], hrest⟩

/-- A row that was read is as the schema keeps it. -/
theorem stored_of_read (h : schema.read c = .ok (row, c')) : schema.stored row = row := by
  obtain ⟨bytes, hbytes, hrest⟩ := encode_of_read h
  -- Its encoded form stood before the cursor, and is read as the stored row.
  have hagain := read_encode hbytes c.offset c'.rest
  rw [← hrest] at hagain
  exact (Prod.mk.inj (Except.ok.inj (hagain.symm.trans h))).1

/-- Octets that are read as a row, with none left, are its encoded form. -/
theorem encode_of_decode {bytes : Bytes} (h : schema.decode bytes = .ok row) :
    schema.encode row = .ok bytes := by
  obtain ⟨⟨row', rest⟩, hread, h⟩ := Fallible.bind_eq_ok.mp h
  dsimp only at h
  split_ifs at h with hdone
  cases h
  obtain ⟨key, hkey, hrest⟩ := encode_of_read hread
  rw [List.isEmpty_iff.mp hdone, List.append_nil] at hrest
  exact hkey.trans (congrArg Except.ok hrest.symm)

/-! ## §3 The correspondence -/

/-- **Encoded rows and the rows that a schema keeps correspond one to one.** A row that can be
encoded is read back from its octets as the schema keeps it, which equals the row, and whatever
follows the octets is left; rows that are read back are in the order of the rows that were written;
and octets that are read as a row are the encoded form of that row. -/
theorem codec_bijective (schema : KeySchema) :
    (∀ row bytes, schema.encode row = .ok bytes →
      (∀ offset rest, schema.read ⟨offset, bytes ++ rest⟩
        = .ok (schema.stored row, ⟨offset + bytes.length, rest⟩)) ∧
      schema.decode bytes = .ok (schema.stored row) ∧
      (schema.stored row).same row = true) ∧
    (∀ row row' bytes bytes' kept kept', schema.encode row = .ok bytes →
      schema.encode row' = .ok bytes' → schema.decode bytes = .ok kept →
      schema.decode bytes' = .ok kept' → schema.compare kept kept' = schema.compare row row') ∧
    ∀ bytes row, schema.decode bytes = .ok row → schema.encode row = .ok bytes := by
  refine ⟨?there, ?order, ?back⟩
  case there =>
    intro row bytes h
    exact ⟨read_encode h, decode_encode h, same_stored h⟩
  case order =>
    intro row row' bytes bytes' kept kept' h h' hkept hkept'
    -- Both rows are read back as the schema keeps them.
    obtain rfl : schema.stored row = kept :=
      Except.ok.inj ((decode_encode h).symm.trans hkept)
    obtain rfl : schema.stored row' = kept' :=
      Except.ok.inj ((decode_encode h').symm.trans hkept')
    exact compare_stored schema row row'
  case back =>
    intro bytes row h
    exact encode_of_decode h

/-- Columns of every type, in either direction and with NULLs at either end. -/
def mixedSchema : KeySchema :=
  ⟨[⟨"id", .int8, true, false⟩, ⟨"score", .float8, false, true⟩, ⟨"name", .text, true, false⟩,
    ⟨"part", .int4, false, false⟩]⟩

/-- A small number in a wide column, a NaN with its sign and payload, a text with two octets for
its character, and NULL. -/
def mixedRow : Tuple := ⟨[.int4 (-3), .float8 ⟨0xFFF8000000000001⟩, .text "é", .null]⟩

/-- A larger number in the first column, and other values of the same types. -/
def mixedRow' : Tuple := ⟨[.int8 5, .null, .text "", .int4 9]⟩

/-- Both rows are read back, and the number that is widened still sorts first. -/
theorem codec_bijective_mixed_rows :
    ∃ bytes bytes' kept kept', mixedSchema.encode mixedRow = .ok bytes ∧
      mixedSchema.encode mixedRow' = .ok bytes' ∧
      mixedSchema.read ⟨0, bytes ++ [1, 0]⟩ = .ok (kept, ⟨bytes.length, [1, 0]⟩) ∧
      kept = ⟨[.int8 (-3), .float8 ⟨0xFFF8000000000001⟩, .text "é", .null]⟩ ∧
      mixedSchema.decode bytes = .ok kept ∧ mixedSchema.decode bytes' = .ok kept' ∧
      mixedSchema.encode kept = .ok bytes ∧ mixedSchema.compare kept kept' = .lt := by
  obtain ⟨hthere, horder, hback⟩ := codec_bijective mixedSchema
  have h : mixedSchema.encode mixedRow
      = .ok [0, 255, 255, 255, 255, 255, 255, 255, 253, 0, 255, 248, 0, 0, 0, 0, 0, 1,
        0, 0, 0, 0, 2, 195, 169, 1] := by decide +kernel
  have h' : mixedSchema.encode mixedRow'
      = .ok [0, 0, 0, 0, 0, 0, 0, 0, 5, 1, 0, 0, 0, 0, 0, 0, 0, 0, 0, 9] := by decide +kernel
  obtain ⟨hread, hdecode, -⟩ := hthere _ _ h
  obtain ⟨-, hdecode', -⟩ := hthere _ _ h'
  exact ⟨_, _, _, _, h, h', hread 0 [1, 0], rfl, hdecode, hdecode', hback _ _ hdecode,
    (horder _ _ _ _ _ _ h h' hdecode hdecode').trans (by decide)⟩

end KeySchema

end Shuffle
