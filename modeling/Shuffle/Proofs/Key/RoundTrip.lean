import Mathlib
import Shuffle.Proofs.Fields
import Shuffle.Proofs.Key.Order

/-!
# Keys read back as written

A row that fits a schema is read back from its encoded form, with small whole numbers in the
width of their column. The width makes no difference to the order.

- `KeySchema.stored` is the row that is read back, and `KeySchema.decode_encode` says so.
- `KeySchema.same_stored`: it equals the row that was written.
- `KeySchema.compare_stored`: stored rows compare as the rows themselves.
- `KeySchema.prefix_free`: an encoded row tells its own end.
-/

namespace Shuffle

/-! ## §1 What is read back -/

/-- A value as its column keeps it. -/
def SortKey.stored (key : SortKey) (value : Datum) : Datum :=
  match key.dataType, value with
  | .int8, .int4 v => .int8 v.toInt64
  | _, value => value

/-- The column's width has no part in the order. -/
theorem SortKey.place_stored (key : SortKey) (value : Datum) :
    (key.stored value).place = value.place := by
  unfold SortKey.stored
  split
  · simp [Datum.place]
  · rfl

/-- Storing keeps what is missing, and makes nothing missing. -/
theorem SortKey.isNull_stored (key : SortKey) (value : Datum) :
    (key.stored value).isNull = value.isNull := by
  unfold SortKey.stored
  split <;> rfl

/-- A value sorts as it did when it has been stored. -/
theorem SortKey.compare_stored_left (key : SortKey) (a b : Datum) :
    key.compare (key.stored a) b = key.compare a b := by
  simp only [SortKey.compare, SortKey.isNull_stored, Datum.cmp_eq_compare_place,
    SortKey.place_stored]

@[simp] theorem SortKey.stored_null (key : SortKey) : key.stored .null = .null := by
  cases h : key.dataType <;> simp [SortKey.stored, h]

namespace KeySchema

/-- A row as the schema keeps it. -/
def stored (schema : KeySchema) (row : Tuple) : Tuple :=
  ⟨List.zipWith SortKey.stored schema.keys row.values⟩

/-- Storing a key leaves it at its place in the order. -/
private theorem compareValues_stored_left (keys : List SortKey) (a b : List Datum) :
    compareValues keys (List.zipWith SortKey.stored keys a) b = compareValues keys a b := by
  induction keys generalizing a b with
  | nil => rfl
  | cons key keys ih =>
    -- A value that a row lacks counts as missing, and is missing when it is read back.
    have hhead : (List.zipWith SortKey.stored (key :: keys) a).headD .null
        = key.stored (a.headD .null) := by
      cases a <;> simp
    have htail : (List.zipWith SortKey.stored (key :: keys) a).tail
        = List.zipWith SortKey.stored keys a.tail := by
      cases a <;> simp
    simp only [compareValues, hhead, htail, key.compare_stored_left, ih]

/-- A row sorts among all others as what is stored of it. -/
theorem compare_stored_left (schema : KeySchema) (a b : Tuple) :
    schema.compare (schema.stored a) b = schema.compare a b :=
  compareValues_stored_left schema.keys a.values b.values

/-- Rows compare alike before and after they are stored. -/
theorem compare_stored (schema : KeySchema) (a b : Tuple) :
    schema.compare (schema.stored a) (schema.stored b) = schema.compare a b := by
  have hswap (x y : Tuple) : schema.compare x y = (schema.compare y x).swap :=
    Std.OrientedCmp.eq_swap
  rw [compare_stored_left, hswap, compare_stored_left, ← hswap]

end KeySchema

/-! ## §2 Reading -/

namespace SortKey

/-- The marker of a missing value stands alone. -/
private theorem read_null (key : SortKey) (offset : Nat) (rest : Bytes) :
    key.read ⟨offset, nullMarker :: rest⟩ = .ok (.null, ⟨offset + 1, rest⟩) := by
  rw [read, Cursor.u8_cons]
  rfl

/-- Behind the other marker stands the value. -/
private theorem read_value (key : SortKey) (offset : Nat) (rest : Bytes) :
    key.read ⟨offset, valueMarker :: rest⟩ = key.readValue ⟨offset + 1, rest⟩ := by
  rw [read, Cursor.u8_cons]
  rfl

/-- A number is read from the octets of its two's complement. -/
private theorem readValue_int8 {key : SortKey} (h : key.dataType = .int8) (v : Int64)
    (offset : Nat) (rest : Bytes) :
    key.readValue ⟨offset, Bytes.bigEndian 8 v.toUInt64.toNat ++ rest⟩
      = .ok (.int8 v, ⟨offset + 8, rest⟩) := by
  rw [readValue, h, Cursor.i64, Cursor.u64_bigEndian]
  simp [Except.map, KeyError.ofShortage, Except.mapError, bind, Except.bind, pure, Except.pure]

/-- A text is read by its length, which has to fit the field. -/
private theorem readValue_text {key : SortKey} (h : key.dataType = .text) {v : String}
    (hlen : (Bytes.ofText v).length < UInt32.size) (offset : Nat) (rest : Bytes) :
    key.readValue
        ⟨offset, Bytes.bigEndian 4 (Bytes.ofText v).length ++ (Bytes.ofText v ++ rest)⟩
      = .ok (.text v, ⟨offset + 4 + (Bytes.ofText v).length, rest⟩) := by
  -- The length is read first, and decides how many octets are taken.
  have hwidth : (UInt32.ofNat (Bytes.ofText v).length).toNat = (Bytes.ofText v).length :=
    UInt32.toNat_ofNat_of_lt' hlen
  have htake := Cursor.take_append (offset + 4) (Bytes.ofText v) rest
  rw [readValue, h, Cursor.u32_bigEndian]
  simp only [KeyError.ofShortage, Except.mapError, bind, Except.bind, hwidth, htake,
    Utf8.decode_ofText, pure, Except.pure]

/-- A column is read back from its encoded form, whatever follows. -/
theorem read_encode {key : SortKey} {value : Datum} {field : Bytes}
    (h : key.encode value = .ok field) (offset : Nat) (rest : Bytes) :
    key.read ⟨offset, field ++ rest⟩
      = .ok (key.stored value, ⟨offset + field.length, rest⟩) := by
  unfold encode at h
  split at h
  case h_1 _ _ =>
    -- NULL: one octet, whatever the type of the column.
    cases h
    rw [stored_null]
    exact read_null key offset rest
  case h_2 _ _ v htype =>
    cases h
    rw [List.cons_append, read_value, readValue, htype, Cursor.i32, Cursor.u32_bigEndian]
    simp [Except.map, KeyError.ofShortage, Except.mapError, bind, Except.bind, pure, Except.pure,
      stored, htype, Nat.add_assoc]
  case h_3 _ _ v htype =>
    cases h
    rw [List.cons_append, read_value, readValue_int8 htype]
    simp [stored, htype, Nat.add_assoc]
  case h_4 _ _ v htype =>
    cases h
    rw [List.cons_append, read_value, readValue_int8 htype]
    simp [stored, htype, Nat.add_assoc]
  case h_5 _ _ v htype =>
    cases h
    rw [List.cons_append, read_value, readValue, htype, Cursor.u64_bigEndian]
    simp [KeyError.ofShortage, Except.mapError, bind, Except.bind, pure, Except.pure,
      stored, htype, Nat.add_assoc]
  case h_6 _ _ v htype =>
    dsimp only at h
    split at h
    · next hlen =>
      cases h
      rw [List.cons_append, List.append_assoc, read_value, readValue_text htype hlen]
      simp [stored, htype]
      omega
    · cases h
  case h_7 => cases h

end SortKey

namespace KeySchema

/-- Columns are read one behind the other, and what follows them is left. -/
private theorem readColumns_encodeColumns {keys : List SortKey} {values : List Datum}
    (hlen : values.length = keys.length) {row : Bytes} (h : encodeColumns keys values = .ok row)
    (offset : Nat) (rest : Bytes) :
    readColumns keys ⟨offset, row ++ rest⟩
      = .ok (List.zipWith SortKey.stored keys values, ⟨offset + row.length, rest⟩) := by
  induction keys generalizing values row offset with
  | nil =>
    cases h
    rfl
  | cons key keys ih =>
    cases values with
    | nil => simp at hlen
    | cons value values =>
      rw [encodeColumns] at h
      cases hfield : key.encode value with
      | error fault => simp [hfield, bind, Except.bind] at h
      | ok field =>
        cases hmore : encodeColumns keys values with
        | error fault => simp [hfield, hmore, bind, Except.bind] at h
        | ok more =>
          simp only [hfield, hmore, bind, Except.bind, pure, Except.pure, Except.ok.injEq] at h
          subst h
          -- The first column leaves the cursor in front of the others.
          have hrest := ih (Nat.succ.inj hlen) hmore (offset + field.length)
          rw [List.append_assoc, readColumns, SortKey.read_encode hfield]
          simp [bind, Except.bind, pure, Except.pure, hrest, Nat.add_assoc]

/-- A row is read back from its encoded form, whatever follows. -/
theorem read_encode {schema : KeySchema} {row : Tuple} {key : Bytes}
    (h : schema.encode row = .ok key) (offset : Nat) (rest : Bytes) :
    schema.read ⟨offset, key ++ rest⟩
      = .ok (schema.stored row, ⟨offset + key.length, rest⟩) := by
  rw [encode] at h
  split at h
  · next hsize =>
    rw [read, readColumns_encodeColumns hsize h]
    rfl
  · cases h

/-- A row that fits the schema is read back from its encoded form. -/
theorem decode_encode {schema : KeySchema} {row : Tuple} {key : Bytes}
    (h : schema.encode row = .ok key) : schema.decode key = .ok (schema.stored row) := by
  have hread := read_encode h 0 []
  rw [List.append_nil] at hread
  rw [decode, Cursor.start, hread]
  rfl

/-- No encoded row begins with another one. -/
theorem prefix_free {schema : KeySchema} {row row' : Tuple} {key key' : Bytes}
    (h : schema.encode row = .ok key) (h' : schema.encode row' = .ok key') (hfront : key <+: key') :
    key = key' := by
  obtain ⟨more, rfl⟩ := hfront
  -- Both rows are read from the same octets, so the same octets are left.
  have hread := read_encode h 0 more
  have hread' := read_encode h' 0 []
  rw [List.append_nil, hread] at hread'
  injection hread' with hsame
  injection hsame with _ hleft
  injection hleft with _ hmore
  rw [hmore, List.append_nil]

/-- Only a key with a value for each column is encoded. -/
theorem size_of_encode {schema : KeySchema} {row : Tuple} {bytes : Bytes}
    (h : schema.encode row = .ok bytes) : row.size = schema.keys.length := by
  unfold encode at h
  split_ifs at h with hsize
  exact hsize

/-- A key is the same after storing, value by value. -/
private theorem all_same_stored (keys : List SortKey) (values : List Datum) :
    ((List.zipWith SortKey.stored keys values).zip values).all (fun (x, y) => x.same y) = true := by
  induction keys generalizing values with
  | nil => rfl
  | cons key keys ih =>
    cases values with
    | nil => rfl
    | cons value values =>
      -- A stored value has the place of the value in the order.
      have hsame : (key.stored value).same value = true := by
        rw [Datum.same, Datum.cmp_eq_compare_place, key.place_stored, Std.compare_self]
        rfl
      simp only [List.zipWith_cons_cons, List.zip_cons_cons, List.all_cons, hsame, ih,
        Bool.and_self]

/-- A row equals what the schema keeps of it. -/
theorem same_stored {schema : KeySchema} {row : Tuple} {bytes : Bytes}
    (h : schema.encode row = .ok bytes) : (schema.stored row).same row = true := by
  have hsize := size_of_encode h
  have hkept : (schema.stored row).size = row.size := by
    rw [Tuple.size, stored, List.length_zipWith, ← hsize]
    exact Nat.min_self row.size
  rw [Tuple.same, hkept, beq_self_eq_true, Bool.true_and]
  exact all_same_stored schema.keys row.values

end KeySchema

end Shuffle
