import Mathlib
import Shuffle.Proofs.Index.File
import Shuffle.Proofs.Key.Canonical

/-!
# What the format of index files can hold

Whatever is read from an index file came out of fields of a fixed width, so it fits the format. The
file of a log that does not fit is therefore never read back as the log: it is refused, or read with
another schema.

- `SortKey.width` and `KeySchema.width` are the lengths of encoded values and rows.
- `Index.ofFile_ok` is what a read goes through, and `Index.fits_of_ofFile`: what is read fits.
- `IndexFile.length_lt_of_readEntry`: a key that is too long for its length is not read.
- `IndexLog.eq_index_of_ofFile`: a file that is read with the schema of its log is read as the log.
- `IndexLog.ofFile_file_iff`: a log is read back from its file exactly if it fits.
-/

namespace Shuffle

/-! ## §1 Lengths of fields -/

namespace SortKey

/-- The length of an encoded value. -/
def width (key : SortKey) (value : Datum) : Nat :=
  match key.dataType, value with
  | _, .null => 1
  | .int4, _ => 5
  | .int8, _ => 9
  | .float8, _ => 9
  | .text, .text v => 5 + (Bytes.ofText v).length
  | .text, _ => 5

/-- The width of a stored value is the number of octets that it is encoded in. -/
theorem length_encode {key : SortKey} {value : Datum} {field : Bytes}
    (h : key.encode value = .ok field) : field.length = key.width (key.stored value) := by
  unfold encode at h
  split at h
  case h_1 =>
    -- A missing value is one octet in every column.
    cases h
    cases hkey : key.dataType <;> simp [width, stored, hkey]
  case h_6 v hkey =>
    -- A text has its length in front.
    dsimp only at h
    split_ifs at h with hlength
    cases h
    simp only [width, stored, hkey, List.length_cons, List.length_append, Bytes.length_bigEndian]
    omega
  case h_7 => cases h
  -- Numbers have a fixed width.
  all_goals
    rename_i hkey
    cases h
    simp [width, stored, hkey]

end SortKey

namespace KeySchema

/-- The columns of `KeySchema.width`. -/
def widthColumns : List SortKey → List Datum → Nat
  | key :: keys, value :: values => key.width value + widthColumns keys values
  | _, _ => 0

/-- The length of an encoded row. -/
def width (schema : KeySchema) (row : Tuple) : Nat := widthColumns schema.keys row.values

/-- The widths of the columns add up. -/
private theorem length_encodeColumns {keys : List SortKey} {values : List Datum} {key : Bytes}
    (h : encodeColumns keys values = .ok key) :
    key.length = widthColumns keys (List.zipWith SortKey.stored keys values) := by
  induction keys generalizing values key with
  | nil =>
    cases h
    rfl
  | cons k keys ih =>
    cases values with
    | nil =>
      cases h
      rfl
    | cons value values =>
      -- One column, and those behind it.
      obtain ⟨field, hfield, h⟩ := Fallible.bind_eq_ok.mp h
      obtain ⟨rest, hrest, h⟩ := Fallible.bind_eq_ok.mp h
      cases h
      rw [List.length_append, SortKey.length_encode hfield, ih hrest]
      rfl

/-- A key takes its width, whatever its columns. -/
theorem length_encode {schema : KeySchema} {row : Tuple} {key : Bytes}
    (h : schema.encode row = .ok key) : key.length = schema.width (schema.stored row) := by
  unfold encode at h
  split_ifs at h with hsize
  exact length_encodeColumns h

/-- A row that was read is as wide as the octets that it was read from are long. -/
theorem left_of_read {schema : KeySchema} {c c' : Cursor} {row : Tuple}
    (h : schema.read c = .ok (row, c')) : schema.width row + c'.left = c.left := by
  obtain ⟨key, hkey, hrest⟩ := encode_of_read h
  have hwidth := length_encode hkey
  rw [stored_of_read h] at hwidth
  rw [Cursor.left, Cursor.left, hrest, List.length_append, hwidth]

end KeySchema

/-! ## §2 What is read fits -/

namespace IndexFile

/-- A loop reads as many items as it was asked for, each in one of its rounds. -/
theorem readMany_ok {α : Type} {readOne : Cursor → Except IndexError (α × Cursor)} {count : Nat}
    {done items : Array α} {c c' : Cursor}
    (h : readMany readOne count done c = .ok (items, c')) :
    items.size = done.size + count ∧
      ∀ x ∈ items, x ∈ done ∨ ∃ before after, readOne before = .ok (x, after) := by
  induction count generalizing done c with
  | zero =>
    cases h
    exact ⟨rfl, fun x hx => Or.inl hx⟩
  | succ count ih =>
    rw [readMany] at h
    cases hone : readOne c with
    | error fault => rw [hone] at h; cases h
    | ok item =>
      obtain ⟨x, rest⟩ := item
      rw [hone] at h
      obtain ⟨hsize, hall⟩ := ih h
      rw [Array.size_push] at hsize
      refine ⟨by omega, fun y hy => ?_⟩
      -- An item was there before, or it came out of this round or a later one.
      rcases hall y hy with hy | hy
      · rcases Array.mem_push.mp hy with hy | rfl
        · exact Or.inl hy
        · exact Or.inr ⟨c, rest, hone⟩
      · exact Or.inr hy

/-- A name that was read is no longer than its field can say. -/
theorem readColumn_ok {c c' : Cursor} {key : SortKey} (h : readColumn c = .ok (key, c')) :
    (Bytes.ofText key.column).length < UInt16.size := by
  -- The three octets in front of the length do not matter here.
  obtain ⟨⟨tag, c₁⟩, -, h⟩ := Fallible.bind_eq_ok.mp h
  dsimp only at h
  split at h
  case h_1 => cases h
  case h_2 dataType _ =>
    obtain ⟨⟨ascending, c₂⟩, -, h⟩ := Fallible.bind_eq_ok.mp h
    obtain ⟨⟨nullsFirst, c₃⟩, -, h⟩ := Fallible.bind_eq_ok.mp h
    obtain ⟨⟨length, c₄⟩, -, h⟩ := Fallible.bind_eq_ok.mp h
    obtain ⟨⟨name, c₅⟩, hname, h⟩ := Fallible.bind_eq_ok.mp h
    dsimp only at h
    cases hcolumn : Utf8.decode name with
    | error fault => rw [hcolumn] at h; cases h
    | ok column =>
      rw [hcolumn] at h
      cases h
      rw [Utf8.ofText_of_decode hcolumn, (Cursor.take_ok (Fallible.mapError_eq_ok.mp hname)).1]
      exact length.toNat_lt_size

/-- A key that was read has a length that fits its field. -/
theorem readEntry_ok {schema : KeySchema} {c c' : Cursor} {e : IndexEntry}
    (h : readEntry schema c = .ok (e, c')) : schema.width e.key < UInt32.size := by
  obtain ⟨⟨length, c₁⟩, -, h⟩ := Fallible.bind_eq_ok.mp h
  obtain ⟨⟨raw, c₂⟩, hraw, h⟩ := Fallible.bind_eq_ok.mp h
  obtain ⟨⟨key, c₃⟩, hkey, h⟩ := Fallible.bind_eq_ok.mp h
  obtain ⟨⟨offset, c₄⟩, -, h⟩ := Fallible.bind_eq_ok.mp h
  cases h
  -- The row came out of a field whose length was read from four octets.
  have hwidth := KeySchema.left_of_read (Fallible.mapError_eq_ok.mp hkey)
  have hlength := (Cursor.take_ok (Fallible.mapError_eq_ok.mp hraw)).1
  have hlt := length.toNat_lt_size
  simp only [Cursor.start, Cursor.left] at hwidth
  change schema.width key < UInt32.size
  omega

end IndexFile

open IndexFile in
/-- What reading an index file goes through, up to the end of the octets. -/
theorem Index.ofFile_ok {bytes : Bytes} {index : Index} (h : ofFile bytes = .ok index) :
    ∃ (columns : UInt16) (count : UInt64) (keys : Array SortKey) (c₁ c₂ c₃ c₄ c₅ c₆ : Cursor),
      ofShortage ((Cursor.start bytes).take magic.length) = .ok (magic, c₁) ∧
      ofShortage c₁.u8 = .ok (version, c₂) ∧ ofShortage c₂.u16 = .ok (columns, c₃) ∧
      readMany readColumn columns.toNat #[] c₃ = .ok (keys, c₄) ∧ index.schema = ⟨keys.toList⟩ ∧
      ofShortage c₄.u64 = .ok (count, c₅) ∧ count.toNat ≤ c₅.left / smallestEntry ∧
      readMany (readEntry index.schema) count.toNat #[] c₅ = .ok (index.entries, c₆) ∧
      c₆.rest = [] := by
  obtain ⟨⟨magic, c₁⟩, hmagic, h⟩ := Fallible.bind_eq_ok.mp h
  dsimp only at h
  split_ifs at h with hmagicEq
  obtain ⟨⟨version, c₂⟩, hversion, h⟩ := Fallible.bind_eq_ok.mp h
  dsimp only at h
  split_ifs at h with hversionEq
  obtain ⟨⟨columns, c₃⟩, hcolumns, h⟩ := Fallible.bind_eq_ok.mp h
  obtain ⟨⟨keys, c₄⟩, hkeys, h⟩ := Fallible.bind_eq_ok.mp h
  obtain ⟨⟨count, c₅⟩, hcount, h⟩ := Fallible.bind_eq_ok.mp h
  dsimp only at h
  split_ifs at h with hroom
  obtain ⟨⟨entries, c₆⟩, hentries, h⟩ := Fallible.bind_eq_ok.mp h
  dsimp only at h
  split_ifs at h with hdone
  cases h
  -- The first four octets and the version are the only ones there are.
  rw [not_not.mp hmagicEq] at hmagic
  rw [not_not.mp hversionEq] at hversion
  exact ⟨columns, count, keys, c₁, c₂, c₃, c₄, c₅, c₆, hmagic, hversion, hcolumns, hkeys, rfl,
    hcount, Nat.le_of_not_lt hroom, hentries, List.isEmpty_iff.mp hdone⟩

/-- What is read from an index file fits the format. -/
theorem Index.fits_of_ofFile {bytes : Bytes} {index : Index} (h : ofFile bytes = .ok index) :
    index.schema.Fits ∧ index.entries.size < UInt64.size ∧
      ∀ e ∈ index.entries, index.schema.width e.key < UInt32.size := by
  obtain ⟨columns, count, keys, c₁, c₂, c₃, c₄, c₅, c₆, -, -, -, hkeys, hschema, -, -, hentries,
    -⟩ := ofFile_ok h
  -- Every number that was read had to fit its own field.
  obtain ⟨hkeyCount, hcolumn⟩ := IndexFile.readMany_ok hkeys
  obtain ⟨hentryCount, hentry⟩ := IndexFile.readMany_ok hentries
  refine ⟨⟨?columns, ?names⟩, ?count, ?keys⟩
  case columns =>
    rw [hschema, Array.length_toList, hkeyCount, Array.size_empty, Nat.zero_add]
    exact columns.toNat_lt_size
  case names =>
    intro key hkey
    rw [hschema] at hkey
    rcases hcolumn key (Array.mem_toList_iff.mp hkey) with hnone | ⟨before, after, hread⟩
    · simp at hnone
    · exact IndexFile.readColumn_ok hread
  case count =>
    rw [hentryCount, Array.size_empty, Nat.zero_add]
    exact count.toNat_lt_size
  case keys =>
    intro e he
    rcases hentry e he with hnone | ⟨before, after, hread⟩
    · simp at hnone
    · exact IndexFile.readEntry_ok hread

/-- A log fits if the widths of its rows do. -/
theorem IndexLog.fits_of_width {log : IndexLog} (hschema : log.schema.Fits)
    (hkeys : ∀ e ∈ log.entries.toList,
      log.schema.width (log.schema.stored e.key) < UInt32.size)
    (hcount : log.size < UInt64.size) : log.Fits where
  schema := hschema
  keys := fun e he key hkey => by
    rw [KeySchema.length_encode hkey]
    exact hkeys e he
  count := hcount

/-! ## §3 Logs that are read back -/

namespace IndexFile

open Cursor

/-- A number of entries that is too large loses its high bits in the header. -/
theorem header_wrap (schema : KeySchema) (count : Nat) :
    header schema (count % UInt64.size) = header schema count := by
  have hwrap : Bytes.bigEndian 8 (count % UInt64.size) = Bytes.bigEndian 8 count :=
    Bytes.bigEndian_mod 8 count
  rw [header, header, hwrap]

/-- An entry is read only if its key is not too long. A length that lost its high bits leaves a part
of the key to be read, and no part of an encoded row is one. -/
theorem length_lt_of_readEntry {schema : KeySchema} {e x : IndexEntry} {key rest : Bytes}
    {offset : Nat} {c' : Cursor} (hkey : schema.encode e.key = .ok key)
    (h : readEntry schema ⟨offset, written schema e ++ rest⟩ = .ok (x, c')) :
    key.length < UInt32.size := by
  obtain ⟨⟨length, c₁⟩, hlength, h⟩ := Fallible.bind_eq_ok.mp h
  obtain ⟨⟨raw, c₂⟩, hraw, h⟩ := Fallible.bind_eq_ok.mp h
  obtain ⟨⟨row, c₃⟩, hrow, -⟩ := Fallible.bind_eq_ok.mp h
  simp only [written, hkey, entry, List.append_assoc, u32_bigEndian] at hlength
  cases hlength
  obtain ⟨hsize, hrest⟩ := take_ok (Fallible.mapError_eq_ok.mp hraw)
  rw [UInt32.toNat_ofNat'] at hsize
  -- The octets that are taken are a part of the key, as the length did not grow.
  have hpart : raw <+: key := by
    refine List.prefix_of_prefix_length_le ⟨c₂.rest, hrest.symm⟩ (List.prefix_append key _) ?_
    rw [hsize]
    exact Nat.mod_le _ _
  obtain ⟨key', hkey', hfront⟩ := KeySchema.encode_of_read (Fallible.mapError_eq_ok.mp hrow)
  have hsame : key' = key :=
    KeySchema.prefix_free hkey' hkey (List.IsPrefix.trans ⟨c₃.rest, hfront.symm⟩ hpart)
  have hlength : key.length ≤ raw.length := by
    rw [show raw = key' ++ c₃.rest from hfront, hsame, List.length_append]
    exact Nat.le_add_right _ _
  change key.length < 4294967296
  omega

/-- Entries that are read up to the end of the octets are as many as were written, and none has too
long a key. -/
theorem fits_of_readMany {schema : KeySchema} {es : List IndexEntry}
    (hkeys : ∀ e ∈ es, ∃ key, schema.encode e.key = .ok key) {count offset : Nat}
    {done items : Array IndexEntry} {c' : Cursor}
    (h : readMany (readEntry schema) count done ⟨offset, es.flatMap (written schema)⟩
      = .ok (items, c')) (hend : c'.rest = []) :
    count = es.length ∧
      ∀ e ∈ es, ∀ key, schema.encode e.key = .ok key → key.length < UInt32.size := by
  induction es generalizing count done offset with
  | nil =>
    cases count with
    | zero => exact ⟨rfl, by simp⟩
    | succ count =>
      rw [List.flatMap_nil, readMany_readEntry_nil] at h
      cases h
  | cons e es ih =>
    obtain ⟨⟨key, hkey⟩, hrest⟩ := List.forall_mem_cons.mp hkeys
    rw [List.flatMap_cons] at h
    cases count with
    | zero =>
      -- The octets of this entry would be left over.
      cases h
      have hleast := smallestEntry_le_length_written hkey
      rw [(List.append_eq_nil_iff.mp hend).1] at hleast
      exact absurd hleast (by decide)
    | succ count =>
      rw [readMany] at h
      cases hread : readEntry schema ⟨offset, written schema e ++ es.flatMap (written schema)⟩ with
      | error fault => rw [hread] at h; cases h
      | ok item =>
        have hshort := length_lt_of_readEntry hkey hread
        rw [readEntry_written hkey hshort] at h
        obtain ⟨hcount, hall⟩ := ih hrest h
        refine ⟨congrArg Nat.succ hcount, List.forall_mem_cons.mpr ⟨?_, hall⟩⟩
        intro key' hkey'
        cases hkey.symm.trans hkey'
        exact hshort

end IndexFile

open IndexFile in
/-- A log fits if its file is read as an index with the log's schema. -/
theorem IndexLog.fits_of_ofFile {log : IndexLog} {bytes : Bytes} {index : Index}
    (h : log.file = (bytes, none)) (hread : Index.ofFile bytes = .ok index)
    (hschema : index.schema = log.schema) : log.Fits := by
  have hfits : log.schema.Fits := hschema ▸ (Index.fits_of_ofFile hread).1
  obtain ⟨front, back, hsplit, hkeys, hfile, hfault⟩ := log.file_split
  rw [h] at hfile hfault
  obtain rfl : back = [] := hfault.mp rfl
  rw [List.append_nil] at hsplit
  subst hsplit
  obtain rfl : bytes = _ := hfile
  -- What counts is how many entries the header announces.
  have hcount : log.size % UInt64.size < UInt64.size := Nat.mod_lt _ (by decide)
  rw [← header_wrap, ofFile_header hfits hcount] at hread
  split_ifs at hread with hroom
  obtain ⟨⟨entries, c⟩, hentries, hread⟩ := Fallible.bind_eq_ok.mp hread
  dsimp only at hread
  split_ifs at hread with hdone
  obtain ⟨hall, hshort⟩ := fits_of_readMany hkeys hentries (List.isEmpty_iff.mp hdone)
  refine ⟨hfits, hshort, ?_⟩
  rw [size, ← Array.length_toList, ← hall]
  exact hcount

/-- A file that is read with the schema of its log is read as the log. -/
theorem IndexLog.eq_index_of_ofFile {log : IndexLog} {bytes : Bytes} {index : Index}
    (h : log.file = (bytes, none)) (hread : Index.ofFile bytes = .ok index)
    (hschema : index.schema = log.schema) : index = log.index := by
  have hlog := ofFile_file (fits_of_ofFile h hread hschema) h
  exact Except.ok.inj (hread.symm.trans hlog)

/-- **Capacity of index files**: a log is read back from its file exactly if it fits. -/
theorem IndexLog.ofFile_file_iff {log : IndexLog} {bytes : Bytes}
    (h : log.file = (bytes, none)) : Index.ofFile bytes = .ok log.index ↔ log.Fits :=
  ⟨fun hread => fits_of_ofFile h hread rfl, fun hfits => ofFile_file hfits h⟩

end Shuffle
