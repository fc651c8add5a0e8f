import Mathlib
import Shuffle.Proofs.Index.Log
import Shuffle.Proofs.Key.RoundTrip

/-!
# Index files read back as written

The file of a log is read back as an index with the log's schema and entries, as long as every
number fits its field. `IndexLog.Fits` lists the fields; a number that does not fit loses its high
bits without notice.

- `IndexFile.readMany_flatMap` is the loop that both lists of the format share.
- `IndexFile.ofFile_columns`: which columns a file is read from, whether or not their number fits.
- `IndexFile.ofFile_header`: the header is read back, and the rest is read as entries.
- `IndexLog.file_split` says how far a log is written.
- `IndexLog.ofFile_file` is the round trip.
-/

namespace Shuffle

/-! ## §1 What a file can hold -/

/-- The number of columns and the length of each name fit in two octets. -/
structure KeySchema.Fits (schema : KeySchema) : Prop where
  columns : schema.keys.length < UInt16.size
  names : ∀ key ∈ schema.keys, (Bytes.ofText key.column).length < UInt16.size

/-- The schema fits, the length of each encoded key fits in four octets, and the number of entries
in eight. -/
structure IndexLog.Fits (log : IndexLog) : Prop where
  schema : log.schema.Fits
  keys : ∀ e ∈ log.entries.toList, ∀ key, log.schema.encode e.key = .ok key →
    key.length < UInt32.size
  count : log.size < UInt64.size

/-- An entry as it is read back. -/
def KeySchema.storedEntry (schema : KeySchema) (e : IndexEntry) : IndexEntry :=
  ⟨schema.stored e.key, e.offset⟩

/-- The index that a log is read back as. -/
def IndexLog.index (log : IndexLog) : Index :=
  ⟨log.schema, log.entries.map log.schema.storedEntry⟩

/-- The entries of the index are those of the log, as they are stored. -/
theorem IndexLog.toList_index (log : IndexLog) :
    log.index.entries.toList = log.entries.toList.map log.schema.storedEntry :=
  Array.toList_map

/-- Entries that rise still do when they are read back. -/
theorem IndexLog.rising_index {log : IndexLog} (h : log.schema.Rising log.entries.toList) :
    log.schema.Rising log.index.entries.toList := by
  rw [toList_index]
  refine List.pairwise_map.mpr (h.imp ?_)
  rintro a b ⟨hkey, hoffset⟩
  exact ⟨(log.schema.compare_stored a.key b.key).trans hkey, hoffset⟩

namespace IndexFile

/-! ## §2 Columns and entries -/

/-- A loop may be cut in two. -/
theorem readMany_add {α : Type} (readOne : Cursor → Except IndexError (α × Cursor)) (m n : Nat)
    (done : Array α) (c : Cursor) :
    readMany readOne (m + n) done c
      = readMany readOne m done c >>= fun (items, c) => readMany readOne n items c := by
  induction m generalizing done c with
  | zero => rw [Nat.zero_add]; rfl
  | succ m ih =>
    rw [Nat.succ_add, readMany, readMany]
    cases readOne c with
    | error fault => rfl
    | ok item => exact ih _ _

/-- Items are read back one after the other if each is, whatever follows it. -/
theorem readMany_flatMap {α β : Type} {readOne : Cursor → Except IndexError (α × Cursor)}
    {write : β → Bytes} (kept : β → α) {items : List β}
    (h : ∀ x ∈ items, ∀ offset rest, readOne ⟨offset, write x ++ rest⟩
      = .ok (kept x, ⟨offset + (write x).length, rest⟩))
    (done : Array α) (offset : Nat) (rest : Bytes) :
    readMany readOne items.length done ⟨offset, items.flatMap write ++ rest⟩
      = .ok (done ++ (items.map kept).toArray,
          ⟨offset + (items.flatMap write).length, rest⟩) := by
  induction items generalizing done offset with
  | nil => simp [readMany]
  | cons x items ih =>
    -- What follows the first item is the other items and the rest.
    have hx := h x List.mem_cons_self offset (items.flatMap write ++ rest)
    have hmore := ih (fun y hy => h y (List.mem_cons_of_mem x hy))
    rw [List.length_cons, List.flatMap_cons, List.append_assoc, readMany, hx]
    simp [hmore, Nat.add_assoc]

/-- A flag is read as it was written. -/
theorem decide_flag_ne_zero (b : Bool) : decide (flag b ≠ 0) = b := by cases b <;> rfl

/-- A column is read back if its name is not too long. -/
theorem readColumn_column {key : SortKey} (h : (Bytes.ofText key.column).length < UInt16.size)
    (offset : Nat) (rest : Bytes) :
    readColumn ⟨offset, column key ++ rest⟩
      = .ok (key, ⟨offset + (column key).length, rest⟩) := by
  -- The length of the name is the only number of the column that may wrap.
  have hlen : (UInt16.ofNat (Bytes.ofText key.column).length).toNat
      = (Bytes.ofText key.column).length := UInt16.toNat_ofNat_of_lt' h
  have htake := Cursor.take_append (offset + 5) (Bytes.ofText key.column) rest
  simp only [readColumn, column, List.cons_append, List.append_assoc, Cursor.u8_cons, ofShortage,
    Except.mapError, bind, Except.bind, DataType.ofTag?_tag, Cursor.u16_bigEndian, hlen, htake,
    Utf8.decode_ofText, pure, Except.pure, decide_flag_ne_zero]
  simp only [List.length_cons, List.length_append, Bytes.length_bigEndian]
  congr 3
  omega

/-- The octets of an entry whose key fits the schema. -/
def written (schema : KeySchema) (e : IndexEntry) : Bytes :=
  match schema.encode e.key with
  | .ok key => entry key e.offset
  | .error _ => []

/-- Entries are written up to the first one whose key does not fit the schema. -/
theorem entries_split (schema : KeySchema) (es : List IndexEntry) :
    ∃ front back, es = front ++ back ∧ (∀ e ∈ front, ∃ key, schema.encode e.key = .ok key) ∧
      (entries schema es).1 = front.flatMap (written schema) ∧
      ((entries schema es).2 = none ↔ back = []) := by
  induction es with
  | nil => exact ⟨[], [], rfl, by simp, rfl, by simp [entries]⟩
  | cons e es ih =>
    cases hkey : schema.encode e.key with
    | error fault =>
      -- The fault ends the list in front of this entry.
      exact ⟨[], e :: es, rfl, by simp, by simp [entries, hkey], by simp [entries, hkey]⟩
    | ok key =>
      obtain ⟨front, back, hsplit, hkeys, hbody, hfault⟩ := ih
      refine ⟨e :: front, back, by rw [hsplit, List.cons_append], ?_, ?_, ?_⟩
      · intro x hx
        rcases List.mem_cons.mp hx with rfl | hx
        · exact ⟨key, hkey⟩
        · exact hkeys x hx
      · simp only [entries, hkey, hbody, List.flatMap_cons, written]
      · simp only [entries, hkey, hfault]

/-- An entry is read back if its key is not too long. -/
theorem readEntry_written {schema : KeySchema} {e : IndexEntry} {key : Bytes}
    (hkey : schema.encode e.key = .ok key) (hlen : key.length < UInt32.size) (offset : Nat)
    (rest : Bytes) :
    readEntry schema ⟨offset, written schema e ++ rest⟩
      = .ok (schema.storedEntry e, ⟨offset + (written schema e).length, rest⟩) := by
  -- The reader opens a cursor of its own on the octets of the key.
  have hwidth : (UInt32.ofNat key.length).toNat = key.length := UInt32.toNat_ofNat_of_lt' hlen
  have htake := Cursor.take_append (offset + 4) key (Bytes.bigEndian 8 e.offset.toNat ++ rest)
  have hread := KeySchema.read_encode hkey 0 []
  rw [List.append_nil] at hread
  simp only [readEntry, written, hkey, entry, List.append_assoc, Cursor.u32_bigEndian, ofShortage,
    Except.mapError, bind, Except.bind, hwidth, htake, Cursor.start, hread, Cursor.u64_bigEndian,
    UInt64.ofNat_toNat, pure, Except.pure, KeySchema.storedEntry]
  simp [Nat.add_assoc]

/-- Where the file ends an entry is missed by its length. -/
theorem readMany_readEntry_nil (schema : KeySchema) (count : Nat) (done : Array IndexEntry)
    (offset : Nat) :
    readMany (readEntry schema) (count + 1) done ⟨offset, []⟩
      = .error (.key (.shortage ⟨4, offset, 0⟩)) := rfl

/-- No entry is smaller than its two lengths. -/
theorem smallestEntry_le_length_written {schema : KeySchema} {e : IndexEntry} {key : Bytes}
    (hkey : schema.encode e.key = .ok key) : smallestEntry ≤ (written schema e).length := by
  simp only [smallestEntry, written, hkey, entry, List.length_append, Bytes.length_bigEndian]
  omega

/-- The count of entries that were written is within what their octets allow. -/
private theorem length_written_mul_le {schema : KeySchema} {es : List IndexEntry}
    (h : ∀ e ∈ es, ∃ key, schema.encode e.key = .ok key) :
    smallestEntry * es.length ≤ (es.flatMap (written schema)).length := by
  induction es with
  | nil => simp
  | cons e es ih =>
    obtain ⟨key, hkey⟩ := h e List.mem_cons_self
    have hhead := smallestEntry_le_length_written hkey
    have htail := ih fun x hx => h x (List.mem_cons_of_mem e hx)
    simp only [List.length_cons, List.flatMap_cons, List.length_append, Nat.mul_succ]
    omega

/-! ## §3 Files -/

/-- The length of a header is that of its columns and of four fields. -/
theorem length_header (schema : KeySchema) (count : Nat) :
    (header schema count).length = 4 + 1 + 2 + (schema.keys.flatMap column).length + 8 := by
  simp only [header, magic, List.length_append, List.length_cons, List.length_nil,
    Bytes.length_bigEndian]
  omega

/-- Reads what stands behind the columns of a file: the number of entries, and these. -/
def readRest (schema : KeySchema) (c : Cursor) : Except IndexError Index := do
  let (count, c) ← ofShortage c.u64
  if c.left / smallestEntry < count.toNat then .error (.entryCount count.toNat) else
  let (entries, c) ← readMany (readEntry schema) count.toNat #[] c
  if c.isDone then return ⟨schema, entries⟩ else .error (.trailing c.left)

/-- A file that begins with a header is read from its columns on. Of their number only the low
octets are there. -/
theorem ofFile_columns (schema : KeySchema) (count : Nat) (body : Bytes) :
    Index.ofFile (header schema count ++ body) =
      readMany readColumn (schema.keys.length % UInt16.size) #[]
          ⟨7, schema.keys.flatMap column ++ (Bytes.bigEndian 8 count ++ body)⟩ >>=
        fun (keys, c) => readRest ⟨keys.toList⟩ c := by
  have hmagic (rest : Bytes) :
      (Cursor.start (magic ++ rest)).take magic.length = .ok (magic, ⟨4, rest⟩) :=
    Cursor.take_append 0 magic rest
  have hcolumns : (UInt16.ofNat schema.keys.length).toNat = schema.keys.length % UInt16.size :=
    UInt16.toNat_ofNat'
  simp only [Index.ofFile, header, List.append_assoc, List.cons_append, hmagic, ofShortage,
    Except.mapError, bind, Except.bind, Cursor.u8_cons, Cursor.u16_bigEndian, hcolumns]
  rw [if_neg (not_not_intro rfl), if_neg (not_not_intro rfl)]
  rfl

/-- The header is read back if it fits, and leaves what follows it to be read as entries. -/
theorem ofFile_header {schema : KeySchema} (hfits : schema.Fits) {count : Nat}
    (hcount : count < UInt64.size) (body : Bytes) :
    Index.ofFile (header schema count ++ body) =
      if body.length / smallestEntry < count then .error (.entryCount count)
      else
        readMany (readEntry schema) count #[] ⟨(header schema count).length, body⟩ >>=
          fun (entries, c) =>
            if c.isDone then .ok ⟨schema, entries⟩ else .error (.trailing c.left) := by
  -- The columns fit their fields, so they are read as they were written.
  have hcolumns := readMany_flatMap (fun key => key) (fun key hkey =>
    readColumn_column (hfits.names key hkey)) #[] 7 (Bytes.bigEndian 8 count ++ body)
  have hschema : (⟨(#[] ++ (schema.keys.map fun key => key).toArray).toList⟩ : KeySchema)
      = schema := by
    simp
  have hentryCount : (UInt64.ofNat count).toNat = count := UInt64.toNat_ofNat_of_lt' hcount
  rw [ofFile_columns, Nat.mod_eq_of_lt hfits.columns, hcolumns, length_header]
  simp only [bind, Except.bind, readRest, ofShortage, Except.mapError, Cursor.u64_bigEndian,
    hentryCount, hschema, Cursor.left, pure, Except.pure]

end IndexFile

namespace IndexLog

/-- The file of a log is the header, which counts all entries, and the entries in front of the
first one whose key does not fit the schema. -/
theorem file_split (log : IndexLog) :
    ∃ front back, log.entries.toList = front ++ back ∧
      (∀ e ∈ front, ∃ key, log.schema.encode e.key = .ok key) ∧
      log.file.1 = IndexFile.header log.schema log.size
        ++ front.flatMap (IndexFile.written log.schema) ∧
      (log.file.2 = none ↔ back = []) := by
  obtain ⟨front, back, hsplit, hkeys, hbody, hfault⟩ :=
    IndexFile.entries_split log.schema log.entries.toList
  exact ⟨front, back, hsplit, hkeys, congrArg (IndexFile.header log.schema log.size ++ ·) hbody,
    hfault⟩

open IndexFile in
/-- **Round trip of index files**: the file of a log is read back as the log's schema and entries,
as long as all of it fits the fields of the format. -/
theorem ofFile_file {log : IndexLog} (hfits : log.Fits) {bytes : Bytes}
    (h : log.file = (bytes, none)) : Index.ofFile bytes = .ok log.index := by
  obtain ⟨front, back, hsplit, hkeys, hfile, hfault⟩ := log.file_split
  rw [h] at hfile hfault
  obtain rfl : back = [] := hfault.mp rfl
  rw [List.append_nil] at hsplit
  subst hsplit
  obtain rfl : bytes = _ := hfile
  have hentries := readMany_flatMap log.schema.storedEntry (fun e he => by
    obtain ⟨key, hkey⟩ := hkeys e he
    exact readEntry_written hkey (hfits.keys e he key hkey))
  have hkept : (log.entries.toList.map log.schema.storedEntry).toArray
      = log.entries.map log.schema.storedEntry := by
    rw [← List.map_toArray, Array.toArray_toList]
  -- Each entry takes the least room that the reader expects, so the count is not refused.
  have hroom : ¬ (log.entries.toList.flatMap (written log.schema)).length / smallestEntry
      < log.size := by
    have hleast := length_written_mul_le hkeys
    rw [Array.length_toList] at hleast
    exact Nat.not_lt.mpr ((Nat.le_div_iff_mul_le (by decide)).mpr (Nat.mul_comm _ _ ▸ hleast))
  have hall := hentries #[] (header log.schema log.size).length []
  rw [List.append_nil, Array.length_toList] at hall
  rw [ofFile_header hfits.schema hfits.count, if_neg hroom]
  change (readMany (readEntry log.schema) log.entries.size _ _ >>= _) = _
  rw [hall]
  simp [Cursor.isDone, index, bind, Except.bind, hkept]

end IndexLog

end Shuffle
