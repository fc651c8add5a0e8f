import Mathlib
import Shuffle.Index.File
import Shuffle.Proofs.Index.KeyFields
import Shuffle.Proofs.Store.Put
import Shuffle.Proofs.Text.Form

/-!
# Schemas that are too long for an index file

An index file has two octets for the number of columns and two for the length of each name. A number
that is too large for them is written all the same, without its high octets. The writer does not
notice, so it says that the index is saved, and the reader finds something else: names that are cut
off, fewer columns, or no index at all.

- `IndexLog.RefusedOrKept` is what a writer would be trusted for, and `IndexLog.refusedOrKept_iff`
  when that holds.
- `KeySchema.GarbledTo` is what is left of a schema that is too long.
- `IndexFile.ofFile_of_names_fit`: too many columns are found out if their names fit.
- `IndexLog.ofFile_spellingKey`: a name that is too long can be read as another index.
- `IndexLog.overlong_lost` says what becomes of logs that are too long.
-/

namespace Shuffle

/-! ## §1 Saving -/

/-- A file is cut short exactly if there is a key that cannot be encoded. -/
theorem IndexFile.entries_fault_iff {schema : KeySchema} {es : List IndexEntry} :
    (entries schema es).2 ≠ none ↔ ∃ e ∈ es, ∃ fault, schema.encode e.key = .error fault := by
  induction es with
  | nil => simp [entries]
  | cons e es ih =>
    cases hkey : schema.encode e.key with
    | error fault => simp [entries, hkey]
    | ok key => simpa [entries, hkey] using ih

namespace IndexLog

variable {log : IndexLog} {store after : FileStore} {path : Path}

/-- An index is saved if its file can be made and written to its end. -/
theorem save_eq_ok_iff :
    log.save store path = (after, none) ↔
      store.write path log.file.1 = .ok after ∧ log.file.2 = none := by
  unfold save
  rcases log.file with ⟨content, fault⟩
  dsimp only
  cases store.write path content with
  | error e => simp
  | ok store => simp

/-- Nothing else keeps an index from being saved, whatever its lengths are. -/
theorem save_fault_iff :
    (log.save store path).2 ≠ none ↔
      (∃ fault, store.write path log.file.1 = .error fault) ∨
        ∃ e ∈ log.entries.toList, ∃ fault, log.schema.encode e.key = .error fault := by
  have hfault : log.file.2 ≠ none ↔
      ∃ e ∈ log.entries.toList, ∃ fault, log.schema.encode e.key = .error fault :=
    IndexFile.entries_fault_iff
  rw [← hfault]
  unfold save
  -- A fault of the store is reported before the fault of a key.
  rcases log.file with ⟨content, fault⟩
  dsimp only
  cases store.write path content with
  | error e => simp
  | ok store => simp

/-- Saving says that it failed, or leaves a file that is read as the log. -/
def RefusedOrKept (log : IndexLog) (store : FileStore) (path : Path) : Prop :=
  (log.save store path).2 ≠ none ∨
    ∃ bytes, (log.save store path).1.read path = .ok bytes ∧ Index.ofFile bytes = .ok log.index

/-- Saving can be trusted for the logs that fit the format, and for no others. -/
theorem refusedOrKept_iff :
    log.RefusedOrKept store path ↔ (log.save store path).2 ≠ none ∨ log.Fits := by
  rw [RefusedOrKept]
  refine or_congr_right' fun hsaved => ?_
  obtain ⟨hwrite, hwhole⟩ := save_eq_ok_iff.mp (Prod.ext rfl (not_not.mp hsaved))
  rw [FileStore.read_write hwrite]
  simp only [Except.ok.injEq, exists_eq_left']
  exact ofFile_file_iff (Prod.ext rfl hwhole)

end IndexLog

/-! ## §2 What is read instead -/

/-- A number is at least as large as its first octet makes it. -/
theorem Bytes.le_ofBigEndian_cons (b : UInt8) (field : Bytes) :
    b.toNat * Nat.pow 256 field.length ≤ ofBigEndian (b :: field) := by
  induction field using List.reverseRecOn with
  | nil => simp [ofBigEndian]
  | append_singleton field c ih =>
    have hpow : Nat.pow 256 (field.length + 1) = Nat.pow 256 field.length * 256 := rfl
    rw [← List.cons_append, ofBigEndian_append, List.length_append, List.length_singleton,
      hpow, ← Nat.mul_assoc]
    exact (Nat.mul_le_mul_right 256 ih).trans (Nat.le_add_right _ _)

/-- A number of eight octets of which the first is not zero. -/
theorem Cursor.u64_of_pos {b : UInt8} (hpos : 0 < b.toNat) {more : Bytes}
    (hlength : 7 ≤ more.length) (offset : Nat) :
    ∃ n c, u64 ⟨offset, b :: more⟩ = .ok (n, c) ∧ 2 ^ 56 ≤ n.toNat ∧ c.left ≤ more.length := by
  obtain ⟨field, rest, rfl, hfield⟩ : ∃ field rest, more = field ++ rest ∧ field.length = 7 :=
    ⟨more.take 7, more.drop 7, (List.take_append_drop 7 more).symm, List.length_take_of_le hlength⟩
  have hwidth : (b :: field).length = 8 := congrArg Nat.succ hfield
  -- The eight octets are a number in its own notation, and its first digit is not zero.
  have hform := Bytes.bigEndian_ofBigEndian (b :: field)
  have hleast := Bytes.le_ofBigEndian_cons b field
  have hlt := Bytes.ofBigEndian_lt (b :: field)
  rw [hwidth] at hform hlt
  rw [hfield] at hleast
  have hread := u64_bigEndian offset (Bytes.ofBigEndian (b :: field)) rest
  rw [hform] at hread
  refine ⟨_, _, hread, ?_, ?_⟩
  · rw [UInt64.toNat_ofNat_of_lt' hlt]
    exact (Nat.le_mul_of_pos_left _ hpos).trans hleast
  · rw [left, List.length_append]
    exact Nat.le_add_left _ _

/-- No type is told by a zero. -/
theorem DataType.tag_pos (t : DataType) : 0 < t.tag.toNat := by cases t <;> decide

/-- A column as it is read if its name is too long: the name ends where the low octets of its length
say. -/
structure SortKey.CutTo (key shown : SortKey) : Prop where
  dataType : shown.dataType = key.dataType
  ascending : shown.ascending = key.ascending
  nullsFirst : shown.nullsFirst = key.nullsFirst
  name : Bytes.ofText shown.column
    = (Bytes.ofText key.column).take ((Bytes.ofText key.column).length % UInt16.size)

/-- What is left of a schema that is too long: another schema, with as many columns as the low
octets of their number say. The columns are right up to the first name that is too long, and that
one is cut off. -/
structure KeySchema.GarbledTo (schema shown : KeySchema) : Prop where
  ne : shown ≠ schema
  columns : shown.keys.length = schema.keys.length % UInt16.size
  front : ∀ {front : List SortKey} {key : SortKey} {back : List SortKey},
    schema.keys = front ++ key :: back → front.length < schema.keys.length % UInt16.size →
    (∀ k ∈ front, (Bytes.ofText k.column).length < UInt16.size) →
    ∃ more cut, shown.keys = front ++ cut :: more ∧ key.CutTo cut

namespace IndexFile

/-- Of a name that is too long, the front is read. -/
theorem readColumn_cut {key shown : SortKey} {offset : Nat} {rest : Bytes} {c : Cursor}
    (h : readColumn ⟨offset, column key ++ rest⟩ = .ok (shown, c)) : key.CutTo shown := by
  have hok {α : Type} (a : α) : ofShortage (.ok a) = .ok a := rfl
  simp only [readColumn, column, List.cons_append, List.append_assoc, Cursor.u8_cons, hok, bind,
    Except.bind, DataType.ofTag?_tag, Cursor.u16_bigEndian, decide_flag_ne_zero] at h
  split at h
  next => cases h
  next field htake =>
    obtain ⟨hsize, hname⟩ := Cursor.take_ok (Fallible.mapError_eq_ok.mp htake)
    cases hdecode : Utf8.decode field.1 with
    | error fault => rw [hdecode] at h; cases h
    | ok name =>
      rw [hdecode] at h
      cases h
      refine ⟨rfl, rfl, rfl, ?_⟩
      -- What is taken is no longer than the name, so it is the front of it.
      rw [UInt16.toNat_ofNat'] at hsize
      have hle : field.1.length ≤ (Bytes.ofText key.column).length := by
        rw [hsize]
        exact Nat.mod_le _ _
      have hfront : field.1 <+: Bytes.ofText key.column :=
        List.prefix_of_prefix_length_le ⟨field.2.rest, hname.symm⟩ (List.prefix_append _ rest) hle
      have htaken := List.prefix_iff_eq_take.mp hfront
      rw [hsize] at htaken
      exact (Utf8.ofText_of_decode hdecode).trans htaken

/-- Columns whose names fit are read, whatever follows them. -/
theorem readColumns_front {front : List SortKey}
    (hnames : ∀ k ∈ front, (Bytes.ofText k.column).length < UInt16.size) (more offset : Nat)
    (rest : Bytes) :
    readMany readColumn (front.length + more) #[] ⟨offset, front.flatMap column ++ rest⟩
      = readMany readColumn more front.toArray
          ⟨offset + (front.flatMap column).length, rest⟩ := by
  rw [readMany_add, readMany_flatMap (fun key => key) fun k hk => readColumn_column (hnames k hk)]
  simp [bind, Except.bind]

/-- What is read behind the columns does not change the schema. -/
theorem schema_of_readRest {schema : KeySchema} {c : Cursor} {index : Index}
    (h : readRest schema c = .ok index) : index.schema = schema := by
  obtain ⟨⟨count, c⟩, -, h⟩ := Fallible.bind_eq_ok.mp h
  dsimp only at h
  split_ifs at h
  obtain ⟨⟨entries, c⟩, -, h⟩ := Fallible.bind_eq_ok.mp h
  dsimp only at h
  split_ifs at h
  cases h
  rfl

/-- A schema that is too long is read as another one. -/
theorem garbledTo_of_ofFile {schema : KeySchema} (hlong : ¬ schema.Fits) {count : Nat}
    {body : Bytes} {index : Index} (h : Index.ofFile (header schema count ++ body) = .ok index) :
    schema.GarbledTo index.schema := by
  have hne : index.schema ≠ schema := by
    intro hsame
    exact hlong (hsame ▸ (Index.fits_of_ofFile h).1)
  rw [ofFile_columns] at h
  obtain ⟨⟨keys, c⟩, hkeys, hrest⟩ := Fallible.bind_eq_ok.mp h
  have hschema := schema_of_readRest hrest
  refine ⟨hne, ?columns, ?front⟩
  case columns =>
    rw [hschema, Array.length_toList, (readMany_ok hkeys).1, Array.size_empty, Nat.zero_add]
  case front =>
    intro front key back hsplit hannounced hnames
    obtain ⟨more, hmore⟩ := Nat.exists_eq_add_of_lt hannounced
    -- The columns in front are read as they are; the next one is where reading leaves the schema.
    rw [hmore, Nat.add_assoc, hsplit, List.flatMap_append, List.append_assoc,
      readColumns_front hnames, List.flatMap_cons, List.append_assoc, readMany] at hkeys
    split at hkeys
    next => cases hkeys
    next cut c' hcut =>
      obtain ⟨new, hnew, -⟩ := behind_of_readColumns hkeys
      refine ⟨new, cut, ?_, readColumn_cut hcut⟩
      rw [hschema, hnew, Array.toList_push, List.append_assoc, List.singleton_append]

/-- Where a column stands in the place of the number of entries, its type makes that number larger
than any file. -/
theorem readRest_column (shown : KeySchema) (key : SortKey) {rest : Bytes} (hroom : 7 ≤ rest.length)
    (hlength : (column key ++ rest).length < smallestEntry * 2 ^ 56) (offset : Nat) :
    ∃ n, readRest shown ⟨offset, column key ++ rest⟩ = .error (.entryCount n) := by
  have hmore : 7 ≤ ((column key).tail ++ rest).length := by
    rw [List.length_append]
    omega
  obtain ⟨n, c, hread, hleast, hleft⟩ :=
    Cursor.u64_of_pos (DataType.tag_pos key.dataType) hmore offset
  -- A column begins with its type, which makes the count of entries huge.
  have hcolumn : key.dataType.tag :: ((column key).tail ++ rest) = column key ++ rest := rfl
  rw [hcolumn] at hread
  refine ⟨n.toNat, ?_⟩
  -- No file has room for so many.
  have hfew : c.left / smallestEntry < n.toNat := by
    rw [← hcolumn, List.length_cons] at hlength
    apply Nat.lt_of_lt_of_le _ hleast
    rw [Nat.div_lt_iff_lt_mul (by decide), Nat.mul_comm]
    omega
  simp only [readRest, hread, ofShortage, Except.mapError, bind, Except.bind, if_pos hfew]

/-- Too many columns are found out if the names of those that are read fit: one more column stands
behind them. -/
theorem ofFile_of_names_fit {schema : KeySchema} (hlong : ¬ schema.Fits) {count : Nat}
    {body : Bytes}
    (hnames : ∀ key ∈ schema.keys.take (schema.keys.length % UInt16.size),
      (Bytes.ofText key.column).length < UInt16.size)
    (hlength : (header schema count ++ body).length < smallestEntry * 2 ^ 56) :
    ∃ n, Index.ofFile (header schema count ++ body) = .error (.entryCount n) := by
  -- Names that fit leave one reason: there are too many columns.
  have hmany : UInt16.size ≤ schema.keys.length := by
    by_contra hfew
    rw [Nat.mod_eq_of_lt (Nat.lt_of_not_le hfew), List.take_length] at hnames
    exact hlong ⟨Nat.lt_of_not_le hfew, hnames⟩
  have hannounced : schema.keys.length % UInt16.size < schema.keys.length :=
    (Nat.mod_lt _ (by decide)).trans_le hmany
  -- The columns that are announced, the first one that is not, and the others.
  obtain ⟨front, key, back, hsplit, hfront, hfit⟩ : ∃ front key back,
      schema.keys = front ++ key :: back ∧ schema.keys.length % UInt16.size = front.length ∧
        ∀ k ∈ front, (Bytes.ofText k.column).length < UInt16.size := by
    have hsplit := List.take_append_drop (schema.keys.length % UInt16.size) schema.keys
    rw [List.drop_eq_getElem_cons hannounced] at hsplit
    exact ⟨_, _, _, hsplit.symm, (List.length_take_of_le hannounced.le).symm, hnames⟩
  have hcolumns := readColumns_front hfit 0 7
    (column key ++ (back.flatMap column ++ (Bytes.bigEndian 8 count ++ body)))
  rw [Nat.add_zero] at hcolumns
  rw [List.length_append, length_header, hsplit, List.flatMap_append, List.flatMap_cons,
    List.length_append, List.length_append] at hlength
  rw [ofFile_columns, hfront, hsplit, List.flatMap_append, List.flatMap_cons, List.append_assoc,
    List.append_assoc, hcolumns]
  refine readRest_column ⟨front⟩ key ?_ ?_ _
  · simp only [List.length_append, Bytes.length_bigEndian]
    omega
  · simp only [List.length_append, Bytes.length_bigEndian]
    omega

end IndexFile

/-! ## §3 A name that spells an index -/

/-- The text of ASCII octets. -/
def Bytes.asciiText (octets : Bytes) : String :=
  String.ofList (octets.map fun b => Char.ofNat b.toNat)

/-- Octets of ASCII are the text of themselves. -/
theorem Bytes.ofText_asciiText {octets : Bytes} (h : ∀ b ∈ octets, b.toNat ≤ 127) :
    ofText (asciiText octets) = octets := by
  rw [asciiText, ofText_ofList]
  induction octets with
  | nil => rfl
  | cons b octets ih =>
    obtain ⟨hb, hoctets⟩ := List.forall_mem_cons.mp h
    have hcode : (Char.ofNat b.toNat).toNat = b.toNat :=
      (Char.toNat_ofNat _).trans (if_pos (Or.inl (by omega)))
    rw [List.map_cons, List.flatMap_cons, ih hoctets, utf8EncodeChar_of_le (by omega), hcode,
      UInt8.ofNat_toNat, List.singleton_append]

namespace IndexLog

/-- A text of so many letters. -/
def letters (n : Nat) : Bytes := List.replicate n 0x61

theorem letters_le (n : Nat) : ∀ b ∈ letters n, b.toNat ≤ 127 := by
  intro b hb
  rw [List.eq_of_mem_replicate hb]
  decide

/-- A column of texts, without a name. -/
def namelessKey : SortKey := ⟨"", .text, true, false⟩

theorem fits_namelessKey : (KeySchema.mk [namelessKey]).Fits := ⟨by decide, by decide +kernel⟩

/-- An entry for a text of so many letters. -/
def lettersEntry (n : Nat) : IndexEntry := ⟨⟨[.text (Bytes.asciiText (letters n))]⟩, 0⟩

/-- An index of texts of so many letters each. -/
def lettersLog (lengths : List Nat) : IndexLog :=
  ⟨⟨[namelessKey]⟩, (lengths.map lettersEntry).toArray⟩

/-- The encoded key of such an entry. -/
def lettersKey (n : Nat) : Bytes := 0 :: (Bytes.bigEndian 4 n ++ letters n)

/-- A key of letters takes its letters and five octets. -/
theorem length_lettersKey (n : Nat) : (lettersKey n).length = n + 5 := by
  rw [lettersKey, List.length_cons, List.length_append, Bytes.length_bigEndian, letters,
    List.length_replicate]
  omega

/-- A key of letters is encoded by its length and its letters. -/
theorem encode_letters {n : Nat} (h : n < UInt32.size) :
    (KeySchema.mk [namelessKey]).encode (lettersEntry n).key = .ok (lettersKey n) := by
  have hlength : (letters n).length = n := List.length_replicate
  have hcolumn : namelessKey.encode (.text (Bytes.asciiText (letters n)))
      = .ok (lettersKey n) := by
    simp only [SortKey.encode, namelessKey, Bytes.ofText_asciiText (letters_le n), hlength,
      if_pos h]
    rfl
  -- There is one column, behind which the row ends.
  have hrow : (KeySchema.mk [namelessKey]).encode (lettersEntry n).key
      = namelessKey.encode (.text (Bytes.asciiText (letters n))) >>=
        fun column => .ok (column ++ []) := rfl
  rw [hrow, hcolumn]
  exact congrArg Except.ok (List.append_nil _)

/-- The file of such a log, octet by octet. -/
theorem file_lettersLog {lengths : List Nat} (h : ∀ n ∈ lengths, n < UInt32.size) :
    (lettersLog lengths).file = (IndexFile.header ⟨[namelessKey]⟩ lengths.length
      ++ lengths.flatMap fun n => IndexFile.entry (lettersKey n) 0, none) := by
  have hentries : IndexFile.entries ⟨[namelessKey]⟩ (lengths.map lettersEntry)
      = (lengths.flatMap fun n => IndexFile.entry (lettersKey n) 0, none) := by
    induction lengths with
    | nil => rfl
    | cons n lengths ih =>
      -- No key is too long for its field, so no entry stops the writer.
      obtain ⟨hn, hlengths⟩ := List.forall_mem_cons.mp h
      rw [List.map_cons, IndexFile.entries, encode_letters hn, ih hlengths]
      rfl
  have hsize : (lettersLog lengths).size = lengths.length := by simp [lettersLog, size]
  rw [file, hsize]
  simp only [lettersLog, hentries]

/-- A log of letters fits the format as long as its keys do. -/
theorem fits_lettersLog {lengths : List Nat} (h : ∀ n ∈ lengths, n + 5 < UInt32.size)
    (hcount : lengths.length < UInt64.size) : (lettersLog lengths).Fits where
  schema := fits_namelessKey
  keys := by
    intro e he key hkey
    obtain ⟨n, hn, rfl⟩ := List.mem_map.mp (List.mem_toArray.mp (Array.mem_toList_iff.mp he))
    have hlength := h n hn
    cases (encode_letters (by omega)).symm.trans hkey
    rw [length_lettersKey]
    exact hlength
  count := by simpa [lettersLog, size] using hcount

/-- What stands behind the columns of such an index, up to the offset of its last entry. -/
def lettersOctets (front : List Nat) (last : Nat) : Bytes :=
  Bytes.bigEndian 8 (front.length + 1)
    ++ ((front.flatMap fun n => IndexFile.entry (lettersKey n) 0)
      ++ (Bytes.bigEndian 4 (lettersKey last).length ++ lettersKey last))

/-- The column of which these octets are the name. -/
def spellingKey (front : List Nat) (last : Nat) : SortKey :=
  { namelessKey with column := Bytes.asciiText (lettersOctets front last) }

/-- Without the length of its name, that column is written as the whole index. -/
theorem header_spellingKey {front : List Nat} {last : Nat}
    (hascii : ∀ b ∈ lettersOctets front last, b.toNat ≤ 127)
    (hlength : Bytes.bigEndian 2 (lettersOctets front last).length = Bytes.bigEndian 2 0) :
    IndexFile.header ⟨[spellingKey front last]⟩ 0 = IndexFile.header ⟨[namelessKey]⟩
        (front ++ [last]).length
      ++ (front ++ [last]).flatMap fun n => IndexFile.entry (lettersKey n) 0 := by
  have hname : Bytes.ofText (spellingKey front last).column = lettersOctets front last :=
    Bytes.ofText_asciiText hascii
  -- The name begins where the nameless column ends, since its length is written as zero.
  have hcolumn : IndexFile.column (spellingKey front last)
      = IndexFile.column namelessKey ++ lettersOctets front last := by
    have hnameless : Bytes.ofText namelessKey.column = [] := Bytes.ofText_ofList []
    rw [IndexFile.column, IndexFile.column, hname, hnameless, hlength]
    rfl
  have hoffset : (0 : UInt64).toNat = 0 := rfl
  simp only [IndexFile.header, List.flatMap_singleton, hcolumn, List.length_append,
    List.length_singleton, List.flatMap_append, List.append_assoc, List.cons_append]
  rw [lettersOctets]
  simp only [IndexFile.entry, List.append_assoc, hoffset]

/-- A log with that column is saved as if the keys had been written that its name spells. -/
theorem ofFile_spellingKey {front : List Nat} {last : Nat}
    (hascii : ∀ b ∈ lettersOctets front last, b.toNat ≤ 127)
    (hlength : Bytes.bigEndian 2 (lettersOctets front last).length = Bytes.bigEndian 2 0)
    (hkeys : ∀ n ∈ front ++ [last], n + 5 < UInt32.size)
    (hcount : (front ++ [last]).length < UInt64.size) :
    Index.ofFile (run ⟨[spellingKey front last]⟩ []).file.1
      = .ok (lettersLog (front ++ [last])).index := by
  have hfile : (run ⟨[spellingKey front last]⟩ []).file.1
      = IndexFile.header ⟨[spellingKey front last]⟩ 0 ++ [] := rfl
  rw [hfile, List.append_nil, header_spellingKey hascii hlength]
  exact ofFile_file (fits_lettersLog hkeys hcount)
    (file_lettersLog fun n hn => (Nat.le_add_right n 5).trans_lt (hkeys n hn))

/-! ## §4 Logs that are too long -/

/-- **A schema that is too long is lost without notice.** Whatever is written to a log with such a
schema, saving it is refused only where any log would be: the file cannot be made, or a key does
not fit the schema. Otherwise it is said to be saved, but the file is not read as the log. If it is
read, its schema is garbled. If there are too many columns and the names of those that are read
fit, it is refused for its number of entries; no file has room for so many. -/
theorem overlong_lost {schema : KeySchema} (hlong : ¬ schema.Fits) (writes : List IndexEntry)
    (store : FileStore) (path : Path) :
    ((run schema writes).RefusedOrKept store path ↔
        (∃ fault, store.write path (run schema writes).file.1 = .error fault) ∨
          ∃ e ∈ (run schema writes).entries.toList, ∃ fault, schema.encode e.key = .error fault) ∧
      ∀ after, (run schema writes).save store path = (after, none) →
        ∃ bytes, after.read path = .ok bytes ∧
          (∀ index, Index.ofFile bytes = .ok index → schema.GarbledTo index.schema) ∧
          ((∀ key ∈ schema.keys.take (schema.keys.length % UInt16.size),
              (Bytes.ofText key.column).length < UInt16.size) →
            bytes.length < IndexFile.smallestEntry * 2 ^ 56 →
              ∃ count, Index.ofFile bytes = .error (.entryCount count)) := by
  have hsame : (run schema writes).schema = schema := (rising_run schema writes).1
  generalize run schema writes = log at *
  subst hsame
  constructor
  · -- A log of such a schema never fits, so it is kept only when it is refused.
    have hnot : ¬ log.Fits := fun hfits => hlong hfits.schema
    rw [refusedOrKept_iff, or_iff_left hnot, save_fault_iff]
  · intro after hsave
    obtain ⟨hwrite, -⟩ := save_eq_ok_iff.mp hsave
    obtain ⟨front, back, -, -, hfile, -⟩ := log.file_split
    refine ⟨log.file.1, FileStore.read_write hwrite, ?_, ?_⟩
    · intro index hread
      rw [hfile] at hread
      exact IndexFile.garbledTo_of_ofFile hlong hread
    · intro hnames hlength
      rw [hfile] at hlength ⊢
      exact IndexFile.ofFile_of_names_fit hlong hnames hlength

/-- A name that spells three keys. -/
def spelling : SortKey := spellingKey [21760, 21845] 21880

theorem spelling_le : ∀ b ∈ lettersOctets [21760, 21845] 21880, b.toNat ≤ 127 := by
  have hkey {n : Nat} (hlength : ∀ b ∈ Bytes.bigEndian 4 n, b.toNat ≤ 127) :
      ∀ b ∈ lettersKey n, b.toNat ≤ 127 :=
    List.forall_mem_cons.mpr ⟨by decide, List.forall_mem_append.mpr ⟨hlength, letters_le n⟩⟩
  simp only [lettersOctets, List.flatMap_cons, List.flatMap_nil, IndexFile.entry,
    length_lettersKey, List.forall_mem_append]
  refine ⟨?_, ⟨⟨⟨?_, hkey ?_⟩, ?_⟩, ⟨⟨?_, hkey ?_⟩, ?_⟩, ?_⟩, ?_, hkey ?_⟩
  all_goals decide +kernel

theorem length_spelling : (lettersOctets [21760, 21845] 21880).length = UInt16.size := by
  simp only [lettersOctets, List.flatMap_cons, List.flatMap_nil, IndexFile.entry,
    List.length_append, List.length_cons, List.length_nil, length_lettersKey,
    Bytes.length_bigEndian]

/-- Saving says that all is well, and the file is read as three keys that nobody has written. -/
theorem overlong_lost_spelling :
    ∃ after bytes index, (run ⟨[spelling]⟩ []).save {} ⟨"index"⟩ = (after, none) ∧
      after.read ⟨"index"⟩ = .ok bytes ∧ Index.ofFile bytes = .ok index ∧
      index.entries.size = 3 ∧ (KeySchema.mk [spelling]).GarbledTo index.schema ∧
      ¬ (run ⟨[spelling]⟩ []).RefusedOrKept {} ⟨"index"⟩ := by
  have hlong : ¬ (KeySchema.mk [spelling]).Fits := by
    intro hfits
    have hname := hfits.names spelling (List.mem_singleton_self _)
    rw [spelling, spellingKey, Bytes.ofText_asciiText spelling_le, length_spelling] at hname
    exact lt_irrefl _ hname
  have hfile := ofFile_spellingKey spelling_le (by rw [length_spelling]; decide +kernel)
    (by decide) (by decide)
  -- The directory is there, so nothing stands in the way of the file.
  obtain ⟨after, hwrite⟩ : ∃ after,
      FileStore.write {} ⟨"index"⟩ (run ⟨[spelling]⟩ []).file.1 = .ok after :=
    ⟨_, FileStore.write_ok_iff.mpr
      ⟨⟨false, 0, ["index"]⟩, by decide +kernel, by decide +kernel, rfl⟩⟩
  have hsave : (run ⟨[spelling]⟩ []).save {} ⟨"index"⟩ = (after, none) :=
    save_eq_ok_iff.mpr ⟨hwrite, rfl⟩
  obtain ⟨hkept, hread⟩ := overlong_lost hlong [] {} ⟨"index"⟩
  obtain ⟨bytes, hbytes, hgarbled, -⟩ := hread after hsave
  obtain rfl : (run ⟨[spelling]⟩ []).file.1 = bytes :=
    Except.ok.inj ((FileStore.read_write hwrite).symm.trans hbytes)
  refine ⟨after, _, _, hsave, hbytes, hfile, ?_, hgarbled _ hfile, ?_⟩
  · rw [index, Array.size_map]
    rfl
  · rw [hkept, hwrite]
    rintro (⟨fault, hfault⟩ | ⟨e, he, -⟩)
    · cases hfault
    · cases he

end IndexLog

end Shuffle
