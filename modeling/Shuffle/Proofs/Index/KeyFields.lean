import Mathlib
import Shuffle.Proofs.Index.Capacity

/-!
# Octets behind a key are not looked at

An entry of an index file gives the length of its key field, but the key in the field tells its own
end. The reader of files takes the key from the front of the field and leaves the rest of the field
alone, where `KeySchema.decode`, which reads the keys of requests, wants no rest. So the two agree
on a field exactly if nothing stands behind the key.

- `IndexFile.Delimits` says how octets are divided into entries, and `Index.KeyFields` which octets
  of a file are its key fields.
- `Cursor.Behind` measures how far a reader went, and `Index.ofFile_entries` that it is behind the
  header when it comes to the entries.
- `Index.decode_keyFields_iff`: what is in each key field of a file that is read.
-/

namespace Shuffle

/-! ## §1 Key fields -/

namespace IndexFile

/-- Octets that are entries, one behind the other, with the given key fields. Only the offset of
an entry is compared with the octets, so that a field may hold anything. -/
inductive Delimits : List IndexEntry → List Bytes → Bytes → Prop where
  | nil : Delimits [] [] []
  | cons {e : IndexEntry} {field : Bytes} {entries : List IndexEntry} {fields : List Bytes}
      {rest : Bytes} (hlength : field.length < UInt32.size) (hrest : Delimits entries fields rest) :
      Delimits (e :: entries) (field :: fields) (entry field e.offset ++ rest)

/-- The lengths in front of the fields leave no choice where a field ends. -/
theorem Delimits.unique {entries : List IndexEntry} {fields fields' : List Bytes} {octets : Bytes}
    (h : Delimits entries fields octets) (h' : Delimits entries fields' octets) :
    fields = fields' := by
  induction h generalizing fields' with
  | nil =>
    cases h'
    rfl
  | @cons e field entries fields rest hlength hrest ih =>
    generalize hsame : entry field e.offset ++ rest = octets at h'
    cases h' with
    | @cons _ field' _ fields' rest' hlength' hrest' =>
      simp only [entry, List.append_assoc] at hsame
      obtain ⟨hwidth, htail⟩ := List.append_inj hsame (by simp [Bytes.length_bigEndian])
      -- Both lengths fit in four octets, so they are equal.
      have hlengths : field.length = field'.length := by
        have hread := congrArg Bytes.ofBigEndian hwidth
        rwa [Bytes.ofBigEndian_bigEndian_of_lt hlength, Bytes.ofBigEndian_bigEndian_of_lt hlength']
          at hread
      obtain ⟨hfield, htail⟩ := List.append_inj htail hlengths
      obtain rfl := List.append_cancel_left htail
      subst hfield
      rw [ih hrest']

end IndexFile

/-- The key fields of a file: behind the header, which is as long as the one that is written for
the schema, stand the entries with these fields. -/
def Index.KeyFields (index : Index) (bytes : Bytes) (fields : List Bytes) : Prop :=
  IndexFile.Delimits index.entries.toList fields
    (bytes.drop (IndexFile.header index.schema index.entries.size).length)

/-! ## §2 How far a reader went -/

namespace Cursor

/-- The second cursor stands `count` octets behind the first. -/
def Behind (c : Cursor) (count : Nat) (c' : Cursor) : Prop :=
  count ≤ c.left ∧ c'.rest = c.rest.drop count

variable {c c' c'' : Cursor}

/-- A cursor that has passed a field stands behind it. -/
theorem behind_of_append {field : Bytes} (h : c.rest = field ++ c'.rest) :
    c.Behind field.length c' := by
  refine ⟨?_, ?_⟩
  · rw [left, h, List.length_append]
    omega
  · rw [h, List.drop_left]

/-- Two steps forward are one. -/
theorem Behind.trans {m n : Nat} (h : c.Behind m c') (h' : c'.Behind n c'') :
    c.Behind (m + n) c'' := by
  obtain ⟨hm, hrest⟩ := h
  obtain ⟨hn, hrest'⟩ := h'
  refine ⟨?_, ?_⟩
  · rw [left, hrest, List.length_drop] at hn
    rw [left] at hm ⊢
    omega
  · rw [hrest', hrest, List.drop_drop]

/-- Taking a field moves the cursor by its length. -/
theorem behind_of_take {count : Nat} {field : Bytes} (h : c.take count = .ok (field, c')) :
    c.Behind count c' := by
  obtain ⟨rfl, hrest⟩ := take_ok h
  exact behind_of_append hrest

/-- A number takes as many octets as it is wide. -/
theorem behind_of_number {width n : Nat} (h : c.number width = .ok (n, c')) :
    c.Behind width c' := by
  have hfield := behind_of_append (number_ok h).2
  rwa [Bytes.length_bigEndian] at hfield

/-- What is made of an item that was read does not move the cursor. -/
theorem behind_of_map {α β : Type} {read : Except Shortage (α × Cursor)} {f : α → β} {b : β}
    {count : Nat} (hread : ∀ {a}, read = .ok (a, c') → c.Behind count c')
    (h : (read.map fun (a, c) => (f a, c)) = .ok (b, c')) : c.Behind count c' := by
  obtain ⟨⟨a, rest⟩, ha, heq⟩ := Fallible.map_eq_ok.mp h
  cases heq
  exact hread ha

theorem behind_of_u8 {v : UInt8} (h : c.u8 = .ok (v, c')) : c.Behind 1 c' :=
  behind_of_map behind_of_number h

theorem behind_of_u16 {v : UInt16} (h : c.u16 = .ok (v, c')) : c.Behind 2 c' :=
  behind_of_map behind_of_number h

theorem behind_of_u64 {v : UInt64} (h : c.u64 = .ok (v, c')) : c.Behind 8 c' :=
  behind_of_map behind_of_number h

end Cursor

namespace IndexFile

open Cursor

/-- A column is as long as it is when it is written, whatever octets its flags are. -/
theorem behind_of_readColumn {c c' : Cursor} {key : SortKey} (h : readColumn c = .ok (key, c')) :
    c.Behind (column key).length c' := by
  obtain ⟨⟨tag, c₁⟩, htag, h⟩ := Fallible.bind_eq_ok.mp h
  dsimp only at h
  split at h
  case h_1 => cases h
  case h_2 dataType _ =>
    obtain ⟨⟨ascending, c₂⟩, hascending, h⟩ := Fallible.bind_eq_ok.mp h
    obtain ⟨⟨nullsFirst, c₃⟩, hnullsFirst, h⟩ := Fallible.bind_eq_ok.mp h
    obtain ⟨⟨length, c₄⟩, hlength, h⟩ := Fallible.bind_eq_ok.mp h
    obtain ⟨⟨name, c₅⟩, hname, h⟩ := Fallible.bind_eq_ok.mp h
    dsimp only at h
    cases hcolumn : Utf8.decode name with
    | error fault => rw [hcolumn] at h; cases h
    | ok column =>
      rw [hcolumn] at h
      cases h
      replace hname := Fallible.mapError_eq_ok.mp hname
      -- Five fields, one behind the other, make a column.
      have hwhole := (behind_of_u8 (Fallible.mapError_eq_ok.mp htag)).trans
        ((behind_of_u8 (Fallible.mapError_eq_ok.mp hascending)).trans
          ((behind_of_u8 (Fallible.mapError_eq_ok.mp hnullsFirst)).trans
            ((behind_of_u16 (Fallible.mapError_eq_ok.mp hlength)).trans (behind_of_take hname))))
      convert hwhole using 1
      simp only [IndexFile.column, List.length_cons, List.length_append, Bytes.length_bigEndian,
        Utf8.ofText_of_decode hcolumn, (take_ok hname).1]
      omega

/-- The columns that were read take as many octets as they are written with. -/
theorem behind_of_readColumns {count : Nat} {done keys : Array SortKey} {c c' : Cursor}
    (h : readMany readColumn count done c = .ok (keys, c')) :
    ∃ new, keys.toList = done.toList ++ new ∧ c.Behind (new.flatMap column).length c' := by
  -- On the count: each round adds one column, and moves on by the octets of that column.
  induction count generalizing done c with
  | zero =>
    cases h
    exact ⟨[], (List.append_nil _).symm, Nat.zero_le _, rfl⟩
  | succ count ih =>
    rw [readMany] at h
    cases hone : readColumn c with
    | error fault => rw [hone] at h; cases h
    | ok item =>
      obtain ⟨key, rest⟩ := item
      rw [hone] at h
      obtain ⟨new, hkeys, hbehind⟩ := ih h
      refine ⟨key :: new, ?_, ?_⟩
      · rw [hkeys, Array.toList_push, List.append_assoc, List.singleton_append]
      · rw [List.flatMap_cons, List.length_append]
        exact (behind_of_readColumn hone).trans hbehind

end IndexFile

open IndexFile Cursor in
/-- Behind the header of a file stand its entries, and nothing else. -/
theorem Index.ofFile_entries {bytes : Bytes} {index : Index} (h : ofFile bytes = .ok index) :
    ∃ c c' : Cursor, c.rest = bytes.drop (header index.schema index.entries.size).length ∧
      readMany (readEntry index.schema) index.entries.size #[] c = .ok (index.entries, c') ∧
      c'.rest = [] := by
  obtain ⟨columns, count, keys, c₁, c₂, c₃, c₄, c₅, c₆, hmagic, hversion, hcolumns, hkeys, hschema,
    hcount, -, hentries, hend⟩ := ofFile_ok h
  obtain ⟨new, hnew, hbehind⟩ := behind_of_readColumns hkeys
  obtain rfl : keys.toList = new := hnew
  have hsize : index.entries.size = count.toNat := by
    rw [(readMany_ok hentries).1, Array.size_empty, Nat.zero_add]
  have hheader := (behind_of_take (Fallible.mapError_eq_ok.mp hmagic)).trans
    ((behind_of_u8 (Fallible.mapError_eq_ok.mp hversion)).trans
      ((behind_of_u16 (Fallible.mapError_eq_ok.mp hcolumns)).trans
        (hbehind.trans (behind_of_u64 (Fallible.mapError_eq_ok.mp hcount)))))
  refine ⟨c₅, c₆, ?_, hsize ▸ hentries, hend⟩
  rw [hheader.2, length_header, hschema]
  -- The widths of the fields in front add up to the header.
  have hmagicLength : magic.length = 4 := rfl
  have hsum : magic.length + (1 + (2 + ((keys.toList.flatMap column).length + 8)))
      = 4 + 1 + 2 + (keys.toList.flatMap column).length + 8 := by omega
  exact congrArg (fun n => bytes.drop n) hsum

/-! ## §3 What is in a key field -/

/-- The reader of requests wants no octets behind the key. -/
theorem KeySchema.decode_of_read {schema : KeySchema} {field : Bytes} {row : Tuple} {c : Cursor}
    (h : schema.read (Cursor.start field) = .ok (row, c)) :
    schema.decode field = if c.rest = [] then .ok row else .error (.trailing c.rest.length) := by
  rw [decode, h]
  simp only [bind, Except.bind, Cursor.isDone, List.isEmpty_iff]
  rfl

/-- A key field: the key in its encoded form, and behind it slack that only the reader of requests
objects to. -/
def KeySchema.HoldsKey (schema : KeySchema) (e : IndexEntry) (field : Bytes) : Prop :=
  ∃ key slack, field = key ++ slack ∧ schema.encode e.key = .ok key ∧
    (schema.decode field = .ok e.key ↔ slack = []) ∧
    (slack ≠ [] → schema.decode field = .error (.trailing slack.length))

/-- A key is read from the front of its field, and what is behind it is slack. -/
theorem KeySchema.holdsKey_of_read {schema : KeySchema} {field : Bytes} {e : IndexEntry}
    {c : Cursor} (h : schema.read (Cursor.start field) = .ok (e.key, c)) :
    schema.HoldsKey e field := by
  obtain ⟨key, hkey, hfield⟩ := encode_of_read h
  refine ⟨key, c.rest, hfield, hkey, ?_, fun hslack => ?_⟩
  · rw [decode_of_read h]
    by_cases hslack : c.rest = []
    · simp [hslack]
    · simp [hslack]
  · rw [decode_of_read h, if_neg hslack]

namespace IndexFile

open Cursor

/-- The fields of the entries stand one behind the other, up to the end of the file. -/
theorem delimits_of_readEntries {schema : KeySchema} {count : Nat}
    {done items : Array IndexEntry} {c c' : Cursor}
    (h : readMany (readEntry schema) count done c = .ok (items, c')) (hend : c'.rest = []) :
    ∃ new fields, items.toList = done.toList ++ new ∧ Delimits new fields c.rest ∧
      List.Forall₂ schema.HoldsKey new fields := by
  induction count generalizing done c with
  | zero =>
    cases h
    exact ⟨[], [], (List.append_nil _).symm, hend ▸ Delimits.nil, List.Forall₂.nil⟩
  | succ count ih =>
    rw [readMany] at h
    cases hone : readEntry schema c with
    | error fault => rw [hone] at h; cases h
    | ok item =>
      obtain ⟨e, rest⟩ := item
      rw [hone] at h
      obtain ⟨new, fields, hitems, hdelimits, hholds⟩ := ih h
      obtain ⟨⟨length, c₁⟩, hlength, hone⟩ := Fallible.bind_eq_ok.mp hone
      obtain ⟨⟨field, c₂⟩, hfield, hone⟩ := Fallible.bind_eq_ok.mp hone
      obtain ⟨⟨key, c₃⟩, hkey, hone⟩ := Fallible.bind_eq_ok.mp hone
      obtain ⟨⟨offset, c₄⟩, hoffset, hone⟩ := Fallible.bind_eq_ok.mp hone
      cases hone
      -- The field is as long as the number in front of it says.
      obtain ⟨hsize, hfieldRest⟩ := take_ok (Fallible.mapError_eq_ok.mp hfield)
      have hlengthRest := u32_ok (Fallible.mapError_eq_ok.mp hlength)
      have hoffsetRest := u64_ok (Fallible.mapError_eq_ok.mp hoffset)
      have hentry : c.rest = entry field offset ++ rest.rest := by
        rw [entry, hlengthRest, hfieldRest, hoffsetRest, hsize, List.append_assoc,
          List.append_assoc]
      refine ⟨⟨key, offset⟩ :: new, field :: fields, ?_, ?_, ?_⟩
      · rw [hitems, Array.toList_push, List.append_assoc, List.singleton_append]
      · rw [hentry]
        exact Delimits.cons (hsize ▸ length.toNat_lt_size) hdelimits
      · exact List.Forall₂.cons
          (KeySchema.holdsKey_of_read (Fallible.mapError_eq_ok.mp hkey)) hholds

end IndexFile

/-- **Key fields are read from the front.** A file that is read has key fields, one for each entry,
and its lengths leave no choice which octets they are. Each begins with the encoded form of the
entry's key; the reader of requests decodes the field to that key exactly if nothing stands behind
it, and else objects to what does. -/
theorem Index.decode_keyFields_iff {bytes : Bytes} {index : Index} (h : ofFile bytes = .ok index) :
    ∃ fields, index.KeyFields bytes fields ∧
      (∀ fields', index.KeyFields bytes fields' → fields' = fields) ∧
      List.Forall₂ index.schema.HoldsKey index.entries.toList fields := by
  obtain ⟨c, c', hrest, hentries, hend⟩ := ofFile_entries h
  obtain ⟨new, fields, hnew, hdelimits, hholds⟩ := IndexFile.delimits_of_readEntries hentries hend
  obtain rfl : index.entries.toList = new := hnew
  rw [hrest] at hdelimits
  exact ⟨fields, hdelimits, fun _ h' => h'.unique hdelimits, hholds⟩

/-- A key of nine octets in a field of ten, and a key that fills its field. -/
def Index.loose : Index :=
  ⟨⟨[⟨"k", .int8, true, false⟩]⟩, #[⟨⟨[.int8 7]⟩, 0⟩, ⟨⟨[.null]⟩, 4⟩]⟩

/-- The field of ten octets. -/
def Index.looseField : Bytes := [0, 0, 0, 0, 0, 0, 0, 0, 7, 255]

/-- The file with both fields. -/
def Index.looseFile : Bytes :=
  IndexFile.header loose.schema 2 ++ (IndexFile.entry looseField 0 ++ IndexFile.entry [1] 4)

/-- The file is read, though the reader of requests refuses one of its key fields. -/
theorem Index.decode_keyFields_loose :
    Index.ofFile looseFile = .ok loose ∧ loose.KeyFields looseFile [looseField, [1]] ∧
      loose.schema.decode looseField = .error (.trailing 1) ∧
      loose.schema.decode [1] = .ok ⟨[.null]⟩ := by
  have hread : Index.ofFile looseFile = .ok loose := by cbv
  obtain ⟨fields, -, hunique, hholds⟩ := decode_keyFields_iff hread
  have hfields : loose.KeyFields looseFile [looseField, [1]] := by
    have hentries : looseFile.drop (IndexFile.header loose.schema loose.entries.size).length
        = IndexFile.entry looseField 0 ++ (IndexFile.entry [1] 4 ++ []) := by
      rw [List.append_nil]
      exact List.drop_left
    rw [KeyFields, hentries]
    exact .cons (by decide) (.cons (by decide) .nil)
  -- The fields of this file are known, and the theorem speaks of these.
  obtain rfl := hunique _ hfields
  obtain ⟨⟨key, slack, hfield, hkey, -, hrefused⟩, hlast⟩ := List.forall₂_cons.mp hholds
  obtain ⟨⟨key', slack', hfield', hkey', haccepted, -⟩, -⟩ := List.forall₂_cons.mp hlast
  refine ⟨hread, hfields, ?_, ?_⟩
  · have hencoded : loose.schema.encode ⟨[.int8 7]⟩ = .ok [0, 0, 0, 0, 0, 0, 0, 0, 7] := by
      decide +kernel
    cases hencoded.symm.trans hkey
    obtain rfl : [255] = slack := by simpa [looseField] using hfield
    exact hrefused (List.cons_ne_nil _ _)
  · have hencoded : loose.schema.encode ⟨[.null]⟩ = .ok [1] := by decide +kernel
    cases hencoded.symm.trans hkey'
    exact haccepted.mpr (by simpa using hfield')

end Shuffle
