import Mathlib
import Shuffle.Pull.Chunk
import Shuffle.Proofs.Index.Lookup

/-!
# What a range request is answered with

On an index whose entries rise, a request for the rows between two keys is answered with the
octets between two offsets, whichever way the service takes to find them: out of scope at either
end, an exact match, the nearest key, or the end of the file.

- `Index.startOf` is the offset from which the rows of a key on are stored.
- `FileChunk.rangeChunk_eq_make?` is the answer to one request.
-/

namespace Shuffle

open Std

/-! ## §1 Offsets of keys -/

/-- Where the rows from a key on begin, if the file has `length` octets: at the first entry that
does not sort before the key, else at the end. -/
def KeySchema.startOf (schema : KeySchema) (entries : List IndexEntry) (length : UInt64)
    (key : Tuple) : UInt64 :=
  ((entries.find? fun e => schema.compare e.key key != .lt).map (·.offset)).getD length

/-- Does some entry lie at or before a key? -/
def KeySchema.reaches (schema : KeySchema) (entries : List IndexEntry) (key : Tuple) : Bool :=
  entries.any fun e => schema.compare e.key key != .gt

/-- Where the rows of a range up to `key` end. A final range goes on to the end of the file unless
all entries lie behind it. -/
def KeySchema.stopOf (schema : KeySchema) (entries : List IndexEntry) (length : UInt64)
    (key : Tuple) (final : Bool) : UInt64 :=
  if final && schema.reaches entries key then length else schema.startOf entries length key

namespace KeySchema

variable {schema : KeySchema} {entries : List IndexEntry} {length : UInt64}

/-- Rows begin within the file. -/
theorem startOf_le (schema : KeySchema) (hbound : ∀ e ∈ entries, e.offset ≤ length) (key : Tuple) :
    schema.startOf entries length key ≤ length := by
  unfold startOf
  cases hfind : entries.find? fun e => schema.compare e.key key != .lt with
  | none => exact UInt64.le_refl length
  | some e => exact hbound e (List.mem_of_find?_eq_some hfind)

/-- Rows of a later key begin no earlier. -/
theorem startOf_mono (hrise : schema.Rising entries) (hbound : ∀ e ∈ entries, e.offset ≤ length)
    {a b : Tuple} (hab : (schema.compare a b).isLE) :
    schema.startOf entries length a ≤ schema.startOf entries length b := by
  cases hlast : entries.find? fun e => schema.compare e.key b != .lt with
  | none =>
    -- Rows of the later key begin at the end.
    have hend : schema.startOf entries length b = length := by
      rw [startOf, hlast, Option.map_none, Option.getD_none]
    rw [hend]
    exact schema.startOf_le hbound a
  | some last =>
    obtain ⟨first, hfirst, hle⟩ := hrise.find?_le hab hlast
    rw [startOf, startOf, hfirst, hlast]
    exact hle

/-- Rows of a range end within the file, and not before they begin. -/
theorem startOf_le_stopOf (hrise : schema.Rising entries)
    (hbound : ∀ e ∈ entries, e.offset ≤ length) {a b : Tuple} (hab : (schema.compare a b).isLE)
    (final : Bool) :
    schema.startOf entries length a ≤ schema.stopOf entries length b final := by
  unfold stopOf
  split
  · exact schema.startOf_le hbound a
  · exact startOf_mono hrise hbound hab

/-- The rows of a range end within the file. -/
theorem stopOf_le (schema : KeySchema) (hbound : ∀ e ∈ entries, e.offset ≤ length) (key : Tuple)
    (final : Bool) :
    schema.stopOf entries length key final ≤ length := by
  unfold stopOf
  split
  · exact UInt64.le_refl length
  · exact schema.startOf_le hbound key

/-! ## §2 Requests out of scope -/

/-- The first entry decides whether a key is reached. -/
theorem reaches_cons {e : IndexEntry} {rest : List IndexEntry}
    (hrise : schema.Rising (e :: rest)) (key : Tuple) :
    schema.reaches (e :: rest) key = (schema.compare e.key key != .gt) := by
  rw [reaches, List.any_cons]
  cases hhead : schema.compare e.key key != .gt with
  | true => rfl
  | false =>
    -- If the first entry lies behind the key, so do all that follow it.
    have hgt : schema.compare e.key key = .gt := by simpa using hhead
    rw [Bool.false_or, List.any_eq_false]
    intro x hx
    have hlt := ((List.pairwise_cons.mp hrise).1 x hx).1
    simp [TransCmp.gt_trans (OrientedCmp.gt_of_lt hlt) hgt]

/-- Rows of a key at or before the first entry begin with it. -/
theorem startOf_cons {e : IndexEntry} {rest : List IndexEntry} {key : Tuple}
    (h : schema.compare e.key key ≠ .lt) : schema.startOf (e :: rest) length key = e.offset := by
  rw [startOf, List.find?_cons_of_pos (by simpa using h)]
  rfl

/-- Rows of a key behind the last entry begin at the end of the file. -/
theorem startOf_of_getLast?_lt {last : IndexEntry} {key : Tuple} (hrise : schema.Rising entries)
    (hlast : entries.getLast? = some last) (h : schema.compare last.key key = .lt) :
    schema.startOf entries length key = length := by
  obtain ⟨init, rfl⟩ := List.getLast?_eq_some_iff.mp hlast
  -- All keys rise to the last one, which is too small already.
  have hnone : (init ++ [last]).find? (fun e => schema.compare e.key key != .lt) = none := by
    rw [List.find?_eq_none]
    intro e he
    rcases List.mem_append.mp he with he | he
    · have hlt := ((List.pairwise_append.mp hrise).2.2 e he last (List.mem_singleton_self last)).1
      simp [TransCmp.lt_trans hlt h]
    · obtain rfl := List.mem_singleton.mp he
      simp [h]
  rw [startOf, hnone]
  rfl

/-- A range that begins behind the last entry is empty. -/
theorem stopOf_of_getLast?_lt {last : IndexEntry} {a b : Tuple} (hrise : schema.Rising entries)
    (hlast : entries.getLast? = some last) (h : schema.compare last.key a = .lt)
    (hab : (schema.compare a b).isLE) (final : Bool) :
    schema.stopOf entries length b final = length := by
  unfold stopOf
  split
  · rfl
  · exact startOf_of_getLast?_lt hrise hlast (TransCmp.lt_of_lt_of_isLE h hab)

/-- A range that ends before the first entry is empty, also if it is final. -/
theorem stopOf_cons_of_lt {e : IndexEntry} {rest : List IndexEntry} {a b : Tuple}
    (hrise : schema.Rising (e :: rest)) (h : schema.compare b e.key = .lt)
    (hab : (schema.compare a b).isLE) (final : Bool) :
    schema.stopOf (e :: rest) length b final = schema.startOf (e :: rest) length a := by
  have hgt : schema.compare e.key b = .gt := OrientedCmp.gt_of_lt h
  have hstart : schema.compare e.key a ≠ .lt := by
    have hae := TransCmp.lt_of_isLE_of_lt hab h
    simp [OrientedCmp.gt_of_lt hae]
  rw [stopOf, reaches_cons hrise, hgt, startOf_cons (by simp [hgt]), startOf_cons hstart]
  simp

end KeySchema

/-! ## §3 The answer to one request -/

namespace FileChunk

@[simp] theorem make?_zero (path : Path) (offset : UInt64) : make? path offset 0 = none := rfl

/-- A slice is made unless it would be empty. -/
theorem make?_eq_some {path : Path} {offset length : UInt64} {c : FileChunk} :
    make? path offset length = some c ↔ length ≠ 0 ∧ c = ⟨path, offset, length⟩ := by
  unfold make?
  split <;> simp [*, eq_comm]

/-- Within scope, the slice is found through the index. -/
private theorem sliceBetween_eq_make? {index : Index} {data : Path} {length : UInt64}
    {first last : Tuple} {final : Bool} (hrise : index.schema.Rising index.entries.toList)
    (hbound : ∀ e ∈ index.entries.toList, e.offset ≤ length)
    (hle : (index.schema.compare first last).isLE)
    (hreach : index.schema.reaches index.entries.toList last = true)
    (hafter : ∃ e ∈ index.entries.toList, index.schema.compare e.key first ≠ .lt) :
    sliceBetween index data length first last final
      = .ok (make? data (index.schema.startOf index.entries.toList length first)
          (index.schema.stopOf index.entries.toList length last final
            - index.schema.startOf index.entries.toList length first)) := by
  -- Some entry does not sort before the first key, so the lookup finds an offset.
  have hsome : index.lookup? first
      = some (index.schema.startOf index.entries.toList length first) := by
    obtain ⟨e, he, hkey⟩ := hafter
    rw [Index.lookup?_eq_scan? hrise, Index.scan?, KeySchema.startOf]
    cases hfind : index.entries.toList.find? fun e => index.schema.compare e.key first != .lt with
    | some x => rfl
    | none => exact absurd (List.find?_eq_none.mp hfind e he) (by simpa using hkey)
  have hstop : (if final then length else (index.lookup? last).getD length)
      = index.schema.stopOf index.entries.toList length last final := by
    rw [Index.lookup?_eq_scan? hrise, KeySchema.stopOf, hreach, Bool.and_true]
    rfl
  have hstart := index.schema.startOf_le hbound first
  have hend := index.schema.stopOf_le hbound last final
  have horder := KeySchema.startOf_le_stopOf hrise hbound hle final
  rw [sliceBetween, hsome]
  simp only [hstop]
  -- Offsets are in order and within the file, so nothing is refused.
  rw [if_neg]
  rintro (h | h | h)
  · exact absurd hstart (UInt64.not_le.mpr h)
  · exact absurd hend (UInt64.not_le.mpr h)
  · exact absurd horder (UInt64.not_le.mpr h)

/-- On an index that rises, the answer to a request for the rows from `first` to `last` is the
slice from where the rows of `first` begin to where the range ends. -/
theorem rangeChunk_eq_make? {store : FileStore} {dir : Path} {length : UInt64} {index : Index}
    {start stop : Bytes} {first last : Tuple} (final : Bool)
    (hlength : fileLength store (dir.join Layout.dataFile) = .ok length)
    (hindex : openIndex store (dir.join Layout.indexFile) = .ok index)
    (hrise : index.schema.Rising index.entries.toList)
    (hbound : ∀ e ∈ index.entries.toList, e.offset ≤ length)
    (hkeys : readKeys index.schema start stop = .ok (first, last))
    (hle : (index.schema.compare first last).isLE) :
    rangeChunk store dir start stop final
      = .ok (make? (dir.join Layout.dataFile)
          (index.schema.startOf index.entries.toList length first)
          (index.schema.stopOf index.entries.toList length last final
            - index.schema.startOf index.entries.toList length first)) := by
  have hfirst : index.firstKey? = index.entries.toList.head?.map (·.key) := by
    rw [Index.firstKey?, ← Array.getElem?_toList, List.head?_eq_getElem?]
  have hlast : index.lastKey? = index.entries.toList.getLast?.map (·.key) := by
    rw [Index.lastKey?, Array.getLast?_toList]
  simp only [rangeChunk, sliceOf, hlength, hindex, hkeys, hfirst, hlast, bind, Except.bind]
  rcases hentries : index.entries.toList with _ | ⟨e, rest⟩
  case nil =>
    -- Without entries all offsets are the length, and there is no content.
    simp [KeySchema.startOf, KeySchema.stopOf, KeySchema.reaches, pure, Except.pure]
  case cons =>
    obtain ⟨l, hl⟩ : ∃ l, (e :: rest).getLast? = some l :=
      ⟨_, List.getLast?_eq_some_getLast (List.cons_ne_nil e rest)⟩
    have hnotgt : index.schema.compare first last ≠ .gt := Ordering.isLE_iff_ne_gt.mp hle
    have hrise' : index.schema.Rising (e :: rest) := hentries ▸ hrise
    simp only [List.head?_cons, Option.map_some, hl, if_neg hnotgt]
    split
    case isTrue hout =>
      -- Out of scope: the range is empty at the front or at the end.
      rcases hout with hfront | hback
      · rw [KeySchema.stopOf_cons_of_lt hrise' hfront hle, UInt64.sub_self, make?_zero]
        rfl
      · rw [KeySchema.stopOf_of_getLast?_lt hrise' hl hback hle,
          KeySchema.startOf_of_getLast?_lt hrise' hl hback, UInt64.sub_self, make?_zero]
        rfl
    case isFalse hin =>
      -- In scope: some entry is reached, and the last one does not sort before the first key.
      obtain ⟨hfront, hback⟩ := not_or.mp hin
      have hreach : index.schema.reaches index.entries.toList last = true := by
        rw [hentries, KeySchema.reaches_cons hrise']
        have hne : index.schema.compare e.key last ≠ .gt := fun h =>
          hfront (OrientedCmp.lt_of_gt h)
        simpa using hne
      have hmem : l ∈ index.entries.toList := hentries ▸ List.mem_of_getLast? hl
      rw [sliceBetween_eq_make? hrise hbound hle hreach ⟨l, hmem, hback⟩, hentries]

end FileChunk

end Shuffle
