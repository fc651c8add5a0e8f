import Mathlib
import Shuffle.Proofs.Plan.Bounds
import Shuffle.Proofs.Pull.Route

/-!
# Which rows a range request returns

An entry of an index stands for the rows from its offset on, up to the next entry or to the end of
the file. A request for a range returns these rows or leaves them out, all of them together: it is
read from its first key, included, to its last key, which is left to the next range.

- `KeyRange.owns` is that rule for a key.
- `SortedOutput.sends_iff_owns`: the service follows it, octet by octet.
-/

namespace Shuffle

open Std

/-! ## §1 Rows of an entry -/

namespace KeySchema

variable {schema : KeySchema} {entries : List IndexEntry} {length : UInt64} {i : Nat}
  {e : IndexEntry} {key : Tuple}

/-- A key that is not before another one is at it or behind it. -/
theorem compare_ne_lt_iff {a b : Tuple} :
    schema.compare a b ≠ .lt ↔ (schema.compare b a).isLE := by
  rw [Ordering.isLE_iff_ne_gt, not_iff_not, OrientedCmp.gt_iff_lt]

/-- Where the rows of the entry with index `i` end: at the next entry, or with the file. -/
def blockStop (entries : List IndexEntry) (length : UInt64) (i : Nat) : UInt64 :=
  (entries[i + 1]?.map (·.offset)).getD length

/-- An entry in front of the key is passed. -/
private theorem startOf_cons_of_lt {rest : List IndexEntry} (h : schema.compare e.key key = .lt) :
    schema.startOf (e :: rest) length key = schema.startOf rest length key := by
  rw [startOf, List.find?_cons_of_neg (by simp [h]), ← startOf]

/-- No key begins before the first entry. -/
private theorem blockStop_zero_le_startOf {rest : List IndexEntry}
    (hrise : schema.Rising rest) (hbound : ∀ e ∈ rest, e.offset ≤ length) (key : Tuple) :
    blockStop (e :: rest) length 0 ≤ schema.startOf rest length key := by
  cases rest with
  | nil => exact UInt64.le_refl length
  | cons next rest =>
    show next.offset ≤ _
    rw [startOf]
    -- What is found lies at the next offset or behind it. Without a find it is the end.
    cases hfind : (next :: rest).find? fun e => schema.compare e.key key != .lt with
    | none => exact hbound next List.mem_cons_self
    | some found =>
      rcases List.mem_cons.mp (List.mem_of_find?_eq_some hfind) with rfl | hmem
      · exact UInt64.le_refl _
      · exact ((List.pairwise_cons.mp hrise).1 found hmem).2

/-- Rows of a key at or before that of an entry do not begin behind the entry. -/
theorem startOf_le_offset (hrise : schema.Rising entries) (hi : entries[i]? = some e)
    (h : schema.compare e.key key ≠ .lt) : schema.startOf entries length key ≤ e.offset := by
  induction entries generalizing i with
  | nil => cases hi
  | cons first rest ih =>
    obtain ⟨hhead, htail⟩ := List.pairwise_cons.mp hrise
    by_cases hfirst : schema.compare first.key key = .lt
    · -- The search passes the first entry, so the one in question is further on.
      rw [startOf_cons_of_lt hfirst]
      cases i with
      | zero =>
        obtain rfl := Option.some.inj hi
        exact absurd hfirst h
      | succ i => exact ih htail hi
    · -- The search ends at the first entry, and no offset is smaller.
      rw [startOf_cons hfirst]
      cases i with
      | zero =>
        obtain rfl := Option.some.inj hi
        exact UInt64.le_refl _
      | succ i => exact (hhead e (List.mem_of_getElem? hi)).2

/-- Rows of a key behind that of an entry begin no earlier than the rows of the entry end. -/
theorem blockStop_le_startOf (hrise : schema.Rising entries)
    (hbound : ∀ e ∈ entries, e.offset ≤ length) (hi : entries[i]? = some e)
    (h : schema.compare e.key key = .lt) :
    blockStop entries length i ≤ schema.startOf entries length key := by
  induction entries generalizing i with
  | nil => cases hi
  | cons first rest ih =>
    obtain ⟨hhead, htail⟩ := List.pairwise_cons.mp hrise
    have hrest : ∀ e ∈ rest, e.offset ≤ length := fun e he =>
      hbound e (List.mem_cons_of_mem first he)
    cases i with
    | zero =>
      obtain rfl := Option.some.inj hi
      rw [startOf_cons_of_lt h]
      exact blockStop_zero_le_startOf htail hrest key
    | succ i =>
      -- The first entry lies before this one, and so before the key.
      have hfirst := TransCmp.lt_trans (hhead e (List.mem_of_getElem? hi)).1 h
      rw [startOf_cons_of_lt hfirst]
      exact ih htail hrest hi

/-- The rows of an entry end with the file at the latest. -/
theorem blockStop_le_length (hbound : ∀ e ∈ entries, e.offset ≤ length) (i : Nat) :
    blockStop entries length i ≤ length := by
  unfold blockStop
  cases hnext : entries[i + 1]? with
  | none => exact UInt64.le_refl _
  | some next => exact hbound next (List.mem_of_getElem? hnext)

section Position

variable {position : Nat} (hrise : schema.Rising entries)
  (hbound : ∀ e ∈ entries, e.offset ≤ length) (hi : entries[i]? = some e)
  (hfrom : e.offset.toNat ≤ position) (hto : position < (blockStop entries length i).toNat)

include hrise hbound hi hfrom hto

/-- Reading from a key comes by the rows of an entry unless the entry lies before the key. -/
theorem startOf_le_iff :
    (schema.startOf entries length key).toNat ≤ position ↔ schema.compare e.key key ≠ .lt := by
  constructor
  · intro hle hlt
    have hstop := UInt64.le_iff_toNat_le.mp (blockStop_le_startOf hrise hbound hi hlt)
    omega
  · intro hnotlt
    have hstart : schema.startOf entries length key ≤ e.offset :=
      startOf_le_offset hrise hi hnotlt
    replace hstart := UInt64.le_iff_toNat_le.mp hstart
    omega

/-- Reading to a key comes by them if the entry lies before the key. To the end of the file it comes
by all rows, as long as the key reaches the entry. -/
theorem lt_stopOf_iff {final : Bool} (hreach : final = true → (schema.compare e.key key).isLE) :
    position < (schema.stopOf entries length key final).toNat ↔
      final = true ∨ schema.compare e.key key = .lt := by
  cases final with
  | true =>
    -- A final range goes on to the end of the data, if any key reaches it.
    have hreaches : schema.reaches entries key = true := by
      rw [reaches, List.any_eq_true]
      exact ⟨e, List.mem_of_getElem? hi, by simpa using Ordering.isLE_iff_ne_gt.mp (hreach rfl)⟩
    have hend := UInt64.le_iff_toNat_le.mp (blockStop_le_length hbound i)
    simp only [stopOf, hreaches, Bool.and_self, if_true, true_or, iff_true]
    omega
  | false =>
    simp only [stopOf, Bool.false_and, Bool.false_eq_true, if_false, false_or]
    rw [← Nat.not_le, startOf_le_iff hrise hbound hi hfrom hto, not_not]

end Position

end KeySchema

/-! ## §2 Rows of a range -/

/-- What a request between two keys asks for: the range of the keys in the direction of the
schema. -/
structure KeyRange.Asked (schema : KeySchema) (start stop : Bytes) (r : KeyRange) : Prop where
  low : schema.decode start = .ok r.low
  high : schema.decode stop = .ok r.high
  direction : schema.ascendsFirst = r.ascending

/-- A request asks for the two ends in the order in which they are read. -/
theorem KeyRange.Asked.readKeys_eq {schema : KeySchema} {start stop : Bytes} {r : KeyRange}
    (h : r.Asked schema start stop) :
    FileChunk.readKeys schema start stop = .ok (r.first, r.last) := by
  simp only [FileChunk.readKeys, h.low, h.high, h.direction, KeyRange.first, KeyRange.last]
  cases r.ascending <;> rfl

/-- Is a row one that the fetch of a range returns? Reading begins at the first end of the range
and stops before the last one, unless the range is final. -/
def KeyRange.owns (schema : KeySchema) (r : KeyRange) (final : Bool) (row : Tuple) : Bool :=
  (schema.compare r.first row).isLE && (final || schema.compare row r.last == .lt)

/-- The answer to an ask has the octet at some position of the data. -/
def RangeAsk.Sends (ask : RangeAsk) (store : FileStore) (dir : Path) (position : Nat) : Prop :=
  ∃ c, ask.chunk store dir = .ok (some c) ∧ c.offset.toNat ≤ position ∧
    position < c.offset.toNat + c.length.toNat

namespace FileChunk

/-- The positions of the octets of an answer. -/
def span : Option FileChunk → Set Nat
  | none => ∅
  | some c => Set.Ico c.offset.toNat (c.offset.toNat + c.length.toNat)

/-- The span of an answer has the octets of its slice. -/
theorem mem_span_iff {answer : Option FileChunk} {position : Nat} :
    position ∈ span answer ↔ ∃ c, answer = some c ∧ c.offset.toNat ≤ position ∧
      position < c.offset.toNat + c.length.toNat := by
  cases answer <;> simp [span]

/-- The slice between two offsets has the octets between them. -/
theorem span_make? {path : Path} {start stop : UInt64} (hle : start ≤ stop) :
    span (make? path start (stop - start)) = Set.Ico start.toNat stop.toNat := by
  have horder := UInt64.le_iff_toNat_le.mp hle
  have hsub : (stop - start).toNat = stop.toNat - start.toNat := UInt64.toNat_sub_of_le _ _ hle
  -- Of an empty interval no slice is made.
  unfold make?
  split
  case isTrue hzero =>
    rw [hzero, UInt64.toNat_zero] at hsub
    rw [Set.Ico_eq_empty (by omega)]
    rfl
  case isFalse =>
    show Set.Ico start.toNat (start.toNat + (stop - start).toNat) = _
    rw [hsub, Nat.add_sub_cancel' horder]

/-- There is no slice between two offsets exactly if there are no octets between them. -/
theorem make?_eq_none_iff_span {path : Path} {start stop : UInt64} (hle : start ≤ stop) :
    make? path start (stop - start) = none ↔ span (make? path start (stop - start)) = ∅ := by
  have hsub : (stop - start).toNat = stop.toNat - start.toNat := UInt64.toNat_sub_of_le _ _ hle
  have horder := UInt64.le_iff_toNat_le.mp hle
  rw [span_make? hle, Set.Ico_eq_empty_iff, make?, ite_eq_left_iff, ← UInt64.toNat_inj, hsub,
    UInt64.toNat_zero]
  simp only [reduceCtorEq, imp_false, not_not]
  omega

end FileChunk

namespace SortedOutput

variable {store : FileStore} {dir : Path} {schema : KeySchema} {log : IndexLog} {content : Bytes}

/-- **A fetch returns the rows that its range owns.** Of the octets that an entry stands for all
are sent if the range owns the key of the entry, and none otherwise. A final range has to reach the
entry, as ranges do whose last end is the last key there is. -/
theorem sends_iff_owns (h : SortedOutput store dir schema log content) (hfits : log.Fits)
    {r : KeyRange} {start stop : Bytes} {final : Bool}
    (hle : (schema.compare r.first r.last).isLE)
    (hkeys : FileChunk.readKeys schema start stop
      = .ok (schema.stored r.first, schema.stored r.last))
    {i : Nat} {e : IndexEntry} (hi : log.entries.toList[i]? = some e)
    (hreach : final = true → (schema.compare e.key r.last).isLE) {position : Nat}
    (hfrom : e.offset.toNat ≤ position)
    (hto : position < (KeySchema.blockStop log.entries.toList
      (UInt64.ofNat content.length) i).toNat) :
    (RangeAsk.mk start stop final).Sends store dir position ↔
      r.owns schema final e.key = true := by
  have hbound : ∀ e ∈ log.entries.toList, e.offset ≤ UInt64.ofNat content.length :=
    fun _ he => h.offset_le he
  -- The slice lies between two places of the index, and the block of a key within it or without.
  have hchunk := Route.chunk_eq h hfits hle hkeys final
  have horder := KeySchema.startOf_le_stopOf h.rising hbound hle final
  simp only [RangeAsk.Sends, hchunk, Except.ok.injEq]
  rw [← FileChunk.mem_span_iff, FileChunk.span_make? horder, Set.mem_Ico,
    KeySchema.startOf_le_iff h.rising hbound hi hfrom hto, KeySchema.compare_ne_lt_iff,
    KeySchema.lt_stopOf_iff h.rising hbound hi hfrom hto hreach]
  simp [KeyRange.owns]

end SortedOutput

end Shuffle
