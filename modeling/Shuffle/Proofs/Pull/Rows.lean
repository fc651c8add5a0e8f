import Mathlib
import Shuffle.Proofs.Delivery.Covered
import Shuffle.Proofs.Key.Canonical
import Shuffle.Proofs.Plan.Ranges
import Shuffle.Proofs.Pull.Blocks

/-!
# Range requests are answered with the rows of their keys

The rows of an entry are the octets from its offset on, up to the next entry or to the end of the
file. A request between two keys is answered with the rows of the entries from the first key to the
last one, which is excluded, and with nothing exactly if these have no octets. A final request goes
on through all later rows, but only if its last key does not lie before all entries.

- `KeySchema.rowsOf` are the rows of the entries with certain keys.
- `KeySchema.rowsOf_owns`: the rows of a range are those between two offsets.
- `SortedOutput.range_covers_rows` is the answer to a request that is not final.
- `SortedOutput.final_covers_rest` is the answer to a final one.
-/

namespace Shuffle

open Std

/-! ## §1 The rows of certain entries -/

namespace KeySchema

variable {schema : KeySchema} {entries : List IndexEntry} {length : UInt64}

/-- The octets of the rows of all entries whose keys are wanted. -/
def rowsOf (entries : List IndexEntry) (length : UInt64) (wanted : Tuple → Bool) : Set Nat :=
  {position | ∃ i e, entries[i]? = some e ∧ wanted e.key = true ∧
    position ∈ Set.Ico e.offset.toNat (blockStop entries length i).toNat}

/-- Each octet behind the offset of some entry belongs to the rows of an entry: the last one that
does not begin behind it. -/
private theorem exists_block {position : Nat} {e : IndexEntry} (he : e ∈ entries)
    (hfrom : e.offset.toNat ≤ position) (hto : position < length.toNat) :
    ∃ i x, entries[i]? = some x ∧ x.offset.toNat ≤ position ∧
      position < (blockStop entries length i).toNat := by
  induction entries generalizing e with
  | nil => cases he
  | cons first rest ih =>
    by_cases hlater : ∃ x ∈ rest, x.offset.toNat ≤ position
    · obtain ⟨x, hx, hxfrom⟩ := hlater
      obtain ⟨i, y, hy, hyfrom, hyto⟩ := ih hx hxfrom
      exact ⟨i + 1, y, hy, hyfrom, hyto⟩
    · -- All that follow begin behind the octet, so it is in the rows of the first entry.
      obtain rfl : e = first :=
        (List.mem_cons.mp he).resolve_right fun hmem => hlater ⟨e, hmem, hfrom⟩
      refine ⟨0, e, rfl, hfrom, ?_⟩
      cases rest with
      | nil => exact hto
      | cons next rest => exact Nat.lt_of_not_le fun hle => hlater ⟨next, List.mem_cons_self, hle⟩

/-- Octets between where rows of a key begin and the end of the file belong to an entry. -/
private theorem exists_mem_of_startOf_le {position : Nat} {key : Tuple}
    (hfrom : (schema.startOf entries length key).toNat ≤ position)
    (hto : position < length.toNat) : ∃ e ∈ entries, e.offset.toNat ≤ position := by
  unfold startOf at hfrom
  cases hfind : entries.find? fun e => schema.compare e.key key != .lt with
  | none =>
    rw [hfind] at hfrom
    exact absurd hto (Nat.not_lt.mpr hfrom)
  | some e =>
    rw [hfind] at hfrom
    exact ⟨e, List.mem_of_find?_eq_some hfind, hfrom⟩

/-- The rows that a range owns are those from where the rows of its first key begin: to the end of
the file if it is final, and else to where the rows of its last key begin. -/
theorem rowsOf_owns (hrise : schema.Rising entries) (hbound : ∀ e ∈ entries, e.offset ≤ length)
    (r : KeyRange) (final : Bool) :
    rowsOf entries length (r.owns schema final)
      = Set.Ico (schema.startOf entries length r.first).toNat
          (if final then length else schema.startOf entries length r.last).toNat := by
  have hend : (if final then length else schema.startOf entries length r.last).toNat
      ≤ length.toNat := by
    split
    · exact Nat.le_refl _
    · exact UInt64.le_iff_toNat_le.mp (schema.startOf_le hbound r.last)
  -- An octet in the rows of an entry is between the offsets exactly if the range owns the entry.
  have howns : ∀ {i e position}, entries[i]? = some e → e.offset.toNat ≤ position →
      position < (blockStop entries length i).toNat →
      (r.owns schema final e.key = true ↔
        (schema.startOf entries length r.first).toNat ≤ position ∧
          position < (if final then length else schema.startOf entries length r.last).toNat) := by
    intro i e position hi hfrom hto
    rw [startOf_le_iff hrise hbound hi hfrom hto, compare_ne_lt_iff, KeyRange.owns,
      Bool.and_eq_true]
    refine and_congr_right fun _ => ?_
    cases final with
    | true =>
      have hstop := UInt64.le_iff_toNat_le.mp (blockStop_le_length hbound i)
      simp only [Bool.true_or, if_true, true_iff]
      omega
    | false =>
      rw [Bool.false_or, beq_iff_eq, if_neg Bool.false_ne_true, ← Nat.not_le,
        startOf_le_iff hrise hbound hi hfrom hto, not_not]
  ext position
  constructor
  · rintro ⟨i, e, hi, hwanted, hfrom, hto⟩
    exact (howns hi hfrom hto).mp hwanted
  · rintro ⟨hfrom, hto⟩
    obtain ⟨e, he, hefrom⟩ := exists_mem_of_startOf_le hfrom (hto.trans_le hend)
    obtain ⟨i, x, hi, hxfrom, hxto⟩ := exists_block he hefrom (hto.trans_le hend)
    exact ⟨i, x, hi, (howns hi hxfrom hxto).mpr ⟨hfrom, hto⟩, hxfrom, hxto⟩

end KeySchema

/-! ## §2 Answers -/

/-- A final range has all rows from its first end on. -/
theorem KeyRange.owns_final (schema : KeySchema) (r : KeyRange) :
    r.owns schema true = fun row => (schema.compare r.first row).isLE := by
  funext row
  rw [owns, Bool.true_or, Bool.and_true]

namespace SortedOutput

variable {store : FileStore} {dir : Path} {schema : KeySchema} {log : IndexLog} {content : Bytes}
  {start stop : Bytes} {r : KeyRange}

/-- An answer is right if it comes from the data, has the rows of all entries whose keys are wanted,
and is there unless these have no octets. -/
structure Answers (log : IndexLog) (content : Bytes) (data : Path) (wanted : Tuple → Bool)
    (answer : Option FileChunk) : Prop where
  path_eq : ∀ c, answer = some c → c.path = data
  span_eq : FileChunk.span answer
    = KeySchema.rowsOf log.entries.toList (UInt64.ofNat content.length) wanted
  eq_none_iff : answer = none ↔
    KeySchema.rowsOf log.entries.toList (UInt64.ofNat content.length) wanted = ∅

/-- The keys of a request are as the schema keeps them. -/
private theorem readKeys_of_asked (h : r.Asked schema start stop) :
    FileChunk.readKeys schema start stop = .ok (schema.stored r.first, schema.stored r.last) :=
  InputStage.readKeys_of_encode (KeySchema.encode_of_decode h.low)
    (KeySchema.encode_of_decode h.high) h.direction

/-- Slices between two offsets are right for the entries whose rows are between them. -/
private theorem answers_make? {data : Path} {wanted : Tuple → Bool} {a b : UInt64} (hle : a ≤ b)
    (hrows : KeySchema.rowsOf log.entries.toList (UInt64.ofNat content.length) wanted
      = Set.Ico a.toNat b.toNat) :
    Answers log content data wanted (FileChunk.make? data a (b - a)) where
  path_eq := fun _ h => congrArg FileChunk.path (FileChunk.make?_eq_some.mp h).2
  span_eq := (FileChunk.span_make? hle).trans hrows.symm
  eq_none_iff := by
    rw [FileChunk.make?_eq_none_iff_span hle, FileChunk.span_make? hle, hrows]

/-- **A range request is answered with the rows of its range.** Its keys may be keys of the index or
lie between, before or behind them. If the index is opened as it was written, nothing is refused. -/
theorem range_covers_rows (h : SortedOutput store dir schema log content)
    (hasked : r.Asked schema start stop) (hle : (schema.compare r.first r.last).isLE) :
    (FileChunk.openIndex store (dir.join Layout.indexFile) = .ok log.index ↔ log.Fits) ∧
      (log.Fits → ∃ answer, FileChunk.rangeChunk store dir start stop false = .ok answer ∧
        Answers log content (dir.join Layout.dataFile) (r.owns schema false) answer) := by
  refine ⟨h.openIndex_eq_iff, fun hfits => ?_⟩
  have hbound : ∀ e ∈ log.entries.toList, e.offset ≤ UInt64.ofNat content.length :=
    fun _ he => h.offset_le he
  have hkeys := readKeys_of_asked hasked
  refine ⟨_, Route.chunk_eq h hfits hle hkeys false, ?_⟩
  exact answers_make? (KeySchema.startOf_le_stopOf h.rising hbound hle false)
    (KeySchema.rowsOf_owns h.rising hbound r false)

/-- Keys that fall. -/
def fallingSchema : KeySchema := ⟨[⟨"k", .int8, false, false⟩]⟩

/-- An index of three such keys. -/
def fallingLog : IndexLog :=
  IndexLog.run fallingSchema [⟨⟨[.int8 50]⟩, 0⟩, ⟨⟨[.int8 30]⟩, 4⟩, ⟨⟨[.int8 12]⟩, 6⟩]

/-- The index was written in the falling order of its keys. -/
private theorem sorted_falling :
    SortedOutput (singleton fallingLog [1, 2, 3, 4, 5, 6, 7, 8]) ⟨"d"⟩ fallingSchema fallingLog
      [1, 2, 3, 4, 5, 6, 7, 8] :=
  of_singleton (by decide) (by decide +kernel) (by decide)

/-- Its log is small enough to be read back. -/
private theorem fits_falling : fallingLog.Fits :=
  IndexLog.fits_of_width ⟨by decide, by decide +kernel⟩ (by decide) (by decide)

/-- From 40 down to 12, which is excluded, there are the rows of 30. -/
theorem range_covers_rows_falling :
    ∃ answer, FileChunk.rangeChunk
        (singleton fallingLog [1, 2, 3, 4, 5, 6, 7, 8]) ⟨"d"⟩
        [0, 0, 0, 0, 0, 0, 0, 0, 12] [0, 0, 0, 0, 0, 0, 0, 0, 40] false = .ok answer ∧
      FileChunk.span answer = KeySchema.rowsOf fallingLog.entries.toList 8
        (KeyRange.owns fallingSchema ⟨⟨[.int8 12]⟩, ⟨[.int8 40]⟩, false⟩ false) ∧
      5 ∈ FileChunk.span answer := by
  have hasked : KeyRange.Asked fallingSchema [0, 0, 0, 0, 0, 0, 0, 0, 12]
      [0, 0, 0, 0, 0, 0, 0, 0, 40] ⟨⟨[.int8 12]⟩, ⟨[.int8 40]⟩, false⟩ := ⟨rfl, rfl, rfl⟩
  obtain ⟨-, hcovers⟩ := range_covers_rows sorted_falling hasked rfl
  obtain ⟨answer, hanswer, hrows⟩ := hcovers fits_falling
  refine ⟨answer, hanswer, hrows.span_eq, ?_⟩
  rw [hrows.span_eq]
  exact ⟨1, ⟨⟨[.int8 30]⟩, 4⟩, rfl, rfl, by decide, by decide⟩

/-- **A final request is answered with all rows from its first key on**, unless its last key lies
before all entries, when it is out of scope. Wherever else the last key lies does not matter. -/
theorem final_covers_rest (h : SortedOutput store dir schema log content)
    (hasked : r.Asked schema start stop) (hle : (schema.compare r.first r.last).isLE)
    {first : IndexEntry} (hfirst : log.entries[0]? = some first) :
    (FileChunk.openIndex store (dir.join Layout.indexFile) = .ok log.index ↔ log.Fits) ∧
      (log.Fits → ∃ answer, FileChunk.rangeChunk store dir start stop true = .ok answer ∧
        (schema.compare r.last first.key = .lt → answer = none) ∧
        (schema.compare r.last first.key ≠ .lt →
          Answers log content (dir.join Layout.dataFile)
            (fun key => (schema.compare r.first key).isLE) answer ∧
          FileChunk.span answer = Set.Ico
            (schema.startOf log.entries.toList (UInt64.ofNat content.length) r.first).toNat
            content.length)) := by
  refine ⟨h.openIndex_eq_iff, fun hfits => ?_⟩
  obtain ⟨rest, hentries⟩ := IndexLog.toList_eq_cons hfirst
  have hbound : ∀ e ∈ log.entries.toList, e.offset ≤ UInt64.ofNat content.length :=
    fun _ he => h.offset_le he
  have hrise : schema.Rising (first :: rest) := hentries ▸ h.rising
  have hkeys := readKeys_of_asked hasked
  have horder := KeySchema.startOf_le_stopOf h.rising hbound hle true
  refine ⟨_, Route.chunk_eq h hfits hle hkeys true, ?early, ?late⟩
  case early =>
    intro hearly
    rw [hentries, KeySchema.stopOf_cons_of_lt hrise hearly hle, UInt64.sub_self,
      FileChunk.make?_zero]
  case late =>
    intro hlate
    -- The first entry is reached, so that reading goes on to the end of the file.
    have hstop : schema.stopOf log.entries.toList (UInt64.ofNat content.length) r.last true
        = UInt64.ofNat content.length := by
      have hreached : schema.compare first.key r.last ≠ .gt := fun hgt =>
        hlate (OrientedCmp.lt_of_gt hgt)
      rw [hentries]
      exact KeySchema.stopOf_eq_length (Ordering.isLE_iff_ne_gt.mpr hreached)
    have hrows := KeySchema.rowsOf_owns h.rising hbound r true
    rw [KeyRange.owns_final, if_pos rfl] at hrows
    rw [hstop] at horder ⊢
    refine ⟨answers_make? horder hrows, ?_⟩
    rw [FileChunk.span_make? horder, h.toNat_length]

/-- A final request to the key 20 goes on behind it, to the end of the file. -/
theorem final_covers_rest_falling :
    ∃ answer, FileChunk.rangeChunk
        (singleton fallingLog [1, 2, 3, 4, 5, 6, 7, 8]) ⟨"d"⟩
        [0, 0, 0, 0, 0, 0, 0, 0, 20] [0, 0, 0, 0, 0, 0, 0, 0, 40] true = .ok answer ∧
      FileChunk.span answer = KeySchema.rowsOf fallingLog.entries.toList 8
        (fun key => (fallingSchema.compare ⟨[.int8 40]⟩ key).isLE) ∧
      FileChunk.span answer = Set.Ico 4 8 := by
  have hasked : KeyRange.Asked fallingSchema [0, 0, 0, 0, 0, 0, 0, 0, 20]
      [0, 0, 0, 0, 0, 0, 0, 0, 40] ⟨⟨[.int8 20]⟩, ⟨[.int8 40]⟩, false⟩ := ⟨rfl, rfl, rfl⟩
  have hfirst : fallingLog.entries[0]? = some ⟨⟨[.int8 50]⟩, 0⟩ := rfl
  obtain ⟨-, hcovers⟩ := final_covers_rest sorted_falling hasked rfl hfirst
  obtain ⟨answer, hanswer, -, hlate⟩ := hcovers fits_falling
  obtain ⟨hrows, hspan⟩ := hlate (by decide)
  exact ⟨answer, hanswer, hrows.span_eq, hspan.trans rfl⟩

/-- A final request for the keys from 60 to 55 has no answer, although all rows follow them. -/
theorem final_skips_later_rows :
    SortedOutput (singleton fallingLog [1, 2, 3, 4, 5, 6, 7, 8]) ⟨"d"⟩
        fallingSchema fallingLog [1, 2, 3, 4, 5, 6, 7, 8] ∧
      fallingLog.Fits ∧
      KeyRange.Asked fallingSchema [0, 0, 0, 0, 0, 0, 0, 0, 55] [0, 0, 0, 0, 0, 0, 0, 0, 60]
        ⟨⟨[.int8 55]⟩, ⟨[.int8 60]⟩, false⟩ ∧
      (fallingSchema.compare ⟨[.int8 60]⟩ ⟨[.int8 55]⟩).isLE ∧
      FileChunk.rangeChunk (singleton fallingLog [1, 2, 3, 4, 5, 6, 7, 8]) ⟨"d"⟩
        [0, 0, 0, 0, 0, 0, 0, 0, 55] [0, 0, 0, 0, 0, 0, 0, 0, 60] true = .ok none ∧
      KeySchema.rowsOf fallingLog.entries.toList 8
        (fun key => (fallingSchema.compare ⟨[.int8 60]⟩ key).isLE) = Set.Ico 0 8 := by
  refine ⟨sorted_falling, fits_falling, ⟨rfl, rfl, rfl⟩, rfl, by decide +kernel, ?_⟩
  have hbound : ∀ e ∈ fallingLog.entries.toList, e.offset ≤ 8 := by decide
  have hrows := KeySchema.rowsOf_owns sorted_falling.rising hbound
    ⟨⟨[.int8 55]⟩, ⟨[.int8 60]⟩, false⟩ true
  rw [KeyRange.owns_final] at hrows
  exact hrows

end SortedOutput

end Shuffle
