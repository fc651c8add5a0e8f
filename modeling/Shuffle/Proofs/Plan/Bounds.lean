import Mathlib
import Shuffle.Plan.Statistics
import Shuffle.Proofs.Fallible
import Shuffle.Proofs.Key.Columns

/-!
# The ends of a key range in reading order

The range that statistics give is written in the value order of its first column. In the order in
which rows are read, its first end has in each column the value that the column's direction meets
first, and its last end the one met last, whichever way the columns run.

- `KeyRange.first` and `KeyRange.last` are the ends in reading order.
- `TableStats.keyRange_get` finds both in a column's statistics.
-/

namespace Shuffle

open Std

/-! ## §1 Ends of ranges -/

namespace KeyRange

/-- The end of a range that is read first. -/
def first (r : KeyRange) : Tuple := if r.ascending then r.low else r.high

/-- The end of a range that is read last. -/
def last (r : KeyRange) : Tuple := if r.ascending then r.high else r.low

end KeyRange

namespace TableStats

variable {stats : TableStats} {schema : KeySchema} {key : SortKey} {range : KeyRange}

/-- The extreme values of a column, the one that is read first in front. -/
def readEnds (stats : TableStats) (key : SortKey) : Except PlanError (Datum × Datum) :=
  (stats.bounds key).map fun (min, max) => if key.ascending then (min, max) else (max, min)

/-- Accepted statistics are values, and in order. -/
theorem bounds_ok {min max : Datum} (h : stats.bounds key = .ok (min, max)) :
    min.isNull = false ∧ max.isNull = false ∧ (min.cmp max).isLE := by
  unfold bounds at h
  split at h
  case h_1 column min' max' hcolumn =>
    split_ifs at h with hnull horder
    cases h
    rw [Bool.not_eq_true, Bool.or_eq_false_iff] at hnull
    exact ⟨hnull.1, hnull.2, Ordering.isLE_iff_ne_gt.mpr horder⟩
  case h_2 => cases h

/-- Bounds are the extreme values as they were reported. -/
theorem bounds_of_column? {name : String} {min max low high : Datum}
    (hcolumn : stats.column? key.column = some ⟨name, some min, some max⟩)
    (h : stats.bounds key = .ok (low, high)) : low = min ∧ high = max := by
  unfold bounds at h
  rw [hcolumn] at h
  dsimp only at h
  split_ifs at h
  cases h
  exact ⟨rfl, rfl⟩

/-- The ends of a column are values, and in its order. -/
theorem readEnds_ok {first last : Datum} (h : stats.readEnds key = .ok (first, last)) :
    first.isNull = false ∧ last.isNull = false ∧ (key.compare first last).isLE := by
  obtain ⟨⟨min, max⟩, hbounds, heq⟩ := Fallible.map_eq_ok.mp h
  obtain ⟨hmin, hmax, horder⟩ := bounds_ok hbounds
  dsimp only at heq
  cases hdirection : key.ascending with
  | true =>
    rw [if_pos hdirection] at heq
    cases heq
    rw [SortKey.compare_of_values hmin hmax, if_pos hdirection]
    exact ⟨hmin, hmax, horder⟩
  | false =>
    -- Downward, the greatest value is in front.
    rw [if_neg (by simp [hdirection])] at heq
    cases heq
    rw [SortKey.compare_of_values hmax hmin, if_neg (by simp [hdirection]), Datum.swap_cmp]
    exact ⟨hmax, hmin, horder⟩

/-- The ends of the columns behind the first, in reading order. -/
private theorem trailingEnds_eq (leading : SortKey) (key : SortKey) :
    stats.trailingEnds leading key
      = (stats.readEnds key).map fun (first, last) =>
          if leading.ascending then (first, last) else (last, first) := by
  unfold trailingEnds readEnds
  cases stats.bounds key with
  | error fault => rfl
  | ok ends =>
    cases hkey : key.ascending <;> cases hleading : leading.ascending <;> rfl

/-- In each column, the ends of the range are those of the column's statistics. -/
theorem keyRange_get (h : stats.keyRange schema = .ok range) {i : Nat}
    (hi : schema.keys[i]? = some key) :
    stats.readEnds key = .ok (range.first.get i, range.last.get i) := by
  obtain ⟨keys⟩ := schema
  cases keys with
  | nil => cases hi
  | cons leading trailing =>
    obtain ⟨⟨low, high⟩, hleading, h⟩ := Fallible.bind_eq_ok.mp h
    obtain ⟨ends, htrailing, h⟩ := Fallible.bind_eq_ok.mp h
    cases h
    cases i with
    | zero =>
      -- The first column has its least value at the low end, whatever its direction.
      obtain rfl : leading = key := Option.some.inj hi
      rw [readEnds, hleading]
      cases hdirection : leading.ascending <;>
        simp [Except.map, KeyRange.first, KeyRange.last, Tuple.get]
    | succ i =>
      -- The others have at either end what is read there.
      obtain ⟨e, he, hends⟩ := Fallible.getElem?_of_mapM htrailing hi
      rw [trailingEnds_eq] at hends
      obtain ⟨⟨first, last⟩, hread, rfl⟩ := Fallible.map_eq_ok.mp hends
      rw [hread]
      cases hdirection : leading.ascending <;>
        simp [KeyRange.first, KeyRange.last, Tuple.get, hdirection, he]

/-- The first column has its least value at the low end, whatever its direction. -/
theorem keyRange_leading (h : stats.keyRange schema = .ok range) :
    ∃ leading, schema.keys[0]? = some leading ∧ range.ascending = leading.ascending ∧
      stats.bounds leading = .ok (range.low.get 0, range.high.get 0) := by
  obtain ⟨keys⟩ := schema
  cases keys with
  | nil => cases h
  | cons leading trailing =>
    obtain ⟨⟨low, high⟩, hbounds, h⟩ := Fallible.bind_eq_ok.mp h
    obtain ⟨ends, -, h⟩ := Fallible.bind_eq_ok.mp h
    cases h
    exact ⟨leading, rfl, rfl, hbounds⟩

/-- The range runs in the direction of the first column. -/
theorem keyRange_ascending (h : stats.keyRange schema = .ok range) :
    ∃ leading, schema.keys[0]? = some leading ∧ range.ascending = leading.ascending := by
  obtain ⟨leading, hkeys, hascending, -⟩ := keyRange_leading h
  exact ⟨leading, hkeys, hascending⟩

end TableStats

end Shuffle
