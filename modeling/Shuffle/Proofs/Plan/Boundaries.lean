import Mathlib
import Shuffle.Plan.Split
import Shuffle.Proofs.Fields
import Shuffle.Proofs.Plan.Bounds

/-!
# Boundaries of a split are in order

The inner boundaries of a split rise strictly in the first column and stay within its ends. The
columns behind the first are those of the end that is read first, so boundaries are in the order of
whole rows too, also where the last inner boundary has the first value of the last end.

- `RangeSplit.Valid` is what statistics and the checks of a split give.
- `RangeSplit.pairwise_boundaries` orders boundaries as they are read.
- `RangeSplit.encode_boundary`: if the two ends can be encoded, so can every boundary.
-/

namespace Shuffle

open Std

/-! ## §1 Values that rise -/

namespace Datum

/-- A column has at least one value. -/
theorem cardinality_pos (low high : Datum) : 0 < low.cardinality high := by
  unfold cardinality
  split
  · exact Nat.succ_pos _
  · exact Nat.succ_pos _
  · split <;> exact Nat.succ_pos _

/-- The boundaries that are kept are some of those offered, and none is above the high end. -/
theorem mem_rising {high last v : Datum} {values : List Datum} (h : v ∈ rising high last values) :
    v ∈ values ∧ (v.cmp high).isLE := by
  fun_induction rising high last values with
  | case1 last => cases h
  | case2 last x rest hx ih =>
    rcases List.mem_cons.mp h with rfl | h
    · exact ⟨List.mem_cons_self, Ordering.isLE_iff_ne_gt.mpr hx.2⟩
    · exact ⟨List.mem_cons_of_mem x (ih h).1, (ih h).2⟩
  | case3 last x rest _ ih => exact ⟨List.mem_cons_of_mem x (ih h).1, (ih h).2⟩

/-- The values kept rise strictly, from the value before them on. -/
theorem pairwise_rising (high last : Datum) (values : List Datum) :
    (last :: rising high last values).Pairwise fun a b => a.cmp b = .lt := by
  fun_induction rising high last values with
  | case1 last => exact List.pairwise_singleton _ last
  | case2 last x rest hx ih =>
    have hlt : last.cmp x = .lt := OrientedCmp.lt_of_gt hx.1
    refine List.pairwise_cons.mpr ⟨?_, ih⟩
    -- Everything kept lies above `x`, and `x` above `last`.
    intro b hb
    rcases List.mem_cons.mp hb with rfl | hb
    · exact hlt
    · exact TransCmp.lt_trans hlt ((List.pairwise_cons.mp ih).1 b hb)
  | case3 last x rest _ ih => exact ih

/-- Values are only left out. -/
theorem length_rising (high last : Datum) (values : List Datum) :
    (rising high last values).length ≤ values.length := by
  fun_induction rising high last values with
  | case1 last => exact Nat.le_refl 0
  | case2 last x rest _ ih => exact Nat.succ_le_succ ih
  | case3 last x rest _ ih => exact Nat.le_succ_of_le ih

/-- A whole number in the width of another fits every column that the other one fits. -/
private theorem encode_intLike {key : SortKey} {model : Datum} {field : Bytes} {a : Int}
    (hmodel : model.int? = some a) (h : key.encode model = .ok field) (m : Int) :
    ∃ field', key.encode (model.intLike m) = .ok field' := by
  cases model with
  | int4 v => cases hkey : key.dataType <;> simp_all [SortKey.encode, intLike]
  | int8 v => cases hkey : key.dataType <;> simp_all [SortKey.encode, intLike]
  | null => cases hmodel
  | float8 v => cases hmodel
  | text v => cases hmodel

/-- A cut is not missing. -/
theorem isNull_cut? {low high v : Datum} {n i : Nat} (h : cut? low high n i = some v) :
    v.isNull = false := by
  unfold cut? at h
  split at h
  case h_1 a b =>
    cases h
    rfl
  case h_2 a b =>
    obtain ⟨c, -, rfl⟩ := Option.map_eq_some_iff.mp h
    rfl
  case h_3 =>
    -- Whole numbers of either width; nothing else is cut.
    split at h
    case h_1 a b ha hb =>
      cases h
      unfold intLike
      split <;> rfl
    case h_2 => cases h

/-- A cut fits every column that the low end fits. -/
theorem encode_cut? {low high v : Datum} {n i : Nat} (h : cut? low high n i = some v)
    {key : SortKey} {field : Bytes} (hlow : key.encode low = .ok field) :
    ∃ field', key.encode v = .ok field' := by
  unfold cut? at h
  split at h
  case h_1 a b =>
    cases h
    cases hkey : key.dataType <;> simp_all [SortKey.encode]
  case h_2 a b =>
    obtain ⟨c, -, rfl⟩ := Option.map_eq_some_iff.mp h
    -- One character has at most four octets, which is never too long.
    have hshort : (Bytes.ofText (String.singleton c)).length < UInt32.size := by
      have hfour := Char.utf8Size_le_four c
      rw [String.singleton_eq_ofList, Bytes.ofText_ofList, List.flatMap_singleton,
        String.length_utf8EncodeChar]
      exact Nat.lt_of_le_of_lt hfour (by decide)
    cases hkey : key.dataType <;> simp_all [SortKey.encode]
  case h_3 =>
    split at h
    case h_1 a b ha hb =>
      cases h
      exact encode_intLike ha hlow _
    case h_2 => cases h

/-- The inner boundaries, behind the low end, rise strictly. -/
theorem pairwise_innerBoundaries (low high : Datum) (n : Nat) :
    (low :: innerBoundaries low high n).Pairwise fun a b => a.cmp b = .lt :=
  pairwise_rising high low _

/-- There are at most as many cuts as were asked for. -/
theorem length_innerBoundaries (low high : Datum) (n : Nat) :
    (innerBoundaries low high n).length ≤ n - 1 := by
  have hcuts := List.length_filterMap_le (cut? low high n) (List.range' 1 (n - 1))
  rw [List.length_range'] at hcuts
  exact Nat.le_trans (length_rising high low _) hcuts

/-- An inner boundary is a cut, not above the high end. -/
theorem mem_innerBoundaries {low high v : Datum} {n : Nat} (h : v ∈ innerBoundaries low high n) :
    (v.cmp high).isLE ∧ ∃ i, cut? low high n i = some v := by
  obtain ⟨hmem, hle⟩ := mem_rising h
  obtain ⟨i, -, hcut⟩ := List.mem_filterMap.mp hmem
  exact ⟨hle, i, hcut⟩

end Datum

/-! ## §2 Rows with one first value -/

namespace KeySchema

variable {schema : KeySchema} {leading : SortKey} {row : Tuple} {bytes : Bytes}

/-- A row that can be encoded has a first value, which can be encoded alone and be replaced by any
other one that fits the column. -/
theorem encode_leading (hkeys : schema.keys[0]? = some leading)
    (h : schema.encode row = .ok bytes) :
    (∃ field, leading.encode (row.get 0) = .ok field) ∧
      ∀ v field, leading.encode v = .ok field →
        ∃ bytes', schema.encode ⟨v :: row.values.tail⟩ = .ok bytes' := by
  obtain ⟨keys⟩ := schema
  obtain ⟨values⟩ := row
  unfold encode at h
  split_ifs at h with hsize
  cases keys with
  | nil => cases hkeys
  | cons key keys =>
    obtain rfl : key = leading := Option.some.inj hkeys
    cases values with
    | nil => cases hsize
    | cons value values =>
      -- The first column is encoded on its own, so another value of its type fits as well.
      obtain ⟨first, hfirst, h⟩ := Fallible.bind_eq_ok.mp h
      obtain ⟨rest, hrest, -⟩ := Fallible.bind_eq_ok.mp h
      refine ⟨⟨first, hfirst⟩, fun v field hv => ⟨field ++ rest, ?_⟩⟩
      have hsize' : (Tuple.mk (v :: values)).size = (key :: keys).length := hsize
      simp only [encode, List.tail_cons, if_pos hsize', encodeColumns, hv, hrest]
      rfl

end KeySchema

/-! ## §3 Splits -/

namespace RangeSplit

variable {s : RangeSplit} {leading : SortKey} {n : Nat}

/-- A split of the range of a stage: it runs in the direction of its first column between two
values, and no column ends before it begins. -/
structure Valid (s : RangeSplit) (leading : SortKey) : Prop where
  keys : s.schema.keys[0]? = some leading
  ascending : s.range.ascending = leading.ascending
  low_isNull : s.low.isNull = false
  high_isNull : s.high.isNull = false
  columns : ∀ (i : Nat) (key : SortKey), s.schema.keys[i]? = some key →
    (key.compare (s.range.first.get i) (s.range.last.get i)).isLE

/-- A range is accepted as it is if its first column runs upward between two values of one kind. -/
theorem make_eq_ok_iff {schema : KeySchema} {range : KeyRange} :
    make schema range = .ok s ↔ s = ⟨schema, range⟩ ∧ schema.keys ≠ [] ∧
      (range.low.get 0).isNull = false ∧ (range.high.get 0).isNull = false ∧
      (range.low.get 0).sameKind (range.high.get 0) = true ∧
      (range.low.get 0).cmp (range.high.get 0) ≠ .gt := by
  unfold make
  cases hkeys : schema.keys with
  | nil => simp
  | cons key rest =>
    dsimp only
    -- The three refusals in their order, and the split that is made when none applies.
    split_ifs with hnull hkind horder
    · rw [Bool.or_eq_true] at hnull
      rcases hnull with hnull | hnull <;> simp [hnull]
    · rw [Bool.not_eq_true'] at hkind
      simp [hkind]
    · simp [horder]
    · rw [Bool.not_eq_true, Bool.or_eq_false_iff] at hnull
      rw [Bool.not_eq_true', Bool.not_eq_false] at hkind
      simp [hnull.1, hnull.2, hkind, horder, eq_comm]

/-- A split that is accepted after its range was made of statistics. -/
theorem valid_make {stats : TableStats} {schema : KeySchema} {range : KeyRange}
    (hrange : stats.keyRange schema = .ok range) (h : make schema range = .ok s) :
    s = ⟨schema, range⟩ ∧ ∃ leading, s.Valid leading := by
  obtain ⟨rfl, -, hlow, hhigh, -, -⟩ := make_eq_ok_iff.mp h
  obtain ⟨leading, hkeys, hascending⟩ := TableStats.keyRange_ascending hrange
  refine ⟨rfl, leading, hkeys, hascending, hlow, hhigh, ?_⟩
  intro i key hi
  have hends := TableStats.keyRange_get hrange hi
  exact (TableStats.readEnds_ok hends).2.2

/-- The two ends of a part, in reading order. -/
def InOrder (s : RangeSplit) (a b : Tuple) : Prop :=
  (s.schema.compare (KeyRange.mk a b s.range.ascending).first
    (KeyRange.mk a b s.range.ascending).last).isLE

/-- The first column compares the ends of a part in reading order as values compare. -/
theorem Valid.compare_leading (h : s.Valid leading) {a b : Tuple} (ha : (a.get 0).isNull = false)
    (hb : (b.get 0).isNull = false) :
    leading.compare ((KeyRange.mk a b s.range.ascending).first.get 0)
      ((KeyRange.mk a b s.range.ascending).last.get 0) = (a.get 0).cmp (b.get 0) := by
  rw [KeyRange.first, KeyRange.last, h.ascending]
  cases hdirection : leading.ascending with
  | true =>
    rw [if_pos rfl, if_pos rfl]
    rw [SortKey.compare_of_values ha hb, if_pos hdirection]
  | false =>
    -- The ends change places, and so does the order of the column.
    rw [if_neg Bool.false_ne_true, if_neg Bool.false_ne_true]
    rw [SortKey.compare_of_values hb ha, if_neg (by simp [hdirection]), Datum.swap_cmp]

/-- A boundary whose first value lies below that of another one is read before it if the range
ascends, and after it otherwise. -/
theorem Valid.compare_of_lt (h : s.Valid leading) {a b : Tuple} (ha : (a.get 0).isNull = false)
    (hb : (b.get 0).isNull = false) (hlt : (a.get 0).cmp (b.get 0) = .lt) :
    s.schema.compare (KeyRange.mk a b s.range.ascending).first
      (KeyRange.mk a b s.range.ascending).last = .lt := by
  have hcmp := (h.compare_leading ha hb).trans hlt
  rw [KeySchema.compare_of_leading h.keys (by simp [hcmp]), hcmp]

/-! ## §4 Boundaries -/

/-- An inner boundary with a given first value. -/
def padded (s : RangeSplit) (v : Datum) : Tuple := ⟨v :: s.padding⟩

/-- The boundaries are both ends, and the cuts between them filled up with values. -/
theorem boundaries_eq (s : RangeSplit) (n : Nat) :
    s.boundaries n
      = s.range.low :: (s.low.innerBoundaries s.high n).map s.padded ++ [s.range.high] := rfl

/-- Behind the first column an inner boundary is the end that is read first. -/
theorem padded_get_succ (s : RangeSplit) (v : Datum) (i : Nat) :
    (s.padded v).get (i + 1) = s.range.first.get (i + 1) := by
  simp only [Tuple.get, padded, padding, KeyRange.first, List.getD_cons_succ]
  split
  · exact KeySchema.getD_tail s.range.low.values i
  · exact KeySchema.getD_tail s.range.high.values i

/-- The last part may have one first value, and then the columns behind it are in order. -/
private theorem Valid.inOrder_padded_high (h : s.Valid leading) {v : Datum}
    (hv : v.isNull = false) (hle : (v.cmp s.high).isLE) :
    s.InOrder (s.padded v) s.range.high := by
  apply KeySchema.compare_isLE_of_columns
  intro i key hi
  cases i with
  | zero =>
    obtain rfl : leading = key := Option.some.inj (h.keys.symm.trans hi)
    rw [h.compare_leading (a := s.padded v) hv h.high_isNull]
    exact hle
  | succ i =>
    have hcolumn := h.columns (i + 1) key hi
    rw [KeyRange.first, KeyRange.last] at hcolumn ⊢
    have hpadded := s.padded_get_succ v i
    cases hdirection : s.range.ascending with
    | true =>
      -- The boundary is padded with the low end, and the part ends at the high one.
      rw [hdirection, if_pos rfl, if_pos rfl] at hcolumn
      rw [if_pos rfl, if_pos rfl, hpadded, KeyRange.first, hdirection, if_pos rfl]
      exact hcolumn
    | false =>
      -- The boundary is padded with the high end, which is also where the part is read from.
      rw [if_neg (by simp), if_neg (by simp), hpadded, KeyRange.first, hdirection,
        if_neg (by simp)]
      exact ReflCmp.isLE_rfl

/-- Boundaries before the last have values in front that rise strictly. -/
theorem Valid.pairwise_starts (h : s.Valid leading) (n : Nat) :
    (s.range.low :: (s.low.innerBoundaries s.high n).map s.padded).Pairwise fun a b =>
      s.schema.compare (KeyRange.mk a b s.range.ascending).first
        (KeyRange.mk a b s.range.ascending).last = .lt := by
  -- Missing values are told apart before directions are, and no cut is missing.
  have hinner : ∀ v ∈ s.low.innerBoundaries s.high n, v.isNull = false := by
    intro v hv
    obtain ⟨-, i, hcut⟩ := Datum.mem_innerBoundaries hv
    exact Datum.isNull_cut? hcut
  obtain ⟨hlow, hrest⟩ := List.pairwise_cons.mp (Datum.pairwise_innerBoundaries s.low s.high n)
  refine List.pairwise_cons.mpr ⟨?_, List.pairwise_map.mpr ?_⟩
  · intro b hb
    obtain ⟨v, hv, rfl⟩ := List.mem_map.mp hb
    exact h.compare_of_lt h.low_isNull (hinner v hv) (hlow v hv)
  · exact hrest.imp_of_mem fun ha hb hlt => h.compare_of_lt (hinner _ ha) (hinner _ hb) hlt

/-- Boundaries are in reading order. -/
theorem Valid.pairwise_boundaries (h : s.Valid leading) (n : Nat) :
    (s.boundaries n).Pairwise s.InOrder := by
  rw [boundaries_eq]
  refine List.pairwise_append.mpr ⟨?_, List.pairwise_singleton _ _, ?_⟩
  · exact (h.pairwise_starts n).imp fun hlt => by rw [InOrder, hlt]; rfl
  · -- The high end need not have a greater first value than the boundary before it.
    intro a ha b hb
    obtain rfl := List.mem_singleton.mp hb
    rcases List.mem_cons.mp ha with rfl | ha
    · exact KeySchema.compare_isLE_of_columns h.columns
    · obtain ⟨v, hv, rfl⟩ := List.mem_map.mp ha
      obtain ⟨hle, i, hcut⟩ := Datum.mem_innerBoundaries hv
      exact h.inOrder_padded_high (Datum.isNull_cut? hcut) hle

/-- The two ends are added to the inner boundaries. -/
theorem length_boundaries (s : RangeSplit) (n : Nat) :
    (s.boundaries n).length = (s.low.innerBoundaries s.high n).length + 2 := by
  simp [boundaries_eq]

/-- If the two ends of the range can be encoded, so can all boundaries. -/
theorem encode_boundary (hkeys : s.schema.keys[0]? = some leading) {low high : Bytes}
    (hlow : s.schema.encode s.range.low = .ok low)
    (hhigh : s.schema.encode s.range.high = .ok high) {b : Tuple} (hb : b ∈ s.boundaries n) :
    ∃ bytes, s.schema.encode b = .ok bytes := by
  obtain ⟨⟨field, hfield⟩, hreplaceLow⟩ := KeySchema.encode_leading hkeys hlow
  obtain ⟨-, hreplaceHigh⟩ := KeySchema.encode_leading hkeys hhigh
  rw [boundaries_eq] at hb
  rcases List.mem_append.mp hb with hb | hb
  · rcases List.mem_cons.mp hb with rfl | hb
    · exact ⟨low, hlow⟩
    · -- An inner boundary is one of the two ends with another first value.
      obtain ⟨v, hv, rfl⟩ := List.mem_map.mp hb
      obtain ⟨-, i, hcut⟩ := Datum.mem_innerBoundaries hv
      obtain ⟨field', hfield'⟩ := Datum.encode_cut? hcut hfield
      unfold padded padding
      split
      · exact hreplaceLow v field' hfield'
      · exact hreplaceHigh v field' hfield'
  · obtain rfl := List.mem_singleton.mp hb
    exact ⟨high, hhigh⟩

end RangeSplit

end Shuffle
