import Mathlib
import Shuffle.Proofs.Plan.Cover

/-!
# Rows within the statistics

Statistics promise that a row without missing values has in each column a value from the least to
the greatest one. The range made of them brackets all such rows in the order of the schema, and its
ends are such rows themselves, so no narrower range would do.

A range is cut on its first column only. A cut has the trailing columns of the end that is read
first, and no row within the statistics comes before these, so a cut never parts rows with one
value in the first column.

- `TableStats.Encloses` is what the statistics promise of a row.
- `TableStats.keyRange_brackets` is the bracket.
- `RangeSplit.cuts_keep_groups` says which rows come before a cut.
-/

namespace Shuffle

open Std

namespace TableStats

variable {stats : TableStats} {schema : KeySchema} {range : KeyRange} {row : Tuple}

/-! ## §1 Columns of a row -/

/-- In each sort column the row has a value from the least to the greatest one. -/
def Encloses (stats : TableStats) (schema : KeySchema) (row : Tuple) : Prop :=
  ∀ (i : Nat) (key : SortKey), schema.keys[i]? = some key →
    (row.get i).isNull = false ∧ ∃ min max, stats.bounds key = .ok (min, max) ∧
      (min.cmp (row.get i)).isLE ∧ ((row.get i).cmp max).isLE

/-- A value between the extremes of a column is between its ends in reading order. -/
theorem compare_readEnds {key : SortKey} {min max value first last : Datum}
    (hbounds : stats.bounds key = .ok (min, max))
    (hends : stats.readEnds key = .ok (first, last)) (hvalue : value.isNull = false)
    (hmin : (min.cmp value).isLE) (hmax : (value.cmp max).isLE) :
    (key.compare first value).isLE ∧ (key.compare value last).isLE := by
  obtain ⟨hfirst, hlast, -⟩ := readEnds_ok hends
  rw [readEnds, hbounds] at hends
  -- All three are values, so the column compares them in its direction.
  rw [SortKey.compare_of_values hfirst hvalue, SortKey.compare_of_values hvalue hlast]
  cases hdirection : key.ascending with
  | true =>
    rw [hdirection] at hends
    cases hends
    exact ⟨hmin, hmax⟩
  | false =>
    -- Downward, the greatest value is read first.
    rw [hdirection] at hends
    cases hends
    simp only [Bool.false_eq_true, if_false, Datum.swap_cmp]
    exact ⟨hmax, hmin⟩

/-- In every column an enclosed row is between the ends of the range in reading order. -/
theorem Encloses.column (h : stats.Encloses schema row)
    (hrange : stats.keyRange schema = .ok range) {i : Nat} {key : SortKey}
    (hi : schema.keys[i]? = some key) :
    (key.compare (range.first.get i) (row.get i)).isLE ∧
      (key.compare (row.get i) (range.last.get i)).isLE := by
  obtain ⟨hvalue, min, max, hbounds, hmin, hmax⟩ := h i key hi
  have hends := keyRange_get hrange hi
  exact compare_readEnds hbounds hends hvalue hmin hmax

/-- A row within the statistics lies within the range made of them. -/
theorem Encloses.within_keyRange (h : stats.Encloses schema row)
    (hrange : stats.keyRange schema = .ok range) :
    (schema.compare range.first row).isLE ∧ (schema.compare row range.last).isLE := by
  constructor
  · apply KeySchema.compare_isLE_of_columns
    intro i key hi
    exact (h.column hrange hi).1
  · apply KeySchema.compare_isLE_of_columns
    intro i key hi
    exact (h.column hrange hi).2

/-! ## §2 The range brackets all rows -/

/-- The ends of a column are its extreme values, whichever is read first. -/
theorem encloses_readEnds {key : SortKey} {first last : Datum}
    (h : stats.readEnds key = .ok (first, last)) :
    ∃ min max, stats.bounds key = .ok (min, max) ∧
      ((min.cmp first).isLE ∧ (first.cmp max).isLE) ∧
        (min.cmp last).isLE ∧ (last.cmp max).isLE := by
  obtain ⟨⟨min, max⟩, hbounds, heq⟩ := Fallible.map_eq_ok.mp h
  obtain ⟨-, -, horder⟩ := bounds_ok hbounds
  have hmin : (min.cmp min).isLE := ReflCmp.isLE_rfl
  have hmax : (max.cmp max).isLE := ReflCmp.isLE_rfl
  refine ⟨min, max, hbounds, ?_⟩
  dsimp only at heq
  -- Upwards the minimum is read first, downwards the maximum.
  split_ifs at heq
  · cases heq
    exact ⟨⟨hmin, horder⟩, horder, hmax⟩
  · cases heq
    exact ⟨⟨horder, hmax⟩, hmin, horder⟩

/-- Both ends of the range are rows within the statistics. -/
theorem encloses_ends (hrange : stats.keyRange schema = .ok range) :
    stats.Encloses schema range.first ∧ stats.Encloses schema range.last := by
  have hcolumns {i : Nat} {key : SortKey} (hi : schema.keys[i]? = some key) :=
    keyRange_get hrange hi
  constructor
  · intro i key hi
    obtain ⟨min, max, hbounds, hfirst, -⟩ := encloses_readEnds (hcolumns hi)
    exact ⟨(readEnds_ok (hcolumns hi)).1, min, max, hbounds, hfirst⟩
  · intro i key hi
    obtain ⟨min, max, hbounds, -, hlast⟩ := encloses_readEnds (hcolumns hi)
    exact ⟨(readEnds_ok (hcolumns hi)).2.1, min, max, hbounds, hlast⟩

/-- **The range brackets every row.** No row within the statistics comes before the low end or after
the high end if the first column ascends, and if it descends, none comes before the high end or
after the low end, whichever way the trailing columns run. Both ends are rows within the
statistics. -/
theorem keyRange_brackets (hrange : stats.keyRange schema = .ok range) :
    ∃ leading, schema.keys[0]? = some leading ∧
      (∀ row, stats.Encloses schema row →
        if leading.ascending then
          schema.compare range.low row ≠ .gt ∧ schema.compare row range.high ≠ .gt
        else schema.compare range.high row ≠ .gt ∧ schema.compare row range.low ≠ .gt) ∧
      stats.Encloses schema range.low ∧ stats.Encloses schema range.high := by
  obtain ⟨leading, hkeys, hascending⟩ := keyRange_ascending hrange
  obtain ⟨hfirst, hlast⟩ := encloses_ends hrange
  refine ⟨leading, hkeys, ?bracket, ?ends⟩
  case bracket =>
    intro row hrow
    obtain ⟨hbefore, hbehind⟩ := hrow.within_keyRange hrange
    rw [Ordering.isLE_iff_ne_gt] at hbefore hbehind
    -- The end that is read first is the low one exactly if the first column ascends.
    rw [KeyRange.first, hascending] at hbefore
    rw [KeyRange.last, hascending] at hbehind
    split_ifs at hbefore hbehind ⊢
    · exact ⟨hbefore, hbehind⟩
    · exact ⟨hbefore, hbehind⟩
  case ends =>
    rw [KeyRange.first] at hfirst
    rw [KeyRange.last] at hlast
    split_ifs at hfirst hlast
    · exact ⟨hfirst, hlast⟩
    · exact ⟨hlast, hfirst⟩

/-- Two columns that run down and one that runs up between them, with missing numbers in front. -/
def zigzagSchema : KeySchema :=
  ⟨[⟨"k", .int8, false, true⟩, ⟨"n", .text, true, false⟩, ⟨"x", .float8, false, false⟩]⟩

/-- Numbers from 10 to 50 whose widths differ, names from `a` to `z`, and doubles from -0 to 2.5. -/
def zigzagStats : TableStats :=
  ⟨9, 90, [⟨"k", some (.int4 10), some (.int8 50)⟩, ⟨"n", some (.text "a"), some (.text "z")⟩,
    ⟨"x", some (.float8 ⟨0x8000000000000000⟩), some (.float8 ⟨0x4004000000000000⟩)⟩]⟩

/-- The range of such statistics: the greatest number is read first, with the least name and the
greatest double. -/
def zigzagRange : KeyRange :=
  ⟨⟨[.int4 10, .text "z", .float8 ⟨0x8000000000000000⟩]⟩,
    ⟨[.int8 50, .text "a", .float8 ⟨0x4004000000000000⟩]⟩, false⟩

/-- Each column runs in its own direction. -/
theorem zigzag_range : zigzagStats.keyRange zigzagSchema = .ok zigzagRange := by decide +kernel

/-- A row is enclosed by them if its three values are. -/
theorem zigzag_encloses {k n x : Datum} (hk : k.isNull = false) (hn : n.isNull = false)
    (hx : x.isNull = false) (hk' : ((Datum.int4 10).cmp k).isLE ∧ (k.cmp (.int8 50)).isLE)
    (hn' : ((Datum.text "a").cmp n).isLE ∧ (n.cmp (.text "z")).isLE)
    (hx' : ((Datum.float8 ⟨0x8000000000000000⟩).cmp x).isLE ∧
      (x.cmp (.float8 ⟨0x4004000000000000⟩)).isLE) :
    zigzagStats.Encloses zigzagSchema ⟨[k, n, x]⟩ := by
  intro i key hi
  match i, hi with
  | 0, rfl => exact ⟨hk, _, _, by decide +kernel, hk'⟩
  | 1, rfl => exact ⟨hn, _, _, by decide +kernel, hn'⟩
  | 2, rfl => exact ⟨hx, _, _, by decide +kernel, hx'⟩

/-- A row with the greatest number, the greatest name and the least double, which comes last among
the rows with its number, is bracketed. -/
theorem keyRange_brackets_zigzag :
    zigzagStats.keyRange zigzagSchema = .ok zigzagRange ∧
      let row : Tuple := ⟨[.int4 50, .text "z", .float8 ⟨0x8000000000000000⟩]⟩
      zigzagStats.Encloses zigzagSchema row ∧
        zigzagSchema.compare zigzagRange.high row ≠ .gt ∧
        zigzagSchema.compare row zigzagRange.low ≠ .gt := by
  refine ⟨zigzag_range, ?_⟩
  intro row
  have hrow : zigzagStats.Encloses zigzagSchema row :=
    zigzag_encloses rfl rfl rfl (by decide +kernel) (by decide +kernel) (by decide +kernel)
  obtain ⟨leading, hkeys, hbracket, -⟩ := keyRange_brackets zigzag_range
  obtain rfl : _ = leading := Option.some.inj hkeys
  exact ⟨hrow, hbracket row hrow⟩

end TableStats

/-! ## §3 Cuts do not part rows with one first value -/

/-- A value comes before another one if they differ and the direction of the column meets it
first. -/
theorem SortKey.compare_eq_lt_iff {key : SortKey} {a b : Datum} (ha : a.isNull = false)
    (hb : b.isNull = false) :
    key.compare a b = .lt ↔
      a.same b = false ∧ if key.ascending then a.cmp b = .lt else b.cmp a = .lt := by
  have hdiffer : key.compare a b = .lt → a.same b = false := by
    intro hlt
    have hne : ¬ key.compare a b = .eq := by
      rw [hlt]
      nofun
    rwa [compare_eq_iff_same, Bool.not_eq_true] at hne
  rw [iff_and_self.mpr hdiffer, compare_of_values ha hb]
  split_ifs
  · rfl
  · rw [Datum.swap_cmp]

namespace RangeSplit

variable {s : RangeSplit} {stats : TableStats} {schema : KeySchema} {range : KeyRange}
  {leading : SortKey} {row b : Tuple} {n : Nat}

/-- Of a row and a boundary with the trailing columns that are read first, only the first column can
put the row in front. -/
private theorem compare_eq_lt_iff (hrow : stats.Encloses schema row)
    (hrange : stats.keyRange schema = .ok range) (hkeys : schema.keys[0]? = some leading)
    (htrailing : ∀ i, b.get (i + 1) = range.first.get (i + 1)) :
    schema.compare row b = .lt ↔ leading.compare (row.get 0) (b.get 0) = .lt := by
  by_cases heq : leading.compare (row.get 0) (b.get 0) = .eq
  · -- The row has the first value of the boundary, and no later column is in front of it.
    have hle : (schema.compare b row).isLE := by
      apply KeySchema.compare_isLE_of_columns
      intro i key hi
      cases i with
      | zero =>
        obtain rfl : leading = key := Option.some.inj (hkeys.symm.trans hi)
        rw [OrientedCmp.eq_comm.mp heq]
        rfl
      | succ i =>
        rw [htrailing]
        exact (hrow.column hrange hi).1
    have hnot : schema.compare row b ≠ .lt := by
      intro hlt
      rw [OrientedCmp.gt_of_lt hlt] at hle
      cases hle
    simp [hnot, heq]
  · rw [KeySchema.compare_of_leading hkeys heq]

/-- Where one part ends and the next begins there is an inner boundary. -/
private theorem exists_padded_of_neighbours {ascending : Bool} {p q : KeyRange}
    (h : [p, q] <:+: between ascending (s.boundaries n)) :
    p.high = q.low ∧ ∃ v ∈ s.low.innerBoundaries s.high n, p.high = s.padded v := by
  have hmeet := isChain_between ascending (s.boundaries n)
  have hhighs := map_high_between ascending (s.boundaries n)
  rw [boundaries_eq, List.cons_append, List.tail_cons, ← List.cons_append, ← boundaries_eq]
    at hhighs
  obtain ⟨front, back, hsplit⟩ := h
  rw [← hsplit, List.append_assoc, List.cons_append, List.singleton_append] at hmeet hhighs
  refine ⟨(List.isChain_append_cons_cons.mp hmeet).2.1, ?_⟩
  -- Behind the end of `p` there is at least that of `q`, so the last boundary is another one.
  have hmem : p.high ∈ (s.low.innerBoundaries s.high n).map s.padded := by
    have hdrop := congrArg List.dropLast hhighs
    rw [List.dropLast_concat, List.map_append, List.dropLast_append_of_ne_nil (by simp)] at hdrop
    rw [← hdrop]
    simp
  obtain ⟨v, hv, heq⟩ := List.mem_map.mp hmem
  exact ⟨v, hv, heq.symm⟩

/-- **Cuts keep groups together.** However many parts a range of statistics is cut into, a row
within the statistics comes before the boundary of two parts exactly if its first value differs from
that of the boundary and is met before it in the direction of the first column. So the rows with the
first value of the boundary all come at or after it, whatever their trailing columns hold. -/
theorem cuts_keep_groups (hrange : stats.keyRange schema = .ok range)
    (hmake : make schema range = .ok s) (hn : 1 ≤ n) :
    ∃ leading parts, schema.keys[0]? = some leading ∧ s.parts n = .ok parts ∧
      ∀ p q, [p, q] <:+: parts → p.high = q.low ∧ ∀ row, stats.Encloses schema row →
        (schema.compare row p.high = .lt ↔ (row.get 0).same (p.high.get 0) = false ∧
          if leading.ascending then (row.get 0).cmp (p.high.get 0) = .lt
          else (p.high.get 0).cmp (row.get 0) = .lt) ∧
        ((row.get 0).same (p.high.get 0) = true → schema.compare p.high row ≠ .gt) := by
  obtain ⟨rfl, leading, hvalid⟩ := valid_make hrange hmake
  refine ⟨leading, _, hvalid.keys, parts_eq_between hn, ?_⟩
  intro p q hpq
  obtain ⟨hmeet, v, hv, hhigh⟩ := exists_padded_of_neighbours hpq
  refine ⟨hmeet, ?_⟩
  intro row hrow
  have hfirst := compare_eq_lt_iff (b := p.high) hrow hrange hvalid.keys fun i => by
    rw [hhigh, padded_get_succ]
  -- Both first values are values, so they compare in the direction of their column.
  have hrowValue := (hrow 0 leading hvalid.keys).1
  have hcutValue : (p.high.get 0).isNull = false := by
    obtain ⟨-, i, hcut⟩ := Datum.mem_innerBoundaries hv
    rw [hhigh]
    exact Datum.isNull_cut? hcut
  refine ⟨hfirst.trans (SortKey.compare_eq_lt_iff hrowValue hcutValue), ?_⟩
  intro hsame hgt
  have hlt := hfirst.mp (OrientedCmp.lt_of_gt hgt)
  rw [SortKey.compare_eq_iff_same.mpr hsame] at hlt
  cases hlt

open TableStats (zigzagSchema zigzagStats zigzagRange zigzag_encloses) in
/-- Cut in three, such a range has a boundary at 37. Every row with that number comes at or after
it, and even the last of the rows with 38 comes before it. -/
theorem cuts_keep_groups_zigzag :
    let b : Tuple := ⟨[.int4 37, .text "a", .float8 ⟨0x4004000000000000⟩]⟩
    ∃ parts p q, RangeSplit.parts ⟨zigzagSchema, zigzagRange⟩ 3 = .ok parts ∧ [p, q] <:+: parts ∧
      p.high = b ∧ q.low = b ∧
      (∀ n x, zigzagStats.Encloses zigzagSchema ⟨[.int8 37, n, x]⟩ →
        zigzagSchema.compare b ⟨[.int8 37, n, x]⟩ ≠ .gt) ∧
      zigzagSchema.compare ⟨[.int8 38, .text "z", .float8 ⟨0x8000000000000000⟩]⟩ b = .lt := by
  intro b
  let a : Tuple := ⟨[.int4 23, .text "a", .float8 ⟨0x4004000000000000⟩]⟩
  have hmake : make zigzagSchema zigzagRange = .ok ⟨zigzagSchema, zigzagRange⟩ := by
    decide +kernel
  -- The three parts, computed; the theorem speaks of the last two.
  have hthree : parts ⟨zigzagSchema, zigzagRange⟩ 3
      = .ok [⟨zigzagRange.low, a, false⟩, ⟨a, b, false⟩, ⟨b, zigzagRange.high, false⟩] := by
    decide +kernel
  obtain ⟨leading, parts, hkeys, hparts, hcuts⟩ :=
    cuts_keep_groups TableStats.zigzag_range hmake (n := 3) (by decide)
  obtain rfl := Except.ok.inj (hthree.symm.trans hparts)
  obtain rfl : _ = leading := Option.some.inj hkeys
  obtain ⟨hmeet, hrows⟩ := hcuts ⟨a, b, false⟩ ⟨b, zigzagRange.high, false⟩ ⟨[_], [], rfl⟩
  refine ⟨_, _, _, hthree, ⟨[_], [], rfl⟩, rfl, rfl, ?_, ?_⟩
  · intro n x hrow
    exact (hrows _ hrow).2 (Datum.same_iff.mpr rfl)
  · have hrow := zigzag_encloses (k := .int8 38) (n := .text "z")
      (x := .float8 ⟨0x8000000000000000⟩) rfl rfl rfl (by decide +kernel) (by decide +kernel)
      (by decide +kernel)
    exact (hrows _ hrow).1.mpr (by decide +kernel)

end RangeSplit

end Shuffle
