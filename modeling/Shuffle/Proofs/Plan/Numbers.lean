import Mathlib
import Shuffle.Proofs.Plan.Cover

/-!
# Splits of whole numbers

Between two ends of one width there are exactly as many parts as are asked for, or as there are
numbers, and each cut is the quotient that it should be.

Ends of different widths are one range as well. Cuts are then kept in the width of the low end. One
that does not fit wraps around to another number, which is dropped unless it happens to rise. It is
the last cut, the greatest one, that decides whether the width of the low end matters.

- `RangeSplit.integer_parts_exact` finds all parts between ends of one width.
- `RangeSplit.narrow_parts_agree_iff` compares a low end of 32 bits with the same number in 64 bits.
-/

namespace Shuffle

namespace RangeSplit

/-! ## §1 Ends of one width -/

/-- **Whole numbers of one width are cut exactly**, up to all numbers of 64 bits, and into any
number of parts that is a word of 64 bits. No number that is computed on the way overflows its word,
and the cut fits the width in which it is kept. -/
theorem integer_parts_exact {schema : KeySchema} {range : KeyRange} {s : RangeSplit} {a b : Int}
    (h : make schema range = .ok s) (hlow : (range.low.get 0).int? = some a)
    (hhigh : (range.high.get 0).int? = some b)
    (hwidth : (range.low.get 0).dataType? = (range.high.get 0).dataType?) {n : Nat} (hn : 0 < n)
    (hword : n < UInt64.size) {m : Nat} (hm : m = min n (b - a + 1).toNat) :
    ∃ parts, s.parts n = .ok parts ∧ parts.length = m ∧
      (∀ i, 0 < i → i < m → ∃ left right, parts[i - 1]? = some left ∧ parts[i]? = some right ∧
        left.high = right.low ∧
        (right.low.get 0).dataType? = (range.low.get 0).dataType? ∧
        (right.low.get 0).int? = some (a + (b - a + 1) * i / m) ∧
        a < a + (b - a + 1) * i / m ∧ a + (b - a + 1) * i / m ≤ b) ∧
      (∀ i j, 0 < i → i < j → j < m →
        a + (b - a + 1) * i / m < a + (b - a + 1) * j / m) ∧
      s.partsInWords? n = some (.ok parts) := by
  have hwords := partsInWords?_eq h hword
  obtain ⟨rfl, -, -, -, -, horder⟩ := make_eq_ok_iff.mp h
  set s : RangeSplit := ⟨schema, range⟩
  -- Accepted ends are in order, so there is at least one number between them.
  have hends : WholeEnds s.low s.high a b := .of_cmp hlow hhigh horder
  have hcount : m = min n (count a b) := by
    have := hends.count_eq
    omega
  obtain ⟨hpos, hle⟩ := partCount_bounds hn hcount
  have hfit : CutsFit s.low a b m := hends.cutsFit hwidth
  have hparts := hends.parts_eq hn hcount hfit
  obtain ⟨hlength, hget⟩ := hends.getElem?_parts hn hcount hfit hparts
  refine ⟨_, hparts, hlength, ?cuts, ?rising, hwords.trans (congrArg some hparts)⟩
  case cuts =>
    intro i hi him
    have hprevious := hget (i - 1) (by omega)
    rw [Nat.sub_add_cancel hi] at hprevious
    have hlower := cutAt_lt hpos hle hi him
    rw [cutAt_zero a b hpos, hends.cutAt_eq_ediv him] at hlower
    have hupper := (hends.cutAt_mem him.le).2
    have hnumber := hends.int?_boundaryAt hfit him.le hpos
    rw [hends.cutAt_eq_ediv him] at hupper hnumber
    refine ⟨_, _, hprevious, hget i him, rfl, ?_, hnumber, hlower, hupper⟩
    -- An inner boundary begins with a number in the width of the low end.
    have hcut : (s.boundaryAt a b m i).get 0 = s.low.intLike (cutAt a b m i) := by
      rw [boundaryAt, if_neg hi.ne', if_neg him.ne]
      rfl
    rw [hcut]
    exact Datum.dataType?_intLike hlow _
  case rising =>
    intro i j hi hij hj
    have hlt := cutAt_lt hpos hle hij hj
    rwa [hends.cutAt_eq_ediv (hij.trans hj), hends.cutAt_eq_ediv hj] at hlt

/-- All numbers of 64 bits, in front of a text. -/
def allNumbers : RangeSplit :=
  ⟨⟨[⟨"k", .int8, true, false⟩, ⟨"t", .text, true, false⟩]⟩,
    ⟨⟨[.int8 Int64.minValue, .text "b"]⟩, ⟨[.int8 Int64.maxValue, .text "a"]⟩, true⟩⟩

/-- All numbers of 64 bits in one part less than there are numbers: the last part has two. -/
theorem integer_parts_exact_all :
    make allNumbers.schema allNumbers.range = .ok allNumbers ∧
      ∃ parts part, allNumbers.parts (2 ^ 64 - 1) = .ok parts ∧ parts.length = 2 ^ 64 - 1 ∧
        parts[2 ^ 64 - 2]? = some part ∧ (part.low.get 0).int? = some (2 ^ 63 - 2) ∧
        allNumbers.partsInWords? (2 ^ 64 - 1) = some (.ok parts) := by
  have hmake : make allNumbers.schema allNumbers.range = .ok allNumbers := by rfl
  obtain ⟨parts, hparts, hlength, hcuts, -, hwords⟩ :=
    integer_parts_exact hmake (a := -2 ^ 63) (b := 2 ^ 63 - 1) rfl rfl rfl (n := 2 ^ 64 - 1)
      (by decide) (by decide) (m := 2 ^ 64 - 1) (by decide)
  obtain ⟨-, part, -, hpart, -, -, hnumber, -, -⟩ := hcuts (2 ^ 64 - 2) (by decide) (by decide)
  refine ⟨hmake, parts, part, hparts, hlength, hpart, ?_, hwords⟩
  rw [hnumber]
  norm_num

/-! ## §2 Ends of two widths -/

/-- The numbers with which a part begins and ends. -/
def leadingEnds (part : KeyRange) : Option Int × Option Int :=
  ((part.low.get 0).int?, (part.high.get 0).int?)

/-- A range with another value at the front of its low end. -/
def startingAt (range : KeyRange) (v : Datum) : KeyRange :=
  { range with low := ⟨v :: range.low.values.tail⟩ }

variable {s : RangeSplit} {a b : Int} {m n : Nat}

/-- Between whole numbers whose cuts all fit, parts begin and end at the cuts. -/
theorem WholeEnds.map_leadingEnds (h : WholeEnds s.low s.high a b) (hn : 0 < n)
    (hm : m = min n (count a b)) (hfit : CutsFit s.low a b m) {parts : List KeyRange}
    (hparts : s.parts n = .ok parts) :
    parts.map leadingEnds
      = (List.range' 0 m).map fun i => (some (cutAt a b m i), some (cutAt a b m (i + 1))) := by
  have hpos := (partCount_bounds hn hm).1
  obtain rfl := Except.ok.inj ((h.parts_eq hn hm hfit).symm.trans hparts)
  rw [List.map_map]
  apply List.map_congr_left
  intro i hi
  have hlt : i < m := by
    have := List.mem_range'_1.mp hi
    omega
  exact Prod.ext (h.int?_boundaryAt hfit hlt.le hpos) (h.int?_boundaryAt hfit hlt hpos)

/-- If the low end has 32 bits, every part begins with a number of 32 bits. -/
theorem exists_int4_of_mem {v : Int32} (hlow : s.low = .int4 v) (hn : 0 < n)
    {parts : List KeyRange} (hparts : s.parts n = .ok parts) {part : KeyRange}
    (hpart : part ∈ parts) : ∃ w, part.low.get 0 = .int4 w := by
  obtain rfl := Except.ok.inj ((parts_eq_between hn).symm.trans hparts)
  have hmem := List.mem_map_of_mem (f := KeyRange.low) hpart
  rw [map_low_between, boundaries_eq, List.dropLast_concat] at hmem
  -- A part begins at the low end or at a cut, and cuts are in the width of the low end.
  rcases List.mem_cons.mp hmem with hfirst | hinner
  · exact ⟨v, (congrArg (·.get 0) hfirst).trans hlow⟩
  · obtain ⟨value, hvalue, hpadded⟩ := List.mem_map.mp hinner
    obtain ⟨-, i, hcut⟩ := Datum.mem_innerBoundaries hvalue
    rw [hlow] at hcut
    rw [← hpadded]
    exact Datum.exists_int4_of_cut? hcut

/-- Behind a low end of 32 bits no part begins with a number that needs more. -/
theorem le_maxValue_of_mem_leadingEnds {v : Int32} (hlow : s.low = .int4 v) (hn : 0 < n)
    {parts : List KeyRange} (hparts : s.parts n = .ok parts) {k : Int} {stop : Option Int}
    (hmem : (some k, stop) ∈ parts.map leadingEnds) : k ≤ Int32.maxValue.toInt := by
  obtain ⟨part, hpart, hends⟩ := List.mem_map.mp hmem
  obtain ⟨w, hw⟩ := exists_int4_of_mem hlow hn hparts hpart
  have hfirst := congrArg Prod.fst hends
  rw [leadingEnds, hw] at hfirst
  obtain rfl := Option.some.inj hfirst
  exact Int32.toInt_le w

namespace WholeEnds

/-- Cuts fit 32 bits if the last one does. -/
theorem cutsFit_int4 {v : Int32} {low high : Datum} (h : WholeEnds low high a b)
    (hlow : low = .int4 v) (hm : 0 < m) (hcount : m ≤ count a b)
    (hlast : cutAt a b m (m - 1) ≤ Int32.maxValue.toInt) : CutsFit low a b m := by
  subst hlow
  intro i hi him
  have hle : cutAt a b m i ≤ cutAt a b m (m - 1) := by
    rcases (Nat.le_sub_one_of_lt him).eq_or_lt with hself | hlt
    · rw [hself]
    · exact (cutAt_lt hm hcount hlt (by omega)).le
  -- No cut lies below the low end, which has 32 bits itself.
  have hfrom := (h.cutAt_mem him.le).1
  obtain rfl := Option.some.inj h.lowInt
  have hv := v.le_toInt
  rw [Int32.toInt_maxValue] at hlast
  exact congrArg some (Int32.toInt_ofInt_of_le (by omega) (by omega))

/-- Cuts always fit 64 bits. -/
theorem cutsFit_int8 {v : Int64} {high : Datum} (h : WholeEnds (.int8 v) high a b) :
    CutsFit (.int8 v) a b m := by
  intro i hi him
  obtain ⟨hfrom, hto⟩ := h.cutAt_mem him.le
  have ha := Datum.int?_mem h.lowInt
  have hb := Datum.int?_mem h.highInt
  exact congrArg some (Int64.toInt_ofInt_of_le (by omega) (by omega))

end WholeEnds

/-- **When the width of the low end matters.** A range that begins with a number of 32 bits is also
accepted if it begins with the same number in 64 bits. Both are cut into parts with the same numbers
if and only if the last cut fits 32 bits. -/
theorem narrow_parts_agree_iff {schema : KeySchema} {range : KeyRange} {s : RangeSplit}
    {v : Int32} {b : Int} (h : make schema range = .ok s) (hlow : range.low.get 0 = .int4 v)
    (hhigh : (range.high.get 0).int? = some b) {n : Nat} (hn : 0 < n) {m : Nat}
    (hm : m = min n (b - v.toInt + 1).toNat) :
    ∃ wide parts wideParts, make schema (startingAt range (.int8 v.toInt64)) = .ok wide ∧
      s.parts n = .ok parts ∧ wide.parts n = .ok wideParts ∧
      (parts.map leadingEnds = wideParts.map leadingEnds ↔
        v.toInt + (b - v.toInt + 1) * (m - 1 : Nat) / m ≤ Int32.maxValue.toInt) := by
  obtain ⟨rfl, hkeys, -, hhighNull, -, horder⟩ := make_eq_ok_iff.mp h
  set s : RangeSplit := ⟨schema, range⟩
  set wide : RangeSplit := ⟨schema, startingAt range (.int8 v.toInt64)⟩
  have hends : WholeEnds s.low s.high v.toInt b :=
    .of_cmp (congrArg Datum.int? hlow) hhigh horder
  have hwideEnds : WholeEnds wide.low wide.high v.toInt b :=
    ⟨congrArg some v.toInt_toInt64, hhigh, hends.le⟩
  -- Both widths are one kind of value, and they are compared as numbers.
  have hmake : make schema wide.range = .ok wide :=
    make_eq_ok_iff.mpr ⟨rfl, hkeys, rfl, hhighNull,
      Datum.sameKind_of_int? hwideEnds.lowInt hwideEnds.highInt, hwideEnds.cmp_ne_gt⟩
  have hcount : m = min n (count v.toInt b) := by
    have := hends.count_eq
    omega
  obtain ⟨hpos, hle⟩ := partCount_bounds hn hcount
  have hlast : m - 1 < m := Nat.sub_one_lt hpos.ne'
  have hparts := parts_eq_between (s := s) hn
  have hwideParts := parts_eq_between (s := wide) hn
  have hwideMap := hwideEnds.map_leadingEnds hn hcount hwideEnds.cutsFit_int8 hwideParts
  refine ⟨wide, _, _, hmake, hparts, hwideParts, ?_⟩
  rw [hwideMap, ← hends.cutAt_eq_ediv hlast]
  constructor
  · -- The last part begins with the last cut.
    intro hagree
    apply le_maxValue_of_mem_leadingEnds (s := s) hlow hn hparts
    rw [hagree]
    exact List.mem_map.mpr ⟨m - 1, List.mem_range'_1.mpr ⟨Nat.zero_le _, by omega⟩, rfl⟩
  · intro hfits
    exact hends.map_leadingEnds hn hcount (hends.cutsFit_int4 hlow hpos hle hfits) hparts

/-- All numbers of 32 bits without a sign, from a low end of 32 bits with a sign. -/
def unsignedNumbers : RangeSplit :=
  ⟨⟨[⟨"k", .int8, true, false⟩]⟩, ⟨⟨[.int4 0]⟩, ⟨[.int8 4294967295]⟩, true⟩⟩

/-- Two parts of such a range meet at a number that does not fit the low end, so there is only
one. -/
theorem narrow_parts_differ :
    make unsignedNumbers.schema unsignedNumbers.range = .ok unsignedNumbers ∧
      ∃ wide parts wideParts,
        make unsignedNumbers.schema (startingAt unsignedNumbers.range (.int8 0)) = .ok wide ∧
        unsignedNumbers.parts 2 = .ok parts ∧ wide.parts 2 = .ok wideParts ∧
        parts.map leadingEnds ≠ wideParts.map leadingEnds ∧ parts.length = 1 := by
  have hmake : make unsignedNumbers.schema unsignedNumbers.range = .ok unsignedNumbers := by rfl
  obtain ⟨wide, parts, wideParts, hwide, hparts, hwideParts, hagree⟩ :=
    narrow_parts_agree_iff hmake (v := 0) (b := 4294967295) rfl rfl (n := 2) (by decide) (m := 2)
      (by decide)
  refine ⟨hmake, wide, parts, wideParts, hwide, hparts, hwideParts, ?_, ?_⟩
  · exact fun hsame => absurd (hagree.mp hsame) (by decide)
  · rw [parts_eq_between (by decide)] at hparts
    rw [← Except.ok.inj hparts]
    decide +kernel

end RangeSplit

end Shuffle
