import Mathlib
import Shuffle.Proofs.Plan.Boundaries

/-!
# Cuts of a range of whole numbers

A column of whole numbers is cut at even steps from its low end. There are never more parts than
numbers, so the cuts rise strictly, and none of them is dropped as long as each one fits the width
in which it is kept.

- `RangeSplit.cutAt` is the number at a cut, `RangeSplit.boundaryAt` the boundary there.
- `RangeSplit.CutsFit` says that no cut is too wide, and `WholeEnds.cutsFit` when that is certain.
- `RangeSplit.WholeEnds.parts_eq` finds all parts of such a range, whatever stands in the columns
  behind the first.
-/

namespace Shuffle

open Std

/-! ## §1 Whole numbers -/

namespace Datum

variable {low high x y : Datum} {a b m n : Int}

/-- Whole numbers compare as numbers, whatever their widths are. -/
theorem cmp_of_int? (hx : x.int? = some m) (hy : y.int? = some n) : x.cmp y = compare m n := by
  unfold cmp
  split
  · cases hx
  · cases hx
  · simp only [hx, hy]

/-- A whole number is a value. -/
theorem isNull_of_int? (hx : x.int? = some m) : x.isNull = false := by
  cases x <;> first | rfl | cases hx

/-- A whole number in its own type is itself. -/
theorem intLike_int? (h : low.int? = some a) : low.intLike a = low := by
  cases low <;> cases h <;> simp [intLike]

/-- A number in the width of another one is of its type. -/
theorem dataType?_intLike (h : low.int? = some a) (n : Int) :
    (low.intLike n).dataType? = low.dataType? := by
  cases low <;> first | rfl | cases h

/-- What type a cut gets depends on the type of the bound alone. -/
theorem intLike_congr (h : low.dataType? = high.dataType?) (n : Int) :
    low.intLike n = high.intLike n := by
  cases low <;> cases high <;> first | rfl | cases h

/-- A number between two bounds of one width fits that width. -/
theorem int?_intLike (hlow : low.int? = some a) (hhigh : high.int? = some b)
    (hwidth : low.dataType? = high.dataType?) (han : a ≤ n) (hnb : n ≤ b) :
    (low.intLike n).int? = some n := by
  cases low with
  -- In either width the number lies between two that fit.
  | int4 v =>
    cases high with
    | int4 w =>
      obtain rfl := Option.some.inj hlow
      obtain rfl := Option.some.inj hhigh
      have hv := v.le_toInt
      have hw := w.toInt_lt
      exact congrArg some (Int32.toInt_ofInt_of_le (by omega) (by omega))
    | null | int8 _ | float8 _ | text _ => cases hwidth
  | int8 v =>
    cases high with
    | int8 w =>
      obtain rfl := Option.some.inj hlow
      obtain rfl := Option.some.inj hhigh
      have hv := v.le_toInt
      have hw := w.toInt_lt
      exact congrArg some (Int64.toInt_ofInt_of_le (by omega) (by omega))
    | null | int4 _ | float8 _ | text _ => cases hwidth
  | null | float8 _ | text _ => cases hlow

/-- Whole numbers are counted from bound to bound, both included. -/
theorem cardinality_of_int? (hlow : low.int? = some a) (hhigh : high.int? = some b) :
    low.cardinality high = (b - a).toNat + 1 := by
  unfold cardinality
  split
  · cases hlow
  · cases hlow
  · simp only [hlow, hhigh]

/-- A cut lies its share of the keys above the low bound. -/
theorem cut?_of_int? (hlow : low.int? = some a) (hhigh : high.int? = some b) (n i : Nat) :
    low.cut? high n i = some (low.intLike (a + (low.cardinality high * i / n : Nat))) := by
  unfold cut?
  split
  · cases hlow
  · cases hlow
  · simp only [hlow, hhigh]

/-- Cuts behind a number of 32 bits are numbers of 32 bits. -/
theorem exists_int4_of_cut? {v : Int32} {cut : Datum} {n i : Nat}
    (h : cut? (.int4 v) high n i = some cut) : ∃ w, cut = .int4 w := by
  cases high with
  | int4 w => exact ⟨_, (Option.some.inj h).symm⟩
  | int8 w => exact ⟨_, (Option.some.inj h).symm⟩
  | null | float8 _ | text _ => cases h

/-- Whole numbers of either width are of one kind. -/
theorem sameKind_of_int? (hx : x.int? = some m) (hy : y.int? = some n) :
    x.sameKind y = true := by
  unfold sameKind
  split
  · rfl
  · rfl
  · rfl
  · rw [hx, hy]
    rfl

/-- Values that rise already are all kept. -/
theorem rising_of_pairwise {high last : Datum} {values : List Datum}
    (hrise : (last :: values).Pairwise fun a b => a.cmp b = .lt)
    (hhigh : ∀ v ∈ values, v.cmp high ≠ .gt) : rising high last values = values := by
  induction values generalizing last with
  | nil => rfl
  | cons v rest ih =>
    obtain ⟨hlast, hrest⟩ := List.pairwise_cons.mp hrise
    have hgt : v.cmp last = .gt := OrientedCmp.gt_of_lt (hlast v List.mem_cons_self)
    rw [rising, if_pos ⟨hgt, hhigh v List.mem_cons_self⟩]
    rw [ih hrest fun w hw => hhigh w (List.mem_cons_of_mem v hw)]

end Datum

namespace RangeSplit

/-! ## §2 Even steps -/

/-- One of `m` even steps up to `card` is as long as the quotient, or one longer. -/
theorem mul_succ_div {m : Nat} (hm : 0 < m) (card i : Nat) :
    card * (i + 1) / m
      = card * i / m + card / m + if m ≤ card * i % m + card % m then 1 else 0 := by
  rw [Nat.mul_succ, Nat.add_div hm]

/-- How many numbers there are from `a` to `b`. -/
def count (a b : Int) : Nat := (b - a).toNat + 1

/-- There is at least one part, and there are no more than numbers. -/
theorem partCount_bounds {a b : Int} {n m : Nat} (hn : 0 < n) (hm : m = min n (count a b)) :
    0 < m ∧ m ≤ count a b := by
  subst hm
  exact ⟨Nat.lt_min.mpr ⟨hn, Nat.succ_pos _⟩, Nat.min_le_right _ _⟩

/-- The number at the boundary with index `i` of `m` parts. -/
def cutAt (a b : Int) (m i : Nat) : Int := if i = m then b else a + (count a b * i / m : Nat)

/-- Cuts before the last one are counted from the low end. -/
theorem cutAt_of_lt {a b : Int} {m i : Nat} (hi : i < m) :
    cutAt a b m i = a + (count a b * i / m : Nat) :=
  if_neg hi.ne

/-- The last cut is the high end. -/
theorem cutAt_last (a b : Int) (m : Nat) : cutAt a b m m = b := if_pos rfl

/-- The first cut is the low bound. -/
theorem cutAt_zero (a b : Int) {m : Nat} (hm : 0 < m) : cutAt a b m 0 = a := by
  rw [cutAt_of_lt hm]
  simp

/-- Inner cuts rise. -/
theorem cutAt_lt {a b : Int} {m i j : Nat} (hm : 0 < m) (hcount : m ≤ count a b) (hij : i < j)
    (hj : j < m) : cutAt a b m i < cutAt a b m j := by
  have hquotient : 1 ≤ count a b / m := Nat.div_pos hcount hm
  have hstep := mul_succ_div hm (count a b) i
  have hmono : count a b * (i + 1) / m ≤ count a b * j / m :=
    Nat.div_le_div_right (Nat.mul_le_mul_left _ hij)
  rw [cutAt_of_lt (hij.trans hj), cutAt_of_lt hj]
  omega

/-- No inner cut is too wide for the width of the low end. -/
def CutsFit (low : Datum) (a b : Int) (m : Nat) : Prop :=
  ∀ i, 0 < i → i < m → (low.intLike (cutAt a b m i)).int? = some (cutAt a b m i)

/-- The boundary with index `i` of `m` parts: one of the two ends, or between them a cut with the
other columns of the end that is read first. -/
def boundaryAt (s : RangeSplit) (a b : Int) (m i : Nat) : Tuple :=
  if i = 0 then s.range.low
  else if i = m then s.range.high
  else s.padded (s.low.intLike (cutAt a b m i))

/-! ## §3 Parts between whole numbers -/

/-- Whole numbers, of either width, as the two ends of a column. -/
structure WholeEnds (low high : Datum) (a b : Int) : Prop where
  lowInt : low.int? = some a
  highInt : high.int? = some b
  le : a ≤ b

/-- The parts lie between one cut and the next. -/
theorem between_map_range' (ascending : Bool) (f : Nat → Tuple) (start m : Nat) :
    between ascending ((List.range' start (m + 1)).map f)
      = (List.range' start m).map fun i => ⟨f i, f (i + 1), ascending⟩ := by
  induction m generalizing start with
  | zero => rfl
  | succ m ih =>
    have hrest := ih (start + 1)
    simp only [List.range'_succ, List.map_cons] at hrest ⊢
    rw [between, hrest]

private theorem indices_eq {m : Nat} (hm : 0 < m) :
    List.range' 0 (m + 1) = 0 :: List.range' 1 (m - 1) ++ [m] := by
  obtain ⟨k, rfl⟩ := Nat.exists_eq_succ_of_ne_zero hm.ne'
  rw [List.range'_succ, List.range'_1_concat]
  simp [Nat.add_comm]

/-- Inner cuts lie between the first cut and the last one. -/
private theorem mem_indices {m i : Nat} (hi : i ∈ List.range' 1 (m - 1)) : 0 < i ∧ i < m := by
  have := List.mem_range'_1.mp hi
  omega

namespace WholeEnds

variable {low high : Datum} {a b : Int} {m : Nat}

/-- Bounds in order have keys between them. -/
theorem of_cmp (hlow : low.int? = some a) (hhigh : high.int? = some b)
    (horder : low.cmp high ≠ .gt) : WholeEnds low high a b := by
  refine ⟨hlow, hhigh, Int.not_lt.mp fun hlt => horder ?_⟩
  rw [Datum.cmp_of_int? hlow hhigh, Int.compare_eq_gt]
  exact hlt

/-- The values between whole ends are counted by the ends. -/
theorem cardinality_eq (h : WholeEnds low high a b) : low.cardinality high = count a b :=
  Datum.cardinality_of_int? h.lowInt h.highInt

/-- The keys are counted exactly, since the difference is not negative. -/
theorem count_eq (h : WholeEnds low high a b) : (count a b : Int) = b - a + 1 := by
  have := h.le
  rw [count]
  omega

/-- Whole ends are in order. -/
theorem cmp_ne_gt (h : WholeEnds low high a b) : low.cmp high ≠ .gt := by
  rw [Datum.cmp_of_int? h.lowInt h.highInt, Ne, Int.compare_eq_gt]
  exact Int.not_lt.mpr h.le

/-- Cuts lie within the range. -/
theorem cutAt_mem (h : WholeEnds low high a b) {i : Nat} (hi : i ≤ m) :
    a ≤ cutAt a b m i ∧ cutAt a b m i ≤ b := by
  have hle := h.le
  unfold cutAt
  split
  · omega
  · -- A cut before the last one takes fewer steps than there are values.
    have hlt : count a b * i / m < count a b := by
      apply Nat.div_lt_of_lt_mul
      rw [Nat.mul_comm m]
      exact Nat.mul_lt_mul_of_pos_left (by omega) (Nat.succ_pos _)
    have hcount := h.count_eq
    generalize count a b * i / m = steps at hlt ⊢
    omega

/-- The number at a cut as a quotient that is rounded down. -/
theorem cutAt_eq_ediv (h : WholeEnds low high a b) {i : Nat} (hi : i < m) :
    cutAt a b m i = a + (b - a + 1) * i / m := by
  rw [cutAt_of_lt hi, Int.natCast_ediv, Nat.cast_mul, h.count_eq]

/-- Cuts never fail to fit if both ends have one width. -/
theorem cutsFit (h : WholeEnds low high a b) (hwidth : low.dataType? = high.dataType?) :
    CutsFit low a b m := by
  intro i _ hi
  obtain ⟨hfrom, hto⟩ := h.cutAt_mem hi.le
  exact Datum.int?_intLike h.lowInt h.highInt hwidth hfrom hto

/-- An inner cut, as the program computes it. -/
theorem cut?_eq (h : WholeEnds low high a b) {i : Nat} (hi : i < m) :
    Datum.cut? low high m i = some (low.intLike (cutAt a b m i)) := by
  rw [cutAt_of_lt hi, ← h.cardinality_eq]
  exact Datum.cut?_of_int? h.lowInt h.highInt m i

/-- All inner cuts are kept: they rise, and none lies above the high end. -/
theorem innerBoundaries_eq (h : WholeEnds low high a b) (hfit : CutsFit low a b m) (hm : 0 < m)
    (hcount : m ≤ count a b) :
    low.innerBoundaries high m
      = (List.range' 1 (m - 1)).map fun i => low.intLike (cutAt a b m i) := by
  have hcuts : (List.range' 1 (m - 1)).filterMap (Datum.cut? low high m)
      = (List.range' 1 (m - 1)).map fun i => low.intLike (cutAt a b m i) := by
    rw [← List.filterMap_eq_map]
    apply List.filterMap_congr
    intro i hi
    exact h.cut?_eq (mem_indices hi).2
  -- The low end is the cut with index zero.
  have hlow : low.int? = some (cutAt a b m 0) := by rw [cutAt_zero a b hm, h.lowInt]
  rw [Datum.innerBoundaries, hcuts]
  apply Datum.rising_of_pairwise
  · rw [List.pairwise_cons, List.pairwise_map]
    constructor
    · simp only [List.forall_mem_map]
      intro i hi
      obtain ⟨hpos, hlt⟩ := mem_indices hi
      rw [Datum.cmp_of_int? hlow (hfit i hpos hlt)]
      exact Int.compare_eq_lt.mpr (cutAt_lt hm hcount hpos hlt)
    · refine List.Pairwise.imp_of_mem ?_ List.pairwise_lt_range'
      intro i j hi hj hij
      obtain ⟨hpos, hlt⟩ := mem_indices hi
      obtain ⟨hpos', hlt'⟩ := mem_indices hj
      rw [Datum.cmp_of_int? (hfit i hpos hlt) (hfit j hpos' hlt')]
      exact Int.compare_eq_lt.mpr (cutAt_lt hm hcount hij hlt')
  · simp only [List.forall_mem_map]
    intro i hi
    obtain ⟨hpos, hlt⟩ := mem_indices hi
    rw [Datum.cmp_of_int? (hfit i hpos hlt) h.highInt]
    intro hgt
    have := Int.compare_eq_gt.mp hgt
    have := (h.cutAt_mem hlt.le).2
    omega

variable {s : RangeSplit}

theorem width_eq (h : WholeEnds s.low s.high a b) : s.width = count a b := h.cardinality_eq

/-- The boundaries are the two ends and the cuts between them. -/
theorem boundaries_eq (h : WholeEnds s.low s.high a b) (hfit : CutsFit s.low a b m) (hm : 0 < m)
    (hcount : m ≤ count a b) :
    s.boundaries m = (List.range' 0 (m + 1)).map (s.boundaryAt a b m) := by
  -- The inner boundaries and the two ends are one list of cuts.
  have hinner : ((List.range' 1 (m - 1)).map fun i => s.low.intLike (cutAt a b m i)).map s.padded
      = (List.range' 1 (m - 1)).map (s.boundaryAt a b m) := by
    rw [List.map_map]
    apply List.map_congr_left
    intro i hi
    obtain ⟨hpos, hlt⟩ := mem_indices hi
    rw [boundaryAt, if_neg hpos.ne', if_neg hlt.ne]
    rfl
  have hlast : s.boundaryAt a b m m = s.range.high := by
    rw [boundaryAt, if_neg hm.ne', if_pos rfl]
  rw [RangeSplit.boundaries_eq, h.innerBoundaries_eq hfit hm hcount, hinner, indices_eq hm,
    List.map_append, List.map_cons, List.map_singleton, hlast]
  rfl

/-- The parts run from one boundary to the next, and there are as many as were asked for, or as
there are numbers. -/
theorem parts_eq (h : WholeEnds s.low s.high a b) {n : Nat} (hn : 0 < n)
    (hm : m = min n (count a b)) (hfit : CutsFit s.low a b m) :
    s.parts n = .ok ((List.range' 0 m).map fun i =>
      ⟨s.boundaryAt a b m i, s.boundaryAt a b m (i + 1), s.range.ascending⟩) := by
  obtain ⟨hpos, hcount⟩ := partCount_bounds hn hm
  have hmin : min s.width n = m := by rw [h.width_eq, Nat.min_comm, hm]
  rw [parts, if_neg hn.ne', hmin, h.boundaries_eq hfit hpos hcount, between_map_range']

/-- Part `i` runs from boundary `i` to the next one. -/
theorem getElem?_parts (h : WholeEnds s.low s.high a b) {n : Nat} (hn : 0 < n)
    (hm : m = min n (count a b)) (hfit : CutsFit s.low a b m) {parts : List KeyRange}
    (hparts : s.parts n = .ok parts) :
    parts.length = m ∧ ∀ i < m, parts[i]?
      = some ⟨s.boundaryAt a b m i, s.boundaryAt a b m (i + 1), s.range.ascending⟩ := by
  obtain rfl := Except.ok.inj ((h.parts_eq hn hm hfit).symm.trans hparts)
  constructor
  · simp
  · intro i hi
    simp [hi]

/-- Every boundary begins with the number at its cut. -/
theorem int?_boundaryAt (h : WholeEnds s.low s.high a b) (hfit : CutsFit s.low a b m) {i : Nat}
    (hi : i ≤ m) (hm : 0 < m) :
    ((s.boundaryAt a b m i).get 0).int? = some (cutAt a b m i) := by
  unfold boundaryAt
  split_ifs with hfirst hlast
  · rw [hfirst, cutAt_zero a b hm]
    exact h.lowInt
  · rw [hlast, cutAt_last]
    exact h.highInt
  · exact hfit i (Nat.pos_of_ne_zero hfirst) (Nat.lt_of_le_of_ne hi hlast)

end WholeEnds

end RangeSplit

end Shuffle
