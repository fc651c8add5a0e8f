import Mathlib
import Shuffle.Proofs.Plan.Deal
import Shuffle.Proofs.Plan.Numbers
import Shuffle.Proofs.Plan.Serving

/-!
# How many tasks sorted output gets

A plan over sorted output wants a task for so many bytes, counted in whole mebibytes. It gets that
many, unless the first column has fewer values. The columns behind the first never reduce the number
of tasks, although the number of keys in all columns is a limit that is applied before.

- `Planner.ceilDiv_eq_ceil` and `Planner.ceilDiv_ceilDiv` are about quotients that are rounded up.
- `RangeSplit.parts_min_cardinality`: the number of keys limits nothing.
- `Planner.range_task_count` is the number of tasks.
-/

namespace Shuffle

/-! ## §1 Quotients that are rounded up -/

namespace Planner

/-- The rounded quotient is the least number of shares that suffices. -/
theorem ceilDiv_le_iff {d : Nat} (hd : 0 < d) (n k : Nat) : ceilDiv n d ≤ k ↔ n ≤ d * k := by
  rw [ceilDiv, ← Nat.ceilDiv_eq_add_pred_div, ceilDiv_le_iff_le_mul hd]

/-- The rounded quotient is the ceiling of the exact one. -/
theorem ceilDiv_eq_ceil {d : Nat} (hd : 0 < d) (n : Nat) : ceilDiv n d = ⌈(n / d : ℚ)⌉₊ := by
  apply eq_of_forall_ge_iff
  intro k
  rw [ceilDiv_le_iff hd, Nat.ceil_le, div_le_iff₀ (Nat.cast_pos.mpr hd), mul_comm]
  norm_cast

/-- To round up twice is to round up once. -/
theorem ceilDiv_ceilDiv {c d : Nat} (hc : 0 < c) (hd : 0 < d) (n : Nat) :
    ceilDiv (ceilDiv n c) d = ceilDiv n (c * d) := by
  apply eq_of_forall_ge_iff
  intro k
  rw [ceilDiv_le_iff hd, ceilDiv_le_iff hc, ceilDiv_le_iff (Nat.mul_pos hc hd), Nat.mul_assoc]

/-- The number of tasks that are wanted, in exact quotients. -/
theorem rangeTasks_eq (config : PlannerConfig) (bytes : Nat) :
    rangeTasks config bytes = max 1
      ⌈(bytes / (2 ^ 20 * max 1 ⌈(config.bytesPerRangeTask.toNat / 2 ^ 20 : ℚ)⌉₊ : Nat) : ℚ)⌉₊ := by
  have hmebibyte : PlannerConfig.mebibyte = 2 ^ 20 := rfl
  have hpos : 0 < PlannerConfig.mebibyte := by decide
  rw [rangeTasks, ceilDiv_ceilDiv hpos (by omega), ceilDiv_eq_ceil hpos,
    ceilDiv_eq_ceil (Nat.mul_pos hpos (by omega)), hmebibyte]
  norm_cast

end Planner

/-! ## §2 Limits of a split -/

namespace RangeSplit

variable {s : RangeSplit}

/-- A range has at least as many keys as values of its first column, also where the number of keys
is cut off. -/
theorem width_le_cardinality (hkeys : s.schema.keys ≠ []) (horder : s.low.cmp s.high ≠ .gt) :
    s.width ≤ s.cardinality := by
  have hlimit : s.width ≤ limit := (Datum.cardinality_le s.low s.high).trans (by decide)
  have hfirst : s.columnCardinality 0 = s.width := if_neg horder
  -- The first column is a factor, and the others make the product no smaller.
  have hdvd := Finset.dvd_prod_of_mem s.columnCardinality
    (Finset.mem_range.mpr (List.length_pos_iff.mpr hkeys))
  rw [hfirst] at hdvd
  rw [cardinality_eq_prod]
  exact Nat.le_min.mpr ⟨hlimit,
    Nat.le_of_dvd (Finset.prod_pos fun column _ => s.columnCardinality_pos column) hdvd⟩

/-- Asking for no more parts than there are keys makes no difference. -/
theorem parts_min_cardinality (hkeys : s.schema.keys ≠ []) (horder : s.low.cmp s.high ≠ .gt)
    (n : Nat) : s.parts (min s.cardinality n) = s.parts n := by
  have hwidth := width_le_cardinality hkeys horder
  have hpos := s.cardinality_pos
  unfold parts
  rw [← Nat.min_assoc, Nat.min_eq_left hwidth]
  -- There is a key, so no parts are refused that were not refused before.
  have hzero : min s.cardinality n = 0 ↔ n = 0 := by omega
  simp only [hzero]

end RangeSplit

/-! ## §3 Tasks -/

namespace Planner

variable {config : PlannerConfig} {s : InputStage} {ids ids' : TaskIds} {tasks : List Task}

/-- A plan over sorted output has a task for each part of the range, and no fewer than if the number
of keys were no limit. -/
theorem length_range (hrows : 0 < s.stats.rows) (h : range config s ids = .ok (tasks, ids')) :
    ∃ range split parts, s.stats.keyRange s.sortKeys = .ok range ∧
      RangeSplit.make s.sortKeys range = .ok split ∧
      split.parts (rangeTasks config s.stats.bytes.toNat) = .ok parts ∧
      tasks.length = parts.length := by
  have hempty : s.isEmpty = false := beq_eq_false_iff_ne.mpr (UInt64.ne_of_lt hrows).symm
  obtain ⟨range, split, parts, hrange, hsplit, hparts, hlength, -⟩ := range_parts hempty h
  refine ⟨range, split, parts, hrange, hsplit, ?_, hlength⟩
  -- The parts were made after the number of keys had been applied as a limit.
  obtain ⟨rfl, hkeys, -, -, -, horder⟩ := RangeSplit.make_eq_ok_iff.mp hsplit
  rwa [RangeSplit.parts_min_cardinality (s := ⟨s.sortKeys, range⟩) hkeys horder] at hparts

/-- **How many tasks sorted output gets** whose first column has whole numbers of one width: one for
each of so many whole mebibytes of it, but no more than there are numbers. To limit it by the number
of keys in all columns, as far as keys are counted, changes nothing. -/
theorem range_task_count {leading : SortKey} {name : String} {low high : Datum} {a b : Int}
    (hrows : 0 < s.stats.rows) (hkeys : s.sortKeys.keys[0]? = some leading)
    (hcolumn : s.stats.column? leading.column = some ⟨name, some low, some high⟩)
    (hlow : low.int? = some a) (hhigh : high.int? = some b)
    (hwidth : low.dataType? = high.dataType?) (h : range config s ids = .ok (tasks, ids')) :
    tasks.length = max 1 (min
        ⌈(s.stats.bytes.toNat
          / (2 ^ 20 * max 1 ⌈(config.bytesPerRangeTask.toNat / 2 ^ 20 : ℚ)⌉₊ : Nat) : ℚ)⌉₊
        (b - a + 1).toNat) ∧
      ∃ range split, s.stats.keyRange s.sortKeys = .ok range ∧
        RangeSplit.make s.sortKeys range = .ok split ∧
        ∀ wanted, split.parts (min split.cardinality wanted) = split.parts wanted := by
  obtain ⟨range, split, parts, hrange, hsplit, hparts, hlength⟩ := length_range hrows h
  have hsplit' := hsplit
  obtain ⟨rfl, hsome, -, -, -, horder⟩ := RangeSplit.make_eq_ok_iff.mp hsplit'
  set split : RangeSplit := ⟨s.sortKeys, range⟩
  refine ⟨?count, range, split, hrange, hsplit,
    RangeSplit.parts_min_cardinality (s := split) hsome horder⟩
  case count =>
    -- The ends of the first column are the extreme values of its statistics.
    obtain ⟨leading', hkeys', -, hbounds⟩ := TableStats.keyRange_leading hrange
    obtain rfl := Option.some.inj (hkeys.symm.trans hkeys')
    obtain ⟨rfl, rfl⟩ := TableStats.bounds_of_column? hcolumn hbounds
    have hends : RangeSplit.WholeEnds split.low split.high a b := .of_cmp hlow hhigh horder
    have hwanted := rangeTasks_pos config s.stats.bytes.toNat
    have hcount := (hends.getElem?_parts hwanted rfl (hends.cutsFit hwidth) hparts).1
    have hnumbers := hends.count_eq
    have hle := hends.le
    rw [hlength, hcount, rangeTasks_eq]
    omega

/-- A stage of a little more than 5 GiB that is sorted by a number, and downward by a name. -/
def largeStage : InputStage :=
  { stage := 3, table := "t", output := .range,
    sortKeys := ⟨[⟨"k", .int4, true, false⟩, ⟨"n", .text, false, false⟩]⟩,
    stats := ⟨9, 5 * 2 ^ 30 + 1, [⟨"k", some (.int4 1), some (.int4 2000)⟩,
      ⟨"n", some (.text "a"), some (.text "z")⟩]⟩,
    entries := [⟨⟨0, 0⟩, 0, ⟨"a", 1⟩, 8⟩] }

/-- The range of its statistics. -/
def largeRange : KeyRange := ⟨⟨[.int4 1, .text "z"]⟩, ⟨[.int4 2000, .text "a"]⟩, true⟩

/-- With a little more than 3 MiB for each, it gets a task for every 4 MiB and for the rest. -/
theorem range_task_count_large :
    ∃ tasks ids', range ⟨3 * 2 ^ 20 + 1, 8⟩ largeStage ⟨4, 0⟩ = .ok (tasks, ids') ∧
      tasks.length = 1281 := by
  have hspans : largeStage.Spans largeRange :=
    { keyRange := by decide +kernel
      make := ⟨⟨largeStage.sortKeys, largeRange⟩, by decide +kernel⟩
      low := ⟨[0, 0, 0, 0, 1, 0, 0, 0, 0, 1, 122], by decide +kernel⟩
      high := ⟨[0, 0, 0, 7, 208, 0, 0, 0, 0, 1, 97], by decide +kernel⟩ }
  obtain ⟨⟨tasks, ids'⟩, hplan⟩ :=
    (range_ok_iff_spans ⟨3 * 2 ^ 20 + 1, 8⟩ rfl ⟨4, 0⟩).mpr ⟨_, hspans⟩
  have hcolumn : largeStage.stats.column? "k" = some ⟨"k", some (.int4 1), some (.int4 2000)⟩ := by
    decide
  have hcount := (range_task_count (s := largeStage) (a := 1) (b := 2000) (by decide) rfl hcolumn
    rfl rfl rfl hplan).1
  refine ⟨tasks, ids', hplan, hcount.trans ?_⟩
  -- The target is a little more than three units, and so it is four.
  have hperTask : ⌈((3 * 2 ^ 20 + 1 : UInt64).toNat / 2 ^ 20 : ℚ)⌉₊ = 4 := by
    rw [show (3 * 2 ^ 20 + 1 : UInt64).toNat = 3 * 2 ^ 20 + 1 by decide]
    norm_num
  rw [hperTask, show largeStage.stats.bytes.toNat = 5 * 2 ^ 30 + 1 by decide]
  norm_num

end Planner

end Shuffle
