import Mathlib
import Shuffle.Proofs.Plan.TaskCount
import Shuffle.Proofs.TotalOrder

/-!
# How many keys a range has

A key takes one value in each column, so a range has as many keys as the product of what lies
between its ends, column by column and whichever end is the greater one. The product is cut off at a
limit after each factor. No factor is zero, so it is the whole product, cut off once.

- `Datum.Spans` counts what lies between two ends, in the words of each kind of value.
- `RangeSplit.columnCardinality_eq` finds that count.
- `RangeSplit.cardinality_saturates` is the number of keys.
-/

namespace Shuffle

/-! ## §1 Values between two ends -/

namespace Datum

/-- Texts compare character by character. -/
private theorem codePoints_eq_gt_iff (front back : List Char) :
    compare (front.map Char.toNat) (back.map Char.toNat) = .gt ↔ back < front := by
  induction front generalizing back with
  | nil => cases back <;> simp
  | cons c rest ih =>
    cases back with
    | nil => simp
    | cons d rest' =>
      have hlt : d.toNat < c.toNat ↔ d < c := Iff.rfl
      rw [List.map_cons, List.map_cons, List.compare_cons_cons, List.cons_lt_cons_iff, ← ih,
        Ordering.then_eq_gt, Nat.compare_eq_gt, Nat.compare_eq_eq, Char.toNat_inj, eq_comm, hlt]

/-- Texts are compared as they are ordered. -/
theorem cmp_text_ne_gt_iff {s t : String} : (text s).cmp (.text t) ≠ .gt ↔ s ≤ t := by
  rw [← not_lt, String.lt_iff_toList_lt, ← codePoints_eq_gt_iff, ← Bytes.compare_ofText]
  rfl

/-- Two whole numbers of whatever widths, two doubles, or two texts. -/
inductive Alike (a b : Datum) : Prop where
  | whole {m n : Int} (ha : a.int? = some m) (hb : b.int? = some n)
  | double {x y : Float8} (ha : a = .float8 x) (hb : b = .float8 y)
  | text {s t : String} (ha : a = .text s) (hb : b = .text t)

/-- There are `count` values from `low` up to `high`. Texts count by their first characters. -/
inductive Upward (low high : Datum) (count : Nat) : Prop where
  | whole {m n : Int} (hlow : low.int? = some m) (hhigh : high.int? = some n) (hle : m ≤ n)
      (hcount : (count : Int) = n - m + 1)
  | double {x y : Float8} (hlow : low = .float8 x) (hhigh : high = .float8 y)
      (hle : x.TotalOrder y) (hcount : count = {z | x.TotalOrder z ∧ z.TotalOrder y}.ncard)
  | text {s t : String} (hlow : low = .text s) (hhigh : high = .text t) (hle : s ≤ t)
      (hcount : (count : Int) = leadingCode t - leadingCode s + 1)

/-- There are `count` values between two ends, whichever is the greater one. -/
def Spans (a b : Datum) (count : Nat) : Prop := a.Upward b count ∨ b.Upward a count

variable {a b low high : Datum} {count : Nat}

/-- The low value does not sort behind the high one. -/
theorem Upward.cmp_ne_gt (h : low.Upward high count) : low.cmp high ≠ .gt := by
  cases h with
  | whole hlow hhigh hle hcount =>
    rw [cmp_of_int? hlow hhigh, compare_le_iff_le]
    exact hle
  | double hlow hhigh hle hcount =>
    subst hlow hhigh
    exact Float8.cmp_ne_gt_iff.mpr hle
  | text hlow hhigh hle hcount =>
    subst hlow hhigh
    exact cmp_text_ne_gt_iff.mpr hle

/-- The keys between the two are counted, whichever the type. -/
theorem Upward.cardinality_eq (h : low.Upward high count) : low.cardinality high = count := by
  cases h with
  | whole hlow hhigh hle hcount =>
    rw [cardinality_of_int? hlow hhigh]
    omega
  | double hlow hhigh hle hcount =>
    subst hlow hhigh
    rw [hcount, Float8.ncard_between hle]
    rfl
  | @text s t hlow hhigh hle hcount =>
    subst hlow hhigh
    have hcodes := leadingCode_le (cmp_text_ne_gt_iff.mpr hle)
    have hcard : (Datum.text s).cardinality (.text t) = leadingCode t - leadingCode s + 1 := rfl
    omega

/-- Ends that are in order both ways are one value. -/
theorem Upward.symm (h : low.Upward high count) (hback : high.cmp low ≠ .gt) :
    high.Upward low count := by
  cases h with
  | whole hlow hhigh hle hcount =>
    rw [cmp_of_int? hhigh hlow, compare_le_iff_le] at hback
    exact .whole hhigh hlow hback (by omega)
  | double hlow hhigh hle hcount =>
    subst hlow hhigh
    -- Bounds that are in order both ways are one bound, which needs no turning round.
    obtain rfl := hle.antisymm (Float8.cmp_ne_gt_iff.mp hback)
    exact .double rfl rfl hle hcount
  | text hlow hhigh hle hcount =>
    subst hlow hhigh
    obtain rfl := le_antisymm hle (cmp_text_ne_gt_iff.mp hback)
    exact .text rfl rfl hle hcount

/-- Values of one kind can be counted. -/
theorem Alike.exists_spans (h : a.Alike b) : ∃ count, a.Spans b count := by
  cases h with
  -- One of two whole numbers is the smaller, and likewise for the other types.
  | @whole m n ha hb =>
    rcases le_total m n with hle | hle
    · exact ⟨(n - m).toNat + 1, .inl (.whole ha hb hle (by omega))⟩
    · exact ⟨(m - n).toNat + 1, .inr (.whole hb ha hle (by omega))⟩
  | @double x y ha hb =>
    rcases x.totalOrder_total y with hle | hle
    · exact ⟨_, .inl (.double ha hb hle rfl)⟩
    · exact ⟨_, .inr (.double hb ha hle rfl)⟩
  | @text s t ha hb =>
    rcases le_total s t with hle | hle
    · have hcodes := leadingCode_le (cmp_text_ne_gt_iff.mpr hle)
      exact ⟨leadingCode t - leadingCode s + 1, .inl (.text ha hb hle (by omega))⟩
    · have hcodes := leadingCode_le (cmp_text_ne_gt_iff.mpr hle)
      exact ⟨leadingCode s - leadingCode t + 1, .inr (.text hb ha hle (by omega))⟩

end Datum

/-! ## §2 The number of keys -/

namespace RangeSplit

/-- The count of a column takes its bounds in the order in which they are. -/
theorem columnCardinality_eq {s : RangeSplit} {column count : Nat}
    (h : (s.range.low.get column).Spans (s.range.high.get column) count) :
    s.columnCardinality column = count := by
  unfold columnCardinality
  dsimp only
  split_ifs with hgt
  · rcases h with h | h
    · exact absurd hgt h.cmp_ne_gt
    · exact h.cardinality_eq
  · rcases h with h | h
    · exact h.cardinality_eq
    · exact (h.symm hgt).cardinality_eq

/-- **The number of keys is the product over the columns, up to the limit.** Ends of one kind can be
counted in every column, and whatever the counts are, the range has as many keys as their product,
or as many as 128 bits hold. There is at least one key, and there are no fewer than values of the
first column. -/
theorem cardinality_saturates {schema : KeySchema} {range : KeyRange} {s : RangeSplit}
    (h : make schema range = .ok s)
    (halike : ∀ column < schema.keys.length,
      (range.low.get column).Alike (range.high.get column)) :
    (∃ counts : Nat → Nat, ∀ column < schema.keys.length,
      (range.low.get column).Spans (range.high.get column) (counts column)) ∧
    (∀ counts : Nat → Nat,
      (∀ column < schema.keys.length,
        (range.low.get column).Spans (range.high.get column) (counts column)) →
      s.cardinality
        = min (2 ^ 128 - 1) (∏ column ∈ Finset.range schema.keys.length, counts column)) ∧
    0 < s.cardinality ∧ s.width ≤ s.cardinality := by
  obtain ⟨rfl, hkeys, -, -, -, horder⟩ := make_eq_ok_iff.mp h
  refine ⟨?_, ?_, cardinality_pos _, width_le_cardinality hkeys horder⟩
  · -- The counts of the columns, as the program computes them, are such counts.
    refine ⟨columnCardinality ⟨schema, range⟩, fun column hcolumn => ?_⟩
    obtain ⟨count, hcount⟩ := (halike column hcolumn).exists_spans
    rwa [columnCardinality_eq hcount]
  · intro counts hcounts
    have hlimit : limit = 2 ^ 128 - 1 := rfl
    -- The product that is cut at every factor is the product that is cut at the end.
    rw [cardinality_eq_prod, hlimit]
    congr 1
    apply Finset.prod_congr rfl
    intro column hcolumn
    exact columnCardinality_eq (hcounts column (Finset.mem_range.mp hcolumn))

/-- A range over doubles, texts and whole numbers. The first column runs through all patterns, and
the ends of the others stand the other way round. -/
def mixedColumns : RangeSplit where
  schema := ⟨[⟨"ratio", .float8, true, false⟩, ⟨"name", .text, true, false⟩,
    ⟨"id", .int8, false, true⟩]⟩
  range := ⟨⟨[.float8 ⟨0xFFFFFFFFFFFFFFFF⟩, .text "z", .int8 3]⟩,
    ⟨[.float8 ⟨0x7FFFFFFFFFFFFFFF⟩, .text "", .int4 (-3)]⟩, true⟩

theorem cardinality_mixedColumns : mixedColumns.cardinality = 2 ^ 64 * 123 * 7 := by
  have hmake : make mixedColumns.schema mixedColumns.range = .ok mixedColumns :=
    make_eq_ok_iff.mpr (by decide)
  have hdoubles : (⟨0xFFFFFFFFFFFFFFFF⟩ : Float8).TotalOrder ⟨0x7FFFFFFFFFFFFFFF⟩ :=
    Float8.totalOrder_iff.mpr (by decide)
  refine (cardinality_saturates hmake ?_).2.1 (fun | 0 => 2 ^ 64 | 1 => 123 | _ => 7) ?_
  -- Three columns, first their types and then their counts.
  all_goals
    intro column hcolumn
    change column < 3 at hcolumn
    interval_cases column
  · exact .double rfl rfl
  · exact .text rfl rfl
  · exact .whole rfl rfl
  · exact .inl (.double rfl rfl hdoubles ((Float8.ncard_between hdoubles).trans (by decide)).symm)
  · exact .inr (.text rfl rfl (by decide) (by decide))
  · exact .inr (.whole rfl rfl (by decide) (by decide))

end RangeSplit

end Shuffle
