import Mathlib
import Shuffle.Proofs.Key.Order

/-!
# Comparing rows column by column

The verdict on two rows comes from their columns: rows are in order if every column is, the first
column decides where it differs, and rows compare equal exactly if each key column holds equal
data. Equality of data is what the order of values cannot tell apart, and `Datum.same_iff` puts it
as equality of places.

- `KeySchema.compare_eq_iff_columns`: when no column tells two rows apart.
- `KeySchema.compare_totalPreorder`: all laws of the comparison at once.
-/

namespace Shuffle

open Std

/-! ## §1 Equality of data -/

namespace Datum

/-- Two data are equal if they stand at one place of the order. -/
theorem same_iff {a b : Datum} : a.same b = true ↔ a.place = b.place := by
  rw [same, beq_iff_eq, cmp_eq_compare_place]
  exact LawfulEqCmp.compare_eq_iff_eq

/-- Being the same is being equal. -/
theorem same_equivalence : Equivalence fun a b : Datum => a.same b = true where
  refl _ := same_iff.mpr rfl
  symm h := same_iff.mpr (same_iff.mp h).symm
  trans hab hbc := same_iff.mpr ((same_iff.mp hab).trans (same_iff.mp hbc))

/-- NULL has a place of its own. -/
theorem isNull_eq_of_same {a b : Datum} (h : a.same b = true) : a.isNull = b.isNull := by
  have hplace := same_iff.mp h
  cases a <;> cases b <;> simp_all [place, isNull]

end Datum

namespace SortKey

variable {key : SortKey}

/-- Values that are not missing compare in the direction of the column. -/
theorem compare_of_values {a b : Datum} (ha : a.isNull = false) (hb : b.isNull = false) :
    key.compare a b = if key.ascending then a.cmp b else (a.cmp b).swap := by
  simp only [compare, ha, hb]

/-- No direction and no place of the missing values makes equal data differ, or different data
equal. -/
theorem compare_eq_iff_same {a b : Datum} : key.compare a b = .eq ↔ a.same b = true := by
  by_cases hnull : a.isNull = b.isNull
  · cases ha : a.isNull with
    | true =>
      -- Both are missing, and NULL is the only such datum.
      have hb : b.isNull = true := hnull ▸ ha
      cases a <;> cases b <;> simp_all [Datum.isNull, Datum.same_iff, compare]
    | false =>
      have hb : b.isNull = false := hnull ▸ ha
      rw [compare_of_values ha hb, Datum.same, beq_iff_eq]
      split
      · rfl
      · exact Ordering.swap_eq_eq
  · -- One of them is missing: each end of the column is apart from all values.
    have hdiffer : ¬ a.same b = true := fun hsame => hnull (Datum.isNull_eq_of_same hsame)
    simp only [hdiffer]
    unfold compare
    cases ha : a.isNull <;> cases hb : b.isNull <;> cases key.nullsFirst <;> simp_all

end SortKey

/-! ## §2 Verdicts on rows -/

namespace KeySchema

/-- A column that is not there is read as missing. -/
theorem headD_eq_getD (row : List Datum) : row.headD .null = row.getD 0 .null := by
  cases row <;> rfl

theorem getD_tail (row : List Datum) (i : Nat) :
    row.tail.getD i .null = row.getD (i + 1) .null := by
  cases row <;> simp

/-- A key that is in order in every column is in order. -/
private theorem compareValues_isLE {keys : List SortKey} {a b : List Datum}
    (h : ∀ (i : Nat) (key : SortKey), keys[i]? = some key →
      (key.compare (a.getD i .null) (b.getD i .null)).isLE) :
    (compareValues keys a b).isLE := by
  induction keys generalizing a b with
  | nil => rfl
  | cons key keys ih =>
    have hrest : (compareValues keys a.tail b.tail).isLE := by
      apply ih
      intro i k hk
      rw [getD_tail, getD_tail]
      exact h (i + 1) k hk
    -- A column in order leaves a verdict in order, or leaves it to the others.
    rw [compareValues, headD_eq_getD, headD_eq_getD]
    exact Ordering.isLE_then_iff_and.mpr ⟨h 0 key rfl, Or.inr hrest⟩

/-- Rows are in order if all columns are. -/
theorem compare_isLE_of_columns {schema : KeySchema} {a b : Tuple}
    (h : ∀ (i : Nat) (key : SortKey), schema.keys[i]? = some key →
      (key.compare (a.get i) (b.get i)).isLE) :
    (schema.compare a b).isLE :=
  compareValues_isLE h

/-- Rows are read in the direction of the first column. -/
theorem ascendsFirst_eq {schema : KeySchema} {leading : SortKey}
    (h : schema.keys[0]? = some leading) : schema.ascendsFirst = leading.ascending := by
  rw [ascendsFirst]
  cases hkeys : schema.keys with
  | nil => rw [hkeys] at h; cases h
  | cons key keys =>
    rw [hkeys] at h
    rw [Option.some.inj h]

/-- The first column decides where it differs. -/
theorem compare_of_leading {schema : KeySchema} {leading : SortKey} {a b : Tuple}
    (hkeys : schema.keys[0]? = some leading) (h : leading.compare (a.get 0) (b.get 0) ≠ .eq) :
    schema.compare a b = leading.compare (a.get 0) (b.get 0) := by
  obtain ⟨keys⟩ := schema
  cases keys with
  | nil => cases hkeys
  | cons key keys =>
    obtain rfl : key = leading := Option.some.inj hkeys
    rw [compare, compareValues, headD_eq_getD, headD_eq_getD]
    -- A difference in the first column leaves nothing to the others.
    change (key.compare (a.get 0) (b.get 0)).then _ = _
    cases hcmp : key.compare (a.get 0) (b.get 0) with
    | eq => exact absurd hcmp h
    | lt => rfl
    | gt => rfl

/-- Keys are equal when they are so in every column. -/
private theorem compareValues_eq_iff {keys : List SortKey} {a b : List Datum} :
    compareValues keys a b = .eq ↔
      ∀ i < keys.length, (a.getD i .null).same (b.getD i .null) = true := by
  induction keys generalizing a b with
  | nil => simp [compareValues]
  | cons key keys ih =>
    -- The first column has to be equal, and column `i + 1` is column `i` of the tails.
    rw [compareValues, headD_eq_getD, headD_eq_getD, Ordering.then_eq_eq,
      SortKey.compare_eq_iff_same, ih]
    simp only [getD_tail, List.length_cons, Nat.forall_lt_succ_left]

/-- Rows compare equal exactly if each key column holds equal data. -/
theorem compare_eq_iff_columns {schema : KeySchema} {a b : Tuple} :
    schema.compare a b = .eq ↔ ∀ i < schema.keys.length, (a.get i).same (b.get i) = true :=
  compareValues_eq_iff

/-! ## §3 The laws together -/

/-- **The comparison is a total preorder that agrees with equality**: turning the rows around turns
the verdict around, order is transitive, and equal rows are those with equal data in each key
column, for an equality of data that is an equivalence. -/
theorem compare_totalPreorder (schema : KeySchema) (a b c : Tuple) :
    schema.compare a b = (schema.compare b a).swap ∧
      (schema.compare a b ≠ .gt → schema.compare b c ≠ .gt → schema.compare a c ≠ .gt) ∧
      (schema.compare a b = .eq ↔
        ∀ i < schema.keys.length, (a.get i).same (b.get i) = true) ∧
      Equivalence fun x y : Datum => x.same y = true := by
  refine ⟨OrientedCmp.eq_swap, ?_, compare_eq_iff_columns, Datum.same_equivalence⟩
  simp only [← Ordering.isLE_iff_ne_gt]
  exact fun hab hbc => TransCmp.isLE_trans hab hbc

/-- Whole numbers of both widths, NULLs that go first in a column that runs down, a text where
numbers are expected, and a row that is too short. -/
theorem compare_totalPreorder_mixed :
    let schema : KeySchema := ⟨[⟨"k", .int8, false, true⟩, ⟨"t", .text, true, false⟩]⟩
    let a : Tuple := ⟨[.null, .text "b"]⟩
    let b : Tuple := ⟨[.text "x", .float8 ⟨0x7FF8000000000001⟩]⟩
    let c : Tuple := ⟨[.int4 7]⟩
    schema.compare a b = .lt ∧ schema.compare b c = .lt ∧ schema.compare a c ≠ .gt ∧
      (schema.compare c ⟨[.int8 7, .null, .int4 1]⟩ = .eq ↔
        ∀ i < 2, (c.get i).same ((⟨[.int8 7, .null, .int4 1]⟩ : Tuple).get i) = true) := by
  intro schema a b c
  have hab : schema.compare a b = .lt := by decide
  have hbc : schema.compare b c = .lt := by decide
  have hlaws := compare_totalPreorder schema a b c
  exact ⟨hab, hbc, hlaws.2.1 (by rw [hab]; decide) (by rw [hbc]; decide),
    (compare_totalPreorder schema c ⟨[.int8 7, .null, .int4 1]⟩ a).2.2.1⟩

end KeySchema

end Shuffle
