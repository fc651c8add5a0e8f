import Mathlib
import Shuffle.KeySchema

/-!
# The sort order of keys

Any two keys compare, whatever their values and however many they have: every comparison of the
library is a total preorder.

- `Datum.place` spells a value as a list of numbers, and `Datum.cmp_eq_compare_place` says that
  values compare as these lists do. All laws of the order come from there.
- `KeySchema.compare` inherits the laws column by column.
-/

namespace Shuffle

open Std

/-! ## §1 Values -/

namespace Datum

/-- The place of a value in the order: the class of its type, and then its value. -/
def place : Datum → List Int
  | .null => [0]
  | .int4 v => [1, v.toInt]
  | .int8 v => [1, v.toInt]
  | .float8 v => [2, v.rank]
  | .text v => 3 :: (Bytes.ofText v).map fun b => (b.toNat : Int)

/-- Octets compare as the numbers that they are. -/
private theorem compare_octets (a b : Bytes) :
    compare a b = compare (a.map fun x => (x.toNat : Int)) (b.map fun x => (x.toNat : Int)) := by
  -- Octets are compared as the numbers that they are, one after the other.
  induction a generalizing b with
  | nil => cases b <;> rfl
  | cons x a ih =>
    cases b with
    | nil => rfl
    | cons y b =>
      have hxy : compare x y = compare (x.toNat : Int) (y.toNat : Int) := by
        simp only [compare, compareOfLessAndEq, UInt8.lt_iff_toNat_lt, ← UInt8.toNat_inj,
          Int.ofNat_lt, Int.natCast_inj]
      simp only [List.map_cons, List.compare_cons_cons, hxy, ih]

private theorem compare_ranks (a b : Nat) : compare a b = compare (a : Int) (b : Int) := by
  simp only [compare, compareOfLessAndEq, Int.ofNat_lt, Int.natCast_inj]

/-- Values compare as their places do. -/
theorem cmp_eq_compare_place (a b : Datum) : a.cmp b = compare a.place b.place := by
  cases a <;> cases b <;>
    simp only [cmp, place, int?, typeRank, dataType?, DataType.tag, Float8.cmp,
      List.compare_cons_cons, List.compare_nil_nil, compare_ranks, compare_octets,
      Ordering.then_eq] <;> rfl

instance : TransCmp Datum.cmp where
  eq_swap {a b} := by
    rw [cmp_eq_compare_place, cmp_eq_compare_place]
    exact OrientedCmp.eq_swap
  isLE_trans {a b c} hab hbc := by
    rw [cmp_eq_compare_place] at *
    exact TransCmp.isLE_trans hab hbc

/-- Exchanging two values turns their comparison around. -/
theorem swap_cmp (a b : Datum) : (a.cmp b).swap = b.cmp a :=
  OrientedCmp.eq_swap.symm

end Datum

/-! ## §2 Columns and rows -/

/-- Missing values take their end of the column, whatever its direction. -/
instance (key : SortKey) : TransCmp key.compare where
  eq_swap {a b} := by
    unfold SortKey.compare
    cases a.isNull <;> cases b.isNull <;> cases key.nullsFirst <;> cases key.ascending <;>
      simp [Datum.swap_cmp]
  isLE_trans {a b c} hab hbc := by
    have hup : (a.cmp b).isLE → (b.cmp c).isLE → (a.cmp c).isLE := TransCmp.isLE_trans
    have hdown : (a.cmp b).isGE → (b.cmp c).isGE → (a.cmp c).isGE := TransCmp.isGE_trans
    unfold SortKey.compare at *
    cases ha : a.isNull <;> cases hb : b.isNull <;> cases hc : c.isNull <;>
      cases hn : key.nullsFirst <;> cases hd : key.ascending <;> simp_all

/-- Comparing what two things are seen as keeps the laws of the comparison. -/
private theorem transCmp_view {α β : Type} (view : α → β) (cmp : β → β → Ordering) [TransCmp cmp] :
    TransCmp fun a b => cmp (view a) (view b) where
  eq_swap {a b} := by
    have hswap : cmp (view a) (view b) = (cmp (view b) (view a)).swap := OrientedCmp.eq_swap
    exact hswap
  isLE_trans {a b c} hab hbc := by
    have hac : (cmp (view a) (view c)).isLE := TransCmp.isLE_trans hab hbc
    exact hac

namespace KeySchema

instance (keys : List SortKey) : TransCmp (compareValues keys) := by
  induction keys with
  | nil => exact { eq_swap := rfl, isLE_trans := fun _ _ => rfl }
  | cons key keys ih =>
    have hhead := transCmp_view (fun row : List Datum => row.headD .null) key.compare
    have htail := transCmp_view (fun row : List Datum => row.tail) (compareValues keys)
    exact inferInstanceAs (TransCmp (compareLex
      (fun a b : List Datum => key.compare (a.headD .null) (b.headD .null))
      (fun a b : List Datum => compareValues keys a.tail b.tail)))

instance (schema : KeySchema) : TransCmp schema.compare :=
  transCmp_view Tuple.values (compareValues schema.keys)

end KeySchema

instance (schema : KeySchema) : TransCmp (KeyRange.compare schema) := by
  have hlow := transCmp_view KeyRange.low schema.compare
  have hhigh := transCmp_view KeyRange.high schema.compare
  exact inferInstanceAs (TransCmp (compareLex
    (fun a b : KeyRange => schema.compare a.low b.low)
    (fun a b : KeyRange => schema.compare a.high b.high)))

end Shuffle
