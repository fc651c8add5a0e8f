import Shuffle.Datum

/-!
# Sort orders

A `KeySchema` lists the columns that rows are sorted by. Each column has a direction, and its
missing values go first or last whatever the direction.

- `KeySchema.compare` orders rows column by column.
- `KeyRange` is an interval of rows in value order, marked with the direction of the first column.
-/

namespace Shuffle

/-! ## §1 Columns -/

/-- One column of a sort order. -/
structure SortKey where
  column : String
  dataType : DataType
  ascending : Bool := true
  nullsFirst : Bool := false
deriving DecidableEq, Repr

/-- The order of two values of a sort column. -/
def SortKey.compare (key : SortKey) (a b : Datum) : Ordering :=
  match a.isNull, b.isNull with
  | true, true => .eq
  | true, false => if key.nullsFirst then .lt else .gt
  | false, true => if key.nullsFirst then .gt else .lt
  | false, false => if key.ascending then a.cmp b else (a.cmp b).swap

/-! ## §2 Rows -/

/-- The columns that rows are sorted by, the most significant first. -/
structure KeySchema where
  keys : List SortKey
deriving DecidableEq, Repr

namespace KeySchema

/-- Compares rows column by column; the first difference decides. -/
def compareValues : List SortKey → List Datum → List Datum → Ordering
  | [], _, _ => .eq
  | key :: keys, a, b =>
    (key.compare (a.headD .null) (b.headD .null)).then (compareValues keys a.tail b.tail)

/-- The order of two rows. Values beyond the key columns do not count. -/
def compare (schema : KeySchema) (a b : Tuple) : Ordering :=
  compareValues schema.keys a.values b.values

/-- Does the first column ascend? A schema without columns counts as ascending. -/
def ascendsFirst (schema : KeySchema) : Bool :=
  match schema.keys with
  | [] => true
  | key :: _ => key.ascending

end KeySchema

/-! ## §3 Ranges -/

/-- The rows from `low` to `high` in value order. `ascending` is the direction in which they are
stored: the first end read is `low` if it holds and `high` otherwise. -/
structure KeyRange where
  low : Tuple
  high : Tuple
  ascending : Bool := true
deriving DecidableEq, Repr

namespace KeyRange

/-- Does this range end where the other begins? -/
def isAdjacentTo (a b : KeyRange) : Bool := a.high.same b.low

/-- Are two ranges equal as key values, with one direction? -/
def same (a b : KeyRange) : Bool :=
  a.low.same b.low && a.high.same b.high && a.ascending == b.ascending

/-- The order of ranges: by their low ends, then by their high ends. -/
def compare (schema : KeySchema) (a b : KeyRange) : Ordering :=
  (schema.compare a.low b.low).then (schema.compare a.high b.high)

/-- A range as messages write it. -/
def render (r : KeyRange) : String :=
  "[" ++ r.low.render ++ " ~ " ++ r.high.render ++ "]" ++ (if r.ascending then "" else " desc")

end KeyRange

end Shuffle
