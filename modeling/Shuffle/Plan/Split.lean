import Shuffle.Plan.Statistics

/-!
# Splitting a key range

A range is cut into sub-ranges on its first column only. A cut takes the other columns from the
end of the range that is read first, so all rows with the cut's first value lie on one side of it.

- `RangeSplit.make` accepts a range whose first column can be cut.
- `RangeSplit.parts` cuts it into at most `n` sub-ranges, each ending where the next begins.
- `RangeSplit.cardinality` counts the keys of the range, up to a limit.
-/

namespace Shuffle

/-! ## §1 Values between two bounds -/

namespace Datum

/-- Are two values of kinds that can be the ends of one column? The widths of whole numbers are
one kind. -/
def sameKind (a b : Datum) : Bool :=
  match a, b with
  | .null, .null => true
  | .float8 _, .float8 _ => true
  | .text _, .text _ => true
  | a, b => a.int?.isSome && b.int?.isSome

/-- The code point of a text's first character, and zero for the empty text. -/
def leadingCode (s : String) : Nat := (s.toList.head?.map Char.toNat).getD 0

/-- How many values there are from `low` to `high`, both included. Texts count by their first
character. -/
def cardinality (low high : Datum) : Nat :=
  match low, high with
  | .float8 a, .float8 b => b.rank - a.rank + 1
  | .text a, .text b => leadingCode b - leadingCode a + 1
  | _, _ =>
    match low.int?, high.int? with
    | some a, some b => (b - a).toNat + 1
    | _, _ => 1

/-- The first character at or above a code point. -/
def charFrom? (code : Nat) : Option Char :=
  if h : code.isValidChar then some (Char.ofNatAux code h)
  else if code < 0xE000 then some '\uE000'
  else none

/-- The whole number `n` in the width of `model`. -/
def intLike (model : Datum) (n : Int) : Datum :=
  match model with
  | .int4 _ => .int4 (Int32.ofInt n)
  | _ => .int8 (Int64.ofInt n)

/-- The value `i / n` of the way from `low` to `high`. -/
def cut? (low high : Datum) (n i : Nat) : Option Datum :=
  match low, high with
  | .float8 a, .float8 b => some (.float8 (Float8.between a b i n))
  | .text a, .text _b =>
    (charFrom? (leadingCode a + cardinality low high * i / n)).map fun c =>
      .text (String.singleton c)
  | _, _ =>
    match low.int?, high.int? with
    | some a, some _ => some (low.intLike (a + (cardinality low high * i / n : Nat)))
    | _, _ => none

/-- Keeps of a list the values above the last one kept, as long as they are at most `high`. -/
def rising (high : Datum) : (last : Datum) → List Datum → List Datum
  | _, [] => []
  | last, v :: rest =>
    if v.cmp last = .gt ∧ v.cmp high ≠ .gt then v :: rising high v rest
    else rising high last rest

/-- The inner boundaries of `n` parts. There are fewer than `n - 1` where cuts collide. -/
def innerBoundaries (low high : Datum) (n : Nat) : List Datum :=
  rising high low ((List.range' 1 (n - 1)).filterMap (cut? low high n))

end Datum

/-! ## §2 Splits -/

/-- A range of keys that is to be cut. -/
structure RangeSplit where
  schema : KeySchema
  range : KeyRange
deriving DecidableEq, Repr

namespace RangeSplit

/-- The low end of the first column. -/
def low (s : RangeSplit) : Datum := s.range.low.get 0

/-- The high end of the first column. -/
def high (s : RangeSplit) : Datum := s.range.high.get 0

/-- Accepts a range whose first column runs upward between two values of one kind. -/
def make (schema : KeySchema) (range : KeyRange) : Except PlanError RangeSplit :=
  match schema.keys with
  | [] => .error .noSortKeys
  | leading :: _ =>
    let low := range.low.get 0
    let high := range.high.get 0
    if low.isNull || high.isNull then .error (.missingStatistics leading.column)
    else if !low.sameKind high then .error (.mixedBounds leading.column low high)
    else if low.cmp high = .gt then .error (.reversedBounds leading.column low high)
    else .ok ⟨schema, range⟩

/-- The largest number of keys that is told apart. -/
def limit : Nat := Nat.pow 2 128 - 1

/-- Number of values of a column, whichever way its ends stand. -/
def columnCardinality (s : RangeSplit) (column : Nat) : Nat :=
  let a := s.range.low.get column
  let b := s.range.high.get column
  -- A column behind the first may run against it, and then its ends stand the other way.
  if a.cmp b = .gt then b.cardinality a else a.cardinality b

/-- Number of keys in the range, at most `limit`. -/
def cardinality (s : RangeSplit) : Nat :=
  (List.range s.schema.keys.length).foldl
    (fun total column => min limit (total * s.columnCardinality column)) 1

/-- Number of values of the first column: the most parts there can be. -/
def width (s : RangeSplit) : Nat := s.low.cardinality s.high

/-- The columns behind the first, as every inner boundary has them. -/
def padding (s : RangeSplit) : List Datum :=
  if s.range.ascending then s.range.low.values.tail else s.range.high.values.tail

/-- The ends of `n` parts, in value order. -/
def boundaries (s : RangeSplit) (n : Nat) : List Tuple :=
  s.range.low
    :: (s.low.innerBoundaries s.high n).map (fun v => ⟨v :: s.padding⟩)
    ++ [s.range.high]

/-- The ranges between neighbours. -/
def between (ascending : Bool) : List Tuple → List KeyRange
  | a :: b :: rest => ⟨a, b, ascending⟩ :: between ascending (b :: rest)
  | _ => []

/-- Cuts the range into at most `n` parts in value order. -/
def parts (s : RangeSplit) (n : Nat) : Except PlanError (List KeyRange) :=
  if n = 0 then .error .zeroTasks
  else .ok (between s.range.ascending (s.boundaries (min s.width n)))

end RangeSplit

end Shuffle
