import Shuffle.Key.Codec
import Shuffle.Output

/-!
# Statistics of stage output

A finished stage reports how much it wrote and, for some columns, the least and the greatest
value. `TableStats.keyRange` turns this into the range of keys that its sorted output spans.
-/

namespace Shuffle

/-! ## §1 Faults of planning -/

/-- A way of planning that wants a certain number of input stages. -/
inductive InputRule where
  | join
  | range
  | broadcast
deriving DecidableEq, Repr

/-- The name of a way of planning. -/
def InputRule.name : InputRule → String
  | .join => "hash join"
  | .range => "range"
  | .broadcast => "broadcast"

/-- How many input stages it wants. -/
def InputRule.wanted : InputRule → String
  | .join => "at least 2"
  | .range => "exactly 1"
  | .broadcast => "at least 1"

/-- Why no tasks can be planned. -/
inductive PlanError where
  | noSortKeys
  /-- A sort column lacks its least or greatest value. -/
  | missingStatistics (column : String)
  | reversedStatistics (column : String) (min max : Datum)
  /-- The two ends of the first column are values of different kinds. -/
  | mixedBounds (column : String) (low high : Datum)
  | reversedBounds (column : String) (low high : Datum)
  | zeroTasks
  | inputCount (rule : InputRule) (found : Nat)
  /-- A stage's output is not partitioned as the plan needs it. -/
  | mismatch (stage : UInt32) (expected : Partitioning)
  | noTasks (groups : Nat)
  | key (fault : KeyError)
deriving DecidableEq, Repr

/-- The wording of statistics that cannot be right. -/
def PlanError.invalidStatistics (column reason : String) : String :=
  "invalid statistics for column '" ++ column ++ "': " ++ reason

/-- The wording of a fault. -/
def PlanError.message : PlanError → String
  | .noSortKeys => "range repartitioning requires at least one sort key"
  | .missingStatistics column => "no min/max statistics for sort column '" ++ column ++ "'"
  | .reversedStatistics column min max =>
    invalidStatistics column ("min " ++ min.render ++ " exceeds max " ++ max.render)
  | .mixedBounds column low high =>
    invalidStatistics column
      ("bounds " ++ low.render ++ " and " ++ high.render ++ " have different types")
  | .reversedBounds column low high =>
    invalidStatistics column ("range start " ++ low.render ++ " exceeds end " ++ high.render)
  | .zeroTasks => "task count must be positive"
  | .inputCount rule found =>
    rule.name ++ " planning expects " ++ rule.wanted ++ s!" input stage(s), got {found}"
  | .mismatch stage expected =>
    s!"stage {stage.toNat} output is not " ++ expected.title ++ " partitioned"
  | .noTasks groups => s!"cannot assign {groups} partition group(s) to zero tasks"
  | .key fault => fault.message

/-! ## §2 Statistics -/

/-- The extreme values of a column. NULLs do not count as values. -/
structure ColumnStats where
  column : String
  min : Option Datum := none
  max : Option Datum := none
deriving DecidableEq, Repr

/-- What a stage wrote in all. -/
structure TableStats where
  rows : UInt64
  bytes : UInt64
  columns : List ColumnStats := []
deriving DecidableEq, Repr

namespace TableStats

/-- The statistics of a column: the first entry with its name. -/
def column? (stats : TableStats) (name : String) : Option ColumnStats :=
  stats.columns.find? (·.column = name)

/-- The least and the greatest value of a sort column. -/
def bounds (stats : TableStats) (key : SortKey) : Except PlanError (Datum × Datum) :=
  match stats.column? key.column with
  | some ⟨_, some min, some max⟩ =>
    if min.isNull || max.isNull then .error (.missingStatistics key.column)
    else if min.cmp max = .gt then .error (.reversedStatistics key.column min max)
    else .ok (min, max)
  | _ => .error (.missingStatistics key.column)

/-- The ends of a column behind the first one. The low end of the range holds the value that is
met first when the first column is read upward. -/
def trailingEnds (stats : TableStats) (leading key : SortKey) : Except PlanError (Datum × Datum) :=
  (stats.bounds key).map fun (min, max) =>
    if key.ascending = leading.ascending then (min, max) else (max, min)

/-- The range of the stage's keys. Its ends enclose every row without NULLs in sort order. -/
def keyRange (stats : TableStats) (schema : KeySchema) : Except PlanError KeyRange :=
  match schema.keys with
  | [] => .error .noSortKeys
  | leading :: trailing => do
    let (low, high) ← stats.bounds leading
    let ends ← trailing.mapM (stats.trailingEnds leading)
    return ⟨⟨low :: ends.map (·.1)⟩, ⟨high :: ends.map (·.2)⟩, leading.ascending⟩

end TableStats

end Shuffle
