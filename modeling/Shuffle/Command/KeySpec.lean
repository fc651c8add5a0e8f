import Shuffle.KeySchema

/-!
# Sort columns on the command line

A sort column is written `column:type` or `column:type:direction`. Types and directions are read
without regard to case; the column ascends unless its direction says otherwise.
-/

namespace Shuffle

/-- Why a text is no sort column. -/
inductive KeySpecFault where
  | shape
  /-- No type has this name. -/
  | dataType (name : String)
  | direction (name : String)
deriving DecidableEq, Repr

/-- The wording of a fault in a text. -/
def KeySpecFault.message (spec : String) : KeySpecFault → String
  | .shape => "Invalid sort key '" ++ spec ++ "', expected column:type[:desc]"
  | .dataType name => "Unknown key type '" ++ name ++ "' in '" ++ spec ++ "'"
  | .direction name => "Unknown sort direction '" ++ name ++ "' in '" ++ spec ++ "'"

namespace SortKey

/-- Reads a direction: does the column ascend? -/
def readDirection (name : String) : Except KeySpecFault Bool :=
  let name := name.toLower
  if name = "asc" then .ok true
  else if name = "desc" then .ok false
  else .error (.direction name)

/-- A sort column from its parts. -/
def ofParts (column dataType direction : String) : Except KeySpecFault SortKey := do
  match DataType.ofName? dataType.toLower with
  | none => .error (.dataType dataType.toLower)
  | some t => return { column, dataType := t, ascending := ← readDirection direction }

/-- Reads a sort column. -/
def ofSpec (spec : String) : Except KeySpecFault SortKey :=
  match (spec.toList.splitOn ':').map String.ofList with
  | [column, dataType] => ofParts column dataType "asc"
  | [column, dataType, direction] => ofParts column dataType direction
  | _ => .error .shape

end SortKey

end Shuffle
