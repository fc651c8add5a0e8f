import Shuffle.Bytes
import Shuffle.Decimal.Written

/-!
# Key values

A sort key is made of data of four types, and every value may be missing (NULL).

- `Datum.cmp` orders any two data: by class first (NULL, whole numbers, doubles, texts), then by
  value. The two widths of whole numbers are one class.
- `Datum.same` is equality in that order.
- `Tuple` is a row of data, one for each key column; columns past its end read as NULL.
-/

namespace Shuffle

/-! ## §1 Types of columns -/

/-- The type of a key column. -/
inductive DataType where
  | int4
  | int8
  | float8
  | text
deriving DecidableEq, Repr

namespace DataType

/-- All types, in the order of their tags. -/
def all : List DataType := [.int4, .int8, .float8, .text]

/-- The octet that stands for the type in files. -/
def tag : DataType → UInt8
  | .int4 => 1
  | .int8 => 2
  | .float8 => 3
  | .text => 4

/-- The type that an octet stands for. -/
def ofTag? (tag : UInt8) : Option DataType := all.find? (·.tag = tag)

/-- The name of the type in documents. -/
def name : DataType → String
  | .int4 => "int4"
  | .int8 => "int8"
  | .float8 => "float8"
  | .text => "text"

/-- The type with a given name. -/
def ofName? (name : String) : Option DataType := all.find? (·.name = name)

/-- The name of the type in messages. -/
def title : DataType → String
  | .int4 => "Int4"
  | .int8 => "Int8"
  | .float8 => "Float8"
  | .text => "Text"

theorem ofTag?_tag (t : DataType) : ofTag? t.tag = some t := by cases t <;> rfl

theorem ofName?_name (t : DataType) : ofName? t.name = some t := by cases t <;> decide

end DataType

/-! ## §2 Values -/

/-- One value of a sort key. -/
inductive Datum where
  | null
  | int4 (value : Int32)
  | int8 (value : Int64)
  | float8 (value : Float8)
  | text (value : String)
deriving DecidableEq, Repr

namespace Datum

/-- Is the value missing? -/
def isNull : Datum → Bool
  | .null => true
  | _ => false

/-- The type of a value; NULL has none. -/
def dataType? : Datum → Option DataType
  | .null => none
  | .int4 _ => some .int4
  | .int8 _ => some .int8
  | .float8 _ => some .float8
  | .text _ => some .text

/-- The number that a whole number of either width holds. -/
def int? : Datum → Option Int
  | .int4 v => some v.toInt
  | .int8 v => some v.toInt
  | _ => none

/-- The place of a value's type among the types; NULL comes first. -/
def typeRank (d : Datum) : Nat :=
  match d.dataType? with
  | none => 0
  | some t => t.tag.toNat

/-- The ascending order of values. Whole numbers compare as numbers, doubles in the total order of
IEEE 754, texts by their octets; values of different kinds compare by type. -/
def cmp : Datum → Datum → Ordering
  | .float8 a, .float8 b => a.cmp b
  | .text a, .text b => compare (Bytes.ofText a) (Bytes.ofText b)
  | a, b =>
    match a.int?, b.int? with
    -- The two widths are one class, in which numbers count.
    | some x, some y => compare x y
    | _, _ => compare a.typeRank b.typeRank

/-- Are two data equal as key values? -/
def same (a b : Datum) : Bool := a.cmp b == .eq

/-- A value as messages write it. Quotes inside a text are not marked. -/
def render : Datum → String
  | .null => "NULL"
  | .int4 v => toString v.toInt
  | .int8 v => toString v.toInt
  | .float8 v => v.text
  | .text v => "'" ++ v ++ "'"

end Datum

/-! ## §3 Rows of values -/

/-- A row of key values, one for each key column. -/
structure Tuple where
  values : List Datum
deriving DecidableEq, Repr

namespace Tuple

/-- The value of a column. Columns past the end are NULL. -/
def get (t : Tuple) (column : Nat) : Datum := t.values.getD column .null

/-- Number of values. -/
def size (t : Tuple) : Nat := t.values.length

/-- Are two rows equal, value by value, and equally long? -/
def same (a b : Tuple) : Bool :=
  a.size == b.size && (a.values.zip b.values).all fun (x, y) => x.same y

/-- A row as messages write it. -/
def render (t : Tuple) : String := "(" ++ ", ".intercalate (t.values.map Datum.render) ++ ")"

end Tuple

end Shuffle
