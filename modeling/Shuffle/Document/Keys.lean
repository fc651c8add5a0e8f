import Shuffle.Fetch.Descriptor
import Shuffle.Json.Record

/-!
# Documents of keys and output

The JSON form of data, sort columns, ranges, attempts, output entries and descriptors. For each
type, `toJson` writes every field in order and `ofJson?` reads what `toJson` writes, and more: see
`Json.slots?` for the freedom that records have.
-/

namespace Shuffle

/-! ## §1 Data -/

/-- A type is its name. -/
def DataType.toJson (t : DataType) : Json := .ofText t.name

/-- Reads a type. -/
def DataType.ofJson? : Json → Option DataType := Json.unitVariant? DataType.ofName?

namespace Datum

/-- A value is an object with its type as only member; NULL is a name alone. -/
def toJson : Datum → Json
  | .null => .ofText "null"
  | .int4 v => .ofMembers [("int4", .ofInt v.toInt)]
  | .int8 v => .ofMembers [("int8", .ofInt v.toInt)]
  | .float8 v => .ofMembers [("float8", .ofFloat8 v)]
  | .text v => .ofMembers [("text", .ofText v)]

/-- Reads a value of a type. -/
def ofContent? (dataType : DataType) (content : Json) : Option Datum :=
  match dataType with
  | .int4 =>
    (content.intWithin? Int32.minValue.toInt Int32.maxValue.toInt).map (.int4 ∘ Int32.ofInt)
  | .int8 =>
    (content.intWithin? Int64.minValue.toInt Int64.maxValue.toInt).map (.int8 ∘ Int64.ofInt)
  | .float8 => content.float8?.map .float8
  | .text => content.text?.map .text

/-- Reads a value. -/
def ofJson? (j : Json) : Option Datum :=
  match j.variant? with
  | some ("null", none) => some .null
  | some ("null", some .null) => some .null
  | some (name, some content) => (DataType.ofName? name).bind (ofContent? · content)
  | _ => none

end Datum

/-- A row is an array of its values. -/
def Tuple.toJson (t : Tuple) : Json := .array (t.values.map Datum.toJson)

/-- Reads a row. -/
def Tuple.ofJson? (j : Json) : Option Tuple := (Json.listOf? Datum.ofJson? j).map Tuple.mk

/-! ## §2 Orders and ranges -/

/-- A sort column. -/
def SortKey.toJson (key : SortKey) : Json :=
  .ofMembers [("column", .ofText key.column), ("data_type", key.dataType.toJson),
    ("ascending", .bool key.ascending), ("nulls_first", .bool key.nullsFirst)]

/-- Reads a sort column. It ascends with NULLs last unless told otherwise. -/
def SortKey.ofJson? (j : Json) : Option SortKey :=
  match j.slots? ["column", "data_type", "ascending", "nulls_first"] with
  | some [column, dataType, ascending, nullsFirst] => do
    return ⟨← Json.required Json.text? column, ← Json.required DataType.ofJson? dataType,
      ← Json.withDefault true Json.bool? ascending, ← Json.withDefault false Json.bool? nullsFirst⟩
  | _ => none

/-- A schema is an array of its columns. -/
def KeySchema.toJson (schema : KeySchema) : Json := .array (schema.keys.map SortKey.toJson)

/-- Reads a schema. -/
def KeySchema.ofJson? (j : Json) : Option KeySchema :=
  (Json.listOf? SortKey.ofJson? j).map KeySchema.mk

/-- A range of rows. -/
def KeyRange.toJson (r : KeyRange) : Json :=
  .ofMembers [("start", r.low.toJson), ("end", r.high.toJson), ("ascending", .bool r.ascending)]

/-- Reads a range of rows. It ascends unless told otherwise. -/
def KeyRange.ofJson? (j : Json) : Option KeyRange :=
  match j.slots? ["start", "end", "ascending"] with
  | some [low, high, ascending] => do
    return ⟨← Json.required Tuple.ofJson? low, ← Json.required Tuple.ofJson? high,
      ← Json.withDefault true Json.bool? ascending⟩
  | _ => none

/-! ## §3 Output -/

/-- A partitioning is its name. -/
def Partitioning.toJson (p : Partitioning) : Json := .ofText p.name

/-- Reads a partitioning. -/
def Partitioning.ofJson? : Json → Option Partitioning := Json.unitVariant? Partitioning.ofName?

/-- An attempt. -/
def TaskAttempt.toJson (a : TaskAttempt) : Json :=
  .ofMembers [("task_id", .ofNat a.task.toNat), ("attempt_id", .ofNat a.attempt.toNat)]

/-- Reads an attempt. -/
def TaskAttempt.ofJson? (j : Json) : Option TaskAttempt :=
  match j.slots? ["task_id", "attempt_id"] with
  | some [task, attempt] => do
    return ⟨← Json.required Json.uint32? task, ← Json.required Json.uint32? attempt⟩
  | _ => none

/-- The address of a pull service. -/
def PullAddress.toJson (a : PullAddress) : Json :=
  .ofMembers [("host", .ofText a.host), ("port", .ofNat a.port.toNat)]

/-- Reads the address of a pull service. -/
def PullAddress.ofJson? (j : Json) : Option PullAddress :=
  match j.slots? ["host", "port"] with
  | some [host, port] => do
    return ⟨← Json.required Json.text? host, ← Json.required Json.uint16? port⟩
  | _ => none

/-- An entry, its attempt and its address in fields of their own. -/
def OutputEntry.toJson (e : OutputEntry) : Json :=
  .ofMembers [("task_id", .ofNat e.attempt.task.toNat),
    ("attempt_id", .ofNat e.attempt.attempt.toNat), ("partition_id", .ofNat e.partition.toNat),
    ("pull_host", .ofText e.address.host), ("pull_port", .ofNat e.address.port.toNat),
    ("volume", .ofNat e.volume.toNat)]

/-- Reads an entry. -/
def OutputEntry.ofJson? (j : Json) : Option OutputEntry :=
  match j.slots? ["task_id", "attempt_id", "partition_id", "pull_host", "pull_port", "volume"] with
  | some [task, attempt, partition, host, port, volume] => do
    return ⟨⟨← Json.required Json.uint32? task, ← Json.required Json.uint32? attempt⟩,
      ← Json.withDefault 0 Json.uint32? partition,
      ⟨← Json.required Json.text? host, ← Json.required Json.uint16? port⟩,
      ← Json.withDefault 0 Json.uint64? volume⟩
  | _ => none

/-- A descriptor is its URL. -/
def FetchDescriptor.toJson (d : FetchDescriptor) : Json := .ofText d.render

/-- Reads a descriptor. -/
def FetchDescriptor.ofJson? (j : Json) : Option FetchDescriptor :=
  j.text?.bind fun url => (FetchDescriptor.read url).toOption

end Shuffle
