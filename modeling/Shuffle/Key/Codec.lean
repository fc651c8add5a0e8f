import Shuffle.Key.Cursor
import Shuffle.KeySchema
import Shuffle.Text.Base64Url
import Shuffle.Text.Utf8

/-!
# Encoded keys

A row of key values is written column after column. A column is one octet, `1` for NULL and `0`
for a value, and the value: whole numbers and doubles as their big-endian bits, a text as its
length in four octets and its UTF-8 form. The columns' types are not written, so the schema is
needed to read a key.

- `KeySchema.encode` writes a row that fits the schema. A 4-byte number fits a column of 8-byte
  numbers.
- `KeySchema.read` reads one row and leaves the rest; `KeySchema.decode` wants no rest.
- `keyToText` and `keyOfText` are the form of encoded keys in URLs.
-/

namespace Shuffle

/-! ## §1 Faults -/

/-- Why a row cannot be encoded or bytes are no encoded row. -/
inductive KeyError where
  /-- The row has `values` values where the schema has `columns` columns. -/
  | arity (values columns : Nat)
  /-- A value's type is not the column's. -/
  | mismatch (column : String) (expected : DataType) (value : Datum)
  /-- A text too long for its length field. -/
  | textTooLong (length : Nat)
  /-- The bytes end inside a key. -/
  | shortage (s : Shortage)
  /-- `count` bytes are left behind the key. -/
  | trailing (count : Nat)
  /-- The octet before a value is neither `0` nor `1`. -/
  | marker (value : UInt8) (column : String)
  /-- A text that is not UTF-8. -/
  | notText (column : String) (fault : Utf8.Fault)
  /-- The text form of a key is not base 64. -/
  | base64 (text : String) (fault : Base64Url.Fault)
deriving DecidableEq, Repr

namespace KeyError

/-- The wording of a fault, without the words that say what was being done. -/
def detail : KeyError → String
  | .arity values columns =>
    s!"tuple has {values} values but the key schema has {columns} columns"
  | .mismatch column expected value =>
    "column '" ++ column ++ "' expects " ++ expected.title ++ ", got " ++ value.render
  | .textTooLong length => s!"text key too long: {length}"
  | .shortage s => s.message
  | .trailing count => s!"{count} trailing bytes after key tuple"
  | .marker value column => s!"unknown null marker {value.toNat} for column '" ++ column ++ "'"
  | .notText column fault => "column '" ++ column ++ "' is not UTF-8: " ++ fault.message
  | .base64 text fault => "invalid base64 key '" ++ text ++ "': " ++ fault.message

/-- The wording of a fault. -/
def message (e : KeyError) : String := "invalid key encoding: " ++ e.detail

end KeyError

/-! ## §2 Writing -/

/-- The octet before NULL, which has no value bytes. -/
def nullMarker : UInt8 := 1

/-- The octet before a value. -/
def valueMarker : UInt8 := 0

/-- One column of an encoded key. -/
def SortKey.encode (key : SortKey) (value : Datum) : Except KeyError Bytes :=
  match key.dataType, value with
  | _, .null => .ok [nullMarker]
  | .int4, .int4 v => .ok (valueMarker :: Bytes.bigEndian 4 v.toUInt32.toNat)
  -- A column has one width, in which narrower numbers are stored as well.
  | .int8, .int4 v => .ok (valueMarker :: Bytes.bigEndian 8 v.toInt64.toUInt64.toNat)
  | .int8, .int8 v => .ok (valueMarker :: Bytes.bigEndian 8 v.toUInt64.toNat)
  | .float8, .float8 v => .ok (valueMarker :: Bytes.bigEndian 8 v.bits.toNat)
  | .text, .text v =>
    let raw := Bytes.ofText v
    if raw.length < UInt32.size then .ok (valueMarker :: (Bytes.bigEndian 4 raw.length ++ raw))
    else .error (.textTooLong raw.length)
  | expected, v => .error (.mismatch key.column expected v)

namespace KeySchema

/-- The columns of an encoded key. -/
def encodeColumns : List SortKey → List Datum → Except KeyError Bytes
  | key :: keys, value :: values => do
    let column ← key.encode value
    let rest ← encodeColumns keys values
    return column ++ rest
  | _, _ => .ok []

/-- Writes a row. It needs one value for each column, each NULL or of the column's type. -/
def encode (schema : KeySchema) (row : Tuple) : Except KeyError Bytes :=
  if row.size = schema.keys.length then encodeColumns schema.keys row.values
  else .error (.arity row.size schema.keys.length)

end KeySchema

/-! ## §3 Reading -/

/-- Restates a shortage as a fault of the key. -/
def KeyError.ofShortage {α : Type} (r : Except Shortage α) : Except KeyError α :=
  r.mapError .shortage

/-- Reads a value of the column's type. -/
def SortKey.readValue (key : SortKey) (c : Cursor) : Except KeyError (Datum × Cursor) :=
  match key.dataType with
  | .int4 => do
    let (v, c) ← KeyError.ofShortage c.i32
    return (.int4 v, c)
  | .int8 => do
    let (v, c) ← KeyError.ofShortage c.i64
    return (.int8 v, c)
  | .float8 => do
    let (v, c) ← KeyError.ofShortage c.u64
    return (.float8 ⟨v⟩, c)
  | .text => do
    let (length, c) ← KeyError.ofShortage c.u32
    let (raw, c) ← KeyError.ofShortage (c.take length.toNat)
    match Utf8.decode raw with
    | .ok text => return (.text text, c)
    | .error fault => .error (.notText key.column fault)

/-- Reads one column of an encoded key. -/
def SortKey.read (key : SortKey) (c : Cursor) : Except KeyError (Datum × Cursor) := do
  let (marker, c) ← KeyError.ofShortage c.u8
  if marker = nullMarker then return (.null, c)
  else if marker = valueMarker then key.readValue c
  else .error (.marker marker key.column)

namespace KeySchema

/-- Reads the columns of an encoded key. -/
def readColumns : List SortKey → Cursor → Except KeyError (List Datum × Cursor)
  | [], c => .ok ([], c)
  | key :: keys, c => do
    let (value, c) ← key.read c
    let (values, c) ← readColumns keys c
    return (value :: values, c)

/-- Reads one row and leaves the cursor behind it. -/
def read (schema : KeySchema) (c : Cursor) : Except KeyError (Tuple × Cursor) := do
  let (values, c) ← readColumns schema.keys c
  return (⟨values⟩, c)

/-- Reads a row that fills the bytes. -/
def decode (schema : KeySchema) (bytes : Bytes) : Except KeyError Tuple := do
  let (row, c) ← schema.read (Cursor.start bytes)
  if c.isDone then return row else .error (.trailing c.left)

end KeySchema

/-! ## §4 Keys in URLs -/

/-- An encoded key as text. -/
def keyToText (key : Bytes) : String := Base64Url.encode key

/-- The encoded key that a text stands for. Padding at the end is allowed and ignored. -/
def keyOfText (text : String) : Except KeyError Bytes :=
  let symbols := (text.toList.reverse.dropWhile (· = '=')).reverse
  (Base64Url.decode (Bytes.ofText (String.ofList symbols))).mapError (.base64 text)

end Shuffle
