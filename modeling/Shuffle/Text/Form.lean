import Shuffle.Text.Percent
import Shuffle.Text.Utf8

/-!
# Form fields

A query string holds `name=value` fields joined by `&`. In names and values a space is written
`+` and every other octet outside a small alphabet is escaped.

- `Form.render` writes a list of fields.
- `Form.parse` reads any byte string as a list of fields, so a query is never malformed here.
-/

namespace Shuffle.Form

/-- A field: its name and its value. -/
abbrev Field := String × String

/-! ## §1 Writing -/

/-- A name or a value as it is written. -/
def renderPart (text : String) : List Char :=
  text.toList.flatMap fun c => if c = ' ' then ['+'] else Percent.encode Percent.keptInForm [c]

/-- One field. -/
def renderField (field : Field) : List Char :=
  renderPart field.1 ++ '=' :: renderPart field.2

/-- A query string, without the leading `?`. -/
def render (fields : List Field) : String :=
  String.ofList (List.intercalate ['&'] (fields.map renderField))

/-! ## §2 Reading -/

/-- A name or a value as it is read: `+` is a space, escapes stand for octets, and octets that
are not UTF-8 become U+FFFD. -/
def parsePart (part : Bytes) : String :=
  Utf8.decodeLossy (Percent.decode (part.map fun b => if b = 0x2B then 0x20 else b))

/-- One field. The first `=` ends the name; without one the value is empty. -/
def parseField (field : Bytes) : Field :=
  (parsePart (field.takeWhile (· ≠ 0x3D)), parsePart ((field.dropWhile (· ≠ 0x3D)).drop 1))

/-- The fields of a query string in order. Empty pieces between `&` are no fields. -/
def parse (query : Bytes) : List Field :=
  ((query.splitOn 0x26).filter (· ≠ [])).map parseField

end Shuffle.Form
