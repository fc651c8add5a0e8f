import Shuffle.Json.Value

/-!
# JSON text

`Json.compact` writes a value without blanks, `Json.pretty` with one item a line and two blanks of
indentation for each level. Strings keep every character but quotes, backslashes and controls.
-/

namespace Shuffle.Json

/-! ## §1 Strings -/

/-- The lower-case hexadecimal digit of a value below 16. -/
def hexDigit (n : Nat) : Char :=
  if n < 10 then Char.ofNat (0x30 + n) else Char.ofNat (0x61 + n - 10)

/-- A character as strings have it. -/
def escapeChar (c : Char) : List Char :=
  if c = '"' then ['\\', '"']
  else if c = '\\' then ['\\', '\\']
  else if c = '\n' then ['\\', 'n']
  else if c = '\r' then ['\\', 'r']
  else if c = '\t' then ['\\', 't']
  else if c.toNat = 8 then ['\\', 'b']
  else if c.toNat = 12 then ['\\', 'f']
  else if c.toNat < 0x20 then
    ['\\', 'u', '0', '0', hexDigit (c.toNat / 16), hexDigit (c.toNat % 16)]
  else [c]

/-- A text between quotes. -/
def quote (s : String) : String := String.ofList ('"' :: s.toList.flatMap escapeChar ++ ['"'])

/-! ## §2 Values on one line -/

mutual

/-- A value without blanks. -/
def compact : Json → String
  | .null => "null"
  | .bool b => if b then "true" else "false"
  | .number literal => literal
  | .text s => quote (s.getD "")
  | .array items => "[" ++ compactItems items ++ "]"
  | .object members => "\x7b" ++ compactMembers members ++ "\x7d"

/-- Items between commas. -/
def compactItems : List Json → String
  | [] => ""
  | [item] => compact item
  | item :: rest => compact item ++ "," ++ compactItems rest

/-- Members between commas. -/
def compactMembers : List (Option String × Json) → String
  | [] => ""
  | [(name, value)] => quote (name.getD "") ++ ":" ++ compact value
  | (name, value) :: rest =>
    quote (name.getD "") ++ ":" ++ compact value ++ "," ++ compactMembers rest

end

/-! ## §3 Values over many lines -/

/-- The start of a line. -/
def newLine (level : Nat) : String := String.ofList ('\n' :: List.replicate (2 * level) ' ')

mutual

/-- A value whose closing bracket stands at a level. -/
def prettyAt (level : Nat) : Json → String
  | .array [] => "[]"
  | .array items => "[" ++ prettyItems (level + 1) items ++ newLine level ++ "]"
  | .object [] => "\x7b\x7d"
  | .object members => "\x7b" ++ prettyMembers (level + 1) members ++ newLine level ++ "\x7d"
  | .null => "null"
  | .bool b => if b then "true" else "false"
  | .number literal => literal
  | .text s => quote (s.getD "")

/-- Items, each on its own line. -/
def prettyItems (level : Nat) : List Json → String
  | [] => ""
  | [item] => newLine level ++ prettyAt level item
  | item :: rest => newLine level ++ prettyAt level item ++ "," ++ prettyItems level rest

/-- Members, each on its own line. -/
def prettyMembers (level : Nat) : List (Option String × Json) → String
  | [] => ""
  | [(name, value)] => newLine level ++ quote (name.getD "") ++ ": " ++ prettyAt level value
  | (name, value) :: rest =>
    newLine level ++ quote (name.getD "") ++ ": " ++ prettyAt level value ++ ","
      ++ prettyMembers level rest

end

/-- A value over many lines. -/
def pretty (j : Json) : String := prettyAt 0 j

end Shuffle.Json
