import Shuffle.Bytes

/-!
# Percent escapes

An escape is `%` and two hexadecimal digits, and stands for one octet. Writing escapes every
octet of a character that has to be escaped, in upper case; reading takes both cases and leaves
a `%` alone that no two digits follow.
-/

namespace Shuffle.Percent

/-! ## §1 Hexadecimal digits -/

/-- The value of a hexadecimal digit. -/
def hexValue? (b : UInt8) : Option UInt8 :=
  if 0x30 ≤ b && b ≤ 0x39 then some (b - 0x30)
  else if 0x41 ≤ b && b ≤ 0x46 then some (b - 0x41 + 10)
  else if 0x61 ≤ b && b ≤ 0x66 then some (b - 0x61 + 10)
  else none

/-- The upper-case hexadecimal digit of a value below 16. -/
def hexDigit (n : Nat) : Char :=
  if n < 10 then Char.ofNat (0x30 + n) else Char.ofNat (0x41 + n - 10)

/-- The escape of one octet. -/
def escape (b : UInt8) : List Char :=
  ['%', hexDigit (b.toNat / 16), hexDigit (b.toNat % 16)]

/-! ## §2 Writing and reading -/

/-- Escapes the characters that `keep` refuses. -/
def encode (keep : Char → Bool) (text : List Char) : List Char :=
  text.flatMap fun c => if keep c then [c] else (String.utf8EncodeChar c).flatMap escape

/-- Puts the octets back for which escapes stand. -/
def decode : Bytes → Bytes
  | 0x25 :: high :: low :: rest =>
    match hexValue? high, hexValue? low with
    | some h, some l => (h * 16 + l) :: decode rest
    -- The two octets may begin an escape of their own.
    | _, _ => 0x25 :: decode (high :: low :: rest)
  | b :: rest => b :: decode rest
  | [] => []
termination_by bytes => bytes.length

/-! ## §3 The sets of characters that URLs keep -/

/-- Printable ASCII. Everything else is escaped in every part of a URL. -/
def isPrintable (c : Char) : Bool := 0x20 ≤ c.val && c.val ≤ 0x7E

/-- Kept in a path that is one undivided text. -/
def keptInBarePath (c : Char) : Bool := isPrintable c

/-- Kept in a fragment. -/
def keptInFragment (c : Char) : Bool :=
  isPrintable c && !" \"<>`".contains c

/-- Kept in a query. The query of a web URL also escapes the apostrophe. -/
def keptInQuery (web : Bool) (c : Char) : Bool :=
  isPrintable c && !" \"#<>".contains c && !(web && c == '\'')

/-- Kept in a path segment. -/
def keptInPath (c : Char) : Bool :=
  keptInFragment c && !"#?\x7b\x7d".contains c

/-- Kept in a user name or a password. -/
def keptInCredentials (c : Char) : Bool :=
  keptInPath c && !"/:;=@[\\]^|".contains c

/-- Kept in a form field. -/
def keptInForm (c : Char) : Bool :=
  c.isAlphanum || "*-._".contains c

end Shuffle.Percent
