/-!
# Natural numbers in decimal

- `Decimal.numeral` writes a number.
- `Decimal.readUpTo` reads one that may not exceed a bound: one or more digits, after at most one
  `+`. Leading zeros are allowed.
-/

namespace Shuffle.Decimal

/-! ## §1 Writing -/

/-- The decimal digits of a number, without leading zeros. -/
def numeral (n : Nat) : String := Nat.repr n

/-- The decimal digits of a number, filled up with zeros to at least `width` digits. -/
def paddedDigits (width n : Nat) : String :=
  let text := numeral n
  String.ofList (List.replicate (width - text.length) '0') ++ text

/-! ## §2 Reading -/

/-- Why a text is no number within the bound. -/
inductive NumberFault where
  | empty
  | invalidDigit
  | tooLarge
deriving DecidableEq, Repr

/-- The wording of a fault. -/
def NumberFault.message : NumberFault → String
  | .empty => "cannot parse integer from empty string"
  | .invalidDigit => "invalid digit found in string"
  | .tooLarge => "number too large to fit in target type"

/-- The value of a decimal digit. -/
def digitValue? (c : Char) : Option Nat :=
  if c.isDigit then some (c.toNat - 0x30) else none

/-- Reads digits behind a number read so far. The first digit that is none, or that takes the
number above the bound, decides the fault. -/
def readDigits (bound : Nat) : (soFar : Nat) → List Char → Except NumberFault Nat
  | n, [] => .ok n
  | n, c :: rest =>
    match digitValue? c with
    | none => .error .invalidDigit
    | some d => if n * 10 + d ≤ bound then readDigits bound (n * 10 + d) rest else .error .tooLarge

/-- Reads a number of at most `bound`. -/
def readUpTo (bound : Nat) (text : String) : Except NumberFault Nat :=
  match text.toList with
  | [] => .error .empty
  | ['+'] => .error .invalidDigit
  | '+' :: rest => readDigits bound 0 rest
  | cs => readDigits bound 0 cs

/-- Reads a 32-bit number. -/
def readUInt32 (text : String) : Except NumberFault UInt32 :=
  (readUpTo (UInt32.size - 1) text).map UInt32.ofNat

/-- Reads a 16-bit number. -/
def readUInt16 (text : String) : Except NumberFault UInt16 :=
  (readUpTo (UInt16.size - 1) text).map UInt16.ofNat

/-- Reads a 64-bit number. -/
def readUInt64 (text : String) : Except NumberFault UInt64 :=
  (readUpTo (UInt64.size - 1) text).map UInt64.ofNat

end Shuffle.Decimal
