import Shuffle.Decimal.Written

/-!
# JSON values

A value keeps what its text says: numbers are literals of any size, and objects keep their
members in order, repeated names included. What a reader makes of that is its own choice.

- `Json.int?` and `Json.float8?` are the numbers that a literal stands for.
- `Json.compact` and `Json.pretty` write a value.
-/

namespace Shuffle

/-- A JSON value. A string is none if it holds half of a surrogate pair, which no text does. -/
inductive Json where
  | null
  | bool (value : Bool)
  | number (literal : String)
  | text (value : Option String)
  | array (items : List Json)
  | object (members : List (Option String × Json))
deriving Repr, Inhabited

namespace Json

/-! ## §1 Making values -/

/-- A string. -/
def ofText (s : String) : Json := .text (some s)

/-- A whole number. -/
def ofInt (n : Int) : Json := .number (toString n)

/-- A natural number. -/
def ofNat (n : Nat) : Json := .number (Decimal.numeral n)

/-- A double; the ones that are not finite have no literal and become null. -/
def ofFloat8 (x : Float8) : Json :=
  if x.isFinite then .number (Decimal.FloatStyle.document.finite x) else .null

/-- An object with the given members in order. -/
def ofMembers (members : List (String × Json)) : Json :=
  .object (members.map fun (name, value) => (some name, value))

/-! ## §2 Literals of numbers -/

/-- The parts of a number's literal. -/
structure Literal where
  negative : Bool
  whole : List Char
  /-- Digits behind the point; empty without one. -/
  fraction : List Char
  /-- Sign and digits of the exponent. -/
  exponent : Option (Bool × List Char)
deriving Repr

/-- Reads an exponent behind its `e`. -/
def readExponent : List Char → Option (Bool × List Char)
  | '-' :: digits => if digits ≠ [] ∧ digits.all Char.isDigit then some (true, digits) else none
  | '+' :: digits => if digits ≠ [] ∧ digits.all Char.isDigit then some (false, digits) else none
  | digits => if digits ≠ [] ∧ digits.all Char.isDigit then some (false, digits) else none

/-- Reads what may stand behind the fraction: nothing or an exponent. -/
def readTail (negative : Bool) (whole fraction : List Char) : List Char → Option Literal
  | [] => some ⟨negative, whole, fraction, none⟩
  | 'e' :: rest => (readExponent rest).map fun e => ⟨negative, whole, fraction, some e⟩
  | 'E' :: rest => (readExponent rest).map fun e => ⟨negative, whole, fraction, some e⟩
  | _ => none

/-- Reads a literal without its sign. Only zero itself starts with a zero. -/
def readUnsigned (negative : Bool) (text : List Char) : Option Literal :=
  let (whole, rest) := text.span Char.isDigit
  if whole = [] ∨ (whole.head? = some '0' ∧ 1 < whole.length) then none
  else
    match rest with
    | '.' :: rest =>
      let (fraction, rest) := rest.span Char.isDigit
      if fraction = [] then none else readTail negative whole fraction rest
    | rest => readTail negative whole [] rest

/-- Reads a literal. -/
def Literal.read : List Char → Option Literal
  | '-' :: rest => readUnsigned true rest
  | rest => readUnsigned false rest

/-- The number that digits spell. -/
def digitsValue (digits : List Char) : Nat :=
  digits.foldl (fun n c => n * 10 + (c.toNat - 0x30)) 0

/-- The whole number of a literal without fraction and exponent. A negative zero is none. -/
def Literal.int? (l : Literal) : Option Int :=
  if l.fraction ≠ [] ∨ l.exponent.isSome then none
  else
    let n := digitsValue l.whole
    if l.negative then (if n = 0 then none else some (-(n : Int))) else some n

/-- A whole number of a value. -/
def int? : Json → Option Int
  | .number literal => (Literal.read literal.toList).bind Literal.int?
  | _ => none

/-- A natural number of at most `bound`. -/
def natUpTo? (bound : Nat) (j : Json) : Option Nat :=
  match j.int? with
  | some (.ofNat n) => if n ≤ bound then some n else none
  | _ => none

/-! ## §3 Doubles

A literal is read in machine arithmetic: its leading digits, as many as fit in 64 bits, are scaled
by one power of ten. The result may be off the nearest double by a rounding. -/

/-- Takes digits into a 64-bit significand until one does not fit. Answers the significand, how
many digits it took, and those it left. -/
def significand : (soFar taken : Nat) → List Char → Nat × Nat × List Char
  | n, taken, [] => (n, taken, [])
  | n, taken, c :: rest =>
    let next := n * 10 + (c.toNat - 0x30)
    if next < UInt64.size then significand next (taken + 1) rest else (n, taken, c :: rest)

/-- A power of ten as a double. -/
def pow10 (n : Nat) : Float := Float.ofScientific 1 false n

/-- The largest power of ten that one step scales by. -/
def stepLimit : Nat := 308

/-- Divides by a power of ten, in steps. -/
def scaleDown (x : Float) (power : Nat) : Float :=
  if _h : power ≤ stepLimit then x / pow10 power
  else if x == 0 then x
  else scaleDown (x / pow10 stepLimit) (power - stepLimit)
termination_by power
decreasing_by simp only [stepLimit] at *; omega

/-- Scales a significand by a power of ten; none if the result is not finite. -/
def scale (x : Float) : (power : Int) → Option Float
  | .ofNat n =>
    if n ≤ stepLimit then
      let y := x * pow10 n
      if y.isInf then none else some y
    else if x == 0 then some x
    else none
  | .negSucc n => some (scaleDown x (n + 1))

/-- The bounds of the power of ten, beyond which it stays. -/
def clampPower (n : Int) : Int := max Int32.minValue.toInt (min n Int32.maxValue.toInt)

/-- The magnitude of a literal. -/
def Literal.magnitude? (l : Literal) : Option Float :=
  let (whole, _, dropped) := significand 0 0 l.whole
  let (n, taken, _) := significand whole 0 l.fraction
  let power : Int := (dropped.length : Int) - taken
  let x := (UInt64.ofNat n).toFloat
  match l.exponent with
  | none => scale x power
  | some (negative, digits) =>
    let e := digitsValue digits
    if e < 0x80000000 then scale x (clampPower (if negative then power - e else power + e))
    else if negative || n == 0 then some 0
    else none

/-- The double that a literal stands for; none beyond the largest one. -/
def Literal.float8? (l : Literal) : Option Float8 :=
  l.magnitude?.map fun x => Float8.ofFloat (if l.negative then -x else x)

/-- The double of a value. -/
def float8? : Json → Option Float8
  | .number literal => (Literal.read literal.toList).bind Literal.float8?
  | _ => none

end Json

end Shuffle
