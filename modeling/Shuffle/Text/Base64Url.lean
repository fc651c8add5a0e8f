import Shuffle.Bytes

/-!
# Base 64 in the alphabet for URLs, without padding

Three octets are written as four symbols of six bits. One or two octets left at the end are
written as two or three symbols whose unused low bits are zero.

- `Base64Url.encode` writes a byte string.
- `Base64Url.decode` accepts exactly what `encode` writes and otherwise names the fault.
-/

namespace Shuffle.Base64Url

/-! ## §1 Symbols -/

/-- The symbol of a six-bit value. -/
def symbol (value : Nat) : UInt8 :=
  if value < 26 then UInt8.ofNat (0x41 + value)
  else if value < 52 then UInt8.ofNat (0x61 + (value - 26))
  else if value < 62 then UInt8.ofNat (0x30 + (value - 52))
  else if value = 62 then 0x2D
  else 0x5F

/-- The six-bit value of a symbol. -/
def value? (s : UInt8) : Option Nat :=
  if 0x41 ≤ s && s ≤ 0x5A then some (s.toNat - 0x41)
  else if 0x61 ≤ s && s ≤ 0x7A then some (s.toNat - 0x61 + 26)
  else if 0x30 ≤ s && s ≤ 0x39 then some (s.toNat - 0x30 + 52)
  else if s = 0x2D then some 62
  else if s = 0x5F then some 63
  else none

/-! ## §2 Writing -/

/-- The six-bit values of a byte string. -/
def sextets : Bytes → List Nat
  | a :: b :: c :: rest =>
    a.toNat / 4 :: (a.toNat % 4 * 16 + b.toNat / 16) :: (b.toNat % 16 * 4 + c.toNat / 64)
      :: c.toNat % 64 :: sextets rest
  | [a, b] => [a.toNat / 4, a.toNat % 4 * 16 + b.toNat / 16, b.toNat % 16 * 4]
  | [a] => [a.toNat / 4, a.toNat % 4 * 16]
  | [] => []

/-- The written form of a byte string. -/
def encode (bytes : Bytes) : String :=
  String.ofList ((sextets bytes).map fun v => Char.ofNat (symbol v).toNat)

/-! ## §3 Reading -/

/-- Why a text is not a written byte string. -/
inductive Fault where
  /-- The octet at `offset` is no symbol. -/
  | symbol (octet : UInt8) (offset : Nat)
  /-- One symbol is left after the groups of four. -/
  | length (count : Nat)
  /-- The unused bits of the last symbol are not zero. -/
  | lastSymbol (octet : UInt8) (offset : Nat)
deriving DecidableEq, Repr

/-- The wording of a fault. -/
def Fault.message : Fault → String
  | .symbol octet offset => s!"Invalid symbol {octet.toNat}, offset {offset}."
  | .length count => s!"Invalid input length: {count}"
  | .lastSymbol octet offset => s!"Invalid last symbol {octet.toNat}, offset {offset}."

/-- The octets that six-bit values spell; bits that complete no octet are dropped. -/
def octets : List Nat → Bytes
  | a :: b :: c :: d :: rest =>
    UInt8.ofNat (a * 4 + b / 16) :: UInt8.ofNat (b % 16 * 16 + c / 4)
      :: UInt8.ofNat (c % 4 * 64 + d) :: octets rest
  | [a, b, c] => [UInt8.ofNat (a * 4 + b / 16), UInt8.ofNat (b % 16 * 16 + c / 4)]
  | [a, b] => [UInt8.ofNat (a * 4 + b / 16)]
  | _ => []

/-- The first octet that is no symbol, counted from `offset`. -/
def firstForeign? (offset : Nat) : Bytes → Option (UInt8 × Nat)
  | [] => none
  | s :: rest => if (value? s).isNone then some (s, offset) else firstForeign? (offset + 1) rest

/-- The octet that a lone last symbol would be blamed on: it is reported before any other. -/
def foreignTail? (text : Bytes) : Option (UInt8 × Nat) :=
  if text.length % 4 = 1 then firstForeign? (text.length - 1) (text.drop (text.length - 1))
  else none

/-- Number of unused low bits in the last symbol of a text of `count` symbols, as a modulus. -/
def spareModulus (count : Nat) : Nat :=
  match count % 4 with
  | 2 => 16
  | 3 => 4
  | _ => 1

/-- Reads a written byte string. A lone last octet that is no symbol is reported first, then the
first octet that is none, then a wrong length, then spare bits. -/
def decode (text : Bytes) : Except Fault Bytes :=
  match foreignTail? text <|> firstForeign? 0 text with
  | some (s, offset) => .error (.symbol s offset)
  | none =>
    -- Six bits alone make up no octet.
    if text.length % 4 = 1 then .error (.length text.length)
    else
      let values := text.map fun s => (value? s).getD 0
      match text.getLast? with
      | none => .ok []
      | some last =>
        if (value? last).getD 0 % spareModulus text.length = 0 then .ok (octets values)
        else .error (.lastSymbol last (text.length - 1))

end Shuffle.Base64Url
