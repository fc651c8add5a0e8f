import Shuffle.Decimal.Natural

/-!
# Numeric host addresses

- `Ipv4.read` reads the dotted form of URLs: one to four numbers, each decimal, octal (`0…`) or
  hexadecimal (`0x…`), the last of which fills the octets that are left.
- `Ipv6.read` reads eight hexadecimal pieces with at most one `::`, whose last two pieces may be
  four decimal octets.
- `Ipv4.render` and `Ipv6.render` write the one canonical form of an address.
-/

namespace Shuffle

/-! ## §1 Four octets -/

/-- An address of four octets, the first one most significant. -/
structure Ipv4 where
  value : UInt32
deriving DecidableEq, Repr

namespace Ipv4

/-- The octet with index `i` from the left. -/
def octet (a : Ipv4) (i : Nat) : Nat := a.value.toNat / Nat.pow 256 (3 - i) % 256

/-- Four decimal octets. -/
def render (a : Ipv4) : String :=
  ".".intercalate ((List.range 4).map fun i => Decimal.numeral (a.octet i))

/-- The value of a digit in any base up to sixteen. -/
def digitValue? (c : Char) : Option Nat :=
  if c.isDigit then some (c.toNat - 0x30)
  else if 'a' ≤ c ∧ c ≤ 'f' then some (c.toNat - 0x61 + 10)
  else if 'A' ≤ c ∧ c ≤ 'F' then some (c.toNat - 0x41 + 10)
  else none

/-- Reads digits of a base behind a number read so far. -/
def readDigits (base : Nat) : (soFar : Nat) → List Char → Option Nat
  | n, [] => some n
  | n, c :: rest =>
    match digitValue? c with
    | some d => if d < base then readDigits base (n * base + d) rest else none
    | none => none

/-- Reads one number of an address. A base mark alone is zero. -/
def readNumber : List Char → Option Nat
  | [] => none
  | '0' :: 'x' :: digits => readDigits 16 0 digits
  | '0' :: 'X' :: digits => readDigits 16 0 digits
  | '0' :: d :: digits => readDigits 8 0 (d :: digits)
  | digits => readDigits 10 0 digits

/-- The parts of a dotted text. One empty part at the end is dropped. -/
def dotted (text : List Char) : List (List Char) :=
  let parts := text.splitOn '.'
  if parts.getLast? = some [] then parts.dropLast else parts

/-- Does a host name have to be an address, because its last part is a number? -/
def isNumeric (text : List Char) : Bool :=
  match (dotted text).getLast? with
  | none => false
  | some last => (!last.isEmpty && last.all Char.isDigit) || (readNumber last).isSome

/-- The address of all numbers but the last, which are one octet each, and the last, which fills
the rest. -/
def assemble (leading : List Nat) (last : Nat) : Option Ipv4 :=
  if leading.length ≤ 3 ∧ (∀ n ∈ leading, n ≤ 255) ∧ last < Nat.pow 256 (4 - leading.length) then
    some ⟨UInt32.ofNat (leading.foldl (fun n octet => n * 256 + octet) 0
      * Nat.pow 256 (4 - leading.length) + last)⟩
  else none

/-- Reads an address. -/
def read (text : List Char) : Option Ipv4 := do
  let numbers ← (dotted text).mapM readNumber
  let last ← numbers.getLast?
  assemble numbers.dropLast last

end Ipv4

/-! ## §2 Eight pieces -/

/-- An address of eight 16-bit pieces. -/
structure Ipv6 where
  pieces : List UInt16
  length_eq : pieces.length = 8
deriving DecidableEq, Repr

namespace Ipv6

/-- Reads one octet of the decimal tail: one to three digits without a leading zero. -/
def readOctet : List Char → Option Nat
  | ['0'] => some 0
  | '0' :: _ => none
  | [] => none
  | digits => (Ipv4.readDigits 10 0 digits).filter (· ≤ 255)

/-- Reads the decimal tail as two pieces. -/
def readTail (text : List Char) : Option (List Nat) := do
  match ← (text.splitOn '.').mapM readOctet with
  | [a, b, c, d] => some [a * 256 + b, c * 256 + d]
  | _ => none

/-- Is this a hexadecimal digit? -/
def isHex (c : Char) : Bool := (Ipv4.digitValue? c).isSome

/-- Pieces read so far, and how many of them stand before the end of a `::`. -/
structure Progress where
  pieces : List Nat := []
  gap : Option Nat := none

/-- Adds a piece. -/
def Progress.push (p : Progress) (piece : Nat) : Progress :=
  { p with pieces := p.pieces ++ [piece] }

/-- Notes a `::`, which stands for at least one piece. -/
def Progress.skip (p : Progress) : Progress :=
  ⟨p.pieces ++ [0], some (p.pieces.length + 1)⟩

/-- Reads pieces. -/
def readPieces (p : Progress) (text : List Char) : Option Progress :=
  match text with
  | [] => some p
  | ':' :: rest =>
    -- The second colon of a `::`, of which there can be one.
    if p.pieces.length = 8 ∨ p.gap.isSome then none else readPieces p.skip rest
  | c :: more =>
    let digits := ((c :: more).take 4).takeWhile isHex
    match _h : (c :: more).drop digits.length with
    | [] =>
      if p.pieces.length = 8 then none
      else (Ipv4.readDigits 16 0 digits).map p.push
    | '.' :: _ =>
      -- These digits begin a decimal tail, which takes the places of two pieces.
      if digits.isEmpty ∨ 6 < p.pieces.length then none
      else (readTail (c :: more)).map fun tail => { p with pieces := p.pieces ++ tail }
    | ':' :: rest =>
      -- A colon between two pieces. It cannot come last.
      if p.pieces.length = 8 ∨ digits.isEmpty ∨ rest.isEmpty then none
      else (Ipv4.readDigits 16 0 digits).bind fun piece => readPieces (p.push piece) rest
    | _ => none
termination_by text.length
decreasing_by
  · simp
  · have := congrArg List.length _h
    simp only [List.length_drop, List.length_cons] at this ⊢
    omega

/-- Fills the gap with zeros up to eight pieces. -/
def Progress.close (p : Progress) : Option Ipv6 :=
  let fill := List.replicate (8 - p.pieces.length) 0
  let pieces := p.gap.elim p.pieces fun g => p.pieces.take g ++ fill ++ p.pieces.drop g
  let words := pieces.map UInt16.ofNat
  if h : words.length = 8 then some ⟨words, h⟩ else none

/-- Reads an address, without the brackets that hosts have around it. -/
def read (text : List Char) : Option Ipv6 := do
  let progress ←
    match text with
    | ':' :: ':' :: rest => readPieces (Progress.skip ⟨[], none⟩) rest
    | ':' :: _ => none
    | [] => none
    | text => readPieces ⟨[], none⟩ text
  progress.close

/-- The longest run of zero pieces, as its start and its length; of equals, the first. -/
def longestRun : (position : Nat) → List UInt16 → Nat × Nat
  | _, [] => (0, 0)
  | position, piece :: rest =>
    let here := (piece :: rest).takeWhile (· = 0)
    let later := longestRun (position + 1) rest
    if later.2 ≤ here.length then (position, here.length) else later

/-- A piece in hexadecimal digits. -/
def renderPiece (piece : UInt16) : String := String.ofList (Nat.toDigits 16 piece.toNat)

/-- Pieces between colons. -/
def renderPieces (pieces : List UInt16) : String := ":".intercalate (pieces.map renderPiece)

/-- Eight pieces, the longest run of at least two zeros written `::`. -/
def render (a : Ipv6) : String :=
  let (start, length) := longestRun 0 a.pieces
  if length < 2 then renderPieces a.pieces
  else renderPieces (a.pieces.take start) ++ "::" ++ renderPieces (a.pieces.drop (start + length))

/-- The address of four octets that the last pieces hold, if the others mark it as one. -/
def mapped? (a : Ipv6) : Option Ipv4 :=
  match a.pieces with
  | [0, 0, 0, 0, 0, 0xFFFF, high, low] =>
    some ⟨UInt32.ofNat (high.toNat * 65536 + low.toNat)⟩
  | _ => none

/-- The form in which an address of four octets keeps its dots. -/
def renderMixed (a : Ipv6) : String :=
  match a.mapped? with
  | some v4 => "::ffff:" ++ v4.render
  | none => a.render

end Ipv6

end Shuffle
