import Shuffle.Bytes

/-!
# Reading fields from bytes

A `Cursor` is the unread rest of a byte string and the number of octets before it. A read answers
the field and the cursor behind it. A read past the end answers a `Shortage`, and the cursor it
was asked of is still at hand.
-/

namespace Shuffle

/-- The unread rest of a byte string, `offset` octets after its start. -/
structure Cursor where
  offset : Nat
  rest : Bytes
deriving DecidableEq, Repr

/-- A field of `needed` octets was asked for where only `left` were unread. -/
structure Shortage where
  needed : Nat
  offset : Nat
  left : Nat
deriving DecidableEq, Repr

/-- The wording of a shortage. -/
def Shortage.message (s : Shortage) : String :=
  s!"need {s.needed} bytes at offset {s.offset}, only {s.left} left"

namespace Cursor

/-- A cursor at the start of a byte string. -/
def start (bytes : Bytes) : Cursor := ⟨0, bytes⟩

/-- How many octets are unread. -/
def left (c : Cursor) : Nat := c.rest.length

/-- Is everything read? -/
def isDone (c : Cursor) : Bool := c.rest.isEmpty

/-- Reads `count` octets. -/
def take (c : Cursor) (count : Nat) : Except Shortage (Bytes × Cursor) :=
  let field := c.rest.take count
  if field.length = count then .ok (field, ⟨c.offset + count, c.rest.drop count⟩)
  else .error ⟨count, c.offset, c.left⟩

/-- Reads a big-endian field of `width` octets. -/
def number (c : Cursor) (width : Nat) : Except Shortage (Nat × Cursor) :=
  (c.take width).map fun (field, c) => (Bytes.ofBigEndian field, c)

/-- Reads one octet. -/
def u8 (c : Cursor) : Except Shortage (UInt8 × Cursor) :=
  (c.number 1).map fun (n, c) => (UInt8.ofNat n, c)

/-- Reads two octets. -/
def u16 (c : Cursor) : Except Shortage (UInt16 × Cursor) :=
  (c.number 2).map fun (n, c) => (UInt16.ofNat n, c)

/-- Reads four octets. -/
def u32 (c : Cursor) : Except Shortage (UInt32 × Cursor) :=
  (c.number 4).map fun (n, c) => (UInt32.ofNat n, c)

/-- Reads eight octets. -/
def u64 (c : Cursor) : Except Shortage (UInt64 × Cursor) :=
  (c.number 8).map fun (n, c) => (UInt64.ofNat n, c)

/-- Reads four octets in two's complement. -/
def i32 (c : Cursor) : Except Shortage (Int32 × Cursor) :=
  c.u32.map fun (n, c) => (n.toInt32, c)

/-- Reads eight octets in two's complement. -/
def i64 (c : Cursor) : Except Shortage (Int64 × Cursor) :=
  c.u64.map fun (n, c) => (n.toInt64, c)

end Cursor

end Shuffle
