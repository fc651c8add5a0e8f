/-!
# Double-precision numbers as bit patterns

A double is kept as its 64 bits, so that every pattern, each NaN included, is a value of its own.
The order is the total order of IEEE 754: sign and magnitude read as one number, so that
`-NaN < -∞ < … < -0 < 0 < … < ∞ < NaN`.

- `Float8.rank` is the place of a pattern in that order, counted from zero.
- `Float8.parts` splits a finite number into `mantissa · 2 ^ exponent`.
-/

namespace Shuffle

/-- A double-precision number. -/
structure Float8 where
  bits : UInt64
deriving DecidableEq, Repr

namespace Float8

/-! ## §1 The order -/

/-- The weight of the sign bit. -/
def signBit : Nat := 0x8000000000000000

/-- Is the sign bit set? -/
def isNegative (x : Float8) : Bool := signBit ≤ x.bits.toNat

/-- How many patterns come before this one. -/
def rank (x : Float8) : Nat :=
  if x.isNegative then UInt64.size - 1 - x.bits.toNat else x.bits.toNat + signBit

/-- The total order of IEEE 754. -/
def cmp (a b : Float8) : Ordering := compare a.rank b.rank

/-! ## §2 The parts of a number -/

/-- The number of fractions, and the weight of the bit before them that is not written. -/
def implicitBit : Nat := 0x10000000000000

/-- The biased exponent field. -/
def exponentField (x : Float8) : Nat := x.bits.toNat / implicitBit % 2048

/-- The fraction field. -/
def fraction (x : Float8) : Nat := x.bits.toNat % implicitBit

/-- All exponent bits set and some fraction bit. -/
def isNaN (x : Float8) : Bool := x.exponentField == 2047 && x.fraction != 0

/-- All exponent bits set and no fraction bit. -/
def isInfinite (x : Float8) : Bool := x.exponentField == 2047 && x.fraction == 0

/-- Neither infinite nor a NaN. -/
def isFinite (x : Float8) : Bool := x.exponentField != 2047

/-- Is this a zero of either sign? -/
def isZero (x : Float8) : Bool := x.exponentField == 0 && x.fraction == 0

/-- Mantissa and binary exponent of the magnitude of a finite number. -/
def parts (x : Float8) : Nat × Int :=
  if x.exponentField = 0 then (x.fraction, -1074)
  else (x.fraction + implicitBit, (x.exponentField : Int) - 1075)

/-- Is the next smaller magnitude closer than the next larger one? -/
def isNarrowBelow (x : Float8) : Bool := x.fraction == 0 && 1 < x.exponentField

/-! ## §3 Arithmetic -/

/-- The number as a machine double. -/
def toFloat (x : Float8) : Float := Float.ofBits x.bits

/-- A machine double as a number. -/
def ofFloat (x : Float) : Float8 := ⟨x.toBits⟩

/-- The point `i / n` of the way from `a` to `b`, each operation rounded. -/
def between (a b : Float8) (i n : Nat) : Float8 :=
  let t := (UInt64.ofNat i).toFloat / (UInt64.ofNat n).toFloat
  ofFloat (a.toFloat * (1 - t) + b.toFloat * t)

end Float8

end Shuffle
