import Shuffle.Float8

/-!
# The shortest decimal of a double

Between a double and its neighbours lie the reals that round to it. Its *shortest decimal* has
the fewest digits among the decimals there, and of those is the nearest to the double.

The grids `… , 100, 10, 1, 1/10, …` are tried from the coarsest that resolves the number. On
each, only the two grid points next to the number can be nearest, so two candidates are tested
in exact arithmetic.
-/

namespace Shuffle.Decimal

/-- The number `digits · 10 ^ exponent`. -/
structure Scaled where
  digits : Nat
  exponent : Int
deriving DecidableEq, Repr

/-- Which of two equally near decimals is taken. -/
inductive Tie where
  /-- The larger magnitude. -/
  | up
  /-- The one whose last digit is even. -/
  | even
deriving DecidableEq, Repr

/-! ## §1 The reals that round to a double -/

/-- A fraction with the ends of its rounding interval, over one denominator. -/
structure Window where
  low : Nat
  value : Nat
  high : Nat
  denominator : Nat
  /-- Do the ends themselves round to the value? -/
  closed : Bool

/-- The window of a finite positive double. -/
def Window.of (x : Float8) : Window :=
  let (m, q) := x.parts
  let unit := Nat.pow 2 (q - 2).toNat
  { low := (4 * m - (if x.isNarrowBelow then 1 else 2)) * unit
    value := 4 * m * unit
    high := (4 * m + 2) * unit
    denominator := Nat.pow 2 (2 - q).toNat
    closed := m % 2 = 0 }

/-! ## §2 Grids -/

/-- Is `c · 10 ^ k` in the window? Both sides are brought to whole numbers. -/
def Window.holds (w : Window) (c : Nat) (k : Int) : Bool :=
  let up := Nat.pow 10 (-k).toNat
  let point := c * Nat.pow 10 k.toNat * w.denominator
  if w.closed then w.low * up ≤ point && point ≤ w.high * up
  else w.low * up < point && point < w.high * up

/-- The grid point at or below the value. -/
def Window.floorOn (w : Window) (k : Int) : Nat :=
  w.value * Nat.pow 10 (-k).toNat / (Nat.pow 10 k.toNat * w.denominator)

/-- Twice the distance from the lower grid point, against the grid's step. -/
def Window.compareToMiddle (w : Window) (k : Int) : Ordering :=
  let step := Nat.pow 10 k.toNat * w.denominator
  compare (2 * (w.value * Nat.pow 10 (-k).toNat % step)) step

/-- The nearer of the two grid points around the value, among those in the window. -/
def Window.nearestOn? (w : Window) (tie : Tie) (k : Int) : Option Nat :=
  let c := w.floorOn k
  match w.holds c k, w.holds (c + 1) k with
  | false, false => none
  | true, false => some c
  | false, true => some (c + 1)
  | true, true =>
    match w.compareToMiddle k with
    | .lt => some c
    | .gt => some (c + 1)
    | .eq => if tie = .even && c % 2 = 0 then some c else some (c + 1)

/-- The exponent `e` with `10 ^ e ≤ value < 10 ^ (e + 1)`, for values from `10 ^ -400` on. -/
def Window.magnitude (w : Window) : Int :=
  ((Nat.repr (w.value * Nat.pow 10 400 / w.denominator)).length : Int) - 401

/-! ## §3 The search -/

/-- Drops the zeros at the end of the digits. -/
def Scaled.trim (d : Nat) (e : Int) : Scaled :=
  if h : d ≠ 0 ∧ d % 10 = 0 then Scaled.trim (d / 10) (e + 1) else ⟨d, e⟩
termination_by d
decreasing_by omega

/-- Tries the grids from `10 ^ k` down. -/
def Window.search (w : Window) (tie : Tie) : (grids : Nat) → (k : Int) → Scaled
  | 0, k => ⟨w.floorOn k, k⟩
  | grids + 1, k =>
    match w.nearestOn? tie k with
    | some c => Scaled.trim c k
    | none => w.search tie grids (k - 1)

/-- The shortest decimal of the magnitude of a finite number other than zero. Seventeen digits
tell any two doubles apart. -/
def shortest (tie : Tie) (x : Float8) : Scaled :=
  let w := Window.of x
  w.search tie 17 w.magnitude

end Shuffle.Decimal
