import Shuffle.Decimal.Natural
import Shuffle.Decimal.Shortest

/-!
# How doubles are written

A double is written from its shortest decimal. A `FloatStyle` says how: which decimal exponents
are written out in full, whether a whole number keeps a `.0`, and which way a tie goes.

- `FloatStyle.plain` never uses an exponent.
- `FloatStyle.document` is the style of JSON documents.
-/

namespace Shuffle.Decimal

/-- How a double is written. -/
structure FloatStyle where
  tie : Tie
  /-- Is a number whose leading digit counts `10 ^ e` written without an exponent? -/
  inFull : Int → Bool
  /-- Does a whole number end in `.0`? -/
  marksWhole : Bool

/-- Messages write every digit: `1e21` is a one and twenty-one zeros. -/
def FloatStyle.plain : FloatStyle := ⟨.up, fun _ => true, false⟩

/-- Documents write numbers from `10 ^ -5` to below `10 ^ 16` in full. -/
def FloatStyle.document : FloatStyle := ⟨.even, fun e => -5 ≤ e && e ≤ 15, true⟩

/-- The exponent of the leading digit. -/
def Scaled.leading (s : Scaled) : Int := ((numeral s.digits).length : Int) - 1 + s.exponent

/-- A decimal written without an exponent. -/
def Scaled.inFull (s : Scaled) (marksWhole : Bool) : String :=
  let text := (numeral s.digits).toList
  if 0 ≤ s.exponent then
    String.ofList
      (text ++ List.replicate s.exponent.toNat '0' ++ (if marksWhole then ['.', '0'] else []))
  else
    let point := (text.length : Int) + s.exponent
    if 0 < point then
      String.ofList (text.take point.toNat ++ '.' :: text.drop point.toNat)
    else
      String.ofList ('0' :: '.' :: List.replicate (-point).toNat '0' ++ text)

/-- A decimal written as one leading digit and an exponent with its sign. -/
def Scaled.withExponent (s : Scaled) : String :=
  let text := (numeral s.digits).toList
  let rest := text.drop 1
  let e := s.leading
  String.ofList (text.take 1 ++ (if rest = [] then [] else '.' :: rest)
    ++ 'e' :: (if e < 0 then '-' else '+') :: (numeral e.natAbs).toList)

/-- A finite number in a style. -/
def FloatStyle.finite (style : FloatStyle) (x : Float8) : String :=
  let sign := if x.isNegative then "-" else ""
  let s := if x.isZero then ⟨0, 0⟩ else shortest style.tie x
  sign ++ (if style.inFull s.leading then s.inFull style.marksWhole else s.withExponent)

end Shuffle.Decimal

namespace Shuffle.Float8

/-- The number as messages write it. -/
def text (x : Float8) : String :=
  if x.isNaN then "NaN"
  else if x.isInfinite then (if x.isNegative then "-inf" else "inf")
  else Decimal.FloatStyle.plain.finite x

end Shuffle.Float8
