import Warden.Numeric.Double

/-!
# Decimal notation of binary numbers

A finite binary number is written in decimal in four ways: with a fixed number of places, with a
fixed number of significant digits and an exponent, with a fixed number of significant digits and
the shorter of these two notations, and with the fewest digits that read back as the same number.
Rounding is exact, ties going to the even digit.

## Main definitions

* `fixed`: a fixed number of places
* `Digits`: significant digits and the place of the point
* `significant`: the digits of a magnitude, rounded to a given number of them
* `shortest`: the fewest digits that read back
* `general`, `plain`: positional notation where the exponent is small, else an exponent
-/

namespace Warden.Numeric.Decimal

/-- The decimal digits of a natural number. -/
def digits (n : Nat) : List Char :=
  Nat.toDigits 10 n

/-- Digits with zeros in front of them up to a width. -/
def filled (width : Nat) (digits : List Char) : List Char :=
  List.replicate (width - digits.length) '0' ++ digits

/-- The digits of a number with zeros in front of them up to a width. -/
def padded (width : Nat) (n : Nat) : List Char :=
  filled width (digits n)

/-- A number of units of `10 ^ -places`, with the point in its place. -/
def placed (places : Nat) (scaled : Nat) : List Char :=
  if places == 0 then digits scaled
  else digits (scaled / Nat.pow 10 places) ++ '.' ::
      padded places (scaled % Nat.pow 10 places)

/-- A magnitude with a fixed number of places. -/
def fixed (places : Nat) (units : Nat) : List Char :=
  placed places (roundQuotient (units * Nat.pow 10 places) unitsPerOne)

/-- Significant digits, with the place of the point counted from before the first digit: the value
is `0.d₁d₂… · 10 ^ point`. -/
structure Digits where
  digits : List Char
  point : Int
  deriving Repr

/-- A magnitude on the grid of multiples of `10 ^ exponent`, as a quotient. -/
def onGrid (units : Nat) (exponent : Int) : Nat × Nat :=
  if 0 ≤ exponent then (units, unitsPerOne * Nat.pow 10 exponent.toNat)
  else (units * Nat.pow 10 (-exponent).toNat, unitsPerOne)

/-- The place of the point of a magnitude above zero: the least `e` with the value below
`10 ^ e`. -/
def pointOf (units : Nat) : Int :=
  if unitsPerOne ≤ units then (digits (units / unitsPerOne)).length
  else 1 - ((digits ((unitsPerOne - 1) / units)).length : Int)

/-- A number of grid steps as digits; a carry into a new digit moves the point. -/
def Digits.ofSteps (count : Nat) (point : Int) (steps : Nat) : Digits :=
  let written := Decimal.digits steps
  ⟨written.take count, if count < written.length then point + 1 else point⟩

/-- A magnitude rounded to a number of significant digits. Zero has the point after its first
digit. -/
def significant (count : Nat) (units : Nat) : Digits :=
  if units == 0 then ⟨List.replicate count '0', 1⟩
  else
    let point := pointOf units
    let (numerator, denominator) := onGrid units (point - count)
    Digits.ofSteps count point (roundQuotient numerator denominator)

/-- The number of units that a number of steps of `10 ^ exponent` reads as. -/
def readSteps (steps : Nat) (exponent : Int) : Double :=
  if 0 ≤ exponent then Double.ofQuotient false (steps * Nat.pow 10 exponent.toNat) 1
  else Double.ofQuotient false steps (Nat.pow 10 (-exponent).toNat)

/-- The digits of the nearer of the two neighbours of a magnitude on the grid of `count` digits
that read back as the magnitude. -/
def shortestOn? (units : Nat) (point : Int) (count : Nat) : Option Digits :=
  let exponent := point - count
  let (numerator, denominator) := onGrid units exponent
  let below := numerator / denominator
  let nearest := roundQuotient numerator denominator
  let candidates := [nearest, below, below + 1]
  let back := candidates.find? fun steps => readSteps steps exponent == .finite false units
  back.map (Digits.ofSteps count point)

/-- The fewest digits that read back as the magnitude; 17 always do. -/
def shortest (units : Nat) : Digits :=
  if units == 0 then ⟨['0'], 1⟩
  else
    let point := pointOf units
    ((List.range' 1 17).findSome? (shortestOn? units point)).getD (significant 17 units)

/-- Digits without the zeros at their end. -/
def stripZeros (text : List Char) : List Char :=
  (text.reverse.dropWhile (· == '0')).reverse

/-- The digits before the point in positional notation. -/
def Digits.wholePart (d : Digits) : List Char :=
  if d.point ≤ 0 then ['0']
  else
    let places := d.point.toNat
    d.digits.take places ++ List.replicate (places - d.digits.length) '0'

/-- The digits after the point in positional notation. -/
def Digits.fraction (d : Digits) : List Char :=
  if d.point ≤ 0 then List.replicate (-d.point).toNat '0' ++ d.digits
  else d.digits.drop d.point.toNat

/-- A whole part and a fraction, with a point when the fraction has digits or the point is kept. -/
def withPoint (keep : Bool) (whole fraction : List Char) : List Char :=
  if fraction.isEmpty && !keep then whole else whole ++ '.' :: fraction

/-- An exponent: a sign and at least two digits. -/
def exponentMark (exponent : Int) : List Char :=
  'e' :: (if exponent < 0 then '-' else '+') :: padded 2 exponent.natAbs

/-- One digit before the point and an exponent. -/
def Digits.scientific (keep : Bool) (d : Digits) : List Char :=
  withPoint keep (d.digits.take 1) (d.digits.drop 1) ++ exponentMark (d.point - 1)

/-- A magnitude with a number of places after its first digit and an exponent. -/
def exponential (keep : Bool) (places : Nat) (units : Nat) : List Char :=
  (significant (places + 1) units).scientific keep

/-- No magnitude has more significant digits than this. -/
def mostSignificant : Nat := 1100

/-- A magnitude with at most `count` significant digits: positional while the exponent is at least
-4 and below the number of digits. Zeros at the end are left out unless they are kept. -/
def general (keep : Bool) (count : Nat) (units : Nat) : List Char :=
  let count := max count 1
  let d := significant (if keep then count else min count mostSignificant) units
  let isPositional := -4 < d.point && d.point ≤ (count : Int)
  if isPositional then
    let fraction := if keep then d.fraction else stripZeros d.fraction
    withPoint keep d.wholePart fraction
  else
    let kept := if keep then d.digits else d.digits.take 1 ++ stripZeros (d.digits.drop 1)
    Digits.scientific keep ⟨kept, d.point⟩

/-- A magnitude with the fewest digits that read back: positional from 10⁻⁴ up to 10¹⁶, whole
numbers with one zero after the point. -/
def plain (units : Nat) : List Char :=
  let d := shortest units
  if -4 < d.point && d.point ≤ 16 then
    let fraction := d.fraction
    withPoint true d.wholePart (if fraction.isEmpty then ['0'] else fraction)
  else d.scientific false

/-- A number with the fewest digits that read back. -/
def text : Double → List Char
  | .finite negative units => if negative then '-' :: plain units else plain units
  | .infinite negative => if negative then ['-', 'i', 'n', 'f'] else ['i', 'n', 'f']
  | .undefined => ['n', 'a', 'n']

end Warden.Numeric.Decimal
