/-!
# Binary floating-point numbers

The finite numbers of the 64-bit binary format are whole multiples of 2⁻¹⁰⁷⁴ with at most 53
significant bits, so a magnitude is kept as the number of these units. Results are rounded to the
nearest such number, ties going to the one whose last bit is even.

## Main definitions

* `roundQuotient`: a quotient of natural numbers, rounded to the nearest one
* `roundUnits`: a number of units, rounded to 53 significant bits
* `Double`: a number of the format: finite with a sign, infinite, or no number
* `Double.ofDecimal`: the number nearest to a decimal
* `Double.add`, `Double.sub`: rounded sum and difference
-/

namespace Warden.Numeric

/-- The quotient of two natural numbers rounded to the nearest one, ties to the even one. -/
def roundQuotient (numerator denominator : Nat) : Nat :=
  let quotient := numerator / denominator
  let rest := numerator % denominator
  if 2 * rest < denominator then quotient
  else if denominator < 2 * rest then quotient + 1
  else if quotient % 2 == 0 then quotient else quotient + 1

/-- One is 2¹⁰⁷⁴ units. -/
def unitsPerOne : Nat := Nat.pow 2 1074

/-- The first magnitude that is too large for a finite number, in units. -/
def unitsLimit : Nat := Nat.pow 2 2098

/-- The distance of neighbouring numbers around a magnitude in units. -/
def unitStep (units : Nat) : Nat :=
  Nat.pow 2 (units.log2 + 1 - 53)

/-- A number of units rounded to 53 significant bits. -/
def roundUnits (units : Nat) : Nat :=
  roundQuotient units (unitStep units) * unitStep units

/-- A number of the 64-bit binary format. A finite magnitude is counted in units of 2⁻¹⁰⁷⁴. -/
inductive Double where
  | finite (negative : Bool) (units : Nat)
  | infinite (negative : Bool)
  | undefined
  deriving DecidableEq, Repr

namespace Double

/-- A magnitude in units as a number: the nearest finite one, or infinite past the largest. -/
def ofUnits (negative : Bool) (units : Nat) : Double :=
  let rounded := roundUnits units
  if rounded < unitsLimit then finite negative rounded else infinite negative

/-- The number nearest to `numerator / denominator`. The quotient is cut to whole units times the
step of its magnitude before it is rounded once. -/
def ofQuotient (negative : Bool) (numerator denominator : Nat) : Double :=
  let scaled := numerator * unitsPerOne
  let step := unitStep (scaled / denominator)
  let rounded := roundQuotient scaled (denominator * step) * step
  if rounded < unitsLimit then finite negative rounded else infinite negative

/-- The number nearest to `digits · 10 ^ exponent`. Magnitudes far outside the range are answered
without computing the power. -/
def ofDecimal (negative : Bool) (digits : Nat) (exponent : Int) : Double :=
  let places : Int := (Nat.log2 digits : Int) * 3 / 10
  if digits == 0 then finite negative 0
  else if 400 < exponent + places then infinite negative
  else if exponent + places < -800 then finite negative 0
  else if 0 ≤ exponent then ofQuotient negative (digits * Nat.pow 10 exponent.toNat) 1
  else ofQuotient negative digits (Nat.pow 10 (-exponent).toNat)

/-- The number nearest to an integer. -/
def ofInt (n : Int) : Double :=
  ofUnits (n < 0) (n.natAbs * unitsPerOne)

/-- The number, if it is finite. -/
def finite? : Double → Option Double
  | finite negative units => some (finite negative units)
  | _ => none

/-- The number nearest to an integer, unless the integer is past the largest number. -/
def ofInt? (n : Int) : Option Double :=
  (ofInt n).finite?

/-- The number of units with its sign. -/
def signedUnits (negative : Bool) (units : Nat) : Int :=
  if negative then -(units : Int) else units

/-- A finite number cut to an integer toward zero. -/
def truncated (negative : Bool) (units : Nat) : Int :=
  signedUnits negative (units / unitsPerOne)

/-- A number with the other sign. -/
def neg : Double → Double
  | finite negative units => finite (!negative) units
  | infinite negative => infinite (!negative)
  | undefined => undefined

/-- A sum, rounded. It is a negative zero only if both numbers are. -/
def add : Double → Double → Double
  | finite a m, finite b n =>
    let total := signedUnits a m + signedUnits b n
    if total == 0 then finite (a && b) 0 else ofUnits (total < 0) total.natAbs
  | infinite a, infinite b => if a == b then infinite a else undefined
  | infinite a, finite .. => infinite a
  | finite .., infinite b => infinite b
  | _, _ => undefined

/-- A difference, rounded. -/
def sub (a b : Double) : Double :=
  a.add b.neg

/-- A number is above zero. -/
def isPositive : Double → Bool
  | finite negative units => !negative && units != 0
  | infinite negative => !negative
  | undefined => false

end Double

end Warden.Numeric
