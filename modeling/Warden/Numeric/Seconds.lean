import Warden.Numeric.Double

/-!
# Moments and durations

A moment on a clock, or the time between two of them, is a finite binary floating-point number of
seconds. Sums and differences are rounded to 53 significant bits. Lengths of time stay far from the
largest finite number, so the type has no largest value.

## Main definitions

* `Seconds`: a moment or duration
* `Seconds.add`, `Seconds.sub`: rounded sum and difference
* `Seconds.wholePart`: the whole seconds below
-/

namespace Warden.Numeric

/-- A moment or duration in units of 2⁻¹⁰⁷⁴ seconds. -/
structure Seconds where
  units : Int
  deriving DecidableEq, Repr, Inhabited

namespace Seconds

/-- A signed number of units, rounded to 53 significant bits. -/
def round (units : Int) : Seconds :=
  ⟨if units < 0 then -(roundUnits units.natAbs : Int) else roundUnits units.natAbs⟩

/-- Whole seconds. -/
def ofInt (n : Int) : Seconds :=
  round (n * unitsPerOne)

instance : Zero Seconds := ⟨⟨0⟩⟩

instance : Add Seconds := ⟨fun a b => round (a.units + b.units)⟩

instance : Sub Seconds := ⟨fun a b => round (a.units - b.units)⟩

instance : LT Seconds := ⟨fun a b => a.units < b.units⟩

instance : LE Seconds := ⟨fun a b => a.units ≤ b.units⟩

instance (a b : Seconds) : Decidable (a < b) :=
  inferInstanceAs (Decidable (a.units < b.units))

instance (a b : Seconds) : Decidable (a ≤ b) :=
  inferInstanceAs (Decidable (a.units ≤ b.units))

/-- The whole seconds below a moment. -/
def wholePart (s : Seconds) : Int :=
  s.units / (unitsPerOne : Int)

/-- The finite number of seconds that a floating-point number stands for. -/
def ofDouble? : Double → Option Seconds
  | .finite negative units => some ⟨Double.signedUnits negative units⟩
  | _ => none

/-- The floating-point number for a moment. -/
def toDouble (s : Seconds) : Double :=
  .finite (s.units < 0) s.units.natAbs

end Seconds

end Warden.Numeric
