import Warden.Numeric.Seconds

/-!
# Readings

A clock or a setting gives a number of seconds either as an integer of any size or as a
floating-point number. Integers are counted exactly; next to a floating-point number an integer
counts as the nearest one of these, unless it is past the largest.

## Main definitions

* `Reading`: a number of seconds as it is given
* `Reading.sub?`: the time between two readings
* `Reading.orZero`: a reading that is at least zero
* `Wake`: when a delay is over
-/

namespace Warden.Numeric

/-- A number of seconds as it is given: an integer, or a floating-point number. -/
inductive Reading where
  | whole (seconds : Int)
  | real (seconds : Double)
  deriving DecidableEq, Repr

namespace Reading

instance : Inhabited Reading := ⟨whole 0⟩

instance : OfNat Reading n := ⟨whole n⟩

/-- A number of seconds as a reading. -/
def ofSeconds (s : Seconds) : Reading :=
  real s.toDouble

/-- The floating-point number for a reading, unless it is past the largest. -/
def toDouble? : Reading → Option Double
  | whole seconds => Double.ofInt? seconds
  | real seconds => some seconds

/-- The time from one reading to a later one. -/
def sub? : Reading → Reading → Option Reading
  | whole later, whole earlier => some (whole (later - earlier))
  | later, earlier => do return real ((← later.toDouble?).sub (← earlier.toDouble?))

/-- The reading is above zero. -/
def isPositive : Reading → Bool
  | whole seconds => 0 < seconds
  | real seconds => seconds.isPositive

/-- A reading that is above zero, or zero. -/
def orZero (reading : Reading) : Reading :=
  if reading.isPositive then reading else real (.finite false 0)

end Reading

/-- When a delay is over. -/
inductive Wake where
  /-- There is nothing to wait for. -/
  | atOnce
  | at (moment : Seconds)
  | never
  deriving DecidableEq, Repr

/-- When a delay from a moment on is over, unless it is past the largest floating-point number. -/
def Wake.after? (now : Seconds) (delay : Reading) : Option Wake :=
  if delay.isPositive then
    delay.toDouble?.map fun number =>
      match Seconds.ofDouble? number with
      | some duration => .at (now + duration)
      | none => .never
  else some .atOnce

end Warden.Numeric
