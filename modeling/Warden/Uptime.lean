import Warden.Failure
import Warden.Numeric.Reading

/-!
# Uptime

How long the server has been up, as hours, minutes and seconds.

## Main definitions

* `Uptime.wholeSeconds`: the whole seconds of a reading
* `Uptime.clockFace`: whole seconds as hours, minutes and seconds
* `Uptime.text`: a reading as text; nothing is shown without a reading
-/

namespace Warden.Uptime

open Warden.Numeric

/-- The whole seconds of a reading, cut toward zero. -/
def wholeSeconds : Reading → Except Failure Int
  | .whole seconds => .ok seconds
  | .real (.finite negative units) => .ok (Double.truncated negative units)
  | .real (.infinite _) => .error .infiniteSeconds
  | .real .undefined => .error .undefinedSeconds

/-- Whole seconds as hours, minutes and seconds, each with at least two digits. The hours have to be
written, however many there are. -/
def clockFace (seconds : Nat) : Except Failure String := do
  let hours ← (Literal.write (seconds / 3600 : Nat)).mapError .literal
  return String.ofList <| Decimal.filled 2 hours.toList ++
    ':' :: Decimal.padded 2 (seconds % 3600 / 60) ++ ':' :: Decimal.padded 2 (seconds % 60)

/-- A reading as hours, minutes and seconds; a negative one counts as zero. -/
def text : Option Reading → Except Failure String
  | none => .ok ""
  | some reading => do
    let seconds ← wholeSeconds reading
    clockFace seconds.toNat

end Warden.Uptime
