import Warden.Failure

/-!
# Positions in a list

A position counts from the start of a list, or from its end when it is negative: the position -1 is
the last one.

## Main definitions

* `numberAt`: the number from the start that a position stands for
-/

namespace Warden

/-- The number from the start that a position stands for in a list of a size. -/
def numberAt (position : Int) (size : Nat) : Except Failure Nat :=
  let number := if position < 0 then position + size else position
  if 0 ≤ number && number < size then .ok number.toNat else .error .noSuchPosition

end Warden
