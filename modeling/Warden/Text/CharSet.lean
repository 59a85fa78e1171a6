/-!
# Sets of characters as ranges

A set of characters is kept as an array of inclusive ranges of code points, in increasing order.
-/

namespace Warden.Text

/-- A set of characters: inclusive ranges of code points. -/
structure CharSet where
  ranges : Array (Nat × Nat)

/-- Membership by code point. -/
def CharSet.hasCode (set : CharSet) (code : Nat) : Bool :=
  set.ranges.any fun range => range.1 ≤ code && code ≤ range.2

/-- Membership of a character. -/
def CharSet.has (set : CharSet) (c : Char) : Bool :=
  set.hasCode c.toNat

end Warden.Text
