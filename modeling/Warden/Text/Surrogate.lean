/-!
# Lone surrogates

A text that is exchanged may hold half of a surrogate pair that stands alone. Such a half is a code
point, but no character. It is kept as a character of the last private plane, 2²⁰ above it, and
counts as the code point it stands for wherever code points are shown.

## Main definitions

* `isHighSurrogate`, `isLowSurrogate`: the two halves of a pair
* `ofPoint`: the character that a code point is kept as
* `pointOf`: the code point that a character stands for
* `unencodable?`: the first code points of a text that no encoding has
-/

namespace Warden.Text

/-- The first half of a pair of surrogates. -/
def isHighSurrogate (point : Nat) : Bool :=
  0xD800 ≤ point && point < 0xDC00

/-- The second half of a pair of surrogates. -/
def isLowSurrogate (point : Nat) : Bool :=
  0xDC00 ≤ point && point < 0xE000

/-- Half of a pair of surrogates. -/
def isSurrogate (point : Nat) : Bool :=
  isHighSurrogate point || isLowSurrogate point

/-- How far above its code point a half is kept. -/
def surrogatePlane : Nat := 0x100000

/-- The character that a code point is kept as. -/
def ofPoint (point : Nat) : Char :=
  Char.ofNat (if isSurrogate point then surrogatePlane + point else point)

/-- The code point that a character stands for. -/
def pointOf (c : Char) : Nat :=
  if isSurrogate (c.toNat - surrogatePlane) then c.toNat - surrogatePlane else c.toNat

/-- The character that a pair of surrogates stands for. -/
def ofPair (high low : Nat) : Char :=
  Char.ofNat (0x10000 + (high - 0xD800) * 0x400 + (low - 0xDC00))

/-- Halves of this kind stand for single bytes where the system takes a text. -/
def isByteSurrogate (point : Nat) : Bool :=
  0xDC80 ≤ point && point < 0xDD00

/-- A character that the system does not take. -/
def isUnencodable (c : Char) : Bool :=
  isSurrogate (pointOf c) && !isByteSurrogate (pointOf c)

/-- The first run of characters that the system does not take: its first position, and the code
points. -/
def unencodable? (text : List Char) : Option (Nat × List Nat) :=
  let before := text.takeWhile fun c => !isUnencodable c
  let run := (text.drop before.length).takeWhile isUnencodable
  if run.isEmpty then none else some (before.length, run.map pointOf)

end Warden.Text
