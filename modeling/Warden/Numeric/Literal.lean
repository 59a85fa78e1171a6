import Warden.Numeric.Decimal
import Warden.Text.Blank
import Warden.Text.Digit
import Warden.Text.Quoted

/-!
# Integers written as text

An integer is written with an optional sign and digits, single underscores allowed between them
and blanks around them. Read in decimal, the digits may be those of any script. Read as a marked
literal, `0x`, `0o` and `0b` set the base, and a decimal literal other than zero does not start
with a zero. Neither reading nor writing goes beyond a number of decimal digits.

## Main definitions

* `readDecimal`: an integer in decimal
* `readMarked`: an integer whose base is marked
* `write`: the text of an integer in decimal
* `Fault`: why a text is no integer, or an integer has no text
-/

namespace Warden.Numeric.Literal

open Warden.Text

/-- Why a text is no integer: it does not follow the notation of a base (zero stands for a marked
base), or it has more digits than a number may have. An integer with more digits has no text. -/
inductive Fault where
  | malformed (base : Nat) (text : String)
  | tooLong (digits : Nat)
  | unwritable
  deriving DecidableEq, Repr

/-- The most digits a number may have whose base is not a power of two. -/
def digitLimit : Nat := 4300

/-- The most characters of a malformed text that are quoted. -/
def quoteLimit : Nat := 200

/-- What is wrong with the text or the integer, in words. -/
def Fault.text : Fault → String
  | .malformed base text =>
    let quote := String.ofList ((quoted text).toList.take quoteLimit)
    s!"invalid literal for int() with base {base}: {quote}"
  | .tooLong digits =>
    s!"Exceeds the limit ({digitLimit} digits) for integer string conversion: " ++
      s!"value has {digits} digits; use sys.set_int_max_str_digits() to increase the limit"
  | .unwritable =>
    s!"Exceeds the limit ({digitLimit} digits) for integer string conversion; " ++
      "use sys.set_int_max_str_digits() to increase the limit"

/-- A character with digits of any script written as ASCII digits and blanks as spaces. Blanks of
ASCII stay as they are. -/
def plainChar (c : Char) : Char :=
  if c.toNat < 128 then c
  else if isBlank c then ' '
  else match digitValue? c with
    | some value => digitChar value
    | none => c

/-- The blanks around an integer, once blanks outside ASCII are spaces. -/
def isPadding (c : Char) : Bool :=
  ('\t' ≤ c && c ≤ '\r') || c == ' '

/-- The text without padding around it. -/
def unpadded (text : List Char) : List Char :=
  ((text.dropWhile isPadding).reverse.dropWhile isPadding).reverse

/-- A sign before a number, and what follows it. -/
def splitSign : List Char → Bool × List Char
  | '-' :: rest => (true, rest)
  | '+' :: rest => (false, rest)
  | text => (false, text)

/-- What stands before a place in a number: nothing, a digit or an underscore. -/
inductive Before where
  | nothing
  | digit
  | underscore
  deriving DecidableEq

/-- The value of a digit of a base. -/
def digitIn? (base : Nat) (c : Char) : Option Nat :=
  (asciiDigitValue? c).filter (· < base)

/-- The values of the digits at the start of a text, and what follows them. An underscore stands
between two digits or there is no number. -/
def scanDigits (base : Nat) : Before → List Char → Option (List Nat × List Char)
  | before, [] => if before = .underscore then none else some ([], [])
  | before, c :: rest =>
    match digitIn? base c with
    | some value =>
      (scanDigits base .digit rest).map fun (values, after) => (value :: values, after)
    | none =>
      if c == '_' then
        if before = .digit then scanDigits base .underscore rest else none
      else if before = .underscore then none
      else some ([], c :: rest)

/-- The number that digits of a base stand for. -/
def ofDigits (base : Nat) (values : List Nat) : Nat :=
  values.foldl (fun number value => number * base + value) 0

/-- A base and the digits written in it. -/
structure Positional where
  base : Nat
  digits : List Char
  /-- The digits start with a zero and carry no mark, so that they must stand for zero. -/
  zeroOnly : Bool := false

/-- The notation of a marked literal. One underscore may follow the mark. -/
def Positional.ofMarked : List Char → Positional
  | '0' :: mark :: rest =>
    let afterMark := match rest with
      | '_' :: more => more
      | more => more
    if mark == 'x' || mark == 'X' then ⟨16, afterMark, false⟩
    else if mark == 'o' || mark == 'O' then ⟨8, afterMark, false⟩
    else if mark == 'b' || mark == 'B' then ⟨2, afterMark, false⟩
    else ⟨10, '0' :: mark :: rest, true⟩
  | digits => ⟨10, digits, false⟩

/-- The number of digits is bounded unless the base is a power of two. -/
def isBounded (base : Nat) : Bool := base == 10

/-- The integer that a text stands for in the notation that `ofText` finds after its sign. -/
def read (base : Nat) (notationOf : List Char → Positional) (text : String) : Except Fault Int :=
  let (negative, rest) := splitSign (unpadded (text.toList.map plainChar))
  let form := notationOf rest
  match scanDigits form.base .nothing form.digits with
  | none => .error (.malformed base text)
  | some (values, after) =>
    let number := ofDigits form.base values
    if isBounded form.base && digitLimit < values.length then .error (.tooLong values.length)
    else if values.isEmpty || !after.isEmpty || (form.zeroOnly && number != 0) then
      .error (.malformed base text)
    else .ok (if negative then -(number : Int) else number)

/-- An integer in decimal. -/
def readDecimal (text : String) : Except Fault Int :=
  read 10 (fun digits => ⟨10, digits, false⟩) text

/-- An integer whose base is marked. -/
def readMarked (text : String) : Except Fault Int :=
  read 0 Positional.ofMarked text

/-- An integer has as many decimal digits as a number may have, or fewer. -/
def isWritable (number : Int) : Bool :=
  (Decimal.digits number.natAbs).length ≤ digitLimit

/-- The text of an integer in decimal. -/
def write (number : Int) : Except Fault String :=
  if isWritable number then .ok (toString number) else .error .unwritable

end Warden.Numeric.Literal
