import Warden.Text.Digit
import Warden.Text.Surrogate
import Warden.Value

/-!
# Reading values

Plain values are exchanged in JavaScript object notation. An integer is a number without a point
and an exponent; every other number is a floating-point number. The entries of a table keep their
order.

## Main definitions

* `unescape`: the text that is meant between two quotes
* `number?`: a number at the beginning of a text
* `read?`: the value at the beginning of a text
-/

namespace Warden.Json

/-- A text without the blanks at its beginning. -/
def skipBlanks (text : List Char) : List Char :=
  text.dropWhile fun c => c == ' ' || c == '\t' || c == '\n' || c == '\r'

/-- What follows a character, blanks before it aside. -/
def after? (c : Char) (text : List Char) : Option (List Char) :=
  match skipBlanks text with
  | first :: rest => if first == c then some rest else none
  | [] => none

/-! ## Texts -/

/-- What stands before the closing quote, escapes included, and what follows it. The characters
that were read before are in `done`, the last one first. -/
def quoted? (done : List Char) : List Char → Option (List Char × List Char)
  | [] => none
  | '"' :: rest => some (done.reverse, rest)
  | '\\' :: c :: rest => quoted? (c :: '\\' :: done) rest
  | c :: rest => quoted? (c :: done) rest

/-- The code point that an escaped character stands for. -/
def escapedPoint : Char → Nat
  | 'n' => 10
  | 't' => 9
  | 'r' => 13
  | 'b' => 8
  | 'f' => 12
  | c => c.toNat

/-- The code points of a text with escapes. A character outside the basic plane may be escaped as
two surrogates, which stay apart here. -/
def points : List Char → List Nat
  | [] => []
  | '\\' :: 'u' :: a :: b :: c :: d :: rest =>
    (Text.hexNumber? [a, b, c, d]).getD 0xFFFD :: points rest
  | '\\' :: c :: rest => escapedPoint c :: points rest
  | c :: rest => c.toNat :: points rest

/-- The characters of code points, each pair of surrogates taken as one. -/
def pairUp : List Nat → List Char
  | [] => []
  | [point] => [Text.ofPoint point]
  | high :: low :: rest =>
    if Text.isHighSurrogate high && Text.isLowSurrogate low then Text.ofPair high low :: pairUp rest
    else Text.ofPoint high :: pairUp (low :: rest)

/-- The text that is meant between two quotes. -/
def unescape (raw : List Char) : String :=
  String.ofList (pairUp (points raw))

/-- The text after an opening quote, and what follows it. -/
def text? (rest : List Char) : Option (String × List Char) :=
  (quoted? [] rest).map fun (raw, rest) => (unescape raw, rest)

/-! ## Numbers -/

/-- The number that decimal digits stand for. -/
def decimal (digits : List Char) : Nat :=
  digits.foldl (fun number c => number * 10 + (c.toNat - '0'.toNat)) 0

/-- The digits after a point, and what follows them. -/
def fraction : List Char → List Char × List Char
  | '.' :: rest => (rest.takeWhile Char.isDigit, rest.dropWhile Char.isDigit)
  | rest => ([], rest)

/-- The exponent after its mark, if there is one. -/
def exponent : List Char → Int
  | _ :: '-' :: digits => -(decimal digits : Int)
  | _ :: '+' :: digits => decimal digits
  | _ :: digits => decimal digits
  | [] => 0

/-- A character of a number. -/
def isNumeric (c : Char) : Bool :=
  c.isDigit || c == '-' || c == '+' || c == '.' || c == 'e' || c == 'E'

/-- The number that the characters of a number stand for. -/
def numberOf? (word : List Char) : Option Value :=
  let negative := word.head? == some '-'
  let body := if negative then word.drop 1 else word
  let whole := body.takeWhile Char.isDigit
  let rest := body.dropWhile Char.isDigit
  if whole.isEmpty then none
  else if rest.isEmpty then
    some (.integer (if negative then -(decimal whole : Int) else decimal whole))
  else
    let (places, rest) := fraction rest
    some (.real (Numeric.Double.ofDecimal negative (decimal (whole ++ places))
      (exponent rest - places.length)))

/-- A number at the beginning of a text, and what follows it. -/
def number? (text : List Char) : Option (Value × List Char) :=
  (numberOf? (text.takeWhile isNumeric)).map fun number => (number, text.dropWhile isNumeric)

/-- What follows the word for an infinite number, of which the first letter was read. -/
def infinity? (rest : List Char) : Option (List Char) :=
  let word := "nfinity".toList
  if word.isPrefixOf rest then some (rest.drop word.length) else none

/-! ## Values -/

mutual

/-- The value at the beginning of a text, and what follows it, as long as the fuel lasts. -/
def valueFrom : Nat → List Char → Option (Value × List Char)
  | 0, _ => none
  | fuel + 1, text =>
    match skipBlanks text with
    | '"' :: rest => (text? rest).map fun (content, rest) => (.text content, rest)
    | '[' :: rest =>
      match skipBlanks rest with
      | ']' :: rest => some (.list [], rest)
      | rest => itemsFrom fuel [] rest
    | '\x7b' :: rest =>
      match skipBlanks rest with
      | '\x7d' :: rest => some (.table [], rest)
      | rest => entriesFrom fuel [] rest
    | 't' :: 'r' :: 'u' :: 'e' :: rest => some (.truth true, rest)
    | 'f' :: 'a' :: 'l' :: 's' :: 'e' :: rest => some (.truth false, rest)
    | 'n' :: 'u' :: 'l' :: 'l' :: rest => some (.nothing, rest)
    | 'N' :: 'a' :: 'N' :: rest => some (.real .undefined, rest)
    | '-' :: 'I' :: rest => (infinity? rest).map (.real (.infinite true), ·)
    | 'I' :: rest => (infinity? rest).map (.real (.infinite false), ·)
    | rest => number? rest

/-- The items of a list up to its end; those that were read before are in `done`, the last one
first. -/
def itemsFrom : Nat → List Value → List Char → Option (Value × List Char)
  | 0, _, _ => none
  | fuel + 1, done, text => do
    let (item, rest) ← valueFrom fuel text
    match skipBlanks rest with
    | ',' :: rest => itemsFrom fuel (item :: done) rest
    | ']' :: rest => some (.list (item :: done).reverse, rest)
    | _ => none

/-- The entries of a table up to its end; those that were read before are in `done`, the last one
first. -/
def entriesFrom : Nat → List (String × Value) → List Char → Option (Value × List Char)
  | 0, _, _ => none
  | fuel + 1, done, text => do
    let (key, rest) ← text? (← after? '"' text)
    let (item, rest) ← valueFrom fuel (← after? ':' rest)
    match skipBlanks rest with
    | ',' :: rest => entriesFrom fuel ((key, item) :: done) rest
    | '\x7d' :: rest => some (.table ((key, item) :: done).reverse, rest)
    | _ => none

end

/-- The value at the beginning of a text. -/
def read? (text : String) : Option Value :=
  (valueFrom (text.length + 1) text.toList).map (·.1)

end Warden.Json
