import Warden.Text.Digit
import Warden.Text.Surrogate
import Warden.Value

/-!
# Writing values

Plain values are written in JavaScript object notation without blanks. Control characters and lone
surrogates are escaped in texts; all other characters stand for themselves.

## Main definitions

* `writeText`: a text in quotes
* `write`: a value
-/

namespace Warden.Json

/-- The four hexadecimal digits of a number below 65536. -/
def fourDigits (number : Nat) : String :=
  String.ofList <| [number / 4096 % 16, number / 256 % 16, number / 16 % 16, number % 16].map
    Text.digitChar

/-- A text with one more character, which is escaped if it has to be. -/
def addCharacter (done : String) (c : Char) : String :=
  if c == '"' then done ++ "\\\""
  else if c == '\\' then done ++ "\\\\"
  else
    let point := Text.pointOf c
    if point < 32 || point == 127 || Text.isSurrogate point then
      done ++ "\\u" ++ fourDigits point
    else done.push c

/-- A text in quotes after what is written already. -/
def writeText (done : String) (content : String) : String :=
  content.foldl addCharacter (done ++ "\"") ++ "\""

mutual

/-- A value after what is written already. -/
def writeValue (done : String) : Value → String
  | .nothing => done ++ "null"
  | .truth holds => done ++ (if holds then "true" else "false")
  | .integer number => done ++ toString number
  | .real (.infinite negative) => done ++ (if negative then "-Infinity" else "Infinity")
  | .real .undefined => done ++ "NaN"
  | .real number => done ++ String.ofList (Numeric.Decimal.text number)
  | .text content => writeText done content
  | .list [] => done ++ "[]"
  | .list (item :: rest) => writeItems (writeValue (done ++ "[") item) rest
  | .table [] => done ++ "\x7b\x7d"
  | .table ((key, item) :: rest) =>
    writeEntries (writeValue (writeText (done ++ "\x7b") key ++ ":") item) rest

/-- The further items of a list, and its end. -/
def writeItems (done : String) : List Value → String
  | [] => done ++ "]"
  | item :: rest => writeItems (writeValue (done ++ ",") item) rest

/-- The further entries of a table, and its end. -/
def writeEntries (done : String) : List (String × Value) → String
  | [] => done ++ "\x7d"
  | (key, item) :: rest =>
    writeEntries (writeValue (writeText (done ++ ",") key ++ ":") item) rest

end

/-- A value as text. -/
def write (value : Value) : String :=
  writeValue "" value

end Warden.Json
