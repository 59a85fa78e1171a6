import Warden.Text.Digit
import Warden.Text.Printable
import Warden.Text.Surrogate

/-!
# Quoted texts

A text is quoted with apostrophes, or with double quotes when it holds an apostrophe and no double
quote. The quote that is used, the backslash and unprintable characters are escaped.

## Main definitions

* `quoteMark`: the mark a text is quoted with
* `escapeChar`: a character as it stands between the marks
* `quoted`: the quoted text
-/

namespace Warden.Text

/-- The mark that a text is quoted with. -/
def quoteMark (text : List Char) : Char :=
  if text.contains '\'' && !text.contains '"' then '"' else '\''

/-- A number in lower-case hexadecimal, padded with zeros. -/
def hexPadded (width : Nat) (number : Nat) : List Char :=
  let digits := Nat.toDigits 16 number
  List.replicate (width - digits.length) '0' ++ digits

/-- A character by its number: two, four or eight hexadecimal digits, as few as hold it. -/
def escapeCode (code : Nat) : List Char :=
  if code ≤ 0xff then '\\' :: 'x' :: hexPadded 2 code
  else if code ≤ 0xffff then '\\' :: 'u' :: hexPadded 4 code
  else '\\' :: 'U' :: hexPadded 8 code

/-- A character as it stands between the marks. -/
def escapeChar (mark : Char) (c : Char) : List Char :=
  if c == mark || c == '\\' then ['\\', c]
  else if c == '\n' then ['\\', 'n']
  else if c == '\r' then ['\\', 'r']
  else if c == '\t' then ['\\', 't']
  else if isPrintable c then [c]
  else escapeCode (pointOf c)

/-- The quoted text. -/
def quotedChars (text : List Char) : List Char :=
  let mark := quoteMark text
  mark :: text.flatMap (escapeChar mark) ++ [mark]

/-- The quoted text. -/
def quoted (text : String) : String :=
  String.ofList (quotedChars text.toList)

/-- The quoted text with every character outside ASCII escaped. -/
def quotedAscii (text : String) : String :=
  String.ofList <| (quotedChars text.toList).flatMap fun c =>
    if c.toNat < 128 then [c] else escapeCode (pointOf c)

end Warden.Text
