import Warden.Numeric.Literal

/-!
# Plain values

The arguments of a log message and the entries of the stored settings are plain values: nothing, a
truth value, a number, a text, a list or a table of such values.

## Main definitions

* `Value`: a plain value
* `Value.isWritable`: no integer in a value has too many digits
* `Value.written`: a value with its texts in quotes
* `Value.shown`: a value as it stands in a message, a text without quotes
* `Value.isTrue`: the truth of a value: nothing, zero and what is empty are false
-/

namespace Warden

/-- A plain value. -/
inductive Value where
  | nothing
  | truth (holds : Bool)
  | integer (number : Int)
  | real (number : Numeric.Double)
  | text (content : String)
  | list (items : List Value)
  | table (entries : List (String × Value))
  deriving Inhabited

namespace Value

mutual

/-- No integer in a value has too many digits. Any other value has no text. -/
def isWritable : Value → Bool
  | integer number => Numeric.Literal.isWritable number
  | list items => areWritable items
  | table entries => areEntriesWritable entries
  | _ => true

/-- No integer in the items of a list has too many digits. -/
def areWritable : List Value → Bool
  | [] => true
  | item :: rest => isWritable item && areWritable rest

/-- No integer in the entries of a table has too many digits. -/
def areEntriesWritable : List (String × Value) → Bool
  | [] => true
  | (_, item) :: rest => isWritable item && areEntriesWritable rest

end

/-- Pieces with a comma and a space between them. -/
def commaSeparated (pieces : List (List Char)) : List Char :=
  [',', ' '].intercalate pieces

mutual

/-- A value with its texts quoted by `quote`. -/
def writtenBy (quote : String → List Char) : Value → List Char
  | nothing => "None".toList
  | truth holds => (if holds then "True" else "False").toList
  | integer number => (toString number).toList
  | real number => Numeric.Decimal.text number
  | text content => quote content
  | list items => '[' :: commaSeparated (writtenItems quote items) ++ [']']
  | table entries => '\x7b' :: commaSeparated (writtenEntries quote entries) ++ ['\x7d']

/-- The items of a list, each written. -/
def writtenItems (quote : String → List Char) : List Value → List (List Char)
  | [] => []
  | item :: rest => writtenBy quote item :: writtenItems quote rest

/-- The entries of a table, each written as key and value. -/
def writtenEntries (quote : String → List Char) : List (String × Value) → List (List Char)
  | [] => []
  | (key, item) :: rest =>
    (quote key ++ ':' :: ' ' :: writtenBy quote item) :: writtenEntries quote rest

end

/-- A value with its texts in quotes. -/
def written (value : Value) : String :=
  String.ofList (value.writtenBy fun content => Text.quotedChars content.toList)

/-- A value with its texts in quotes and every character outside ASCII escaped. -/
def writtenAscii (value : Value) : String :=
  String.ofList (value.writtenBy fun content => (Text.quotedAscii content).toList)

/-- A value as it stands in a message. -/
def shown : Value → String
  | text content => content
  | value => value.written

/-- The truth of a value: nothing, zero and what is empty are false. -/
def isTrue : Value → Bool
  | nothing => false
  | truth holds => holds
  | integer number => number != 0
  | real (.finite _ units) => units != 0
  | real _ => true
  | text content => !content.isEmpty
  | list items => !items.isEmpty
  | table entries => !entries.isEmpty

/-- The name of the kind of a value. -/
def kindName : Value → String
  | nothing => "NoneType"
  | truth _ => "bool"
  | integer _ => "int"
  | real _ => "float"
  | text _ => "str"
  | list _ => "list"
  | table _ => "dict"

/-- The integer that a truth value or an integer stands for. -/
def integer? : Value → Option Int
  | truth holds => some (if holds then 1 else 0)
  | integer number => some number
  | _ => none

end Value

end Warden
