import Warden.Value

/-!
# Message templates

A template is a text with directives. A directive starts with a percent sign and takes the next
argument, or the entry of a table when a key is given in brackets; flags, a width and a precision
may stand before the letter that says how the argument is written. Two percent signs stand for one.
A template without any arguments is a text as it is.

## Main definitions

* `Fault`: why a template cannot be filled
* `Arguments`: the arguments of a template
* `Directive`: one directive
* `fill`: the text of a template with its arguments
-/

namespace Warden.Text.Template

open Warden.Numeric

/-- Why a template cannot be filled. -/
inductive Fault where
  | incomplete
  | incompleteKey
  | needsTable
  | missingKey (key : String)
  | tooFew
  | tooMany
  | starNeedsInteger
  | tooBig (what : String)
  | outsideWord (word : String)
  | needsReal (letter : Char) (kind : String)
  | needsInteger (letter : Char) (kind : String)
  | needsFloat (kind : String)
  | needsCharacter
  | characterRange
  | undefinedInteger
  | infiniteInteger
  | pastReals
  | precisionTooLarge
  | unwritable
  | unknownLetter (letter : Char) (position : Nat)
  deriving DecidableEq, Repr

/-- What is wrong with the template or its arguments, in words. -/
def Fault.text : Fault → String
  | .incomplete => "incomplete format"
  | .incompleteKey => "incomplete format key"
  | .needsTable => "format requires a mapping"
  | .missingKey key => quoted key
  | .tooFew => "not enough arguments for format string"
  | .tooMany => "not all arguments converted during string formatting"
  | .starNeedsInteger => "* wants int"
  | .tooBig what => s!"{what} too big"
  | .outsideWord word => s!"Python int too large to convert to C {word}"
  | .needsReal letter kind => s!"%{letter} format: a real number is required, not {kind}"
  | .needsInteger letter kind => s!"%{letter} format: an integer is required, not {kind}"
  | .needsFloat kind => s!"must be real number, not {kind}"
  | .needsCharacter => "%c requires int or char"
  | .characterRange => "%c arg not in range(0x110000)"
  | .undefinedInteger => "cannot convert float NaN to integer"
  | .infiniteInteger => "cannot convert float infinity to integer"
  | .pastReals => "int too large to convert to float"
  | .precisionTooLarge => "precision too large"
  | .unwritable => Literal.Fault.unwritable.text
  | .unknownLetter letter position =>
    let shown := if 31 ≤ letter.toNat && letter.toNat ≤ 126 then letter else '?'
    let code := String.ofList (Nat.toDigits 16 (pointOf letter))
    s!"unsupported format character '{shown}' (0x{code}) at index {position}"

/-- The arguments of a template: values to take in order, or one table. A table is one value that
directives with keys look into; `spent` says that it was taken whole. -/
inductive Arguments where
  | values (rest : List Value)
  | table (entries : List (String × Value)) (current : Option Value)

/-- The arguments of a message: a single table that is not empty is looked into. -/
def Arguments.ofList : List Value → Arguments
  | [.table (entry :: rest)] => .table (entry :: rest) (some (.table (entry :: rest)))
  | items => .values items

/-- The next argument and the arguments after it. -/
def Arguments.next : Arguments → Except Fault (Value × Arguments)
  | .values [] => .error .tooFew
  | .values (item :: rest) => .ok (item, .values rest)
  | .table entries (some item) => .ok (item, .table entries none)
  | .table _ none => .error .tooFew

/-- The arguments with the entry of a key as the next one. -/
def Arguments.select (key : String) : Arguments → Except Fault Arguments
  | .values _ => .error .needsTable
  | .table entries _ =>
    match entries.find? (·.1 == key) with
    | some (_, item) => .ok (.table entries (some item))
    | none => .error (.missingKey key)

/-- What stands between the percent sign and the letter of a directive. -/
structure Directive where
  left : Bool := false
  plus : Bool := false
  blank : Bool := false
  alternate : Bool := false
  zeros : Bool := false
  width : Nat := 0
  precision : Option Nat := none

/-- A directive with one more flag. -/
def Directive.withFlag? (d : Directive) : Char → Option Directive
  | '-' => some { d with left := true }
  | '+' => some { d with plus := true }
  | ' ' => some { d with blank := true }
  | '#' => some { d with alternate := true }
  | '0' => some { d with zeros := true }
  | _ => none

/-- The flags at the start of a text, and what follows them. -/
def readFlags (d : Directive) : List Char → Directive × List Char
  | [] => (d, [])
  | c :: rest =>
    match d.withFlag? c with
    | some more => readFlags more rest
    | none => (d, c :: rest)

/-- A text up to the bracket that closes the one before it, and what follows it. -/
def readKey (depth : Nat) : List Char → Option (List Char × List Char)
  | [] => none
  | c :: rest =>
    if c == ')' && depth == 0 then some ([], rest)
    else
      let deeper := if c == '(' then depth + 1 else if c == ')' then depth - 1 else depth
      (readKey deeper rest).map fun (key, after) => (c :: key, after)

/-- The number that digits at the start of a text stand for. -/
def readNumber (text : List Char) : Nat × List Char :=
  let digits := text.takeWhile Char.isDigit
  (digits.foldl (fun number c => number * 10 + (c.toNat - '0'.toNat)) 0,
    text.dropWhile Char.isDigit)

/-- What a width or a precision is bounded by: a signed word of `bits` bits. -/
structure Bound where
  what : String
  word : String
  bits : Nat

/-- The bound of a width. -/
def Bound.width : Bound := ⟨"width", "ssize_t", 64⟩

/-- The bound of a precision. -/
def Bound.precision : Bound := ⟨"precision", "int", 32⟩

/-- The first number past a bound. -/
def Bound.limit (bound : Bound) : Int :=
  Nat.pow 2 (bound.bits - 1)

/-- A width or precision: digits, or a star that takes the next argument. -/
def readAmount (bound : Bound) (arguments : Arguments) :
    List Char → Except Fault (Int × Arguments × List Char)
  | '*' :: rest => do
    let (item, after) ← arguments.next
    match item.integer? with
    | some number =>
      if -bound.limit ≤ number && number < bound.limit then .ok (number, after, rest)
      else .error (.outsideWord bound.word)
    | none => .error .starNeedsInteger
  | text =>
    let (number, rest) := readNumber text
    if number < bound.limit then .ok (number, arguments, rest) else .error (.tooBig bound.what)

/-- The width of a directive; a negative one sets the text to the left. -/
def readWidth (d : Directive) (arguments : Arguments) (text : List Char) :
    Except Fault (Directive × Arguments × List Char) := do
  let (width, after, rest) ← readAmount .width arguments text
  .ok ({ d with left := d.left || width < 0, width := width.natAbs }, after, rest)

/-- The precision of a directive, after a point. -/
def readPrecision (d : Directive) (arguments : Arguments) :
    List Char → Except Fault (Directive × Arguments × List Char)
  | '.' :: text => do
    let (precision, after, rest) ← readAmount .precision arguments text
    .ok ({ d with precision := some precision.toNat }, after, rest)
  | text => .ok (d, arguments, text)

/-- A letter for the length of a number has no meaning. -/
def skipLength : List Char → List Char
  | c :: rest => if c == 'h' || c == 'l' || c == 'L' then rest else c :: rest
  | [] => []

/-- The sign that a number is written with. -/
def Directive.sign (d : Directive) (negative : Bool) : List Char :=
  if negative then ['-'] else if d.plus then ['+'] else if d.blank then [' '] else []

/-- A text set in the width of a directive. `lead` stands before the zeros that fill it. -/
def Directive.pad (d : Directive) (isNumber : Bool) (lead body : List Char) : List Char :=
  let missing := d.width - (lead.length + body.length)
  if d.left then lead ++ body ++ List.replicate missing ' '
  else if d.zeros && isNumber then lead ++ List.replicate missing '0' ++ body
  else List.replicate missing ' ' ++ lead ++ body

/-- A text cut to the precision. -/
def Directive.text (d : Directive) (content : String) : List Char :=
  d.pad false [] (match d.precision with
    | some count => content.toList.take count
    | none => content.toList)

/-- The integer that `%d` writes for a value: a number is cut toward zero. -/
def wholeNumber (letter : Char) : Value → Except Fault Int
  | .truth holds => .ok (if holds then 1 else 0)
  | .integer number => .ok number
  | .real (.finite negative units) => .ok (Double.truncated negative units)
  | .real (.infinite _) => .error .infiniteInteger
  | .real .undefined => .error .undefinedInteger
  | value => .error (.needsReal letter value.kindName)

/-- The mark of a base in front of its digits. -/
def baseMark (letter : Char) : List Char :=
  ['0', letter]

/-- The most digits that an integer is filled up to: the largest precision, less the three
characters of a sign and a mark. -/
def mostDigits : Nat := Nat.pow 2 31 - 4

/-- An integer in a base. -/
def Directive.integer (d : Directive) (letter : Char) (base : Nat) (number : Int) :
    Except Fault (List Char) :=
  let digits := Nat.toDigits base number.natAbs
  let cased := if letter == 'X' then digits.map Char.toUpper else digits
  let least := d.precision.getD 0
  if mostDigits < least then .error .precisionTooLarge
  else
    let body := List.replicate (least - cased.length) '0' ++ cased
    let mark := if d.alternate && base != 10 then baseMark letter else []
    .ok (d.pad true (d.sign (number < 0) ++ mark) body)

/-- The number that a directive for reals writes for a value. -/
def realNumber : Value → Except Fault Double
  | .real number => .ok number
  | value =>
    match value.integer? with
    | some number => (Double.ofInt? number).elim (.error .pastReals) .ok
    | none => .error (.needsFloat value.kindName)

/-- The digits after the first one that an exponential notation has for a precision. With the first
one they are counted in a signed word, and a count past it is that of no digits. -/
def furtherDigits (precision : Nat) : Nat :=
  if precision + 1 < Nat.pow 2 31 then precision else 0

/-- A magnitude as the letter of a directive says. -/
def Directive.magnitude (d : Directive) (letter : Char) (units : Nat) : List Char :=
  let places := d.precision.getD 6
  if letter == 'e' then Decimal.exponential d.alternate (furtherDigits places) units
  else if letter == 'f' then
    Decimal.fixed places units ++ (if d.alternate && places == 0 then ['.'] else [])
  else Decimal.general d.alternate places units

/-- A real number as the letter of a directive says. -/
def Directive.real (d : Directive) (letter : Char) (number : Double) : List Char :=
  let (negative, body) := match number with
    | .finite negative units => (negative, d.magnitude letter.toLower units)
    | .infinite negative => (negative, ['i', 'n', 'f'])
    | .undefined => (false, ['n', 'a', 'n'])
  d.pad true (d.sign negative) (if letter.isUpper then body.map Char.toUpper else body)

/-- A character, given by its code point or as a text of length one. -/
def character : Value → Except Fault Char
  | .text content =>
    match content.toList with
    | [c] => .ok c
    | _ => .error .needsCharacter
  | value =>
    match value.integer? with
    | some number =>
      if 0 ≤ number && number < 0x110000 then .ok (ofPoint number.toNat)
      else .error .characterRange
    | none => .error .needsCharacter

/-- A text that a value has unless an integer in it has too many digits. -/
def writable (item : Value) (text : String) : Except Fault String :=
  if item.isWritable then .ok text else .error .unwritable

/-- An argument as the letter of a directive says. -/
def Directive.write (d : Directive) (letter : Char) (position : Nat) (item : Value) :
    Except Fault (List Char) := do
  match letter with
  | 's' => return d.text (← writable item item.shown)
  | 'r' => return d.text (← writable item item.written)
  | 'a' => return d.text (← writable item item.writtenAscii)
  | 'c' => return d.pad false [] [← character item]
  | 'd' | 'i' | 'u' =>
    let number ← wholeNumber letter item
    if Literal.isWritable number then d.integer letter 10 number else .error .unwritable
  | 'x' | 'X' | 'o' =>
    match item.integer? with
    | some number => d.integer letter (if letter == 'o' then 8 else 16) number
    | none => .error (.needsInteger letter item.kindName)
  | 'e' | 'E' | 'f' | 'F' | 'g' | 'G' => return d.real letter (← realNumber item)
  | _ => .error (.unknownLetter letter position)

/-- The key of a directive, if one stands first. -/
def selectKey (arguments : Arguments) :
    List Char → Except Fault (Arguments × List Char)
  | '(' :: text =>
    match arguments with
    | .values _ => .error .needsTable
    | .table .. =>
      match readKey 0 text with
      | none => .error .incompleteKey
      | some (key, rest) => do
        .ok (← arguments.select (String.ofList key), rest)
  | text => .ok (arguments, text)

/-- The text of the directive after a percent sign in a template of `length` characters, the
arguments after it and what follows it. -/
def fillOne (length : Nat) (arguments : Arguments) (text : List Char) :
    Except Fault (List Char × Arguments × List Char) := do
  let (arguments, text) ← selectKey arguments text
  let (d, text) := readFlags {} text
  let (d, arguments, text) ← readWidth d arguments text
  let (d, arguments, text) ← readPrecision d arguments text
  match skipLength text with
  | [] => .error .incomplete
  | letter :: rest => do
    let (item, arguments) ← arguments.next
    let body ← d.write letter (length - rest.length - 1) item
    .ok (body, arguments, rest)

/-- The text of the rest of a template. Every step takes a character of the template, so that
`fuel` characters are enough for a rest of that length. -/
def fillFrom (length : Nat) : Nat → Arguments → List Char → Except Fault (List Char × Arguments)
  | 0, arguments, _ => .ok ([], arguments)
  | _, arguments, [] => .ok ([], arguments)
  | fuel + 1, arguments, '%' :: '%' :: text => do
    let (after, arguments) ← fillFrom length fuel arguments text
    .ok ('%' :: after, arguments)
  | fuel + 1, arguments, '%' :: text => do
    let (body, arguments, rest) ← fillOne length arguments text
    let (after, arguments) ← fillFrom length fuel arguments rest
    .ok (body ++ after, arguments)
  | fuel + 1, arguments, c :: text => do
    let (after, arguments) ← fillFrom length fuel arguments text
    .ok (c :: after, arguments)

/-- The text of a template with its arguments. Without arguments the template is the text. -/
def fill (template : String) (items : List Value) : Except Fault String :=
  if items.isEmpty then .ok template
  else
    let text := template.toList
    match fillFrom text.length text.length (Arguments.ofList items) text with
    | .error fault => .error fault
    | .ok (_, .values (_ :: _)) => .error .tooMany
    | .ok (body, _) => .ok (String.ofList body)

end Warden.Text.Template
