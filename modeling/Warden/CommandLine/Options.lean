import Warden.Text.Digit
import Warden.Text.Line
import Warden.Text.Quoted

/-!
# Options on a command line

The words of a command line are options, values of options, and other words, which are left alone.
An option has short names (one dash and a letter) and long names (two dashes). A long name may be
cut short as long as only one option has a name that starts like that. A value follows as the next
word, or in the same word after an equals sign; flags with short names may share one word. After a
word of two dashes there are no more options, and an option with two dashes after the equals sign
has its value left blank.

## Main definitions

* `Choice`: an option and its names
* `Sighting`: an option that a word names, with what the word says beside the name
* `Word`: a word and what it is
* `classify`: what each word is
* `scan`: the options one after the other, each with its value
-/

namespace Warden.CommandLine

/-- An option and its names. A flag takes no value. -/
structure Choice (κ : Type) where
  key : κ
  names : List String
  takesValue : Bool

/-- Why a command line ends the program: it asks for help, or it is wrong. -/
inductive Exit where
  | help
  | misuse (message : String)
  deriving DecidableEq, Repr

/-- An option that a word names, and the value or further flags in the same word. -/
structure Sighting (κ : Type) where
  choice : Choice κ
  name : String
  attached : Option String

/-- What a word is. -/
inductive Word (κ : Type) where
  | plain (text : String)
  | separator
  | option (sighting : Sighting κ)
  | unknown

variable {κ : Type}

/-- Something wrong with an option. -/
def Choice.misuse (choice : Choice κ) (message : String) : Exit :=
  let names := "/".intercalate choice.names
  .misuse s!"argument {names}: {message}"

/-- A value for a flag. -/
def Choice.ignored (choice : Choice κ) (value : String) : Exit :=
  choice.misuse s!"ignored explicit argument {Text.quoted value}"

/-- Every name with its option, in order. -/
def allNames (choices : List (Choice κ)) : List (String × Choice κ) :=
  choices.flatMap fun choice => choice.names.map (·, choice)

/-- The option of a name. -/
def named? (choices : List (Choice κ)) (name : String) : Option (Choice κ) :=
  ((allNames choices).find? (·.1 == name)).map (·.2)

/-- A word before and after its first equals sign. -/
def splitEquals (word : List Char) : List Char × Option (List Char) :=
  match word.dropWhile (· != '=') with
  | [] => (word, none)
  | _ :: rest => (word.takeWhile (· != '='), some rest)

/-- Digits of any script, at least one. -/
def isDigits (text : List Char) : Bool :=
  !text.isEmpty && text.all fun c => (Text.digitValue? c).isSome

/-- A word that looks like a negative number. A line feed may end it. -/
def isNegativeNumber (word : List Char) : Bool :=
  match word with
  | '-' :: rest =>
    let body := if rest.getLast? == some '\n' then rest.dropLast else rest
    let fraction := (body.dropWhile (· != '.')).drop 1
    let whole := body.takeWhile (· != '.')
    isDigits body || (body.contains '.' && isDigits fraction && (whole.isEmpty || isDigits whole))
  | _ => false

/-- The options whose name a word may be short for. A long name is cut short before the equals sign;
a short name is a letter with more after it. -/
def candidates (choices : List (Choice κ)) (word : List Char) : List (Sighting κ) :=
  match word with
  | '-' :: '-' :: _ =>
    let (start, value) := splitEquals word
    (allNames choices).filterMap fun (name, choice) =>
      if start.isPrefixOf name.toList then some ⟨choice, name, value.map String.ofList⟩ else none
  | dash :: letter :: rest =>
    (allNames choices).filterMap fun (name, choice) =>
      if name.toList == [dash, letter] then some ⟨choice, name, some (String.ofList rest)⟩
      else if word.isPrefixOf name.toList then some ⟨choice, name, none⟩
      else none
  | _ => []

/-- What a word is that starts with a dash and is longer than it. -/
def Word.ofDashed (choices : List (Choice κ)) (text : String) : Except Exit (Word κ) :=
  let word := text.toList
  let (start, value) := splitEquals word
  match value, named? choices (String.ofList start) with
  | some value, some choice =>
    .ok (.option ⟨choice, String.ofList start, some (String.ofList value)⟩)
  | _, _ =>
    match candidates choices word with
    | [sighting] => .ok (.option sighting)
    | [] =>
      if isNegativeNumber word || word.contains ' ' then .ok (.plain text) else .ok .unknown
    | several =>
      let names := ", ".intercalate (several.map (·.name))
      .error (.misuse s!"ambiguous option: {text} could match {names}")

/-- What a word before the separator is. -/
def Word.ofText (choices : List (Choice κ)) (text : String) : Except Exit (Word κ) :=
  match text.toList with
  | '-' :: rest =>
    match named? choices text with
    | some choice => .ok (.option ⟨choice, text, none⟩)
    | none => if rest.isEmpty then .ok (.plain text) else Word.ofDashed choices text
  | _ => .ok (.plain text)

/-- The word that ends the options and, in the place of a value, leaves the value blank. -/
def dashes : String := "--"

/-- What each word is. -/
def classify (choices : List (Choice κ)) : List String → Except Exit (List (Word κ))
  | [] => .ok []
  | text :: rest =>
    if text == dashes then .ok (.separator :: rest.map .plain)
    else do
      let word ← Word.ofText choices text
      return word :: (← classify choices rest)

/-- The flags that share a word with a flag, and the option at the end with its value. Each takes
the first of the characters that are left. -/
def cluster (choices : List (Choice κ)) (choice : Choice κ) :
    List Char → Except Exit (List (Choice κ) × Option (Choice κ × Option String))
  | [] => .ok ([choice], none)
  | letter :: rest =>
    match named? choices (String.ofList ['-', letter]) with
    | none => .error (choice.ignored (String.ofList (letter :: rest)))
    | some next =>
      if next.takesValue then
        .ok ([choice], some (next, if rest.isEmpty then none else some (String.ofList rest)))
      else do
        let (flags, last) ← cluster choices next rest
        return (choice :: flags, last)

/-- The option of a sighting takes its value from the same word. -/
def Sighting.flags (choices : List (Choice κ)) (s : Sighting κ) :
    Except Exit (List (Choice κ) × Option (Choice κ × Option String)) :=
  if s.choice.takesValue then .ok ([], some (s.choice, s.attached))
  else match s.attached with
    | none => .ok ([s.choice], none)
    | some text =>
      if s.name.startsWith "--" || text.isEmpty then
        .error (s.choice.ignored text)
      else cluster choices s.choice text.toList

variable {α : Type}

/-- The value that stands in the same word as its option, unless it is left blank. -/
def valueOf (attached : String) : Option String :=
  if attached == dashes then none else some attached

/-- The options of a command line one after the other. `apply` takes an option with its value, which
flags have not and other options may have left blank. -/
def scan (choices : List (Choice κ)) (apply : α → Choice κ → Option String → Except Exit α) :
    α → List (Word κ) → Except Exit α
  | state, [] => .ok state
  | state, .option s :: rest => do
    let (flags, valued) ← s.flags choices
    match valued with
    | none =>
      let after ← flags.foldlM (fun state flag => apply state flag none) state
      scan choices apply after rest
    | some (choice, some value) =>
      let after ← flags.foldlM (fun state flag => apply state flag none) state
      scan choices apply (← apply after choice (valueOf value)) rest
    | some (choice, none) =>
      match rest with
      | .plain value :: rest =>
        let after ← flags.foldlM (fun state flag => apply state flag none) state
        scan choices apply (← apply after choice (some value)) rest
      | _ => .error (choice.misuse "expected one argument")
  | state, _ :: rest => scan choices apply state rest

/-- What the options of a command line come to. -/
def parse (choices : List (Choice κ)) (apply : α → Choice κ → Option String → Except Exit α)
    (start : α) (words : List String) : Except Exit α := do
  scan choices apply start (← classify choices words)

end Warden.CommandLine
