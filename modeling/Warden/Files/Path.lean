import Warden.Text.Line

/-!
# Paths

A path in normal form is a root and a list of names; empty names and the name `.` are left out, the
name `..` is kept. A path as the system takes it keeps every name, since each of them is looked up.

## Main definitions

* `Path`: a path in normal form, read by `Path.ofText` and written by `Path.text`
* `Path.child`: a path with one more name
* `Route`: the names that the system looks up one after the other
-/

namespace Warden.Files

/-- The character between two names. -/
def separator : Char := '/'

/-- A path in normal form. -/
structure Path where
  /-- Nothing, one separator, or two of them. -/
  root : List Char
  names : List (List Char)
  deriving DecidableEq, Repr

/-- The root that separators at the start of a text stand for: exactly two are kept as they are, and
more count as one. -/
def rootOf (text : List Char) : List Char :=
  match (text.takeWhile (· == separator)).length with
  | 0 => []
  | 2 => [separator, separator]
  | _ => [separator]

/-- The names in a text. -/
def namesOf (text : List Char) : List (List Char) :=
  (Text.splitAtEach (· == separator) text).filter (!·.isEmpty)

/-- The path that a text names. -/
def Path.ofText (text : String) : Path :=
  let chars := text.toList
  ⟨rootOf chars, (namesOf chars).filter (· != ['.'])⟩

/-- The text of a path; the empty path is a point. -/
def Path.text (path : Path) : String :=
  if path.root.isEmpty && path.names.isEmpty then "."
  else String.ofList (path.root ++ [separator].intercalate path.names)

/-- A path with one more name. -/
def Path.child (path : Path) (name : String) : Path :=
  { path with names := path.names ++ [name.toList] }

/-- A directory and a name as one text, as a search along directories forms it. -/
def joined (directory name : String) : String :=
  if directory.isEmpty || directory.toList.getLast? == some separator then directory ++ name
  else directory ++ "/" ++ name

/-- The names that the system looks up. -/
structure Route where
  /-- The first name is looked up in the root. -/
  isAbsolute : Bool
  names : List String
  /-- The text ends in a separator, so that it names a directory. -/
  namesDirectory : Bool
  deriving DecidableEq, Repr

/-- The route of a text. -/
def Route.ofText (text : String) : Route :=
  let chars := text.toList
  ⟨chars.head? == some separator, (namesOf chars).map String.ofList,
    chars.getLast? == some separator⟩

end Warden.Files
