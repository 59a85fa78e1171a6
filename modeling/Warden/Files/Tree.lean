import Warden.Failure
import Warden.Files.Path

/-!
# A tree of files

Files and directories with a working directory, from which relative paths start.

## Main definitions

* `Entry`: a file or a directory
* `Tree`: the entries at their places
* `Tree.find`: the entry that a path names when looked up from a directory
* `Tree.isFile`, `Tree.isDirectory`, `Tree.isExecutable`: questions about what a path names
* `Tree.which`: the executable that a name stands for in a search along directories
-/

namespace Warden.Files

/-- The place of an entry: the names from the root. -/
abbrev Place := List String

/-- A file with its content and permissions, or a directory. -/
inductive Entry where
  | file (content : List UInt8) (mode : Nat)
  | directory
  deriving DecidableEq, Repr

/-- The permissions of a file let its owner, as whom the commander runs, execute it. -/
def Entry.isExecutable : Entry → Bool
  | .file _ mode => mode.land 0o100 != 0
  | .directory => false

/-- The permissions of a file let its owner read it. -/
def Entry.isReadable : Entry → Bool
  | .file _ mode => mode.land 0o400 != 0
  | .directory => true

/-- Why a path names nothing, or nothing that can be read. -/
inductive Obstacle where
  | missing
  | notDirectory
  | nameTooLong
  | denied
  /-- The system does not take the text of the path. -/
  | refused (failure : Failure)

/-- The entries at their places; the root is a directory without an entry of its own. -/
structure Tree where
  entries : List (Place × Entry) := []
  workingDirectory : Place := []
  deriving Inhabited

namespace Tree

/-- The longest name, in bytes. -/
def nameLimit : Nat := 255

/-- The longest path, in bytes. -/
def pathLimit : Nat := 4095

/-- The entry at a place. -/
def entry? (tree : Tree) (place : Place) : Option Entry :=
  if place.isEmpty then some .directory
  else (tree.entries.find? (·.1 == place)).map (·.2)

/-- There is a directory at a place. -/
def hasDirectory (tree : Tree) (place : Place) : Bool :=
  tree.entry? place == some .directory

/-- The place that names lead to from a place. -/
def walk (tree : Tree) : Place → List String → Except Obstacle Place
  | here, [] => .ok here
  | here, name :: rest =>
    if !tree.hasDirectory here then .error .notDirectory
    else if name == "." then tree.walk here rest
    else if name == ".." then tree.walk here.dropLast rest
    else if nameLimit < name.utf8ByteSize then .error .nameTooLong
    else if (tree.entry? (here ++ [name])).isNone then .error .missing
    else tree.walk (here ++ [name]) rest

/-- The place that a path names when looked up from a directory. -/
def find (tree : Tree) (start : Place) (text : String) : Except Obstacle Place :=
  match Failure.ofText? text with
  | some failure => .error (.refused failure)
  | none =>
    if text.isEmpty then .error .missing
    else if pathLimit < text.utf8ByteSize then .error .nameTooLong
    else do
      let route := Route.ofText text
      let place ← tree.walk (if route.isAbsolute then [] else start) route.names
      if route.namesDirectory && !tree.hasDirectory place then .error .notDirectory
      else .ok place

/-- The entry that a path names when looked up from the working directory. -/
def lookUp (tree : Tree) (text : String) : Except Obstacle Entry := do
  let place ← tree.find tree.workingDirectory text
  match tree.entry? place with
  | some entry => .ok entry
  | none => .error .missing

/-- What the entry of a path is, when a path that names nothing counts as no entry. A path that is
too long is a failure. -/
def ask (tree : Tree) (isIt : Entry → Bool) (text : String) : Except Failure Bool :=
  match tree.lookUp text with
  | .ok entry => .ok (isIt entry)
  | .error .nameTooLong =>
    .error (.ofNumber 36 s!"File name too long: {Text.quoted text}")
  | .error _ => .ok false

/-- A path names a file. -/
def isFile (tree : Tree) (text : String) : Except Failure Bool :=
  tree.ask (fun entry => entry matches .file ..) text

/-- A path names a directory. -/
def isDirectory (tree : Tree) (text : String) : Except Failure Bool :=
  tree.ask (fun entry => entry matches .directory) text

/-- A path names a file that may be executed. -/
def isExecutable (tree : Tree) (text : String) : Bool :=
  match tree.lookUp text with
  | .ok entry => entry.isExecutable
  | .error _ => false

/-- The content of the file that a path names. -/
def read (tree : Tree) (text : String) : Except Obstacle (Option (List UInt8)) := do
  let entry ← tree.lookUp text
  if !entry.isReadable then .error .denied
  else match entry with
    | .file content _ => .ok (some content)
    | .directory => .ok none

/-- The first executable file of a name along the directories of a search path. An empty search path
holds no directory; an empty entry of it stands for the working directory. -/
def which (tree : Tree) (searchPath : String) (name : String) : Option String :=
  if searchPath.isEmpty then none
  else
    let directories := (Text.splitAtEach (· == ':') searchPath.toList).map String.ofList
    (directories.map (joined · name)).find? tree.isExecutable

/-- The directories above a place. -/
def above : Place → List Place
  | [] => []
  | name :: rest => [] :: (above rest).map (name :: ·)

/-- The tree with an entry at a place, and with the directories above it. -/
def put (tree : Tree) (place : Place) (entry : Entry) : Tree :=
  let missing := (above place).filter fun upper => (tree.entry? upper).isNone
  let others := tree.entries.filter (·.1 != place)
  let added := missing.map fun upper => (upper, .directory)
  { tree with entries := (place, entry) :: added ++ others }

/-- The tree without what is at a place and below it. -/
def remove (tree : Tree) (place : Place) : Tree :=
  { tree with entries := tree.entries.filter fun (other, _) => !place.isPrefixOf other }

/-- The place that a path below the working directory names. -/
def placeOf (tree : Tree) (text : String) : Place :=
  let route := Route.ofText text
  (if route.isAbsolute then [] else tree.workingDirectory) ++ route.names.filter (· != ".")

/-- A tree with an empty working directory. -/
def fresh (workingDirectory : Place) : Tree :=
  ({ workingDirectory } : Tree).put workingDirectory .directory

end Tree

end Warden.Files
