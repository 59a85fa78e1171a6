import Warden.Act
import Warden.Files.Tree
import Warden.Numeric.Literal
import Warden.Text.Blank
import Warden.Text.Case
import Warden.Text.Utf8

/-!
# The port of the web interface

The server reads its configuration from a file of sections. In the section `webif` the key
`ENABLED` switches the web interface on or off and the key `PORT` sets its port. A number sign
starts a comment line, and a comment after a value. The last valid assignment to a key counts.

## Main definitions

* `Line`: what a line of the file says
* `Reading`: what the lines read so far have set
* `ofText`: the reading of a whole file
* `readPort`: the port that the file in a directory sets
-/

namespace Warden.Webif

open Warden.Text

/-- What a line of the file says. -/
inductive Line where
  | nothing
  | header (name : List Char)
  | assignment (key value : List Char)
  deriving DecidableEq, Repr

/-- The text between the brackets of a line. -/
def bracketed? (text : List Char) : Option (List Char) :=
  if text.head? == some '[' && text.getLast? == some ']' then some (text.drop 1).dropLast else none

/-- The text before the first occurrence of a character. -/
def before (c : Char) (text : List Char) : List Char :=
  text.takeWhile (· != c)

/-- The text after the first occurrence of a character. -/
def after (c : Char) (text : List Char) : List Char :=
  (text.dropWhile (· != c)).drop 1

/-- What a line says. -/
def Line.ofText (raw : List Char) : Line :=
  let text := trim raw
  if text.isEmpty || text.head? == some '#' then .nothing
  else match bracketed? text with
    | some name => .header (toLower (trim name))
    | none =>
      if text.contains '=' then
        .assignment (toUpper (trim (before '=' text))) (trim (before '#' (after '=' text)))
      else .nothing

/-- What the lines read so far have set. -/
structure Reading where
  topic : List Char := []
  enabled : Bool := true
  port : Int := 8080
  /-- The assignments whose value is no integer. -/
  ignored : List (List Char × List Char) := []

/-- The section that is read. -/
def sectionName : List Char := "webif".toList

/-- The key that switches the web interface on or off. -/
def enabledKey : List Char := "ENABLED".toList

/-- The key that sets the port. -/
def portKey : List Char := "PORT".toList

/-- A number that a port may have. -/
def isPort (n : Int) : Bool := 1 ≤ n && n ≤ 65535

/-- The reading after an integer was assigned to a key. -/
def Reading.set (reading : Reading) (key : List Char) (n : Int) : Reading :=
  if key == enabledKey then { reading with enabled := n != 0 }
  else if isPort n then { reading with port := n }
  else reading

/-- The reading after one more line. -/
def Reading.step (reading : Reading) (line : Line) : Reading :=
  match line with
  | .nothing => reading
  | .header name => { reading with topic := name }
  | .assignment key value =>
    if reading.topic == sectionName && (key == enabledKey || key == portKey) then
      match Numeric.Literal.readMarked (String.ofList value) with
      | .ok n => reading.set key n
      | .error _ => { reading with ignored := reading.ignored ++ [(key, value)] }
    else reading

/-- The reading of a file. -/
def ofText (text : List Char) : Reading :=
  ((splitLines text).map Line.ofText).foldl Reading.step {}

/-- The port that a reading sets, or -1 when the web interface is switched off. -/
def Reading.answer (reading : Reading) : Int :=
  if reading.enabled then reading.port else -1

/-- The port when no file says anything. -/
def defaultPort : Int := ({} : Reading).answer

/-- The name of the file. -/
def fileName : String := "config.cfg"

/-- The file in a configuration directory. -/
def filePath (directory : String) : String :=
  ((Files.Path.ofText directory).child fileName).text

variable {σ : Type}

/-- Logs an assignment whose value is no integer. -/
def noteIgnored (path : String) (assignment : List Char × List Char) : Act σ Unit :=
  let value := String.ofList (quotedChars assignment.2)
  Act.note .debug
    s!"read_webif_port: ignoring {String.ofList assignment.1}={value} in {path}"

/-- The port that the file in a directory sets. Without a directory or a file that can be read it is
the default. -/
def readPort (tree : Files.Tree) (directory : Option String) : Act σ Int := do
  match directory with
  | none => return defaultPort
  | some directory =>
    if directory.isEmpty then return defaultPort
    let path := filePath directory
    match tree.read path with
    | .error (.refused failure) => Act.fail failure
    | .ok (some bytes) =>
      let reading := ofText (Utf8.decode bytes)
      reading.ignored.forM (noteIgnored path)
      return reading.answer
    | _ => return defaultPort

end Warden.Webif
