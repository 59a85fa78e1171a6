import Warden.Act
import Warden.ServerLog.Buffer

/-!
# Following a log

A follower reads a log in pulls. It keeps the serial number to go on from and the text it has read
last. What a source answers is taken as it comes: a follower never goes back, and a source that
fails has nothing new.

## Main definitions

* `Cursor`: the serial number to go on from
* `Source`: what answers with the lines from a serial number on
* `pull`: one reading from a source
* `Follower`: a cursor with a display buffer
* `Follower.poll`: one reading of a follower
-/

namespace Warden.ServerLog

/-- The serial number of the next line to read. -/
structure Cursor where
  next : Nat
  deriving DecidableEq, Repr, Inhabited

/-- The cursor before every line. -/
def Cursor.start : Cursor := ⟨0⟩

/-- The cursor at a serial number. -/
def Cursor.ofInt (next : Int) : Except Failure Cursor :=
  if 0 ≤ next then .ok ⟨next.toNat⟩ else .error .negativeCursor

/-- What answers with text from a serial number on, at most a number of lines, and with the serial
number to go on from. -/
abbrev Source (ε : Type) := Int → Int → Act ε (Option String × Int)

/-- The default number of lines of a pull. -/
def defaultLines : Int := 200

/-- The largest number of lines of a pull. -/
def mostLines : Int := 500

/-- The number of lines that is asked for: a number outside of 1 to 500 asks for the default. -/
def batchSize (lines : Int) : Int :=
  if 0 < lines && lines ≤ mostLines then lines else defaultLines

/-- The cursor after a source named the serial number to go on from; it never moves back. -/
def Cursor.advance (cursor : Cursor) (next : Int) : Cursor :=
  ⟨max cursor.next next.toNat⟩

variable {ε : Type}

/-- The new text after a cursor, and the cursor after it. A source that fails has nothing new. -/
def pull (source : Source ε) (cursor : Cursor) (lines : Int) : Act ε (String × Cursor) := do
  match ← (source cursor.next (batchSize lines)).attempt with
  | .ok (text, next) => return (text.getD "", cursor.advance next)
  | .error failure =>
    if failure.isCancelled then Act.fail failure
    Act.note .debug s!"LogStreamBridge: pull from {cursor.next} failed: {failure.text}"
    return ("", cursor)

/-- A reader of a log with the text it shows. -/
structure Follower where
  maxLines : Int
  cursor : Cursor := .start
  buffer : Buffer := default

/-- A follower that reads as many lines at once as is usual. -/
instance : Inhabited Follower := ⟨{ maxLines := defaultLines }⟩

/-- The new text for a follower, and the follower after it. -/
def Follower.poll (source : Source ε) (follower : Follower) : Act ε (String × Follower) := do
  let (text, cursor) ← pull source follower.cursor follower.maxLines
  let buffer := if text.isEmpty then follower.buffer else follower.buffer.append text
  return (text, { follower with cursor, buffer })

end Warden.ServerLog
