import Warden.ServerLog.Follower
import Warden.ServerLog.Ring

/-!
# Readers of a rehearsed log

A rehearsal puts stand-ins in the place of the outside world. A rehearsed log is a ring that a
source reads from; it may be made to fail, or to give prepared answers instead of its lines.
Followers are known by name.

## Main definitions

* `RehearsedLog`: the log and what it was asked last
* `RehearsedLog.source`: the source over it
* `Readers`: a rehearsed log with its followers
-/

namespace Warden.Rehearsal

open Warden.ServerLog

/-- A log that answers from a ring, from prepared answers, or fails. -/
structure RehearsedLog where
  ring : Ring := default
  /-- The answers still to give instead of the lines of the ring. -/
  script : Option (List (Option String × Int)) := none
  failure : Option Failure := none
  /-- The serial number and the count that were asked for last. -/
  asked : Option (Int × Int) := none
  deriving Inhabited

namespace RehearsedLog

/-- The answer of the log and the log after it. Past its end a script has nothing new. -/
def answer (log : RehearsedLog) (wanted count : Int) : (Option String × Int) × RehearsedLog :=
  match log.script with
  | some (next :: rest) => (next, { log with script := some rest })
  | some [] => ((some "", 0), log)
  | none =>
    let (text, next) := log.ring.text wanted count
    ((some text, next), log)

/-- The source over the log. -/
def source : Source RehearsedLog := fun wanted count => do
  Act.modify fun log => { log with asked := some (wanted, count) }
  Act.raise? (← Act.view failure)
  fun log =>
    let (given, after) := log.answer wanted count
    ⟨.ok given, after, []⟩

/-- The log with more lines in its ring. -/
def append (log : RehearsedLog) (lines : List String) : RehearsedLog :=
  { log with ring := log.ring.appendAll lines }

end RehearsedLog

/-- A rehearsed log with its followers. -/
structure Readers where
  log : RehearsedLog
  followers : List (String × Follower) := []

namespace Readers

/-- An act on the log. -/
def onLog {α : Type} (act : Act RehearsedLog α) : Act Readers α :=
  act.within log fun readers log => { readers with log }

/-- The lines are appended; answers the number of lines ever written. -/
def append (lines : List String) : Act Readers Nat := do
  onLog (Act.modify (·.append lines))
  Act.view (·.log.ring.total)

/-- Makes the log fail, or answer again. -/
def setFailure (failure : Option Failure) : Act Readers Unit :=
  onLog (Act.modify fun log => { log with failure })

/-- One pull from a serial number on. -/
def pullAt (next : Int) (lines : Int) : Act Readers (String × Nat) := do
  let cursor ← Act.ofExcept (Cursor.ofInt next)
  let (text, after) ← onLog (pull RehearsedLog.source cursor lines)
  return (text, after.next)

/-- Pulls one after the other: the texts and the serial numbers after each, the last one first. -/
def drainFrom (lines : Int) : Nat → Cursor → String → List Nat → Act Readers (String × List Nat)
  | 0, _, text, ids => pure (text, ids)
  | times + 1, cursor, text, ids => do
    let (more, after) ← onLog (pull RehearsedLog.source cursor lines)
    drainFrom lines times after (text ++ more) (after.next :: ids)

/-- A number of pulls from a serial number on: all text, and the serial number after each. -/
def drain (next : Int) (times : Nat) (lines : Int) : Act Readers (String × List Nat) := do
  let cursor ← Act.ofExcept (Cursor.ofInt next)
  let (text, ids) ← drainFrom lines times cursor "" []
  return (text, ids.reverse)

/-- The follower of a name. -/
def follower? (readers : Readers) (name : String) : Option Follower :=
  (readers.followers.find? (·.1 == name)).map (·.2)

/-- Puts a follower in the place of the one with the same name. -/
def put (name : String) (follower : Follower) : Act Readers Unit :=
  Act.modify fun readers =>
    { readers with followers := (name, follower) :: readers.followers.filter (·.1 != name) }

/-- A new follower, with a display buffer of its own bound if one is given. -/
def follow (name : String) (lines : Int) (maxChars : Option Int) : Act Readers Follower := do
  let buffer ← match maxChars with
    | some bound => Act.ofExcept (Buffer.ofMaxChars bound)
    | none => pure default
  let follower : Follower := { maxLines := lines, buffer }
  put name follower
  return follower

/-- One reading of a follower; answers the new text. -/
def poll (name : String) : Act Readers (String × Follower) := do
  let some follower := (← Act.get).follower? name
    | Act.fail (.reported .missingKey name)
  let (text, after) ← onLog (follower.poll RehearsedLog.source)
  put name after
  return (text, after)

end Readers

end Warden.Rehearsal
