import Warden.Failure
import Warden.Log.Level

/-!
# Log records and their lines

A record is a level and a message. An entry is a record before its message is filled in, with the
moment at which it was made. Entries are shown in two forms: on the console, with colours when it is
a terminal, and in the log panels of the pages.

## Main definitions

* `Record`: a level and a message
* `Item`: a record, or a log panel that is opened or closed
* `Entry`: a message template with its arguments, level and moment
* `timeOfDay`: a moment as hours, minutes and seconds
* `Entry.consoleLine`, `Entry.panelLine`: the two forms of an entry
-/

namespace Warden.Log

/-- What was logged: a level and a message. -/
structure Record where
  level : Level
  message : String
  deriving DecidableEq, Repr, Inhabited

/-- What happens to the log: something is logged, or a log panel begins or ceases to take lines. -/
inductive Item where
  | record (logged : Record)
  | opened (panel : Nat)
  | closed (panel : Nat)
  deriving DecidableEq, Repr, Inhabited

/-- The record of an item. -/
def Item.record? : Item → Option Record
  | .record logged => some logged
  | _ => none

/-- A message template with its arguments, its level, and the whole seconds since 1970 at which it
was made. -/
structure Entry where
  level : Level
  template : String
  arguments : List Value := []
  created : Int := 0
  /-- The seconds by which local time was ahead of universal time then. -/
  offset : Int := 0

/-- The message of an entry. -/
def Entry.message (entry : Entry) : Except Failure String :=
  (Text.Template.fill entry.template entry.arguments).mapError .template

/-- A record as an entry. -/
def Record.toEntry (record : Record) (created : Int) : Entry where
  level := record.level
  template := record.message
  created

/-- The moments that the system clock can count: those of a signed word of 64 bits. -/
def isCounted (seconds : Int) : Bool :=
  -(Nat.pow 2 63 : Int) ≤ seconds && seconds < Nat.pow 2 63

/-- The first second of the earliest year that has a date: a year counts from 1900 in a signed word
of 32 bits. -/
def firstDated : Int := -67768040609740800

/-- The second after the last year that has a date. -/
def endDated : Int := 67768036191676800

/-- The second after the last year below 2³¹. -/
def endYears : Int := 67767976233532800

/-- The local time of day of a moment given in whole seconds since 1970, with the seconds by which
local time is ahead of universal time. A moment that has no date, or one in a year that is too large,
has no time of day. -/
def timeOfDay (seconds offset : Int) : Except Failure String :=
  let shown := seconds + offset
  if !isCounted seconds then .error .pastMoments
  else if shown < firstDated || endDated ≤ shown then
    .error (.ofNumber 75 "Value too large for defined data type")
  else if endYears ≤ shown then .error .pastYears
  else
    let ofDay := (shown % 86400).toNat
    .ok <| String.ofList <| Numeric.Decimal.padded 2 (ofDay / 3600) ++
      ':' :: Numeric.Decimal.padded 2 (ofDay % 3600 / 60) ++
      ':' :: Numeric.Decimal.padded 2 (ofDay % 60)

/-- The time of day at which an entry was made. -/
def Entry.time (entry : Entry) : Except Failure String :=
  timeOfDay entry.created entry.offset

/-- Ends all colours. -/
def resetColors : String := "\x1b[0m"

/-- Starts dim text. -/
def dimText : String := "\x1b[2m"

/-- An entry on the console. With colours the time is dim and the level has its colour. -/
def Entry.consoleLine (colored : Bool) (entry : Entry) : Except Failure String := do
  let label ← entry.level.label
  let message ← entry.message
  let time ← entry.time
  if colored then
    return s!"{dimText}{time}{resetColors} {entry.level.color}{label}{resetColors} {message}"
  else return s!"{time} {label} {message}"

/-- An entry in a log panel. -/
def Entry.panelLine (entry : Entry) : Except Failure String := do
  let label ← entry.level.label
  let message ← entry.message
  let time ← entry.time
  return s!"{time} [{label}] {message}"

/-- The console shows colours when they are asked for and it is a terminal. -/
def showsColors (asked : Bool) (terminal : Bool) : Bool :=
  asked && terminal

end Warden.Log
