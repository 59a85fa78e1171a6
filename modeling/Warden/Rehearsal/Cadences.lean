import Warden.Schedule.Agenda
import Warden.Text.Line

/-!
# Rehearsed cadences

Cadences whose ticks follow a script: the n-th tick does the n-th deed. Cadences are known by
name; a new one takes the name of an earlier one, whose loop goes on without a name.

## Main definitions

* `Deed`: what one tick does
* `Script`: the deeds of a cadence and how many of them were done
* `Troupe`: the names and scripts
* `tick`: a tick by script
-/

namespace Warden.Rehearsal

open Warden.Numeric
open Warden.Schedule

/-- What one tick does. -/
inductive Deed where
  | nothing
  | raise (failure : Failure)
  | start (name : String)
  | cancel (name : String)
  | pause (delay : Reading) (failure : Option Failure)
  deriving Inhabited

/-- The deeds of a cadence, and what its ticks do past the end of them. -/
structure Script where
  deeds : List Deed := []
  afterwards : Deed := .nothing
  /-- How many ticks have begun. -/
  calls : Nat := 0
  deriving Inhabited

/-- The deed of the next tick. -/
def Script.next (script : Script) : Deed :=
  script.deeds[script.calls]?.getD script.afterwards

/-- The numbers of the named cadences, and the scripts of all. -/
structure Troupe where
  names : List (String × Nat) := []
  scripts : Array Script := #[]

/-- Rehearsed cadences on a timeline. -/
abbrev Stage := Agenda Nat Troupe

namespace Stage

/-- The number of a cadence by name. -/
def number (name : String) : Act Stage Nat := do
  match (← Act.get).world.names.find? (·.1 == name) with
  | some (_, number) => return number
  | none => Act.fail (.reported .missingKey name)

/-- A new cadence with a script. -/
def add (name : String) (title : String) (interval : Reading) (script : Script) :
    Act Stage Unit := do
  let cadence ← Act.ofExcept (Cadence.ofInterval title interval)
  let number ← Act.view fun stage => stage.world.scripts.size
  Agenda.put number cadence
  Agenda.onWorld <| Act.modify fun troupe =>
    { names := troupe.names.filter (·.1 != name) ++ [(name, number)]
      scripts := troupe.scripts.push script }

/-- A tick by script. -/
def tick (key : Nat) : Act Stage (Option Pause) := do
  let script := (← Act.view fun stage => stage.world.scripts[key]?).getD default
  Agenda.onWorld <| Act.modify fun troupe =>
    { troupe with scripts := troupe.scripts.modify key fun script =>
        { script with calls := script.calls + 1 } }
  match script.next with
  | .nothing => return none
  | .raise failure => Act.fail failure
  | .start name =>
    Agenda.start (← number name)
    return none
  | .cancel name =>
    Agenda.cancel (← number name)
    return none
  | .pause delay failure => return some { delay, failure }

/-- What happens next. -/
def play : Event → Act Stage Unit :=
  Agenda.play tick

/-- A named cadence: its title, whether it runs, and how many ticks are over and have begun. -/
structure Standing where
  name : String
  title : String
  isRunning : Bool
  ticks : Nat
  calls : Nat

/-- The named cadences. -/
def standings (stage : Stage) : List Standing :=
  stage.world.names.filterMap fun (name, number) =>
    (stage.cadence? number).map fun cadence =>
      { name, title := cadence.name, isRunning := stage.isRunning number, ticks := cadence.ticks
        calls := (stage.world.scripts[number]?.getD default).calls }

/-- Starts the cadence of a name. -/
def start (name : String) : Act Stage Unit := do
  Agenda.start (← number name)

/-- Cancels the cadence of a name. -/
def cancel (name : String) : Act Stage Unit := do
  Agenda.cancel (← number name)

/-- Cancels the cadence of a name and waits for its loop to end. -/
def close (name : String) : Act Stage Unit := do
  Agenda.close play (← number name)

/-- A duration passes. -/
def advance (duration : Reading) : Act Stage Unit :=
  Agenda.advance play duration

/-- What a cadence is called that has a name of its own or one from what it calls. -/
def title (own called : Option String) : String :=
  ((own.bind Text.nonEmpty?).or called).getD "interval"

end Stage

end Warden.Rehearsal
