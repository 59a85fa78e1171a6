import Warden.Rehearsal.Step

/-!
# The scenery of a rehearsed session

The scenery is the outside world of a session: rehearsed servers, a rehearsed inhibitor, a clock
that stands still until it is set, and a list of network interfaces. It also holds what the
session keeps beside: further supervisors, the scripts of its observers, and what they were told.

## Main definitions

* `Observer`: the script of an observer
* `Record`: what a supervisor keeps beside the token
* `Scenery`: the outside world of a session
* `Scenery.surroundings`: the outside world as a supervisor has it
-/

namespace Warden.Rehearsal

open Warden.Numeric (Reading)

/-- The script of an observer, and how often it was told something. -/
structure Observer where
  script : List Step := []
  calls : Nat := 0
  deriving Inhabited

/-- The step of an observer when it is told something next. -/
def Observer.next (observer : Observer) : Step :=
  observer.script[observer.calls]?.getD .nothing

/-- What a supervisor keeps beside the token and the outside world. -/
structure Record where
  startedAt : Option Reading := none
  holds : Nat := 0
  deriving Inhabited

/-- The outside world of a session. -/
structure Scenery where
  servers : Array RehearsedServer
  inhibitor : RehearsedInhibitor := default
  clock : Reading := 0
  interfaces : Except Failure (List Network.Interface) := .ok []
  /-- The supervisors after the first one. -/
  others : Array Record := #[]
  observers : List (String × Observer) := []
  /-- The numbers of the named followers. -/
  followers : List (String × Nat) := []
  /-- What observers were told, the last first. -/
  told : List (String × Notice) := []
  /-- What was reported about starts, the last first. -/
  reported : List (Option String) := []

namespace Scenery

/-- The server of a number. -/
def server (scenery : Scenery) (number : Nat) : RehearsedServer :=
  scenery.servers[number]?.getD default

/-- The scenery with another server at a number. -/
def withServer (number : Nat) (scenery : Scenery) (server : RehearsedServer) : Scenery :=
  { scenery with servers := scenery.servers.setIfInBounds number server }

/-- The outside world as the supervisor of a number has it. -/
def surroundings (number : Nat) : Surroundings Scenery where
  service := RehearsedServer.service.within (server · number) (withServer number)
  inhibitor := RehearsedInhibitor.inhibitor inhibitor fun scenery inhibitor =>
    { scenery with inhibitor }
  clock := clock
  interfaces scenery := ⟨scenery.interfaces, scenery, []⟩

/-- Changes the server of a number. -/
def changeServer (number : Nat) (f : RehearsedServer → RehearsedServer) : Act Scenery Unit :=
  Act.modify fun scenery => scenery.withServer number (f (scenery.server number))

/-- The observer of a name. -/
def observer (scenery : Scenery) (name : String) : Observer :=
  ((scenery.observers.find? (·.1 == name)).map (·.2)).getD default

/-- An observer gets its script when it is first named. -/
def engage (name : String) (script : List Step) : Act Scenery Unit :=
  Act.modify fun scenery =>
    if scenery.observers.any (·.1 == name) then scenery
    else { scenery with observers := scenery.observers ++ [(name, { script })] }

/-- An observer is told something; answers the step of its script. -/
def cue (name : String) (notice : Notice) : Act Scenery Step := do
  let observer ← Act.view (observer · name)
  Act.modify fun scenery =>
    { scenery with
      told := (name, notice) :: scenery.told
      observers := scenery.observers.map fun (other, observer) =>
        if other == name then (other, { observer with calls := observer.calls + 1 })
        else (other, observer) }
  return observer.next

/-- The number of the follower of a name. -/
def follower (name : String) : Act Scenery Nat := do
  match (← Act.get).followers.find? (·.1 == name) with
  | some (_, number) => return number
  | none => Act.fail (.reported .missingKey name)

/-- A follower gets a name. -/
def nameFollower (name : String) (number : Nat) : Act Scenery Unit :=
  Act.modify fun scenery =>
    { scenery with followers := (name, number) :: scenery.followers.filter (·.1 != name) }

/-- The outcome of a start is reported. -/
def report (message : Option String) : Act Scenery Unit :=
  Act.modify fun scenery => { scenery with reported := message :: scenery.reported }

end Scenery

end Warden.Rehearsal
