import Warden.Command
import Warden.Page.Actions
import Warden.Rehearsal.Inhibitor
import Warden.Rehearsal.Server

/-!
# The steps of a rehearsed session

A session is played step by step. A step is a command to a supervisor, a change of the rehearsed
outside world, or something that happens to the poller or on a page. An observer that is attached
in a session follows a script: what it does when it is told something is a step as well.

## Main definitions

* `Task`: what is asked of a supervisor
* `Step`: one step of a session
* `Answer`: what a step answers
-/

namespace Warden.Rehearsal

open Warden.Numeric (Reading)

/-- What is asked of a supervisor. -/
inductive Task where
  | start (directory : Option String) (debugLevel : Int)
  | stop
  | close
  | isRunning
  | state
  | webifPort
  | uptime
  | snapshot
  /-- A start under supervision, and a failure after it. -/
  | supervised (directory : Option String) (debugLevel : Int) (failure : Option Failure)
  /-- A command of the host; if `observed`, its outcome is reported. -/
  | command (command : Except Failure Command) (directory : Option String) (debugLevel : Int)
    (observed : Bool)
  | boot (settings : Settings) (observed : Bool)

/-- One step of a session. -/
inductive Step where
  | nothing
  | raise (failure : Failure)
  /-- A question to the supervisor at a position. -/
  | ask (supervisor : Int) (task : Task)
  | changeServer (server : Int) (f : RehearsedServer → RehearsedServer)
  | log (server : Int) (lines : List String)
  | changeInhibitor (f : RehearsedInhibitor → RehearsedInhibitor)
  | acquire
  | release
  | setClock (moment : Reading)
  | setInterfaces (listed : Except Failure (List Network.Interface))
  | attachStatus (observer : String) (script : List Step)
  | detachStatus (observer : String) (script : List Step)
  | attachNetwork (observer : String) (script : List Step)
  | detachNetwork (observer : String) (script : List Step)
  | attachLog (observer follower : String) (maxLines : Int) (script : List Step)
  | detachLog (follower : String)
  | tickStatus
  | tickLog
  | stopPolling
  | closePolling
  | showError (message : Option String)
  | advance (duration : Reading)
  | build
  | click (text : String)
  | switch (chosen : Bool)
  | render
  | detachPageLog
  | leave
  | comeUp
  | goDown

instance : Inhabited Step := ⟨.nothing⟩

/-- What a step answers. -/
inductive Answer where
  | nothing
  | truth (holds : Bool)
  | count (number : Nat)
  | word (text : String)
  | port (port : Option Int)
  | duration (seconds : Option Reading)
  | handle (handle : Handle)

end Warden.Rehearsal

/-- The name that a rehearsal gives a role. -/
def Warden.Role.constant : Warden.Role → String
  | .primary => "PRIMARY"
  | .accessPoint => "ACCESS_POINT"
