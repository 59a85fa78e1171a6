import Warden.Rehearsal.Readers
import Warden.Server.Service

/-!
# A rehearsed server

A server without a process: it answers what the rehearsal has set, and keeps count of what it was
asked for.

## Main definitions

* `RehearsedServer`: the answers and failures of a server, and what it was asked for
* `RehearsedServer.comeUp`: the server begins to run
* `RehearsedServer.service`: the server side of the commander over it
-/

namespace Warden.Rehearsal

open Warden.ServerLog

/-- The answers and failures of a server, and what it was asked for. -/
structure RehearsedServer where
  startCode : Int := 0
  /-- The answer about the port, which need not be an integer. -/
  port : Value := .integer 8080
  running : Bool := false
  /-- A start does not make the server run at once. -/
  isDelayed : Bool := false
  ignoresStop : Bool := false
  startFailure : Option Failure := none
  stopFailure : Option Failure := none
  runningFailure : Option Failure := none
  portFailure : Option Failure := none
  log : RehearsedLog := default
  /-- The directories and debug levels of the starts, the last one first. -/
  starts : List (Option String × Int) := []
  stops : Nat := 0
  deriving Inhabited

namespace RehearsedServer

/-- What the log of the server says when it begins to run. -/
def greeting : String := "tcmg started"

/-- The server begins to run. -/
def comeUp (server : RehearsedServer) : RehearsedServer :=
  { server with running := true, log := server.log.append [greeting] }

/-- The integer that a value stands for. A real number is cut toward zero. -/
def integerOf : Value → Except Failure Int
  | .text content => (Numeric.Literal.readDecimal content).mapError .literal
  | .real (.finite negative units) => .ok (Numeric.Double.truncated negative units)
  | .real (.infinite _) => .error .infiniteSeconds
  | .real .undefined => .error .undefinedSeconds
  | value =>
    match value.integer? with
    | some number => .ok number
    | none => .error (.notANumber value.kindName)

/-- A start; it is refused when a start code is set or the server runs. -/
def start (directory : Option String) (debugLevel : Int) : Act RehearsedServer Int := do
  Act.modify fun server => { server with starts := (directory, debugLevel) :: server.starts }
  let server ← Act.get
  Act.raise? server.startFailure
  if server.startCode != 0 then return server.startCode
  else if server.running then return -1
  else
    unless server.isDelayed do Act.modify comeUp
    return 0

/-- A stop, which may be ignored. -/
def stop : Act RehearsedServer Unit := do
  Act.modify fun server => { server with stops := server.stops + 1 }
  Act.raise? (← Act.view stopFailure)
  Act.modify fun server => { server with running := server.running && server.ignoresStop }

/-- The server says whether it runs. -/
def isRunning : Act RehearsedServer Bool := do
  Act.raise? (← Act.view runningFailure)
  Act.view running

/-- The port as the server names it, or -1 when it does not run. -/
def webifPort : Act RehearsedServer Int := do
  let server ← Act.get
  Act.raise? server.portFailure
  if server.running then Act.ofExcept (integerOf server.port) else return -1

/-- The lines of the log. -/
def logLines : Source RehearsedServer := fun wanted count =>
  (RehearsedLog.source wanted count).within log fun server log => { server with log }

/-- The server side of the commander. -/
def service : Server.Service RehearsedServer :=
  { start, stop, isRunning, webifPort, logLines }

end RehearsedServer

end Warden.Rehearsal
