import Warden.KeepAwake.Token
import Warden.Network.Search
import Warden.Numeric.Reading
import Warden.Server.Service

/-!
# Supervising the server

The supervisor starts and stops the server, and keeps the host awake from a successful start until
the server is stopped. Whether the server runs is asked anew each time and never remembered.

A start takes the keep-awake token for a block that stays open; the open blocks are closed when
the server is stopped or its start fails. The token is given back once for every open block, which
has no effect when it is not held any more.

## Main definitions

* `Surroundings`: the outside world of the commander
* `Supervised`: the state of a supervisor beside the token and the outside world
* `Supervisor.start`, `Supervisor.stop`: start and stop of the server
* `Supervisor.isRunning`, `Supervisor.state`, `Supervisor.webifPort`, `Supervisor.uptime`: questions
  about it
* `Handle`: the answers to these questions at one time
-/

namespace Warden

open Warden.KeepAwake (Awake Inhibitor)
open Warden.Numeric (Reading)
open Warden.Server (Service)

/-- The outside world of the commander: a server, what blocks suspension, a clock, and what lists
the network interfaces. -/
structure Surroundings (ε : Type) where
  service : Service ε
  inhibitor : Inhibitor ε
  clock : ε → Reading
  interfaces : Network.Source ε
  naming : Network.Naming := {}

/-- The outside world as a part of a larger one. -/
def Surroundings.within {σ ε : Type} (part : σ → ε) (put : σ → ε → σ)
    (around : Surroundings ε) : Surroundings σ where
  service := around.service.within part put
  inhibitor := around.inhibitor.within part put
  clock outer := around.clock (part outer)
  interfaces := around.interfaces.within part put
  naming := around.naming

/-- The state of a supervisor beside the token and the outside world. -/
structure Supervised (ε : Type) where
  awake : Awake ε
  /-- When the server was started, until it is stopped. -/
  startedAt : Option Reading := none
  /-- The number of open blocks with the token. -/
  holds : Nat := 0

/-- What is known about the server at one time. -/
structure Handle where
  running : Bool
  webifPort : Option Int
  startedAt : Option Reading
  deriving DecidableEq, Repr

/-- The state of a server in a word. -/
def stateWord (running : Bool) : String :=
  if running then "running" else "stopped"

namespace Supervisor

variable {ε α : Type} (around : Surroundings ε)

/-- An act on the token. -/
def onToken (act : Act (Awake ε) α) : Act (Supervised ε) α :=
  act.within Supervised.awake fun supervised awake => { supervised with awake }

/-- An act on the outside world. -/
def outside (act : Act ε α) : Act (Supervised ε) α :=
  onToken (KeepAwake.outside act)

/-- The server runs. When it cannot be asked it counts as not running. -/
def isRunning : Act (Supervised ε) Bool :=
  Act.recover Act.isOrdinary (outside around.service.isRunning) fun failure => do
    Act.note .error s!"ProcessSupervisor: is_running query failed: {failure.text}"
    return false

/-- The state of the server in a word. -/
def state : Act (Supervised ε) String :=
  stateWord <$> isRunning around

/-- The answer about the port of the web interface; none when there is no answer. -/
def askPort : Act (Supervised ε) (Option Int) :=
  Act.recover Act.isOrdinary (some <$> outside around.service.webifPort) fun failure => do
    Act.note .error s!"ProcessSupervisor: webif port query failed: {failure.text}"
    return none

/-- The port of the web interface, if the server runs and the interface is available. -/
def webifPort : Act (Supervised ε) (Option Int) := do
  if ← isRunning around then return (← askPort around).filter (0 < ·)
  else return none

/-- The moment that the clock shows. -/
def now : Act (Supervised ε) Reading :=
  Act.view fun supervised => around.clock supervised.awake.outside

/-- The time since a start, which a clock that was set back does not make negative. -/
def elapsed (now startedAt : Reading) : Except Failure Reading :=
  match now.sub? startedAt with
  | some difference => .ok difference.orZero
  | none => .error .pastReals

/-- How long the server has been up, if it was started and runs. -/
def uptime : Act (Supervised ε) (Option Reading) := do
  match ← Act.view Supervised.startedAt with
  | none => return none
  | some startedAt =>
    if ← isRunning around then return some (← Act.ofExcept (elapsed (← now around) startedAt))
    else return none

/-- What is known about the server. -/
def snapshot : Act (Supervised ε) Handle := do
  if ← isRunning around then
    let webifPort ← webifPort around
    return { running := true, webifPort, startedAt := ← Act.view Supervised.startedAt }
  else return { running := false, webifPort := none, startedAt := none }

/-- Gives the token back a number of times, and fails if one of these times does. -/
def giveBack : Nat → Act (Supervised ε) Unit
  | 0 => pure ()
  | blocks + 1 => do
    let outcome ← (onToken (KeepAwake.release around.inhibitor)).attempt
    giveBack blocks
    Act.ofExcept outcome

/-- Closes the open blocks. -/
def closeBlocks : Act (Supervised ε) Unit := do
  let blocks ← Act.view Supervised.holds
  Act.modify fun supervised => { supervised with holds := 0 }
  giveBack around blocks

/-- Opens a block with the token, which may not be available. -/
def openBlock : Act (Supervised ε) Unit := do
  discard (onToken (KeepAwake.enter around.inhibitor))
  Act.modify fun supervised => { supervised with holds := supervised.holds + 1 }

/-- Asks the server to start. A failure closes the open blocks. -/
def launch (directory : Option String) (debugLevel : Int) : Act (Supervised ε) Unit := do
  let code ← Act.recover Act.isOrdinary (outside (around.service.start directory debugLevel))
    fun failure => do
      closeBlocks around
      Act.fail failure
  if code != 0 then
    closeBlocks around
    Act.noteNumber .error code fun digits => s!"ProcessSupervisor: server start returned {digits}"
    Act.fail (.ofStartCode code)
  let startedAt ← now around
  Act.modify fun supervised => { supervised with startedAt := some startedAt }

/-- A debug level that the server has. -/
def isDebugLevel (level : Int) : Bool :=
  Failure.lowestDebugLevel ≤ level && level ≤ Failure.highestDebugLevel

/-- Starts the server with a configuration directory and a debug level. Nothing is done when it runs
already. -/
def start (directory : Option String) (debugLevel : Int) : Act (Supervised ε) Unit := do
  unless isDebugLevel debugLevel do Act.fail (.debugLevel debugLevel)
  if ← isRunning around then
    Act.note .info "ProcessSupervisor: server already running, start skipped"
  else
    openBlock around
    let place := Text.orNone directory
    Act.note .info
      s!"ProcessSupervisor: starting server (config_dir={place} debug={debugLevel})"
    launch around directory debugLevel

/-- Asks the server to stop, if it runs. -/
def halt : Act (Supervised ε) Unit := do
  if ← isRunning around then
    Act.note .info "ProcessSupervisor: stopping server"
    outside around.service.stop
  else Act.note .debug "ProcessSupervisor: stop requested while not running"

/-- The server counts as stopped: it has no start any more, and the open blocks are closed. -/
def forget : Act (Supervised ε) Unit := do
  Act.modify fun supervised => { supervised with startedAt := none }
  closeBlocks around

/-- Stops the server. Whatever the server answers, it counts as stopped. -/
def stop : Act (Supervised ε) Unit :=
  (halt around).always (forget around)

/-- Ends the supervision. -/
def close : Act (Supervised ε) Unit :=
  stop around

/-- An act under supervision, which ends with it. -/
def supervise (act : Act (Supervised ε) α) : Act (Supervised ε) α :=
  act.always (close around)

end Supervisor

end Warden
