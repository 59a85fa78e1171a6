import Warden.Settings
import Warden.Supervisor

/-!
# Commands of the host

The host starts and stops the server by command, and starts it by itself when it comes up and is
set to do so. A start that fails is logged and reported, and not tried again; a start that does
not fail is reported too, so that an earlier message can be cleared.

## Main definitions

* `Command`: the commands
* `Command.handle`: what a command does
* `boot`: the start when the host comes up
-/

namespace Warden

/-- What the host can be told to do. -/
inductive Command where
  | start
  | stop
  deriving DecidableEq, Repr

/-- The command as it is written. -/
def Command.text : Command → String
  | .start => "START"
  | .stop => "STOP"

/-- The command that a text names. -/
def Command.ofText (text : String) : Except Failure Command :=
  if text == Command.start.text then .ok .start
  else if text == Command.stop.text then .ok .stop
  else .error (.unknownCommand text)

variable {ε σ : Type}

/-- Somebody to whom the outcome of a start is reported: its failure in words, or nothing. -/
abbrev Reporter (σ : Type) := Option String → Act σ Unit

/-- The failure is that of the server to start. -/
def Failure.isStartFailure : Failure → Bool
  | .startFailed .. => true
  | _ => false

/-- A start on the way to which the server may fail; answers whether it did not. `supervise` says
where the supervisor is. -/
def startAndReport (supervise : Act (Supervised ε) Unit → Act σ Unit) (around : Surroundings ε)
    (directory : Option String) (debugLevel : Int) (report : Reporter σ) : Act σ Bool := do
  match ← (supervise (Supervisor.start around directory debugLevel)).attempt with
  | .ok () =>
    report none
    return true
  | .error failure =>
    unless failure.isStartFailure do Act.fail failure
    Act.note .error s!"Host: {failure.text}"
    report (some failure.text)
    return false

/-- What a command does; answers whether it did not fail. -/
def Command.handle (supervise : Act (Supervised ε) Unit → Act σ Unit) (around : Surroundings ε)
    (command : Command) (directory : Option String) (debugLevel : Int) (report : Reporter σ) :
    Act σ Bool := do
  match command with
  | .stop =>
    supervise (Supervisor.stop around)
    return true
  | .start => startAndReport supervise around directory debugLevel report

/-- The start when the host comes up, if the settings ask for it; answers whether the server was
started. -/
def boot (supervise : Act (Supervised ε) Unit → Act σ Unit) (around : Surroundings ε)
    (settings : Settings) (report : Reporter σ) : Act σ Bool := do
  if settings.autoStart then
    let place := Text.orNone settings.configDirectory
    Act.note .info s!"Host: auto-starting server (config_dir={place})"
    Command.handle supervise around .start settings.configDirectory settings.debugLevel report
  else
    Act.note .debug "Host: auto-start disabled, skipping"
    return false

end Warden
