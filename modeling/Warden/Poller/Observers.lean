import Warden.Poller.Display
import Warden.Schedule.Agenda
import Warden.ServerLog.Follower

/-!
# The poller and its observers

The poller asks about the server at two cadences: one for the status and the network, one for the
log. It tells observers what it learns. Each of them runs exactly as long as somebody observes
what it asks about. An observer may be attached more than once, and is then told more than once.

## Main definitions

* `Beat`: the cadences
* `Notice`: what an observer is told
* `Poller`: the supervisor, the display and the observers
* `attachStatus`, `attachNetwork`, `attachLog` with their `detach` counterparts
* `stop`, `close`: every observer is detached
-/

namespace Warden

open Warden.Numeric (Reading Seconds)
open Warden.Schedule (Agenda Cadence)
open Warden.ServerLog (Follower)

/-- The cadences of the commander. -/
inductive Beat where
  /-- Questions about the status and the network. -/
  | control
  /-- Readings of the log. -/
  | logs
  /-- The upkeep of a page. -/
  | upkeep (page : Nat)
  deriving DecidableEq, Repr

/-- What an observer is told. -/
inductive Notice where
  | status (handle : Handle)
  | network (endpoints : List Endpoint)
  | log (text : String)

/-- A poller: the supervisor it asks, the display it fills in, and the observers in the order in
which they were attached. -/
structure Poller (ω ε : Type) where
  supervised : Supervised ε
  display : Display := {}
  statusObservers : List ω := []
  networkObservers : List ω := []
  /-- The observers of the log, each with the number of its follower. -/
  logObservers : List (Nat × ω) := []
  /-- All followers, those of detached observers included. -/
  followers : Array Follower := #[]

/-- A poller with its cadences. -/
abbrev Polling (ω ε : Type) := Agenda Beat (Poller ω ε)

namespace Poller

/-- The usual interval between two questions about the status. -/
def controlInterval : Reading := .ofSeconds (Seconds.round (6 * Numeric.unitsPerOne / 5))

/-- The usual interval between two readings of the log. -/
def logInterval : Reading := .ofSeconds (Seconds.ofInt 1)

/-- What the cadences are called in messages. -/
def beatName : Beat → String
  | .control => "tcmg-control-poll"
  | .logs => "tcmg-log-poll"
  | .upkeep _ => "upkeep"

variable {ω ε α : Type}

/-- A poller without observers, at given intervals. -/
def atIntervals (supervised : Supervised ε) (control logs : Reading) :
    Except Failure (Polling ω ε) := do
  let controlCadence ← Cadence.ofInterval (beatName .control) control
  let logCadence ← Cadence.ofInterval (beatName .logs) logs
  return {
    cadences := [(.control, controlCadence), (.logs, logCadence)]
    world := { supervised } }

/-- An act of the supervisor. -/
def supervise (act : Act (Supervised ε) α) : Act (Polling ω ε) α :=
  Agenda.onWorld (act.within supervised fun poller supervised => { poller with supervised })

/-- An act on the outside world. -/
def outside (act : Act ε α) : Act (Polling ω ε) α :=
  supervise (Supervisor.outside act)

/-- Changes the poller. -/
def change (f : Poller ω ε → Poller ω ε) : Act (Polling ω ε) Unit :=
  Agenda.onWorld (Act.modify f)

/-- Changes the display. -/
def changeDisplay (f : Display → Display) : Act (Polling ω ε) Unit :=
  change fun poller => { poller with display := f poller.display }

/-- Something the poller shows. -/
def look (f : Poller ω ε → α) : Act (Polling ω ε) α :=
  Act.view fun polling => f polling.world

/-- Shows a message as the latest error, or clears it. -/
def showError (message : Option String) : Act (Polling ω ε) Unit :=
  changeDisplay fun display => { display with lastError := message }

/-! ## Attaching and detaching -/

/-- Attaches an observer of the status. -/
def attachStatus (observer : ω) : Act (Polling ω ε) Unit := do
  change fun poller => { poller with statusObservers := poller.statusObservers ++ [observer] }
  Agenda.start .control

/-- Attaches an observer of the network. -/
def attachNetwork (observer : ω) : Act (Polling ω ε) Unit := do
  change fun poller => { poller with networkObservers := poller.networkObservers ++ [observer] }
  Agenda.start .control

/-- Attaches an observer of the log, which begins with the oldest line there is. Answers the
number of its follower. -/
def attachLog (observer : ω) (maxLines : Int) : Act (Polling ω ε) Nat := do
  let number ← look fun poller => poller.followers.size
  change fun poller =>
    { poller with
      followers := poller.followers.push { maxLines }
      logObservers := poller.logObservers ++ [(number, observer)] }
  Agenda.start .logs
  return number

/-- Nobody observes the status or the network. -/
def isControlUnobserved (poller : Poller ω ε) : Bool :=
  poller.statusObservers.isEmpty && poller.networkObservers.isEmpty

/-- Ends the status cadence if nobody observes what it asks about. -/
def restControl : Act (Polling ω ε) Unit := do
  if ← look isControlUnobserved then Agenda.cancel .control

/-- Detaches an observer of the status, once. -/
def detachStatus [BEq ω] (observer : ω) : Act (Polling ω ε) Unit := do
  change fun poller => { poller with statusObservers := poller.statusObservers.erase observer }
  restControl

/-- Detaches an observer of the network, once. -/
def detachNetwork [BEq ω] (observer : ω) : Act (Polling ω ε) Unit := do
  change fun poller => { poller with networkObservers := poller.networkObservers.erase observer }
  restControl

/-- Detaches the observer of the log with a follower. -/
def detachLog (follower : Nat) : Act (Polling ω ε) Unit := do
  change fun poller =>
    { poller with logObservers := poller.logObservers.filter (·.1 != follower) }
  if ← look fun poller => poller.logObservers.isEmpty then Agenda.cancel .logs

/-- Detaches every observer. -/
def detachAll : Act (Polling ω ε) Unit :=
  change fun poller =>
    { poller with statusObservers := [], networkObservers := [], logObservers := [] }

/-- Detaches every observer and ends both cadences. -/
def stop : Act (Polling ω ε) Unit := do
  detachAll
  Agenda.cancel .control
  Agenda.cancel .logs

/-- Detaches every observer, ends both cadences and waits for their loops to end. -/
def close (play : Schedule.Event → Act (Polling ω ε) Unit) : Act (Polling ω ε) Unit := do
  detachAll
  Agenda.close play .control
  Agenda.close play .logs

end Poller

end Warden
