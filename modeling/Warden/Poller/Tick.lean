import Warden.Poller.Observers
import Warden.Uptime

/-!
# The ticks of the poller

At a tick of the status the poller asks the supervisor, fills in the display and tells the
observers; the network is looked at only if somebody observes it. At a tick of the log every
follower is polled, and its observer is told the new text if there is any. The observers of a tick
are those that were attached when it began to tell them. An observer that fails ends the tick.

## Main definitions

* `askStatus`, `askNetwork`: the questions that a tick of the status asks
* `publish`: the display takes the answers about the network
* `pollFollower`: the question that a tick of the log asks for every follower
* `tickStatus`, `tickLog`: the two ticks
-/

namespace Warden

namespace Poller

variable {ω ε : Type}

/-- The answers about the server are logged. -/
def noteStatus (handle : Handle) : Act (Polling ω ε) Unit :=
  let words := fun port => s!"StatusPoller: state={stateWord handle.running} webif_port={port}"
  match handle.webifPort with
  | some port => Act.noteNumber .trace port words
  | none => Act.note .trace (words "None")

@[simp] theorem outcome_noteStatus (handle : Handle) (s : Polling ω ε) :
    (noteStatus handle s).outcome = .ok () := by
  rw [noteStatus]
  cases handle.webifPort with
  | none => rfl
  | some port => exact Act.outcome_noteNumber ..

@[simp] theorem state_noteStatus (handle : Handle) (s : Polling ω ε) :
    (noteStatus handle s).state = s := by
  rw [noteStatus]
  cases handle.webifPort with
  | none => rfl
  | some port => exact Act.state_noteNumber ..

/-- Every observer of a list is told something, one after the other. -/
def tell (call : ω → Notice → Act (Polling ω ε) Unit) (observers : List ω) (notice : Notice) :
    Act (Polling ω ε) Unit :=
  observers.forM fun observer => call observer notice

/-- The supervisor is asked about the server, and the display takes the answers. -/
def askStatus (around : Surroundings ε) : Act (Polling ω ε) Handle := do
  let handle ← supervise (Supervisor.snapshot around)
  changeDisplay (·.withHandle handle)
  let uptimeText ← Act.ofExcept (Uptime.text (← supervise (Supervisor.uptime around)))
  changeDisplay fun display => { display with uptimeText }
  noteStatus handle
  return handle

/-- The display takes the place of the web interface in a role, for which the port has to be
written. -/
def publishPlace (endpoints : List Endpoint) (port : Option Int) (role : Role) :
    Act (Polling ω ε) Unit := do
  let url ← Act.ofExcept (role.place? endpoints port)
  changeDisplay (·.withPlace role url)

/-- The display takes the answers about the network, the addresses before the places. -/
def publish (endpoints : List Endpoint) (port : Option Int) : Act (Polling ω ε) Unit := do
  changeDisplay (·.withEndpoints endpoints)
  publishPlace endpoints port .primary
  publishPlace endpoints port .accessPoint

/-- The network is looked at, and the display takes the endpoints. -/
def askNetwork (around : Surroundings ε) (port : Option Int) :
    Act (Polling ω ε) (List Endpoint) := do
  let endpoints ← outside (Network.findBoth around.naming around.interfaces)
  publish endpoints port
  return endpoints

/-- A tick of the status. -/
def tickStatus (around : Surroundings ε) (call : ω → Notice → Act (Polling ω ε) Unit) :
    Act (Polling ω ε) Unit := do
  let handle ← askStatus around
  tell call (← look statusObservers) (.status handle)
  unless ← look fun poller => poller.networkObservers.isEmpty do
    let endpoints ← askNetwork around handle.webifPort
    tell call (← look networkObservers) (.network endpoints)

/-- The follower of a number is polled; answers the new text. -/
def pollFollower (around : Surroundings ε) (number : Nat) : Act (Polling ω ε) String := do
  let follower ← look fun poller => poller.followers[number]?.getD default
  let (text, after) ← outside (follower.poll around.service.logLines)
  change fun poller => { poller with followers := poller.followers.setIfInBounds number after }
  return text

/-- The number of lines that a follower shows. -/
def linesOf (number : Nat) (poller : Poller ω ε) : Nat :=
  (poller.followers[number]?.getD default).buffer.lineCount

/-- One observer of the log reads on. -/
def readOn (around : Surroundings ε) (call : ω → Notice → Act (Polling ω ε) Unit)
    (reader : Nat × ω) : Act (Polling ω ε) Unit := do
  let text ← pollFollower around reader.1
  unless text.isEmpty do call reader.2 (.log text)
  let lineCount ← look (linesOf reader.1)
  changeDisplay fun display => { display with lineCount }

/-- A tick of the log. -/
def tickLog (around : Surroundings ε) (call : ω → Notice → Act (Polling ω ε) Unit) :
    Act (Polling ω ε) Unit := do
  (← look logObservers).forM (readOn around call)
  let isLive ← supervise (Supervisor.isRunning around)
  changeDisplay fun display => { display with isLive }

end Poller

end Warden
