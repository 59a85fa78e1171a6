import Warden.Act
import Warden.Files.Tree
import Warden.Numeric.Reading

/-!
# The machine a server runs on

The machine as the commander sees it: files, processes, and timers that kill a process. Processes
end by themselves, or because they are killed; being asked to terminate does not end them at once.

## Main definitions

* `Job`: a process with what it writes
* `KillTimer`: a timer that kills a process
* `Event`: what the commander does to the machine
* `Machine`: the machine with all processes and timers there ever were
* `launch`, `signalGroup`, `terminate`, `kill`, `arm`, `disarm`: what can be done to it
-/

namespace Warden.Server

open Warden.Numeric

/-- A process with what it writes, and how signalling it fails. -/
structure Job where
  pid : Int := 4242
  /-- The group of the process. Unless it is given, its number is not that of the process, so that
  signals to the one are told from signals to the other. -/
  group : Int := pid + 1000
  /-- The exit code, once the process has ended. -/
  ended : Option Int := none
  /-- What the process writes, if anybody can read it. -/
  output : Option (List UInt8) := some []
  /-- What reading the pipe comes to after the output, instead of its end. The line that has not
  ended is lost. -/
  pipeFailure : Option Failure := none
  /-- What reading comes to after the output, instead of its end, when a stream stands in for the
  pipe that hands out all it has and only takes line feeds for line ends. -/
  readFailure : Option Failure := none
  terminateFailure : Option Failure := none
  killFailure : Option Failure := none
  deriving Inhabited

/-- The process has not ended. -/
def Job.isAlive (job : Job) : Bool :=
  job.ended.isNone

/-- A timer that kills a process, given by its number. -/
structure KillTimer where
  target : Nat
  /-- The timer does not go off: it was cancelled, or it could not be set going. -/
  cancelled : Bool := false
  deriving DecidableEq, Repr, Inhabited

/-- What the commander does to the machine. -/
inductive Event where
  | launched (arguments : List String) (directory : Option String)
  | groupTerminated (group : Int)
  | terminated (pid : Int)
  | killed (pid : Int)
  | armed (delay : Reading)
  | disarmed

/-- The machine. Processes and timers are numbered in the order they came. -/
structure Machine where
  tree : Files.Tree := {}
  /-- The directories that programs are searched in. -/
  searchPath : String := ""
  jobs : Array Job := #[]
  timers : Array KillTimer := #[]
  /-- The process that is launched next. -/
  next : Job := {}
  launchFailure : Option Failure := none
  /-- What asking for the group of a process comes to. -/
  groupFailure : Option Failure := none
  /-- What signalling a group comes to. -/
  groupSignalFailure : Option Failure := none
  /-- What starting a thread comes to. -/
  threadFailure : Option Failure := none
  /-- What was done so far, the last event first. -/
  events : List Event := []
  deriving Inhabited

namespace Machine

/-- The process of a number is alive. -/
def isAlive (machine : Machine) (number : Nat) : Bool :=
  match machine.jobs[number]? with
  | some job => job.isAlive
  | none => false

/-- The process of a number. -/
def job (machine : Machine) (number : Nat) : Job :=
  machine.jobs[number]?.getD default

/-- Something was done. -/
def record (event : Event) : Act Machine Unit :=
  Act.modify fun machine => { machine with events := event :: machine.events }

/-- A process ends with an exit code, unless it has ended before. -/
def finish (number : Nat) (code : Int) : Act Machine Unit :=
  Act.modify fun machine =>
    { machine with jobs := machine.jobs.modify number fun job =>
        { job with ended := job.ended.or (some code) } }

/-- Launches the next process in a directory; answers its number. -/
def launch (arguments : List String) (directory : Option String) : Act Machine Nat := do
  record (.launched arguments directory)
  Act.raise? (← Act.view launchFailure)
  let number ← Act.view (·.jobs.size)
  Act.modify fun machine => { machine with jobs := machine.jobs.push machine.next }
  return number

/-- Asks the group of a process to terminate. -/
def signalGroup (number : Nat) : Act Machine Unit := do
  let machine ← Act.get
  Act.raise? machine.groupFailure
  record (.groupTerminated (machine.job number).group)
  Act.raise? machine.groupSignalFailure

/-- Asks a process to terminate. -/
def terminate (number : Nat) : Act Machine Unit := do
  let job ← Act.view (·.job number)
  record (.terminated job.pid)
  Act.raise? job.terminateFailure

/-- The exit code of a process that was killed. -/
def killedCode : Int := -9

/-- Kills a process. -/
def kill (number : Nat) : Act Machine Unit := do
  let job ← Act.view (·.job number)
  record (.killed job.pid)
  Act.raise? job.killFailure
  finish number killedCode

/-- A thread is started. -/
def startThread : Act Machine Unit := do
  Act.raise? (← Act.view threadFailure)

/-- One more timer for a process. -/
def addTimer (timer : KillTimer) : Act Machine Unit :=
  Act.modify fun machine => { machine with timers := machine.timers.push timer }

/-- Arms a timer that kills a process after a delay. A timer without a thread never goes off. -/
def arm (target : Nat) (delay : Reading) : Act Machine Unit := do
  match ← startThread.attempt with
  | .ok () =>
    record (.armed delay)
    addTimer { target }
  | .error failure =>
    addTimer { target, cancelled := true }
    Act.fail failure

/-- Cancels a timer. -/
def disarm (number : Nat) : Act Machine Unit := do
  record .disarmed
  Act.modify fun machine =>
    { machine with timers := machine.timers.modify number fun timer =>
        { timer with cancelled := true } }

end Machine

end Warden.Server
