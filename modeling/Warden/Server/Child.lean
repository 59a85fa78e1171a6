import Warden.Position
import Warden.Server.Machine
import Warden.Server.Service
import Warden.ServerLog.Ring
import Warden.Webif

/-!
# A server as a child process

The server is a program that runs as a child process. Its output goes line by line into a ring. It
is stopped by asking it to terminate, and a timer kills it when it is still alive after a while.
The port of the web interface is read from the configuration when the server is launched, and
stays the same until the server is stopped.

## Main definitions

* `ChildServer`: the program, its current process, its log and the machine it runs on
* `ChildServer.start`, `ChildServer.stop`: start and stop of the server
* `ChildServer.fire`: a timer goes off
* `ChildServer.service`: the server for the commander
-/

namespace Warden.Server

open Warden.Numeric
open Warden.ServerLog (Ring)

/-- A server as a child process. -/
structure ChildServer where
  machine : Machine
  /-- The name or the path of the program. -/
  program : String
  ring : Ring := default
  /-- How long the server may take to terminate. -/
  grace : Reading := .ofSeconds (Seconds.ofInt 5)
  /-- The process that was launched last. -/
  current : Option Nat := none
  /-- The port of the web interface at the last launch. -/
  port : Int := -1
  /-- The timer that was armed last. -/
  timer : Option Nat := none
  deriving Inhabited

namespace ChildServer

variable {α : Type}

/-- An act on the machine. -/
def onMachine (act : Act Machine α) : Act ChildServer α :=
  act.within machine fun server machine => { server with machine }

/-- The current process, if it is alive. -/
def alive? (server : ChildServer) : Option Nat :=
  server.current.filter server.machine.isAlive

/-- The server runs. -/
def isRunning (server : ChildServer) : Bool :=
  server.alive?.isSome

/-- The process id of the running server. -/
def pid? (server : ChildServer) : Option Int :=
  server.alive?.map fun number => (server.machine.job number).pid

/-- The port of the web interface, or -1 when the server does not run. -/
def webifPort (server : ChildServer) : Int :=
  if server.isRunning then server.port else -1

/-- The path of the program. A name with a separator is a path, any other is searched for. -/
def resolve (server : ChildServer) : Except Failure (Option String) := do
  let tree := server.machine.tree
  if server.program.contains Files.separator then
    let path := (Files.Path.ofText server.program).text
    return if ← tree.isFile path then (if tree.isExecutable path then some path else none) else none
  else return tree.which server.machine.searchPath server.program

/-- The command line of the server. -/
def arguments (path : String) (directory : Option String) (debugLevel : Int) : List String :=
  let level := if 0 < debugLevel then ["-d", toString debugLevel] else []
  let place := match directory.bind Text.nonEmpty? with
    | some directory => ["-c", directory]
    | none => []
  path :: (level ++ place)

/-- The command line of the server, in which the debug level has to be written. -/
def command (path : String) (directory : Option String) (debugLevel : Int) :
    Except Failure (List String) :=
  if 0 < debugLevel && !Literal.isWritable debugLevel then .error (.literal .unwritable)
  else .ok (arguments path directory debugLevel)

/-- The directory that the server is launched in: the configuration directory, if there is one. -/
def launchDirectory (server : ChildServer) (directory : Option String) :
    Except Failure (Option String) := do
  match directory.bind Text.nonEmpty? with
  | none => return none
  | some directory =>
    let path := (Files.Path.ofText directory).text
    return if ← server.machine.tree.isDirectory path then some directory else none

/-- The failure to read the output of a process to its end. -/
def outputFailure (job : Job) : Option Failure :=
  job.pipeFailure.or job.readFailure

/-- The text that is read of the output of a process. -/
def outputText (job : Job) (bytes : List UInt8) : List Char :=
  if job.pipeFailure.isSome then Text.ended (Text.unifiedSoFar (Text.Utf8.decodeSoFar bytes))
  else if job.readFailure.isSome then Text.Utf8.decode bytes
  else Text.unifyLineEnds (Text.Utf8.decode bytes)

/-- The line about a failure to read, which is expected of the system and of values only. -/
def failureLine? (failure : Failure) : Option String :=
  if failure.isSystemOrValue then some s!"[supervisor] log reader error: {failure.text}" else none

/-- The lines that reading the output of a process gives, with one about the failure to read on. -/
def outputLines (job : Job) : List String :=
  match job.output with
  | none => []
  | some bytes => (Text.splitFeeds (outputText job bytes)).map String.ofList ++
      ((outputFailure job).bind failureLine?).toList

/-- The code for a failed launch: the error number of the system, or 1, below zero. -/
def launchCode (failure : Failure) : Int :=
  match failure.number? with
  | some number => if number == 0 then -1 else -number
  | none => -1

/-- A launched job is the current one. A thread reads its output, if anybody can. -/
def adopt (number : Nat) (command : List String) (directory : Option String) :
    Act ChildServer Unit := do
  Act.modify fun server => { server with current := some number }
  let port ← Webif.readPort (← Act.view (·.machine.tree)) directory
  Act.modify fun server => { server with port }
  let job ← Act.view (·.machine.job number)
  if job.output.isSome then onMachine Machine.startThread
  Act.modify fun server => { server with ring := server.ring.appendAll (outputLines job) }
  let words := " ".intercalate command
  Act.note .info s!"SubprocessBackend: started {words} (pid {job.pid})"

/-- Launches the program at a path; answers 0 or the code for a failed launch. -/
def launch (path : String) (directory : Option String) (debugLevel : Int) :
    Act ChildServer Int := do
  let command ← Act.ofExcept (command path directory debugLevel)
  let workingDirectory ← Act.ofExcept ((← Act.get).launchDirectory directory)
  match ← (onMachine (Machine.launch command workingDirectory)).attempt with
  | .ok number =>
    adopt number command directory
    return 0
  | .error failure =>
    unless failure.isSystem do Act.fail failure
    Act.note .error s!"SubprocessBackend: failed to launch {path}: {failure.text}"
    return launchCode failure

/-- Starts the server: answers 0, -1 when it runs already, -3 when there is no such program, or the
code for a failed launch. -/
def start (directory : Option String) (debugLevel : Int) : Act ChildServer Int := do
  let server ← Act.get
  if server.isRunning then
    Act.note .warning "SubprocessBackend: start requested while running"
    return -1
  match ← Act.ofExcept server.resolve with
  | none =>
    Act.note .error s!"SubprocessBackend: server binary not found: {server.program}"
    return -3
  | some path => launch path directory debugLevel

/-- Asks the group of a process to terminate, or the process alone when its group is gone or belongs
to somebody else. -/
def askToTerminate (number : Nat) : Act Machine Unit :=
  Act.recover Failure.isUnsignalled (Machine.signalGroup number) fun _ =>
    Act.recover Failure.isGone (Machine.terminate number) fun _ => pure ()

/-- Arms the timer for a process in the place of an earlier one. -/
def rearm (number : Nat) : Act ChildServer Unit := do
  let server ← Act.get
  match server.timer with
  | some earlier => onMachine (Machine.disarm earlier)
  | none => pure ()
  Act.modify fun server => { server with timer := some server.machine.timers.size }
  onMachine (Machine.arm number server.grace)

/-- Stops the server: it is asked to terminate, and killed when it has not ended in time. -/
def stop : Act ChildServer Unit := do
  let server ← Act.get
  match server.alive? with
  | none => pure ()
  | some number =>
    onMachine (askToTerminate number)
    rearm number
    Act.modify fun server => { server with port := -1 }
    let pid := (server.machine.job number).pid
    Act.note .info s!"SubprocessBackend: SIGTERM sent to pid {pid}"

/-- Kills a process that has not ended. -/
def killUnlessEnded (number : Nat) : Act ChildServer Unit := do
  let server ← Act.get
  if server.machine.isAlive number then
    let pid := (server.machine.job number).pid
    Act.note .warning s!"SubprocessBackend: pid {pid} ignored SIGTERM, killing"
    onMachine (Act.recover Failure.isGone (Machine.kill number) fun _ => pure ())

/-- The timer at a position goes off, unless it was cancelled. -/
def fire (position : Int) : Act ChildServer Unit := do
  let timers := (← Act.get).machine.timers
  match timers[← Act.ofExcept (numberAt position timers.size)]? with
  | some timer => unless timer.cancelled do killUnlessEnded timer.target
  | none => pure ()

/-- The process at a position ends by itself. -/
def exit (position : Int) (code : Int) : Act ChildServer Unit := do
  let number ← Act.ofExcept (numberAt position (← Act.get).machine.jobs.size)
  onMachine (Machine.finish number code)

/-- The log lines from a serial number on. -/
def logLines : ServerLog.Source ChildServer := fun wanted count =>
  Act.view fun server =>
    let (text, next) := server.ring.text wanted count
    (some text, (next : Int))

/-- The server for the commander. -/
def service : Service ChildServer where
  start := start
  stop := stop
  isRunning := Act.view isRunning
  webifPort := Act.view webifPort
  logLines := logLines

end ChildServer

end Warden.Server
