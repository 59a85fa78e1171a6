import Warden.KeepAwake.Token
import Warden.Numeric.Reading

/-!
# Blocking suspension with a child process

Suspension is blocked as long as a child process runs, and letting go is a matter of terminating it.
Nobody waits for the child when letting go: it is left to a reaper, who waits for it a while, then
kills it. The reaper comes at any later time.

## Main definitions

* `Child`: a launched child
* `Deed`: something that was done to a child
* `LockHost`: the host as the lock sees it: what can be found and launched, and the children
* `arguments`: the command line of the child
* `acquire`, `letGo`, `inhibitor`: the inhibitor on such a host
* `reapLeft`: a child that was left to a reaper is reaped
-/

namespace Warden.KeepAwake.ChildLock

open Warden.Numeric

/-- A child process. -/
structure Child where
  pid : Int := 4242
  ended : Bool := false
  /-- How many waits time out before one sees the end of the child. -/
  slowWaits : Nat := 0
  terminateFailure : Option Failure := none
  deriving Inhabited

/-- What the lock does to the host. -/
inductive Event where
  | launched (arguments : List String)
  | terminated (pid : Int)
  | waited (limit : Option Reading)
  | killed (pid : Int)

/-- Something that was done to the child of a number. A launch is that of the number which the child
gets unless the launch fails. -/
structure Deed where
  number : Nat
  event : Event

/-- The host as the lock sees it. -/
structure LockHost where
  program : String := "systemd-inhibit"
  /-- Where the program is found. -/
  found : Option String := none
  launchFailure : Option Failure := none
  /-- The child that is launched next. -/
  next : Child := {}
  /-- The children in the order of their launch. -/
  children : Array Child := #[]
  /-- The child that blocks suspension. -/
  current : Option Nat := none
  /-- The terminated children that no reaper has waited for yet. -/
  left : List Nat := []
  deeds : List Deed := []

/-- The streams of the child that lead nowhere. -/
def silencedStreams : List String := ["stderr", "stdin", "stdout"]

/-- How long the reaper waits before it kills the child. -/
def patience : Reading := .ofSeconds (Seconds.ofInt 2)

/-- The command line of the child. -/
def arguments (path name : String) : List String :=
  [path, "--what=idle:sleep", s!"--who={name}", "--why=card server running", "--mode=block",
    "sleep", "infinity"]

/-- Something was done to a child. -/
def record (number : Nat) (event : Event) : Act LockHost Unit :=
  Act.modify fun host => { host with deeds := host.deeds ++ [⟨number, event⟩] }

/-- Changes a child. -/
def change (number : Nat) (f : Child → Child) : Act LockHost Unit :=
  Act.modify fun host => { host with children := host.children.modify number f }

/-- Launches the next child. -/
def launch (path name : String) : Act LockHost Unit := do
  record (← Act.get).children.size (.launched (arguments path name))
  Act.raise? (← Act.view LockHost.launchFailure)
  Act.modify fun host =>
    { host with children := host.children.push host.next, current := some host.children.size }

/-- Blocks suspension in a name. -/
def acquire (name : String) : Act LockHost Unit := do
  let host ← Act.get
  match host.found with
  | none => Act.fail (.inhibitorMissing host.program)
  | some path =>
    Act.recover Failure.isSystem (launch path name) fun failure =>
      Act.fail (.inhibitorFailed host.program failure.text)

/-- Terminates a child and leaves it to a reaper. -/
def terminate (number : Nat) (child : Child) : Act LockHost Unit := do
  record number (.terminated child.pid)
  Act.raise? child.terminateFailure
  Act.modify fun host => { host with left := host.left ++ [number] }

/-- Lets go: the child, if it still runs, is terminated. Nobody waits for it here. -/
def letGo : Act LockHost Unit := do
  let host ← Act.get
  Act.modify fun host => { host with current := none }
  match host.current.bind fun number => host.children[number]?.map (number, ·) with
  | some (number, child) => unless child.ended do terminate number child
  | none => pure ()

/-- The inhibitor on such a host. -/
def inhibitor : Inhibitor LockHost := ⟨acquire, letGo⟩

/-! ## The reaper -/

/-- A child ends. -/
def endChild (number : Nat) : Act LockHost Unit :=
  change number fun child => { child with ended := true }

/-- Waits for a child; answers whether it was seen to end. -/
def wait (number : Nat) (limit : Option Reading) : Act LockHost Bool := do
  record number (.waited limit)
  let child := (← Act.view fun host => host.children[number]?).getD default
  match child.ended, child.slowWaits with
  | false, more + 1 =>
    change number fun child => { child with slowWaits := more }
    return false
  | _, _ =>
    endChild number
    return true

/-- Waits for a terminated child for a while, then kills it and waits on. -/
def reap (number : Nat) : Act LockHost Unit := do
  let pid ← Act.view fun host => (host.children[number]?.getD default).pid
  unless ← wait number (some patience) do
    Act.note .warning s!"SystemdInhibitor: pid {pid} ignored SIGTERM, killing"
    record number (.killed pid)
    discard (wait number none)

/-- The reaper of a child comes, if the child was left to one. -/
def reapLeft (number : Nat) : Act LockHost Unit := do
  if (← Act.view LockHost.left).contains number then
    Act.modify fun host => { host with left := host.left.erase number }
    reap number

/-! ## The lock by itself -/

/-- Lets go and waits until every reaper has come. -/
def release : Act LockHost Unit := do
  letGo
  (← Act.view LockHost.left).forM reapLeft

/-- The last child ends by itself. -/
def endLast : Act LockHost Unit := do
  endChild ((← Act.get).children.size - 1)

/-- What was done to the host since this was asked last. -/
def takeEvents : Act LockHost (List Event) := do
  let deeds ← Act.view LockHost.deeds
  Act.modify fun host => { host with deeds := [] }
  return deeds.map Deed.event

/-- Blocks suspension when the program is found and the next child are given. -/
def acquireWith (found : Option String) (launchFailure : Option Failure) (next : Child)
    (name : String) : Act LockHost Unit := do
  Act.modify fun host => { host with found, launchFailure, next }
  acquire name

end Warden.KeepAwake.ChildLock
