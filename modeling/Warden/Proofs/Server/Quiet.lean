import Warden.Proofs.Supervisor.Discreet
import Warden.Proofs.Supervisor.Host

/-!
# A child server is quiet

What a child server logs of its starts and stops it signs itself, so that no record of it can be
taken for an error of the host.

## Main results

* `quiet_start`, `quiet_stop`: starts and stops of a child server log no error of the host
* `isQuiet_host`: a host logs none when what blocks suspension logs none
-/

namespace Warden

open Warden.Act (Discreet IsQuiet)
open Warden.Server

variable {σ τ α : Type}

theorem Act.IsQuiet.modify (f : σ → σ) : IsQuiet (Act.modify f) :=
  Discreet.modify fun _ _ => trivial

theorem Webif.quiet_noteIgnored (path : String) (assignment : List Char × List Char) :
    IsQuiet (Webif.noteIgnored path assignment : Act σ Unit) :=
  .note rfl

/-- Reading the port of the web interface logs only what it ignores. -/
theorem Webif.quiet_readPort (tree : Files.Tree) (directory : Option String) :
    IsQuiet (Webif.readPort tree directory : Act σ Int) := by
  unfold Webif.readPort
  cases directory with
  | none => exact .pure _
  | some directory =>
    refine .ite (.pure _) ?_
    dsimp only
    split
    · exact .fail _
    · exact Discreet.bind (.forM (quiet_noteIgnored _) _) fun _ => .pure _
    · exact .pure _

namespace Server

namespace Machine

theorem quiet_launch (command : List String) (directory : Option String) :
    IsQuiet (launch command directory) :=
  Discreet.bind (IsQuiet.modify _) fun _ => Discreet.bind (.view _) fun failure =>
    Discreet.bind (.raise? failure) fun _ => Discreet.bind (.view _) fun number =>
      Discreet.bind (IsQuiet.modify _) fun _ => .pure number

theorem quiet_signalGroup (number : Nat) : IsQuiet (signalGroup number) :=
  Discreet.bind (.view id) fun _ => Discreet.bind (.raise? _) fun _ =>
    Discreet.bind (IsQuiet.modify _) fun _ => .raise? _

theorem quiet_terminate (number : Nat) : IsQuiet (terminate number) :=
  Discreet.bind (.view _) fun _ => Discreet.bind (IsQuiet.modify _) fun _ => .raise? _

theorem quiet_startThread : IsQuiet startThread :=
  Discreet.bind (.view _) fun failure => .raise? failure

theorem quiet_arm (target : Nat) (delay : Numeric.Reading) : IsQuiet (arm target delay) := by
  refine Discreet.bind (.attempt quiet_startThread) fun outcome => ?_
  cases outcome with
  | ok answer => exact Discreet.bind (IsQuiet.modify _) fun _ => IsQuiet.modify _
  | error failure => exact Discreet.bind (IsQuiet.modify _) fun _ => .fail failure

theorem quiet_disarm (number : Nat) : IsQuiet (disarm number) :=
  Discreet.bind (IsQuiet.modify _) fun _ => IsQuiet.modify _

end Machine

namespace ChildServer

theorem quiet_onMachine {act : Act Machine α} (hact : IsQuiet act) : IsQuiet (onMachine act) :=
  Discreet.beside (fun _ _ _ => trivial) hact

theorem quiet_adopt (number : Nat) (command : List String) (directory : Option String) :
    IsQuiet (adopt number command directory) := by
  refine Discreet.bind (IsQuiet.modify _) fun _ => Discreet.bind (.view _) fun tree =>
    Discreet.bind (Webif.quiet_readPort tree directory) fun _ =>
    Discreet.bind (IsQuiet.modify _) fun _ => Discreet.bind (.view _) fun job => ?_
  have hread : IsQuiet (do
      Act.modify fun server => { server with ring := server.ring.appendAll (outputLines job) }
      let words := " ".intercalate command
      Act.note .info s!"SubprocessBackend: started {words} (pid {job.pid})" : Act ChildServer Unit) :=
    Discreet.bind (IsQuiet.modify _) fun _ => .note rfl
  exact .ite (Discreet.bind (quiet_onMachine Machine.quiet_startThread) fun _ => hread) hread

theorem quiet_launch (path : String) (directory : Option String) (level : Int) :
    IsQuiet (launch path directory level) := by
  refine Discreet.bind (.ofExcept _) fun command => Discreet.bind (.view id) fun server =>
    Discreet.bind (.ofExcept _) fun place =>
    Discreet.bind (.attempt (quiet_onMachine (Machine.quiet_launch _ _))) fun outcome => ?_
  cases outcome with
  | ok number => exact Discreet.bind (quiet_adopt number _ _) fun _ => .pure 0
  | error failure =>
    have hlogged : IsQuiet (do
        Act.note .error s!"SubprocessBackend: failed to launch {path}: {failure.text}"
        return launchCode failure : Act ChildServer Int) := by
      refine Discreet.bind (.note ?_) fun _ => .pure _
      simp [isHostError, toString, List.isPrefixOf]
    exact .ite hlogged (Discreet.bind (.fail _) fun _ => hlogged)

/-- **A start** of a child server logs no error of the host. -/
theorem quiet_start (directory : Option String) (level : Int) :
    IsQuiet (start directory level) := by
  refine Discreet.bind (.view id) fun server => .ite ?_ ?_
  · exact Discreet.bind (.note rfl) fun _ => .pure _
  · refine Discreet.bind (.ofExcept _) fun resolved => ?_
    cases resolved with
    | none =>
      refine Discreet.bind (.note ?_) fun _ => .pure _
      simp [isHostError, toString, List.isPrefixOf]
    | some path => exact quiet_launch path directory level

theorem quiet_rearm (number : Nat) : IsQuiet (rearm number) := by
  have harm (server : ChildServer) : IsQuiet (do
      Act.modify fun server => { server with timer := some server.machine.timers.size }
      onMachine (Machine.arm number server.grace) : Act ChildServer Unit) :=
    Discreet.bind (IsQuiet.modify _) fun _ => quiet_onMachine (Machine.quiet_arm _ _)
  refine Discreet.bind (.view id) fun server => ?_
  cases htimer : server.timer with
  | none => exact harm server
  | some earlier =>
    exact Discreet.bind (quiet_onMachine (Machine.quiet_disarm earlier)) fun _ => harm server

/-- **A stop** of a child server logs no error of the host. -/
theorem quiet_stop : IsQuiet stop := by
  refine Discreet.bind (.view id) fun server => ?_
  cases server.alive? with
  | none => exact .pure ()
  | some number =>
    have hask : IsQuiet (askToTerminate number) :=
      Discreet.recover (Machine.quiet_signalGroup number) fun _ =>
        Discreet.recover (Machine.quiet_terminate number) fun _ => .pure ()
    exact Discreet.bind (quiet_onMachine hask) fun _ => Discreet.bind (quiet_rearm number)
      fun _ => Discreet.bind (IsQuiet.modify _) fun _ => .note rfl

end ChildServer

end Server

/-- **A host is quiet** when what blocks suspension is. -/
theorem isQuiet_host (inhibitor : KeepAwake.Inhibitor τ) (interfaces : Network.Source (Host τ))
    (hacquire : ∀ name, IsQuiet (inhibitor.acquire name)) (hrelease : IsQuiet inhibitor.release) :
    (Host.around inhibitor interfaces).IsQuiet := by
  have hserver {α : Type} {act : Act ChildServer α} (hact : IsQuiet act) :
      IsQuiet (act.within Host.server fun (host : Host τ) server => { host with server }) :=
    Discreet.beside (fun _ _ _ => trivial) hact
  have hlock {α : Type} {act : Act τ α} (hact : IsQuiet act) :
      IsQuiet (act.within Host.lock fun (host : Host τ) lock => { host with lock }) :=
    Discreet.beside (fun _ _ _ => trivial) hact
  exact
    { start := fun directory level => hserver (ChildServer.quiet_start directory level)
      stop := hserver ChildServer.quiet_stop
      isRunning := hserver (.view _)
      acquire := fun name => hlock (hacquire name)
      release := hlock hrelease }

end Warden
