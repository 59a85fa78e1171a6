import Mathlib.Tactic.Common
import Warden.Proofs.Webif.Port
import Warden.Server.Child

/-!
# What the commands of a child server come to

Each command of a child server has a few ways to end. They are listed once for each command, with
the conditions under which they happen, the outcome, and the state of the server afterwards.

## Main definitions

* `Machine.noting`, `Machine.ending`: a machine after something was done to it
* `Event.Asks`: a signal that asks a process to terminate
* `Termination`: how a process is asked to terminate
* `Job.readerFailure`: why nobody reads the output of a process
* `Starts`, `Stops`, `Fires`: the ways in which a start, a stop and a timer end

## Main results

* `askToTerminate_cases`: asking a process to terminate only sends signals
* `starts`, `stops`, `fires`: these are all the ways there are
* `state_exit`: what is left when a process has ended by itself
-/

namespace Warden.Server

/-! ## What is done to the machine -/

/-- Why nobody reads the output of a process, when starting threads fails in some way. There is no
thread to start if the output cannot be read. -/
def Job.readerFailure (job : Job) (threadFailure : Option Failure) : Option Failure :=
  if job.output.isSome then threadFailure else none

@[simp] theorem Job.readerFailure_none (job : Job) : job.readerFailure none = none :=
  ite_self _

namespace Machine

/-- The machine after things were done to it, the last one first. -/
def noting (machine : Machine) (events : List Event) : Machine :=
  { machine with events := events ++ machine.events }

/-- The machine after a process has ended, unless it had ended before. -/
def ending (machine : Machine) (number : Nat) (code : Int) : Machine :=
  { machine with
    jobs := machine.jobs.modify number fun job => { job with ended := job.ended.or (some code) } }

@[simp] theorem run_record (event : Event) (machine : Machine) :
    record event machine = ⟨.ok (), machine.noting [event], []⟩ := rfl

@[simp] theorem run_finish (number : Nat) (code : Int) (machine : Machine) :
    finish number code machine = ⟨.ok (), machine.ending number code, []⟩ := rfl

theorem run_launch (arguments : List String) (directory : Option String) (machine : Machine) :
    launch arguments directory machine =
      match machine.launchFailure with
      | some failure => ⟨.error failure, machine.noting [.launched arguments directory], []⟩
      | none =>
        ⟨.ok machine.jobs.size,
          { machine.noting [.launched arguments directory] with
            jobs := machine.jobs.push machine.next }, []⟩ := by
  cases h : machine.launchFailure <;> simp [launch, Act.run_bind, noting, h]

theorem run_signalGroup (number : Nat) (machine : Machine) :
    signalGroup number machine =
      match machine.groupFailure with
      | some failure => ⟨.error failure, machine, []⟩
      | none =>
        ⟨match machine.groupSignalFailure with
          | some failure => .error failure
          | none => .ok (),
          machine.noting [.groupTerminated (machine.job number).group], []⟩ := by
  cases h : machine.groupFailure <;> cases hs : machine.groupSignalFailure <;>
    simp [signalGroup, Act.run_bind, h, hs]

theorem run_terminate (number : Nat) (machine : Machine) :
    terminate number machine =
      ⟨match (machine.job number).terminateFailure with
        | some failure => .error failure
        | none => .ok (),
        machine.noting [.terminated (machine.job number).pid], []⟩ := by
  cases h : (machine.job number).terminateFailure <;> simp [terminate, Act.run_bind, h]

theorem run_kill (number : Nat) (machine : Machine) :
    kill number machine =
      match (machine.job number).killFailure with
      | some failure => ⟨.error failure, machine.noting [.killed (machine.job number).pid], []⟩
      | none =>
        ⟨.ok (), (machine.noting [.killed (machine.job number).pid]).ending number killedCode,
          []⟩ := by
  cases h : (machine.job number).killFailure <;> simp [kill, Act.run_bind, h]

/-- The machine after a timer was cancelled, if there is one to cancel. -/
def disarming (machine : Machine) : Option Nat → Machine
  | none => machine
  | some number =>
    { machine.noting [.disarmed] with
      timers := machine.timers.modify number fun timer => { timer with cancelled := true } }

@[simp] theorem threadFailure_disarming (machine : Machine) (timer : Option Nat) :
    (machine.disarming timer).threadFailure = machine.threadFailure := by
  cases timer <;> rfl

/-- The machine with one more timer. -/
def adding (machine : Machine) (timer : KillTimer) : Machine :=
  { machine with timers := machine.timers.push timer }

theorem run_startThread (machine : Machine) :
    startThread machine =
      ⟨match machine.threadFailure with
        | some failure => .error failure
        | none => .ok (), machine, []⟩ := by
  cases h : machine.threadFailure <;> simp [startThread, Act.run_bind, h]

/-- A timer whose thread is not started is there all the same, and never goes off. -/
theorem run_arm (target : Nat) (delay : Numeric.Reading) (machine : Machine) :
    arm target delay machine =
      match machine.threadFailure with
      | some failure => ⟨.error failure, machine.adding { target, cancelled := true }, []⟩
      | none => ⟨.ok (), (machine.noting [.armed delay]).adding { target }, []⟩ := by
  cases h : machine.threadFailure <;>
    simp [arm, Act.run_bind, run_startThread, addTimer, adding, h]

@[simp] theorem run_disarm (number : Nat) (machine : Machine) :
    disarm number machine = ⟨.ok (), machine.disarming (some number), []⟩ := rfl

@[simp] theorem noting_noting (machine : Machine) (events earlier : List Event) :
    (machine.noting earlier).noting events = machine.noting (events ++ earlier) := by
  simp [noting, List.append_assoc]

@[simp] theorem job_noting (machine : Machine) (events : List Event) (number : Nat) :
    (machine.noting events).job number = machine.job number := rfl

@[simp] theorem threadFailure_noting (machine : Machine) (events : List Event) :
    (machine.noting events).threadFailure = machine.threadFailure := rfl

@[simp] theorem noting_nil (machine : Machine) : machine.noting [] = machine := rfl

end Machine

/-! ## Signals -/

/-- A signal that asks a process, or its group, to terminate. -/
def Event.Asks (job : Job) : Event → Prop
  | groupTerminated group => group = job.group
  | terminated pid => pid = job.pid
  | _ => False

/-- How a process is asked to terminate, the last signal first: its group is signalled, or, when its
group is gone or out of reach, the process alone, which may be gone by then. -/
inductive Termination (machine : Machine) (number : Nat) : List Event → Prop
  | group (hgroup : machine.groupFailure = none) (hsignal : machine.groupSignalFailure = none) :
      Termination machine number [.groupTerminated (machine.job number).group]
  | ungrouped (failure : Failure) (hgroup : machine.groupFailure = some failure)
      (hmild : failure.isUnsignalled = true)
      (halone : ∀ failure ∈ (machine.job number).terminateFailure, failure.isGone = true) :
      Termination machine number [.terminated (machine.job number).pid]
  | unreached (failure : Failure) (hgroup : machine.groupFailure = none)
      (hsignal : machine.groupSignalFailure = some failure) (hmild : failure.isUnsignalled = true)
      (halone : ∀ failure ∈ (machine.job number).terminateFailure, failure.isGone = true) :
      Termination machine number
        [.terminated (machine.job number).pid, .groupTerminated (machine.job number).group]

/-- Signalling the process alone is on record, and counts as done if the process is gone. -/
theorem signalled_alone (machine : Machine) (number : Nat) :
    let act : Act Machine Unit :=
      Act.recover Failure.isGone (Machine.terminate number) fun _ => pure ()
    (act machine).state = machine.noting [.terminated (machine.job number).pid] ∧
      ((act machine).outcome = .ok () →
        ∀ failure ∈ (machine.job number).terminateFailure, failure.isGone = true) := by
  intro act
  -- The signal is on record before it can fail.
  have hstate : (act machine).state = machine.noting [.terminated (machine.job number).pid] := by
    rw [Act.state_recover, Machine.run_terminate]
    cases (machine.job number).terminateFailure <;> simp
  refine ⟨hstate, fun hok failure hfailure => ?_⟩
  rw [Option.mem_def] at hfailure
  by_contra hgone
  simp [act, Act.outcome_recover, Machine.run_terminate, hfailure, hgone] at hok

theorem Termination.ne_nil {machine : Machine} {number : Nat} {signals : List Event}
    (h : Termination machine number signals) : signals ≠ [] := by
  cases h <;> exact List.cons_ne_nil _ _

/-- **Asking a process to terminate** only sends signals to it, and succeeds in the ways there are. -/
theorem askToTerminate_cases (number : Nat) (machine : Machine) :
    ∃ signals : List Event,
      (ChildServer.askToTerminate number machine).state = machine.noting signals ∧
      (∀ event ∈ signals, event.Asks (machine.job number)) ∧
      ((ChildServer.askToTerminate number machine).outcome = .ok () →
        Termination machine number signals) := by
  rw [ChildServer.askToTerminate, Act.state_recover, Act.outcome_recover, Machine.run_signalGroup]
  -- The group is asked first; the process alone only when its group is gone or out of reach.
  cases hgroup : machine.groupFailure with
  | some failure =>
    by_cases hmild : failure.isUnsignalled = true
    · obtain ⟨hstate, hgone⟩ := signalled_alone machine number
      simp only [hmild, if_true]
      exact ⟨_, hstate, by simp [Event.Asks],
        fun hok => .ungrouped failure hgroup hmild (hgone hok)⟩
    · exact ⟨[], by simp [hmild], by simp, by simp [hmild]⟩
  | none =>
    cases hsignal : machine.groupSignalFailure with
    | none => exact ⟨[_], rfl, by simp [Event.Asks], fun _ => .group hgroup hsignal⟩
    | some failure =>
      by_cases hmild : failure.isUnsignalled = true
      · -- The signal to the group failed, and is on record below the one to the process.
        obtain ⟨hstate, hgone⟩ := signalled_alone
          (machine.noting [.groupTerminated (machine.job number).group]) number
        rw [Machine.noting_noting, Machine.job_noting, List.singleton_append] at hstate
        simp only [hmild, if_true]
        exact ⟨_, hstate, by simp [Event.Asks],
          fun hok => .unreached failure hgroup hsignal hmild (hgone hok)⟩
      · exact ⟨[.groupTerminated (machine.job number).group], by simp [hmild],
          by simp [Event.Asks], by simp [hmild]⟩

namespace ChildServer

@[simp] theorem run_onMachine {α : Type} (act : Act Machine α) (server : ChildServer) :
    onMachine act server =
      ⟨(act server.machine).outcome, { server with machine := (act server.machine).state },
        (act server.machine).log⟩ := rfl

/-! ## Starting -/

/-- The server with a process that was just launched, before anything about it is known. -/
def adopting (server : ChildServer) (arguments : List String) (directory : Option String) :
    ChildServer :=
  { server with
    machine := { server.machine.noting [.launched arguments directory] with
      jobs := server.machine.jobs.push server.machine.next }
    current := some server.machine.jobs.size }

/-- The server with a process that was just launched, its port and its output. -/
def adopted (server : ChildServer) (arguments : List String) (directory : Option String)
    (port : Int) : ChildServer :=
  { server.adopting arguments directory with
    port
    ring := server.ring.appendAll (outputLines server.machine.next) }

@[simp] theorem size_jobs_adopted (server : ChildServer) (arguments : List String)
    (directory : Option String) (port : Int) :
    (server.adopted arguments directory port).machine.jobs.size =
      server.machine.jobs.size + 1 :=
  Array.size_push _

/-- A process that was just launched is alive unless it ended at once. -/
theorem isAlive_adopted (server : ChildServer) (arguments : List String)
    (directory : Option String) (port : Int) :
    (server.adopted arguments directory port).machine.isAlive server.machine.jobs.size =
      server.machine.next.isAlive := by
  rw [Machine.isAlive, adopted, adopting, Array.getElem?_push_size]

/-- The ways in which a start ends: with an outcome, and with the server as it is afterwards. -/
inductive Starts (server : ChildServer) (directory : Option String) (level : Int) :
    Except Failure Int → ChildServer → Prop
  /-- The server runs already. -/
  | running (number : Nat) (halive : server.alive? = some number) :
      Starts server directory level (.ok (-1)) server
  /-- Looking for the program fails. -/
  | unresolved (failure : Failure) (hidle : server.alive? = none)
      (hresolve : server.resolve = .error failure) :
      Starts server directory level (.error failure) server
  /-- There is no program. -/
  | missing (hidle : server.alive? = none) (hresolve : server.resolve = .ok none) :
      Starts server directory level (.ok (-3)) server
  /-- The debug level cannot be written. -/
  | unwritten (path : String) (failure : Failure) (hidle : server.alive? = none)
      (hresolve : server.resolve = .ok (some path))
      (hcommand : command path directory level = .error failure) :
      Starts server directory level (.error failure) server
  /-- Looking for the directory fails. -/
  | unplaced (path : String) (failure : Failure) (hidle : server.alive? = none)
      (hresolve : server.resolve = .ok (some path))
      (hplace : server.launchDirectory directory = .error failure) :
      Starts server directory level (.error failure) server
  /-- No process is created. -/
  | failed (path : String) (place : Option String) (failure : Failure)
      (hidle : server.alive? = none) (hresolve : server.resolve = .ok (some path))
      (hplace : server.launchDirectory directory = .ok place)
      (hlaunch : server.machine.launchFailure = some failure) :
      Starts server directory level
        (if failure.isSystem then .ok (launchCode failure) else .error failure)
        { server with
          machine := server.machine.noting [.launched (arguments path directory level) place] }
  /-- A process is created, and reading the port fails. -/
  | unread (path : String) (place : Option String) (failure : Failure)
      (hidle : server.alive? = none) (hresolve : server.resolve = .ok (some path))
      (hplace : server.launchDirectory directory = .ok place)
      (hlaunch : server.machine.launchFailure = none)
      (hport : Webif.portOf server.machine.tree directory = .error failure) :
      Starts server directory level (.error failure)
        (server.adopting (arguments path directory level) place)
  /-- A process is created, and nobody reads its output. -/
  | unheard (path : String) (place : Option String) (port : Int) (failure : Failure)
      (hidle : server.alive? = none) (hresolve : server.resolve = .ok (some path))
      (hplace : server.launchDirectory directory = .ok place)
      (hlaunch : server.machine.launchFailure = none)
      (hport : Webif.portOf server.machine.tree directory = .ok port)
      (hreader : server.machine.next.readerFailure server.machine.threadFailure = some failure) :
      Starts server directory level (.error failure)
        { server.adopting (arguments path directory level) place with port }
  /-- A process is created. -/
  | launched (path : String) (place : Option String) (port : Int)
      (hidle : server.alive? = none) (hresolve : server.resolve = .ok (some path))
      (hplace : server.launchDirectory directory = .ok place)
      (hlaunch : server.machine.launchFailure = none)
      (hport : Webif.portOf server.machine.tree directory = .ok port)
      (hreader : server.machine.next.readerFailure server.machine.threadFailure = none) :
      Starts server directory level (.ok 0)
        (server.adopted (arguments path directory level) place port)

theorem isRunning_eq_false {server : ChildServer} (h : server.alive? = none) :
    server.isRunning = false := by
  rw [isRunning, h]
  rfl

/-- A process is adopted unless reading the port fails, or the thread does not start that is to read
the output. -/
theorem outcome_adopt (number : Nat) (command : List String) (directory : Option String)
    (server : ChildServer) :
    (adopt number command directory server).outcome =
      match Webif.portOf server.machine.tree directory with
      | .error failure => .error failure
      | .ok _ =>
        match (server.machine.job number).readerFailure server.machine.threadFailure with
        | some failure => .error failure
        | none => .ok () := by
  cases hport : Webif.portOf server.machine.tree directory with
  | error failure => simp [adopt, Webif.outcome_readPort, hport]
  | ok port =>
    cases houtput : (server.machine.job number).output with
    | none => simp [adopt, Webif.outcome_readPort, hport, Job.readerFailure, houtput]
    | some bytes =>
      cases hthread : server.machine.threadFailure <;>
        simp [adopt, Webif.outcome_readPort, hport, Job.readerFailure, houtput,
          Machine.run_startThread, hthread]

/-- What adopting a process leaves. -/
theorem state_adopt (number : Nat) (command : List String) (directory : Option String)
    (server : ChildServer) :
    (adopt number command directory server).state =
      match Webif.portOf server.machine.tree directory with
      | .error _ => { server with current := some number }
      | .ok port =>
        match (server.machine.job number).readerFailure server.machine.threadFailure with
        | some _ => { server with current := some number, port }
        | none =>
          { server with
            current := some number
            port
            ring := server.ring.appendAll (outputLines (server.machine.job number)) } := by
  cases hport : Webif.portOf server.machine.tree directory with
  | error failure => simp [adopt, Webif.outcome_readPort, hport]
  | ok port =>
    cases houtput : (server.machine.job number).output with
    | none => simp [adopt, Webif.outcome_readPort, hport, Job.readerFailure, houtput]
    | some bytes =>
      cases hthread : server.machine.threadFailure <;>
        simp [adopt, Webif.outcome_readPort, hport, Job.readerFailure, houtput,
          Machine.run_startThread, hthread]

/-- The command line is that of the arguments, if it can be written. -/
theorem command_eq {path : String} {directory : Option String} {level : Int}
    {arguments : List String} (h : command path directory level = .ok arguments) :
    arguments = ChildServer.arguments path directory level := by
  rw [command] at h
  split_ifs at h
  exact (Except.ok.inj h).symm

/-- Launching a program that was found. -/
theorem starts_of_launch (server : ChildServer) (directory : Option String) (level : Int)
    (path : String) (hidle : server.alive? = none)
    (hresolve : server.resolve = .ok (some path)) :
    Starts server directory level (launch path directory level server).outcome
      (launch path directory level server).state := by
  cases hcommand : command path directory level with
  | error failure =>
    have hrun : launch path directory level server = ⟨.error failure, server, []⟩ := by
      simp [launch, Act.run_bind, hcommand]
    rw [hrun]
    exact .unwritten path failure hidle hresolve hcommand
  | ok arguments =>
    obtain rfl := command_eq hcommand
    cases hplace : server.launchDirectory directory with
    | error failure =>
      have hrun : launch path directory level server = ⟨.error failure, server, []⟩ := by
        simp [launch, Act.run_bind, hcommand, hplace]
      rw [hrun]
      exact .unplaced path failure hidle hresolve hplace
    | ok place =>
      cases hlaunch : server.machine.launchFailure with
      | some failure =>
        have hend : Starts server directory level _ _ :=
          .failed path place failure hidle hresolve hplace hlaunch
        by_cases hsystem : failure.isSystem <;>
          simpa [launch, hcommand, hplace, Machine.run_launch, hlaunch, hsystem] using hend
      | none =>
        -- The port is read after the launch, so a failure to read it leaves the process behind.
        cases hport : Webif.portOf server.machine.tree directory with
        | error failure =>
          have hend : Starts server directory level _ _ :=
            .unread path place failure hidle hresolve hplace hlaunch hport
          simpa [launch, hcommand, hplace, Machine.run_launch, hlaunch, outcome_adopt, state_adopt,
            hport, adopting, Machine.noting] using hend
        | ok port =>
          cases hreader : server.machine.next.readerFailure server.machine.threadFailure with
          | some failure =>
            have hend : Starts server directory level _ _ :=
              .unheard path place port failure hidle hresolve hplace hlaunch hport hreader
            simpa [launch, hcommand, hplace, Machine.run_launch, hlaunch, outcome_adopt, state_adopt,
              hport, hreader, adopting, Machine.noting, Machine.job] using hend
          | none =>
            have hend : Starts server directory level _ _ :=
              .launched path place port hidle hresolve hplace hlaunch hport hreader
            simpa [launch, hcommand, hplace, Machine.run_launch, hlaunch, outcome_adopt, state_adopt,
              hport, hreader, adopted, adopting, Machine.noting, Machine.job] using hend

/-- **A start** ends in one of these ways. -/
theorem starts (server : ChildServer) (directory : Option String) (level : Int) :
    Starts server directory level (start directory level server).outcome
      (start directory level server).state := by
  cases hcurrent : server.alive? with
  | some number =>
    have hrun : server.isRunning = true := by rw [isRunning, hcurrent]; rfl
    have hstart : start directory level server =
        ⟨.ok (-1), server, (start directory level server).log⟩ := by
      simp [start, Act.run_bind, hrun]
    rw [hstart]
    exact .running number hcurrent
  | none =>
    have hrun := isRunning_eq_false hcurrent
    cases hresolve : server.resolve with
    | error failure =>
      have hstart : start directory level server = ⟨.error failure, server, []⟩ := by
        simp [start, Act.run_bind, hrun, hresolve]
      rw [hstart]
      exact .unresolved failure hcurrent hresolve
    | ok found =>
      cases found with
      | none =>
        have hstart : start directory level server =
            ⟨.ok (-3), server, (start directory level server).log⟩ := by
          simp [start, Act.run_bind, hrun, hresolve]
        rw [hstart]
        exact .missing hcurrent hresolve
      | some path =>
        have hlaunch := starts_of_launch server directory level path hcurrent hresolve
        simpa [start, hrun, hresolve] using hlaunch

/-- A start that finds a process alive is refused. -/
theorem start_of_alive {server : ChildServer} {number : Nat} (h : server.alive? = some number)
    (directory : Option String) (level : Int) :
    (start directory level server).outcome = .ok (-1) := by
  have hrun : server.isRunning = true := by
    rw [isRunning, h]
    rfl
  simp [start, hrun]

/-- A start that finds everything launches the process and adopts it. -/
theorem start_of_found {server : ChildServer} {directory : Option String} {level : Int}
    {path : String} {place : Option String} {port : Int} (hidle : server.alive? = none)
    (hresolve : server.resolve = .ok (some path))
    (hplace : server.launchDirectory directory = .ok place)
    (hcommand : command path directory level = .ok (arguments path directory level))
    (hlaunch : server.machine.launchFailure = none)
    (hport : Webif.portOf server.machine.tree directory = .ok port)
    (hreader : server.machine.next.readerFailure server.machine.threadFailure = none) :
    (start directory level server).outcome = .ok 0 ∧
      (start directory level server).state =
        server.adopted (arguments path directory level) place port := by
  have hend := starts server directory level
  generalize (start directory level server).outcome = outcome at hend ⊢
  generalize (start directory level server).state = after at hend ⊢
  cases hend with
  | unwritten found failure _ hfound hunwritten =>
    obtain rfl := Option.some.inj (Except.ok.inj (hfound.symm.trans hresolve))
    cases hunwritten.symm.trans hcommand
  | unheard found there read failure _ _ _ _ _ hunread => cases hunread.symm.trans hreader
  | launched found there read _ hfound hthere _ hread =>
    obtain rfl := Option.some.inj (Except.ok.inj (hfound.symm.trans hresolve))
    obtain rfl := Except.ok.inj (hthere.symm.trans hplace)
    obtain rfl := Except.ok.inj (hread.symm.trans hport)
    exact ⟨rfl, rfl⟩
  | _ => simp_all

/-! ## How starts fail -/

/-- Looking for the program fails only as a system call. -/
theorem resolve_error {server : ChildServer} {failure : Failure}
    (h : server.resolve = .error failure) : failure.isSystem := by
  rw [resolve] at h
  split at h
  · cases hfile : server.machine.tree.isFile (Files.Path.ofText server.program).text with
    | error other =>
      simp only [hfile, bind, Except.bind] at h
      obtain rfl := Except.error.inj h
      exact Files.Tree.ask_error _ _ _ _ hfile
    | ok found =>
      simp only [hfile, bind, Except.bind] at h
      cases h
  · cases h

/-- Looking for the directory fails only as a system call. -/
theorem launchDirectory_error {server : ChildServer} {directory : Option String}
    {failure : Failure} (h : server.launchDirectory directory = .error failure) :
    failure.isSystem := by
  rw [launchDirectory] at h
  split at h
  · cases h
  · next text _ =>
    cases hplace : server.machine.tree.isDirectory (Files.Path.ofText text).text with
    | error other =>
      simp only [hplace, bind, Except.bind] at h
      obtain rfl := Except.error.inj h
      exact Files.Tree.ask_error _ _ _ _ hplace
    | ok found =>
      simp only [hplace, bind, Except.bind] at h
      cases h

/-- The command line fails only because the debug level cannot be written. -/
theorem command_error {path : String} {directory : Option String} {level : Int} {failure : Failure}
    (h : command path directory level = .error failure) : failure = .literal .unwritable := by
  rw [command] at h
  split_ifs at h
  exact (Except.error.inj h).symm

/-- The code for a failed launch is not that of a success. -/
theorem launchCode_ne_zero (failure : Failure) : launchCode failure ≠ 0 := by
  rw [launchCode]
  cases failure.number? with
  | none => decide
  | some number => by_cases hzero : number = 0 <;> simp [hzero]

theorem isOrdinary_of_isSystem {failure : Failure} (h : failure.isSystem) :
    Act.isOrdinary failure := by
  rw [Failure.isSystem] at h
  rw [Act.isOrdinary, Failure.isCancelled]
  cases hkind : failure.kind <;> simp_all

/-- What a launch in a directory may come to. It is not interrupted, and as the command line names
the directory, it fails when the system does not take its text. Threads can be started. -/
structure PossibleLaunch (launchFailure threadFailure : Option Failure)
    (directory : Option String) : Prop where
  ordinary : ∀ failure ∈ launchFailure, Act.isOrdinary failure
  taken : launchFailure = none → ∀ text ∈ directory, Failure.ofText? text = none
  threaded : threadFailure = none

/-- **A start answers zero** exactly when it launched a process, which is the current one then. In
all other cases it answers a code or fails, and no process was launched. -/
theorem starts_cases {server after : ChildServer} {directory : Option String} {level : Int}
    {outcome : Except Failure Int} (h : Starts server directory level outcome after)
    (hpossible : PossibleLaunch server.machine.launchFailure server.machine.threadFailure
      directory) :
    (outcome = .ok 0 ∧ after.machine.jobs = server.machine.jobs.push server.machine.next ∧
      after.current = some server.machine.jobs.size) ∨
    (after.machine.jobs = server.machine.jobs ∧ after.current = server.current ∧
      ((∃ code, outcome = .ok code ∧ code ≠ 0) ∨
        ∃ failure, outcome = .error failure ∧ Act.isOrdinary failure)) := by
  cases h with
  | running => exact .inr ⟨rfl, rfl, .inl ⟨-1, rfl, by decide⟩⟩
  | unresolved failure hidle hresolve =>
    exact .inr ⟨rfl, rfl, .inr ⟨failure, rfl, isOrdinary_of_isSystem (resolve_error hresolve)⟩⟩
  | missing => exact .inr ⟨rfl, rfl, .inl ⟨-3, rfl, by decide⟩⟩
  | unwritten path failure hidle hresolve hcommand =>
    obtain rfl := command_error hcommand
    exact .inr ⟨rfl, rfl, .inr ⟨_, rfl, rfl⟩⟩
  | unplaced path failure hidle hresolve hplace =>
    have hsystem := launchDirectory_error hplace
    exact .inr ⟨rfl, rfl, .inr ⟨failure, rfl, isOrdinary_of_isSystem hsystem⟩⟩
  | failed path place failure hidle hresolve hplace hlaunch =>
    refine .inr ⟨rfl, rfl, ?_⟩
    by_cases hsystem : failure.isSystem
    · exact .inl ⟨launchCode failure, by rw [if_pos hsystem], launchCode_ne_zero failure⟩
    · exact .inr ⟨failure, by rw [if_neg hsystem], hpossible.ordinary failure hlaunch⟩
  | unread path place failure hidle hresolve hplace hlaunch hport =>
    -- A directory in which a launch succeeds has a port.
    exact absurd hport (Webif.portOf_ne_error (hpossible.taken hlaunch))
  | unheard path place port failure hidle hresolve hplace hlaunch hport hreader =>
    rw [hpossible.threaded, Job.readerFailure_none] at hreader
    cases hreader
  | launched => exact .inl ⟨rfl, rfl, rfl⟩

/-! ## Stopping -/

/-- The server with a timer in the place of the earlier one, after things were done to arm it. -/
def retimed (server : ChildServer) (events : List Event) (timer : KillTimer) : ChildServer :=
  let machine := server.machine.disarming server.timer
  { server with
    machine := (machine.noting events).adding timer
    timer := some machine.timers.size }

/-- The earlier timer is cancelled before the new one fails to start. -/
theorem run_rearm (number : Nat) (server : ChildServer) :
    rearm number server =
      match server.machine.threadFailure with
      | some failure =>
        ⟨.error failure, server.retimed [] { target := number, cancelled := true }, []⟩
      | none => ⟨.ok (), server.retimed [.armed server.grace] { target := number }, []⟩ := by
  cases htimer : server.timer <;> cases hthread : server.machine.threadFailure <;>
    simp [rearm, Act.run_bind, retimed, htimer, hthread, Machine.run_arm, Machine.disarming,
      Machine.noting, Machine.adding]

/-- The server with a process that was asked to terminate. -/
def asked (server : ChildServer) (number : Nat) (signals : List Event) : ChildServer :=
  { { server with machine := server.machine.noting signals }.retimed [.armed server.grace]
      { target := number } with port := -1 }

/-- The server with a process that was asked to terminate, and a timer for it that did not start. -/
def untimed (server : ChildServer) (number : Nat) (signals : List Event) : ChildServer :=
  { server with machine := server.machine.noting signals }.retimed []
    { target := number, cancelled := true }

/-- The ways in which a stop ends: with an outcome, and with the server as it is afterwards. -/
inductive Stops (server : ChildServer) : Except Failure Unit → ChildServer → Prop
  /-- The server does not run. -/
  | idle (hidle : server.alive? = none) : Stops server (.ok ()) server
  /-- Asking the process to terminate fails. -/
  | failed (number : Nat) (signals : List Event) (failure : Failure)
      (halive : server.alive? = some number)
      (hasks : ∀ event ∈ signals, event.Asks (server.machine.job number)) :
      Stops server (.error failure) { server with machine := server.machine.noting signals }
  /-- The process was asked to terminate, and the timer for it does not start. -/
  | untimed (number : Nat) (signals : List Event) (failure : Failure)
      (halive : server.alive? = some number)
      (hasks : ∀ event ∈ signals, event.Asks (server.machine.job number)) (hne : signals ≠ [])
      (hthread : server.machine.threadFailure = some failure) :
      Stops server (.error failure) (server.untimed number signals)
  /-- The process was asked to terminate. -/
  | asked (number : Nat) (signals : List Event) (halive : server.alive? = some number)
      (hasks : ∀ event ∈ signals, event.Asks (server.machine.job number)) (hne : signals ≠ []) :
      Stops server (.ok ()) (server.asked number signals)

/-- **A stop** ends in one of these ways. -/
theorem stops (server : ChildServer) : Stops server (stop server).outcome (stop server).state := by
  cases hcurrent : server.alive? with
  | none =>
    have hstop : stop server = ⟨.ok (), server, []⟩ := by simp [stop, Act.run_bind, hcurrent]
    rw [hstop]
    exact .idle hcurrent
  | some number =>
    obtain ⟨signals, hstate, hasks, hsent⟩ := askToTerminate_cases number server.machine
    cases hask : (askToTerminate number server.machine).outcome with
    | error failure =>
      have hend := Stops.failed number signals failure hcurrent hasks
      simpa [stop, hcurrent, hask, hstate] using hend
    | ok _ =>
      cases hthread : server.machine.threadFailure with
      | none =>
        have hend := Stops.asked number signals hcurrent hasks (hsent hask).ne_nil
        simpa [stop, hcurrent, hask, hstate, run_rearm, hthread, asked] using hend
      | some failure =>
        have hend := Stops.untimed number signals failure hcurrent hasks (hsent hask).ne_nil hthread
        simpa [stop, hcurrent, hask, hstate, run_rearm, hthread, untimed] using hend

/-! ## Timers and ends -/

/-- The ways in which a timer goes off: with the server as it is afterwards. -/
inductive Fires (server : ChildServer) (position : Int) : ChildServer → Prop
  /-- There is no such timer, it was cancelled, or its process has ended. -/
  | nothing : Fires server position server
  /-- Its process is alive, and killing it fails. -/
  | failed (number : Nat) (timer : KillTimer)
      (hposition : numberAt position server.machine.timers.size = .ok number)
      (htimer : server.machine.timers[number]? = some timer) (harmed : timer.cancelled = false)
      (halive : server.machine.isAlive timer.target) :
      Fires server position
        { server with
          machine := server.machine.noting [.killed (server.machine.job timer.target).pid] }
  /-- Its process is alive, and it is killed. -/
  | killed (number : Nat) (timer : KillTimer)
      (hposition : numberAt position server.machine.timers.size = .ok number)
      (htimer : server.machine.timers[number]? = some timer) (harmed : timer.cancelled = false)
      (halive : server.machine.isAlive timer.target) :
      Fires server position
        { server with
          machine := (server.machine.noting
            [.killed (server.machine.job timer.target).pid]).ending timer.target
              Machine.killedCode }

/-- Killing a process that has not ended, which may fail. -/
theorem state_killUnlessEnded (number : Nat) (server : ChildServer) :
    (killUnlessEnded number server).state =
      if server.machine.isAlive number then
        { server with
          machine := match (server.machine.job number).killFailure with
            | none =>
              (server.machine.noting [.killed (server.machine.job number).pid]).ending number
                Machine.killedCode
            | some _ => server.machine.noting [.killed (server.machine.job number).pid] }
      else server := by
  by_cases halive : server.machine.isAlive number
  · cases hkill : (server.machine.job number).killFailure with
    | none => simp [killUnlessEnded, halive, Machine.run_kill, hkill]
    | some failure =>
      by_cases hgone : failure.isGone <;>
        simp [killUnlessEnded, halive, Machine.run_kill, hkill, hgone]
  · simp [killUnlessEnded, halive]

/-- A timer that is armed kills its process unless it has ended. -/
theorem state_fire (position : Int) (server : ChildServer) :
    (fire position server).state =
      match numberAt position server.machine.timers.size with
      | .error _ => server
      | .ok number =>
        match server.machine.timers[number]? with
        | none => server
        | some timer =>
          if timer.cancelled then server else (killUnlessEnded timer.target server).state := by
  cases hposition : numberAt position server.machine.timers.size with
  | error failure => simp [fire, hposition]
  | ok number =>
    cases htimer : server.machine.timers[number]? with
    | none => simp [fire, hposition, htimer]
    | some timer =>
      cases hcancelled : timer.cancelled <;> simp [fire, hposition, htimer, hcancelled]

/-- **A timer** goes off in one of these ways. -/
theorem fires (server : ChildServer) (position : Int) :
    Fires server position (fire position server).state := by
  rw [state_fire]
  cases hposition : numberAt position server.machine.timers.size with
  | error failure => exact .nothing
  | ok number =>
    cases htimer : server.machine.timers[number]? with
    | none => simpa [htimer] using Fires.nothing
    | some timer =>
      simp only [htimer]
      cases hcancelled : timer.cancelled with
      | true => exact .nothing
      | false =>
        rw [if_neg Bool.false_ne_true, state_killUnlessEnded]
        by_cases halive : server.machine.isAlive timer.target
        · rw [if_pos halive]
          cases (server.machine.job timer.target).killFailure with
          | none => exact .killed number timer hposition htimer hcancelled halive
          | some failure => exact .failed number timer hposition htimer hcancelled halive
        · -- The process has ended, by itself or because it was asked to.
          rw [if_neg halive]
          exact .nothing

/-- The end of a process, if there is such a process. -/
theorem state_exit (position code : Int) (server : ChildServer) :
    (exit position code server).state =
      match numberAt position server.machine.jobs.size with
      | .ok number => { server with machine := server.machine.ending number code }
      | .error _ => server := by
  cases hposition : numberAt position server.machine.jobs.size <;> simp [exit, hposition]

end ChildServer

end Warden.Server
