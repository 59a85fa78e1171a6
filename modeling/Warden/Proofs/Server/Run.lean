import Mathlib.Data.List.Induction
import Warden.Proofs.Server.Commands

/-!
# Runs of a child server

In a run a server is started and stopped, processes end by themselves and timers go off, in any
order. Between two steps the world around the server may change: files, the search path, the process
that comes next, and how launches, signals and threads fail.

## Main definitions

* `Circumstances`: the world around a server, with `Circumstances.IsThreaded` when threads can be
  started in it
* `Deed`, `Step`: what happens to a server, and under which circumstances
* `after server steps`: the server after a run
* `Quiet`, `KeepsTimers`: changes without a launch, and without a stop
* `Tended`: at most one process is alive, the current one, and at most one timer is armed, the last
  one

## Main results

* `Tended.step`, `Tended.after`: a server stays tended in every step and every run
* `Tended.not_alive`: a server that does not run has no process that is alive
-/

namespace Warden.Server

/-! ## Alive processes -/

namespace Machine

@[simp] theorem isAlive_noting (machine : Machine) (events : List Event) (number : Nat) :
    (machine.noting events).isAlive number = machine.isAlive number := rfl

@[simp] theorem isAlive_disarming (machine : Machine) (timer : Option Nat) (number : Nat) :
    (machine.disarming timer).isAlive number = machine.isAlive number := by
  cases timer <;> rfl

@[simp] theorem isAlive_adding (machine : Machine) (timer : KillTimer) (number : Nat) :
    (machine.adding timer).isAlive number = machine.isAlive number := rfl

/-- An end leaves the other processes alive. -/
theorem isAlive_ending (machine : Machine) (ended number : Nat) (code : Int) :
    (machine.ending ended code).isAlive number = (machine.isAlive number && number != ended) := by
  rw [isAlive, isAlive, ending, Array.getElem?_modify]
  by_cases h : ended = number
  · cases machine.jobs[number]? with
    | none => simp [h]
    | some job => cases hend : job.ended <;> simp [h, Job.isAlive, hend]
  · have h' : number ≠ ended := Ne.symm h
    simp [h, h']

/-- Only processes that were launched are alive. -/
theorem lt_of_isAlive {machine : Machine} {number : Nat} (h : machine.isAlive number) :
    number < machine.jobs.size := by
  rw [isAlive] at h
  by_contra hlt
  rw [Array.getElem?_eq_none (by omega)] at h
  exact Bool.noConfusion h

/-- After a launch the processes that were alive are, and perhaps the new one. -/
theorem isAlive_push {machine : Machine} {job : Job} {number : Nat}
    (h : { machine with jobs := machine.jobs.push job }.isAlive number) :
    machine.isAlive number ∨ number = machine.jobs.size := by
  rw [isAlive, Array.getElem?_push] at h
  by_cases hnew : number = machine.jobs.size
  · exact .inr hnew
  · rw [if_neg hnew] at h
    exact .inl h

end Machine

/-! ## Steps -/

/-- The world around a server: files, the process that comes next, and how launches, signals and
threads fail. -/
structure Circumstances where
  tree : Files.Tree := {}
  searchPath : String := ""
  next : Job := {}
  launchFailure : Option Failure := none
  groupFailure : Option Failure := none
  groupSignalFailure : Option Failure := none
  terminateFailure : Option Failure := none
  killFailure : Option Failure := none
  threadFailure : Option Failure := none

/-- Threads can be started. -/
def Circumstances.IsThreaded (circumstances : Circumstances) : Prop :=
  circumstances.threadFailure = none

/-- A process that fails to be signalled as the circumstances say. -/
def Circumstances.upon (circumstances : Circumstances) (job : Job) : Job :=
  { job with
    terminateFailure := circumstances.terminateFailure
    killFailure := circumstances.killFailure }

/-- A machine under circumstances. -/
def Machine.under (machine : Machine) (circumstances : Circumstances) : Machine :=
  { machine with
    tree := circumstances.tree
    searchPath := circumstances.searchPath
    jobs := machine.jobs.map circumstances.upon
    next := circumstances.next
    launchFailure := circumstances.launchFailure
    groupFailure := circumstances.groupFailure
    groupSignalFailure := circumstances.groupSignalFailure
    threadFailure := circumstances.threadFailure }

/-- A server under circumstances. -/
def ChildServer.under (server : ChildServer) (circumstances : Circumstances) : ChildServer :=
  { server with machine := server.machine.under circumstances }

/-- A server that has just been set up: nothing was launched, and no timer was armed. -/
def ChildServer.fresh (program : String) (ring : ServerLog.Ring) (grace : Numeric.Reading) :
    ChildServer :=
  { machine := {}, program, ring, grace }

/-- What happens to a server. -/
inductive Deed where
  | start (directory : Option String) (level : Int)
  | stop
  /-- The process at a position ends by itself. -/
  | exit (position code : Int)
  /-- The timer at a position goes off. -/
  | fire (position : Int)

/-- A deed as an act. -/
def Deed.act : Deed → Act ChildServer Unit
  | start directory level => do let _ ← ChildServer.start directory level
  | stop => ChildServer.stop
  | exit position code => ChildServer.exit position code
  | fire position => ChildServer.fire position

/-- Something that happens to a server under circumstances. -/
structure Step where
  circumstances : Circumstances := {}
  deed : Deed

/-- What a step comes to. -/
def Step.report (step : Step) (server : ChildServer) : Report ChildServer Unit :=
  step.deed.act (server.under step.circumstances)

/-- The server after a run. -/
def after (server : ChildServer) (steps : List Step) : ChildServer :=
  steps.foldl (fun server step => (step.report server).state) server

@[simp] theorem after_nil (server : ChildServer) : after server [] = server := rfl

@[simp] theorem after_append (server : ChildServer) (steps more : List Step) :
    after server (steps ++ more) = after (after server steps) more :=
  List.foldl_append

@[simp] theorem after_singleton (server : ChildServer) (step : Step) :
    after server [step] = (step.report server).state := rfl

/-! ## Circumstances change no process -/

section Under

variable (circumstances : Circumstances)

@[simp] theorem machine_under (server : ChildServer) :
    (server.under circumstances).machine = server.machine.under circumstances := rfl

@[simp] theorem size_jobs_under (machine : Machine) :
    (machine.under circumstances).jobs.size = machine.jobs.size := by
  simp [Machine.under]

@[simp] theorem isAlive_under (machine : Machine) (number : Nat) :
    (machine.under circumstances).isAlive number = machine.isAlive number := by
  rw [Machine.isAlive, Machine.isAlive, Machine.under, Array.getElem?_map]
  cases machine.jobs[number]? <;> rfl

@[simp] theorem pid_job_under (machine : Machine) (number : Nat) :
    ((machine.under circumstances).job number).pid = (machine.job number).pid := by
  rw [Machine.job, Machine.job, Machine.under, Array.getElem?_map]
  cases machine.jobs[number]? <;> rfl

@[simp] theorem group_job_under (machine : Machine) (number : Nat) :
    ((machine.under circumstances).job number).group = (machine.job number).group := by
  rw [Machine.job, Machine.job, Machine.under, Array.getElem?_map]
  cases machine.jobs[number]? <;> rfl

@[simp] theorem alive?_under (server : ChildServer) :
    (server.under circumstances).alive? = server.alive? := by
  rw [ChildServer.alive?, ChildServer.alive?, ChildServer.under]
  cases server.current with
  | none => rfl
  | some number => simp [Option.filter]

/-- A process is asked to terminate whatever the circumstances. -/
theorem Event.Asks.of_under {event : Event} {machine : Machine} {number : Nat}
    (h : event.Asks ((machine.under circumstances).job number)) :
    event.Asks (machine.job number) := by
  cases event with
  | groupTerminated group => exact h.trans (group_job_under circumstances machine number)
  | terminated pid => exact h.trans (pid_job_under circumstances machine number)
  | _ => exact h

end Under

/-- A start answers with a code, and the step does not. -/
theorem state_start (directory : Option String) (level : Int) (server : ChildServer) :
    ((Deed.start directory level).act server).state =
      (ChildServer.start directory level server).state := by
  rw [Deed.act, Act.state_bind]
  cases (ChildServer.start directory level server).outcome <;> rfl

/-! ## Timers in the place of earlier ones -/

section Retimed

variable (server : ChildServer) (target number : Nat) (signals events : List Event)
  (timer : KillTimer)

@[simp] theorem size_timers_disarming (machine : Machine) (timer : Option Nat) :
    (machine.disarming timer).timers.size = machine.timers.size := by
  cases timer <;> simp [Machine.disarming, Machine.noting]

theorem timers_retimed : (server.retimed events timer).machine.timers =
    (server.machine.disarming server.timer).timers.push timer := by
  cases htimer : server.timer <;>
    simp [ChildServer.retimed, Machine.adding, Machine.disarming, Machine.noting, htimer]

@[simp] theorem timer_retimed :
    (server.retimed events timer).timer = some server.machine.timers.size := by
  cases htimer : server.timer <;>
    simp [ChildServer.retimed, Machine.disarming, Machine.noting, htimer]

@[simp] theorem jobs_retimed : (server.retimed events timer).machine.jobs = server.machine.jobs := by
  cases htimer : server.timer <;>
    simp [ChildServer.retimed, Machine.adding, Machine.disarming, Machine.noting, htimer]

@[simp] theorem isAlive_retimed :
    (server.retimed events timer).machine.isAlive number = server.machine.isAlive number := by
  simp [ChildServer.retimed]

/-- Signals do not touch the timers. -/
theorem timers_disarming_noting (machine : Machine) (earlier : Option Nat) :
    ((machine.noting signals).disarming earlier).timers = (machine.disarming earlier).timers := by
  cases earlier <;> rfl

theorem timers_asked : (server.asked target signals).machine.timers =
    (server.machine.disarming server.timer).timers.push { target } := by
  rw [← timers_disarming_noting signals]
  exact timers_retimed ..

theorem timers_untimed : (server.untimed target signals).machine.timers =
    (server.machine.disarming server.timer).timers.push { target, cancelled := true } := by
  rw [← timers_disarming_noting signals]
  exact timers_retimed ..

@[simp] theorem timer_asked :
    (server.asked target signals).timer = some server.machine.timers.size :=
  timer_retimed { server with machine := server.machine.noting signals } [] { target }

@[simp] theorem timer_untimed :
    (server.untimed target signals).timer = some server.machine.timers.size :=
  timer_retimed { server with machine := server.machine.noting signals } [] { target }

@[simp] theorem jobs_asked :
    (server.asked target signals).machine.jobs = server.machine.jobs :=
  jobs_retimed ..

@[simp] theorem jobs_untimed :
    (server.untimed target signals).machine.jobs = server.machine.jobs :=
  jobs_retimed ..

@[simp] theorem isAlive_asked :
    (server.asked target signals).machine.isAlive number = server.machine.isAlive number :=
  isAlive_retimed ..

@[simp] theorem isAlive_untimed :
    (server.untimed target signals).machine.isAlive number = server.machine.isAlive number :=
  isAlive_retimed ..

end Retimed

/-! ## Changes without a launch -/

/-- Nothing was launched, and no process came back to life. -/
structure Quiet (server after : ChildServer) : Prop where
  size_eq : after.machine.jobs.size = server.machine.jobs.size
  current_eq : after.current = server.current
  alive_of_alive : ∀ number, after.machine.isAlive number → server.machine.isAlive number

theorem quiet_under (server : ChildServer) (circumstances : Circumstances) :
    Quiet server (server.under circumstances) :=
  ⟨size_jobs_under .., rfl, fun number h => by rwa [machine_under, isAlive_under] at h⟩

theorem quiet_stops {server after : ChildServer} {outcome : Except Failure Unit}
    (h : ChildServer.Stops server outcome after) : Quiet server after := by
  cases h with
  | idle | failed => exact ⟨rfl, rfl, fun _ h => h⟩
  | untimed => exact ⟨by rw [jobs_untimed], rfl, fun other h => by rwa [isAlive_untimed] at h⟩
  | asked => exact ⟨by rw [jobs_asked], rfl, fun other h => by rwa [isAlive_asked] at h⟩

/-- The end of a process. -/
theorem quiet_ending (server : ChildServer) (events : List Event) (number : Nat) (code : Int) :
    Quiet server { server with machine := (server.machine.noting events).ending number code } where
  size_eq := Array.size_modify
  current_eq := rfl
  alive_of_alive other h := by
    rw [Machine.isAlive_ending, Bool.and_eq_true] at h
    exact h.1

theorem quiet_fires {server after : ChildServer} {position : Int}
    (h : ChildServer.Fires server position after) : Quiet server after := by
  cases h with
  | nothing | failed => exact ⟨rfl, rfl, fun _ h => h⟩
  | killed => exact quiet_ending ..

theorem quiet_exit (server : ChildServer) (position code : Int) :
    Quiet server (ChildServer.exit position code server).state := by
  rw [ChildServer.state_exit]
  cases numberAt position server.machine.jobs.size with
  | error => exact ⟨rfl, rfl, fun _ h => h⟩
  | ok number => exact quiet_ending server [] number code

/-- No timer was armed or cancelled. -/
structure KeepsTimers (server after : ChildServer) : Prop where
  timers_eq : after.machine.timers = server.machine.timers
  timer_eq : after.timer = server.timer

/-- Only stops touch the timers. -/
theorem keepsTimers_starts {server after : ChildServer} {directory : Option String} {level : Int}
    {outcome : Except Failure Int} (h : ChildServer.Starts server directory level outcome after) :
    KeepsTimers server after := by
  cases h <;> exact ⟨rfl, rfl⟩

theorem keepsTimers_fires {server after : ChildServer} {position : Int}
    (h : ChildServer.Fires server position after) : KeepsTimers server after := by
  cases h <;> exact ⟨rfl, rfl⟩

theorem keepsTimers_exit (server : ChildServer) (position code : Int) :
    KeepsTimers server (ChildServer.exit position code server).state := by
  rw [ChildServer.state_exit]
  cases numberAt position server.machine.jobs.size <;> exact ⟨rfl, rfl⟩

/-! ## Servers that are tended -/

/-- At most one process is alive, the current one, and at most one timer is armed, the last one. -/
structure Tended (server : ChildServer) : Prop where
  current_of_alive : ∀ number, server.machine.isAlive number → server.current = some number
  last_of_armed : ∀ number timer, server.machine.timers[number]? = some timer →
    timer.cancelled = false → server.timer = some number

theorem alive?_eq_some {server : ChildServer} {number : Nat} :
    server.alive? = some number ↔ server.current = some number ∧ server.machine.isAlive number := by
  rw [ChildServer.alive?, Option.filter_eq_some_iff]

theorem tended_fresh (program : String) (ring : ServerLog.Ring) (grace : Numeric.Reading) :
    Tended (.fresh program ring grace) where
  current_of_alive _ h := absurd (Machine.lt_of_isAlive h) (Nat.not_lt_zero _)
  last_of_armed _ _ h := by simp [ChildServer.fresh] at h

namespace Tended

variable {server : ChildServer}

theorem alive?_iff (tended : Tended server) {number : Nat} :
    server.alive? = some number ↔ server.machine.isAlive number := by
  rw [alive?_eq_some]
  exact ⟨And.right, fun h => ⟨tended.current_of_alive number h, h⟩⟩

/-- A server that does not run has no process that is alive. -/
theorem not_alive (tended : Tended server) (h : server.alive? = none) (number : Nat) :
    ¬ server.machine.isAlive number := by
  intro halive
  rw [tended.alive?_iff.mpr halive] at h
  cases h

theorem armed_of_keeps (tended : Tended server) {after : ChildServer}
    (hkeeps : KeepsTimers server after) {number : Nat} {timer : KillTimer}
    (hget : after.machine.timers[number]? = some timer) (harmed : timer.cancelled = false) :
    after.timer = some number := by
  rw [hkeeps.timers_eq] at hget
  rw [hkeeps.timer_eq]
  exact tended.last_of_armed number timer hget harmed

/-- Without a launch and with the same timers, a server is as tended as before. -/
theorem quiet (tended : Tended server) {after : ChildServer} (hquiet : Quiet server after)
    (hkeeps : KeepsTimers server after) : Tended after where
  current_of_alive number h :=
    hquiet.current_eq.trans (tended.current_of_alive number (hquiet.alive_of_alive number h))
  last_of_armed _ _ hget harmed := tended.armed_of_keeps hkeeps hget harmed

theorem under (tended : Tended server) (circumstances : Circumstances) :
    Tended (server.under circumstances) :=
  tended.quiet (quiet_under ..) ⟨rfl, rfl⟩

/-- A launch while no process is alive. -/
theorem push (tended : Tended server) (hidle : server.alive? = none) {after : ChildServer}
    (hjobs : after.machine.jobs = server.machine.jobs.push server.machine.next)
    (hcurrent : after.current = some server.machine.jobs.size)
    (hkeeps : KeepsTimers server after) : Tended after where
  current_of_alive number h := by
    have hmachine : after.machine.isAlive number =
        { server.machine with jobs := after.machine.jobs }.isAlive number := rfl
    rw [hmachine, hjobs] at h
    -- No earlier process is alive, so the new one is the only one that may be.
    rcases Machine.isAlive_push h with hold | rfl
    · exact absurd hold (tended.not_alive hidle number)
    · exact hcurrent
  last_of_armed _ _ hget harmed := tended.armed_of_keeps hkeeps hget harmed

theorem start (tended : Tended server) {directory : Option String} {level : Int}
    {outcome : Except Failure Int} {after : ChildServer}
    (h : ChildServer.Starts server directory level outcome after) : Tended after := by
  have hkeeps := keepsTimers_starts h
  cases h with
  | running | unresolved | missing | unwritten | unplaced => exact tended
  | failed => exact tended.quiet ⟨rfl, rfl, fun _ h => h⟩ hkeeps
  | unread path place failure hidle => exact tended.push hidle rfl rfl hkeeps
  | unheard path place port failure hidle => exact tended.push hidle rfl rfl hkeeps
  | launched path place port hidle => exact tended.push hidle rfl rfl hkeeps

/-- Cancelling the last timer leaves none armed. -/
theorem cancelled_disarming (tended : Tended server) {number : Nat} {timer : KillTimer}
    (h : (server.machine.disarming server.timer).timers[number]? = some timer) :
    timer.cancelled = true := by
  by_contra hfree
  have harmed : timer.cancelled = false := Bool.eq_false_iff.mpr hfree
  -- A timer that is still armed was armed before, so it is the last one.
  cases hlast : server.timer with
  | none =>
    rw [hlast] at h
    have hnumber := tended.last_of_armed number timer h harmed
    rw [hlast] at hnumber
    cases hnumber
  | some last =>
    rw [hlast, Machine.disarming, Array.getElem?_modify] at h
    by_cases heq : last = number
    · rw [if_pos heq, Option.map_eq_some_iff] at h
      obtain ⟨earlier, -, rfl⟩ := h
      cases harmed
    · rw [if_neg heq] at h
      have hnumber := tended.last_of_armed number timer h harmed
      rw [hlast] at hnumber
      exact heq (Option.some.inj hnumber)

/-- After a process was asked to terminate, one timer is armed, the new one. -/
theorem asked_armed (tended : Tended server) {target number : Nat} {signals : List Event}
    {timer : KillTimer}
    (h : (server.asked target signals).machine.timers[number]? = some timer)
    (harmed : timer.cancelled = false) :
    number = server.machine.timers.size ∧ timer = { target } := by
  rw [timers_asked, Array.getElem?_push, size_timers_disarming] at h
  by_cases hnew : number = server.machine.timers.size
  · rw [if_pos hnew] at h
    exact ⟨hnew, (Option.some.inj h).symm⟩
  · rw [if_neg hnew] at h
    rw [tended.cancelled_disarming h] at harmed
    cases harmed

/-- A timer that did not start leaves none armed. -/
theorem untimed_cancelled (tended : Tended server) {target number : Nat} {signals : List Event}
    {timer : KillTimer}
    (h : (server.untimed target signals).machine.timers[number]? = some timer) :
    timer.cancelled = true := by
  rw [timers_untimed, Array.getElem?_push] at h
  split_ifs at h
  · rw [← Option.some.inj h]
  · exact tended.cancelled_disarming h

theorem stop (tended : Tended server) {outcome : Except Failure Unit} {after : ChildServer}
    (h : ChildServer.Stops server outcome after) : Tended after := by
  cases h with
  | idle => exact tended
  | failed => exact tended.quiet ⟨rfl, rfl, fun _ h => h⟩ ⟨rfl, rfl⟩
  | untimed target signals =>
    refine ⟨fun number h => ?_, fun number timer hget harmed => ?_⟩
    · rw [isAlive_untimed] at h
      exact tended.current_of_alive number h
    · rw [tended.untimed_cancelled hget] at harmed
      cases harmed
  | asked target signals =>
    refine ⟨fun number h => ?_, fun number timer hget harmed => ?_⟩
    · rw [isAlive_asked] at h
      exact tended.current_of_alive number h
    · -- The earlier timer was cancelled, even if its process is another one.
      obtain ⟨rfl, -⟩ := tended.asked_armed hget harmed
      rw [timer_asked]

theorem fire (tended : Tended server) {position : Int} {after : ChildServer}
    (h : ChildServer.Fires server position after) : Tended after :=
  tended.quiet (quiet_fires h) (keepsTimers_fires h)

theorem exit (tended : Tended server) (position code : Int) :
    Tended (ChildServer.exit position code server).state :=
  tended.quiet (quiet_exit server position code) (keepsTimers_exit server position code)

/-- **Every step** leaves a server tended. -/
theorem step (tended : Tended server) (step : Step) : Tended (step.report server).state := by
  have hunder := tended.under step.circumstances
  obtain ⟨circumstances, deed⟩ := step
  cases deed with
  | start directory level =>
    rw [Step.report, state_start]
    exact hunder.start (ChildServer.starts _ directory level)
  | stop => exact hunder.stop (ChildServer.stops _)
  | exit position code => exact hunder.exit position code
  | fire position => exact hunder.fire (ChildServer.fires _ position)

/-- **Every run** leaves a server tended. -/
theorem after (tended : Tended server) (steps : List Step) : Tended (after server steps) := by
  induction steps using List.reverseRecOn with
  | nil => exact tended
  | append_singleton steps step ih =>
    rw [after_append]
    exact ih.step step

end Tended

end Warden.Server
