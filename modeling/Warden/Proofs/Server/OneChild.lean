import Warden.Proofs.Server.Run

/-!
# One process, and timers that kill the right one

At most one process that a server launched is alive, and it is the current one. Only the current
process is ever asked to terminate, and only while it is alive. A timer outlives the process it was
armed for and is not cancelled by the next launch; still it kills no process but the one it was
armed for, which an earlier stop found alive.

## Main definitions

* `Machine.Armed`: a timer that is armed for a process
* `Signalled server steps number`: a stop in a run found a process alive and signalled it

## Main results

* `events_step`: what is done to the machine in one step
* `signalled_of_timer`: every timer was armed by a stop that signalled its process
* `one_child`: at most one process, at most one armed timer, and no signal to any other process
-/

namespace Warden.Server

/-- A timer is armed for a process. -/
def Machine.Armed (machine : Machine) (timer target : Nat) : Prop :=
  machine.timers[timer]? = some { target }

/-- A request to terminate. -/
def Event.IsSignal : Event → Prop
  | groupTerminated _ | terminated _ => True
  | _ => False

/-- A stop of a server found a process alive and signalled it. -/
def StopSignals (server : ChildServer) (step : Step) (number : Nat) : Prop :=
  step.deed = .stop ∧ server.alive? = some number ∧
    ∃ events, (step.report server).state.machine.events = events ++ server.machine.events ∧
      ∃ event ∈ events, event.Asks (server.machine.job number)

/-- A stop in a run found a process alive and signalled it. -/
def Signalled (server : ChildServer) (steps : List Step) (number : Nat) : Prop :=
  ∃ earlier step later, steps = earlier ++ step :: later ∧
    StopSignals (after server earlier) step number

theorem Signalled.append {server : ChildServer} {steps : List Step} {number : Nat}
    (h : Signalled server steps number) (more : List Step) :
    Signalled server (steps ++ more) number := by
  obtain ⟨earlier, step, later, rfl, hstop⟩ := h
  exact ⟨earlier, step, later ++ more, by simp, hstop⟩

/-! ## What a step does to the machine -/

/-- The events of a stop that asked a process to terminate and cancelled the earlier timer, the last
one first. -/
def untimedEvents (server : ChildServer) (signals : List Event) : List Event :=
  (server.timer.map fun _ => Event.disarmed).toList ++ signals

/-- The events of a stop that asked a process to terminate and armed a timer, the last one first. -/
def askedEvents (server : ChildServer) (signals : List Event) : List Event :=
  .armed server.grace :: untimedEvents server signals

theorem mem_untimedEvents {server : ChildServer} {signals : List Event} {event : Event}
    (h : event ∈ untimedEvents server signals) : event = .disarmed ∨ event ∈ signals := by
  rw [untimedEvents, List.mem_append] at h
  rcases h with h | h
  · cases htimer : server.timer with
    | none => simp [htimer] at h
    | some timer => exact .inl (by simpa [htimer] using h)
  · exact .inr h

theorem events_untimed (server : ChildServer) (target : Nat) (signals : List Event) :
    (server.untimed target signals).machine.events =
      untimedEvents server signals ++ server.machine.events := by
  cases htimer : server.timer <;>
    simp [ChildServer.untimed, ChildServer.retimed, Machine.adding, Machine.disarming,
      Machine.noting, untimedEvents, htimer]

theorem events_asked (server : ChildServer) (target : Nat) (signals : List Event) :
    (server.asked target signals).machine.events =
      askedEvents server signals ++ server.machine.events :=
  congrArg (Event.armed server.grace :: ·) (events_untimed server target signals)

/-- A start records launches only. -/
theorem events_starts {server after : ChildServer} {directory : Option String} {level : Int}
    {outcome : Except Failure Int}
    (h : ChildServer.Starts server directory level outcome after) :
    ∃ events, after.machine.events = events ++ server.machine.events ∧
      ∀ event ∈ events, ∃ arguments place, event = .launched arguments place := by
  cases h with
  | running | unresolved | missing | unwritten | unplaced => exact ⟨[], rfl, by simp⟩
  | failed path place | unread path place | unheard path place | launched path place =>
    exact ⟨[_], rfl, fun event h => ⟨_, place, List.mem_singleton.mp h⟩⟩

/-- A stop signals the process that it finds alive. -/
theorem events_stops {server after : ChildServer} {outcome : Except Failure Unit}
    (h : ChildServer.Stops server outcome after) :
    ∃ events, after.machine.events = events ++ server.machine.events ∧
      (∀ event ∈ events, event.IsSignal →
        ∃ number, server.alive? = some number ∧ event.Asks (server.machine.job number)) ∧
      ∀ pid, .killed pid ∉ events := by
  cases h with
  | idle => exact ⟨[], rfl, by simp, by simp⟩
  | failed number signals failure halive hasks =>
    exact ⟨signals, rfl, fun event h _ => ⟨number, halive, hasks event h⟩,
      fun pid h => hasks _ h⟩
  | untimed number signals failure halive hasks =>
    refine ⟨_, events_untimed server number signals, fun event h hsignal => ?_, fun pid h => ?_⟩
    · rcases mem_untimedEvents h with rfl | hmem
      · exact hsignal.elim
      · exact ⟨number, halive, hasks event hmem⟩
    · exact hasks _ ((mem_untimedEvents h).resolve_left nofun)
  | asked number signals halive hasks =>
    refine ⟨_, events_asked server number signals, fun event h hsignal => ?_, fun pid h => ?_⟩
    · rcases List.mem_cons.mp h with rfl | hmem
      · exact hsignal.elim
      · rcases mem_untimedEvents hmem with rfl | hmem
        · exact hsignal.elim
        · exact ⟨number, halive, hasks event hmem⟩
    · have hmem := (List.mem_cons.mp h).resolve_left nofun
      exact hasks _ ((mem_untimedEvents hmem).resolve_left nofun)

/-- A timer kills the process it was armed for. -/
theorem events_fires {server after : ChildServer} {position : Int}
    (h : ChildServer.Fires server position after) :
    ∃ events, after.machine.events = events ++ server.machine.events ∧
      (∀ event ∈ events, ¬ event.IsSignal) ∧
      ∀ pid, .killed pid ∈ events → ∃ timer target,
        numberAt position server.machine.timers.size = .ok timer ∧
        server.machine.Armed timer target ∧ server.machine.isAlive target ∧
        pid = (server.machine.job target).pid := by
  cases h with
  | nothing => exact ⟨[], rfl, by simp, by simp⟩
  | failed number timer hposition htimer harmed halive
  | killed number timer hposition htimer harmed halive =>
    refine ⟨[_], rfl, fun event h => ?_, fun pid h => ?_⟩
    · rw [List.mem_singleton.mp h]
      exact id
    · obtain ⟨rfl⟩ := List.mem_singleton.mp h
      refine ⟨number, timer.target, hposition, ?_, halive, rfl⟩
      rw [Machine.Armed, htimer, ← harmed]

/-- **What a step does to the machine**: only a stop sends signals, to the process that it finds
alive, and only a timer kills, the process it was armed for. -/
theorem events_step (server : ChildServer) (step : Step) :
    ∃ events, (step.report server).state.machine.events = events ++ server.machine.events ∧
      (∀ event ∈ events, event.IsSignal → step.deed = .stop ∧
        ∃ number, server.alive? = some number ∧ event.Asks (server.machine.job number)) ∧
      ∀ pid, .killed pid ∈ events → ∃ position timer target, step.deed = .fire position ∧
        numberAt position server.machine.timers.size = .ok timer ∧
        server.machine.Armed timer target ∧ server.machine.isAlive target ∧
        pid = (server.machine.job target).pid := by
  obtain ⟨circumstances, deed⟩ := step
  cases deed with
  | start directory level =>
    obtain ⟨events, hevents, hlaunches⟩ :=
      events_starts (ChildServer.starts (server.under circumstances) directory level)
    refine ⟨events, by rw [Step.report, state_start, hevents]; rfl, fun event h hsignal => ?_,
      fun pid h => ?_⟩
    · obtain ⟨arguments, place, rfl⟩ := hlaunches event h
      exact hsignal.elim
    · obtain ⟨arguments, place, heq⟩ := hlaunches _ h
      cases heq
  | stop =>
    obtain ⟨events, hevents, hsignals, hkills⟩ :=
      events_stops (ChildServer.stops (server.under circumstances))
    refine ⟨events, hevents, fun event h hsignal => ⟨rfl, ?_⟩, fun pid h => absurd h (hkills pid)⟩
    obtain ⟨number, halive, hasks⟩ := hsignals event h hsignal
    rw [alive?_under] at halive
    exact ⟨number, halive, hasks.of_under⟩
  | exit position code =>
    refine ⟨[], ?_, by simp, by simp⟩
    rw [Step.report, Deed.act, ChildServer.state_exit]
    cases numberAt position (server.under circumstances).machine.jobs.size <;> rfl
  | fire position =>
    obtain ⟨events, hevents, hsignals, hkills⟩ :=
      events_fires (ChildServer.fires (server.under circumstances) position)
    refine ⟨events, hevents, fun event h hsignal => absurd hsignal (hsignals event h),
      fun pid h => ?_⟩
    obtain ⟨timer, target, hposition, harmed, halive, hpid⟩ := hkills pid h
    rw [machine_under, isAlive_under] at halive
    rw [machine_under, pid_job_under] at hpid
    exact ⟨position, timer, target, rfl, hposition, harmed, halive, hpid⟩

/-! ## Where timers come from -/

/-- Cancelling a timer leaves its target. -/
theorem target_of_disarming {machine : Machine} {cancelled : Option Nat} {number : Nat}
    {timer : KillTimer} (hget : (machine.disarming cancelled).timers[number]? = some timer) :
    ∃ earlier, machine.timers[number]? = some earlier ∧ earlier.target = timer.target := by
  cases cancelled with
  | none => exact ⟨timer, hget, rfl⟩
  | some last =>
    rw [Machine.disarming, Array.getElem?_modify] at hget
    by_cases heq : last = number
    · rw [if_pos heq, Option.map_eq_some_iff] at hget
      obtain ⟨earlier, hearlier, rfl⟩ := hget
      exact ⟨earlier, hearlier, rfl⟩
    · rw [if_neg heq] at hget
      exact ⟨timer, hget, rfl⟩

/-- One timer more than after cancelling one: it was there before, or it is the new one. -/
theorem target_of_push {server : ChildServer} {added timer : KillTimer} {number : Nat}
    (hget : ((server.machine.disarming server.timer).timers.push added)[number]? = some timer) :
    (∃ earlier, server.machine.timers[number]? = some earlier ∧ earlier.target = timer.target) ∨
      timer = added := by
  rw [Array.getElem?_push] at hget
  split_ifs at hget
  · exact .inr (Option.some.inj hget).symm
  · exact .inl (target_of_disarming hget)

/-- A timer after a stop was there before, or it was meant for the process that the stop
signalled. -/
theorem target_of_stops {server after : ChildServer} {outcome : Except Failure Unit}
    (h : ChildServer.Stops server outcome after) {number : Nat} {timer : KillTimer}
    (hget : after.machine.timers[number]? = some timer) :
    (∃ earlier, server.machine.timers[number]? = some earlier ∧ earlier.target = timer.target) ∨
      server.alive? = some timer.target ∧ ∃ events,
        after.machine.events = events ++ server.machine.events ∧
          ∃ event ∈ events, event.Asks (server.machine.job timer.target) := by
  cases h with
  | idle | failed => exact .inl ⟨timer, hget, rfl⟩
  | untimed target signals failure halive hasks hne =>
    rw [timers_untimed] at hget
    refine (target_of_push hget).imp_right ?_
    rintro rfl
    obtain ⟨event, rest, rfl⟩ := List.exists_cons_of_ne_nil hne
    refine ⟨halive, _, events_untimed .., event, ?_, hasks event (by simp)⟩
    simp [untimedEvents]
  | asked target signals halive hasks hne =>
    rw [timers_asked] at hget
    refine (target_of_push hget).imp_right ?_
    rintro rfl
    obtain ⟨event, rest, rfl⟩ := List.exists_cons_of_ne_nil hne
    refine ⟨halive, _, events_asked .., event, ?_, hasks event (by simp)⟩
    simp [askedEvents, untimedEvents]

/-- A step keeps the targets of the timers; a new timer is armed by a stop, for the process that it
found alive and signalled. -/
theorem target_of_step (server : ChildServer) (step : Step) (number : Nat) (timer : KillTimer)
    (h : (step.report server).state.machine.timers[number]? = some timer) :
    (∃ earlier, server.machine.timers[number]? = some earlier ∧ earlier.target = timer.target) ∨
      StopSignals server step timer.target := by
  obtain ⟨circumstances, deed⟩ := step
  cases deed with
  | start directory level =>
    rw [Step.report, state_start, (keepsTimers_starts (ChildServer.starts ..)).timers_eq] at h
    exact .inl ⟨timer, h, rfl⟩
  | stop =>
    rcases target_of_stops (ChildServer.stops (server.under circumstances)) h with
      hold | ⟨halive, events, hevents, event, hmem, hasks⟩
    · exact .inl hold
    · rw [alive?_under] at halive
      exact .inr ⟨rfl, halive, events, hevents, event, hmem, hasks.of_under⟩
  | exit position code =>
    rw [Step.report, Deed.act, (keepsTimers_exit ..).timers_eq] at h
    exact .inl ⟨timer, h, rfl⟩
  | fire position =>
    rw [Step.report, Deed.act, (keepsTimers_fires (ChildServer.fires ..)).timers_eq] at h
    exact .inl ⟨timer, h, rfl⟩

/-- **Every timer** of a run was armed by a stop that found its process alive and signalled it. -/
theorem signalled_of_timer {server : ChildServer} (hnone : server.machine.timers = #[])
    (steps : List Step) {number : Nat} {timer : KillTimer}
    (h : (after server steps).machine.timers[number]? = some timer) :
    Signalled server steps timer.target := by
  induction steps using List.reverseRecOn generalizing timer with
  | nil => simp [hnone] at h
  | append_singleton steps step ih =>
    rw [after_append, after_singleton] at h
    -- The last step armed the timer, or an earlier one did, with the same target.
    rcases target_of_step _ step number timer h with ⟨earlier, hearlier, htarget⟩ | hstop
    · rw [← htarget]
      exact (ih hearlier).append [step]
    · exact ⟨steps, step, [], rfl, hstop⟩

/-! ## One process -/

/-- After a stop that found a process alive and succeeded, one timer is armed, a new one for that
process. -/
theorem armed_of_stop {server : ChildServer} (tended : Tended server) {step : Step} {number : Nat}
    (hstop : step.deed = .stop) (halive : server.alive? = some number)
    (hok : (step.report server).outcome = .ok ()) (timer target : Nat) :
    (step.report server).state.machine.Armed timer target ↔
      timer = server.machine.timers.size ∧ target = number := by
  obtain ⟨circumstances, deed⟩ := step
  obtain rfl : deed = .stop := hstop
  rw [← alive?_under circumstances] at halive
  have hend := ChildServer.stops (server.under circumstances)
  rw [Step.report, Deed.act] at hok ⊢
  generalize (ChildServer.stop (server.under circumstances)).state = after at hend ⊢
  rw [hok] at hend
  cases hend with
  | idle hidle => rw [hidle] at halive; cases halive
  | asked found signals hfound =>
    obtain rfl : found = number := Option.some.inj (hfound.symm.trans halive)
    constructor
    · intro harmed
      obtain ⟨rfl, heq⟩ := (tended.under circumstances).asked_armed harmed rfl
      exact ⟨rfl, congrArg KillTimer.target heq⟩
    · rintro ⟨rfl, rfl⟩
      rw [Machine.Armed, timers_asked, Array.getElem?_push, size_timers_disarming]
      exact if_pos rfl

/-- A timer that goes off ends no process but the one it was armed for. -/
theorem ended_of_fires {server after : ChildServer} {position : Int}
    (h : ChildServer.Fires server position after) {number : Nat}
    (halive : server.machine.isAlive number) (hended : ¬ after.machine.isAlive number) :
    ∃ timer, numberAt position server.machine.timers.size = .ok timer ∧
      server.machine.Armed timer number := by
  cases h with
  | nothing => exact absurd halive hended
  | failed => exact absurd halive hended
  | killed fired timer hposition htimer harmed =>
    rw [Machine.isAlive_ending, Machine.isAlive_noting, halive] at hended
    have htarget : number = timer.target := by simpa using hended
    refine ⟨fired, hposition, ?_⟩
    rw [Machine.Armed, htimer, htarget, ← harmed]

/-- **One process, and timers that kill the right one.** After every run at most one process is
alive, the current one, and at most one timer is armed, the last one; a stop that finds a process
alive and succeeds leaves exactly one timer armed, a new one for that process. In the next step,
only a stop asks a process to terminate, and only the one that is alive. Only a timer kills a
process, the one it was armed for, which is alive and which an earlier stop found alive and
signalled; and a timer ends no other process. -/
theorem one_child (program : String) (ring : ServerLog.Ring) (grace : Numeric.Reading)
    (steps : List Step) :
    let server := after (.fresh program ring grace) steps
    (∀ number, server.machine.isAlive number → server.current = some number) ∧
    (∀ timer target, server.machine.Armed timer target → server.timer = some timer) ∧
    (∀ (step : Step) number, step.deed = .stop → server.alive? = some number →
      (step.report server).outcome = .ok () →
      ∀ timer target, (step.report server).state.machine.Armed timer target ↔
        timer = server.machine.timers.size ∧ target = number) ∧
    (∀ step : Step, ∃ events,
      (step.report server).state.machine.events = events ++ server.machine.events ∧
      (∀ event ∈ events, event.IsSignal → step.deed = .stop ∧
        ∃ number, server.alive? = some number ∧ event.Asks (server.machine.job number)) ∧
      ∀ pid, .killed pid ∈ events → ∃ position timer target, step.deed = .fire position ∧
        numberAt position server.machine.timers.size = .ok timer ∧
        server.machine.Armed timer target ∧ pid = (server.machine.job target).pid ∧
        server.alive? = some target ∧ Signalled (.fresh program ring grace) steps target) ∧
    ∀ (step : Step) position number, step.deed = .fire position → server.alive? = some number →
      (step.report server).state.alive? = none →
      ∃ timer, numberAt position server.machine.timers.size = .ok timer ∧
        server.machine.Armed timer number ∧
        Signalled (.fresh program ring grace) steps number := by
  intro server
  have tended : Tended server := (tended_fresh program ring grace).after steps
  -- The timers remember their targets, so a restart does not redirect them.
  have hsignalled : ∀ timer target, server.machine.Armed timer target →
      Signalled (.fresh program ring grace) steps target :=
    fun timer target harmed => signalled_of_timer rfl steps harmed
  refine ⟨tended.current_of_alive, fun timer target harmed => tended.last_of_armed _ _ harmed rfl,
    fun step number hstop halive hok => armed_of_stop tended hstop halive hok, fun step => ?_,
    fun step position number hfire halive hnone => ?_⟩
  · obtain ⟨events, hevents, hsignals, hkills⟩ := events_step server step
    refine ⟨events, hevents, hsignals, fun pid h => ?_⟩
    obtain ⟨position, timer, target, hfire, hposition, harmed, halive, hpid⟩ := hkills pid h
    exact ⟨position, timer, target, hfire, hposition, harmed, hpid, tended.alive?_iff.mpr halive,
      hsignalled timer target harmed⟩
  · have hended := (tended.step step).not_alive hnone number
    obtain ⟨circumstances, deed⟩ := step
    obtain rfl : deed = .fire position := hfire
    have hbefore : (server.under circumstances).machine.isAlive number := by
      rw [machine_under, isAlive_under]
      exact tended.alive?_iff.mp halive
    obtain ⟨timer, hposition, harmed⟩ :=
      ended_of_fires (ChildServer.fires (server.under circumstances) position) hbefore hended
    exact ⟨timer, hposition, harmed, hsignalled timer number harmed⟩

end Warden.Server
