import Mathlib.Data.List.Induction
import Warden.Proofs.Server.Run
import Warden.Proofs.Supervisor.Commands

/-!
# A supervisor of a child server

The outside world is a host: a child server, what blocks suspension, and a clock. The supervisor is
started, stopped and closed while processes end, timers go off, and the world around the server, the
clock and the inhibitor change by themselves.

## Main definitions

* `Host`, `Host.around`: the host as the surroundings of a supervisor
* `Turn`, `after`: runs of a supervisor on a host

## Main results

* `server_closed`, `server_opened`: the blocks do not touch the server
* `state_turn`: what a turn does to the server
-/

namespace Warden

open Warden.KeepAwake (Inhibitor)
open Warden.Numeric (Reading)
open Warden.Server

/-- A host: a child server, what blocks suspension, and a clock. -/
structure Host (τ : Type) where
  server : ChildServer
  lock : τ
  clock : Reading

/-- A host as the surroundings of a supervisor. -/
def Host.around {τ : Type} (inhibitor : Inhibitor τ) (interfaces : Network.Source (Host τ)) :
    Surroundings (Host τ) where
  service := ChildServer.service.within Host.server fun host server => { host with server }
  inhibitor := inhibitor.within Host.lock fun host lock => { host with lock }
  clock := Host.clock
  interfaces

namespace Supervisor

variable {τ : Type} (inhibitor : Inhibitor τ) (interfaces : Network.Source (Host τ))
  (supervised : Supervised (Host τ))

/-- The server that is supervised. -/
def serverOf (supervised : Supervised (Host τ)) : ChildServer :=
  supervised.awake.outside.server

/-- A supervisor of another server. -/
def withServer (server : ChildServer) : Supervised (Host τ) :=
  supervised.facing { supervised.awake.outside with server }

/-! ## The commands on a host -/

/-- Asking the server changes nothing. -/
@[simp] theorem questioned_host :
    questioned (Host.around inhibitor interfaces) supervised = supervised := rfl

/-- The server can always be asked. -/
@[simp] theorem outcome_isRunning_host :
    (isRunning (Host.around inhibitor interfaces) supervised).outcome =
      .ok (serverOf supervised).isRunning := by
  rw [outcome_isRunning]
  rfl

/-- A start asks the child server. -/
theorem outcome_answered (directory : Option String) (level : Int) :
    (answered (Host.around inhibitor interfaces) supervised directory level).outcome =
      (ChildServer.start directory level
        (serverOf (opened (Host.around inhibitor interfaces) supervised))).outcome := rfl

theorem told_host (directory : Option String) (level : Int) :
    told (Host.around inhibitor interfaces) supervised directory level =
      withServer (opened (Host.around inhibitor interfaces) supervised)
        (ChildServer.start directory level
          (serverOf (opened (Host.around inhibitor interfaces) supervised))).state := rfl

/-- A stop asks the child server if it runs, which it does not need to. -/
theorem state_halt_host :
    (halt (Host.around inhibitor interfaces) supervised).state =
      withServer supervised (ChildServer.stop (serverOf supervised)).state := by
  rw [state_halt, outcome_isRunning_host]
  cases hrun : (serverOf supervised).isRunning with
  | true => rfl
  | false =>
    -- A server that does not run ignores a stop, so the question before it does not matter.
    have hidle : (serverOf supervised).alive? = none := by
      simpa [ChildServer.isRunning] using hrun
    have hstop : ChildServer.stop (serverOf supervised) = ⟨.ok (), serverOf supervised, []⟩ := by
      simp [ChildServer.stop, Act.run_bind, hidle]
    rw [hstop]
    rfl

@[simp] theorem server_withServer (server : ChildServer) :
    serverOf (withServer supervised server) = server := rfl

/-! ## Blocks on a host -/

@[simp] theorem server_released :
    serverOf (released (Host.around inhibitor interfaces) supervised) = serverOf supervised := by
  rw [released, KeepAwake.state_release]
  split <;> rfl

/-- Closing the open blocks does not touch the server. -/
@[simp] theorem server_closed :
    serverOf (closed (Host.around inhibitor interfaces) supervised) = serverOf supervised := by
  rw [closed]
  split
  · rfl
  · exact server_released inhibitor interfaces supervised

/-- Closing the open blocks leaves no token, if it was held in an open block only. -/
theorem held_closed {ε : Type} (around : Surroundings ε) (supervised : Supervised ε)
    (hopen : supervised.awake.token.held → 0 < supervised.holds) :
    (closed around supervised).awake.token.held = false := by
  rw [closed, released, KeepAwake.state_release]
  by_cases hheld : supervised.awake.token.held
  · simp [hheld, Nat.ne_of_gt (hopen hheld)]
  · simp [hheld]

/-- Closing the open blocks does not touch the start. -/
@[simp] theorem startedAt_closed {ε : Type} (around : Surroundings ε) (supervised : Supervised ε) :
    (closed around supervised).startedAt = supervised.startedAt := by
  rw [closed]
  split <;> rfl

/-- Opening a block with an inhibitor that does not fail takes the token, and touches neither the
server, the clock nor the start. -/
theorem opened_host
    (hacquire : ∀ name lock, (inhibitor.acquire name lock).outcome = .ok ()) :
    (openBlock (Host.around inhibitor interfaces) supervised).outcome = .ok () ∧
      (opened (Host.around inhibitor interfaces) supervised).awake.token.held = true ∧
      0 < (opened (Host.around inhibitor interfaces) supervised).holds ∧
      (opened (Host.around inhibitor interfaces) supervised).startedAt = supervised.startedAt ∧
      serverOf (opened (Host.around inhibitor interfaces) supervised) = serverOf supervised ∧
      (opened (Host.around inhibitor interfaces) supervised).awake.outside.clock =
        supervised.awake.outside.clock := by
  have hasked : (KeepAwake.asked (Host.around inhibitor interfaces).inhibitor
      supervised.awake).outcome = .ok () := hacquire _ _
  have hserver : (KeepAwake.asked (Host.around inhibitor interfaces).inhibitor
      supervised.awake).state.server = supervised.awake.outside.server := rfl
  have hclock : (KeepAwake.asked (Host.around inhibitor interfaces).inhibitor
      supervised.awake).state.clock = supervised.awake.outside.clock := rfl
  rw [opened, questioned_host, outcome_openBlock, state_openBlock, KeepAwake.outcome_enter,
    KeepAwake.outcome_acquire, KeepAwake.state_acquire]
  by_cases hheld : supervised.awake.token.held
  · simp [hheld, Except.map, serverOf]
  · simp [hheld, hasked, hserver, hclock, Except.map, serverOf]

/-! ## Starts on a host -/

/-- The ways in which a start on a host ends, given what the child server does when it is started:
with the supervisor as it is afterwards. -/
inductive HostStarts (level : Int) (child : ChildServer) : Supervised (Host τ) → Prop
  /-- The child server is not asked. -/
  | skipped (hguard : isDebugLevel level = false ∨ (serverOf supervised).isRunning) :
      HostStarts level child supervised
  /-- Nothing is launched, and the open blocks are closed. -/
  | failed (after : Supervised (Host τ)) (hidle : (serverOf supervised).alive? = none)
      (hserver : serverOf after = child)
      (hjobs : child.machine.jobs = (serverOf supervised).machine.jobs)
      (hcurrent : child.current = (serverOf supervised).current)
      (hheld : after.awake.token.held = false)
      (hstarted : after.startedAt = supervised.startedAt) : HostStarts level child after
  /-- A process is launched in an open block. -/
  | launched (after : Supervised (Host τ)) (hserver : serverOf after = child)
      (hjobs : child.machine.jobs =
        (serverOf supervised).machine.jobs.push (serverOf supervised).machine.next)
      (hcurrent : child.current = some (serverOf supervised).machine.jobs.size)
      (hheld : after.awake.token.held = true) (hholds : 0 < after.holds)
      (hstarted : after.startedAt = some supervised.awake.outside.clock) :
      HostStarts level child after

/-- A start that the child server did not answer with zero. -/
theorem hostStarts_closed {directory : Option String} {level : Int}
    (hacquire : ∀ name lock, (inhibitor.acquire name lock).outcome = .ok ())
    (hrunning : (isRunning (Host.around inhibitor interfaces) supervised).outcome = .ok false)
    (hjobs : (ChildServer.start directory level (serverOf supervised)).state.machine.jobs =
      (serverOf supervised).machine.jobs)
    (hcurrent : (ChildServer.start directory level (serverOf supervised)).state.current =
      (serverOf supervised).current) :
    HostStarts supervised level (ChildServer.start directory level (serverOf supervised)).state
      (closed (Host.around inhibitor interfaces)
        (told (Host.around inhibitor interfaces) supervised directory level)) := by
  obtain ⟨-, -, hholds, hstarted, hserver, -⟩ :=
    opened_host inhibitor interfaces supervised hacquire
  rw [told_host, hserver]
  refine .failed _ ?_ ?_ hjobs hcurrent (held_closed _ _ fun _ => hholds) ?_
  · rw [outcome_isRunning_host] at hrunning
    simpa [ChildServer.isRunning] using Except.ok.inj hrunning
  · rw [server_closed, server_withServer]
  · rw [startedAt_closed]
    exact hstarted

/-- **A start on a host** ends in one of these ways, when the inhibitor does not fail to block
suspension. -/
theorem hostStarts (hacquire : ∀ name lock, (inhibitor.acquire name lock).outcome = .ok ())
    (directory : Option String) (level : Int)
    (hpossible : ChildServer.PossibleLaunch (serverOf supervised).machine.launchFailure
      (serverOf supervised).machine.threadFailure directory) :
    HostStarts supervised level (ChildServer.start directory level (serverOf supervised)).state
      (start (Host.around inhibitor interfaces) directory level supervised).state := by
  have hend := starts (Host.around inhibitor interfaces) supervised directory level
  generalize (start (Host.around inhibitor interfaces) directory level supervised).state = after
    at hend ⊢
  generalize (start (Host.around inhibitor interfaces) directory level supervised).outcome = outcome
    at hend
  obtain ⟨hopens, hheld, hholds, -, hserver, hclock⟩ :=
    opened_host inhibitor interfaces supervised hacquire
  have hanswered := outcome_answered inhibitor interfaces supervised directory level
  rw [hserver] at hanswered
  have hcases := ChildServer.starts_cases
    (ChildServer.starts (serverOf supervised) directory level) hpossible
  rw [← hanswered] at hcases
  -- The server can always be asked, a block can always be opened, and no start is interrupted.
  cases hend with
  | refused hlevel => exact .skipped (.inl hlevel)
  | running hlevel hrunning =>
    rw [outcome_isRunning_host] at hrunning
    exact .skipped (.inr (Except.ok.inj hrunning))
  | unquestioned failure hlevel hrunning =>
    rw [outcome_isRunning_host] at hrunning
    cases hrunning
  | unopened failure hlevel hrunning hblock =>
    rw [questioned_host, hopens] at hblock
    cases hblock
  | interrupted failure hlevel hrunning hblock hanswer hordinary =>
    rw [hanswer] at hcases
    rcases hcases with ⟨hzero, -⟩ | ⟨-, -, ⟨code, hcode, -⟩ | ⟨other, hother, hmild⟩⟩
    · cases hzero
    · cases hcode
    · obtain rfl := Except.error.inj hother
      rw [hmild] at hordinary
      cases hordinary
  | failed failure hlevel hrunning hblock hanswer =>
    rw [hanswer] at hcases
    rcases hcases with ⟨hzero, -⟩ | ⟨hjobs, hcurrent, -⟩
    · cases hzero
    · exact hostStarts_closed inhibitor interfaces supervised hacquire hrunning hjobs hcurrent
  | declined code hlevel hrunning hblock hanswer hcode =>
    rw [hanswer] at hcases
    rcases hcases with ⟨hzero, -⟩ | ⟨hjobs, hcurrent, -⟩
    · exact absurd (Except.ok.inj hzero) hcode
    · exact hostStarts_closed inhibitor interfaces supervised hacquire hrunning hjobs hcurrent
  | started hlevel hrunning hblock hanswer =>
    rw [hanswer] at hcases
    rcases hcases with ⟨-, hjobs, hcurrent⟩ | ⟨-, -, ⟨code, hcode, hne⟩ | ⟨failure, hfailed, -⟩⟩
    · refine .launched _ ?_ hjobs hcurrent hheld hholds ?_
      · rw [← hserver]
        rfl
      · rw [← hclock]
        rfl
    · exact absurd (Except.ok.inj hcode).symm hne
    · cases hfailed

/-! ## Runs -/

/-- What happens to a supervisor and its server. -/
inductive Happening where
  | start (directory : Option String) (level : Int)
  | stop
  | close
  /-- The process at a position ends by itself. -/
  | exit (position code : Int)
  /-- The timer at a position goes off. -/
  | fire (position : Int)

/-- The server is stopped. -/
def Happening.IsEnd : Happening → Prop
  | stop | close => True
  | _ => False

/-- A launch comes to something that launches may come to, and threads can be started for it. -/
def Happening.IsPossible (launchFailure threadFailure : Option Failure) : Happening → Prop
  | start directory _ => ChildServer.PossibleLaunch launchFailure threadFailure directory
  | _ => True

/-- Something that happens, with the world around the server, the clock, and how what blocks
suspension changed by itself. -/
structure Turn (τ : Type) where
  circumstances : Circumstances := {}
  clock : Reading
  change : τ → τ := id
  happening : Happening

/-- A turn in which the server is stopped. -/
def Turn.IsEnd (turn : Turn τ) : Prop :=
  turn.happening.IsEnd

/-- A turn in which a launch comes to something that launches may come to, and threads can be started
for it. -/
def Turn.IsPossible (turn : Turn τ) : Prop :=
  turn.happening.IsPossible turn.circumstances.launchFailure turn.circumstances.threadFailure

/-- An act on the server that is supervised. -/
def onServer {α : Type} (act : Act ChildServer α) : Act (Supervised (Host τ)) α :=
  outside (act.within Host.server fun host server => { host with server })

/-- What happens as an act. -/
def Happening.act : Happening → Act (Supervised (Host τ)) Unit
  | start directory level => Supervisor.start (Host.around inhibitor interfaces) directory level
  | stop => Supervisor.stop (Host.around inhibitor interfaces)
  | close => Supervisor.close (Host.around inhibitor interfaces)
  | exit position code => onServer (ChildServer.exit position code)
  | fire position => onServer (ChildServer.fire position)

/-- The host as a turn finds it. -/
def Turn.host (turn : Turn τ) (host : Host τ) : Host τ where
  server := host.server.under turn.circumstances
  lock := turn.change host.lock
  clock := turn.clock

/-- What a turn comes to. -/
def Turn.report (turn : Turn τ) : Report (Supervised (Host τ)) Unit :=
  turn.happening.act inhibitor interfaces
    (supervised.facing (turn.host supervised.awake.outside))

/-- The supervisor after a run on a host. -/
def afterTurns (turns : List (Turn τ)) : Supervised (Host τ) :=
  turns.foldl (fun supervised turn => (turn.report inhibitor interfaces supervised).state)
    supervised

@[simp] theorem afterTurns_nil : afterTurns inhibitor interfaces supervised [] = supervised := rfl

@[simp] theorem afterTurns_append (turns more : List (Turn τ)) :
    afterTurns inhibitor interfaces supervised (turns ++ more) =
      afterTurns inhibitor interfaces (afterTurns inhibitor interfaces supervised turns) more :=
  List.foldl_append

theorem afterTurns_cons (turn : Turn τ) (turns : List (Turn τ)) :
    afterTurns inhibitor interfaces supervised (turn :: turns) =
      afterTurns inhibitor interfaces (turn.report inhibitor interfaces supervised).state turns :=
  rfl

end Supervisor

end Warden
