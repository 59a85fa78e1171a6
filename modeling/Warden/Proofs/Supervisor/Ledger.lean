import Mathlib.Data.List.Induction
import Warden.Proofs.Supervisor.Commands

/-!
# The token is given back as often as it was taken

Whatever the server and the inhibitor answer, the inhibitor has been asked to let go as often as it
agreed to block suspension, or once less while the token is held. The outside world is one in which
these calls are counted; a run of the supervisor is followed on the ledger of the counts, the token
and the open blocks alone.

## Main definitions

* `Counted`, `Surroundings.counted`: an outside world in which calls are counted
* `Ledger`, `ledger`: what is kept of a supervisor in a counted world
* `Ledger.Balanced`: the invariant
* `Move`, `after`: runs of a supervisor

## Main results

* `starts_ledger`: what a start does to the ledger
* `Balanced.after`: the ledger is balanced in every run
* `token_balanced`: no token is kept, none is given back twice, for any server and any inhibitor
-/

namespace Warden

open Warden.Numeric (Reading)

/-- An outside world in which calls are counted. -/
structure Counted (ε : Type) where
  world : ε
  /-- How often the inhibitor agreed to block suspension. -/
  taken : Nat := 0
  /-- How often the inhibitor was asked to let go. -/
  given : Nat := 0
  /-- How often the server was asked to start. -/
  asked : Nat := 0

namespace Counted

variable {ε α : Type}

/-- An act on the outside world, uncounted. -/
def onWorld (act : Act ε α) : Act (Counted ε) α :=
  act.within world fun counted world => { counted with world }

/-- A server whose starts are counted. -/
def service (service : Server.Service ε) : Server.Service (Counted ε) where
  start directory level := do
    Act.modify fun counted => { counted with asked := counted.asked + 1 }
    onWorld (service.start directory level)
  stop := onWorld service.stop
  isRunning := onWorld service.isRunning
  webifPort := onWorld service.webifPort
  logLines wanted count := onWorld (service.logLines wanted count)

/-- An inhibitor whose calls are counted: successful ones to block suspension, and all to let go. -/
def inhibitor (inhibitor : KeepAwake.Inhibitor ε) : KeepAwake.Inhibitor (Counted ε) where
  acquire name := do
    onWorld (inhibitor.acquire name)
    Act.modify fun counted => { counted with taken := counted.taken + 1 }
  release := do
    Act.modify fun counted => { counted with given := counted.given + 1 }
    onWorld inhibitor.release

end Counted

/-- Surroundings in which calls are counted. -/
def Surroundings.counted {ε : Type} (around : Surroundings ε) : Surroundings (Counted ε) where
  service := Counted.service around.service
  inhibitor := Counted.inhibitor around.inhibitor
  clock counted := around.clock counted.world
  interfaces := around.interfaces.within Counted.world fun counted world => { counted with world }
  naming := around.naming

namespace Supervisor

variable {ε : Type}

/-! ## Ledgers -/

/-- What is kept of a supervisor in a counted world. -/
structure Ledger where
  held : Bool
  holds : Nat
  startedAt : Option Reading
  taken : Nat
  given : Nat
  asked : Nat

/-- The ledger of a supervisor. -/
def ledger (supervised : Supervised (Counted ε)) : Ledger where
  held := supervised.awake.token.held
  holds := supervised.holds
  startedAt := supervised.startedAt
  taken := supervised.awake.outside.taken
  given := supervised.awake.outside.given
  asked := supervised.awake.outside.asked

namespace Ledger

/-- The token was given back as often as it was taken, or once less while it is held; it is held in
an open block only. -/
structure Balanced (ledger : Ledger) : Prop where
  account : ledger.taken = ledger.given + if ledger.held then 1 else 0
  open_of_held : ledger.held → 0 < ledger.holds

/-- The ledger after the token was given back. -/
def release (ledger : Ledger) : Ledger :=
  if ledger.held then { ledger with held := false, given := ledger.given + 1 } else ledger

/-- The ledger after the open blocks were closed. -/
def close (ledger : Ledger) : Ledger :=
  { (if ledger.holds = 0 then ledger else ledger.release) with holds := 0 }

/-- The ways in which a block is opened. -/
inductive Opens (ledger : Ledger) : Ledger → Prop
  /-- The token is held already. -/
  | held (hheld : ledger.held) : Opens ledger { ledger with holds := ledger.holds + 1 }
  /-- The token is taken. -/
  | taken (hheld : ledger.held = false) :
      Opens ledger
        { ledger with held := true, holds := ledger.holds + 1, taken := ledger.taken + 1 }
  /-- The token is not available. -/
  | without (hheld : ledger.held = false) :
      Opens ledger { ledger with holds := ledger.holds + 1 }

theorem Balanced.opens {ledger after : Ledger} (balanced : ledger.Balanced)
    (h : ledger.Opens after) : after.Balanced := by
  obtain ⟨account, hopen⟩ := balanced
  cases h with
  | held hheld => exact ⟨account, fun _ => Nat.succ_pos _⟩
  | taken hheld =>
    refine ⟨?_, fun _ => Nat.succ_pos _⟩
    rw [hheld] at account
    simpa using account
  | without hheld => exact ⟨account, fun _ => Nat.succ_pos _⟩

theorem Balanced.release {ledger : Ledger} (balanced : ledger.Balanced) :
    ledger.release.Balanced := by
  obtain ⟨account, hopen⟩ := balanced
  rw [Ledger.release]
  split
  · next hheld =>
    rw [if_pos hheld] at account
    exact ⟨account, by simp⟩
  · exact ⟨account, hopen⟩

/-- Closing the open blocks leaves no token. -/
theorem Balanced.held_close {ledger : Ledger} (balanced : ledger.Balanced) :
    ledger.close.held = false := by
  rw [close]
  split
  · next hholds =>
    -- Without an open block the token was not held before.
    by_contra hheld
    have hopen := balanced.open_of_held (by simpa using hheld)
    omega
  · by_cases hheld : ledger.held <;> simp [Ledger.release, hheld]

theorem Balanced.close {ledger : Ledger} (balanced : ledger.Balanced) : ledger.close.Balanced where
  account := by
    rw [Ledger.close]
    split
    · exact balanced.account
    · exact balanced.release.account
  open_of_held h := by
    rw [balanced.held_close] at h
    cases h

end Ledger

/-! ## What the commands do to the ledger -/

variable (around : Surroundings ε) (supervised : Supervised (Counted ε))

/-- Asking whether the server runs is not counted. -/
theorem ledger_questioned : ledger (questioned around.counted supervised) = ledger supervised := rfl

theorem ledger_released :
    ledger (released around.counted supervised) = (ledger supervised).release := by
  rw [released, KeepAwake.state_release, Ledger.release, ledger]
  by_cases hheld : supervised.awake.token.held
  · simp [hheld, ledger, Surroundings.counted, Counted.inhibitor, Counted.onWorld]
  · simp [hheld, ledger]

theorem ledger_closed :
    ledger (closed around.counted supervised) = (ledger supervised).close := by
  rw [closed, Ledger.close, ← ledger_released around supervised]
  by_cases hholds : supervised.holds = 0 <;> simp [ledger, hholds]

/-- Counting does not change what the inhibitor answers. -/
theorem outcome_asked :
    (KeepAwake.asked around.counted.inhibitor supervised.awake).outcome =
      (around.inhibitor.acquire supervised.awake.token.name
        supervised.awake.outside.world).outcome := by
  rw [KeepAwake.asked, Surroundings.counted, Counted.inhibitor, Act.outcome_bind, Counted.onWorld,
    Act.run_within]
  cases (around.inhibitor.acquire supervised.awake.token.name
    supervised.awake.outside.world).outcome <;> rfl

/-- The inhibitor is counted when it agrees to block suspension. -/
theorem state_asked :
    (KeepAwake.asked around.counted.inhibitor supervised.awake).state =
      { supervised.awake.outside with
        world := (around.inhibitor.acquire supervised.awake.token.name
          supervised.awake.outside.world).state
        taken := match (around.inhibitor.acquire supervised.awake.token.name
            supervised.awake.outside.world).outcome with
          | .ok _ => supervised.awake.outside.taken + 1
          | .error _ => supervised.awake.outside.taken } := by
  rw [KeepAwake.asked, Surroundings.counted, Counted.inhibitor, Act.state_bind, Counted.onWorld,
    Act.run_within]
  cases (around.inhibitor.acquire supervised.awake.token.name
    supervised.awake.outside.world).outcome <;> rfl

/-- Opening a block, when it succeeds. -/
theorem opens_of_openBlock (hopen : (openBlock around.counted supervised).outcome = .ok ()) :
    (ledger supervised).Opens (ledger (openBlock around.counted supervised).state) := by
  obtain ⟨held, henter⟩ :
      ∃ held, (KeepAwake.enter around.counted.inhibitor supervised.awake).outcome = .ok held := by
    rw [outcome_openBlock] at hopen
    cases henter : (KeepAwake.enter around.counted.inhibitor supervised.awake).outcome with
    | ok held => exact ⟨held, rfl⟩
    | error failure => rw [henter] at hopen; cases hopen
  rw [state_openBlock, henter, KeepAwake.state_acquire]
  -- The inhibitor is asked only for a token that is not held.
  by_cases hheld : supervised.awake.token.held
  · rw [if_pos hheld]
    exact .held hheld
  · have hfree : (ledger supervised).held = false := Bool.eq_false_iff.mpr hheld
    rw [if_neg hheld, outcome_asked, state_asked]
    cases htake : (around.inhibitor.acquire supervised.awake.token.name
        supervised.awake.outside.world).outcome with
    | ok => exact .taken hfree
    | error failure =>
      have hend : (ledger supervised).Opens _ := .without hfree
      simpa [ledger, hheld] using hend

/-- Opening a block, when it fails. -/
theorem ledger_openBlock_error {failure : Failure}
    (hopen : (openBlock around.counted supervised).outcome = .error failure) :
    ledger (openBlock around.counted supervised).state = ledger supervised := by
  rw [outcome_openBlock, KeepAwake.outcome_enter] at hopen
  rw [state_openBlock, KeepAwake.outcome_enter, KeepAwake.state_acquire]
  rw [KeepAwake.outcome_acquire, outcome_asked] at hopen ⊢
  by_cases hheld : supervised.awake.token.held
  · simp [hheld, Except.map] at hopen
  · rw [if_neg hheld] at hopen ⊢
    rw [if_neg hheld, state_asked]
    cases htake : (around.inhibitor.acquire supervised.awake.token.name
        supervised.awake.outside.world).outcome with
    | ok => simp [htake, Except.map] at hopen
    | error other =>
      by_cases hmild : other.isUnavailable
      · simp [htake, hmild, Except.map] at hopen
      · simp [ledger, hheld, hmild]

/-- The ledger of a start that asked the server. -/
theorem ledger_told (directory : Option String) (level : Int) :
    ledger (told around.counted supervised directory level) =
      { ledger (opened around.counted supervised) with
        asked := (ledger (opened around.counted supervised)).asked + 1 } := by
  rw [told, answered, Surroundings.counted, Counted.service, Act.state_bind, Act.run_modify]
  rfl

/-- The ways in which a start ends, on the ledger. The first is a start that does not ask the
server. -/
inductive Ledger.Starts (ledger : Ledger) : Except Failure Unit → Ledger → Prop
  | unasked (outcome : Except Failure Unit) : Starts ledger outcome ledger
  /-- The start is interrupted. -/
  | interrupted (after : Ledger) (hopens : ledger.Opens after) (failure : Failure)
      (hordinary : Act.isOrdinary failure = false) :
      Starts ledger (.error failure) { after with asked := after.asked + 1 }
  /-- The start fails. -/
  | failed (after : Ledger) (hopens : ledger.Opens after) (failure : Failure) :
      Starts ledger (.error failure) (close { after with asked := after.asked + 1 })
  /-- The server starts. -/
  | started (after : Ledger) (hopens : ledger.Opens after) (moment : Reading) :
      Starts ledger (.ok ())
        { after with asked := after.asked + 1, startedAt := some moment }

theorem failing_eq_error (closing : Except Failure Unit) (failure : Failure) :
    ∃ other, failing closing failure = .error other := by
  cases closing <;> exact ⟨_, rfl⟩

/-- **A start** ends in one of these ways on the ledger. -/
theorem starts_ledger (directory : Option String) (level : Int) :
    (ledger supervised).Starts (start around.counted directory level supervised).outcome
      (ledger (start around.counted directory level supervised).state) := by
  have hend := starts around.counted supervised directory level
  generalize (start around.counted directory level supervised).outcome = outcome at hend ⊢
  generalize (start around.counted directory level supervised).state = after at hend ⊢
  have hopens : (openBlock around.counted (questioned around.counted supervised)).outcome = .ok () →
      (ledger supervised).Opens (ledger (opened around.counted supervised)) :=
    opens_of_openBlock around (questioned around.counted supervised)
  cases hend with
  | refused | unquestioned | running => exact .unasked _
  | unopened failure hlevel hrunning hopen =>
    rw [opened, ledger_openBlock_error around _ hopen]
    exact .unasked _
  | interrupted failure hlevel hrunning hopen hanswer hordinary =>
    rw [ledger_told]
    exact .interrupted _ (hopens hopen) failure hordinary
  | failed failure hlevel hrunning hopen | declined code hlevel hrunning hopen =>
    -- Closing the blocks may fail as well, which changes the failure but not the ledger.
    obtain ⟨other, hother⟩ := failing_eq_error
      (closeBlocks around.counted (told around.counted supervised directory level)).outcome _
    rw [ledger_closed, ledger_told, hother]
    exact .failed _ (hopens hopen) other
  | started hlevel hrunning hopen =>
    have hstarted (moment : Reading) :
        ledger { told around.counted supervised directory level with startedAt := some moment } =
          { ledger (told around.counted supervised directory level) with
            startedAt := some moment } := rfl
    rw [hstarted, ledger_told]
    exact .started _ (hopens hopen) _

/-- **A stop** closes the open blocks on the ledger and forgets the start. -/
theorem ledger_stop :
    ledger (stop around.counted supervised).state =
      ({ ledger supervised with startedAt := none } : Ledger).close := by
  have hforget : ledger { (halt around.counted supervised).state with startedAt := none } =
      { ledger (halt around.counted supervised).state with startedAt := none } := rfl
  have hhalt : ledger (halt around.counted supervised).state = ledger supervised := by
    rw [state_halt]
    split <;> rfl
  rw [state_stop, ledger_closed, hforget, hhalt]

/-- The end of a block under supervision is a stop. -/
theorem state_supervise {α : Type} (act : Act (Supervised (Counted ε)) α) :
    (supervise around.counted act supervised).state =
      (stop around.counted (act supervised).state).state := by
  rw [supervise, Act.state_always, close]

theorem Ledger.Balanced.starts {ledger after : Ledger} {outcome : Except Failure Unit}
    (balanced : ledger.Balanced) (h : ledger.Starts outcome after) : after.Balanced := by
  cases h with
  | unasked => exact balanced
  | interrupted opened hopens | started opened hopens =>
    exact ⟨(balanced.opens hopens).account, (balanced.opens hopens).open_of_held⟩
  | failed opened hopens =>
    exact Balanced.close ⟨(balanced.opens hopens).account, (balanced.opens hopens).open_of_held⟩

/-- The token is not held after a start that asked the server and failed. -/
theorem Ledger.Starts.held_of_error {ledger after : Ledger} {outcome : Except Failure Unit}
    (h : ledger.Starts outcome after) (balanced : ledger.Balanced)
    (hasked : after.asked ≠ ledger.asked) {failure : Failure} (hfailed : outcome = .error failure)
    (hordinary : Act.isOrdinary failure) : after.held = false := by
  cases h with
  | unasked => exact absurd rfl hasked
  | interrupted opened hopens other hother =>
    obtain rfl := Except.error.inj hfailed
    rw [hother] at hordinary
    cases hordinary
  | failed opened hopens =>
    obtain ⟨account, hopen⟩ := balanced.opens hopens
    exact Balanced.held_close ⟨account, hopen⟩
  | started => cases hfailed

/-- The token is held after a successful start that asked the server exactly if it was held before
or was taken during the start. -/
theorem Ledger.Starts.held_of_ok {ledger after : Ledger} {outcome : Except Failure Unit}
    (h : ledger.Starts outcome after) (hasked : after.asked ≠ ledger.asked)
    (hok : outcome = .ok ()) : after.held ↔ ledger.held ∨ ledger.taken < after.taken := by
  cases h with
  | unasked => exact absurd rfl hasked
  | interrupted | failed => cases hok
  | started opened hopens =>
    cases hopens with
    | held hheld => simp [hheld]
    | taken => simp
    | without hheld => simp [hheld]

theorem Ledger.Balanced.forget {ledger : Ledger} (balanced : ledger.Balanced) :
    ({ ledger with startedAt := none } : Ledger).Balanced :=
  ⟨balanced.account, balanced.open_of_held⟩

/-! ## Runs -/

/-- What happens to a supervisor. -/
inductive Move (ε : Type) where
  | start (directory : Option String) (level : Int)
  | stop
  | close
  /-- The block under supervision ends. -/
  | leave
  /-- The outside world changes by itself. -/
  | meanwhile (change : ε → ε)

/-- A move ends with the server stopped. -/
def Move.IsEnd : Move ε → Prop
  | stop | close | leave => True
  | _ => False

/-- A move as an act in counted surroundings. -/
def Move.act : Move ε → Act (Supervised (Counted ε)) Unit
  | start directory level => Supervisor.start around.counted directory level
  | stop => Supervisor.stop around.counted
  | close => Supervisor.close around.counted
  | leave => supervise around.counted (pure ())
  | meanwhile change =>
    outside (Act.modify fun counted => { counted with world := change counted.world })

/-- A supervisor that has just been set up, with a token of a name. -/
def fresh (name : String) (world : ε) : Supervised (Counted ε) where
  awake := { token := { name }, outside := { world } }

/-- The supervisor after a run. -/
def after (supervised : Supervised (Counted ε)) (moves : List (Move ε)) :
    Supervised (Counted ε) :=
  moves.foldl (fun supervised move => (move.act around supervised).state) supervised

/-- The moves that end with the server stopped close the open blocks. -/
theorem ledger_end {move : Move ε} (hend : move.IsEnd) :
    ledger (move.act around supervised).state =
      ({ ledger supervised with startedAt := none } : Ledger).close := by
  cases move with
  | stop | close => exact ledger_stop around supervised
  | leave => rw [Move.act, state_supervise]; exact ledger_stop around supervised
  | start | meanwhile => exact hend.elim

theorem balanced_end {move : Move ε} (hend : move.IsEnd)
    (balanced : (ledger supervised).Balanced) :
    (ledger (move.act around supervised).state).Balanced := by
  rw [ledger_end around supervised hend]
  exact balanced.forget.close

/-- **Every move** leaves the ledger balanced. -/
theorem balanced_move (move : Move ε) (balanced : (ledger supervised).Balanced) :
    (ledger (move.act around supervised).state).Balanced := by
  cases move with
  | start directory level => exact balanced.starts (starts_ledger around supervised directory level)
  | stop | close | leave => exact balanced_end around supervised (by trivial) balanced
  | meanwhile change => exact balanced

/-- **Every run** leaves the ledger balanced. -/
theorem balanced_after (moves : List (Move ε)) (balanced : (ledger supervised).Balanced) :
    (ledger (after around supervised moves)).Balanced := by
  induction moves using List.reverseRecOn with
  | nil => exact balanced
  | append_singleton moves move ih =>
    rw [after, List.foldl_append]
    exact balanced_move around _ move ih

/-- **The token is given back as often as it was taken**, for any server and any inhibitor. After
every run the inhibitor was asked to let go as often as it agreed to block suspension, or once less
while the token is held. In the next move the token is not held after a stop, a close or the end of
a block, nor after a start that asked the server and failed; after a start that asked the server and
succeeded it is held exactly if it was held before or the inhibitor agreed during the start. A start
with a wrong debug level changes nothing, and one that finds the server running changes neither the
token nor the counts. -/
theorem token_balanced (around : Surroundings ε) (name : String) (world : ε)
    (moves : List (Move ε)) :
    let supervised := after around (fresh name world) moves
    (supervised.awake.outside.taken =
      supervised.awake.outside.given + if supervised.awake.token.held then 1 else 0) ∧
    (∀ move : Move ε, move.IsEnd →
      (move.act around supervised).state.awake.token.held = false) ∧
    ∀ directory level,
      let report := (Move.start directory level).act around supervised
      (report.state.awake.outside.asked ≠ supervised.awake.outside.asked →
        (∀ failure, report.outcome = .error failure → Act.isOrdinary failure →
          report.state.awake.token.held = false) ∧
        (report.outcome = .ok () → (report.state.awake.token.held ↔
          supervised.awake.token.held ∨
            supervised.awake.outside.taken < report.state.awake.outside.taken))) ∧
      (isDebugLevel level = false →
        report.outcome = .error (.debugLevel level) ∧ report.state = supervised) ∧
      (isDebugLevel level →
        (around.service.isRunning supervised.awake.outside.world).outcome = .ok true →
        report.outcome = .ok () ∧ ledger report.state = ledger supervised) := by
  intro supervised
  have balanced : (ledger supervised).Balanced :=
    balanced_after around (fresh name world) moves ⟨rfl, fun h => by cases h⟩
  refine ⟨balanced.account, fun move hend => ?_, fun directory level => ?_⟩
  · have hheld := balanced.forget.held_close
    rw [← ledger_end around supervised hend] at hheld
    exact hheld
  · intro report
    have hstarts : (ledger supervised).Starts report.outcome (ledger report.state) :=
      starts_ledger around supervised directory level
    refine ⟨fun hasked => ⟨fun failure hfailed hordinary =>
        hstarts.held_of_error balanced hasked hfailed hordinary,
      fun hok => hstarts.held_of_ok hasked hok⟩, fun hlevel => ?_, fun hlevel hrunning => ?_⟩
    · have hrefused : report = ⟨.error (.debugLevel level), supervised, []⟩ := by
        simp only [report, Move.act]
        simp [start, Act.run_bind, hlevel]
      rw [hrefused]
      exact ⟨rfl, rfl⟩
    · have hasked : (isRunning around.counted supervised).outcome = .ok true := by
        rw [outcome_isRunning]
        simp [Surroundings.counted, Counted.service, Counted.onWorld, hrunning]
      have hskipped : report.outcome = .ok () ∧
          report.state = questioned around.counted supervised := by
        simp only [report, Move.act]
        simp [start, hlevel, hasked, state_isRunning, questioned]
      rw [hskipped.2]
      exact ⟨hskipped.1, ledger_questioned around supervised⟩

end Supervisor

end Warden
