import Mathlib.Tactic.Common
import Warden.Proofs.Act.Keeps
import Warden.Schedule.Agenda

/-!
# A chronicle of cadences

The callback of a cadence may do something else on each call: start and cancel its own cadence any
number of times, and then return, fail, or pause and then return or fail. What is ordered and what
the loops make of it is told in a chronicle, the latest entry first: which starts and cancels were
ordered, and when calls of callbacks began, were completed, or were interrupted.

## Main definitions

* `Conduct`, `perform`: what a call does
* `Entry`: an entry of the chronicle
* `tidings`: what an event on the timeline adds to the chronicle
* `Account`: an agenda with its chronicle
* `Order`, `Account.follow`, `Account.after`: what is ordered from outside

## Main results

* `agenda_follow`, `agenda_after`: the agenda beside the chronicle is what the orders make of it
-/

namespace Warden.Schedule

open Warden.Numeric

/-- What a call asks for its own cadence. -/
inductive Request where
  | start
  | cancel
  deriving DecidableEq

/-- How a call comes to its end: it returns, it fails, or it pauses and may fail after that. -/
inductive Ending where
  | returns
  | raises (failure : Failure)
  | pauses (delay : Reading) (failure : Option Failure)

/-- How long a call pauses. -/
def Ending.delay? : Ending → Option Reading
  | returns | raises _ => none
  | pauses delay _ => some delay

/-- What one call of a callback does. -/
structure Conduct where
  requests : List Request := []
  ending : Ending := .returns

namespace Conduct

/-- No failure of a call is a cancelled wait. -/
def IsOrdinary (conduct : Conduct) : Prop :=
  match conduct.ending with
  | .returns => True
  | .raises failure => failure.isCancelled = false
  | .pauses _ failure => ∀ f ∈ failure, f.isCancelled = false

/-- The call cancels its own cadence and starts it again after all. -/
def restarts (conduct : Conduct) : Bool :=
  .cancel ∈ conduct.requests ∧ conduct.requests.getLast? = some .start

/-- The call is not over at once. -/
def takesTime (conduct : Conduct) (now : Seconds) : Bool :=
  match conduct.ending with
  | .returns | .raises _ => false
  | .pauses delay _ => (Wake.after? now delay).isSome

end Conduct

/-- An entry of the chronicle. -/
inductive Entry (κ : Type) where
  /-- A start was ordered. -/
  | started (key : κ)
  /-- A cancel was ordered. -/
  | cancelled (key : κ)
  /-- A call began in a loop. -/
  | began (key : κ) (loop : Nat) (moment : Seconds) (conduct : Conduct)
  /-- The call in a loop returned or failed. -/
  | completed (key : κ) (loop : Nat) (moment : Seconds)
  /-- The call in a loop was interrupted. -/
  | interrupted (key : κ) (loop : Nat) (moment : Seconds)

/-- The loop that an entry is about. -/
def Entry.loop? {κ : Type} : Entry κ → Option Nat
  | started _ | cancelled _ => none
  | began _ loop _ _ | completed _ loop _ | interrupted _ loop _ => some loop

/-- A request of a call in the chronicle. -/
def Request.entry {κ : Type} (key : κ) : Request → Entry κ
  | start => .started key
  | cancel => .cancelled key

variable {κ : Type} [DecidableEq κ]

/-- A request as an act. -/
def Request.act {σ : Type} (key : κ) : Request → Act (Agenda κ σ) Unit
  | start => Agenda.start key
  | cancel => Agenda.cancel key

/-- A world that counts the calls of every callback. -/
abbrev Calls (κ : Type) := κ → Nat

/-- One more call of the callback of a cadence. -/
def perform (conduct : κ → Nat → Conduct) (key : κ) : Act (Agenda κ (Calls κ)) (Option Pause) := do
  let call ← Act.view (·.world key)
  Agenda.onWorld (Act.modify fun calls => Function.update calls key (call + 1))
  (conduct key call).requests.forM (Request.act key)
  match (conduct key call).ending with
  | .returns => return none
  | .raises failure => Act.fail failure
  | .pauses delay failure => return some { delay, failure }

/-- What a call adds to the chronicle in its first turn: it begins, makes its requests, and is
completed unless it takes time. -/
def callTidings (key : κ) (loop : Nat) (now : Seconds) (conduct : Conduct) : List (Entry κ) :=
  (if conduct.takesTime now then [] else [.completed key loop now]) ++
    ((conduct.requests.map (Request.entry key)).reverse ++ [.began key loop now conduct])

/-- What an event adds to the chronicle. -/
def tidings (conduct : κ → Nat → Conduct) (agenda : Agenda κ (Calls κ)) :
    Event → List (Entry κ)
  | .turn number =>
    match agenda.timeline.loops[number]? with
    | none => []
    | some loop =>
      match loop.phase, loop.cancelled with
      | .ended _, _ => []
      | .pausing _, true => [.interrupted loop.owner number agenda.timeline.now]
      | .fresh, true | .resting, true => []
      | .pausing _, false => [.completed loop.owner number agenda.timeline.now]
      | .fresh, false | .resting, false =>
        callTidings loop.owner number agenda.timeline.now
          (conduct loop.owner (agenda.world loop.owner))
  | .alarm _ | .resume => []

/-- An agenda with its chronicle, the latest entry first. -/
structure Account (κ : Type) where
  agenda : Agenda κ (Calls κ)
  entries : List (Entry κ) := []

/-- What is ordered from outside. -/
inductive Order (κ : Type) where
  | start (key : κ)
  | cancel (key : κ)
  | close (key : κ)
  | advance (duration : Reading)

/-- What happens next on the timeline. -/
def playing (conduct : κ → Nat → Conduct) : Event → Act (Agenda κ (Calls κ)) Unit :=
  Agenda.play (perform conduct)

/-- An order as an act. -/
def Order.act (conduct : κ → Nat → Conduct) : Order κ → Act (Agenda κ (Calls κ)) Unit
  | start key => Agenda.start key
  | cancel key => Agenda.cancel key
  | close key => Agenda.close (playing conduct) key
  | advance duration => Agenda.advance (playing conduct) duration

namespace Account

variable (conduct : κ → Nat → Conduct)

/-- A start is ordered. -/
def start (key : κ) (account : Account κ) : Account κ :=
  ⟨(Agenda.start key account.agenda).state, .started key :: account.entries⟩

/-- A cancel is ordered. -/
def cancel (key : κ) (account : Account κ) : Account κ :=
  ⟨(Agenda.cancel key account.agenda).state, .cancelled key :: account.entries⟩

/-- An event that was taken from the timeline is played. -/
def play (event : Event) (taken : Agenda κ (Calls κ)) (entries : List (Entry κ)) : Account κ :=
  ⟨(playing conduct event taken).state, tidings conduct taken event ++ entries⟩

/-- The account at another moment. -/
def atMoment (account : Account κ) (now : Seconds) : Account κ :=
  { account with agenda := account.agenda.atMoment now }

/-- Everything that happens until a moment, as long as the fuel lasts. -/
def advanceFrom (target : Seconds) : Nat → Account κ → Account κ
  | 0, account => account
  | fuel + 1, account =>
    match account.agenda.next? with
    | some (event, taken) => advanceFrom target fuel (play conduct event taken account.entries)
    | none =>
      match account.agenda.nextMoment? target with
      | some moment => advanceFrom target fuel (account.atMoment moment)
      | none => account.atMoment target

/-- Everything that happens until somebody who waits for a loop to end goes on, as long as the fuel
lasts. -/
def waitFrom : Nat → Account κ → Account κ
  | 0, account => account
  | fuel + 1, account =>
    match account.agenda.next? with
    | none => account
    | some (.resume, taken) => { account with agenda := taken }
    | some (event, taken) => waitFrom fuel (play conduct event taken account.entries)

/-- Somebody begins to wait for the end of a loop. -/
def await (number : Nat) (account : Account κ) : Account κ :=
  { account with
    agenda := { account.agenda with timeline := account.agenda.timeline.await number } }

/-- Somebody waits for a loop to end. -/
def waitFor (number : Nat) (account : Account κ) : Account κ :=
  waitFrom conduct Agenda.patience (account.await number)

/-- The account after an order from outside. -/
def follow (account : Account κ) : Order κ → Account κ
  | .start key => account.start key
  | .cancel key => account.cancel key
  | .close key =>
    match account.agenda.current? key with
    | none => account.cancel key
    | some number =>
      if account.agenda.timeline.isLive number then (account.cancel key).waitFor conduct number
      else account.cancel key
  | .advance duration =>
    match account.agenda.momentAfter duration with
    | .ok target => advanceFrom conduct target Agenda.patience account
    | .error _ => account

/-- The account after orders. -/
def after (account : Account κ) (orders : List (Order κ)) : Account κ :=
  orders.foldl (follow conduct) account

@[simp] theorem after_append (account : Account κ) (orders more : List (Order κ)) :
    account.after conduct (orders ++ more) = (account.after conduct orders).after conduct more :=
  List.foldl_append

@[simp] theorem after_singleton (account : Account κ) (order : Order κ) :
    account.after conduct [order] = account.follow conduct order := rfl

/-! ## The agenda beside the chronicle -/

theorem agenda_advanceFrom (target : Seconds) (fuel : Nat) (log : List Log.Item)
    (account : Account κ) :
    (advanceFrom conduct target fuel account).agenda =
      (Agenda.advanceFrom (playing conduct) target fuel log account.agenda).2 := by
  induction fuel generalizing log account with
  | zero => rfl
  | succ fuel ih =>
    rw [advanceFrom, Agenda.advanceFrom]
    cases hnext : account.agenda.next? with
    | some next => exact ih _ _
    | none =>
      cases hmoment : account.agenda.nextMoment? target with
      | some moment => exact ih log _
      | none => rfl

theorem agenda_waitFrom (fuel : Nat) (log : List Log.Item) (account : Account κ) :
    (waitFrom conduct fuel account).agenda =
      (Agenda.waitFrom (playing conduct) fuel log account.agenda).2 := by
  induction fuel generalizing log account with
  | zero => rfl
  | succ fuel ih =>
    rw [waitFrom, Agenda.waitFrom]
    cases hnext : account.agenda.next? with
    | none => rfl
    | some next =>
      obtain ⟨event, taken⟩ := next
      cases event with
      | resume => rfl
      | turn | alarm => exact ih _ _

theorem outcome_cancel (key : κ) (agenda : Agenda κ (Calls κ)) :
    (Agenda.cancel key agenda).outcome = .ok () := by
  unfold Agenda.cancel
  cases hcurrent : agenda.current? key <;> simp [hcurrent, Agenda.change, Agenda.onTimeline]

theorem outcome_waitFor (number : Nat) (agenda : Agenda κ (Calls κ)) :
    (Agenda.waitFor (playing conduct) number agenda).outcome = .ok () := rfl

theorem state_waitFor (number : Nat) (account : Account κ) :
    (Agenda.waitFor (playing conduct) number account.agenda).state =
      (account.waitFor conduct number).agenda := by
  rw [waitFor, agenda_waitFrom conduct _ []]
  rfl

/-- What passing time leaves. -/
theorem state_advance (duration : Reading) (agenda : Agenda κ (Calls κ)) :
    (Agenda.advance (playing conduct) duration agenda).state =
      match agenda.momentAfter duration with
      | .ok target => (Agenda.advanceFrom (playing conduct) target Agenda.patience [] agenda).2
      | .error _ => agenda := by
  have hact : Agenda.advance (playing conduct) duration agenda =
      Act.bind (Act.ofExcept (agenda.momentAfter duration)) (fun target agenda =>
        let (log, after) :=
          Agenda.advanceFrom (playing conduct) target Agenda.patience [] agenda
        ⟨.ok (), after, log.reverse⟩) agenda := rfl
  rw [hact]
  cases agenda.momentAfter duration <;> rfl

/-- **The agenda beside the chronicle** is what an order makes of it. -/
theorem agenda_follow (account : Account κ) (order : Order κ) :
    (account.follow conduct order).agenda = (order.act conduct account.agenda).state := by
  cases order with
  | start | cancel => rfl
  | close key =>
    rw [follow, Order.act, Agenda.close, Act.state_bind, Act.run_get]
    dsimp only
    cases hcurrent : account.agenda.current? key with
    | none => simp [cancel, Agenda.cancel, hcurrent]
    | some number =>
      dsimp only
      rw [Act.state_bind, outcome_cancel]
      dsimp only
      split_ifs with hlive
      · refine (state_waitFor conduct number (account.cancel key)).symm.trans ?_
        rw [Act.state_bind, outcome_waitFor]
        exact (Act.state_raise? _ _).symm
      · exact (Act.state_raise? _ _).symm
  | advance duration =>
    rw [follow, Order.act, state_advance]
    cases account.agenda.momentAfter duration with
    | ok target => exact agenda_advanceFrom conduct target _ [] account
    | error failure => rfl

/-- The agenda after orders. -/
theorem agenda_after (account : Account κ) (orders : List (Order κ)) :
    (account.after conduct orders).agenda =
      orders.foldl (fun agenda order => (order.act conduct agenda).state) account.agenda := by
  induction orders generalizing account with
  | nil => rfl
  | cons order orders ih =>
    rw [List.foldl_cons, ← agenda_follow]
    exact ih _

end Account

end Warden.Schedule
