import Warden.Lifecycle
import Warden.Proofs.Schedule.Standing

/-!
# A diary of the poller

Observers may do something else each time they are told something: change the outside world, attach
and detach observers of any kind, themselves included, stop the poller, and fail in the end. A diary
beside the outside world tells, the latest entry first, when observers were attached, what they were
told, and when the server was asked for the lines of its log.

## Main definitions

* `Topic`: what observers observe
* `Entry`, `Diary`: what is told about a poller, beside its outside world
* `Request`, `Conduct`, `Manner`: what observers do
* `call`, `tick`: an observer is told something, and the ticks of a poller with such observers
* `Move`, `Reached`: what happens from one moment to the next
* `Order`, `after`: what is ordered from outside

## Main results

* `reached_order`, `reached_after`: orders are followed in moves
* `tick_eq`: these are the ticks of the host
-/

namespace Warden

open Warden.Numeric (Reading)
open Warden.Schedule (Agenda Pause)

/-- What observers observe. -/
inductive Topic where
  | status
  | network
  | log
  deriving DecidableEq

/-- What a notice is about. -/
def Notice.topic : Notice → Topic
  | status _ => .status
  | network _ => .network
  | log _ => .log

namespace Poller

variable {ω ε : Type}

/-! ## Entries -/

/-- An entry of the diary. -/
inductive Entry (ω : Type) where
  /-- An observer was attached. -/
  | attached (topic : Topic)
  /-- An observer was told something. -/
  | told (observer : ω) (notice : Notice)
  /-- The server was asked for the lines of its log. -/
  | asked

/-- The entry tells of what is done for the observers of a topic. -/
def Entry.concerns (topic : Topic) : Entry ω → Prop
  | attached _ => False
  | told _ notice => notice.topic = topic
  | asked => topic = .log

/-- The outside world with a diary, the latest entry first. -/
structure Diary (ω ε : Type) where
  outside : ε
  entries : List (Entry ω) := []

/-- Something is entered in the diary. -/
def Diary.enter (entry : Entry ω) : Act (Diary ω ε) Unit :=
  Act.modify fun diary => { diary with entries := entry :: diary.entries }

end Poller

variable {ω ε : Type}

/-- The surroundings with a diary of when the server is asked for lines. -/
def Surroundings.noted (around : Surroundings ε) : Surroundings (Poller.Diary ω ε) :=
  let inner := around.within Poller.Diary.outside fun diary outside => { diary with outside }
  { inner with
    service := { inner.service with
      logLines := fun wanted count => do
        Poller.Diary.enter .asked
        inner.service.logLines wanted count } }

namespace Poller

/-- A poller with a diary. -/
abbrev Noted (ω ε : Type) := Polling ω (Diary ω ε)

/-- The diary of a poller. -/
def diary (poller : Poller ω (Diary ω ε)) : Diary ω ε :=
  poller.supervised.awake.outside

/-- Something is entered in the diary of a poller. -/
def enter (entry : Entry ω) : Act (Noted ω ε) Unit :=
  outside (Diary.enter entry)

/-! ## What observers do -/

/-- What can be asked of a poller at any time. -/
inductive Request (ω : Type) where
  | attachStatus (observer : ω)
  | detachStatus (observer : ω)
  | attachNetwork (observer : ω)
  | detachNetwork (observer : ω)
  | attachLog (observer : ω) (maxLines : Int)
  | detachLog (follower : Nat)
  | stop

/-- A request as an act. That somebody is attached is entered in the diary. -/
def Request.act [BEq ω] : Request ω → Act (Noted ω ε) Unit
  | attachStatus observer => do
    enter (.attached .status)
    Poller.attachStatus observer
  | detachStatus observer => Poller.detachStatus observer
  | attachNetwork observer => do
    enter (.attached .network)
    Poller.attachNetwork observer
  | detachNetwork observer => Poller.detachNetwork observer
  | attachLog observer maxLines => do
    enter (.attached .log)
    discard (Poller.attachLog observer maxLines)
  | detachLog follower => Poller.detachLog follower
  | stop => Poller.stop

/-- What an observer does once. -/
structure Conduct (ω ε : Type) where
  outside : ε → ε := id
  requests : List (Request ω) := []
  failure : Option Failure := none

/-- What observers do when they are told something, which may depend on everything before. -/
abbrev Manner (ω ε : Type) := Diary ω ε → ω → Notice → Conduct ω ε

/-- No observer fails with a cancelled wait. -/
def Manner.Ordinary (manner : Manner ω ε) : Prop :=
  ∀ diary observer notice failure,
    (manner diary observer notice).failure = some failure → Act.Ordinary failure

variable [BEq ω]

/-- An observer does what it does. -/
def Conduct.act (conduct : Conduct ω ε) : Act (Noted ω ε) Unit := do
  Poller.outside (Act.modify fun diary => { diary with outside := conduct.outside diary.outside })
  conduct.requests.forM Request.act
  Act.raise? conduct.failure

/-- An observer is told something. -/
def call (manner : Manner ω ε) (observer : ω) (notice : Notice) : Act (Noted ω ε) Unit := do
  let diary ← look diary
  enter (.told observer notice)
  (manner diary observer notice).act

/-- The tick of a cadence of the poller. -/
def tick (around : Surroundings ε) (manner : Manner ω ε) (beat : Beat) :
    Act (Noted ω ε) (Option Pause) := do
  match beat with
  | .control => tickStatus around.noted (call manner)
  | .logs => tickLog around.noted (call manner)
  | .upkeep _ => pure ()
  return none

/-- These are the ticks of the host, but for the pages that it looks after. -/
theorem tick_eq {ω ε : Type} (outer : Surroundings ε)
    (guest : ω → Notice → Act (Premises ω ε) Unit) :
    Lifecycle.tick outer guest .control = (do
        tickStatus (Site.around outer) (Watcher.call guest)
        return none) ∧
      Lifecycle.tick outer guest .logs = (do
        tickLog (Site.around outer) (Watcher.call guest)
        return none) :=
  ⟨rfl, rfl⟩

/-! ## Moves and orders -/

section Moves

variable (around : Surroundings ε) (manner : Manner ω ε)

/-- What happens next on the timeline of a poller. -/
def playing : Schedule.Event → Act (Noted ω ε) Unit :=
  Agenda.play (tick around manner)

/-- The outside world changes by itself. -/
def changeOutside (f : ε → ε) : Act (Noted ω ε) Unit :=
  outside (Act.modify fun diary => { diary with outside := f diary.outside })

/-- What happens from one moment to the next: something is asked of the poller, it is closed, the
outside world changes, or the loops go on by a step. A whole tick is one step. -/
inductive Move : Noted ω ε → Noted ω ε → Prop
  | request (request : Request ω) (s : Noted ω ε) : Move s (request.act s).state
  | close (s : Noted ω ε) : Move s (Poller.close (playing around manner) s).state
  | outside (f : ε → ε) (s : Noted ω ε) : Move s (changeOutside f s).state
  | step {s t : Noted ω ε} (hstep : Agenda.Step (tick around manner) s t) : Move s t

/-- What is reached from a poller at a later moment. -/
abbrev Reached : Noted ω ε → Noted ω ε → Prop :=
  Relation.ReflTransGen (Move around manner)

/-- What is ordered from outside. -/
inductive Order (ω ε : Type) where
  | request (request : Request ω)
  | close
  | outside (f : ε → ε)
  | advance (duration : Reading)

/-- An order as an act. -/
def Order.act : Order ω ε → Act (Noted ω ε) Unit
  | request wanted => wanted.act
  | close => Poller.close (playing around manner)
  | outside f => changeOutside f
  | advance duration => Agenda.advance (playing around manner) duration

/-- **An order is followed** in moves. -/
theorem reached_order (order : Order ω ε) (s : Noted ω ε) :
    Reached around manner s (order.act around manner s).state := by
  cases order with
  | request wanted => exact .single (.request wanted s)
  | close => exact .single (.close s)
  | outside f => exact .single (.outside f s)
  | advance duration =>
    exact Relation.ReflTransGen.mono (fun _ _ => Move.step) _ _
      (Agenda.passed_advance (tick around manner) duration s)

/-- A poller after orders. -/
def after (s : Noted ω ε) (orders : List (Order ω ε)) : Noted ω ε :=
  orders.foldl (fun s order => (order.act around manner s).state) s

/-- **Orders are followed** in moves. -/
theorem reached_after (s : Noted ω ε) (orders : List (Order ω ε)) :
    Reached around manner s (after around manner s orders) := by
  induction orders generalizing s with
  | nil => exact .refl
  | cons order orders ih => exact (reached_order around manner order s).trans (ih _)

end Moves

/-! ## What the acts come to -/

section Runs

variable {α : Type} (s : Polling ω ε)

omit [BEq ω] in
theorem run_change (f : Poller ω ε → Poller ω ε) :
    change f s = ⟨.ok (), { s with world := f s.world }, []⟩ := rfl

omit [BEq ω] in
theorem run_look (f : Poller ω ε → α) : look f s = ⟨.ok (f s.world), s, []⟩ := rfl

omit [BEq ω] in
theorem state_look_bind {β : Type} (f : Poller ω ε → α) (next : α → Act (Polling ω ε) β) :
    ((look f >>= next) s).state = (next (f s.world) s).state :=
  Act.state_bind_ok rfl

omit [BEq ω] in
theorem state_attachLog (observer : ω) (maxLines : Int) :
    (attachLog observer maxLines s).state = (Agenda.start .logs (change (fun poller =>
      { poller with
        followers := poller.followers.push { maxLines }
        logObservers := poller.logObservers ++ [(s.world.followers.size, observer)] }) s).state).state := by
  simp only [attachLog, Act.state_bind, run_look, run_change, Agenda.run_start]
  rfl

omit [BEq ω] in
theorem outcome_attachLog (observer : ω) (maxLines : Int) :
    (attachLog observer maxLines s).outcome = .ok s.world.followers.size := by
  simp only [attachLog, Act.outcome_bind, run_look, run_change, Agenda.run_start]
  rfl

end Runs

/-- The entries in the diary of a poller. -/
def entries (poller : Poller ω (Diary ω ε)) : List (Entry ω) :=
  poller.diary.entries

end Poller

end Warden
