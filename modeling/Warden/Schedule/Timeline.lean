import Warden.Failure
import Warden.Numeric.Reading

/-!
# A timeline of loops

Loops take turns on one timeline. What is to happen next stands in a queue: the turn of a loop, the
alarm of a timer that went off, or the return of somebody who waited for a loop to end. The queue is
played in rounds: a round begins with the timers that go off by then, and plays what stood in the
queue at its beginning. Loops never run at the same time, and time passes only between rounds.

## Main definitions

* `Phase`: what a loop is about to do
* `Loop`: one loop, from its start to its end
* `Event`: what happens next
* `Timeline`: the moment, the loops, the queue and the timers
* `Timeline.spawn`, `Timeline.wait?`, `Timeline.cancel`, `Timeline.finish`: changes by loops
* `Timeline.next?`: what happens next at this moment
-/

namespace Warden.Schedule

open Warden.Numeric

/-- What a loop does when it has its turn next. -/
inductive Phase where
  /-- Its first tick. -/
  | fresh
  /-- The end of a pause within a tick, which may fail. -/
  | pausing (failure : Option Failure)
  /-- The next tick. -/
  | resting
  /-- Nothing any more: it was cancelled or has failed. -/
  | ended (failure : Option Failure)

/-- One loop of an owner. -/
structure Loop (κ : Type) where
  owner : κ
  phase : Phase := .fresh
  /-- The loop has no turn until its timer goes off. -/
  isWaiting : Bool := false
  /-- The loop ends when it has its turn next. -/
  cancelled : Bool := false

/-- The loop has ended. -/
def Loop.hasEnded {κ : Type} (loop : Loop κ) : Bool :=
  loop.phase matches .ended _

/-- The failure that a loop has ended with. -/
def Loop.failure? {κ : Type} (loop : Loop κ) : Option Failure :=
  match loop.phase with
  | .ended failure => failure
  | _ => none

/-- What happens next. -/
inductive Event where
  /-- A loop has its turn. -/
  | turn (loop : Nat)
  /-- The timer of a loop has gone off. -/
  | alarm (loop : Nat)
  /-- Somebody who waited for a loop to end goes on. -/
  | resume
  deriving DecidableEq, Repr

/-- The moment at which a loop is ready. -/
structure Timer where
  due : Seconds
  loop : Nat
  deriving DecidableEq

/-- Loops, numbered in the order of their start, on one timeline. -/
structure Timeline (κ : Type) where
  now : Seconds := 0
  loops : Array (Loop κ) := #[]
  /-- What happens next, in order. -/
  queue : List Event := []
  /-- How much of the queue belongs to the round that is played. -/
  round : Nat := 0
  /-- The timers, in the order in which they were armed. -/
  timers : List Timer := []
  /-- The loop whose end somebody waits for. -/
  awaited : Option Nat := none

namespace Timeline

variable {κ : Type}

/-- Timers that are due within a nanosecond go off at one moment. -/
def grain : Seconds := Seconds.round (unitsPerOne / 1000000000)

/-- Changes a loop. -/
def change (timeline : Timeline κ) (number : Nat) (f : Loop κ → Loop κ) : Timeline κ :=
  { timeline with loops := timeline.loops.modify number f }

/-- Puts something at the end of the queue. -/
def enqueue (timeline : Timeline κ) (event : Event) : Timeline κ :=
  { timeline with queue := timeline.queue ++ [event] }

/-- Starts a loop; it is ready for its first tick. -/
def spawn (timeline : Timeline κ) (owner : κ) : Timeline κ × Nat :=
  let number := timeline.loops.size
  ({ timeline with loops := timeline.loops.push { owner } }.enqueue (.turn number), number)

/-- The loop of a number has not ended. -/
def isLive (timeline : Timeline κ) (number : Nat) : Bool :=
  match timeline.loops[number]? with
  | some loop => !loop.hasEnded
  | none => false

/-- The loop of a number waits for its timer. -/
def isWaiting (timeline : Timeline κ) (number : Nat) : Bool :=
  match timeline.loops[number]? with
  | some loop => loop.isWaiting
  | none => false

/-- The loop of a number ends at its next turn. -/
def isCancelled (timeline : Timeline κ) (number : Nat) : Bool :=
  match timeline.loops[number]? with
  | some loop => loop.cancelled
  | none => false

/-- The failure that the loop of a number has ended with. -/
def failure? (timeline : Timeline κ) (number : Nat) : Option Failure :=
  timeline.loops[number]?.bind (·.failure?)

/-- The loop is ready for its turn. -/
def ready (timeline : Timeline κ) (number : Nat) : Timeline κ :=
  (timeline.change number fun loop => { loop with isWaiting := false }).enqueue (.turn number)

/-- Cancels a loop: it ends at its next turn, and does not wait for its timer any more. -/
def cancel (timeline : Timeline κ) (number : Nat) : Timeline κ :=
  if timeline.isLive number then
    let marked := timeline.change number fun loop => { loop with cancelled := true }
    if timeline.isWaiting number then
      { marked with timers := timeline.timers.filter (·.loop != number) }.ready number
    else marked
  else timeline

/-- The loop is ready again after a delay, unless that is too large a number. A loop that is
cancelled, or has nothing to wait for, is ready at once. -/
def wait? (timeline : Timeline κ) (number : Nat) (phase : Phase) (delay : Reading) :
    Option (Timeline κ) :=
  (Wake.after? timeline.now delay).map fun wake =>
    let set := timeline.change number fun loop => { loop with phase }
    let waiting := set.change number fun loop => { loop with isWaiting := true }
    if timeline.isCancelled number then set.ready number
    else match wake with
      | .atOnce => set.ready number
      | .at due => { waiting with timers := timeline.timers ++ [⟨due, number⟩] }
      | .never => waiting

/-- The timer of a loop has gone off. -/
def alarm (timeline : Timeline κ) (number : Nat) : Timeline κ :=
  if timeline.isWaiting number then timeline.ready number else timeline

/-- The loop ends. Whoever waits for that goes on. -/
def finish (timeline : Timeline κ) (number : Nat) (failure : Option Failure) : Timeline κ :=
  let ended := timeline.change number fun loop => { loop with phase := .ended failure }
  if timeline.awaited == some number then { ended with awaited := none }.enqueue .resume else ended

/-- Somebody waits for a loop to end. -/
def await (timeline : Timeline κ) (number : Nat) : Timeline κ :=
  { timeline with awaited := some number }

/-- The earlier of two timers, the first of them when both are due at once. -/
def earlier (a b : Timer) : Timer :=
  if b.due < a.due then b else a

/-- The timer that goes off next. -/
def nextTimer? (timeline : Timeline κ) : Option Timer :=
  match timeline.timers with
  | [] => none
  | first :: rest => some (rest.foldl earlier first)

/-- A timer goes off: it is due by now, or less than the grain later. -/
def goesOff (timeline : Timeline κ) (timer : Timer) : Bool :=
  timer.due ≤ timeline.now || timer.due < timeline.now + grain

/-- The timers that go off now, in the order in which they are due; timers that are due at once keep
the order in which they were armed. -/
def goingOff (timeline : Timeline κ) : List Timer :=
  (timeline.timers.filter timeline.goesOff).mergeSort fun a b => a.due ≤ b.due

/-- A round begins: the timers go off, and everything in the queue belongs to the round. -/
def beginRound (timeline : Timeline κ) : Timeline κ :=
  let queue := timeline.queue ++ timeline.goingOff.map fun timer => Event.alarm timer.loop
  { timeline with
    queue
    round := queue.length
    timers := timeline.timers.filter fun timer => !timeline.goesOff timer }

/-- What happens next at this moment, and the timeline without it. -/
def next? (timeline : Timeline κ) : Option (Event × Timeline κ) :=
  let current := if timeline.round == 0 then timeline.beginRound else timeline
  match current.queue with
  | [] => none
  | event :: rest => some (event, { current with queue := rest, round := current.round - 1 })

end Timeline

end Warden.Schedule
