import Warden.Act
import Warden.Schedule.Timeline

/-!
# Cadences

A cadence ticks at a fixed interval as long as it is started. What a tick does is an act on the
whole agenda, so that it may start and cancel cadences itself; it may also pause before it is
over. A tick that fails is logged, and the cadence goes on. The interval is counted from the end
of one tick to the beginning of the next. An interval that is too large to be waited for ends the
loop after a tick.

## Main definitions

* `Cadence`: an interval with the loop that is running, if there is one
* `Agenda`: cadences on a timeline, beside the rest of the world
* `Agenda.start`, `Agenda.cancel`: start and end of a cadence
* `Agenda.play`: what happens next on the timeline
* `Agenda.advance`: everything that is due until a moment
* `Agenda.close`: end of a cadence, waiting for its loop
-/

namespace Warden.Schedule

open Warden.Numeric

/-- An interval at which something is done. -/
structure Cadence where
  name : String := "interval"
  interval : Reading
  /-- How many ticks are over. -/
  ticks : Nat := 0
  /-- The loop that was started last, until it is cancelled. -/
  current : Option Nat := none
  interval_pos : interval.isPositive

/-- A cadence with an interval, if that is positive. -/
def Cadence.ofInterval (name : String) (interval : Reading) : Except Failure Cadence :=
  if h : interval.isPositive then .ok { name, interval, interval_pos := h }
  else .error .notAnInterval

/-- Cadences on a timeline, beside the rest of the world. -/
structure Agenda (κ σ : Type) where
  timeline : Timeline κ := {}
  cadences : List (κ × Cadence) := []
  world : σ

/-- A pause within a tick: how long it takes and whether it fails. -/
structure Pause where
  delay : Reading
  failure : Option Failure := none

namespace Agenda

variable {κ σ α : Type} [DecidableEq κ]

/-- The cadence of a key. -/
def cadence? (agenda : Agenda κ σ) (key : κ) : Option Cadence :=
  (agenda.cadences.find? (·.1 = key)).map (·.2)

/-- An act on the rest of the world. -/
def onWorld (act : Act σ α) : Act (Agenda κ σ) α :=
  act.within world fun agenda world => { agenda with world }

/-- Changes the timeline. -/
def onTimeline (f : Timeline κ → Timeline κ) : Act (Agenda κ σ) Unit :=
  Act.modify fun agenda => { agenda with timeline := f agenda.timeline }

/-- Changes a cadence. -/
def change (key : κ) (f : Cadence → Cadence) : Act (Agenda κ σ) Unit :=
  Act.modify fun agenda =>
    { agenda with cadences := agenda.cadences.map fun (other, cadence) =>
        if other = key then (other, f cadence) else (other, cadence) }

/-- Puts a cadence at a key. -/
def put (key : κ) (cadence : Cadence) : Act (Agenda κ σ) Unit :=
  Act.modify fun agenda =>
    { agenda with cadences := agenda.cadences.filter (·.1 ≠ key) ++ [(key, cadence)] }

/-- The loop that was started last for a key. -/
def current? (agenda : Agenda κ σ) (key : κ) : Option Nat :=
  (agenda.cadence? key).bind (·.current)

/-- The cadence of a key is started, and its loop has not ended. -/
def isRunning (agenda : Agenda κ σ) (key : κ) : Bool :=
  match agenda.current? key with
  | some number => agenda.timeline.isLive number
  | none => false

/-- Starts the cadence of a key, unless it runs. -/
def start (key : κ) : Act (Agenda κ σ) Unit := do
  let agenda ← Act.get
  unless agenda.isRunning key do
    let (timeline, number) := agenda.timeline.spawn key
    onTimeline fun _ => timeline
    change key fun cadence => { cadence with current := some number }

/-- Cancels the cadence of a key. -/
def cancel (key : κ) : Act (Agenda κ σ) Unit := do
  let agenda ← Act.get
  match agenda.current? key with
  | some number =>
    change key fun cadence => { cadence with current := none }
    onTimeline (·.cancel number)
  | none => pure ()

/-- The loop waits for a delay, which may be too large a number. -/
def sleep (number : Nat) (phase : Phase) (delay : Reading) : Act (Agenda κ σ) Unit := do
  match (← Act.get).timeline.wait? number phase delay with
  | some timeline => onTimeline fun _ => timeline
  | none => Act.fail .pastReals

/-- The loop ends with a failure, which whoever waits for the loop meets. -/
def perish (number : Nat) (failure : Failure) : Act (Agenda κ σ) Unit :=
  onTimeline (·.finish number (some failure))

/-- A tick is over: the loop rests until the next one, or fails if it cannot rest for so long. -/
def rest (number : Nat) (key : κ) : Act (Agenda κ σ) Unit := do
  change key fun cadence => { cadence with ticks := cadence.ticks + 1 }
  match (← Act.get).cadence? key with
  | some cadence =>
    Act.recover (fun _ => true) (sleep number .resting cadence.interval) (perish number)
  | none => onTimeline (·.finish number none)

/-- A tick has failed. A cancelled wait ends the loop; any other failure is logged. -/
def settle (number : Nat) (key : κ) (failure : Failure) : Act (Agenda κ σ) Unit := do
  if failure.isCancelled then onTimeline (·.finish number none)
  else
    let name := (((← Act.get).cadence? key).map (·.name)).getD ""
    Act.note .error s!"IntervalTask {name}: tick failed: {failure.text}"
    rest number key

/-- A tick begins. -/
def begin (tick : κ → Act (Agenda κ σ) (Option Pause)) (number : Nat) (key : κ) :
    Act (Agenda κ σ) Unit := do
  match ← (tick key).attempt with
  | .ok none => rest number key
  | .ok (some pause) =>
    Act.recover (fun _ => true) (sleep number (.pausing pause.failure) pause.delay)
      (settle number key)
  | .error failure => settle number key failure

/-- The turn of a loop. -/
def turn (tick : κ → Act (Agenda κ σ) (Option Pause)) (number : Nat) : Act (Agenda κ σ) Unit := do
  match (← Act.get).timeline.loops[number]? with
  | none => pure ()
  | some loop =>
    if loop.hasEnded then pure ()
    else if loop.cancelled then onTimeline (·.finish number none)
    else match loop.phase with
      | .ended _ => pure ()
      | .fresh | .resting => begin tick number loop.owner
      | .pausing none => rest number loop.owner
      | .pausing (some failure) => settle number loop.owner failure

/-- What happens next on the timeline. -/
def play (tick : κ → Act (Agenda κ σ) (Option Pause)) : Event → Act (Agenda κ σ) Unit
  | .turn number => turn tick number
  | .alarm number => onTimeline (·.alarm number)
  | .resume => pure ()

/-- What happens next at this moment, and the agenda without it. -/
def next? (agenda : Agenda κ σ) : Option (Event × Agenda κ σ) :=
  agenda.timeline.next?.map fun (event, timeline) => (event, { agenda with timeline })

/-- The agenda at another moment. -/
def atMoment (agenda : Agenda κ σ) (now : Seconds) : Agenda κ σ :=
  { agenda with timeline := { agenda.timeline with now } }

/-- The moment of the next timer, if that comes until a given one. -/
def nextMoment? (target : Seconds) (agenda : Agenda κ σ) : Option Seconds :=
  (agenda.timeline.nextTimer?.map (·.due)).filter (· ≤ target)

/-- Everything that happens until a moment, as long as the fuel lasts: when nothing is left to do
the time of the next timer comes. Once no timer is due any more the moment has come; what is due
just then happens later. The log of what happened before is in `log`, the last item first. -/
def advanceFrom (play : Event → Act (Agenda κ σ) Unit) (target : Seconds) :
    Nat → List Log.Item → Agenda κ σ → List Log.Item × Agenda κ σ
  | 0, log, agenda => (log, agenda)
  | fuel + 1, log, agenda =>
    match agenda.next? with
    | some (event, taken) =>
      let report := play event taken
      advanceFrom play target fuel (report.log.reverse ++ log) report.state
    | none =>
      match agenda.nextMoment? target with
      | some moment => advanceFrom play target fuel log (agenda.atMoment moment)
      | none => (log, agenda.atMoment target)

/-- The number of events that are played at most in one go. -/
def patience : Nat := Nat.pow 2 40

/-- The moment after a duration, which may be too large a number. After an infinite duration time
stands still. -/
def momentAfter (agenda : Agenda κ σ) (duration : Reading) : Except Failure Seconds :=
  match duration.toDouble? with
  | some number => .ok (agenda.timeline.now + (Seconds.ofDouble? number).getD 0)
  | none => .error .pastReals

/-- Everything that happens until a duration has passed. -/
def advance (play : Event → Act (Agenda κ σ) Unit) (duration : Reading) :
    Act (Agenda κ σ) Unit := do
  let target ← Act.ofExcept ((← Act.get).momentAfter duration)
  fun agenda =>
    let (log, after) := advanceFrom play target patience [] agenda
    ⟨.ok (), after, log.reverse⟩

/-- Everything that happens until somebody who waits for a loop to end goes on, as long as the fuel
lasts. -/
def waitFrom (play : Event → Act (Agenda κ σ) Unit) :
    Nat → List Log.Item → Agenda κ σ → List Log.Item × Agenda κ σ
  | 0, log, agenda => (log, agenda)
  | fuel + 1, log, agenda =>
    match agenda.next? with
    | none => (log, agenda)
    | some (.resume, taken) => (log, taken)
    | some (event, taken) =>
      let report := play event taken
      waitFrom play fuel (report.log.reverse ++ log) report.state

/-- Waits for a loop to end. -/
def waitFor (play : Event → Act (Agenda κ σ) Unit) (number : Nat) : Act (Agenda κ σ) Unit := do
  onTimeline (·.await number)
  fun agenda =>
    let (log, after) := waitFrom play patience [] agenda
    ⟨.ok (), after, log.reverse⟩

/-- Cancels the cadence of a key and waits for its loop to end. A loop that has failed before fails
again here. -/
def close (play : Event → Act (Agenda κ σ) Unit) (key : κ) : Act (Agenda κ σ) Unit := do
  let agenda ← Act.get
  match agenda.current? key with
  | none => pure ()
  | some number =>
    cancel key
    if agenda.timeline.isLive number then waitFor play number
    Act.raise? (agenda.timeline.failure? number)

end Agenda

end Warden.Schedule
