import Warden.Proofs.Schedule.Loops
import Warden.Schedule.Agenda

/-!
# What turns come to

The state that each act on an agenda leaves, as a function of the state before. A turn ends in one
of three ways: the loop rests until the next one, it pauses within a call, or it ends.

## Main definitions

* `started`, `called`: an agenda with a cadence that was started, or cancelled
* `rested`, `paused`, `ended`: an agenda after the turn of a loop

## Main results

* `run_start`, `run_cancel`, `state_rest`, `state_settle`, `state_begin`, `state_turn`
-/

namespace Warden.Schedule.Agenda

open Warden.Numeric

variable {κ σ : Type} [DecidableEq κ] (agenda : Agenda κ σ) (key other : κ) (number : Nat)

/-! ## Cadences -/

/-- The agenda with a cadence that was changed. -/
def changed (f : Cadence → Cadence) : Agenda κ σ :=
  { agenda with cadences := agenda.cadences.map fun (other, cadence) =>
      if other = key then (other, f cadence) else (other, cadence) }

@[simp] theorem run_change (f : Cadence → Cadence) :
    change key f agenda = ⟨.ok (), agenda.changed key f, []⟩ := rfl

omit [DecidableEq κ] in
@[simp] theorem run_onTimeline (f : Timeline κ → Timeline κ) :
    onTimeline f agenda = ⟨.ok (), { agenda with timeline := f agenda.timeline }, []⟩ := rfl

@[simp] theorem timeline_changed (f : Cadence → Cadence) :
    (agenda.changed key f).timeline = agenda.timeline := rfl

theorem cadence?_changed (f : Cadence → Cadence) :
    (agenda.changed key f).cadence? other =
      if other = key then (agenda.cadence? other).map f else agenda.cadence? other := by
  unfold cadence? changed
  induction agenda.cadences with
  | nil => simp
  | cons entry rest ih =>
    obtain ⟨owner, cadence⟩ := entry
    rw [List.map_cons, List.find?_cons, List.find?_cons]
    by_cases howner : owner = other
    · by_cases h : owner = key <;> simp [← howner, h]
    · by_cases h : owner = key
      · have hother : other ≠ key := fun heq => howner (h.trans heq.symm)
        simpa [h, hother, hother.symm] using ih
      · simpa [h, howner] using ih

theorem current?_changed (f : Cadence → Cadence) :
    (agenda.changed key f).current? other =
      if other = key then ((agenda.cadence? other).map f).bind (·.current)
      else agenda.current? other := by
  rw [current?, cadence?_changed]
  split_ifs <;> rfl

variable {key} in
theorem isSome_current? (hrunning : agenda.isRunning key = true) :
    (agenda.current? key).isSome = true := by
  unfold isRunning at hrunning
  cases hcurrent : agenda.current? key with
  | some number => rfl
  | none => simp [hcurrent] at hrunning

/-! ## Starts and cancels -/

/-- The agenda with a cadence that was started. -/
def started : Agenda κ σ :=
  { agenda.changed key fun cadence => { cadence with current := some agenda.timeline.loops.size } with
    timeline := (agenda.timeline.spawn key).1 }

/-- The agenda with a cadence that was cancelled. -/
def called : Agenda κ σ :=
  match agenda.current? key with
  | some number =>
    { agenda.changed key fun cadence => { cadence with current := none } with
      timeline := agenda.timeline.cancel number }
  | none => agenda

theorem run_start :
    start key agenda =
      ⟨.ok (), if agenda.isRunning key then agenda else agenda.started key, []⟩ := by
  unfold start
  by_cases h : agenda.isRunning key = true
  · simp [Act.run_bind, h]
  · simp [Act.run_bind, h]
    rfl

theorem run_cancel : cancel key agenda = ⟨.ok (), agenda.called key, []⟩ := by
  unfold cancel called
  cases hcurrent : agenda.current? key <;> simp [Act.run_bind, hcurrent]

theorem cadence?_started :
    (agenda.started key).cadence? other =
      if other = key then (agenda.cadence? other).map fun cadence =>
        { cadence with current := some agenda.timeline.loops.size }
      else agenda.cadence? other :=
  agenda.cadence?_changed key other fun cadence =>
    { cadence with current := some agenda.timeline.loops.size }

theorem cadence?_called {n : Nat} (hcurrent : agenda.current? key = some n) :
    (agenda.called key).cadence? other =
      if other = key then (agenda.cadence? other).map fun cadence => { cadence with current := none }
      else agenda.cadence? other := by
  rw [called, hcurrent]
  exact agenda.cadence?_changed key other fun cadence => { cadence with current := none }

theorem current?_started (hcadence : (agenda.cadence? key).isSome = true) :
    (agenda.started key).current? other =
      if other = key then some agenda.timeline.loops.size else agenda.current? other := by
  rw [current?, cadence?_started]
  split_ifs with h
  · obtain ⟨cadence, hcadence⟩ := Option.isSome_iff_exists.mp hcadence
    rw [h, hcadence]
    rfl
  · rfl

theorem current?_called :
    (agenda.called key).current? other =
      if other = key then none else agenda.current? other := by
  cases hcurrent : agenda.current? key with
  | none =>
    rw [called, hcurrent]
    split_ifs with h
    · rw [h, hcurrent]
    · rfl
  | some number =>
    rw [current?, cadence?_called agenda key other hcurrent]
    split_ifs
    · cases agenda.cadence? other <;> rfl
    · rfl

/-! ## The end of a turn -/

/-- The agenda after a loop has ended. -/
def ended (failure : Option Failure) : Agenda κ σ :=
  { agenda with timeline := agenda.timeline.finish number failure }

/-- The agenda with a loop that waits for a delay. -/
def slept (phase : Phase) (wake : Wake) : Agenda κ σ :=
  { agenda with timeline := agenda.timeline.slept number phase wake }

/-- One more tick of a cadence is over. -/
def counted : Agenda κ σ :=
  agenda.changed key fun cadence => { cadence with ticks := cadence.ticks + 1 }

/-- The agenda after a tick: the loop rests, unless its interval cannot be waited for. -/
def rested : Agenda κ σ :=
  match agenda.cadence? key with
  | some cadence =>
    match Wake.after? agenda.timeline.now cadence.interval with
    | some wake => (agenda.counted key).slept number .resting wake
    | none => (agenda.counted key).ended number (some .pastReals)
  | none => (agenda.counted key).ended number none

omit [DecidableEq κ] in
theorem run_sleep (phase : Phase) (delay : Reading) :
    sleep number phase delay agenda =
      match Wake.after? agenda.timeline.now delay with
      | some wake => ⟨.ok (), agenda.slept number phase wake, []⟩
      | none => ⟨.error .pastReals, agenda, []⟩ := by
  unfold sleep
  rw [Act.run_bind, Act.run_get]
  dsimp only
  rw [Timeline.wait?_eq]
  cases Wake.after? agenda.timeline.now delay <;> rfl

theorem cadence?_counted :
    (agenda.counted key).cadence? key =
      (agenda.cadence? key).map fun cadence => { cadence with ticks := cadence.ticks + 1 } := by
  rw [counted, cadence?_changed, if_pos rfl]

theorem state_rest : (rest number key agenda).state = agenda.rested key number := by
  have hrest : rest number key agenda =
      (match (agenda.counted key).cadence? key with
        | some cadence =>
          Act.recover (fun _ => true) (sleep number .resting cadence.interval) (perish number)
        | none => onTimeline (·.finish number none)) (agenda.counted key) := rfl
  rw [hrest, cadence?_counted, rested]
  cases agenda.cadence? key with
  | none => rfl
  | some cadence =>
    have hnow : (agenda.counted key).timeline = agenda.timeline := rfl
    dsimp only [Option.map_some]
    rw [Act.state_recover, run_sleep, hnow]
    cases Wake.after? agenda.timeline.now cadence.interval <;> rfl

theorem state_settle {failure : Failure} (h : failure.isCancelled = false) :
    (settle number key failure agenda).state = agenda.rested key number := by
  rw [← state_rest]
  unfold settle
  rw [h, if_neg Bool.false_ne_true]
  rfl

/-- A tick that pauses, or is over because it cannot wait that long. -/
def paused (pause : Pause) : Agenda κ σ :=
  match Wake.after? agenda.timeline.now pause.delay with
  | some wake => agenda.slept number (.pausing pause.failure) wake
  | none => agenda.rested key number

theorem state_begin (tick : κ → Act (Agenda κ σ) (Option Pause)) :
    (begin tick number key agenda).state =
      match (tick key agenda).outcome with
      | .ok none => (tick key agenda).state.rested key number
      | .ok (some pause) => (tick key agenda).state.paused key number pause
      | .error failure => (settle number key failure (tick key agenda).state).state := by
  unfold begin
  rw [Act.state_bind, Act.run_attempt]
  dsimp only
  cases (tick key agenda).outcome with
  | error failure => rfl
  | ok answer =>
    cases answer with
    | none => exact state_rest ..
    | some pause =>
      unfold paused
      dsimp only
      rw [Act.state_recover, run_sleep]
      cases Wake.after? (tick key agenda).state.timeline.now pause.delay with
      | some wake => rfl
      | none => exact state_settle _ key number rfl

/-- What the turn of a loop that has not ended leaves. -/
theorem state_turn (tick : κ → Act (Agenda κ σ) (Option Pause)) {loop : Loop κ}
    (hloop : agenda.timeline.loops[number]? = some loop) :
    (turn tick number agenda).state =
      match loop.phase, loop.cancelled with
      | .ended _, _ => agenda
      | _, true => agenda.ended number none
      | .fresh, false | .resting, false => (begin tick number loop.owner agenda).state
      | .pausing none, false => agenda.rested loop.owner number
      | .pausing (some failure), false => (settle number loop.owner failure agenda).state := by
  unfold turn
  rw [Act.state_bind, Act.run_get]
  dsimp only
  rw [hloop]
  obtain ⟨owner, phase, isWaiting, cancelled⟩ := loop
  cases phase with
  | ended failure => rfl
  | fresh | resting => cases cancelled <;> rfl
  | pausing failure =>
    cases cancelled with
    | true => rfl
    | false =>
      cases failure with
      | none => exact state_rest ..
      | some failure => rfl

end Warden.Schedule.Agenda
