import Warden.Failure
import Warden.Log.Record

/-!
# Acts

An act reads and changes a state, logs records, and answers or fails. A failed act keeps the changes
and the records it made before it failed. The outside world of a part of the program is its state:
whatever a server or a lock may answer is an act on the state that holds it.

## Main definitions

* `Report`: what an act comes to: an answer or a failure, the state after it, and its records
* `Act`: an act on a state
* `Act.note`, `Act.noteNumber`, `Act.fail`: log a record, fail
* `Act.recover`: go on after failures of a given sort
* `Act.always`: an act with another one that follows on every way out
* `Act.within`: an act on a part of a state
-/

namespace Warden

/-- What an act comes to. -/
structure Report (σ α : Type) where
  outcome : Except Failure α
  state : σ
  log : List Log.Item

/-- The records in the log of an act. -/
def Report.records {σ α : Type} (report : Report σ α) : List Log.Record :=
  report.log.filterMap Log.Item.record?

/-- An act on a state of type `σ` that answers with an `α`. -/
def Act (σ α : Type) := σ → Report σ α

namespace Act

variable {σ τ α β : Type}

/-- The report of an act on a state. -/
def run (act : Act σ α) (state : σ) : Report σ α :=
  act state

/-- An answer without any effect. -/
protected def pure (answer : α) : Act σ α :=
  fun state => ⟨.ok answer, state, []⟩

/-- An act and, if it does not fail, the act that its answer leads to. -/
protected def bind (act : Act σ α) (next : α → Act σ β) : Act σ β :=
  fun state =>
    match act state with
    | ⟨.ok answer, after, log⟩ =>
      let report := next answer after
      ⟨report.outcome, report.state, log ++ report.log⟩
    | ⟨.error failure, after, log⟩ => ⟨.error failure, after, log⟩

instance : Monad (Act σ) where
  pure := Act.pure
  bind := Act.bind

/-- Something happens to the log. -/
def enter (item : Log.Item) : Act σ Unit :=
  fun state => ⟨.ok (), state, [item]⟩

/-- Logs a record. -/
def note (level : Log.Level) (message : String) : Act σ Unit :=
  enter (.record ⟨level, message⟩)

/-- Logs a record that names a number. Without a text for the number there is none for the record. -/
def noteNumber (level : Log.Level) (number : Int) (message : String → String) : Act σ Unit :=
  match Numeric.Literal.write number with
  | .ok digits => note level (message digits)
  | .error _ => Act.pure ()

/-- Fails. -/
def fail (failure : Failure) : Act σ α :=
  fun state => ⟨.error failure, state, []⟩

/-- The state. -/
def get : Act σ σ :=
  fun state => ⟨.ok state, state, []⟩

/-- Something the state shows. -/
def view (f : σ → α) : Act σ α :=
  fun state => ⟨.ok (f state), state, []⟩

/-- Changes the state. -/
def modify (f : σ → σ) : Act σ Unit :=
  fun state => ⟨.ok (), f state, []⟩

/-- Fails if there is a failure to report. -/
def raise? (failure : Option Failure) : Act σ Unit :=
  match failure with
  | some failure => fail failure
  | none => pure ()

/-- The answer that is at hand, or the failure. -/
def ofExcept (answer : Except Failure α) : Act σ α :=
  fun state => ⟨answer, state, []⟩

/-- The outcome of an act as an answer. -/
def attempt (act : Act σ α) : Act σ (Except Failure α) :=
  fun state =>
    let report := act state
    ⟨.ok report.outcome, report.state, report.log⟩

/-- An act that goes on with `handle` after the failures for which `isHandled` holds. -/
def recover (isHandled : Failure → Bool) (act : Act σ α) (handle : Failure → Act σ α) :
    Act σ α := do
  match ← act.attempt with
  | .ok answer => pure answer
  | .error failure => if isHandled failure then handle failure else fail failure

/-- An act followed by another one, whether it fails or not. A failure of the second hides what the
first came to. -/
def always (act : Act σ α) (last : Act σ Unit) : Act σ α := do
  let outcome ← act.attempt
  last
  ofExcept outcome

/-- An act on a part of a state. -/
def within (part : σ → τ) (put : σ → τ → σ) (act : Act τ α) : Act σ α :=
  fun state =>
    let report := act (part state)
    ⟨report.outcome, put state report.state, report.log⟩

/-- The ordinary failures: all but a cancelled wait. -/
def isOrdinary (failure : Failure) : Bool :=
  !failure.isCancelled

/-! ## What the acts come to -/

@[simp] theorem run_pure (answer : α) (state : σ) :
    (pure answer : Act σ α) state = ⟨.ok answer, state, []⟩ := rfl

@[simp] theorem run_note (level : Log.Level) (message : String) (state : σ) :
    (note level message : Act σ Unit) state = ⟨.ok (), state, [.record ⟨level, message⟩]⟩ := rfl

@[simp] theorem run_enter (item : Log.Item) (state : σ) :
    (enter item : Act σ Unit) state = ⟨.ok (), state, [item]⟩ := rfl

@[simp] theorem run_fail (failure : Failure) (state : σ) :
    (fail failure : Act σ α) state = ⟨.error failure, state, []⟩ := rfl

@[simp] theorem run_get (state : σ) : (get : Act σ σ) state = ⟨.ok state, state, []⟩ := rfl

@[simp] theorem run_view (f : σ → α) (state : σ) :
    view f state = ⟨.ok (f state), state, []⟩ := rfl

@[simp] theorem run_modify (f : σ → σ) (state : σ) :
    modify f state = ⟨.ok (), f state, []⟩ := rfl

theorem run_bind (act : Act σ α) (next : α → Act σ β) (state : σ) :
    (act >>= next) state =
      match act state with
      | ⟨.ok answer, after, log⟩ =>
        ⟨(next answer after).outcome, (next answer after).state, log ++ (next answer after).log⟩
      | ⟨.error failure, after, log⟩ => ⟨.error failure, after, log⟩ := rfl

@[simp] theorem run_attempt (act : Act σ α) (state : σ) :
    act.attempt state = ⟨.ok (act state).outcome, (act state).state, (act state).log⟩ := rfl

@[simp] theorem run_ofExcept (answer : Except Failure α) (state : σ) :
    ofExcept answer state = ⟨answer, state, []⟩ := rfl

@[simp] theorem run_within (part : σ → τ) (put : σ → τ → σ) (act : Act τ α) (state : σ) :
    act.within part put state =
      ⟨(act (part state)).outcome, put state (act (part state)).state,
        (act (part state)).log⟩ := rfl

@[simp] theorem run_raise?_none (state : σ) :
    (raise? none : Act σ Unit) state = ⟨.ok (), state, []⟩ := rfl

@[simp] theorem run_raise?_some (failure : Failure) (state : σ) :
    (raise? (some failure) : Act σ Unit) state = ⟨.error failure, state, []⟩ := rfl

@[simp] theorem run_ite (p : Prop) [Decidable p] (act other : Act σ α) (state : σ) :
    (if p then act else other) state = if p then act state else other state := by
  split <;> rfl

/-! ### Outcome and state, without the log -/

@[simp] theorem outcome_bind (act : Act σ α) (next : α → Act σ β) (state : σ) :
    ((act >>= next) state).outcome =
      match (act state).outcome with
      | .ok answer => (next answer (act state).state).outcome
      | .error failure => .error failure := by
  rw [run_bind]
  rcases act state with ⟨_ | _, _, _⟩ <;> rfl

@[simp] theorem state_bind (act : Act σ α) (next : α → Act σ β) (state : σ) :
    ((act >>= next) state).state =
      match (act state).outcome with
      | .ok answer => (next answer (act state).state).state
      | .error _ => (act state).state := by
  rw [run_bind]
  rcases act state with ⟨_ | _, _, _⟩ <;> rfl

@[simp] theorem outcome_noteNumber (level : Log.Level) (number : Int) (message : String → String)
    (state : σ) : ((noteNumber level number message : Act σ Unit) state).outcome = .ok () := by
  rw [noteNumber]
  cases Numeric.Literal.write number <;> rfl

@[simp] theorem state_noteNumber (level : Log.Level) (number : Int) (message : String → String)
    (state : σ) : ((noteNumber level number message : Act σ Unit) state).state = state := by
  rw [noteNumber]
  cases Numeric.Literal.write number <;> rfl

@[simp] theorem outcome_map (f : α → β) (act : Act σ α) (state : σ) :
    ((f <$> act) state).outcome = (act state).outcome.map f := by
  change ((act >>= fun answer => pure (f answer)) state).outcome = _
  rw [outcome_bind]
  cases (act state).outcome <;> rfl

@[simp] theorem state_map (f : α → β) (act : Act σ α) (state : σ) :
    ((f <$> act) state).state = (act state).state := by
  change ((act >>= fun answer => pure (f answer)) state).state = _
  rw [state_bind]
  cases (act state).outcome <;> rfl

@[simp] theorem outcome_discard (act : Act σ α) (state : σ) :
    (discard act state).outcome = (act state).outcome.map fun _ => () :=
  outcome_map (fun _ => ()) act state

@[simp] theorem state_discard (act : Act σ α) (state : σ) :
    (discard act state).state = (act state).state :=
  state_map (fun _ => ()) act state

@[simp] theorem outcome_recover (isHandled : Failure → Bool) (act : Act σ α)
    (handle : Failure → Act σ α) (state : σ) :
    (recover isHandled act handle state).outcome =
      match (act state).outcome with
      | .ok answer => .ok answer
      | .error failure =>
        if isHandled failure then (handle failure (act state).state).outcome
        else .error failure := by
  rw [recover, outcome_bind]
  cases h : (act state).outcome with
  | ok answer => simp [h]
  | error failure => by_cases hf : isHandled failure <;> simp [h, hf]

@[simp] theorem state_recover (isHandled : Failure → Bool) (act : Act σ α)
    (handle : Failure → Act σ α) (state : σ) :
    (recover isHandled act handle state).state =
      match (act state).outcome with
      | .ok _ => (act state).state
      | .error failure =>
        if isHandled failure then (handle failure (act state).state).state
        else (act state).state := by
  rw [recover, state_bind]
  cases h : (act state).outcome with
  | ok answer => simp [h]
  | error failure => by_cases hf : isHandled failure <;> simp [h, hf]

@[simp] theorem outcome_always (act : Act σ α) (last : Act σ Unit) (state : σ) :
    (act.always last state).outcome =
      match (last (act state).state).outcome with
      | .ok _ => (act state).outcome
      | .error failure => .error failure := by
  cases h : (last (act state).state).outcome <;> simp [always, h]

@[simp] theorem state_always (act : Act σ α) (last : Act σ Unit) (state : σ) :
    (act.always last state).state = (last (act state).state).state := by
  cases h : (last (act state).state).outcome <;> simp [always, h]

end Act

end Warden
