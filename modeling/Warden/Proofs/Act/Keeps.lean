import Mathlib.Tactic.Common
import Warden.Act

/-!
# What acts keep

An act keeps a property of the state if the property holds after the act wherever it held before,
whether the act fails or not. An act that is put together from acts which keep a property keeps it
too, so that invariants are proved piece by piece along the program.

## Main definitions

* `Keeps P E act`: the act keeps `P`, and fails in no other way than `E` says
* `Ordinary`: the failures other than a cancelled wait
* `Yields P act Q`: from where `P` holds the act does not fail, and `Q` holds of its answer and the
  state after it

## Main results

* `Keeps.bind`, `Keeps.forM`, `Keeps.recover`: acts one after the other, for every element of a
  list, and after a failure
* `Keeps.view_bind`: an act that depends on what the state shows
* `Yields.bind`, `Yields.recover`: the same for what an act answers
-/

namespace Warden.Act

variable {σ τ α β : Type}

/-- Of three acts one after the other, the first two may be taken as one. -/
protected theorem bind_assoc {γ : Type} (act : Act σ α) (next : α → Act σ β) (last : β → Act σ γ) :
    (act >>= next) >>= last = act >>= fun answer => next answer >>= last := by
  funext s
  rw [run_bind, run_bind, run_bind]
  rcases act s with ⟨_ | answer, after, log⟩
  · rfl
  · dsimp only
    rw [run_bind]
    rcases next answer after with ⟨_ | _, _, _⟩
    · rfl
    · dsimp only
      rw [List.append_assoc]

section Answered

variable {act : Act σ α} {next : α → Act σ β} {s : σ} {answer : α}

/-- An act that does not fail is followed by the next one. -/
theorem outcome_bind_ok (h : (act s).outcome = .ok answer) :
    ((act >>= next) s).outcome = (next answer (act s).state).outcome := by
  rw [outcome_bind, h]

theorem state_bind_ok (h : (act s).outcome = .ok answer) :
    ((act >>= next) s).state = (next answer (act s).state).state := by
  rw [state_bind, h]

end Answered

/-- The failures other than a cancelled wait. -/
def Ordinary (failure : Failure) : Prop :=
  failure.isCancelled = false

/-- The act keeps a property of the state, and fails only in some ways. -/
structure Keeps (P : σ → Prop) (E : Failure → Prop) (act : Act σ α) : Prop where
  state : ∀ s, P s → P (act s).state
  failure : ∀ s f, P s → (act s).outcome = .error f → E f

@[simp] theorem state_raise? (failure : Option Failure) (s : σ) :
    (raise? failure s : Report σ Unit).state = s := by
  cases failure <;> rfl

namespace Keeps

variable {P : σ → Prop} {E : Failure → Prop} {act : Act σ α}

theorem pure (answer : α) : Keeps P E (Pure.pure answer : Act σ α) where
  state _ hs := hs
  failure _ _ _ hf := by cases hf

theorem view (f : σ → α) : Keeps P E (Act.view f) where
  state _ hs := hs
  failure _ _ _ hf := by cases hf

theorem note (level : Log.Level) (message : String) :
    Keeps P E (Act.note level message : Act σ Unit) where
  state _ hs := hs
  failure _ _ _ hf := by cases hf

theorem noteNumber (level : Log.Level) (number : Int) (message : String → String) :
    Keeps P E (Act.noteNumber level number message : Act σ Unit) where
  state s hs := by rwa [state_noteNumber]
  failure s f _ hf := by
    rw [outcome_noteNumber] at hf
    cases hf

theorem fail {f : Failure} (hf : E f) : Keeps P E (Act.fail f : Act σ α) where
  state _ hs := hs
  failure _ _ _ heq := by
    cases heq
    exact hf

theorem modify {f : σ → σ} (hf : ∀ s, P s → P (f s)) : Keeps P E (Act.modify f) where
  state := hf
  failure _ _ _ heq := by cases heq

theorem ofExcept {answer : Except Failure α} (h : ∀ f, answer = .error f → E f) :
    Keeps P E (Act.ofExcept answer : Act σ α) where
  state _ hs := hs
  failure _ f _ hf := h f hf

theorem raise? {failure : Option Failure} (h : ∀ f, failure = some f → E f) :
    Keeps P E (Act.raise? failure : Act σ Unit) := by
  cases failure with
  | none => exact pure ()
  | some f => exact fail (h f rfl)

/-- **One act after the other.** -/
theorem bind {next : α → Act σ β} (hact : Keeps P E act) (hnext : ∀ answer, Keeps P E (next answer)) :
    Keeps P E (act >>= next) where
  state s hs := by
    rw [state_bind]
    cases houtcome : (act s).outcome with
    | ok answer => exact (hnext answer).state _ (hact.state s hs)
    | error f => exact hact.state s hs
  failure s f hs hf := by
    rw [outcome_bind] at hf
    cases houtcome : (act s).outcome with
    | ok answer =>
      rw [houtcome] at hf
      exact (hnext answer).failure _ f (hact.state s hs) hf
    | error g =>
      rw [houtcome] at hf
      obtain rfl : g = f := Except.error.inj hf
      exact hact.failure s g hs houtcome

/-- **An act that depends on what the state shows** needs to keep the property only where it is
done. -/
theorem view_bind {f : σ → α} {next : α → Act σ β}
    (hstate : ∀ s, P s → P (next (f s) s).state)
    (hfailure : ∀ s g, P s → (next (f s) s).outcome = .error g → E g) :
    Keeps P E (Act.view f >>= next) where
  state s hs := by
    rw [state_bind]
    exact hstate s hs
  failure s g hs hg := by
    rw [outcome_bind] at hg
    exact hfailure s g hs hg

theorem map (f : α → β) (hact : Keeps P E act) : Keeps P E (f <$> act) :=
  hact.bind fun answer => pure (f answer)

theorem ite {c : Prop} [Decidable c] {other : Act σ α} (hact : Keeps P E act)
    (hother : Keeps P E other) : Keeps P E (if c then act else other) := by
  split_ifs
  · exact hact
  · exact hother

theorem forM {act : α → Act σ Unit} (hact : ∀ a, Keeps P E (act a)) (items : List α) :
    Keeps P E (items.forM act) := by
  induction items with
  | nil => exact pure ()
  | cons item items ih => exact (hact item).bind fun _ => ih

theorem recover {isHandled : Failure → Bool} {handle : Failure → Act σ α} {E' : Failure → Prop}
    (hact : Keeps P E' act) (hhandle : ∀ f, Keeps P E (handle f))
    (hother : ∀ f, E' f → isHandled f = false → E f) :
    Keeps P E (Act.recover isHandled act handle) where
  state s hs := by
    rw [state_recover]
    cases (act s).outcome with
    | ok answer => exact hact.state s hs
    | error f =>
      dsimp only
      split_ifs
      · exact (hhandle f).state _ (hact.state s hs)
      · exact hact.state s hs
  failure s f hs hf := by
    rw [outcome_recover] at hf
    cases houtcome : (act s).outcome with
    | ok answer =>
      rw [houtcome] at hf
      cases hf
    | error g =>
      rw [houtcome] at hf
      dsimp only at hf
      split_ifs at hf with hhandled
      · exact (hhandle g).failure _ f (hact.state s hs) hf
      · obtain rfl : g = f := Except.error.inj hf
        exact hother g (hact.failure s g hs houtcome) (by simpa using hhandled)

/-- An act on a part of the state keeps what does not depend on that part. -/
theorem within {part : σ → τ} {put : σ → τ → σ} {act : Act τ α}
    (hput : ∀ s t, P s → P (put s t))
    (hfailure : ∀ t f, (act t).outcome = .error f → E f) :
    Keeps P E (act.within part put) where
  state s hs := hput s _ hs
  failure s f _ hf := hfailure (part s) f hf

end Keeps

/-! ## What acts answer -/

/-- From where a property holds the act answers, and another property holds of its answer and the
state after it. -/
def Yields (P : σ → Prop) (act : Act σ α) (Q : α → σ → Prop) : Prop :=
  ∀ s, P s → ∃ answer, (act s).outcome = .ok answer ∧ Q answer (act s).state

/-- An act that keeps a property and does not fail answers. -/
theorem Keeps.yields {P : σ → Prop} {act : Act σ α} (hact : Keeps P (fun _ => False) act) :
    Yields P act fun _ => P := by
  intro s hs
  cases houtcome : (act s).outcome with
  | ok answer => exact ⟨answer, rfl, hact.state s hs⟩
  | error f => exact (hact.failure s f hs houtcome).elim

namespace Yields

variable {P : σ → Prop} {act : Act σ α} {Q : α → σ → Prop} {R : β → σ → Prop}

theorem pure {answer : α} (h : ∀ s, P s → Q answer s) : Yields P (Pure.pure answer : Act σ α) Q :=
  fun s hs => ⟨answer, rfl, h s hs⟩

theorem view {f : σ → α} (h : ∀ s, P s → Q (f s) s) : Yields P (Act.view f) Q :=
  fun s hs => ⟨f s, rfl, h s hs⟩

/-- **One act after the other.** -/
theorem bind {next : α → Act σ β} (hact : Yields P act Q)
    (hnext : ∀ answer, Yields (Q answer) (next answer) R) : Yields P (act >>= next) R := by
  intro s hs
  obtain ⟨answer, houtcome, hanswer⟩ := hact s hs
  rw [outcome_bind, state_bind, houtcome]
  exact hnext answer _ hanswer

theorem ite {c : Prop} [Decidable c] {other : Act σ α} (hact : c → Yields P act Q)
    (hother : ¬c → Yields P other Q) : Yields P (if c then act else other) Q := by
  split_ifs with h
  · exact hact h
  · exact hother h

/-- **An act whose failures are handled**, each by an act that answers. -/
theorem recover {isHandled : Failure → Bool} {handle : Failure → Act σ α} {E : Failure → Prop}
    (hact : Keeps P E act) (hhandled : ∀ f, E f → isHandled f = true)
    (hanswer : ∀ answer s, P s → Q answer s) (hhandle : ∀ f, Yields P (handle f) Q) :
    Yields P (Act.recover isHandled act handle) Q := by
  intro s hs
  rw [outcome_recover, state_recover]
  cases houtcome : (act s).outcome with
  | ok answer => exact ⟨answer, rfl, hanswer answer _ (hact.state s hs)⟩
  | error f =>
    dsimp only
    rw [if_pos (hhandled f (hact.failure s f hs houtcome)),
      if_pos (hhandled f (hact.failure s f hs houtcome))]
    exact hhandle f _ (hact.state s hs)

end Yields

end Warden.Act
