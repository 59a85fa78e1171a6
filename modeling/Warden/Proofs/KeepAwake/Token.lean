import Mathlib.Tactic.Common
import Warden.KeepAwake.Token

/-!
# What taking the token and giving it back come to

The token is held exactly between a time when the inhibitor agreed to block suspension and the next
time when it is asked to let go. Entering a block fails only when the inhibitor fails in some other
way than not being available.

## Main results

* `outcome_acquire`, `state_acquire`: taking the token
* `state_release`: giving it back, whatever the inhibitor answers
* `outcome_enter`, `state_enter`: taking it for a block
-/

namespace Warden.KeepAwake

variable {ε α : Type} (inhibitor : Inhibitor ε) (awake : Awake ε)

@[simp] theorem run_outside (act : Act ε α) :
    outside act awake =
      ⟨(act awake.outside).outcome, { awake with outside := (act awake.outside).state },
        (act awake.outside).log⟩ := rfl

@[simp] theorem run_mark (held : Bool) :
    (mark held : Act (Awake ε) Unit) awake =
      ⟨.ok (), { awake with token := { awake.token with held } }, []⟩ := rfl

/-- The inhibitor is asked for a token that is not held. -/
def asked : Report ε Unit :=
  inhibitor.acquire awake.token.name awake.outside

/-- Taking the token fails as the inhibitor does. -/
theorem outcome_acquire :
    (acquire inhibitor awake).outcome =
      if awake.token.held then .ok () else (asked inhibitor awake).outcome := by
  rw [acquire, Act.outcome_bind, asked]
  by_cases hheld : awake.token.held
  · simp [hheld]
  · cases hasked : (inhibitor.acquire awake.token.name awake.outside).outcome <;>
      simp [hheld, hasked]

/-- The token is held after it was taken, unless the inhibitor failed. -/
theorem state_acquire :
    (acquire inhibitor awake).state =
      if awake.token.held then awake
      else
        { token := { awake.token with held := (asked inhibitor awake).outcome matches .ok _ }
          outside := (asked inhibitor awake).state } := by
  rw [acquire, Act.state_bind, asked]
  by_cases hheld : awake.token.held
  · simp [hheld]
  · have hname : { awake.token with held := false } = awake.token := by
      rw [← Bool.eq_false_iff.mpr hheld]
    cases hasked : (inhibitor.acquire awake.token.name awake.outside).outcome <;>
      simp [hheld, hasked, hname]

/-- **The token is not held** after it was given back, whatever the inhibitor answers; the inhibitor
is asked to let go exactly when the token was held. -/
theorem state_release :
    (release inhibitor awake).state =
      if awake.token.held then
        { token := { awake.token with held := false }
          outside := (inhibitor.release awake.outside).state }
      else awake := by
  rw [release, Act.state_bind]
  by_cases hheld : awake.token.held
  · cases hlet : (inhibitor.release awake.outside).outcome with
    | ok => simp [hheld, hlet]
    | error failure => by_cases hsystem : failure.isSystem <;> simp [hheld, hlet, hsystem]
  · simp [hheld]

/-- A block is entered unless the inhibitor fails in some other way than not being available. -/
theorem outcome_enter :
    (enter inhibitor awake).outcome =
      match (acquire inhibitor awake).outcome with
      | .ok _ => .ok (acquire inhibitor awake).state.token.held
      | .error failure =>
        if failure.isUnavailable then .ok (acquire inhibitor awake).state.token.held
        else .error failure := by
  rw [enter, Act.outcome_bind]
  cases hacquire : (acquire inhibitor awake).outcome with
  | ok => simp [hacquire]
  | error failure => by_cases hmild : failure.isUnavailable <;> simp [hacquire, hmild]

/-- Entering a block takes the token. -/
theorem state_enter :
    (enter inhibitor awake).state = (acquire inhibitor awake).state := by
  rw [enter, Act.state_bind]
  cases hacquire : (acquire inhibitor awake).outcome with
  | ok => simp [hacquire]
  | error failure => by_cases hmild : failure.isUnavailable <;> simp [hacquire, hmild]

end Warden.KeepAwake
