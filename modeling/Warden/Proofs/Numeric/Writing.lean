import Mathlib.Algebra.Ring.Nat
import Warden.Numeric.Literal

/-!
# Which integers are written

An integer is written in decimal exactly when it stays below the power of ten that has one digit more
than a number may have, whatever its sign.

## Main results

* `write_eq`: the text of an integer, or why it has none
* `eq_unwritable_of_write`: why an integer is not written
-/

namespace Warden.Numeric.Literal

variable {number : Int}

theorem isWritable_iff : isWritable number = true ↔ number.natAbs < 10 ^ digitLimit := by
  rw [isWritable, decide_eq_true_iff]
  exact Nat.length_toDigits_le_iff (by decide) (by decide)

/-- **The text of an integer** is its decimal notation, if that has not too many digits. -/
theorem write_eq (number : Int) :
    write number =
      if number.natAbs < 10 ^ digitLimit then .ok (toString number) else .error .unwritable := by
  simp only [write, isWritable_iff]

theorem write_of_lt (h : number.natAbs < 10 ^ digitLimit) : write number = .ok (toString number) := by
  rw [write_eq, if_pos h]

/-- Only an integer that is too long is not written. -/
theorem eq_unwritable_of_write {fault : Fault} (h : write number = .error fault) :
    fault = .unwritable := by
  rw [write] at h
  split at h <;> cases h
  rfl

end Warden.Numeric.Literal
