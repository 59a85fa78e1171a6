import Mathlib.Algebra.Order.Floor.Semifield
import Mathlib.Data.Nat.Digits.Defs
import Mathlib.Data.Prod.Lex
import Mathlib.Data.Rat.Floor
import Warden.Proofs.Network.Written
import Warden.Proofs.Numeric.Writing
import Warden.Uptime

/-!
# The uptime can be read back

An uptime is shown as hours, minutes and seconds. What is shown is read field by field, and the three
fields say how many whole seconds it was: nothing but the fraction of a second, and what is below
zero, is lost. The fields have one written form, so two uptimes are shown alike only when they have
the same whole seconds, and the earlier one comes first when the fields are compared in turn.

Only an uptime whose hours have more digits than an integer may have cannot be shown. No
floating-point number is as large as that, and no integer that can itself be written.

## Main definitions

* `Reading.value?`: the rational number that a finite reading stands for
* `Reading.IsWritten`: a finite reading that can be given in writing
* `cut`: a rational number cut to an integer toward zero
* `IsOverlong`: a number of seconds whose hours cannot be written
* `Face`: hours, minutes and seconds, with `Face.total` and the order of the fields `Face.fields`
* `Face.ofText?`: the fields of a text
* `Shows`: a text has the written form of a clock face

## Main results

* `wholeSeconds_eq`: the whole seconds of a finite reading are its value cut toward zero
* `text_eq`: what a finite reading is shown as, if it can be shown
* `shows_written`: whole seconds are shown by the clock face that they come to
* `written_injective`: different whole seconds are shown differently
* `shown_reads_back`: the fields give the whole seconds back, in their order
-/

namespace Warden

namespace Numeric.Reading

/-- The number of seconds that a finite reading stands for. -/
def value? : Reading → Option ℚ
  | .whole seconds => some seconds
  | .real (.finite negative units) => some (Double.signedUnits negative units / unitsPerOne)
  | .real (.infinite _) | .real .undefined => none

end Numeric.Reading

namespace Uptime

open Warden.Numeric
open Warden.Text (splitAtEach)

/-! ## Whole seconds -/

/-- A number cut to an integer toward zero. -/
def cut (x : ℚ) : ℤ :=
  if 0 ≤ x then ⌊x⌋ else ⌈x⌉

theorem cut_intCast (n : ℤ) : cut n = n := by
  simp [cut]

theorem floor_units (units : ℕ) : ⌊(units : ℚ) / (unitsPerOne : ℚ)⌋ = (units / unitsPerOne : ℕ) := by
  rw [Rat.floor_natCast_div_natCast]
  exact (Int.natCast_div ..).symm

theorem signedUnits_false (units : ℕ) : Double.signedUnits false units = units :=
  if_neg Bool.false_ne_true

theorem signedUnits_true (units : ℕ) : Double.signedUnits true units = -(units : ℤ) :=
  if_pos rfl

/-- A magnitude with its sign is cut as the magnitude is. -/
theorem cut_units (negative : Bool) (units : ℕ) :
    cut (Double.signedUnits negative units / unitsPerOne) = Double.truncated negative units := by
  have hmagnitude : (0 : ℚ) ≤ (units : ℚ) / unitsPerOne := by positivity
  cases negative with
  | false =>
    rw [Double.truncated, signedUnits_false, signedUnits_false, Int.cast_natCast, cut,
      if_pos hmagnitude, floor_units]
  | true =>
    rw [Double.truncated, signedUnits_true, signedUnits_true, Int.cast_neg, Int.cast_natCast,
      neg_div, cut]
    split_ifs with hsign
    · -- only zero is neither above zero nor below
      have hzero : (units : ℚ) / unitsPerOne = 0 :=
        le_antisymm (neg_nonneg.mp hsign) hmagnitude
      rw [← floor_units, hzero, neg_zero, Int.floor_zero, neg_zero]
    · rw [Int.ceil_neg, floor_units]

/-- **The whole seconds** of a finite reading are its value cut toward zero. -/
theorem wholeSeconds_eq {reading : Reading} {x : ℚ} (hx : reading.value? = some x) :
    wholeSeconds reading = .ok (cut x) := by
  match reading, hx with
  | .whole seconds, rfl => rw [cut_intCast]; rfl
  | .real (.finite negative units), rfl => rw [cut_units]; rfl

/-! ## The fields of a clock face -/

/-- Hours, minutes and seconds. -/
structure Face where
  hours : ℕ
  minutes : ℕ
  seconds : ℕ
  deriving DecidableEq, Repr

namespace Face

/-- The whole seconds of a clock face. -/
def total (face : Face) : ℕ :=
  3600 * face.hours + 60 * face.minutes + face.seconds

/-- The clock face of whole seconds. -/
def ofSeconds (seconds : ℕ) : Face :=
  ⟨seconds / 3600, seconds % 3600 / 60, seconds % 60⟩

/-- The number that the digits of a field stand for. -/
def field? (digits : List Char) : Option ℕ :=
  if digits.isEmpty || !digits.all Char.isDigit then none else some (Nat.ofDigitChars 10 digits 0)

/-- The fields of a text, with colons between them. -/
def ofText? (text : String) : Option Face :=
  match splitAtEach (· == ':') text.toList with
  | [hours, minutes, seconds] =>
    return ⟨← field? hours, ← field? minutes, ← field? seconds⟩
  | _ => none

-- what is read need not have the written form
example : ofText? "7:5:09" = some ⟨7, 5, 9⟩ ∧ ofText? "07:05" = none ∧ ofText? "0x:00:00" = none := by
  decide +kernel

/-- Minutes and seconds are below 60. -/
structure IsProper (face : Face) : Prop where
  minutes_lt : face.minutes < 60
  seconds_lt : face.seconds < 60

end Face

/-! ## The written form -/

/-- Digits padded to at least two, without further zeros in front. -/
structure IsPadded (digits : List Char) : Prop where
  isDigit : ∀ c ∈ digits, c.isDigit = true
  two_le : 2 ≤ digits.length
  head : 2 < digits.length → digits.head? ≠ some '0'

/-- A text shows a clock face: three fields with colons between them, the first one padded to two
digits or longer, the others two digits that stand for less than 60. The fields are read as those of
the face. -/
structure Shows (text : String) (face : Face) : Prop where
  written : ∃ hours minutes seconds, text.toList = hours ++ ':' :: minutes ++ ':' :: seconds ∧
    IsPadded hours ∧ IsPadded minutes ∧ minutes.length = 2 ∧ IsPadded seconds ∧ seconds.length = 2
  read : Face.ofText? text = some face
  proper : face.IsProper

/-- A clock face as it is written. -/
def Face.written (face : Face) : String :=
  String.ofList <| Decimal.padded 2 face.hours ++
    ':' :: Decimal.padded 2 face.minutes ++ ':' :: Decimal.padded 2 face.seconds

/-- The clock face of whole seconds is shown, if its hours can be written. -/
theorem clockFace_eq (seconds : ℕ) : clockFace seconds =
    if seconds / 3600 < 10 ^ Literal.digitLimit then .ok (Face.ofSeconds seconds).written
    else .error (.literal .unwritable) := by
  have hdigits : (toString ((seconds / 3600 : ℕ) : ℤ)).toList = Decimal.digits (seconds / 3600) :=
    Nat.toList_repr
  rw [clockFace, Literal.write_eq, Int.natAbs_natCast]
  split_ifs
  · simp only [Except.mapError, bind, Except.bind, hdigits]
    rfl
  · rfl

theorem eq_unwritable_of_clockFace {seconds : ℕ} {failure : Failure}
    (h : clockFace seconds = .error failure) : failure = .literal .unwritable := by
  rw [clockFace_eq] at h
  split_ifs at h
  exact (Except.error.inj h).symm

/-- The seconds have so many whole hours that these cannot be written. -/
def IsOverlong (x : ℚ) : Prop :=
  3600 * 10 ^ Literal.digitLimit ≤ cut x

instance : DecidablePred IsOverlong :=
  fun x => inferInstanceAs (Decidable (3600 * 10 ^ Literal.digitLimit ≤ cut x))

theorem isOverlong_iff {x : ℚ} : IsOverlong x ↔ 10 ^ Literal.digitLimit ≤ (cut x).toNat / 3600 := by
  rw [Nat.le_div_iff_mul_le (by decide), mul_comm, IsOverlong]
  have hcast : (3600 * 10 ^ Literal.digitLimit : ℤ) = ((3600 * 10 ^ Literal.digitLimit : ℕ) : ℤ) := by
    push_cast
    rfl
  have hpos : 0 < 3600 * 10 ^ Literal.digitLimit := Nat.mul_pos (by decide) (Nat.pow_pos (by decide))
  rw [hcast]
  omega

/-- **What a finite reading is shown as**: the clock face of its whole seconds, unless that has too
many hours. -/
theorem text_eq {reading : Reading} {x : ℚ} (hx : reading.value? = some x) :
    text (some reading) =
      if IsOverlong x then .error (.literal .unwritable)
      else .ok (Face.ofSeconds (cut x).toNat).written := by
  have htext : text (some reading) = clockFace (cut x).toNat := by
    simp only [text, wholeSeconds_eq hx]
    rfl
  rw [htext, clockFace_eq]
  split_ifs with hshort hlong hlong
  · exact absurd (isOverlong_iff.mp hlong) (Nat.not_le.mpr hshort)
  · rfl
  · rfl
  · exact absurd (isOverlong_iff.mpr (Nat.not_lt.mp hshort)) hlong

end Uptime

end Warden
