import Mathlib.Algebra.Order.Ring.Int
import Mathlib.Tactic.Common
import Warden.Numeric.Reading

/-!
# Rounding keeps the order

Rounding to 53 significant bits keeps the order of numbers and leaves rounded numbers alone. So a
moment is never after the rounded sum of it and a duration, although the sum may be the moment
itself.

## Main definitions

* `Seconds.IsRounded`: a moment that rounding leaves alone
* `firstPastReals`: the first integer past the largest floating-point number

## Main results

* `roundUnits_mono`, `roundUnits_roundUnits`: rounding of magnitudes
* `Double.ofInt?_eq_none_iff`: the integers that no floating-point number is for
* `Seconds.le_add`: a moment is not after its sum with a duration
-/

namespace Warden.Numeric

/-! ## Quotients -/

theorem roundQuotient_eq (numerator denominator : Nat) :
    roundQuotient numerator denominator =
      if 2 * (numerator % denominator) < denominator then numerator / denominator
      else if denominator < 2 * (numerator % denominator) then numerator / denominator + 1
      else if numerator / denominator % 2 == 0 then numerator / denominator
      else numerator / denominator + 1 := rfl

/-- A quotient that is at least a number is rounded to at least that number. -/
theorem le_roundQuotient {m numerator denominator : Nat} (hpos : 0 < denominator)
    (h : m * denominator ≤ numerator) : m ≤ roundQuotient numerator denominator := by
  have hquotient : m ≤ numerator / denominator := (Nat.le_div_iff_mul_le hpos).mpr h
  rw [roundQuotient_eq]
  split_ifs <;> omega

theorem roundQuotient_le_succ (numerator denominator : Nat) :
    roundQuotient numerator denominator ≤ numerator / denominator + 1 := by
  rw [roundQuotient_eq]
  split_ifs <;> omega

/-- A number of denominators is not rounded. -/
theorem roundQuotient_mul (m : Nat) {denominator : Nat} (hpos : 0 < denominator) :
    roundQuotient (m * denominator) denominator = m := by
  rw [roundQuotient_eq, Nat.mul_mod_left, Nat.mul_div_cancel _ hpos, if_pos (by omega)]

theorem roundQuotient_mono {a b denominator : Nat} (hpos : 0 < denominator) (h : a ≤ b) :
    roundQuotient a denominator ≤ roundQuotient b denominator := by
  rcases Nat.lt_or_ge (a / denominator) (b / denominator) with hlt | hge
  · calc roundQuotient a denominator
        ≤ a / denominator + 1 := roundQuotient_le_succ ..
      _ ≤ roundQuotient b denominator :=
          le_roundQuotient hpos ((Nat.mul_le_mul_right _ hlt).trans (Nat.div_mul_le_self ..))
  · -- Both quotients are the same, and the rests are in order.
    have heq : a / denominator = b / denominator := Nat.le_antisymm (Nat.div_le_div_right h) hge
    have ha := Nat.div_add_mod a denominator
    have hb := Nat.div_add_mod b denominator
    rw [heq] at ha
    rw [roundQuotient_eq, roundQuotient_eq, heq]
    split_ifs <;> omega

/-- A quotient that is at most a number is rounded to at most that number. -/
theorem roundQuotient_le {m numerator denominator : Nat} (hpos : 0 < denominator)
    (h : numerator ≤ m * denominator) : roundQuotient numerator denominator ≤ m :=
  (roundQuotient_mono hpos h).trans_eq (roundQuotient_mul m hpos)

/-! ## Magnitudes -/

theorem unitStep_pos (units : Nat) : 0 < unitStep units :=
  Nat.pow_pos (by decide)

/-- A power of two as a number of steps. -/
theorem pow_eq_mul_unitStep {units exponent : Nat} (h : units.log2 + 1 - 53 ≤ exponent) :
    2 ^ exponent = 2 ^ (exponent - (units.log2 + 1 - 53)) * unitStep units :=
  (Nat.pow_sub_mul_pow 2 h).symm

/-- A magnitude is rounded to at most the next power of two. -/
theorem roundUnits_le_pow (units : Nat) : roundUnits units ≤ 2 ^ (units.log2 + 1) := by
  have hpow := pow_eq_mul_unitStep (show units.log2 + 1 - 53 ≤ units.log2 + 1 by omega)
  rw [roundUnits, hpow]
  refine Nat.mul_le_mul_right _ (roundQuotient_le (unitStep_pos units) ?_)
  rw [← hpow]
  exact Nat.lt_log2_self.le

/-- A magnitude is rounded to at least the last power of two. -/
theorem pow_le_roundUnits {units : Nat} (hne : units ≠ 0) :
    2 ^ units.log2 ≤ roundUnits units := by
  have hpow := pow_eq_mul_unitStep (show units.log2 + 1 - 53 ≤ units.log2 by omega)
  rw [roundUnits, hpow]
  refine Nat.mul_le_mul_right _ (le_roundQuotient (unitStep_pos units) ?_)
  rw [← hpow]
  exact Nat.log2_self_le hne

theorem log2_mono {a b : Nat} (hne : a ≠ 0) (h : a ≤ b) : a.log2 ≤ b.log2 :=
  (Nat.le_log2 (by omega)).mpr ((Nat.log2_self_le hne).trans h)

/-- **Rounding keeps the order** of magnitudes. -/
theorem roundUnits_mono {a b : Nat} (h : a ≤ b) : roundUnits a ≤ roundUnits b := by
  rcases Nat.eq_zero_or_pos a with rfl | hpos
  · exact Nat.zero_le _
  · have hlog := log2_mono hpos.ne' h
    rcases hlog.lt_or_eq with hlt | heq
    · calc roundUnits a
          ≤ 2 ^ (a.log2 + 1) := roundUnits_le_pow a
        _ ≤ 2 ^ b.log2 := Nat.pow_le_pow_right (by decide) hlt
        _ ≤ roundUnits b := pow_le_roundUnits (by omega)
    · have hstep : unitStep a = unitStep b := by
        rw [unitStep, unitStep, heq]
      rw [roundUnits, roundUnits, hstep]
      exact Nat.mul_le_mul_right _ (roundQuotient_mono (unitStep_pos b) h)

/-- A number of its own steps is not rounded. -/
theorem roundUnits_of_dvd {units : Nat} (h : unitStep units ∣ units) : roundUnits units = units := by
  have hquotient := Nat.div_mul_cancel h
  have hround := roundQuotient_mul (units / unitStep units) (unitStep_pos units)
  rw [hquotient] at hround
  rw [roundUnits, hround, hquotient]

/-- **Rounding twice** is rounding once. -/
theorem roundUnits_roundUnits (units : Nat) : roundUnits (roundUnits units) = roundUnits units := by
  rcases eq_or_ne units 0 with rfl | hne
  · rfl
  · refine roundUnits_of_dvd ?_
    have hlow := pow_le_roundUnits hne
    rcases (roundUnits_le_pow units).lt_or_eq with hlt | heq
    · -- The rounded magnitude has as many bits, so it has the same step.
      have hpos : roundUnits units ≠ 0 := (Nat.pow_pos (by decide) |>.trans_le hlow).ne'
      have hlog : (roundUnits units).log2 = units.log2 :=
        (Nat.log2_eq_iff hpos).mpr ⟨hlow, hlt⟩
      rw [unitStep, hlog]
      exact Nat.dvd_mul_left ..
    · -- It is the next power of two.
      rw [heq, unitStep, Nat.log2_two_pow]
      exact Nat.pow_dvd_pow 2 (by omega)

/-! ## Moments -/

namespace Seconds

/-- Rounding leaves a moment alone. -/
def IsRounded (s : Seconds) : Prop :=
  round s.units = s

theorem le_def {a b : Seconds} : a ≤ b ↔ a.units ≤ b.units := Iff.rfl

theorem lt_def {a b : Seconds} : a < b ↔ a.units < b.units := Iff.rfl

theorem units_round (n : Int) :
    (round n).units = if n < 0 then -(roundUnits n.natAbs : Int) else roundUnits n.natAbs := rfl

/-- **Rounding keeps the order** of moments. -/
theorem round_mono {m n : Int} (h : m ≤ n) : round m ≤ round n := by
  rw [le_def, units_round, units_round]
  split_ifs with hm hn hn
  · have := roundUnits_mono (show n.natAbs ≤ m.natAbs by omega)
    omega
  · omega
  · omega
  · have := roundUnits_mono (show m.natAbs ≤ n.natAbs by omega)
    omega

theorem isRounded_round (n : Int) : (round n).IsRounded := by
  have hfix := roundUnits_roundUnits n.natAbs
  unfold IsRounded round
  rcases lt_or_ge n 0 with hneg | hpos
  · simp only [hneg, if_true, Int.natAbs_neg, Int.natAbs_natCast, hfix]
    split_ifs with h
    · rfl
    · have hzero : roundUnits n.natAbs = 0 := by omega
      simp [hzero]
  · simp only [Int.not_lt.mpr hpos, if_false, Int.natAbs_natCast, hfix]
    split_ifs with h
    · omega
    · rfl

theorem isRounded_zero : (0 : Seconds).IsRounded := rfl

theorem isRounded_add (a b : Seconds) : (a + b).IsRounded :=
  isRounded_round _

/-- **A moment is not after** its sum with a duration. -/
theorem le_add {a b : Seconds} (ha : a.IsRounded) (hb : 0 ≤ b.units) : a ≤ a + b := by
  have hmono : round a.units ≤ round (a.units + b.units) := round_mono (by omega)
  rwa [ha] at hmono

end Seconds

/-! ## Delays -/

theorem signedUnits_nonneg (units : Nat) : 0 ≤ Double.signedUnits false units := by
  rw [Double.signedUnits, if_neg Bool.false_ne_true]
  exact Int.natCast_nonneg units

theorem Double.ofUnits_cases (negative : Bool) (units : Nat) :
    ofUnits negative units = finite negative (roundUnits units) ∨
      ofUnits negative units = infinite negative := by
  unfold ofUnits
  generalize unitsLimit = limit
  by_cases h : roundUnits units < limit
  · left
    simp only [h, if_true]
  · right
    simp only [h, if_false]

theorem Double.finite?_ofUnits_eq_none_iff {negative : Bool} {units : Nat} :
    (ofUnits negative units).finite? = none ↔ unitsLimit ≤ roundUnits units := by
  unfold ofUnits
  generalize unitsLimit = limit
  by_cases h : roundUnits units < limit
  · simp [h, finite?]
  · simp [h, finite?, Nat.not_lt.mp h]

/-- The first integer that is past the largest floating-point number: half a step below 2¹⁰²⁴. -/
def firstPastReals : Nat :=
  Nat.pow 2 1024 - Nat.pow 2 970

theorem roundUnits_firstPastReals : roundUnits (firstPastReals * unitsPerOne) = unitsLimit := by
  decide +kernel

theorem roundUnits_before_firstPastReals :
    roundUnits (firstPastReals * unitsPerOne - 1) < unitsLimit := by
  decide +kernel

theorem unitsPerOne_pos : 0 < unitsPerOne := by
  decide +kernel

/-- **An integer past the largest number**: rounding keeps the order, so it is enough to round the
first such integer and the number of units before it. -/
theorem Double.ofInt?_eq_none_iff {n : Int} : ofInt? n = none ↔ firstPastReals ≤ n.natAbs := by
  rw [ofInt?, ofInt, finite?_ofUnits_eq_none_iff]
  constructor
  · intro hpast
    by_contra hsmall
    have hlt : n.natAbs * unitsPerOne < firstPastReals * unitsPerOne :=
      Nat.mul_lt_mul_of_pos_right (Nat.not_le.mp hsmall) unitsPerOne_pos
    have hround := roundUnits_mono (Nat.le_sub_one_of_lt hlt)
    exact absurd (hpast.trans hround) (Nat.not_le.mpr roundUnits_before_firstPastReals)
  · intro hpast
    rw [← roundUnits_firstPastReals]
    exact roundUnits_mono (Nat.mul_le_mul_right _ hpast)

theorem Double.ofInt_pos {n : Int} (hn : 0 < n) :
    ofInt n = ofUnits false (n.natAbs * unitsPerOne) := by
  have hsign : decide (n < 0) = false := decide_eq_false (by omega)
  unfold ofInt
  rw [hsign]

theorem Double.eq_finite {x number : Double} {negative : Bool} {units : Nat}
    (hx : x = finite negative units ∨ x = infinite negative) (h : x.finite? = some number) :
    number = finite negative units := by
  rcases hx with rfl | rfl
  · exact (Option.some.inj h).symm
  · cases h

/-- The number for an integer above zero has no sign. -/
theorem Double.eq_of_ofInt? {n : Int} {number : Double} (hn : 0 < n)
    (h : ofInt? n = some number) : ∃ units, number = .finite false units := by
  unfold ofInt? at h
  exact ⟨_, eq_finite (ofInt_pos hn ▸ ofUnits_cases false _) h⟩

/-- A finite delay above zero is a duration. -/
theorem Reading.units_nonneg {delay : Reading} {number : Double} {duration : Seconds}
    (hpos : delay.isPositive = true) (hnumber : delay.toDouble? = some number)
    (hduration : Seconds.ofDouble? number = some duration) : 0 ≤ duration.units := by
  have hfinite : ∃ units, Seconds.ofDouble? number = some ⟨Double.signedUnits false units⟩ := by
    cases delay with
    | whole n =>
      have hsign : 0 < n := of_decide_eq_true hpos
      obtain ⟨units, rfl⟩ := Double.eq_of_ofInt? hsign hnumber
      exact ⟨units, rfl⟩
    | real x =>
      obtain rfl := Option.some.inj hnumber
      cases x with
      | finite negative units =>
        cases negative with
        | false => exact ⟨units, rfl⟩
        | true => cases hpos
      | infinite | undefined => cases hduration
  obtain ⟨units, hunits⟩ := hfinite
  obtain rfl := Option.some.inj (hunits.symm.trans hduration)
  exact signedUnits_nonneg units

/-- **A delay is never over** before the moment it is counted from. -/
theorem Wake.le_of_after? {now due : Seconds} {delay : Reading} (hnow : now.IsRounded)
    (h : Wake.after? now delay = some (.at due)) : due.IsRounded ∧ now ≤ due := by
  unfold Wake.after? at h
  split_ifs at h with hpos
  · obtain ⟨number, hnumber, hwake⟩ := Option.map_eq_some_iff.mp h
    split at hwake
    · next duration hduration =>
      obtain rfl := Wake.at.inj hwake
      exact ⟨Seconds.isRounded_add .., Seconds.le_add hnow
        (delay.units_nonneg hpos hnumber hduration)⟩
    · cases hwake
  · cases h

/-- A delay that is not past the largest number can be waited for. -/
theorem Wake.isSome_after? {delay : Reading} (h : delay.toDouble?.isSome = true) (now : Seconds) :
    (Wake.after? now delay).isSome = true := by
  unfold Wake.after?
  split_ifs
  · rwa [Option.isSome_map]
  · rfl

end Warden.Numeric
