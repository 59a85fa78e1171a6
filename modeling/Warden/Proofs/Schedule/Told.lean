import Warden.Proofs.Schedule.Chronicle
import Warden.Proofs.Schedule.Waits

/-!
# What a chronicle may tell

Every entry of a chronicle has to be justified by the entries before it. A call begins while its
cadence is started and no other call of it is in progress, and either it is the first in its loop or
the interval since the end of the last one is over. The one exception is a call that has cancelled
its cadence and started it again and pauses then: it may still be in progress when the next loop has
its first call. A call is completed when its pause is over, or at once. A call is interrupted only
after its cadence was cancelled.

## Main definitions

* `lastOf`: the last entry about a loop
* `isOrdered`: the last order for a cadence is a start
* `Calling`, `InProgress`: the call of a cadence in a loop has begun, and has not come to an end
* `Justified`, `Told`: an entry is justified by earlier ones, and every entry is

## Main results

* `Told.unique`: at most one call of a cadence is in progress, apart from calls that restart it
* `Told.justified`: every entry is justified by those before it
-/

namespace Warden.Schedule

open Warden.Numeric

variable {κ : Type}

/-! ## Entries about a loop -/

/-- The last entry about a loop. -/
def lastOf (entries : List (Entry κ)) (n : Nat) : Option (Entry κ) :=
  entries.find? fun entry => entry.loop? == some n

theorem lastOf_cons_self {entry : Entry κ} {n : Nat} (h : entry.loop? = some n)
    (entries : List (Entry κ)) : lastOf (entry :: entries) n = some entry :=
  List.find?_cons_of_pos (by simpa using h)

theorem lastOf_cons_of_ne {entry : Entry κ} {n : Nat} (h : entry.loop? ≠ some n)
    (entries : List (Entry κ)) : lastOf (entry :: entries) n = lastOf entries n :=
  List.find?_cons_of_neg (by simpa using h)

/-- The entries since the last one about a loop. -/
def sinceLast (entries : List (Entry κ)) (n : Nat) : List (Entry κ) :=
  entries.takeWhile fun entry => entry.loop? != some n

theorem sinceLast_cons_of_ne {entry : Entry κ} {n : Nat} (h : entry.loop? ≠ some n)
    (entries : List (Entry κ)) :
    sinceLast (entry :: entries) n = entry :: sinceLast entries n :=
  List.takeWhile_cons_of_pos (by simpa using h)

/-- A call of a cadence has begun in a loop, and has not come to an end. -/
def Calling (key : κ) (entries : List (Entry κ)) (n : Nat) (call : Conduct) : Prop :=
  ∃ moment, lastOf entries n = some (.began key n moment call)

/-- Some call of a cadence is in progress in a loop. -/
def InProgress (key : κ) (entries : List (Entry κ)) (n : Nat) : Prop :=
  ∃ call, Calling key entries n call

theorem loop?_started (key : κ) (n : Nat) : (Entry.started key).loop? ≠ some n :=
  nofun

theorem loop?_cancelled (key : κ) (n : Nat) : (Entry.cancelled key).loop? ≠ some n :=
  nofun

theorem calling_cons_iff {key : κ} {entry : Entry κ} {n : Nat} (h : entry.loop? ≠ some n)
    {entries : List (Entry κ)} {call : Conduct} :
    Calling key (entry :: entries) n call ↔ Calling key entries n call := by
  rw [Calling, Calling, lastOf_cons_of_ne h]

/-- What a loop waits for, as its last entry has it: the end of a pause, or the next call. -/
def errand (interval : κ → Reading) (entries : List (Entry κ)) : Timeline.Errands := fun n =>
  match lastOf entries n with
  | some (.completed key _ moment) => some (moment, interval key)
  | some (.began _ _ moment call) => call.ending.delay?.map (moment, ·)
  | _ => none

/-- An order leaves what the loops wait for. -/
theorem errand_cons {entry : Entry κ} (interval : κ → Reading) (h : entry.loop? = none)
    (entries : List (Entry κ)) : errand interval (entry :: entries) = errand interval entries := by
  funext n
  rw [errand, errand, lastOf_cons_of_ne (by simp [h])]

theorem errand_completed {entries : List (Entry κ)} {n : Nat} {key : κ} {moment : Seconds}
    (interval : κ → Reading) (h : lastOf entries n = some (.completed key n moment)) :
    errand interval entries n = some (moment, interval key) := by
  rw [errand, h]

theorem errand_began {entries : List (Entry κ)} {n : Nat} {key : κ} {moment : Seconds}
    {call : Conduct} {delay : Reading} {failure : Option Failure} (interval : κ → Reading)
    (h : lastOf entries n = some (.began key n moment call))
    (hending : call.ending = .pauses delay failure) :
    errand interval entries n = some (moment, delay) := by
  rw [errand, h]
  simp [hending, Ending.delay?]

theorem errand_congr {entries others : List (Entry κ)} {n : Nat} (interval : κ → Reading)
    (h : lastOf others n = lastOf entries n) :
    errand interval others n = errand interval entries n := by
  rw [errand, errand, h]

/-! ## Entries about a cadence -/

section Orders

variable [DecidableEq κ]

/-- The last order for a cadence is a start. -/
def isOrdered (key : κ) : List (Entry κ) → Bool
  | [] => false
  | .started other :: earlier => if other = key then true else isOrdered key earlier
  | .cancelled other :: earlier => if other = key then false else isOrdered key earlier
  | _ :: earlier => isOrdered key earlier

theorem isOrdered_started (key other : κ) (entries : List (Entry κ)) :
    isOrdered other (.started key :: entries) =
      if other = key then true else isOrdered other entries := by
  rw [isOrdered]
  simp only [eq_comm]

theorem isOrdered_cancelled (key other : κ) (entries : List (Entry κ)) :
    isOrdered other (.cancelled key :: entries) =
      if other = key then false else isOrdered other entries := by
  rw [isOrdered]
  simp only [eq_comm]

/-- An entry about a loop is no order. -/
theorem isOrdered_cons_of_loop {entry : Entry κ} (h : entry.loop?.isSome = true) (key : κ)
    (entries : List (Entry κ)) : isOrdered key (entry :: entries) = isOrdered key entries := by
  cases entry with
  | started | cancelled => cases h
  | began | completed | interrupted => rfl

/-- An entry tells that a call of a cadence has begun. -/
def Entry.isBeginning (key : κ) : Entry κ → Bool
  | .began other _ _ _ => other = key
  | _ => false

/-- An entry tells that a call of a cadence was completed. -/
def Entry.isCompletion (key : κ) : Entry κ → Bool
  | .completed other _ _ => other = key
  | _ => false

/-- How many calls of a cadence have begun. -/
def beginnings (key : κ) (entries : List (Entry κ)) : Nat :=
  entries.countP (·.isBeginning key)

/-- How many calls of a cadence were completed. -/
def completions (key : κ) (entries : List (Entry κ)) : Nat :=
  entries.countP (·.isCompletion key)

@[simp] theorem beginnings_cons (key : κ) (entry : Entry κ) (entries : List (Entry κ)) :
    beginnings key (entry :: entries) =
      beginnings key entries + if entry.isBeginning key then 1 else 0 :=
  List.countP_cons

@[simp] theorem completions_cons (key : κ) (entry : Entry κ) (entries : List (Entry κ)) :
    completions key (entry :: entries) =
      completions key entries + if entry.isCompletion key then 1 else 0 :=
  List.countP_cons

variable {entry : Entry κ} (h : entry.loop? = none)
include h

/-- An order is not the beginning of a call. -/
theorem beginnings_order {key : κ} {entries : List (Entry κ)} :
    beginnings key (entry :: entries) = beginnings key entries := by
  cases entry with
  | started | cancelled => rfl
  | began | completed | interrupted => cases h

/-- An order is not the end of a call. -/
theorem completions_order {key : κ} {entries : List (Entry κ)} :
    completions key (entry :: entries) = completions key entries := by
  cases entry with
  | started | cancelled => rfl
  | began | completed | interrupted => cases h

end Orders

/-! ## Justified entries -/

variable [DecidableEq κ] (interval : κ → Reading)

/-- The delay from one moment on is over at another one. -/
def Elapsed (start : Seconds) (delay : Reading) (moment : Seconds) : Prop :=
  ∃ wake, Wake.after? start delay = some wake ∧ IsOver start moment wake

/-- The time that a call takes is over: its pause, or none. A pause that is too long to be waited for
fails at once. -/
def CallElapsed (start : Seconds) (call : Conduct) (moment : Seconds) : Prop :=
  match call.ending with
  | .returns | .raises _ => moment = start
  | .pauses delay _ =>
    Elapsed start delay moment ∨ Wake.after? start delay = none ∧ moment = start

/-- An entry is justified by the ones before it. -/
def Justified : Entry κ → List (Entry κ) → Prop
  | .started _, _ | .cancelled _, _ => True
  | .began key n moment _, earlier =>
    isOrdered key earlier = true ∧ (∀ m call, Calling key earlier m call → call.restarts = true) ∧
      (lastOf earlier n = none ∨
        ∃ last, lastOf earlier n = some (.completed key n last) ∧
          Elapsed last (interval key) moment)
  | .completed key n moment, earlier =>
    ∃ start call, lastOf earlier n = some (.began key n start call) ∧
      CallElapsed start call moment
  | .interrupted key n _, earlier =>
    InProgress key earlier n ∧ .cancelled key ∈ sinceLast earlier n

/-- An order needs no justification. -/
theorem justified_order {entry : Entry κ} (h : entry.loop? = none) {earlier : List (Entry κ)} :
    Justified interval entry earlier := by
  cases entry with
  | started | cancelled => trivial
  | began | completed | interrupted => cases h

/-- Every entry is justified by the ones before it. -/
def Told : List (Entry κ) → Prop
  | [] => True
  | entry :: earlier => Justified interval entry earlier ∧ Told earlier

variable {interval}

/-- **Every entry** is justified by the ones before it. -/
theorem Told.justified {later earlier : List (Entry κ)} {entry : Entry κ}
    (h : Told interval (later ++ entry :: earlier)) : Justified interval entry earlier := by
  induction later with
  | nil => exact h.1
  | cons first later ih => exact ih h.2

theorem Told.earlier {later earlier : List (Entry κ)} (h : Told interval (later ++ earlier)) :
    Told interval earlier := by
  induction later with
  | nil => exact h
  | cons first later ih => exact ih h.2

omit [DecidableEq κ] in
/-- A call that is in progress after an entry was so before, unless the entry is its beginning. -/
theorem Calling.of_cons {key : κ} {entry : Entry κ} {entries : List (Entry κ)} {n : Nat}
    {call : Conduct} (h : Calling key (entry :: entries) n call) :
    Calling key entries n call ∨ ∃ moment, entry = .began key n moment call := by
  obtain ⟨moment, hlast⟩ := h
  by_cases hloop : entry.loop? = some n
  · rw [lastOf_cons_self hloop] at hlast
    exact .inr ⟨moment, Option.some.inj hlast⟩
  · rw [lastOf_cons_of_ne hloop] at hlast
    exact .inl ⟨moment, hlast⟩

/-- **At most one call** of a cadence is in progress, apart from calls that restart it. -/
theorem Told.unique {entries : List (Entry κ)} (h : Told interval entries) {key : κ} {m n : Nat}
    {call other : Conduct} (hm : Calling key entries m call) (hn : Calling key entries n other)
    (hcall : call.restarts = false) (hother : other.restarts = false) : m = n := by
  induction entries with
  | nil =>
    obtain ⟨moment, hlast⟩ := hm
    cases hlast
  | cons entry earlier ih =>
    obtain ⟨hentry, hearlier⟩ := h
    -- A call begins only while none is in progress but such as restart the cadence.
    rcases hm.of_cons with hmOld | ⟨moment, rfl⟩
    · rcases hn.of_cons with hnOld | ⟨moment, rfl⟩
      · exact ih hearlier hmOld hnOld
      · exact absurd (hentry.2.1 m call hmOld) (by simp [hcall])
    · rcases hn.of_cons with hnOld | ⟨last, heq⟩
      · exact absurd (hentry.2.1 n other hnOld) (by simp [hother])
      · cases heq
        rfl

end Warden.Schedule
