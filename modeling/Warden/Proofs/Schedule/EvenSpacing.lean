import Warden.Proofs.Schedule.Moments

/-!
# Evenly spaced calls

A cadence has at most one loop that is neither over nor cancelled, and at most one call in progress.
The calls of a loop follow each other at the interval, counted from the end of one to the beginning
of the next. A cadence runs from its start to its cancel, and no call begins outside of this. The
number of ticks is the number of completed calls.

Moments come up to a nanosecond early, so the calls are as even as the clock is fine. Nothing is said
about the loop of an integer interval past the largest floating-point number, or about how a call that
restarts its own cadence stands to the calls after it.

## Main definitions

* `FollowsOn`: a call begins an interval after the call before it was completed
* `Account.IsEven`: the calls told in a chronicle are evenly spaced
* `Agenda.solo`: an agenda with one cadence

## Main results

* `evenly_spaced`: every chronicle is even at every moment, and a cadence is quiet after its cancel
-/

namespace Warden.Schedule

open Warden.Numeric

variable {κ : Type}

/-! ## Calls that follow on -/

theorem exists_of_lastOf {entries : List (Entry κ)} {n : Nat} {entry : Entry κ}
    (h : lastOf entries n = some entry) :
    ∃ between before, entries = between ++ entry :: before ∧
      ∀ other ∈ between, other.loop? ≠ some n := by
  obtain ⟨-, between, before, heq, hbetween⟩ := List.find?_eq_some_iff_append.mp h
  exact ⟨between, before, heq, fun other hother => by simpa using hbetween other hother⟩

/-- A call at a moment follows on the one before it in its loop: that call began, took its time, and
was completed, and since then the interval is over. -/
def FollowsOn (interval : κ → Reading) (key : κ) (n : Nat) (moment : Seconds)
    (earlier : List (Entry κ)) : Prop :=
  ∃ start call last between before, earlier = between ++ .completed key n last :: before ∧
    (∀ entry ∈ between, entry.loop? ≠ some n) ∧
    lastOf before n = some (.began key n start call) ∧
    CallElapsed start call last ∧ Elapsed last (interval key) moment

variable [DecidableEq κ] {interval : κ → Reading}

/-- **A call** is the first in its loop or follows on the one before it. -/
theorem Told.followsOn {later earlier : List (Entry κ)} {key : κ} {n : Nat} {moment : Seconds}
    {call : Conduct} (h : Told interval (later ++ .began key n moment call :: earlier)) :
    lastOf earlier n = none ∨ FollowsOn interval key n moment earlier := by
  obtain ⟨-, -, hfirst | ⟨last, hlast, hinterval⟩⟩ := h.justified
  · exact .inl hfirst
  · obtain ⟨between, before, rfl, hbetween⟩ := exists_of_lastOf hlast
    have hearlier : Told interval (between ++ .completed key n last :: before) := h.earlier.2
    obtain ⟨start, previous, hbegan, hcall⟩ := hearlier.justified
    exact .inr ⟨start, previous, last, between, before, rfl, hbetween, hbegan, hcall, hinterval⟩

/-! ## Even chronicles -/

/-- The calls told in a chronicle are evenly spaced, and the agenda is as the chronicle tells. -/
structure Account.IsEven (interval : κ → Reading) (account : Account κ) : Prop where
  /-- At no moment are two calls of a cadence in progress, unless one of them restarts it. -/
  calls_apart : ∀ later earlier, account.entries = later ++ earlier → ∀ key m n call other,
    Calling key earlier m call → Calling key earlier n other →
      call.restarts = false → other.restarts = false → m = n
  /-- A cadence has at most one loop that is neither over nor cancelled. -/
  loops_apart : ∀ (m n : Nat) loop other, account.agenda.timeline.loops[m]? = some loop →
    account.agenda.timeline.loops[n]? = some other → loop.owner = other.owner →
      loop.hasEnded = false → loop.cancelled = false →
      other.hasEnded = false → other.cancelled = false → m = n
  /-- A call is the first in its loop or follows on the one before it. -/
  spaced : ∀ later key n moment call earlier,
    account.entries = later ++ .began key n moment call :: earlier →
      lastOf earlier n = none ∨ FollowsOn interval key n moment earlier
  /-- No call is missed: what a loop waits for is not past. -/
  not_overdue : ∀ (n : Nat) loop, account.agenda.timeline.loops[n]? = some loop →
    loop.hasEnded = false → loop.cancelled = false →
      ∀ start delay, errand interval account.entries n = some (start, delay) →
        ∃ wake, Wake.after? start delay = some wake ∧
          ∀ due, wake = .at due → account.agenda.timeline.now ≤ due
  /-- A call begins only while its cadence is started, is completed when its time is over, and is
  interrupted only after a cancel. -/
  justified : ∀ later entry earlier, account.entries = later ++ entry :: earlier →
    Justified interval entry earlier
  /-- A cadence that is started runs until it is cancelled. -/
  running : ∀ key, (interval key).toDouble?.isSome = true →
    account.agenda.isRunning key = isOrdered key account.entries
  /-- The ticks are the completed calls. -/
  ticks : ∀ key, ∃ cadence, account.agenda.cadence? key = some cadence ∧
    cadence.ticks = completions key account.entries
  /-- All calls are told. -/
  calls : ∀ key, account.agenda.world key = beginnings key account.entries

theorem Course.isEven {account : Account κ}
    (h : Course interval none account.agenda account.entries) : account.IsEven interval where
  calls_apart later earlier hentries key m n call other hm hn hcall hother := by
    have htold := h.core.told
    rw [hentries] at htold
    exact htold.earlier.unique hm hn hcall hother
  loops_apart m n loop other hm hn howner hmLive hmKept hnLive hnKept := by
    have hmLot : account.agenda.timeline.lot? m = some loop.lot := by
      rw [Timeline.lot?, hm, Option.map_some]
    have hnLot : account.agenda.timeline.lot? n = some other.lot := by
      rw [Timeline.lot?, hn, Option.map_some]
    have hmCurrent := h.core.owned m loop.lot hmLot hmLive hmKept
    have hnCurrent := h.core.owned n other.lot hnLot hnLive hnKept
    have hsame : loop.lot.owner = other.lot.owner := howner
    rw [hsame] at hmCurrent
    exact Option.some.inj (hmCurrent.symm.trans hnCurrent)
  spaced later key n moment call earlier hentries := by
    have htold := h.core.told
    rw [hentries] at htold
    exact htold.followsOn
  not_overdue n loop hn hlive hkept start delay herrand := by
    have hlive : account.agenda.timeline.isLive n = true := by
      rw [Timeline.isLive_eq hn, hlive, Bool.not_false]
    have hkept : account.agenda.timeline.isCancelled n = false := by
      rw [Timeline.isCancelled_eq hn, hkept]
    obtain ⟨wake, hwake, hawaits⟩ :=
      h.punctual.waits n (Option.some_ne_none n).symm hlive hkept start delay herrand
    refine ⟨wake, hwake, ?_⟩
    rintro due rfl
    exact hawaits.now_le h.punctual
  justified later entry earlier hentries := by
    have htold := h.core.told
    rw [hentries] at htold
    exact htold.justified
  running key hfinite := by
    rw [← h.core.ordered, Agenda.isRunning]
    cases hcurrent : account.agenda.current? key with
    | none => rfl
    | some n => exact h.core.lasting key hfinite n hcurrent
  ticks key := by
    obtain ⟨cadence, hcadence, -, hticks⟩ := h.core.cadences key
    exact ⟨cadence, hcadence, hticks⟩
  calls := h.core.calls

/-! ## Every run is even -/

/-- **Calls are evenly spaced** at every moment, whatever the calls do and whatever is ordered. Orders
are followed from moment to moment, and after a cadence was cancelled, or cancelled and waited for, no
call of it begins until it is started again. -/
theorem evenly_spaced {agenda : Agenda κ (Calls κ)} (hfresh : agenda.IsFresh interval)
    {conduct : κ → Nat → Conduct} (hordinary : ∀ key call, (conduct key call).IsOrdinary) :
    (∀ account, Account.Reached conduct ⟨agenda, []⟩ account → account.IsEven interval) ∧
      (∀ orders : List (Order κ),
        Account.Reached conduct ⟨agenda, []⟩ ((⟨agenda, []⟩ : Account κ).after conduct orders) ∧
          ((⟨agenda, []⟩ : Account κ).after conduct orders).agenda =
            orders.foldl (fun agenda order => (order.act conduct agenda).state) agenda) ∧
      ∀ (key : κ) (orders more : List (Order κ)) (order : Order κ),
        order = .cancel key ∨ order = .close key → (∀ other ∈ more, other ≠ .start key) →
          ((⟨agenda, []⟩ : Account κ).after conduct (orders ++ order :: more)).agenda.world key =
            ((⟨agenda, []⟩ : Account κ).after conduct (orders ++ [order])).agenda.world key := by
  refine ⟨fun account hreached => (hreached.course hfresh hordinary).isEven, fun orders => ?_,
    fun key orders more order horder hmore => ?_⟩
  · exact ⟨Account.reached_after conduct _ orders, Account.agenda_after conduct _ orders⟩
  · have hbefore := (Account.reached_after conduct ⟨agenda, []⟩ orders).course hfresh hordinary
    have hoff := hbefore.isOrdered_follow hordinary horder
    have hcourse := hbefore.reached hordinary (Account.reached_follow conduct _ order)
    have hmoreCourse := hcourse.reached hordinary (Account.reached_after conduct _ more)
    rw [List.append_cons, Account.after_append, Account.after_append, Account.after_singleton,
      hcourse.core.calls, hmoreCourse.core.calls]
    exact (hcourse.quiet_after hordinary hoff hmore).beginnings

/-! ## Single cadences -/

/-- An agenda with one cadence. -/
def Agenda.solo (interval : Reading) (hpositive : interval.isPositive = true) :
    Agenda Unit (Calls Unit) :=
  { cadences := [((), { interval, interval_pos := hpositive })], world := fun _ => 0 }

theorem isFresh_solo (interval : Reading) (hpositive : interval.isPositive = true) :
    (Agenda.solo interval hpositive).IsFresh fun _ => interval where
  timeline := ⟨0, Seconds.isRounded_zero, rfl⟩
  cadences _ := ⟨_, rfl, rfl, rfl, rfl⟩
  calls _ := rfl

/-- What comes of orders for a single cadence. -/
def soloAfter (interval : Reading) (hpositive : interval.isPositive = true)
    (conduct : Nat → Conduct) (orders : List (Order Unit)) : Account Unit :=
  (⟨Agenda.solo interval hpositive, []⟩ : Account Unit).after (fun _ => conduct) orders

/-- The loop and the moment in which a call begins. -/
def Entry.beginning? : Entry κ → Option (Nat × Seconds)
  | began _ loop moment _ => some (loop, moment)
  | _ => none

/-- A call that pauses for a second. -/
def Conduct.lasting : Conduct :=
  { ending := .pauses 1 none }

/-- Calls that last a second begin every two seconds when the interval is a second. -/
theorem evenly_spaced_lasting :
    (soloAfter 1 rfl (fun _ => .lasting)
      [.start (), .advance 0, .advance 1, .advance 1, .advance 0]).IsEven (fun _ => 1) ∧
    (soloAfter 1 rfl (fun _ => .lasting)
      [.start (), .advance 0, .advance 1, .advance 1, .advance 0]).entries.filterMap
        Entry.beginning? = [(0, Seconds.ofInt 2), (0, 0)] := by
  have hordinary : ∀ (key : Unit) (call : Nat),
      ((fun _ _ => .lasting : Unit → Nat → Conduct) key call).IsOrdinary := fun _ _ => nofun
  have heven := evenly_spaced (isFresh_solo 1 rfl) hordinary
  exact ⟨heven.1 _ (heven.2.1 _).1, by decide +kernel⟩

/-! ## A run that is not even -/

/-- A little less than a second. -/
def nearlyOne : Reading :=
  .real (.finite false ((2 ^ 31 - 1) * 2 ^ 1043))

/-- **A run that is not quite even.** A call that takes no time is followed by the next one before the
interval of a second is over, as moments come up to a nanosecond early. -/
theorem unevenly_spaced :
    (soloAfter 1 rfl (fun _ => {})
        [.start (), .advance 0, .advance nearlyOne, .advance 0]).entries.filterMap
          Entry.beginning? = [(0, ⟨(2 ^ 31 - 1) * 2 ^ 1043⟩), (0, 0)] ∧
      (⟨(2 ^ 31 - 1) * 2 ^ 1043⟩ : Seconds) < 0 + Seconds.ofInt 1 := by
  decide +kernel

end Warden.Schedule
