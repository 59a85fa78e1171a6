import Warden.Proofs.Numeric.Rounding
import Warden.Proofs.Schedule.Loops

/-!
# Waits end in time

Time passes only when nothing is left to be played, and never past a timer. So a loop that waits is
ready again at the moment that its delay is over, or less than the grain of the timeline before it,
and never later.

## Main definitions

* `HasCome`: a moment is now, or less than the grain later
* `Awaits`: how a loop stands that waits for a delay to be over
* `Punctual`: every timer is to come, and every loop stands as its delay asks
* `Wake.IsOver`: a delay is over

## Main results

* `Punctual.slept`, `Punctual.alarm`, `Punctual.beginRound`, `Punctual.atMoment`: every change keeps
  this
* `Punctual.isOver`: a loop has its turn when its delay is over
-/

namespace Warden.Schedule

open Warden.Numeric

/-- A moment is now, or less than the grain later. -/
def HasCome (due now : Seconds) : Prop :=
  now ≤ due ∧ (due ≤ now ∨ due < now + Timeline.grain)

/-- A delay from a moment on is over now. -/
def IsOver (start now : Seconds) : Wake → Prop
  | .atOnce => now = start
  | .at due => HasCome due now
  | .never => False

namespace Timeline

variable {κ : Type} {timeline other : Timeline κ} {n m : Nat}

/-- How a loop stands that waits since a moment: it is ready at once, or its timer is armed, or its
moment has come and its alarm or its turn is to be played, or there is nothing that ends its wait. -/
def Awaits (timeline : Timeline κ) (n : Nat) (start : Seconds) : Wake → Prop
  | .atOnce => timeline.isWaiting n = false ∧ timeline.now = start
  | .at due =>
    timeline.isWaiting n = true ∧ ⟨due, n⟩ ∈ timeline.timersOf n ∨
      HasCome due timeline.now ∧ (timeline.isWaiting n = true → 0 < timeline.alarms n)
  | .never => timeline.isWaiting n = true ∧ timeline.alarms n = 0 ∧ timeline.armed n = 0

theorem Awaits.untouched {start : Seconds} {wake : Wake} (h : timeline.Awaits n start wake)
    (hsame : Untouched timeline other n) (hnow : other.now = timeline.now) :
    other.Awaits n start wake := by
  have hwaits := isWaiting_congr hsame.loop
  cases wake with
  | atOnce =>
    unfold Awaits at h ⊢
    rwa [hwaits, hnow]
  | «at» due =>
    unfold Awaits at h ⊢
    rwa [hwaits, hnow, hsame.timersOf, hsame.alarms]
  | never =>
    unfold Awaits at h ⊢
    rwa [hwaits, hsame.alarms, hsame.armed]

/-- A loop that waits and has its turn has waited until its delay was over. -/
theorem Awaits.isOver {start : Seconds} {wake : Wake} (h : timeline.Awaits n start wake)
    (hidle : timeline.isWaiting n = false) : IsOver start timeline.now wake := by
  cases wake with
  | atOnce => exact h.2
  | «at» due =>
    rcases h with ⟨hwaits, -⟩ | ⟨hcome, -⟩
    · rw [hidle] at hwaits
      cases hwaits
    · exact hcome
  | never =>
    have hwaits := h.1
    rw [hidle] at hwaits
    cases hwaits

/-- What the loops wait for: since when, and how long. -/
abbrev Errands := Nat → Option (Seconds × Reading)

/-- Every timer is to come, and every loop stands as its delay asks, apart from loops that are
cancelled and one that may have its turn. -/
structure Punctual (errands : Errands) (acting : Option Nat) (timeline : Timeline κ) : Prop where
  isRounded : timeline.now.IsRounded
  timers : ∀ timer ∈ timeline.timers, timer.due.IsRounded ∧ timeline.now ≤ timer.due
  waits : ∀ n, acting ≠ some n → timeline.isLive n = true → timeline.isCancelled n = false →
    ∀ start delay, errands n = some (start, delay) →
      ∃ wake, Wake.after? start delay = some wake ∧ timeline.Awaits n start wake

variable {errands : Errands} {acting : Option Nat}

theorem Punctual.congr {others : Errands} (h : timeline.Punctual errands acting)
    (hsame : ∀ m, acting ≠ some m → others m = errands m) : timeline.Punctual others acting where
  isRounded := h.isRounded
  timers := h.timers
  waits m hm hlive hkept start delay herrand :=
    h.waits m hm hlive hkept start delay ((hsame m hm).symm.trans herrand)

/-- A change to one loop that is cancelled, has ended, or waits as its delay asks. -/
theorem Punctual.of_untouched {others : Errands} {actor : Option Nat}
    (h : timeline.Punctual errands acting) (n : Nat) (hnow : other.now = timeline.now)
    (hsame : ∀ m, n ≠ m → Untouched timeline other m)
    (hactor : ∀ m, n ≠ m → actor ≠ some m → acting ≠ some m)
    (herrands : ∀ m, n ≠ m → others m = errands m)
    (htimers : ∀ timer ∈ other.timers,
      timer ∈ timeline.timers ∨ timer.due.IsRounded ∧ timeline.now ≤ timer.due)
    (hn : actor ≠ some n → other.isLive n = true → other.isCancelled n = false →
      ∀ start delay, others n = some (start, delay) →
        ∃ wake, Wake.after? start delay = some wake ∧ other.Awaits n start wake) :
    other.Punctual others actor where
  isRounded := hnow ▸ h.isRounded
  timers timer htimer := by
    rw [hnow]
    exact (htimers timer htimer).elim (h.timers timer) id
  waits m hm hlive hkept start delay herrand := by
    by_cases heq : n = m
    · subst heq
      exact hn hm hlive hkept start delay herrand
    · have hloop := (hsame m heq).loop
      rw [isLive_congr hloop] at hlive
      rw [isCancelled_congr hloop] at hkept
      rw [herrands m heq] at herrand
      obtain ⟨wake, hwake, hawaits⟩ :=
        h.waits m (hactor m heq hm) hlive hkept start delay herrand
      exact ⟨wake, hwake, hawaits.untouched (hsame m heq) hnow⟩

/-! ## Changes keep this -/

theorem now_cancel (n : Nat) : (timeline.cancel n).now = timeline.now := by
  rw [cancel_eq]
  split_ifs <;> rfl

theorem timers_cancel {timer : Timer} (h : timer ∈ (timeline.cancel n).timers) :
    timer ∈ timeline.timers := by
  rw [cancel_eq] at h
  split_ifs at h
  · exact (List.mem_filter.mp h).1
  · exact h
  · exact h

theorem Punctual.cancel (h : timeline.Punctual errands acting) (n : Nat) :
    (timeline.cancel n).Punctual errands acting := by
  refine h.of_untouched n (now_cancel n) (fun m hm => untouched_cancel hm) (fun _ _ => id)
    (fun _ _ => rfl) (fun timer htimer => .inl (timers_cancel htimer)) ?_
  -- Nothing is asked of a loop that is cancelled.
  intro _ hlive hkept
  rw [isLive_cancel] at hlive
  rw [isCancelled_cancel hlive] at hkept
  cases hkept

theorem now_finish (failure : Option Failure) : (timeline.finish n failure).now = timeline.now := by
  unfold finish
  dsimp only
  split_ifs <;> rfl

theorem timers_finish (failure : Option Failure) :
    (timeline.finish n failure).timers = timeline.timers := by
  unfold finish
  dsimp only
  split_ifs <;> rfl

theorem isLive_finish (hlive : timeline.isLive n = true) (failure : Option Failure) :
    (timeline.finish n failure).isLive n = false := by
  unfold finish
  dsimp only
  split_ifs
  · exact isLive_inPhase hlive _
  · exact isLive_inPhase hlive _

theorem Punctual.finish {others : Errands} (h : timeline.Punctual errands (some n))
    (herrands : ∀ m, n ≠ m → others m = errands m) (hlive : timeline.isLive n = true)
    (failure : Option Failure) : (timeline.finish n failure).Punctual others none := by
  refine h.of_untouched n (now_finish failure) (fun m hm => untouched_finish hm failure)
    (fun m hm _ heq => hm (Option.some.inj heq)) herrands (fun timer htimer => .inl ?_) ?_
  · rwa [timers_finish] at htimer
  · intro _ hended
    rw [isLive_finish hlive] at hended
    cases hended

theorem now_alarm (timeline : Timeline κ) (n : Nat) : (timeline.alarm n).now = timeline.now := by
  unfold alarm
  split_ifs <;> rfl

theorem timers_alarm (timeline : Timeline κ) (n : Nat) :
    (timeline.alarm n).timers = timeline.timers := by
  unfold alarm
  split_ifs <;> rfl

theorem isLive_alarm (timeline : Timeline κ) (n : Nat) :
    (timeline.alarm n).isLive n = timeline.isLive n := by
  unfold alarm
  split_ifs
  · exact isLive_ready n n
  · rfl

theorem isCancelled_alarm (timeline : Timeline κ) (n : Nat) :
    (timeline.alarm n).isCancelled n = timeline.isCancelled n := by
  unfold alarm
  split_ifs
  · exact isCancelled_ready n n
  · rfl

theorem isWaiting_alarm (timeline : Timeline κ) (n : Nat) :
    (timeline.alarm n).isWaiting n = false := by
  unfold alarm
  split_ifs with hwaits
  · exact isWaiting_ready n
  · exact Bool.eq_false_iff.mpr hwaits

theorem now_slept (phase : Phase) (wake : Wake) :
    (timeline.slept n phase wake).now = timeline.now := by
  unfold slept
  dsimp only
  split_ifs
  · rfl
  · cases wake <;> rfl

/-- The timers of a loop that waits: one more, if its delay has an end. -/
theorem timers_slept {phase : Phase} {wake : Wake} {timer : Timer}
    (h : timer ∈ (timeline.slept n phase wake).timers) :
    timer ∈ timeline.timers ∨ ∃ due, wake = .at due ∧ timer = ⟨due, n⟩ := by
  unfold slept at h
  dsimp only at h
  split_ifs at h
  · exact .inl h
  · cases wake with
    | atOnce | never => exact .inl h
    | «at» due =>
      rcases List.mem_append.mp h with hold | hnew
      · exact .inl hold
      · exact .inr ⟨due, rfl, List.mem_singleton.mp hnew⟩

theorem isCancelled_slept (phase : Phase) (wake : Wake) :
    (timeline.slept n phase wake).isCancelled n = timeline.isCancelled n := by
  unfold slept
  dsimp only
  split_ifs
  · exact (isCancelled_ready n n).trans (isCancelled_inPhase n n phase)
  · cases wake with
    | atOnce => exact (isCancelled_ready n n).trans (isCancelled_inPhase n n phase)
    | «at» | never => exact (isCancelled_paused n n).trans (isCancelled_inPhase n n phase)

/-- A loop that was not cancelled stands as its delay asks. -/
theorem awaits_slept (h : timeline.Acting n) {phase : Phase}
    (hphase : (phase matches .ended _) = false) (hkept : timeline.isCancelled n = false)
    (wake : Wake) : (timeline.slept n phase wake).Awaits n timeline.now wake := by
  have hset := h.inPhase hphase
  unfold slept
  dsimp only
  rw [if_neg (Bool.eq_false_iff.mp hkept)]
  cases wake with
  | atOnce => exact ⟨isWaiting_ready n, rfl⟩
  | «at» due =>
    refine .inl ⟨isWaiting_paused hset.isLive, ?_⟩
    exact List.mem_filter.mpr ⟨List.mem_append_right _ (List.mem_singleton_self _), by simp⟩
  | never => exact ⟨isWaiting_paused hset.isLive, h.alarms hkept, h.armed⟩

/-- **A loop whose turn is over** waits as its delay asks. -/
theorem Punctual.slept {others : Errands} (h : timeline.Punctual errands (some n))
    (herrands : ∀ m, n ≠ m → others m = errands m) (hacting : timeline.Acting n) {phase : Phase}
    (hphase : (phase matches .ended _) = false) {delay : Reading} {wake : Wake}
    (hwake : Wake.after? timeline.now delay = some wake)
    (hn : others n = some (timeline.now, delay)) :
    (timeline.slept n phase wake).Punctual others none := by
  refine h.of_untouched n (now_slept phase wake) (fun m hm => untouched_slept hm phase wake)
    (fun m hm _ heq => hm (Option.some.inj heq)) herrands (fun timer htimer => ?_) ?_
  · rcases timers_slept htimer with hold | ⟨due, rfl, rfl⟩
    · exact .inl hold
    · -- The moment of the new timer is a rounded sum, and rounding keeps the order.
      exact .inr (Wake.le_of_after? h.isRounded hwake)
  · intro _ _ hkept start length herrand
    obtain ⟨rfl, rfl⟩ := Prod.mk.inj (Option.some.inj (hn.symm.trans herrand))
    rw [isCancelled_slept] at hkept
    exact ⟨wake, hwake, awaits_slept hacting hphase hkept wake⟩

theorem Punctual.spawn (h : timeline.Punctual errands acting) (owner : κ)
    (hfree : errands timeline.loops.size = none) :
    (timeline.spawn owner).1.Punctual errands acting := by
  refine h.of_untouched _ rfl (fun m hm => untouched_spawn owner hm.symm) (fun _ _ => id)
    (fun _ _ => rfl) (fun timer htimer => .inl htimer) ?_
  intro _ _ _ start delay herrand
  rw [hfree] at herrand
  cases herrand

theorem Punctual.await (h : timeline.Punctual errands acting) (n : Nat) :
    (timeline.await n).Punctual errands acting := by
  refine ⟨h.isRounded, h.timers, fun m hm hlive hkept start delay herrand => ?_⟩
  obtain ⟨wake, hwake, hawaits⟩ := h.waits m hm hlive hkept start delay herrand
  exact ⟨wake, hwake, hawaits.untouched (untouched_await n m) rfl⟩

/-! ## What is played -/

/-- **A round begins:** the moments of the timers that go off have come. -/
theorem Punctual.beginRound (h : timeline.Punctual errands none) :
    timeline.beginRound.Punctual errands none where
  isRounded := h.isRounded
  timers timer htimer := h.timers timer (List.mem_filter.mp htimer).1
  waits n hn hlive hkept start delay herrand := by
    obtain ⟨wake, hwake, hawaits⟩ := h.waits n hn hlive hkept start delay herrand
    refine ⟨wake, hwake, ?_⟩
    have halarms := timeline.alarms_beginRound n
    cases wake with
    | atOnce => exact hawaits
    | «at» due =>
      rcases hawaits with ⟨hwaits, htimer⟩ | ⟨hcome, halarm⟩
      · obtain ⟨hmem, hloop⟩ := List.mem_filter.mp htimer
        by_cases hoff : timeline.goesOff ⟨due, n⟩ = true
        · -- The timer goes off, and its alarm stands in the queue.
          refine .inr ⟨⟨(h.timers _ hmem).2, ?_⟩, fun _ => ?_⟩
          · have hsoon : due ≤ timeline.now ∨ due < timeline.now + grain := by
              simpa [goesOff] using hoff
            exact hsoon
          · rw [halarms]
            refine Nat.add_pos_right _ (List.countP_pos_iff.mpr ⟨_, ?_, hloop⟩)
            exact List.mem_filter.mpr ⟨hmem, hoff⟩
        · refine .inl ⟨hwaits, List.mem_filter.mpr ⟨?_, hloop⟩⟩
          exact List.mem_filter.mpr ⟨hmem, by simpa using hoff⟩
      · refine .inr ⟨hcome, fun hwaits => ?_⟩
        rw [halarms]
        exact Nat.add_pos_left (halarm hwaits) _
    | never =>
      have hsum := timeline.armed_beginRound n
      obtain ⟨hwaits, hsilent, hunarmed⟩ := hawaits
      rw [hunarmed] at hsum
      refine ⟨hwaits, ?_, by omega⟩
      rw [halarms, hsilent]
      omega

section Pop

variable {event : Event} {queue : List Event} (hqueue : timeline.queue = event :: queue) (round : Nat)
include hqueue

/-- A turn is taken from the queue, or the return of somebody who waited. -/
theorem Punctual.pop (h : timeline.Punctual errands none) (halarm : ∀ n, event ≠ .alarm n) :
    ({ timeline with queue, round } : Timeline κ).Punctual errands (actor? event) := by
  refine ⟨h.isRounded, h.timers, fun m hm hlive hkept start delay herrand => ?_⟩
  obtain ⟨wake, hwake, hawaits⟩ := h.waits m (Option.some_ne_none m).symm hlive hkept start delay
    herrand
  refine ⟨wake, hwake, hawaits.untouched (untouched_pop hqueue round ?_ (halarm m)) rfl⟩
  rintro rfl
  exact hm rfl

/-- **An alarm is played:** the wait of the loop is over. -/
theorem Punctual.alarm (h : timeline.Punctual errands none) (horder : timeline.Orderly none)
    (hevent : event = .alarm n) :
    (({ timeline with queue, round } : Timeline κ).alarm n).Punctual errands none := by
  subst hevent
  have hplaced := horder.placed n (Option.some_ne_none n).symm
  have halarms := alarms_pop hqueue round n
  rw [if_pos rfl] at halarms
  refine h.of_untouched n (now_alarm ..) (fun m hm => ?_) (fun _ _ => id) (fun _ _ => rfl)
    (fun timer htimer => .inl ?_) ?_
  · have hpop : Untouched timeline { timeline with queue, round } m :=
      untouched_pop hqueue round (by simp) fun heq => hm (Event.alarm.inj heq)
    exact hpop.trans (untouched_alarm hm)
  · rwa [timers_alarm] at htimer
  · intro hn hlive hkept start delay herrand
    rw [isLive_alarm] at hlive
    rw [isCancelled_alarm] at hkept
    obtain ⟨wake, hwake, hawaits⟩ := h.waits n hn hlive hkept start delay herrand
    refine ⟨wake, hwake, ?_⟩
    have hidle := isWaiting_alarm ({ timeline with queue, round } : Timeline κ) n
    cases wake with
    | atOnce => exact ⟨hidle, (now_alarm ..).trans hawaits.2⟩
    | «at» due =>
      rcases hawaits with ⟨hwaits, htimer⟩ | ⟨hcome, -⟩
      · -- A loop that waits has no timer beside its alarm.
        have hall := hplaced.alarms hkept
        have harmed : 0 < timeline.armed n := by
          obtain ⟨hmem, hloop⟩ := List.mem_filter.mp htimer
          exact List.countP_pos_iff.mpr ⟨_, hmem, hloop⟩
        rw [hwaits, if_pos rfl] at hall
        omega
      · refine .inr ⟨(now_alarm ({ timeline with queue, round } : Timeline κ) n).symm ▸ hcome, ?_⟩
        intro hwaits
        rw [hidle] at hwaits
        cases hwaits
    | never =>
      have hsilent := hawaits.2.1
      omega

end Pop

/-- **Time passes** while nothing is left to be played, and not past any timer. -/
theorem Punctual.atMoment (h : timeline.Punctual errands none) (horder : timeline.Orderly none)
    (hqueue : timeline.queue = []) {moment : Seconds} (hmoment : moment.IsRounded)
    (hbefore : ∀ timer ∈ timeline.timers, moment ≤ timer.due) :
    ({ timeline with now := moment } : Timeline κ).Punctual errands none where
  isRounded := hmoment
  timers timer htimer := ⟨(h.timers timer htimer).1, hbefore timer htimer⟩
  waits n hn hlive hkept start delay herrand := by
    obtain ⟨wake, hwake, hawaits⟩ := h.waits n hn hlive hkept start delay herrand
    refine ⟨wake, hwake, ?_⟩
    have hlive : timeline.isLive n = true := hlive
    -- The turn of a loop that does not wait would be left to be played.
    have hwaits : timeline.isWaiting n = true := by
      have hturns := (horder.placed n hn).turns
      rw [turns, hqueue, hlive, Bool.true_and, List.count_nil] at hturns
      cases hwaits : timeline.isWaiting n with
      | true => rfl
      | false => simp [hwaits] at hturns
    cases wake with
    | atOnce =>
      rw [hawaits.1] at hwaits
      cases hwaits
    | «at» due =>
      rcases hawaits with hpending | ⟨-, halarm⟩
      · exact .inl hpending
      · have hsome := halarm hwaits
        rw [alarms, hqueue, List.count_nil] at hsome
        exact absurd hsome (Nat.lt_irrefl 0)
    | never => exact hawaits

/-- **A loop that waits for a moment** is never left waiting after it. -/
theorem Awaits.now_le {start due : Seconds} (h : timeline.Awaits n start (.at due))
    (hpunctual : timeline.Punctual errands acting) : timeline.now ≤ due := by
  rcases h with ⟨-, htimer⟩ | ⟨hcome, -⟩
  · exact (hpunctual.timers _ (List.mem_filter.mp htimer).1).2
  · exact hcome.1

theorem punctual_empty {now : Seconds} (hnow : now.IsRounded) :
    ({ now } : Timeline κ).Punctual errands none where
  isRounded := hnow
  timers _ := nofun
  waits _ _ := nofun

end Timeline

end Warden.Schedule
