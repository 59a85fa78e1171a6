import Mathlib.Logic.Relation
import Warden.Proofs.Schedule.Played

/-!
# From one moment to the next

The orders are given one after the other, and in between the loops take their turns and time passes.
Each step from one moment to the next keeps the invariant, so it holds at every moment, also while an
order is being followed. As long as a cadence is not started, none of these steps begins a call of it.

## Main definitions

* `Account.Step`, `Account.Passed`: the loops go on
* `Account.Move`, `Account.Reached`: the loops go on, or an order is given
* `Agenda.IsFresh`: an agenda whose cadences were never started
* `Quiet`: no call of a cadence begins

## Main results

* `Account.Reached.course`: the invariant holds at every moment
* `Account.reached_follow`, `Account.reached_after`: orders are followed in moves
* `Course.quiet_follow`, `Course.quiet_after`: a cadence is quiet until it is started
* `Course.isOrdered_follow`: a cadence is not started after its cancel or close
-/

namespace Warden.Schedule

open Warden.Numeric

variable {κ : Type} [DecidableEq κ]

/-! ## Timers -/

namespace Timeline

theorem due_earlier (a b : Timer) :
    (earlier a b = a ∨ earlier a b = b) ∧
      (earlier a b).due ≤ a.due ∧ (earlier a b).due ≤ b.due := by
  unfold earlier
  simp only [Seconds.lt_def, Seconds.le_def]
  split_ifs with h
  · exact ⟨.inr rfl, by omega, Int.le_refl _⟩
  · exact ⟨.inl rfl, Int.le_refl _, by omega⟩

/-- The earliest of some timers is one of them, and is not due after any. -/
theorem foldl_earlier (timers : List Timer) (first : Timer) :
    timers.foldl earlier first ∈ first :: timers ∧
      ∀ timer ∈ first :: timers, (timers.foldl earlier first).due ≤ timer.due := by
  induction timers generalizing first with
  | nil =>
    refine ⟨List.mem_singleton_self _, fun timer htimer => ?_⟩
    rw [List.mem_singleton.mp htimer]
    exact Int.le_refl _
  | cons next timers ih =>
    obtain ⟨hmem, hall⟩ := ih (earlier first next)
    obtain ⟨hone, hfirst, hnext⟩ := due_earlier first next
    rw [List.foldl_cons]
    refine ⟨?_, fun timer htimer => ?_⟩
    · rcases List.mem_cons.mp hmem with heq | hrest
      · rw [heq]
        rcases hone with h | h
        · rw [h]
          exact List.mem_cons_self
        · rw [h]
          exact List.mem_cons_of_mem _ List.mem_cons_self
      · exact List.mem_cons_of_mem _ (List.mem_cons_of_mem _ hrest)
    · have hbest := hall _ List.mem_cons_self
      rcases List.mem_cons.mp htimer with rfl | hrest
      · exact Int.le_trans hbest hfirst
      · rcases List.mem_cons.mp hrest with rfl | hlater
        · exact Int.le_trans hbest hnext
        · exact hall timer (List.mem_cons_of_mem _ hlater)

variable {timeline : Timeline κ}

omit [DecidableEq κ] in
theorem nextTimer?_spec {timer : Timer} (h : timeline.nextTimer? = some timer) :
    timer ∈ timeline.timers ∧ ∀ other ∈ timeline.timers, timer.due ≤ other.due := by
  unfold nextTimer? at h
  cases htimers : timeline.timers with
  | nil => simp [htimers] at h
  | cons first rest =>
    rw [htimers] at h
    obtain rfl := Option.some.inj h
    exact foldl_earlier rest first

omit [DecidableEq κ] in
theorem queue_of_next? (h : timeline.next? = none) : timeline.queue = [] := by
  unfold next? at h
  dsimp only at h
  split at h
  · next hqueue =>
    split_ifs at hqueue with hround
    · exact (List.append_eq_nil_iff.mp hqueue).1
    · exact hqueue
  · cases h

end Timeline

/-! ## Steps -/

namespace Account

variable (conduct : κ → Nat → Conduct)

/-- The loops go on: somebody begins to wait for the end of one, an event is played, or nothing is
left to be played and time passes up to the next timer or short of it. -/
inductive Step : Account κ → Account κ → Prop
  | await (account : Account κ) (number : Nat) : Step account (account.await number)
  | play {account : Account κ} {event : Event} {taken : Agenda κ (Calls κ)}
      (hnext : account.agenda.next? = some (event, taken)) :
      Step account (play conduct event taken account.entries)
  | leap {account : Account κ} {timer : Timer} (hidle : account.agenda.next? = none)
      (htimer : account.agenda.timeline.nextTimer? = some timer) :
      Step account (account.atMoment timer.due)
  | pass {account : Account κ} {target : Seconds} (hidle : account.agenda.next? = none)
      (htarget : target.IsRounded) (hbefore : account.agenda.nextMoment? target = none) :
      Step account (account.atMoment target)

/-- What the loops come to without any order. -/
abbrev Passed : Account κ → Account κ → Prop :=
  Relation.ReflTransGen (Step conduct)

/-- What happens from one moment to the next: an order is given, or the loops go on. -/
inductive Move : Account κ → Account κ → Prop
  | start (account : Account κ) (key : κ) : Move account (account.start key)
  | cancel (account : Account κ) (key : κ) : Move account (account.cancel key)
  | step {account other : Account κ} (hstep : Step conduct account other) : Move account other

/-- An account that is reached from another one. -/
abbrev Reached : Account κ → Account κ → Prop :=
  Relation.ReflTransGen (Move conduct)

variable {conduct} in
theorem Passed.reached {account other : Account κ} (h : Passed conduct account other) :
    Reached conduct account other :=
  Relation.ReflTransGen.mono (fun _ _ => Move.step) _ _ h

end Account

/-- An agenda whose cadences were never started. -/
structure Agenda.IsFresh (interval : κ → Reading) (agenda : Agenda κ (Calls κ)) : Prop where
  timeline : ∃ now : Seconds, now.IsRounded ∧ agenda.timeline = { now }
  cadences : ∀ key, ∃ cadence, agenda.cadence? key = some cadence ∧
    cadence.interval = interval key ∧ cadence.ticks = 0 ∧ cadence.current = none
  calls : ∀ key, agenda.world key = 0

variable {interval : κ → Reading} {conduct : κ → Nat → Conduct} {agenda : Agenda κ (Calls κ)}
  {account other : Account κ}

namespace Agenda.IsFresh

variable (h : agenda.IsFresh interval)
include h

theorem current? (key : κ) : agenda.current? key = none := by
  obtain ⟨cadence, hcadence, -, -, hnone⟩ := h.cadences key
  rw [Agenda.current?, hcadence, Option.bind_some, hnone]

theorem lot? (n : Nat) : agenda.timeline.lot? n = none := by
  obtain ⟨now, -, htimeline⟩ := h.timeline
  rw [htimeline]
  rfl

/-- **The invariant holds** before anything is started. -/
theorem course : Course interval none agenda [] where
  orderly := by
    obtain ⟨now, -, htimeline⟩ := h.timeline
    rw [htimeline]
    exact Timeline.orderly_empty now
  punctual := by
    obtain ⟨now, hnow, htimeline⟩ := h.timeline
    rw [htimeline]
    exact Timeline.punctual_empty hnow
  core :=
    { cadences := fun key => by
        obtain ⟨cadence, hcadence, hinterval, hticks, -⟩ := h.cadences key
        exact ⟨cadence, hcadence, hinterval, hticks⟩
      calls := h.calls
      owned := fun n lot hfound => by cases (h.lot? n).symm.trans hfound
      current := fun key n hn => by cases (h.current? key).symm.trans hn
      ordered := fun key => by rw [h.current?, Option.isSome_none, isOrdered]
      recorded := fun n lot _ hfound => by cases (h.lot? n).symm.trans hfound
      unrecorded := fun _ _ => rfl
      told := trivial
      lasting := fun key _ n hn => by cases (h.current? key).symm.trans hn }
  clear n lot call _ hfound := by cases (h.lot? n).symm.trans hfound

end Agenda.IsFresh

/-- **Time passes** without any harm while nothing is left to be played. -/
theorem Course.atMoment {entries : List (Entry κ)} (h : Course interval none agenda entries)
    (hidle : agenda.next? = none) {moment : Seconds} (hmoment : moment.IsRounded)
    (hbefore : ∀ timer ∈ agenda.timeline.timers, moment ≤ timer.due) :
    Course interval none (agenda.atMoment moment) entries := by
  have hqueue : agenda.timeline.queue = [] :=
    Timeline.queue_of_next? (Option.map_eq_none_iff.mp hidle)
  refine h.retime (h.orderly.congr fun m => ⟨rfl, rfl, rfl, rfl⟩)
    (h.punctual.atMoment h.orderly hqueue hmoment hbefore) (fun _ => rfl) fun _ _ _ => id

/-- **Each step** of the loops keeps the invariant. -/
theorem Course.step (hordinary : ∀ key call, (conduct key call).IsOrdinary)
    (h : Course interval none account.agenda account.entries)
    (hstep : Account.Step conduct account other) :
    Course interval none other.agenda other.entries := by
  cases hstep with
  | await number =>
    refine h.retime (h.orderly.congr fun m => Timeline.untouched_await number m)
      (h.punctual.await number) (fun _ => rfl) fun _ _ _ => id
  | play hnext => exact h.play hordinary hnext
  | leap hidle htimer =>
    obtain ⟨hmem, hfirst⟩ := Timeline.nextTimer?_spec htimer
    exact h.atMoment hidle (h.punctual.timers _ hmem).1 hfirst
  | @pass target hidle htarget hbefore =>
    refine h.atMoment hidle htarget fun timer htimer => ?_
    unfold Agenda.nextMoment? at hbefore
    cases hnext : account.agenda.timeline.nextTimer? with
    | none =>
      unfold Timeline.nextTimer? at hnext
      cases htimers : account.agenda.timeline.timers with
      | nil => simp [htimers] at htimer
      | cons first rest => simp [htimers] at hnext
    | some first =>
      -- Even the first timer is due after the target.
      have hlate : ¬ first.due ≤ target := by simpa [hnext] using hbefore
      have hfirst := (Timeline.nextTimer?_spec hnext).2 timer htimer
      rw [Seconds.le_def] at hlate hfirst ⊢
      omega

/-- **Each move** keeps the invariant. -/
theorem Course.move (hordinary : ∀ key call, (conduct key call).IsOrdinary)
    (h : Course interval none account.agenda account.entries)
    (hmove : Account.Move conduct account other) :
    Course interval none other.agenda other.entries := by
  cases hmove with
  | start key => exact h.start key
  | cancel key => exact h.cancel key
  | step hstep => exact h.step hordinary hstep

theorem Course.reached (hordinary : ∀ key call, (conduct key call).IsOrdinary)
    (h : Course interval none account.agenda account.entries)
    (hreached : Account.Reached conduct account other) :
    Course interval none other.agenda other.entries := by
  induction hreached with
  | refl => exact h
  | tail _ hmove ih => exact ih.move hordinary hmove

/-- **The invariant holds** at every moment. -/
theorem Account.Reached.course (hfresh : agenda.IsFresh interval)
    (hordinary : ∀ key call, (conduct key call).IsOrdinary)
    (h : Account.Reached conduct ⟨agenda, []⟩ account) :
    Course interval none account.agenda account.entries :=
  hfresh.course.reached hordinary h

/-! ## Orders are followed in moves -/

namespace Account

variable (conduct)

theorem passed_advanceFrom {target : Seconds} (htarget : target.IsRounded) (fuel : Nat)
    (account : Account κ) : Passed conduct account (advanceFrom conduct target fuel account) := by
  induction fuel generalizing account with
  | zero => exact .refl
  | succ fuel ih =>
    rw [advanceFrom]
    cases hnext : account.agenda.next? with
    | some next => exact (ih _).head (.play hnext)
    | none =>
      cases hmoment : account.agenda.nextMoment? target with
      | none => exact .single (.pass hnext htarget hmoment)
      | some moment =>
        obtain ⟨hfirst, -⟩ := Option.filter_eq_some_iff.mp hmoment
        obtain ⟨timer, htimer, rfl⟩ := Option.map_eq_some_iff.mp hfirst
        exact (ih _).head (.leap hnext htimer)

theorem passed_waitFrom (fuel : Nat) (account : Account κ) :
    Passed conduct account (waitFrom conduct fuel account) := by
  induction fuel generalizing account with
  | zero => exact .refl
  | succ fuel ih =>
    rw [waitFrom]
    cases hnext : account.agenda.next? with
    | none => exact .refl
    | some next =>
      obtain ⟨event, taken⟩ := next
      cases event with
      | resume => exact .single (.play hnext)
      | turn | alarm => exact (ih _).head (.play hnext)

/-- The loops go on while time passes. -/
theorem passed_follow_advance (account : Account κ) (duration : Reading) :
    Passed conduct account (account.follow conduct (.advance duration)) := by
  rw [follow]
  cases hmoment : account.agenda.momentAfter duration with
  | error failure => exact .refl
  | ok target =>
    refine passed_advanceFrom conduct ?_ _ account
    unfold Agenda.momentAfter at hmoment
    split at hmoment
    · obtain rfl := Except.ok.inj hmoment
      exact Seconds.isRounded_add ..
    · cases hmoment

/-- The loops go on after a cancel until the end of the loop. -/
theorem passed_follow_close (account : Account κ) (key : κ) :
    Passed conduct (account.cancel key) (account.follow conduct (.close key)) := by
  rw [follow]
  cases account.agenda.current? key with
  | none => exact .refl
  | some number =>
    dsimp only
    split_ifs
    · exact (passed_waitFrom conduct Agenda.patience _).head (.await (account.cancel key) number)
    · exact .refl

/-- **An order is followed** in moves. -/
theorem reached_follow (account : Account κ) (order : Order κ) :
    Reached conduct account (account.follow conduct order) := by
  cases order with
  | start key => exact .single (.start account key)
  | cancel key => exact .single (.cancel account key)
  | close key => exact (passed_follow_close conduct account key).reached.head (.cancel account key)
  | advance duration => exact (passed_follow_advance conduct account duration).reached

/-- **Orders are followed** in moves. -/
theorem reached_after (account : Account κ) (orders : List (Order κ)) :
    Reached conduct account (account.after conduct orders) := by
  induction orders generalizing account with
  | nil => exact .refl
  | cons order orders ih => exact (reached_follow conduct account order).trans (ih _)

end Account

/-! ## Until the next start -/

/-- A cadence is not started, and no call of it has begun since an earlier chronicle. -/
structure Quiet (key : κ) (earlier entries : List (Entry κ)) : Prop where
  isOrdered : isOrdered key entries = false
  beginnings : beginnings key entries = beginnings key earlier

theorem Quiet.trans {key : κ} {first second third : List (Entry κ)} (h : Quiet key first second)
    (k : Quiet key second third) : Quiet key first third :=
  ⟨k.isOrdered, k.beginnings.trans h.beginnings⟩

/-- An entry that is neither a start of a cadence nor the beginning of a call of it. -/
theorem Quiet.cons {key : κ} {earlier entries : List (Entry κ)} (h : Quiet key earlier entries)
    {entry : Entry κ} (hbeginning : entry.isBeginning key = false)
    (hstart : ∀ other, entry = .started other → key ≠ other) :
    Quiet key earlier (entry :: entries) where
  isOrdered := by
    cases entry with
    | started other => exact (isOrdered_started ..).trans ((if_neg (hstart other rfl)).trans h.1)
    | cancelled other =>
      rw [isOrdered_cancelled, h.1, ite_self]
    | began | completed | interrupted => exact h.1
  beginnings := by
    rw [beginnings_cons, hbeginning]
    exact h.2

/-- The requests of calls of another cadence. -/
theorem Quiet.requests {key owner : κ} {earlier entries : List (Entry κ)}
    (h : Quiet key earlier entries) (hne : key ≠ owner) (requests : List Request) :
    Quiet key earlier ((requests.map (Request.entry owner)).reverse ++ entries) := by
  induction requests using List.reverseRecOn with
  | nil => exact h
  | append_singleton requests request ih =>
    rw [List.map_append, List.reverse_append]
    refine ih.cons ?_ ?_
    · cases request <;> rfl
    · rintro other heq
      cases request with
      | start =>
        obtain rfl := Entry.started.inj heq
        exact hne
      | cancel => cases heq

/-- A cadence that is not started has no call that could start it. -/
theorem quiet_callTidings {key owner : κ} {n : Nat} {now : Seconds} {call : Conduct}
    {entries : List (Entry κ)} (htold : Told interval (callTidings owner n now call ++ entries))
    (hoff : isOrdered key entries = false) :
    Quiet key entries (callTidings owner n now call ++ entries) := by
  rw [callTidings_append] at htold ⊢
  have hbegan := htold.earlier.justified
  have hne : key ≠ owner := by
    rintro rfl
    cases hoff.symm.trans hbegan.1
  have hbegun : Quiet key entries (.began owner n now call :: entries) :=
    Quiet.cons ⟨hoff, rfl⟩ (decide_eq_false hne.symm) nofun
  have hquiet := hbegun.requests hne call.requests
  have hcompleted : Quiet key entries (.completed owner n now ::
      ((call.requests.map (Request.entry owner)).reverse ++ .began owner n now call :: entries)) :=
    hquiet.cons rfl nofun
  split_ifs
  · exact hquiet
  · exact hcompleted

/-- **An event** does not begin a call of a cadence that is not started. -/
theorem quiet_tidings {key : κ} {event : Event} {entries : List (Entry κ)}
    (htold : Told interval (tidings conduct agenda event ++ entries))
    (hoff : isOrdered key entries = false) :
    Quiet key entries (tidings conduct agenda event ++ entries) := by
  have hquiet : Quiet key entries entries := ⟨hoff, rfl⟩
  cases event with
  | alarm | resume => exact hquiet
  | turn n =>
    rw [tidings] at htold ⊢
    cases hloop : agenda.timeline.loops[n]? with
    | none => exact hquiet
    | some loop =>
      rw [hloop] at htold
      obtain ⟨owner, phase, isWaiting, cancelled⟩ := loop
      cases phase with
      | ended => exact hquiet
      | pausing =>
        cases cancelled with
        | true | false => exact hquiet.cons rfl fun _ heq => by cases heq
      | fresh | resting =>
        cases cancelled with
        | true => exact hquiet
        | false => exact quiet_callTidings htold hoff

/-- **The loops** do not begin a call of a cadence that is not started. -/
theorem Course.quiet_passed (hordinary : ∀ key call, (conduct key call).IsOrdinary) {key : κ}
    (h : Course interval none account.agenda account.entries)
    (hoff : isOrdered key account.entries = false) (hpassed : Account.Passed conduct account other) :
    Quiet key account.entries other.entries := by
  induction hpassed with
  | refl => exact ⟨hoff, rfl⟩
  | @tail middle last hmiddle hstep ih =>
    have hcourse := h.reached hordinary (Account.Passed.reached hmiddle)
    refine ih.trans ?_
    cases hstep with
    | await | leap | pass => exact ⟨ih.isOrdered, rfl⟩
    -- The entries of an event are justified, and a call among them would need a start before it.
    | play hnext => exact quiet_tidings (hcourse.play hordinary hnext).core.told ih.isOrdered

/-- **An order** other than a start begins no call of a cadence that is not started. -/
theorem Course.quiet_follow (hordinary : ∀ key call, (conduct key call).IsOrdinary) {key : κ}
    (h : Course interval none account.agenda account.entries)
    (hoff : isOrdered key account.entries = false) {order : Order κ} (horder : order ≠ .start key) :
    Quiet key account.entries (account.follow conduct order).entries := by
  have hquiet : Quiet key account.entries account.entries := ⟨hoff, rfl⟩
  cases order with
  | start other =>
    refine hquiet.cons rfl fun _ heq => ?_
    obtain rfl := Entry.started.inj heq
    rintro rfl
    exact horder rfl
  | cancel other => exact hquiet.cons rfl nofun
  | close other =>
    have hcancel : Quiet key account.entries (account.cancel other).entries := hquiet.cons rfl nofun
    exact hcancel.trans ((h.cancel other).quiet_passed hordinary hcancel.isOrdered
      (Account.passed_follow_close conduct account other))
  | advance duration =>
    exact h.quiet_passed hordinary hoff (Account.passed_follow_advance conduct account duration)

/-- **Orders without a start** of a cadence begin no call of it. -/
theorem Course.quiet_after (hordinary : ∀ key call, (conduct key call).IsOrdinary) {key : κ}
    (h : Course interval none account.agenda account.entries)
    (hoff : isOrdered key account.entries = false) {orders : List (Order κ)}
    (horders : ∀ order ∈ orders, order ≠ .start key) :
    Quiet key account.entries (account.after conduct orders).entries := by
  induction orders generalizing account with
  | nil => exact ⟨hoff, rfl⟩
  | cons order orders ih =>
    have hfollow := h.quiet_follow hordinary hoff (horders order List.mem_cons_self)
    have hcourse := h.reached hordinary (Account.reached_follow conduct account order)
    exact hfollow.trans (ih hcourse hfollow.isOrdered fun other hother =>
      horders other (List.mem_cons_of_mem _ hother))

/-- **A cadence is not started** when it was cancelled, or cancelled and waited for. -/
theorem Course.isOrdered_follow (hordinary : ∀ key call, (conduct key call).IsOrdinary) {key : κ}
    (h : Course interval none account.agenda account.entries) {order : Order κ}
    (horder : order = .cancel key ∨ order = .close key) :
    isOrdered key (account.follow conduct order).entries = false := by
  have hcancel : isOrdered key (account.cancel key).entries = false :=
    (isOrdered_cancelled ..).trans (if_pos rfl)
  rcases horder with rfl | rfl
  · exact hcancel
  · exact ((h.cancel key).quiet_passed hordinary hcancel
      (Account.passed_follow_close conduct account key)).isOrdered

end Warden.Schedule
