import Mathlib.Data.List.Count
import Mathlib.Tactic.Common
import Warden.Schedule.Timeline

/-!
# Where loops stand

A loop that has not ended stands in one place: it waits, or its turn stands in the queue, or it has
its turn. A loop that waits and is not cancelled has at most one timer, or one alarm in the queue,
and no loop has an alarm left over from an earlier wait. So no loop has two turns, and no wait ends
before its own timer went off.

## Main definitions

* `turns`, `alarms`, `timersOf`, `armed`: the turns, alarms and timers of a loop
* `slept`: a loop waits until a delay is over
* `Placed`, `Acting`: a loop stands in its place, or has its turn
* `Orderly`: all loops do, where at most one has its turn

## Main results

* `Orderly.spawn`, `Orderly.cancel`, `Orderly.alarm`, `Orderly.slept`, `Orderly.finish`,
  `Orderly.beginRound`: every change keeps this
* `Orderly.take`: what happens next, and who has a turn then
-/

namespace Warden.Schedule.Timeline

open Warden.Numeric

variable {κ : Type} (timeline : Timeline κ)

/-! ## Turns, alarms and timers -/

/-- How often the turn of a loop stands in the queue. -/
def turns (n : Nat) : Nat :=
  timeline.queue.count (.turn n)

/-- How often the alarm of a loop stands in the queue. -/
def alarms (n : Nat) : Nat :=
  timeline.queue.count (.alarm n)

/-- The timers of a loop. -/
def timersOf (n : Nat) : List Timer :=
  timeline.timers.filter (·.loop == n)

/-- How many timers of a loop are armed. -/
def armed (n : Nat) : Nat :=
  timeline.timers.countP (·.loop == n)

/-- The loop is cancelled. -/
def marked (n : Nat) : Timeline κ :=
  timeline.change n fun loop => { loop with cancelled := true }

/-- The loop does something else when it has its turn next. -/
def inPhase (n : Nat) (phase : Phase) : Timeline κ :=
  timeline.change n fun loop => { loop with phase }

/-- The loop waits for its timer. -/
def paused (n : Nat) : Timeline κ :=
  timeline.change n fun loop => { loop with isWaiting := true }

/-- A loop waits until a delay is over, or is ready at once. -/
def slept (n : Nat) (phase : Phase) (wake : Wake) : Timeline κ :=
  let set := timeline.inPhase n phase
  if timeline.isCancelled n then set.ready n
  else match wake with
    | .atOnce => set.ready n
    | .at due => { set.paused n with timers := timeline.timers ++ [⟨due, n⟩] }
    | .never => set.paused n

theorem wait?_eq (n : Nat) (phase : Phase) (delay : Reading) :
    timeline.wait? n phase delay =
      (Wake.after? timeline.now delay).map (timeline.slept n phase) := rfl

theorem cancel_eq (n : Nat) :
    timeline.cancel n =
      if timeline.isLive n then
        if timeline.isWaiting n then
          { timeline.marked n with timers := timeline.timers.filter (·.loop != n) }.ready n
        else timeline.marked n
      else timeline := rfl

/-! ## Loops -/

section Loops

variable {timeline} {n : Nat} {loop : Loop κ}

theorem isLive_eq (h : timeline.loops[n]? = some loop) :
    timeline.isLive n = !loop.hasEnded := by
  rw [isLive, h]

theorem isWaiting_eq (h : timeline.loops[n]? = some loop) :
    timeline.isWaiting n = loop.isWaiting := by
  rw [isWaiting, h]

theorem isCancelled_eq (h : timeline.loops[n]? = some loop) :
    timeline.isCancelled n = loop.cancelled := by
  rw [isCancelled, h]

theorem exists_of_isLive (h : timeline.isLive n = true) :
    ∃ loop, timeline.loops[n]? = some loop ∧ loop.hasEnded = false := by
  unfold isLive at h
  split at h
  · next loop hloop => exact ⟨loop, hloop, by simpa using h⟩
  · cases h

variable {other : Timeline κ} (h : other.loops[n]? = timeline.loops[n]?)
include h

theorem isLive_congr : other.isLive n = timeline.isLive n := by
  rw [isLive, isLive, h]

theorem isWaiting_congr : other.isWaiting n = timeline.isWaiting n := by
  rw [isWaiting, isWaiting, h]

theorem isCancelled_congr : other.isCancelled n = timeline.isCancelled n := by
  rw [isCancelled, isCancelled, h]

end Loops

theorem loops_change (n m : Nat) (f : Loop κ → Loop κ) :
    (timeline.change n f).loops[m]? =
      if n = m then timeline.loops[m]?.map f else timeline.loops[m]? :=
  Array.getElem?_modify

theorem loops_change_self (n : Nat) (f : Loop κ → Loop κ) :
    (timeline.change n f).loops[n]? = timeline.loops[n]?.map f := by
  rw [loops_change, if_pos rfl]

theorem loops_change_of_ne {n m : Nat} (h : n ≠ m) (f : Loop κ → Loop κ) :
    (timeline.change n f).loops[m]? = timeline.loops[m]? := by
  rw [loops_change, if_neg h]

/-! ## Changes to one loop -/

/-- Nothing has changed about a loop. -/
structure Untouched (timeline other : Timeline κ) (m : Nat) : Prop where
  loop : other.loops[m]? = timeline.loops[m]?
  turns : other.turns m = timeline.turns m
  alarms : other.alarms m = timeline.alarms m
  timersOf : other.timersOf m = timeline.timersOf m

namespace Untouched

variable {timeline} {other last : Timeline κ} {m : Nat}

theorem refl (timeline : Timeline κ) (m : Nat) : Untouched timeline timeline m :=
  ⟨rfl, rfl, rfl, rfl⟩

theorem trans (h : Untouched timeline other m) (k : Untouched other last m) :
    Untouched timeline last m :=
  ⟨k.loop.trans h.loop, k.turns.trans h.turns, k.alarms.trans h.alarms,
    k.timersOf.trans h.timersOf⟩

theorem armed (h : Untouched timeline other m) : other.armed m = timeline.armed m := by
  rw [Timeline.armed, Timeline.armed, List.countP_eq_length_filter, List.countP_eq_length_filter]
  exact congrArg List.length h.timersOf

end Untouched

variable {timeline} {n m : Nat}

theorem untouched_change (h : n ≠ m) (f : Loop κ → Loop κ) :
    Untouched timeline (timeline.change n f) m :=
  ⟨timeline.loops_change_of_ne h f, rfl, rfl, rfl⟩

theorem turns_enqueue_turn (n m : Nat) :
    (timeline.enqueue (.turn n)).turns m = timeline.turns m + if n = m then 1 else 0 := by
  rw [turns, enqueue, List.count_append, ← turns, List.count_singleton]
  congr 1
  by_cases h : n = m
  · subst h
    simp
  · have hne : Event.turn n ≠ .turn m := fun heq => h (Event.turn.inj heq)
    simp [h, hne]

theorem alarms_enqueue_turn (n m : Nat) :
    (timeline.enqueue (.turn n)).alarms m = timeline.alarms m := by
  rw [alarms, enqueue, List.count_append, ← alarms]
  simp

theorem turns_ready (n m : Nat) :
    (timeline.ready n).turns m = timeline.turns m + if n = m then 1 else 0 :=
  turns_enqueue_turn n m

theorem alarms_ready (n m : Nat) : (timeline.ready n).alarms m = timeline.alarms m :=
  alarms_enqueue_turn n m

theorem loops_ready (n m : Nat) :
    (timeline.ready n).loops[m]? =
      if n = m then timeline.loops[m]?.map fun loop => { loop with isWaiting := false }
      else timeline.loops[m]? :=
  timeline.loops_change n m _

theorem untouched_ready (h : n ≠ m) : Untouched timeline (timeline.ready n) m where
  loop := by rw [loops_ready, if_neg h]
  turns := by rw [turns_ready, if_neg h, Nat.add_zero]
  alarms := alarms_ready n m
  timersOf := rfl

/-- The timers of other loops stay when those of one are taken away. -/
theorem untouched_unarmed (h : n ≠ m) :
    Untouched timeline { timeline with timers := timeline.timers.filter (·.loop != n) } m where
  loop := rfl
  turns := rfl
  alarms := rfl
  timersOf := by
    rw [timersOf, timersOf, List.filter_filter]
    refine List.filter_congr fun timer _ => ?_
    by_cases hloop : timer.loop = m
    · simp [hloop, h.symm]
    · simp [hloop]

theorem untouched_cancel (h : n ≠ m) : Untouched timeline (timeline.cancel n) m := by
  rw [cancel_eq]
  split_ifs
  · exact ((untouched_change h _).trans (untouched_unarmed h)).trans (untouched_ready h)
  · exact untouched_change h _
  · exact .refl ..

theorem untouched_arm (h : n ≠ m) (due : Seconds) :
    Untouched timeline { timeline with timers := timeline.timers ++ [⟨due, n⟩] } m where
  loop := rfl
  turns := rfl
  alarms := rfl
  timersOf := by
    rw [timersOf, timersOf, List.filter_append]
    simp [h]

theorem untouched_slept (h : n ≠ m) (phase : Phase) (wake : Wake) :
    Untouched timeline (timeline.slept n phase wake) m := by
  have hset : Untouched timeline (timeline.inPhase n phase) m := untouched_change h _
  unfold slept
  dsimp only
  split_ifs
  · exact hset.trans (untouched_ready h)
  · cases wake with
    | atOnce => exact hset.trans (untouched_ready h)
    | «at» due => exact (hset.trans (untouched_change h _)).trans (untouched_arm h due)
    | never => exact hset.trans (untouched_change h _)

theorem untouched_alarm (h : n ≠ m) : Untouched timeline (timeline.alarm n) m := by
  unfold alarm
  split_ifs
  · exact untouched_ready h
  · exact .refl ..

theorem untouched_resume (timeline : Timeline κ) (m : Nat) :
    Untouched timeline ({ timeline with awaited := none }.enqueue .resume) m where
  loop := rfl
  turns := by
    rw [turns, turns, enqueue, List.count_append]
    simp
  alarms := by
    rw [alarms, alarms, enqueue, List.count_append]
    simp
  timersOf := rfl

theorem untouched_finish (h : n ≠ m) (failure : Option Failure) :
    Untouched timeline (timeline.finish n failure) m := by
  unfold finish
  dsimp only
  split_ifs
  · exact (untouched_change h _).trans (untouched_resume ..)
  · exact untouched_change h _

theorem untouched_await (n m : Nat) : Untouched timeline (timeline.await n) m :=
  ⟨rfl, rfl, rfl, rfl⟩

/-! ## Flags of a loop that is changed -/

section Flags

variable (n m : Nat)

theorem isLive_change {f : Loop κ → Loop κ} (hf : ∀ loop, (f loop).hasEnded = loop.hasEnded) :
    (timeline.change n f).isLive m = timeline.isLive m := by
  rw [isLive, isLive, loops_change]
  by_cases h : n = m
  · cases hloop : timeline.loops[m]? <;> simp [h, hf]
  · simp [h]

theorem isWaiting_change {f : Loop κ → Loop κ} (hf : ∀ loop, (f loop).isWaiting = loop.isWaiting) :
    (timeline.change n f).isWaiting m = timeline.isWaiting m := by
  rw [isWaiting, isWaiting, loops_change]
  by_cases h : n = m
  · cases hloop : timeline.loops[m]? <;> simp [h, hf]
  · simp [h]

theorem isCancelled_change {f : Loop κ → Loop κ} (hf : ∀ loop, (f loop).cancelled = loop.cancelled) :
    (timeline.change n f).isCancelled m = timeline.isCancelled m := by
  rw [isCancelled, isCancelled, loops_change]
  by_cases h : n = m
  · cases hloop : timeline.loops[m]? <;> simp [h, hf]
  · simp [h]

theorem isLive_ready : (timeline.ready n).isLive m = timeline.isLive m :=
  isLive_change n m fun _ => rfl

theorem isCancelled_ready : (timeline.ready n).isCancelled m = timeline.isCancelled m :=
  isCancelled_change n m fun _ => rfl

theorem isWaiting_ready : (timeline.ready n).isWaiting n = false := by
  rw [isWaiting, loops_ready, if_pos rfl]
  cases timeline.loops[n]? <;> rfl

theorem isLive_marked : (timeline.marked n).isLive m = timeline.isLive m :=
  isLive_change n m fun _ => rfl

theorem isWaiting_marked : (timeline.marked n).isWaiting m = timeline.isWaiting m :=
  isWaiting_change n m fun _ => rfl

theorem isLive_paused : (timeline.paused n).isLive m = timeline.isLive m :=
  isLive_change n m fun _ => rfl

theorem isCancelled_paused : (timeline.paused n).isCancelled m = timeline.isCancelled m :=
  isCancelled_change n m fun _ => rfl

theorem isWaiting_inPhase (phase : Phase) :
    (timeline.inPhase n phase).isWaiting m = timeline.isWaiting m :=
  isWaiting_change n m fun _ => rfl

theorem isCancelled_inPhase (phase : Phase) :
    (timeline.inPhase n phase).isCancelled m = timeline.isCancelled m :=
  isCancelled_change n m fun _ => rfl

theorem isLive_cancel : (timeline.cancel n).isLive m = timeline.isLive m := by
  rw [cancel_eq]
  split_ifs
  · exact (isLive_ready n m).trans (isLive_marked n m)
  · exact isLive_marked n m
  · rfl

variable {n} (hlive : timeline.isLive n = true)
include hlive

theorem isLive_inPhase (phase : Phase) :
    (timeline.inPhase n phase).isLive n = !(phase matches .ended _) := by
  obtain ⟨loop, hloop, -⟩ := exists_of_isLive hlive
  rw [isLive, inPhase, loops_change_self, hloop]
  rfl

theorem isWaiting_paused : (timeline.paused n).isWaiting n = true := by
  obtain ⟨loop, hloop, -⟩ := exists_of_isLive hlive
  rw [isWaiting, paused, loops_change_self, hloop]
  rfl

theorem isCancelled_marked : (timeline.marked n).isCancelled n = true := by
  obtain ⟨loop, hloop, -⟩ := exists_of_isLive hlive
  rw [isCancelled, marked, loops_change_self, hloop]
  rfl

theorem isCancelled_cancel : (timeline.cancel n).isCancelled n = true := by
  rw [cancel_eq, if_pos hlive]
  split_ifs
  · exact (isCancelled_ready n n).trans (isCancelled_marked hlive)
  · exact isCancelled_marked hlive

theorem isWaiting_cancel : (timeline.cancel n).isWaiting n = false := by
  rw [cancel_eq, if_pos hlive]
  split_ifs with hwaits
  · exact isWaiting_ready n
  · exact (isWaiting_marked n n).trans (Bool.eq_false_iff.mpr hwaits)

theorem turns_cancel :
    (timeline.cancel n).turns n = timeline.turns n + if timeline.isWaiting n then 1 else 0 := by
  rw [cancel_eq, if_pos hlive]
  split_ifs with hwaits
  · rw [turns_ready, if_pos rfl]
    rfl
  · rfl

theorem armed_cancel (hidle : timeline.isWaiting n = false → timeline.armed n = 0) :
    (timeline.cancel n).armed n = 0 := by
  rw [cancel_eq, if_pos hlive]
  split_ifs with hwaits
  · refine List.countP_eq_zero.mpr fun timer htimer => ?_
    have hkept := (List.mem_filter.mp htimer).2
    simpa using hkept
  · exact hidle (Bool.eq_false_iff.mpr hwaits)

end Flags

/-! ## Places -/

/-- A loop stands in its place: it waits, or its turn stands in the queue, or it has ended. -/
structure Placed (timeline : Timeline κ) (n : Nat) : Prop where
  turns : timeline.turns n = if timeline.isLive n && !timeline.isWaiting n then 1 else 0
  waits : timeline.isWaiting n = true → timeline.isLive n = true ∧ timeline.isCancelled n = false
  alarms : timeline.isCancelled n = false →
    timeline.alarms n + timeline.armed n ≤ if timeline.isWaiting n then 1 else 0
  armed : timeline.isCancelled n = true → timeline.armed n = 0

/-- A loop has its turn. -/
structure Acting (timeline : Timeline κ) (n : Nat) : Prop where
  isLive : timeline.isLive n = true
  isWaiting : timeline.isWaiting n = false
  turns : timeline.turns n = 0
  alarms : timeline.isCancelled n = false → timeline.alarms n = 0
  armed : timeline.armed n = 0

/-- Every loop stands in its place, apart from one that may have its turn. -/
structure Orderly (acting : Option Nat) (timeline : Timeline κ) : Prop where
  placed : ∀ n, acting ≠ some n → timeline.Placed n
  acting : ∀ n, acting = some n → timeline.Acting n

theorem Placed.untouched {other : Timeline κ} (h : timeline.Placed n)
    (hsame : Untouched timeline other n) : other.Placed n where
  turns := by
    rw [hsame.turns, h.turns, isLive_congr hsame.loop, isWaiting_congr hsame.loop]
  waits := by
    rw [isWaiting_congr hsame.loop, isLive_congr hsame.loop, isCancelled_congr hsame.loop]
    exact h.waits
  alarms := by
    rw [isWaiting_congr hsame.loop, isCancelled_congr hsame.loop, hsame.alarms, hsame.armed]
    exact h.alarms
  armed := by
    rw [isCancelled_congr hsame.loop, hsame.armed]
    exact h.armed

theorem Acting.untouched {other : Timeline κ} (h : timeline.Acting n)
    (hsame : Untouched timeline other n) : other.Acting n where
  isLive := by rw [isLive_congr hsame.loop, h.isLive]
  isWaiting := by rw [isWaiting_congr hsame.loop, h.isWaiting]
  turns := by rw [hsame.turns, h.turns]
  alarms := by
    rw [isCancelled_congr hsame.loop, hsame.alarms]
    exact h.alarms
  armed := by rw [hsame.armed, h.armed]

/-- A change to one loop that puts it in its place. -/
theorem Orderly.of_placed {acting : Option Nat} {other : Timeline κ}
    (h : timeline.Orderly acting) (hn : acting ≠ some n)
    (hsame : ∀ m, n ≠ m → Untouched timeline other m) (hplaced : other.Placed n) :
    other.Orderly acting where
  placed m hm := by
    by_cases heq : n = m
    · exact heq ▸ hplaced
    · exact (h.placed m hm).untouched (hsame m heq)
  acting m hm := by
    have hne : n ≠ m := fun heq => hn (heq ▸ hm)
    exact (h.acting m hm).untouched (hsame m hne)

/-- The loop that has its turn goes to its place. -/
theorem Orderly.settle {other : Timeline κ} (h : timeline.Orderly (some n))
    (hsame : ∀ m, n ≠ m → Untouched timeline other m) (hplaced : other.Placed n) :
    other.Orderly none where
  placed m _ := by
    by_cases heq : n = m
    · exact heq ▸ hplaced
    · exact (h.placed m fun hm => heq (Option.some.inj hm)).untouched (hsame m heq)
  acting m hm := by cases hm

/-! ## Changes keep the order -/

theorem Placed.armed_of_idle (h : timeline.Placed n) (hidle : timeline.isWaiting n = false) :
    timeline.armed n = 0 := by
  cases hcancelled : timeline.isCancelled n with
  | true => exact h.armed hcancelled
  | false =>
    have hnone := h.alarms hcancelled
    rw [hidle, if_neg Bool.false_ne_true] at hnone
    omega

/-- The turn of a cancelled loop stands in the queue until the loop has ended. -/
theorem Placed.mem_queue (h : timeline.Placed n) (hlive : timeline.isLive n = true)
    (hcancelled : timeline.isCancelled n = true) : Event.turn n ∈ timeline.queue := by
  have hidle : timeline.isWaiting n = false := by
    by_contra hwaits
    have hkept := (h.waits (Bool.not_eq_false _ ▸ hwaits)).2
    cases hcancelled.symm.trans hkept
  have hturns := h.turns
  rw [hlive, hidle, Bool.not_false, Bool.and_self, if_pos rfl] at hturns
  have hpos : 0 < timeline.turns n := hturns ▸ Nat.one_pos
  exact List.count_pos_iff.mp hpos

theorem Placed.cancel (h : timeline.Placed n) (hlive : timeline.isLive n = true) :
    (timeline.cancel n).Placed n where
  turns := by
    rw [turns_cancel hlive, h.turns, isLive_cancel, isWaiting_cancel hlive, hlive]
    cases timeline.isWaiting n <;> rfl
  waits hwaits := by
    rw [isWaiting_cancel hlive] at hwaits
    cases hwaits
  alarms hkept := by
    rw [isCancelled_cancel hlive] at hkept
    cases hkept
  armed _ := armed_cancel hlive h.armed_of_idle

theorem Acting.cancel (h : timeline.Acting n) : (timeline.cancel n).Acting n where
  isLive := by rw [isLive_cancel, h.isLive]
  isWaiting := isWaiting_cancel h.isLive
  turns := by
    rw [turns_cancel h.isLive, h.turns, h.isWaiting]
    rfl
  alarms hkept := by
    rw [isCancelled_cancel h.isLive] at hkept
    cases hkept
  armed := armed_cancel h.isLive fun _ => h.armed

/-- **A cancelled loop** has its turn once more. -/
theorem Orderly.cancel {acting : Option Nat} (h : timeline.Orderly acting) (n : Nat) :
    (timeline.cancel n).Orderly acting := by
  by_cases hlive : timeline.isLive n = true
  · by_cases hn : acting = some n
    · subst hn
      refine ⟨fun m hm => ?_, fun m hm => ?_⟩
      · exact (h.placed m hm).untouched (untouched_cancel fun heq => hm (heq ▸ rfl))
      · obtain rfl := Option.some.inj hm
        exact (h.acting n rfl).cancel
    · exact h.of_placed hn (fun m hm => untouched_cancel hm) ((h.placed n hn).cancel hlive)
  · have hsame : timeline.cancel n = timeline := by
      unfold Timeline.cancel
      rw [if_neg hlive]
    rwa [hsame]

/-- **The alarm of a loop** ends its wait, if that is not over already. -/
theorem Orderly.alarm {acting : Option Nat} (h : timeline.Orderly acting)
    (hgone : timeline.isWaiting n = true → timeline.alarms n + timeline.armed n = 0) :
    (timeline.alarm n).Orderly acting := by
  unfold Timeline.alarm
  split_ifs with hwaits
  · -- The loop that has its turn does not wait, so the alarm is for another one.
    have hn : acting ≠ some n := fun hn => by
      have hidle := (h.acting n hn).isWaiting
      rw [hwaits] at hidle
      cases hidle
    have hplaced := h.placed n hn
    refine h.of_placed hn (fun m hm => untouched_ready hm) ⟨?_, ?_, fun _ => ?_, fun _ => ?_⟩
    · rw [turns_ready, if_pos rfl, hplaced.turns, isLive_ready, isWaiting_ready, hwaits,
        (hplaced.waits hwaits).1]
      rfl
    · intro hstill
      rw [isWaiting_ready] at hstill
      cases hstill
    · have hnone : (timeline.ready n).alarms n + (timeline.ready n).armed n = 0 := by
        rw [alarms_ready]
        exact hgone hwaits
      rw [hnone]
      exact Nat.zero_le _
    · exact Nat.eq_zero_of_add_eq_zero_left (hgone hwaits)
  · exact h

/-- A loop whose turn is over is ready for the next one. -/
theorem Acting.ready (h : timeline.Acting n) : (timeline.ready n).Placed n where
  turns := by
    rw [turns_ready, if_pos rfl, h.turns, isLive_ready, isWaiting_ready, h.isLive]
    rfl
  waits hstill := by
    rw [isWaiting_ready] at hstill
    cases hstill
  alarms hkept := by
    rw [isCancelled_ready] at hkept
    have hunarmed : (timeline.ready n).armed n = 0 := h.armed
    rw [alarms_ready, h.alarms hkept, hunarmed]
    exact Nat.zero_le _
  armed _ := h.armed

/-- A loop that is not cancelled waits, with one timer or none. -/
theorem Acting.paused {timers : List Timer} (h : timeline.Acting n)
    (hkept : timeline.isCancelled n = false) (htimers : timers.countP (·.loop == n) ≤ 1) :
    ({ timeline.paused n with timers } : Timeline κ).Placed n := by
  have hlive : ({ timeline.paused n with timers } : Timeline κ).isLive n = true :=
    (isLive_paused n n).trans h.isLive
  have hwaits : ({ timeline.paused n with timers } : Timeline κ).isWaiting n = true :=
    isWaiting_paused h.isLive
  have hcancelled : ({ timeline.paused n with timers } : Timeline κ).isCancelled n = false :=
    (isCancelled_paused n n).trans hkept
  refine ⟨?_, fun _ => ⟨hlive, hcancelled⟩, fun _ => ?_, fun hgone => ?_⟩
  · rw [hlive, hwaits]
    exact h.turns
  · have halarms : ({ timeline.paused n with timers } : Timeline κ).alarms n = 0 := h.alarms hkept
    rw [halarms, hwaits, Nat.zero_add]
    exact htimers
  · rw [hcancelled] at hgone
    cases hgone

theorem Acting.inPhase (h : timeline.Acting n) {phase : Phase}
    (hphase : (phase matches .ended _) = false) : (timeline.inPhase n phase).Acting n where
  isLive := by rw [isLive_inPhase h.isLive, hphase, Bool.not_false]
  isWaiting := by rw [isWaiting_inPhase, h.isWaiting]
  turns := h.turns
  alarms hkept := by
    rw [isCancelled_inPhase] at hkept
    exact h.alarms hkept
  armed := h.armed

/-- **A loop whose turn is over** waits, or is ready for the next one. -/
theorem Orderly.slept (h : timeline.Orderly (some n)) {phase : Phase}
    (hphase : (phase matches .ended _) = false) (wake : Wake) :
    (timeline.slept n phase wake).Orderly none := by
  have hset := (h.acting n rfl).inPhase hphase
  have hunarmed : timeline.timers.countP (·.loop == n) = 0 := (h.acting n rfl).armed
  refine h.settle (fun m hm => untouched_slept hm phase wake) ?_
  unfold Timeline.slept
  dsimp only
  split_ifs with hcancelled
  · -- A cancelled loop does not wait at all.
    exact hset.ready
  · have hkept : (timeline.inPhase n phase).isCancelled n = false :=
      (isCancelled_inPhase n n phase).trans (Bool.eq_false_iff.mpr hcancelled)
    cases wake with
    | atOnce => exact hset.ready
    | «at» due =>
      refine hset.paused hkept ?_
      rw [List.countP_append, hunarmed]
      simp
    | never => exact hset.paused hkept (hunarmed ▸ Nat.zero_le 1)

/-- **A loop that ends** has no turn any more. -/
theorem Orderly.finish (h : timeline.Orderly (some n)) (failure : Option Failure) :
    (timeline.finish n failure).Orderly none := by
  have hacting := h.acting n rfl
  have hended : (timeline.inPhase n (.ended failure)).isLive n = false :=
    isLive_inPhase hacting.isLive _
  have hidle : (timeline.inPhase n (.ended failure)).isWaiting n = false :=
    (isWaiting_inPhase n n _).trans hacting.isWaiting
  have hplaced : (timeline.inPhase n (.ended failure)).Placed n := by
    refine ⟨?_, fun hwaits => ?_, fun hkept => ?_, fun _ => hacting.armed⟩
    · rw [hended, Bool.false_and, if_neg Bool.false_ne_true]
      exact hacting.turns
    · rw [hidle] at hwaits
      cases hwaits
    · rw [isCancelled_inPhase] at hkept
      have hnone : timeline.alarms n + timeline.armed n = 0 := by
        rw [hacting.alarms hkept, hacting.armed]
      exact hnone.symm ▸ Nat.zero_le _
  refine h.settle (fun m hm => untouched_finish hm failure) ?_
  unfold Timeline.finish
  dsimp only
  split_ifs
  · -- Whoever waited for the loop goes on, which is no turn of any loop.
    exact hplaced.untouched (untouched_resume ..)
  · exact hplaced

/-! ## A loop is started -/

theorem loops_spawn (owner : κ) (m : Nat) :
    (timeline.spawn owner).1.loops[m]? =
      if m = timeline.loops.size then some { owner } else timeline.loops[m]? :=
  Array.getElem?_push

theorem untouched_spawn (owner : κ) (h : m ≠ timeline.loops.size) :
    Untouched timeline (timeline.spawn owner).1 m where
  loop := by rw [loops_spawn, if_neg h]
  turns := (turns_enqueue_turn _ m).trans (by rw [if_neg h.symm]; rfl)
  alarms := alarms_enqueue_turn _ m
  timersOf := rfl

/-- There is nothing of a loop before it is started. -/
theorem Placed.of_none (h : timeline.Placed n) (hnone : timeline.loops[n]? = none) :
    timeline.turns n = 0 ∧ timeline.alarms n = 0 ∧ timeline.armed n = 0 := by
  have hlive : timeline.isLive n = false := by rw [isLive, hnone]
  have hwaits : timeline.isWaiting n = false := by rw [isWaiting, hnone]
  have hkept : timeline.isCancelled n = false := by rw [isCancelled, hnone]
  have hturns := h.turns
  have halarms := h.alarms hkept
  rw [hlive, Bool.false_and, if_neg Bool.false_ne_true] at hturns
  rw [hwaits, if_neg Bool.false_ne_true] at halarms
  exact ⟨hturns, by omega, by omega⟩

/-- **A loop that is started** is ready for its first turn. -/
theorem Orderly.spawn {acting : Option Nat} (h : timeline.Orderly acting) (owner : κ) :
    (timeline.spawn owner).1.Orderly acting := by
  have hnone : timeline.loops[timeline.loops.size]? = none := Array.getElem?_eq_none (Nat.le_refl _)
  have hn : acting ≠ some timeline.loops.size := fun hn => by
    obtain ⟨loop, hloop, -⟩ := exists_of_isLive (h.acting _ hn).isLive
    rw [hnone] at hloop
    cases hloop
  -- The number is new: neither the queue nor the timers know of it.
  obtain ⟨hturns, halarms, harmed⟩ := (h.placed _ hn).of_none hnone
  have hloop : (timeline.spawn owner).1.loops[timeline.loops.size]? = some { owner } := by
    rw [loops_spawn, if_pos rfl]
  refine h.of_placed hn (fun m hm => untouched_spawn owner hm.symm) ⟨?_, ?_, ?_, ?_⟩
  · rw [isLive_eq hloop, isWaiting_eq hloop]
    refine (turns_enqueue_turn _ _).trans ?_
    rw [if_pos rfl]
    exact congrArg (· + 1) hturns
  · intro hwaits
    rw [isWaiting_eq hloop] at hwaits
    cases hwaits
  · intro _
    have hfree : (timeline.spawn owner).1.alarms timeline.loops.size = 0 :=
      (alarms_enqueue_turn _ _).trans halarms
    have hunarmed : (timeline.spawn owner).1.armed timeline.loops.size = 0 := harmed
    rw [hfree, hunarmed]
    exact Nat.zero_le _
  · exact fun _ => harmed

/-! ## What happens next -/

theorem turns_beginRound (n : Nat) : timeline.beginRound.turns n = timeline.turns n := by
  rw [turns, turns, beginRound, List.count_append]
  refine Nat.add_eq_left.mpr (List.count_eq_zero.mpr fun hmem => ?_)
  obtain ⟨timer, -, htimer⟩ := List.mem_map.mp hmem
  cases htimer

variable (timeline) in
/-- The alarms of a round come from the timers that go off. -/
theorem alarms_beginRound (n : Nat) :
    timeline.beginRound.alarms n =
      timeline.alarms n + (timeline.timers.filter timeline.goesOff).countP (·.loop == n) := by
  rw [alarms, alarms, beginRound, List.count_append, List.count, List.countP_map]
  congr 1
  have hperm : timeline.goingOff.Perm (timeline.timers.filter timeline.goesOff) :=
    List.mergeSort_perm ..
  rw [← hperm.countP_eq]
  refine List.countP_congr fun timer _ => ?_
  simp

variable (timeline) in
theorem armed_beginRound (n : Nat) :
    (timeline.timers.filter timeline.goesOff).countP (·.loop == n) + timeline.beginRound.armed n =
      timeline.armed n := by
  rw [armed, armed, beginRound]
  have := List.countP_eq_countP_filter_add timeline.timers (·.loop == n) timeline.goesOff
  simpa using this.symm

/-- **A round begins:** timers become alarms. -/
theorem Orderly.beginRound (h : timeline.Orderly none) : timeline.beginRound.Orderly none where
  placed n hn := by
    have hplaced := h.placed n hn
    have hsum := timeline.armed_beginRound n
    refine ⟨?_, hplaced.waits, fun hkept => ?_, fun hcancelled => ?_⟩
    · rw [turns_beginRound]
      exact hplaced.turns
    · have hall := hplaced.alarms hkept
      rw [alarms_beginRound, Nat.add_assoc, hsum]
      exact hall
    · have hnone := hplaced.armed hcancelled
      omega
  acting n hn := by cases hn

/-- What happens next is at the head of the queue, after a round has begun if none is left to be
played. -/
theorem next?_cases {event : Event} {rest : Timeline κ} (h : timeline.next? = some (event, rest)) :
    ∃ current, (current = timeline ∨ current = timeline.beginRound) ∧
      current.queue = event :: rest.queue ∧
      rest = { current with queue := rest.queue, round := current.round - 1 } := by
  unfold next? at h
  dsimp only at h
  split at h
  · cases h
  · next first queue hqueue =>
    obtain ⟨rfl, rfl⟩ := Prod.mk.inj (Option.some.inj h)
    refine ⟨_, ?_, hqueue, rfl⟩
    split_ifs
    · exact .inr rfl
    · exact .inl rfl

/-- The loop that has its turn. -/
def actor? : Event → Option Nat
  | .turn n => some n
  | .alarm _ | .resume => none

section Pop

variable {event : Event} {queue : List Event} (hqueue : timeline.queue = event :: queue) (round : Nat)
include hqueue

theorem turns_pop (m : Nat) :
    timeline.turns m =
      ({ timeline with queue, round } : Timeline κ).turns m +
        if event = .turn m then 1 else 0 := by
  rw [turns, turns, hqueue, List.count_cons]
  simp

theorem alarms_pop (m : Nat) :
    timeline.alarms m =
      ({ timeline with queue, round } : Timeline κ).alarms m +
        if event = .alarm m then 1 else 0 := by
  rw [alarms, alarms, hqueue, List.count_cons]
  simp

theorem untouched_pop {m : Nat} (hturn : event ≠ .turn m) (halarm : event ≠ .alarm m) :
    Untouched timeline { timeline with queue, round } m where
  loop := rfl
  turns := by
    have hturns := turns_pop hqueue round m
    rwa [if_neg hturn, Nat.add_zero, eq_comm] at hturns
  alarms := by
    have halarms := alarms_pop hqueue round m
    rwa [if_neg halarm, Nat.add_zero, eq_comm] at halarms
  timersOf := rfl

/-- What is taken from the queue: a turn, an alarm of a loop that has no other one, or the return of
somebody who waited. -/
theorem Orderly.pop (h : timeline.Orderly none) :
    ({ timeline with queue, round } : Timeline κ).Orderly (actor? event) ∧
      ∀ n, event = .alarm n → timeline.isWaiting n = true →
        ({ timeline with queue, round } : Timeline κ).alarms n + timeline.armed n = 0 := by
  have hplaced := fun n => h.placed n (Option.some_ne_none n).symm
  cases event with
  | turn n =>
    refine ⟨⟨fun m hm => ?_, fun m hm => ?_⟩, fun m hm => by cases hm⟩
    · refine (hplaced m).untouched (untouched_pop hqueue round ?_ (by simp))
      exact fun heq => hm (congrArg some (Event.turn.inj heq))
    · -- The turn was the only one of a loop that is live and does not wait.
      obtain rfl := Option.some.inj hm
      have hturns := turns_pop hqueue round n
      rw [if_pos rfl, (hplaced n).turns] at hturns
      split_ifs at hturns with hready
      · rw [Bool.and_eq_true, Bool.not_eq_true'] at hready
        have halarms := alarms_pop hqueue round n
        rw [if_neg (by simp), Nat.add_zero] at halarms
        refine ⟨hready.1, hready.2, by omega, fun hkept => ?_, (hplaced n).armed_of_idle hready.2⟩
        have hnone := (hplaced n).alarms hkept
        rw [hready.2, if_neg Bool.false_ne_true] at hnone
        omega
  | alarm n =>
    have halarms := alarms_pop hqueue round n
    rw [if_pos rfl] at halarms
    refine ⟨⟨fun m _ => ?_, fun m hm => by cases hm⟩, fun m hm hwaits => ?_⟩
    · by_cases heq : n = m
      · subst heq
        have hturns := turns_pop hqueue round n
        rw [if_neg (by simp), Nat.add_zero] at hturns
        refine ⟨hturns ▸ (hplaced n).turns, (hplaced n).waits, fun hkept => ?_, (hplaced n).armed⟩
        have hall := (hplaced n).alarms hkept
        rw [halarms] at hall
        exact Nat.le_trans (Nat.add_le_add_right (Nat.le_succ _) _) hall
      · refine (hplaced m).untouched (untouched_pop hqueue round (by simp) ?_)
        exact fun h => heq (Event.alarm.inj h)
    · obtain rfl := Event.alarm.inj hm
      have hall := (hplaced n).alarms ((hplaced n).waits hwaits).2
      rw [hwaits, if_pos rfl] at hall
      omega
  | resume =>
    refine ⟨⟨fun m _ => ?_, fun m hm => by cases hm⟩, fun m hm => by cases hm⟩
    exact (hplaced m).untouched (untouched_pop hqueue round (by simp) (by simp))

end Pop

theorem Orderly.congr {acting : Option Nat} {other : Timeline κ} (h : timeline.Orderly acting)
    (hsame : ∀ m, Untouched timeline other m) : other.Orderly acting where
  placed m hm := (h.placed m hm).untouched (hsame m)
  acting m hm := (h.acting m hm).untouched (hsame m)

/-- A timeline without loops. -/
theorem orderly_empty (now : Seconds) : ({ now } : Timeline κ).Orderly none where
  placed _ _ := ⟨rfl, nofun, fun _ => Nat.le_refl 0, fun _ => rfl⟩
  acting _ := nofun

end Warden.Schedule.Timeline
