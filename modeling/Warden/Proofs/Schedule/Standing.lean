import Mathlib.Data.Option.Basic
import Mathlib.Logic.Relation
import Warden.Proofs.Act.Keeps
import Warden.Proofs.Numeric.Rounding
import Warden.Proofs.Schedule.Course

/-!
# Cadences that stand

A cadence stands if its interval can be waited for and the loop that was started for it is due for
another tick. Then the cadence runs exactly if it was started and not cancelled since. Whatever the
ticks do, as long as they neither pause nor are cancelled themselves, cadences go on to stand while
time passes and while somebody waits for a loop to end. So a property that relates which cadences
are started to the rest of the world needs to be kept by ticks only.

## Main definitions

* `Agenda.Step`: the loops go on
* `Agenda.isStarted`: a cadence was started, and was not cancelled since
* `Agenda.Standing`: the cadences of some keys stand
* `Agenda.Upheld`: they do, and the rest of the world fits to which of them are started

## Main results

* `passed_advance`, `passed_close`: time passes, and loops are waited for, step by step
* `Standing.isRunning`: a cadence that stands runs if it is started
* `Standing.start`, `Standing.called`: starts and cancels leave cadences standing
* `Upheld.step`, `Upheld.passed`: what ticks keep is kept by all loops
-/

namespace Warden.Schedule

open Warden.Numeric

variable {κ σ : Type}

/-! ## Loops that are due -/

/-- The loop begins a tick when it has its turn next. -/
def Lot.isDue (lot : Lot κ) : Bool :=
  match lot.phase with
  | .fresh | .resting => !lot.cancelled
  | .pausing _ | .ended _ => false

/-- A loop belongs to the same cadence as before, and is due if it was so before. -/
structure Lot.GoesOn (lot after : Lot κ) : Prop where
  owner : after.owner = lot.owner
  isDue : lot.isDue = true → after.isDue = true

theorem Lot.GoesOn.refl (lot : Lot κ) : lot.GoesOn lot :=
  ⟨rfl, id⟩

theorem Lot.GoesOn.rel_map {lot? : Option (Lot κ)} {f : Lot κ → Lot κ}
    (h : ∀ lot, lot? = some lot → lot.GoesOn (f lot)) : Option.Rel GoesOn lot? (lot?.map f) := by
  cases lot? with
  | none => exact .none
  | some lot => exact .some (h lot rfl)

theorem Lot.GoesOn.rel_of_eq {before after : Option (Lot κ)} (h : after = before) :
    Option.Rel GoesOn before after := by
  subst h
  cases after with
  | none => exact .none
  | some lot => exact .some (.refl lot)

/-- What becomes of a loop that goes on. -/
theorem Lot.GoesOn.of_some {before after : Option (Lot κ)} (h : Option.Rel GoesOn before after)
    {lot : Lot κ} (hlot : before = some lot) : ∃ next, after = some next ∧ lot.GoesOn next := by
  subst hlot
  cases h with
  | some hgoes => exact ⟨_, rfl, hgoes⟩

/-- What a loop that goes on has been. -/
theorem Lot.GoesOn.to_some {before after : Option (Lot κ)} (h : Option.Rel GoesOn before after)
    {next : Lot κ} (hnext : after = some next) : ∃ lot, before = some lot ∧ lot.GoesOn next := by
  subst hnext
  cases h with
  | some hgoes => exact ⟨_, rfl, hgoes⟩

theorem Lot.isDue_ended {lot : Lot κ} (h : lot.hasEnded = true) : lot.isDue = false := by
  obtain ⟨owner, phase, cancelled⟩ := lot
  cases phase <;> first | rfl | cases h

theorem Lot.isDue_resting {lot : Lot κ} (h : lot.isDue = true) :
    ({ lot with phase := .resting } : Lot κ).isDue = true := by
  obtain ⟨owner, phase, cancelled⟩ := lot
  cases phase <;> first | exact h | cases h

/-- A loop that is due has not ended. -/
theorem Timeline.isLive_of_isDue {timeline : Timeline κ} {n : Nat} {lot : Lot κ}
    (hlot : timeline.lot? n = some lot) (hdue : lot.isDue = true) : timeline.isLive n = true := by
  rw [isLive_lot hlot]
  by_contra hended
  cases hdue.symm.trans (Lot.isDue_ended (by simpa using hended))

/-- A loop that is due has not failed. -/
theorem Timeline.failure?_of_isDue {timeline : Timeline κ} {n : Nat} {lot : Lot κ}
    (hlot : timeline.lot? n = some lot) (hdue : lot.isDue = true) :
    timeline.failure? n = none := by
  obtain ⟨loop, hloop, rfl⟩ := Option.map_eq_some_iff.mp hlot
  rw [failure?, hloop, Option.bind_some]
  obtain ⟨owner, phase, isWaiting, cancelled⟩ := loop
  cases phase <;> first | rfl | cases hdue

namespace Agenda

variable [DecidableEq κ]

/-! ## Steps -/

section Steps

variable (tick : κ → Act (Agenda κ σ) (Option Pause))

/-- The loops go on: somebody begins to wait for the end of one, what is next happens, or nothing is
left to be done and another moment comes. -/
inductive Step : Agenda κ σ → Agenda κ σ → Prop
  | await (agenda : Agenda κ σ) (number : Nat) :
      Step agenda { agenda with timeline := agenda.timeline.await number }
  | play {agenda taken : Agenda κ σ} {event : Event} (hnext : agenda.next? = some (event, taken)) :
      Step agenda (play tick event taken).state
  | pass {agenda : Agenda κ σ} (hidle : agenda.next? = none) (moment : Seconds) :
      Step agenda (agenda.atMoment moment)

/-- What the loops come to by themselves. -/
abbrev Passed : Agenda κ σ → Agenda κ σ → Prop :=
  Relation.ReflTransGen (Step tick)

theorem passed_advanceFrom (target : Seconds) (fuel : Nat) (log : List Log.Item)
    (agenda : Agenda κ σ) :
    Passed tick agenda (advanceFrom (play tick) target fuel log agenda).2 := by
  induction fuel generalizing log agenda with
  | zero => exact .refl
  | succ fuel ih =>
    rw [advanceFrom]
    cases hnext : agenda.next? with
    | some next => exact (ih _ _).head (.play hnext)
    | none =>
      cases agenda.nextMoment? target with
      | some moment => exact (ih _ _).head (.pass hnext moment)
      | none => exact .single (.pass hnext target)

theorem passed_waitFrom (fuel : Nat) (log : List Log.Item) (agenda : Agenda κ σ) :
    Passed tick agenda (waitFrom (play tick) fuel log agenda).2 := by
  induction fuel generalizing log agenda with
  | zero => exact .refl
  | succ fuel ih =>
    rw [waitFrom]
    cases hnext : agenda.next? with
    | none => exact .refl
    | some next =>
      obtain ⟨event, taken⟩ := next
      cases event with
      | resume => exact .single (.play hnext)
      | turn | alarm => exact (ih _ _).head (.play hnext)

/-- **Time passes** step by step. -/
theorem passed_advance (duration : Reading) (agenda : Agenda κ σ) :
    Passed tick agenda (advance (play tick) duration agenda).state := by
  have hact : advance (play tick) duration agenda =
      Act.bind (Act.ofExcept (agenda.momentAfter duration)) (fun target agenda =>
        ⟨.ok (), (advanceFrom (play tick) target patience [] agenda).2,
          (advanceFrom (play tick) target patience [] agenda).1.reverse⟩) agenda := rfl
  rw [hact]
  cases agenda.momentAfter duration with
  | ok target => exact passed_advanceFrom tick target patience [] agenda
  | error failure => exact .refl

/-- **A cadence that was cancelled is waited for** step by step. -/
theorem passed_close (key : κ) (agenda : Agenda κ σ) :
    Passed tick (agenda.called key) (close (play tick) key agenda).state := by
  unfold close
  rw [Act.state_bind, Act.run_get]
  dsimp only
  cases hcurrent : agenda.current? key with
  | none =>
    rw [called, hcurrent]
    exact .refl
  | some number =>
    dsimp only
    rw [Act.state_bind, run_cancel]
    dsimp only
    split_ifs with hlive
    · have hwait : (waitFor (play tick) number (agenda.called key)).outcome = .ok () := rfl
      rw [Act.state_bind, hwait]
      dsimp only
      rw [Act.state_raise?]
      exact (passed_waitFrom tick patience [] _).head (.await (agenda.called key) number)
    · rw [Act.state_raise?]

end Steps

/-! ## Cadences that stand -/

/-- The cadence was started, and was not cancelled since. -/
def isStarted (agenda : Agenda κ σ) (key : κ) : Bool :=
  (agenda.current? key).isSome

/-- The cadences of some keys stand, and all loops belong to them. -/
structure Standing (K : κ → Prop) (agenda : Agenda κ σ) : Prop where
  cadences : ∀ key, K key → ∃ cadence, agenda.cadence? key = some cadence ∧
    cadence.interval.toDouble?.isSome = true
  current : ∀ key n, K key → agenda.current? key = some n →
    ∃ lot, agenda.timeline.lot? n = some lot ∧ lot.owner = key ∧ lot.isDue = true
  owners : ∀ n lot, agenda.timeline.lot? n = some lot → K lot.owner

/-- Some cadences stand, and which cadences are started fits to the rest of the world. -/
structure Upheld (K : κ → Prop) (Q : (κ → Bool) → σ → Prop) (agenda : Agenda κ σ) : Prop where
  standing : agenda.Standing K
  fits : Q agenda.isStarted agenda.world

variable {K : κ → Prop} {Q : (κ → Bool) → σ → Prop} {agenda : Agenda κ σ} {key : κ}

theorem current?_counted (other : κ) :
    (agenda.counted key).current? other = agenda.current? other := by
  rw [counted, current?_changed]
  split_ifs
  · rw [current?]
    cases agenda.cadence? other <;> rfl
  · rfl

namespace Standing

theorem isSome_cadence? (h : agenda.Standing K) (hkey : K key) :
    (agenda.cadence? key).isSome = true := by
  obtain ⟨cadence, hcadence, -⟩ := h.cadences key hkey
  rw [hcadence, Option.isSome_some]

/-- **A cadence that stands** runs if it is started. -/
theorem isRunning (h : agenda.Standing K) (hkey : K key) :
    agenda.isRunning key = agenda.isStarted key := by
  unfold Agenda.isRunning isStarted
  cases hcurrent : agenda.current? key with
  | none => rfl
  | some n =>
    obtain ⟨lot, hlot, -, hdue⟩ := h.current key n hkey hcurrent
    exact Timeline.isLive_of_isDue hlot hdue

/-- The loops of another timeline, which all go on. -/
theorem retime (h : agenda.Standing K) {timeline : Timeline κ}
    (hlots : ∀ n, Option.Rel Lot.GoesOn (agenda.timeline.lot? n) (timeline.lot? n)) :
    ({ agenda with timeline } : Agenda κ σ).Standing K where
  cadences := h.cadences
  current key n hkey hcurrent := by
    obtain ⟨lot, hlot, howner, hdue⟩ := h.current key n hkey hcurrent
    obtain ⟨after, hafter, hgoes⟩ := Lot.GoesOn.of_some (hlots n) hlot
    exact ⟨after, hafter, hgoes.owner.trans howner, hgoes.isDue hdue⟩
  owners n after hafter := by
    obtain ⟨lot, hlot, hgoes⟩ := Lot.GoesOn.to_some (hlots n) hafter
    exact hgoes.owner ▸ h.owners n lot hlot

/-- **A start** leaves cadences standing. -/
theorem start (h : agenda.Standing K) (hkey : K key) :
    (Agenda.start key agenda).state.Standing K := by
  rw [run_start]
  dsimp only
  split_ifs
  · exact h
  refine ⟨fun other hother => ?_, fun other n hother hcurrent => ?_, fun n lot hlot => ?_⟩
  · obtain ⟨cadence, hcadence, hinterval⟩ := h.cadences other hother
    rw [cadence?_started, hcadence]
    split_ifs
    · exact ⟨_, rfl, hinterval⟩
    · exact ⟨cadence, rfl, hinterval⟩
  · rw [current?_started _ _ _ (h.isSome_cadence? hkey)] at hcurrent
    split_ifs at hcurrent with heq
    · obtain rfl := Option.some.inj hcurrent
      exact ⟨⟨key, .fresh, false⟩, (Timeline.lot?_spawn key _).trans (if_pos rfl), heq.symm, rfl⟩
    · obtain ⟨lot, hlot, howner, hdue⟩ := h.current other n hother hcurrent
      refine ⟨lot, ?_, howner, hdue⟩
      exact (Timeline.lot?_spawn key n).trans ((if_neg (Timeline.ne_size hlot)).trans hlot)
  · have hspawn := (Timeline.lot?_spawn key n).symm.trans hlot
    split_ifs at hspawn
    · obtain rfl := Option.some.inj hspawn
      exact hkey
    · exact h.owners n lot hspawn

/-- **A cancel** leaves cadences standing. -/
theorem called (h : agenda.Standing K) (hkey : K key) : (agenda.called key).Standing K := by
  cases hnumber : agenda.current? key with
  | none =>
    rw [Agenda.called, hnumber]
    exact h
  | some number =>
    obtain ⟨lot, hlot, howner, hdue⟩ := h.current key number hkey hnumber
    have hlive := Timeline.isLive_of_isDue hlot hdue
    have htimeline : (agenda.called key).timeline = agenda.timeline.cancel number := by
      rw [Agenda.called, hnumber]
    refine ⟨fun other hother => ?_, fun other n hother hcurrent => ?_, fun n after hafter => ?_⟩
    · obtain ⟨cadence, hcadence, hinterval⟩ := h.cadences other hother
      rw [cadence?_called agenda key other hnumber, hcadence]
      split_ifs
      · exact ⟨_, rfl, hinterval⟩
      · exact ⟨cadence, rfl, hinterval⟩
    · rw [current?_called] at hcurrent
      split_ifs at hcurrent with heq
      obtain ⟨found, hfound, hfoundOwner, hfoundDue⟩ := h.current other n hother hcurrent
      -- The loop that is cancelled belongs to the other cadence.
      have hne : number ≠ n := by
        rintro rfl
        obtain rfl : lot = found := Option.some.inj (hlot.symm.trans hfound)
        exact heq (hfoundOwner.symm.trans howner)
      rw [htimeline]
      exact ⟨found, (Timeline.lot?_cancel_of_ne hne).trans hfound, hfoundOwner, hfoundDue⟩
    · rw [htimeline, Timeline.lot?_cancel hlive] at hafter
      split_ifs at hafter
      · obtain ⟨before, hbefore, rfl⟩ := Option.map_eq_some_iff.mp hafter
        exact h.owners n before hbefore
      · exact h.owners n after hafter

/-- A tick that is over is counted, which leaves cadences standing. -/
theorem counted (h : agenda.Standing K) (key : κ) : (agenda.counted key).Standing K where
  cadences other hother := by
    obtain ⟨cadence, hcadence, hinterval⟩ := h.cadences other hother
    rw [Agenda.counted, cadence?_changed, hcadence]
    split_ifs
    · exact ⟨_, rfl, hinterval⟩
    · exact ⟨cadence, rfl, hinterval⟩
  current other n hother hcurrent := by
    rw [current?_counted] at hcurrent
    exact h.current other n hother hcurrent
  owners := h.owners

/-- **After a tick** a loop rests. -/
theorem rested (h : agenda.Standing K) (hkey : K key) (number : Nat) :
    (agenda.rested key number).Standing K ∧
      (agenda.rested key number).isStarted = agenda.isStarted ∧
      (agenda.rested key number).world = agenda.world := by
  obtain ⟨cadence, hcadence, hinterval⟩ := h.cadences key hkey
  obtain ⟨wake, hwake⟩ := Option.isSome_iff_exists.mp
    (Wake.isSome_after? hinterval agenda.timeline.now)
  have hrested : agenda.rested key number = (agenda.counted key).slept number .resting wake := by
    rw [Agenda.rested, hcadence]
    dsimp only
    rw [hwake]
  rw [hrested]
  refine ⟨(h.counted key).retime fun n => ?_, ?_, rfl⟩
  · rw [Timeline.lot?_slept]
    split_ifs
    · exact Lot.GoesOn.rel_map fun lot _ => ⟨rfl, Lot.isDue_resting⟩
    · exact Lot.GoesOn.rel_of_eq rfl
  · funext other
    exact congrArg Option.isSome (current?_counted other)

/-- The loop that was started for a cadence has not failed. -/
theorem outcome_close (h : agenda.Standing K) (hkey : K key)
    (tick : κ → Act (Agenda κ σ) (Option Pause)) :
    (close (play tick) key agenda).outcome = .ok () := by
  unfold close
  rw [Act.outcome_bind, Act.run_get]
  dsimp only
  cases hcurrent : agenda.current? key with
  | none => rfl
  | some number =>
    obtain ⟨lot, hlot, -, hdue⟩ := h.current key number hkey hcurrent
    have hfailure : agenda.timeline.failure? number = none :=
      Timeline.failure?_of_isDue hlot hdue
    have hwait : (waitFor (play tick) number (agenda.called key)).outcome = .ok () := rfl
    dsimp only
    rw [Act.outcome_bind, run_cancel, Timeline.isLive_of_isDue hlot hdue, if_pos rfl, hfailure]
    dsimp only
    rw [Act.outcome_bind, hwait]
    rfl

end Standing

/-! ## What is kept beside -/

theorem world_start (key : κ) (agenda : Agenda κ σ) :
    (start key agenda).state.world = agenda.world := by
  rw [run_start]
  dsimp only
  split_ifs <;> rfl

theorem world_called (key : κ) (agenda : Agenda κ σ) :
    (agenda.called key).world = agenda.world := by
  unfold called
  split <;> rfl

/-- **A cadence that was started** is started, and all others are as before. -/
theorem Standing.isStarted_start (h : agenda.Standing K) (hkey : K key) :
    (Agenda.start key agenda).state.isStarted = Function.update agenda.isStarted key true := by
  funext other
  rw [run_start, Function.update_apply]
  dsimp only
  by_cases hrunning : agenda.isRunning key = true
  · rw [if_pos hrunning]
    split_ifs with heq
    · rw [heq]
      exact isSome_current? agenda hrunning
    · rfl
  · rw [if_neg hrunning]
    unfold isStarted
    rw [current?_started _ _ _ (h.isSome_cadence? hkey)]
    split_ifs <;> rfl

/-- **A cadence that was cancelled** is not started, and all others are as before. -/
theorem isStarted_called (key : κ) (agenda : Agenda κ σ) :
    (agenda.called key).isStarted = Function.update agenda.isStarted key false := by
  funext other
  rw [Function.update_apply]
  unfold isStarted
  rw [current?_called]
  split_ifs <;> rfl

namespace Upheld

/-- An act on the rest of the world. -/
theorem keeps_onWorld {α : Type} {E : Failure → Prop} {act : Act σ α}
    (hact : ∀ started, Act.Keeps (Q started) E act) :
    Act.Keeps (Upheld K Q) E (onWorld act) where
  state agenda h :=
    ⟨⟨h.standing.cadences, h.standing.current, h.standing.owners⟩,
      (hact agenda.isStarted).state agenda.world h.fits⟩
  failure agenda f h hf := (hact agenda.isStarted).failure agenda.world f h.fits hf

/-- The loops of another timeline, which all go on. -/
theorem retime (h : agenda.Upheld K Q) {timeline : Timeline κ}
    (hlots : ∀ n, Option.Rel Lot.GoesOn (agenda.timeline.lot? n) (timeline.lot? n)) :
    ({ agenda with timeline } : Agenda κ σ).Upheld K Q :=
  ⟨h.standing.retime hlots, h.fits⟩

theorem rested (h : agenda.Upheld K Q) (hkey : K key) (number : Nat) :
    (agenda.rested key number).Upheld K Q := by
  obtain ⟨hstanding, hstarted, hworld⟩ := h.standing.rested hkey number
  refine ⟨hstanding, ?_⟩
  rw [hstarted, hworld]
  exact h.fits

/-- A loop ends that was not due. -/
theorem ended (h : agenda.Upheld K Q) {number : Nat} {lot : Lot κ}
    (hlot : agenda.timeline.lot? number = some lot) (hdue : lot.isDue = false)
    (failure : Option Failure) : (agenda.ended number failure).Upheld K Q := by
  refine h.retime fun n => ?_
  rw [Timeline.lot?_finish]
  split_ifs with heq
  · refine Lot.GoesOn.rel_map fun found hfound => ⟨rfl, fun hfoundDue => ?_⟩
    obtain rfl : lot = found := Option.some.inj (hlot.symm.trans (heq ▸ hfound))
    cases hdue.symm.trans hfoundDue
  · exact Lot.GoesOn.rel_of_eq rfl

variable {tick : κ → Act (Agenda κ σ) (Option Pause)}
  (hkeeps : ∀ key, K key → Act.Keeps (Upheld K Q) Act.Ordinary (tick key))
  (hpauses : ∀ key agenda pause, (tick key agenda).outcome ≠ .ok (some pause))
include hkeeps hpauses

/-- A tick begins, and is over. -/
theorem begin (h : agenda.Upheld K Q) (hkey : K key) (number : Nat) :
    (Agenda.begin tick number key agenda).state.Upheld K Q := by
  have hafter := (hkeeps key hkey).state agenda h
  rw [state_begin]
  cases houtcome : (tick key agenda).outcome with
  | error failure =>
    dsimp only
    rw [state_settle _ _ _ ((hkeeps key hkey).failure agenda failure h houtcome)]
    exact hafter.rested hkey number
  | ok answer =>
    cases answer with
    | none => exact hafter.rested hkey number
    | some pause => exact absurd houtcome (hpauses key agenda pause)

/-- **A turn** of a loop. -/
theorem turn (h : agenda.Upheld K Q) (number : Nat) :
    (Agenda.turn tick number agenda).state.Upheld K Q := by
  cases hloop : agenda.timeline.loops[number]? with
  | none =>
    have hturn : (Agenda.turn tick number agenda).state = agenda := by
      unfold Agenda.turn
      rw [Act.state_bind, Act.run_get]
      dsimp only
      rw [hloop]
      rfl
    exact hturn.symm ▸ h
  | some loop =>
    have hlot : agenda.timeline.lot? number = some loop.lot := by
      rw [Timeline.lot?, hloop, Option.map_some]
    have hkey := h.standing.owners number loop.lot hlot
    rw [state_turn _ _ _ hloop]
    obtain ⟨owner, phase, isWaiting, cancelled⟩ := loop
    cases phase with
    | ended failure => exact h
    | fresh | resting =>
      cases cancelled with
      | true => exact h.ended hlot rfl none
      | false => exact h.begin hkeeps hpauses hkey number
    | pausing failure =>
      cases cancelled with
      | true => exact h.ended hlot rfl none
      | false =>
        cases failure with
        | none => exact h.rested hkey number
        | some failure =>
          dsimp only
          cases hcancelled : failure.isCancelled with
          | false =>
            rw [state_settle agenda owner number hcancelled]
            exact h.rested hkey number
          | true =>
            have hsettle : (settle number owner failure agenda).state =
                agenda.ended number none := by
              unfold settle
              rw [hcancelled, if_pos rfl]
              rfl
            exact hsettle ▸ h.ended hlot rfl none

/-- **What happens next** on the timeline. -/
theorem play (h : agenda.Upheld K Q) (event : Event) :
    (Agenda.play tick event agenda).state.Upheld K Q := by
  cases event with
  | turn number => exact h.turn hkeeps hpauses number
  | alarm number => exact h.retime fun n => Lot.GoesOn.rel_of_eq (Timeline.lot?_alarm number n)
  | resume => exact h

/-- **Each step** of the loops. -/
theorem step {other : Agenda κ σ} (h : agenda.Upheld K Q) (hstep : Step tick agenda other) :
    other.Upheld K Q := by
  cases hstep with
  | await number => exact h.retime fun n => Lot.GoesOn.rel_of_eq rfl
  | pass hidle moment => exact h.retime fun n => Lot.GoesOn.rel_of_eq rfl
  | play hnext =>
    obtain ⟨⟨first, rest⟩, htaken, heq⟩ := Option.map_eq_some_iff.mp hnext
    obtain ⟨rfl, rfl⟩ := Prod.mk.inj heq
    refine play hkeeps hpauses (h.retime fun n => Lot.GoesOn.rel_of_eq ?_) _
    obtain ⟨current, hcurrent, -, hrest⟩ := Timeline.next?_cases htaken
    rw [hrest]
    rcases hcurrent with rfl | rfl <;> rfl

/-- **What the loops come to** by themselves. -/
theorem passed {other : Agenda κ σ} (h : agenda.Upheld K Q) (hpassed : Passed tick agenda other) :
    other.Upheld K Q := by
  induction hpassed with
  | refl => exact h
  | tail _ hstep ih => exact ih.step hkeeps hpauses hstep

end Upheld

end Agenda

end Warden.Schedule
