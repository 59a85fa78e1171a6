import Warden.Proofs.Schedule.Told
import Warden.Proofs.Schedule.Turns

/-!
# The course of cadences

The invariant of an agenda with its chronicle. The loop that was started last for a cadence is the
only one of it that is not cancelled; a cancelled loop that is in the middle of a call is interrupted
before a later loop of the cadence has its first turn, unless the call has restarted the cadence
itself. Orders keep this, whether they come from outside or from the callback of the loop that has
its turn.

## Main definitions

* `Lot`: a loop, apart from its wait
* `Recorded`: the last entry about a loop fits to what it does next
* `Core`: loops, cadences and chronicle fit to each other
* `Clear`: cancelled calls come to an end before later loops begin
* `Course`: the whole invariant

## Main results

* `Course.retime`: changes of the timeline that leave the loops alone keep the invariant
* `Course.start`, `Course.cancel`: orders keep it
* `Course.idle`: the loop that was started last finds no call in progress
-/

namespace Warden.Schedule

open Warden.Numeric

variable {κ : Type}

/-! ## Loops without their waits -/

/-- A loop, apart from its wait. -/
structure Lot (κ : Type) where
  owner : κ
  phase : Phase
  cancelled : Bool

/-- The loop has ended. -/
def Lot.hasEnded (lot : Lot κ) : Bool :=
  lot.phase matches .ended _

/-- A loop, apart from its wait. -/
def Loop.lot (loop : Loop κ) : Lot κ :=
  ⟨loop.owner, loop.phase, loop.cancelled⟩

namespace Timeline

/-- The loop of a number, apart from its wait. -/
def lot? (timeline : Timeline κ) (n : Nat) : Option (Lot κ) :=
  timeline.loops[n]?.map (·.lot)

variable {timeline : Timeline κ} {n : Nat} {lot : Lot κ}

theorem isLive_lot (h : timeline.lot? n = some lot) : timeline.isLive n = !lot.hasEnded := by
  obtain ⟨loop, hloop, rfl⟩ := Option.map_eq_some_iff.mp h
  exact isLive_eq hloop

theorem isCancelled_lot (h : timeline.lot? n = some lot) :
    timeline.isCancelled n = lot.cancelled := by
  obtain ⟨loop, hloop, rfl⟩ := Option.map_eq_some_iff.mp h
  exact isCancelled_eq hloop

theorem isLive_congr_lot {next : Timeline κ} (h : next.lot? n = timeline.lot? n) :
    next.isLive n = timeline.isLive n := by
  cases hlot : timeline.lot? n with
  | some lot => rw [isLive_lot (h.trans hlot), isLive_lot hlot]
  | none =>
    have hnone : next.loops[n]? = none := Option.map_eq_none_iff.mp (h.trans hlot)
    have hother : timeline.loops[n]? = none := Option.map_eq_none_iff.mp hlot
    rw [isLive, isLive, hnone, hother]

theorem exists_lot (h : timeline.isLive n = true) :
    ∃ lot, timeline.lot? n = some lot ∧ lot.hasEnded = false := by
  obtain ⟨loop, hloop, hlive⟩ := exists_of_isLive h
  exact ⟨loop.lot, by rw [lot?, hloop, Option.map_some], hlive⟩

theorem lot?_change (n m : Nat) (f : Loop κ → Loop κ) (g : Lot κ → Lot κ)
    (hfg : ∀ loop, (f loop).lot = g loop.lot) :
    (timeline.change n f).lot? m =
      if n = m then (timeline.lot? m).map g else timeline.lot? m := by
  rw [lot?, lot?, loops_change]
  split_ifs
  · rw [Option.map_map, Option.map_map]
    congr 1
    funext loop
    exact hfg loop
  · rfl

theorem lot?_ready (n m : Nat) : (timeline.ready n).lot? m = timeline.lot? m := by
  have h := timeline.lot?_change n m (fun loop => { loop with isWaiting := false }) id fun _ => rfl
  rw [Option.map_id_fun, id, ite_self] at h
  exact h

theorem lot?_paused (n m : Nat) : (timeline.paused n).lot? m = timeline.lot? m := by
  have h := timeline.lot?_change n m (fun loop => { loop with isWaiting := true }) id fun _ => rfl
  rw [Option.map_id_fun, id, ite_self] at h
  exact h

theorem lot?_alarm (n m : Nat) : (timeline.alarm n).lot? m = timeline.lot? m := by
  unfold alarm
  split_ifs
  · exact lot?_ready n m
  · rfl

theorem lot?_inPhase (n m : Nat) (phase : Phase) :
    (timeline.inPhase n phase).lot? m =
      if n = m then (timeline.lot? m).map fun lot => { lot with phase } else timeline.lot? m :=
  timeline.lot?_change n m _ _ fun _ => rfl

theorem lot?_slept (n m : Nat) (phase : Phase) (wake : Wake) :
    (timeline.slept n phase wake).lot? m =
      if n = m then (timeline.lot? m).map fun lot => { lot with phase } else timeline.lot? m := by
  rw [← lot?_inPhase]
  unfold slept
  dsimp only
  split_ifs
  · exact lot?_ready n m
  · cases wake with
    | atOnce => exact lot?_ready n m
    | «at» | never => exact lot?_paused n m

theorem lot?_finish (n m : Nat) (failure : Option Failure) :
    (timeline.finish n failure).lot? m =
      if n = m then (timeline.lot? m).map fun lot => { lot with phase := .ended failure }
      else timeline.lot? m := by
  rw [← lot?_inPhase]
  unfold finish
  dsimp only
  split_ifs <;> rfl

theorem lot?_cancel (hlive : timeline.isLive n = true) (m : Nat) :
    (timeline.cancel n).lot? m =
      if n = m then (timeline.lot? m).map fun lot => { lot with cancelled := true }
      else timeline.lot? m := by
  have hmarked := timeline.lot?_change n m (fun loop => { loop with cancelled := true })
    (fun lot => { lot with cancelled := true }) fun _ => rfl
  rw [← hmarked, cancel_eq, if_pos hlive]
  split_ifs
  · exact lot?_ready n m
  · rfl

theorem lot?_cancel_of_ne {m : Nat} (h : n ≠ m) : (timeline.cancel n).lot? m = timeline.lot? m :=
  congrArg (Option.map Loop.lot) (untouched_cancel h).loop

/-- What becomes of a loop that is cancelled. -/
theorem exists_lot_cancel (h : timeline.lot? n = some lot) :
    ∃ after, (timeline.cancel n).lot? n = some after ∧ after.owner = lot.owner ∧
      after.phase = lot.phase ∧ (after.hasEnded = false → after.cancelled = true) := by
  by_cases hlive : timeline.isLive n = true
  · refine ⟨{ lot with cancelled := true }, ?_, rfl, rfl, fun _ => rfl⟩
    rw [lot?_cancel hlive, if_pos rfl, h, Option.map_some]
  · refine ⟨lot, by rwa [cancel_eq, if_neg hlive], rfl, rfl, fun hkept => ?_⟩
    rw [isLive_lot h, hkept] at hlive
    exact absurd rfl hlive

theorem queue_cancel (timeline : Timeline κ) (n : Nat) :
    timeline.queue.Sublist (timeline.cancel n).queue := by
  rw [cancel_eq]
  split_ifs
  · exact List.sublist_append_left _ _
  · exact List.Sublist.refl _
  · exact List.Sublist.refl _

theorem queue_alarm (timeline : Timeline κ) (n : Nat) :
    timeline.queue.Sublist (timeline.alarm n).queue := by
  unfold alarm
  split_ifs
  · exact List.sublist_append_left _ _
  · exact List.Sublist.refl _

theorem queue_finish (timeline : Timeline κ) (n : Nat) (failure : Option Failure) :
    timeline.queue.Sublist (timeline.finish n failure).queue := by
  unfold finish
  dsimp only
  split_ifs
  · exact List.sublist_append_left _ _
  · exact List.Sublist.refl _

theorem queue_slept (timeline : Timeline κ) (n : Nat) (phase : Phase) (wake : Wake) :
    timeline.queue.Sublist (timeline.slept n phase wake).queue := by
  unfold slept
  dsimp only
  split_ifs
  · exact List.sublist_append_left _ _
  · cases wake with
    | atOnce => exact List.sublist_append_left _ _
    | «at» | never => exact List.Sublist.refl _

/-- There is no loop of the next number yet. -/
theorem lot?_size (timeline : Timeline κ) : timeline.lot? timeline.loops.size = none := by
  rw [lot?, Array.getElem?_eq_none (Nat.le_refl _), Option.map_none]

theorem ne_size (h : timeline.lot? n = some lot) : n ≠ timeline.loops.size := by
  rintro rfl
  cases timeline.lot?_size.symm.trans h

theorem lot?_spawn (owner : κ) (m : Nat) :
    (timeline.spawn owner).1.lot? m =
      if m = timeline.loops.size then some ⟨owner, .fresh, false⟩ else timeline.lot? m := by
  rw [lot?, loops_spawn]
  split_ifs <;> rfl

end Timeline

/-! ## What is recorded about a loop -/

/-- The last entry about a loop fits to what the loop does next. -/
def Recorded (entries : List (Entry κ)) (n : Nat) (lot : Lot κ) : Prop :=
  match lot.phase with
  | .fresh => lastOf entries n = none
  | .resting => ∃ moment, lastOf entries n = some (.completed lot.owner n moment)
  | .pausing failure =>
    (∃ moment call delay, lastOf entries n = some (.began lot.owner n moment call) ∧
      call.ending = .pauses delay failure ∧ call.IsOrdinary) ∧
      (lot.cancelled = true → .cancelled lot.owner ∈ sinceLast entries n)
  | .ended _ => ∀ key, ¬ InProgress key entries n

/-- An entry that is not about a loop leaves what is recorded about it. -/
theorem Recorded.cons {entries : List (Entry κ)} {n : Nat} {lot : Lot κ}
    (h : Recorded entries n lot) {entry : Entry κ} (hentry : entry.loop? ≠ some n) :
    Recorded (entry :: entries) n lot := by
  have hlast := lastOf_cons_of_ne hentry entries
  unfold Recorded at h ⊢
  cases hphase : lot.phase with
  | fresh | resting =>
    rw [hphase] at h
    rwa [hlast]
  | pausing failure =>
    rw [hphase] at h
    refine ⟨by rw [hlast]; exact h.1, fun hcancelled => ?_⟩
    rw [sinceLast_cons_of_ne hentry]
    exact List.mem_cons_of_mem _ (h.2 hcancelled)
  | ended failure =>
    rw [hphase] at h
    rintro key ⟨call, moment, hbegan⟩
    rw [hlast] at hbegan
    exact h key ⟨call, moment, hbegan⟩

/-- What is recorded about a loop when it is cancelled. -/
theorem Recorded.cancel {entries : List (Entry κ)} {n : Nat} {lot after : Lot κ}
    (h : Recorded entries n lot) (howner : after.owner = lot.owner) (hphase : after.phase = lot.phase) :
    Recorded (.cancelled lot.owner :: entries) n after := by
  have hcons := h.cons (loop?_cancelled lot.owner n)
  unfold Recorded at hcons ⊢
  rw [hphase, howner]
  cases hlot : lot.phase with
  | fresh | resting | ended =>
    rw [hlot] at hcons
    exact hcons
  | pausing failure =>
    rw [hlot] at hcons
    -- The cancel itself is the entry that justifies an interruption.
    refine ⟨hcons.1, fun _ => ?_⟩
    rw [sinceLast_cons_of_ne (by simp [Entry.loop?])]
    exact List.mem_cons_self

/-- The loop of a call in progress is in the middle of it. -/
theorem Recorded.owner_of_calling {entries : List (Entry κ)} {n : Nat} {lot : Lot κ}
    (h : Recorded entries n lot) {key : κ} {call : Conduct} (hcalling : Calling key entries n call) :
    lot.owner = key ∧ lot.hasEnded = false := by
  obtain ⟨moment, hbegan⟩ := hcalling
  unfold Recorded at h
  unfold Lot.hasEnded
  cases hphase : lot.phase with
  | fresh =>
    rw [hphase] at h
    exact absurd (h.symm.trans hbegan) (by simp)
  | resting =>
    rw [hphase] at h
    obtain ⟨last, hlast⟩ := h
    exact absurd (hlast.symm.trans hbegan) (by simp)
  | pausing failure =>
    rw [hphase] at h
    obtain ⟨start, other, delay, hlast, -⟩ := h.1
    have heq := Option.some.inj (hlast.symm.trans hbegan)
    exact ⟨(Entry.began.inj heq).1, rfl⟩
  | ended failure =>
    rw [hphase] at h
    exact absurd ⟨call, moment, hbegan⟩ (h key)

/-! ## The invariant -/

section Invariant

variable [DecidableEq κ] (interval : κ → Reading)

/-- Loops, cadences and chronicle fit to each other, apart from what is recorded about a loop that
has its turn. -/
structure Core (acting : Option Nat) (agenda : Agenda κ (Calls κ)) (entries : List (Entry κ)) :
    Prop where
  cadences : ∀ key, ∃ cadence, agenda.cadence? key = some cadence ∧
    cadence.interval = interval key ∧ cadence.ticks = completions key entries
  calls : ∀ key, agenda.world key = beginnings key entries
  owned : ∀ n lot, agenda.timeline.lot? n = some lot → lot.hasEnded = false →
    lot.cancelled = false → agenda.current? lot.owner = some n
  current : ∀ key n, agenda.current? key = some n →
    ∃ lot, agenda.timeline.lot? n = some lot ∧ lot.owner = key ∧ lot.cancelled = false
  ordered : ∀ key, (agenda.current? key).isSome = isOrdered key entries
  recorded : ∀ n lot, acting ≠ some n → agenda.timeline.lot? n = some lot →
    Recorded entries n lot
  unrecorded : ∀ n, agenda.timeline.lot? n = none → lastOf entries n = none
  told : Told interval entries
  lasting : ∀ key, (interval key).toDouble?.isSome = true → ∀ n, agenda.current? key = some n →
    agenda.timeline.isLive n = true

/-- A cancelled loop in the middle of a call has its turn before the loop that was started last, which
has not had any, unless the call has restarted its cadence. -/
def Clear (acting : Option Nat) (agenda : Agenda κ (Calls κ)) (entries : List (Entry κ)) : Prop :=
  ∀ n lot call, acting ≠ some n → agenda.timeline.lot? n = some lot → lot.cancelled = true →
    Calling lot.owner entries n call → call.restarts = false →
    ∀ m, agenda.current? lot.owner = some m →
      (∃ later, agenda.timeline.lot? m = some later ∧ later.phase = .fresh) ∧
        [Event.turn n, .turn m].Sublist agenda.timeline.queue

/-- The invariant of an agenda with its chronicle, where a loop may have its turn. -/
structure Course (acting : Option Nat) (agenda : Agenda κ (Calls κ)) (entries : List (Entry κ)) :
    Prop where
  orderly : agenda.timeline.Orderly acting
  punctual : agenda.timeline.Punctual (errand interval entries) acting
  core : Core interval acting agenda entries
  clear : Clear acting agenda entries

variable {interval} {acting : Option Nat} {agenda : Agenda κ (Calls κ)}
  {entries : List (Entry κ)}

theorem Core.isSome_cadence? (h : Core interval acting agenda entries) (key : κ) :
    (agenda.cadence? key).isSome = true := by
  obtain ⟨cadence, hcadence, -⟩ := h.cadences key
  rw [hcadence, Option.isSome_some]

/-- A loop of a cadence that is neither cancelled nor over keeps it running. -/
theorem Core.isRunning_of_owned (h : Core interval acting agenda entries) {n : Nat} {lot : Lot κ}
    (hlot : agenda.timeline.lot? n = some lot) (hlive : lot.hasEnded = false)
    (hkept : lot.cancelled = false) : agenda.isRunning lot.owner = true := by
  rw [Agenda.isRunning, h.owned n lot hlot hlive hkept]
  dsimp only
  rw [Timeline.isLive_lot hlot, hlive, Bool.not_false]

/-- Another timeline with the same loops, where turns that are left keep their order. -/
theorem Course.retime (h : Course interval none agenda entries) {timeline : Timeline κ}
    {actor : Option Nat} (horder : timeline.Orderly actor)
    (hpunctual : timeline.Punctual (errand interval entries) actor)
    (hlot : ∀ n, timeline.lot? n = agenda.timeline.lot? n)
    (hqueue : ∀ n m, actor ≠ some n → [Event.turn n, .turn m].Sublist agenda.timeline.queue →
      [Event.turn n, .turn m].Sublist timeline.queue) :
    Course interval actor { agenda with timeline } entries where
  orderly := horder
  punctual := hpunctual
  core :=
    { h.core with
      owned := fun n lot hfound => h.core.owned n lot ((hlot n).symm.trans hfound)
      current := fun key n hn => by
        obtain ⟨lot, hfound, hrest⟩ := h.core.current key n hn
        exact ⟨lot, (hlot n).trans hfound, hrest⟩
      recorded := fun n lot _ hfound =>
        h.core.recorded n lot (Option.some_ne_none n).symm ((hlot n).symm.trans hfound)
      unrecorded := fun n hnone => h.core.unrecorded n ((hlot n).symm.trans hnone)
      lasting := fun key hfinite n hn =>
        (Timeline.isLive_congr_lot (hlot n)).trans (h.core.lasting key hfinite n hn) }
  clear n lot call hn hfound hcancelled hcalling hcall m hm := by
    obtain ⟨⟨later, hlater, hfresh⟩, horder⟩ := h.clear n lot call (Option.some_ne_none n).symm
      ((hlot n).symm.trans hfound) hcancelled hcalling hcall m hm
    exact ⟨⟨later, (hlot m).trans hlater, hfresh⟩, hqueue n m hn horder⟩

/-! ## Orders -/

/-- An order that changes nothing, as the cadence runs already or is not started anyway. -/
theorem Course.order (h : Course interval acting agenda entries) {entry : Entry κ}
    (hloop : entry.loop? = none)
    (hordered : ∀ key, (agenda.current? key).isSome = isOrdered key (entry :: entries)) :
    Course interval acting agenda (entry :: entries) where
  orderly := h.orderly
  punctual := by
    rw [errand_cons interval hloop]
    exact h.punctual
  core :=
    { h.core with
      cadences := fun key => by
        rw [completions_order hloop]
        exact h.core.cadences key
      calls := fun key => by
        rw [beginnings_order hloop]
        exact h.core.calls key
      ordered := hordered
      recorded := fun n lot hn hlot => (h.core.recorded n lot hn hlot).cons (by simp [hloop])
      unrecorded := fun n hnone => by
        rw [lastOf_cons_of_ne (by simp [hloop])]
        exact h.core.unrecorded n hnone
      told := ⟨justified_order interval hloop, h.core.told⟩ }
  clear n lot call hn hlot hcancelled hcalling :=
    h.clear n lot call hn hlot hcancelled ((calling_cons_iff (by simp [hloop])).mp hcalling)

/-! ### Starts -/

theorem lot?_started (key : κ) (n : Nat) :
    (agenda.started key).timeline.lot? n =
      if n = agenda.timeline.loops.size then some ⟨key, .fresh, false⟩
      else agenda.timeline.lot? n :=
  Timeline.lot?_spawn key n

theorem lot?_started_of_some {key : κ} {n : Nat} {lot : Lot κ}
    (h : agenda.timeline.lot? n = some lot) : (agenda.started key).timeline.lot? n = some lot := by
  rw [lot?_started, if_neg (Timeline.ne_size h), h]

theorem Core.current?_started (h : Core interval acting agenda entries) (key other : κ) :
    (agenda.started key).current? other =
      if other = key then some agenda.timeline.loops.size else agenda.current? other :=
  agenda.current?_started key other (h.isSome_cadence? key)

/-- A new loop is the only one of its cadence that is neither cancelled nor over. -/
theorem Core.started (h : Core interval acting agenda entries) {key : κ}
    (hidle : agenda.isRunning key = false) :
    Core interval acting (agenda.started key) (.started key :: entries) where
  cadences other := by
    obtain ⟨cadence, hcadence, hinterval, hticks⟩ := h.cadences other
    rw [completions_order rfl, Agenda.cadence?_started, hcadence]
    split_ifs
    · exact ⟨_, rfl, hinterval, hticks⟩
    · exact ⟨_, rfl, hinterval, hticks⟩
  calls other := by
    rw [beginnings_order rfl]
    exact h.calls other
  owned n lot hlot hlive hkept := by
    rw [lot?_started] at hlot
    rw [h.current?_started]
    split_ifs at hlot with hnew
    · obtain rfl := Option.some.inj hlot
      rw [if_pos rfl, hnew]
    · split_ifs with howner
      · -- Another loop of the cadence that is neither cancelled nor over would keep it running.
        have hrunning := h.isRunning_of_owned hlot hlive hkept
        rw [howner, hidle] at hrunning
        cases hrunning
      · exact h.owned n lot hlot hlive hkept
  current other n hn := by
    rw [h.current?_started] at hn
    split_ifs at hn with hother
    · obtain rfl := Option.some.inj hn
      exact ⟨_, (lot?_started key _).trans (if_pos rfl), hother.symm, rfl⟩
    · obtain ⟨lot, hlot, howner, hkept⟩ := h.current other n hn
      exact ⟨lot, lot?_started_of_some hlot, howner, hkept⟩
  ordered other := by
    rw [h.current?_started, isOrdered_started]
    split_ifs
    · rfl
    · exact h.ordered other
  recorded n lot hn hlot := by
    rw [lot?_started] at hlot
    split_ifs at hlot with hnew
    · obtain rfl := Option.some.inj hlot
      refine (lastOf_cons_of_ne (loop?_started key n) entries).trans ?_
      exact h.unrecorded n (hnew ▸ agenda.timeline.lot?_size)
    · exact (h.recorded n lot hn hlot).cons (loop?_started key n)
  unrecorded n hn := by
    rw [lot?_started] at hn
    split_ifs at hn
    rw [lastOf_cons_of_ne (loop?_started key n)]
    exact h.unrecorded n hn
  told := ⟨trivial, h.told⟩
  lasting other hfinite n hn := by
    rw [h.current?_started] at hn
    split_ifs at hn with hother
    · obtain rfl := Option.some.inj hn
      exact Timeline.isLive_lot ((lot?_started key _).trans (if_pos rfl))
    · obtain ⟨lot, hlot, -⟩ := h.current other n hn
      refine (Timeline.isLive_congr_lot ?_).trans (h.lasting other hfinite n hn)
      rw [hlot, lot?_started_of_some hlot]

/-- The first turn of a new loop comes after the turns of the loops that were cancelled before. -/
theorem Clear.started (h : Clear acting agenda entries) (horder : agenda.timeline.Orderly acting)
    (hcore : Core interval acting agenda entries) (key : κ) :
    Clear acting (agenda.started key) (.started key :: entries) := by
  intro n lot call hn hlot hcancelled hcalling hcall m hm
  rw [calling_cons_iff (loop?_started key n)] at hcalling
  rw [hcore.current?_started] at hm
  rw [lot?_started] at hlot
  split_ifs at hlot
  · obtain rfl := Option.some.inj hlot
    cases hcancelled
  · split_ifs at hm with howner
    · obtain rfl := Option.some.inj hm
      refine ⟨⟨_, (lot?_started key _).trans (if_pos rfl), rfl⟩, ?_⟩
      -- The cancelled loop does not wait, so its turn stands in the queue.
      have hlive : agenda.timeline.isLive n = true := by
        rw [Timeline.isLive_lot hlot, ((hcore.recorded n lot hn hlot).owner_of_calling hcalling).2,
          Bool.not_false]
      have hgone : agenda.timeline.isCancelled n = true := by
        rw [Timeline.isCancelled_lot hlot, hcancelled]
      have hmem : Event.turn n ∈ agenda.timeline.queue :=
        (horder.placed n hn).mem_queue hlive hgone
      exact (List.singleton_sublist.mpr hmem).append (List.Sublist.refl [Event.turn _])
    · obtain ⟨⟨later, hlater, hfresh⟩, hqueue⟩ := h n lot call hn hlot hcancelled hcalling hcall m hm
      exact ⟨⟨later, lot?_started_of_some hlater, hfresh⟩,
        hqueue.trans (List.sublist_append_left _ _)⟩

/-- A start while the cadence does not run. -/
theorem Course.start_idle (h : Course interval acting agenda entries) {key : κ}
    (hidle : agenda.isRunning key = false) :
    Course interval acting (agenda.started key) (.started key :: entries) where
  orderly := h.orderly.spawn key
  punctual := by
    rw [errand_cons interval rfl]
    refine h.punctual.spawn key ?_
    rw [errand, h.core.unrecorded _ agenda.timeline.lot?_size]
  core := h.core.started hidle
  clear := h.clear.started h.orderly h.core key

/-- **A start** keeps the invariant. -/
theorem Course.start (h : Course interval acting agenda entries) (key : κ) :
    Course interval acting (Agenda.start key agenda).state (.started key :: entries) := by
  rw [Agenda.run_start]
  dsimp only
  split_ifs with hrunning
  · refine h.order rfl fun other => ?_
    rw [isOrdered_started]
    split_ifs with hother
    · rw [hother, agenda.isSome_current? hrunning]
    · exact h.core.ordered other
  · exact h.start_idle (Bool.eq_false_iff.mpr hrunning)

/-! ### Cancels -/

theorem timeline_called {key : κ} {n : Nat} (hcurrent : agenda.current? key = some n) :
    (agenda.called key).timeline = agenda.timeline.cancel n := by
  rw [Agenda.called, hcurrent]

theorem world_called (key : κ) : (agenda.called key).world = agenda.world := by
  unfold Agenda.called
  cases agenda.current? key <;> rfl

/-- The loop of another cadence is another loop. -/
theorem Core.ne_of_current (h : Core interval acting agenda entries) {key other : κ} {n m : Nat}
    (hother : other ≠ key) (hn : agenda.current? key = some n)
    (hm : agenda.current? other = some m) : n ≠ m := by
  rintro rfl
  obtain ⟨lot, hlot, howner, -⟩ := h.current key n hn
  obtain ⟨found, hfound, hfoundOwner, -⟩ := h.current other n hm
  obtain rfl := Option.some.inj (hlot.symm.trans hfound)
  exact hother (hfoundOwner.symm.trans howner)

/-- What becomes of the loop that was started last when its cadence is cancelled. -/
theorem Core.exists_lot_called (h : Core interval acting agenda entries) {key : κ} {n : Nat}
    (hn : agenda.current? key = some n) :
    ∃ lot after, agenda.timeline.lot? n = some lot ∧
      (agenda.called key).timeline.lot? n = some after ∧ lot.owner = key ∧ after.owner = key ∧
      after.phase = lot.phase ∧ (after.hasEnded = false → after.cancelled = true) := by
  obtain ⟨lot, hlot, howner, -⟩ := h.current key n hn
  obtain ⟨after, hafter, hsame, hphase, hcancelled⟩ := Timeline.exists_lot_cancel hlot
  rw [← timeline_called hn] at hafter
  exact ⟨lot, after, hlot, hafter, howner, hsame.trans howner, hphase, hcancelled⟩

theorem lot?_called_of_ne {key : κ} {n m : Nat} (hn : agenda.current? key = some n) (h : n ≠ m) :
    (agenda.called key).timeline.lot? m = agenda.timeline.lot? m := by
  rw [timeline_called hn, Timeline.lot?_cancel_of_ne h]

/-- No loop of a cancelled cadence is left that is neither cancelled nor over. -/
theorem Core.called (h : Core interval acting agenda entries) {key : κ} {n : Nat}
    (hn : agenda.current? key = some n) :
    Core interval acting (agenda.called key) (.cancelled key :: entries) where
  cadences other := by
    obtain ⟨cadence, hcadence, hinterval, hticks⟩ := h.cadences other
    rw [completions_order rfl, Agenda.cadence?_called agenda key other hn, hcadence]
    split_ifs
    · exact ⟨_, rfl, hinterval, hticks⟩
    · exact ⟨_, rfl, hinterval, hticks⟩
  calls other := by
    rw [world_called, beginnings_order rfl]
    exact h.calls other
  owned m found hfound hlive hkept := by
    rw [Agenda.current?_called]
    obtain ⟨lot, after, -, hafter, -, -, -, hcancelled⟩ := h.exists_lot_called hn
    by_cases heq : n = m
    · subst heq
      obtain rfl := Option.some.inj (hafter.symm.trans hfound)
      rw [hcancelled hlive] at hkept
      cases hkept
    · rw [lot?_called_of_ne hn heq] at hfound
      -- The place of the cadence was the cancelled loop's, so this one has another cadence.
      have hold := h.owned m found hfound hlive hkept
      have hother : found.owner ≠ key := fun hkey => by
        rw [hkey, hn] at hold
        exact heq (Option.some.inj hold)
      rwa [if_neg hother]
  current other m hm := by
    rw [Agenda.current?_called] at hm
    split_ifs at hm with hother
    rw [lot?_called_of_ne hn (h.ne_of_current hother hn hm)]
    exact h.current other m hm
  ordered other := by
    rw [Agenda.current?_called, isOrdered_cancelled]
    split_ifs
    · rfl
    · exact h.ordered other
  recorded m found hm hfound := by
    obtain ⟨lot, after, hlot, hafter, howner, hsame, hphase, -⟩ := h.exists_lot_called hn
    by_cases heq : n = m
    · subst heq
      obtain rfl := Option.some.inj (hafter.symm.trans hfound)
      have hcancel := (h.recorded n lot hm hlot).cancel (hsame.trans howner.symm) hphase
      rwa [howner] at hcancel
    · rw [lot?_called_of_ne hn heq] at hfound
      exact (h.recorded m found hm hfound).cons (loop?_cancelled key m)
  unrecorded m hm := by
    obtain ⟨lot, after, -, hafter, -⟩ := h.exists_lot_called hn
    rw [lastOf_cons_of_ne (loop?_cancelled key m)]
    refine h.unrecorded m ?_
    by_cases heq : n = m
    · subst heq
      cases hafter.symm.trans hm
    · rwa [lot?_called_of_ne hn heq] at hm
  told := ⟨trivial, h.told⟩
  lasting other hfinite m hm := by
    rw [Agenda.current?_called] at hm
    split_ifs at hm
    rw [timeline_called hn, Timeline.isLive_cancel]
    exact h.lasting other hfinite m hm

/-- A cancelled loop of another cadence keeps its turn before the loop that was started last. -/
theorem Clear.called (h : Clear acting agenda entries) (hcore : Core interval acting agenda entries)
    {key : κ} {n : Nat} (hn : agenda.current? key = some n) :
    Clear acting (agenda.called key) (.cancelled key :: entries) := by
  intro m found call hm hfound hcancelled hcalling hcall k hk
  rw [calling_cons_iff (loop?_cancelled key m)] at hcalling
  rw [agenda.current?_called] at hk
  split_ifs at hk with howner
  have hmn : n ≠ m := by
    rintro rfl
    obtain ⟨lot, after, -, hafter, -, hsame, -⟩ := hcore.exists_lot_called hn
    obtain rfl := Option.some.inj (hafter.symm.trans hfound)
    exact howner hsame
  rw [lot?_called_of_ne hn hmn] at hfound
  rw [lot?_called_of_ne hn (hcore.ne_of_current howner hn hk), timeline_called hn]
  obtain ⟨hfresh, hqueue⟩ := h m found call hm hfound hcancelled hcalling hcall k hk
  exact ⟨hfresh, hqueue.trans (Timeline.queue_cancel ..)⟩

/-- **A cancel** keeps the invariant. -/
theorem Course.cancel (h : Course interval acting agenda entries) (key : κ) :
    Course interval acting (Agenda.cancel key agenda).state (.cancelled key :: entries) := by
  rw [Agenda.run_cancel]
  dsimp only
  cases hcurrent : agenda.current? key with
  | none =>
    rw [Agenda.called, hcurrent]
    refine h.order rfl fun other => ?_
    rw [isOrdered_cancelled]
    split_ifs with hother
    · rw [hother, hcurrent, Option.isSome_none]
    · exact h.core.ordered other
  | some n =>
    have htimeline := timeline_called hcurrent
    refine ⟨?_, ?_, h.core.called hcurrent, h.clear.called h.core hcurrent⟩
    · rw [htimeline]
      exact h.orderly.cancel n
    · rw [htimeline, errand_cons interval rfl]
      exact h.punctual.cancel n

/-! ## The loop that has its turn -/

/-- **The loop that was started last** finds no call in progress, apart from such as restart the
cadence, if it is not in the middle of one itself. -/
theorem Course.idle {n : Nat} (h : Course interval (some n) agenda entries) {key : κ}
    (hcurrent : agenda.current? key = some n) (hn : ∀ call, ¬ Calling key entries n call) (m : Nat)
    (call : Conduct) (hcalling : Calling key entries m call) : call.restarts = true := by
  have hmn : some n ≠ some m := by
    rintro heq
    obtain rfl := Option.some.inj heq
    exact hn call hcalling
  cases hlot : agenda.timeline.lot? m with
  | none =>
    obtain ⟨moment, hbegan⟩ := hcalling
    rw [h.core.unrecorded m hlot] at hbegan
    cases hbegan
  | some lot =>
    obtain ⟨rfl, hlive⟩ := (h.core.recorded m lot hmn hlot).owner_of_calling hcalling
    cases hcancelled : lot.cancelled with
    | false =>
      have hown := h.core.owned m lot hlot hlive hcancelled
      exact absurd (hcurrent.symm.trans hown) hmn
    | true =>
      -- The turn of the cancelled loop would come before this one.
      by_contra hcall
      have hqueue := (h.clear m lot call hmn hlot hcancelled hcalling
        (Bool.eq_false_iff.mpr hcall) n hcurrent).2
      have hmem : Event.turn n ∈ agenda.timeline.queue :=
        hqueue.subset (List.mem_cons_of_mem _ (List.mem_singleton_self _))
      exact absurd (h.orderly.acting n rfl).turns (List.count_pos_iff.mpr hmem).ne'

end Invariant

end Warden.Schedule
