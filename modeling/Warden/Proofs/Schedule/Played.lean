import Mathlib.Data.List.Induction
import Warden.Proofs.Schedule.Course

/-!
# What is played keeps the course

A loop that has its turn adds entries to the chronicle and then rests, pauses in the middle of a
call, or ends. Each of these ways keeps the invariant, so every event on the timeline does.

## Main definitions

* `Counts`: an agenda that counts one more entry
* `asked`: an agenda after the requests of a call
* `tallied`: an agenda with one more call
* `Underway`: a call has made its requests

## Main results

* `Course.tell`: the loop that has its turn adds an entry
* `Course.finish`, `Course.slept`, `Course.rest`: the ways in which a turn ends
* `Course.begin`: a call begins
* `Course.turn`: a whole turn
* `Course.play`: what happens next on the timeline
-/

namespace Warden.Schedule

open Warden.Numeric

variable {κ : Type} [DecidableEq κ] {interval : κ → Reading} {agenda other : Agenda κ (Calls κ)}
  {entries : List (Entry κ)} {n : Nat} {lot : Lot κ}

/-! ## The chronicle grows -/

/-- An agenda with the same loops that counts one more entry. -/
structure Counts (interval : κ → Reading) (agenda other : Agenda κ (Calls κ)) (entry : Entry κ)
    (entries : List (Entry κ)) : Prop where
  timeline : other.timeline = agenda.timeline
  current : ∀ key, other.current? key = agenda.current? key
  cadences : ∀ key, ∃ cadence, other.cadence? key = some cadence ∧
    cadence.interval = interval key ∧ cadence.ticks = completions key (entry :: entries)
  calls : ∀ key, other.world key = beginnings key (entry :: entries)

section Tell

variable {entry : Entry κ} (hloop : entry.loop? = some n)
  (hjustified : Justified interval entry entries) (hcounts : Counts interval agenda other entry entries)
include hloop hjustified hcounts

theorem Core.tell (h : Core interval (some n) agenda entries)
    (hlive : agenda.timeline.isLive n = true) :
    Core interval (some n) other (entry :: entries) where
  cadences := hcounts.cadences
  calls := hcounts.calls
  owned m found := by
    rw [hcounts.timeline, hcounts.current]
    exact h.owned m found
  current key m := by
    rw [hcounts.timeline, hcounts.current]
    exact h.current key m
  ordered key := by
    rw [hcounts.current, isOrdered_cons_of_loop (by rw [hloop, Option.isSome_some])]
    exact h.ordered key
  recorded m found hm hfound := by
    rw [hcounts.timeline] at hfound
    exact (h.recorded m found hm hfound).cons (hloop ▸ hm)
  unrecorded m hnone := by
    rw [hcounts.timeline] at hnone
    have hm : entry.loop? ≠ some m := by
      rw [hloop]
      rintro heq
      obtain rfl := Option.some.inj heq
      obtain ⟨found, hfound, -⟩ := Timeline.exists_lot hlive
      cases hnone.symm.trans hfound
    rw [lastOf_cons_of_ne hm]
    exact h.unrecorded m hnone
  told := ⟨hjustified, h.told⟩
  lasting key hfinite m := by
    rw [hcounts.timeline, hcounts.current]
    exact h.lasting key hfinite m

/-- **The loop that has its turn** adds an entry to the chronicle. -/
theorem Course.tell (h : Course interval (some n) agenda entries) :
    Course interval (some n) other (entry :: entries) where
  orderly := hcounts.timeline ▸ h.orderly
  punctual := by
    rw [hcounts.timeline]
    refine h.punctual.congr fun m hm => errand_congr interval (lastOf_cons_of_ne ?_ entries)
    exact hloop ▸ hm
  core := h.core.tell hloop hjustified hcounts (h.orderly.acting n rfl).isLive
  clear m found call hm hfound hcancelled hcalling := by
    rw [hcounts.timeline] at hfound ⊢
    rw [calling_cons_iff (hloop ▸ hm)] at hcalling
    rw [hcounts.current]
    exact h.clear m found call hm hfound hcancelled hcalling

end Tell

/-! ## The end of a turn -/

section Settle

variable {phase : Phase} {timeline : Timeline κ}
  (hothers : ∀ m, timeline.lot? m =
    if n = m then (agenda.timeline.lot? m).map fun lot => { lot with phase }
    else agenda.timeline.lot? m)
include hothers

omit [DecidableEq κ] in
theorem lot?_settled (hlot : agenda.timeline.lot? n = some lot) :
    timeline.lot? n = some { lot with phase } := by
  rw [hothers, if_pos rfl, hlot, Option.map_some]

omit [DecidableEq κ] in
theorem lot?_settled_of_ne {m : Nat} (h : n ≠ m) :
    timeline.lot? m = agenda.timeline.lot? m := by
  rw [hothers, if_neg h]

/-- The loop that had its turn does something else the next time. -/
theorem Core.settle (h : Core interval (some n) agenda entries)
    (hlot : agenda.timeline.lot? n = some lot) (hlive : lot.hasEnded = false)
    (hrecorded : Recorded entries n { lot with phase })
    (hlasting : ∀ key, (interval key).toDouble?.isSome = true → agenda.current? key = some n →
      ({ lot with phase } : Lot κ).hasEnded = false) :
    Core interval none { agenda with timeline } entries where
  cadences := h.cadences
  calls := h.calls
  owned m found hfound hfoundLive hkept := by
    by_cases heq : n = m
    · subst heq
      obtain rfl := Option.some.inj ((lot?_settled hothers hlot).symm.trans hfound)
      exact h.owned n lot hlot hlive hkept
    · exact h.owned m found ((lot?_settled_of_ne hothers heq).symm.trans hfound) hfoundLive hkept
  current key m hm := by
    obtain ⟨found, hfound, howner, hkept⟩ := h.current key m hm
    by_cases heq : n = m
    · subst heq
      obtain rfl := Option.some.inj (hlot.symm.trans hfound)
      exact ⟨_, lot?_settled hothers hlot, howner, hkept⟩
    · exact ⟨found, (lot?_settled_of_ne hothers heq).trans hfound, howner, hkept⟩
  ordered := h.ordered
  recorded m found _ hfound := by
    by_cases heq : n = m
    · subst heq
      obtain rfl := Option.some.inj ((lot?_settled hothers hlot).symm.trans hfound)
      exact hrecorded
    · exact h.recorded m found (fun hm => heq (Option.some.inj hm))
        ((lot?_settled_of_ne hothers heq).symm.trans hfound)
  unrecorded m hnone := by
    by_cases heq : n = m
    · subst heq
      cases (lot?_settled hothers hlot).symm.trans hnone
    · exact h.unrecorded m ((lot?_settled_of_ne hothers heq).symm.trans hnone)
  told := h.told
  lasting key hfinite m hm := by
    by_cases heq : n = m
    · subst heq
      have hkept := hlasting key hfinite hm
      exact (Timeline.isLive_lot (lot?_settled hothers hlot)).trans (congrArg not hkept)
    · exact (Timeline.isLive_congr_lot (lot?_settled_of_ne hothers heq)).trans
        (h.lasting key hfinite m hm)

/-- A cancelled loop that pauses has no loop after it, unless its call has restarted its cadence. -/
theorem Clear.settle (h : Clear (some n) agenda entries) (hacting : agenda.timeline.Acting n)
    (hlot : agenda.timeline.lot? n = some lot)
    (hqueue : agenda.timeline.queue.Sublist timeline.queue)
    (hcalled : lot.cancelled = true → ∀ call, Calling lot.owner entries n call →
      call.restarts = false → agenda.current? lot.owner = none) :
    Clear none { agenda with timeline } entries := by
  intro m found call _ hfound hcancelled hcalling hcall k hk
  by_cases heq : n = m
  · subst heq
    obtain rfl := Option.some.inj ((lot?_settled hothers hlot).symm.trans hfound)
    cases (hcalled hcancelled call hcalling hcall).symm.trans hk
  · have hbefore := (lot?_settled_of_ne hothers heq).symm.trans hfound
    obtain ⟨⟨later, hlater, hfresh⟩, horder⟩ := h m found call (fun hm => heq (Option.some.inj hm))
      hbefore hcancelled hcalling hcall k hk
    -- The loop that had its turn has none left, so it is not the later one.
    have hkn : n ≠ k := by
      rintro rfl
      have hmem : Event.turn n ∈ agenda.timeline.queue :=
        horder.subset (List.mem_cons_of_mem _ (List.mem_singleton_self _))
      exact absurd hacting.turns (List.count_pos_iff.mpr hmem).ne'
    exact ⟨⟨later, (lot?_settled_of_ne hothers hkn).trans hlater, hfresh⟩, horder.trans hqueue⟩

end Settle

/-- The loop that has its turn has not ended. -/
theorem Course.hasEnded (h : Course interval (some n) agenda entries)
    (hlot : agenda.timeline.lot? n = some lot) : lot.hasEnded = false := by
  have hlive := (h.orderly.acting n rfl).isLive
  rw [Timeline.isLive_lot hlot] at hlive
  simpa using hlive

/-- **The loop ends**, as it was cancelled or cannot wait for its interval. -/
theorem Course.finish (h : Course interval (some n) agenda entries)
    (hlot : agenda.timeline.lot? n = some lot) (hover : ∀ key, ¬ InProgress key entries n)
    (hlasting : ∀ key, (interval key).toDouble?.isSome = true → agenda.current? key ≠ some n)
    (failure : Option Failure) : Course interval none (agenda.ended n failure) entries where
  orderly := h.orderly.finish failure
  punctual := h.punctual.finish (fun _ _ => rfl) (h.orderly.acting n rfl).isLive failure
  core := h.core.settle (fun m => Timeline.lot?_finish n m failure) hlot (h.hasEnded hlot) hover
    fun key hfinite hn => absurd hn (hlasting key hfinite)
  clear := by
    refine h.clear.settle (fun m => Timeline.lot?_finish n m failure) (h.orderly.acting n rfl) hlot
      (Timeline.queue_finish ..) fun _ call hcalling => ?_
    exact absurd ⟨call, hcalling⟩ (hover lot.owner)

/-- **The loop waits** for the end of a pause or of its interval. -/
theorem Course.slept (h : Course interval (some n) agenda entries)
    (hlot : agenda.timeline.lot? n = some lot) {phase : Phase}
    (hphase : (phase matches .ended _) = false) {delay : Reading} {wake : Wake}
    (hwake : Wake.after? agenda.timeline.now delay = some wake)
    (herrand : errand interval entries n = some (agenda.timeline.now, delay))
    (hrecorded : Recorded entries n { lot with phase })
    (hcalled : lot.cancelled = true → ∀ call, Calling lot.owner entries n call →
      call.restarts = false → agenda.current? lot.owner = none) :
    Course interval none (agenda.slept n phase wake) entries where
  orderly := h.orderly.slept hphase wake
  punctual := h.punctual.slept (fun _ _ => rfl) (h.orderly.acting n rfl) hphase hwake herrand
  core := h.core.settle (fun m => Timeline.lot?_slept n m phase wake) hlot (h.hasEnded hlot)
    hrecorded fun _ _ _ => hphase
  clear := h.clear.settle (fun m => Timeline.lot?_slept n m phase wake) (h.orderly.acting n rfl)
    hlot (Timeline.queue_slept ..) hcalled

/-- One more tick counts a completed call. -/
theorem Core.counts_completed {acting : Option Nat} (h : Core interval acting agenda entries)
    (key : κ) (n : Nat) (moment : Seconds) :
    Counts interval agenda (agenda.counted key) (.completed key n moment) entries where
  timeline := rfl
  current other := by
    rw [Agenda.counted, Agenda.current?_changed]
    split_ifs
    · rw [Agenda.current?]
      cases agenda.cadence? other <;> rfl
    · rfl
  cadences other := by
    obtain ⟨cadence, hcadence, hinterval, hticks⟩ := h.cadences other
    rw [Agenda.counted, Agenda.cadence?_changed, hcadence]
    split_ifs with hother
    · refine ⟨_, rfl, hinterval, ?_⟩
      simp [Entry.isCompletion, ← hother, hticks]
    · refine ⟨cadence, rfl, hinterval, ?_⟩
      simpa [Entry.isCompletion, Ne.symm hother] using hticks
  calls other := by
    change agenda.world other = _
    simpa [Entry.isBeginning] using h.calls other

/-- **A call is completed**, and the loop rests or, if it cannot wait for its interval, ends. -/
theorem Course.rest (h : Course interval (some n) agenda entries)
    (hlot : agenda.timeline.lot? n = some lot)
    (hjustified : Justified interval (.completed lot.owner n agenda.timeline.now) entries) :
    Course interval none (agenda.rested lot.owner n)
      (.completed lot.owner n agenda.timeline.now :: entries) := by
  have hlast : lastOf (.completed lot.owner n agenda.timeline.now :: entries) n =
      some (.completed lot.owner n agenda.timeline.now) := lastOf_cons_self rfl entries
  have hover : ∀ key, ¬ InProgress key
      (.completed lot.owner n agenda.timeline.now :: entries) n := by
    rintro key ⟨call, moment, hbegan⟩
    cases hlast.symm.trans hbegan
  have hcounted := h.tell rfl hjustified (h.core.counts_completed lot.owner n agenda.timeline.now)
  obtain ⟨cadence, hcadence, hinterval, -⟩ := h.core.cadences lot.owner
  rw [Agenda.rested, hcadence]
  dsimp only
  cases hwake : Wake.after? agenda.timeline.now cadence.interval with
  | some wake =>
    refine hcounted.slept hlot rfl hwake ?_ ⟨_, hlast⟩ fun _ call hcalling => ?_
    · rw [hinterval]
      exact errand_completed interval hlast
    · exact absurd ⟨call, hcalling⟩ (hover lot.owner)
  | none =>
    refine hcounted.finish hlot hover (fun key hfinite hn => ?_) _
    -- An interval that is not too large can be waited for.
    obtain ⟨found, hfound, howner, -⟩ := hcounted.core.current key n hn
    obtain rfl := Option.some.inj (hlot.symm.trans hfound)
    rw [← howner, ← hinterval] at hfinite
    have hwaits := Wake.isSome_after? hfinite agenda.timeline.now
    rw [hwake] at hwaits
    cases hwaits

/-! ## Requests of a call -/

/-- An agenda after the requests of a call. -/
def asked (key : κ) (requests : List Request) (agenda : Agenda κ (Calls κ)) :
    Agenda κ (Calls κ) :=
  requests.foldl (fun agenda request => (request.act key agenda).state) agenda

theorem asked_concat (key : κ) (requests : List Request) (request : Request) :
    asked key (requests ++ [request]) agenda =
      (request.act key (asked key requests agenda)).state := by
  rw [asked, List.foldl_append]
  rfl

theorem run_act (key : κ) (request : Request) :
    request.act key agenda = ⟨.ok (), (request.act key agenda).state, []⟩ := by
  cases request with
  | start => rw [Request.act, Agenda.run_start]
  | cancel => rw [Request.act, Agenda.run_cancel]

theorem run_requests (key : κ) (requests : List Request) (agenda : Agenda κ (Calls κ)) :
    (requests.forM (Request.act key)) agenda = ⟨.ok (), asked key requests agenda, []⟩ := by
  induction requests generalizing agenda with
  | nil => rfl
  | cons request requests ih =>
    have hcons : (request :: requests).forM (Request.act key) =
        request.act key >>= fun _ => requests.forM (Request.act (σ := Calls κ) key) := rfl
    rw [hcons, Act.run_bind, run_act]
    dsimp only
    rw [ih]
    rfl

/-- **The requests of a call** keep the invariant. -/
theorem Course.ask (h : Course interval (some n) agenda entries) (key : κ)
    (requests : List Request) :
    Course interval (some n) (asked key requests agenda)
      ((requests.map (Request.entry key)).reverse ++ entries) := by
  -- The last request comes first in the chronicle, so the induction is on the end of the list.
  induction requests using List.reverseRecOn with
  | nil => exact h
  | append_singleton requests request ih =>
    rw [asked_concat, List.map_append, List.reverse_append]
    cases request with
    | start => exact ih.start key
    | cancel => exact ih.cancel key

theorem now_act (key : κ) (request : Request) :
    (request.act key agenda).state.timeline.now = agenda.timeline.now := by
  cases request with
  | start =>
    rw [Request.act, Agenda.run_start]
    dsimp only
    split_ifs <;> rfl
  | cancel =>
    rw [Request.act, Agenda.run_cancel]
    dsimp only
    unfold Agenda.called
    cases agenda.current? key with
    | none => rfl
    | some number => exact Timeline.now_cancel number

theorem now_asked (key : κ) (requests : List Request) :
    (asked key requests agenda).timeline.now = agenda.timeline.now := by
  induction requests using List.reverseRecOn with
  | nil => rfl
  | append_singleton requests request ih => rw [asked_concat, now_act, ih]

/-- A loop is cancelled by a call only if the call asks for that. -/
theorem exists_lot_asked (key : κ) (requests : List Request)
    (hlot : agenda.timeline.lot? n = some lot) :
    ∃ after, (asked key requests agenda).timeline.lot? n = some after ∧
      after.owner = lot.owner ∧
      (after.cancelled = true → lot.cancelled = true ∨ .cancel ∈ requests) := by
  induction requests using List.reverseRecOn with
  | nil => exact ⟨lot, hlot, rfl, .inl⟩
  | append_singleton requests request ih =>
    obtain ⟨after, hafter, howner, hcancelled⟩ := ih
    rw [asked_concat]
    cases request with
    | start =>
      refine ⟨after, ?_, howner, fun h => (hcancelled h).imp_right (List.mem_append_left _)⟩
      rw [Request.act, Agenda.run_start]
      dsimp only
      split_ifs
      · exact hafter
      · exact lot?_started_of_some hafter
    | cancel =>
      have hmem : Request.cancel ∈ requests ++ [.cancel] :=
        List.mem_append_right _ (List.mem_singleton_self _)
      rw [Request.act, Agenda.run_cancel]
      dsimp only
      cases hcurrent : (asked key requests agenda).current? key with
      | none =>
        rw [Agenda.called, hcurrent]
        exact ⟨after, hafter, howner, fun _ => .inr hmem⟩
      | some m =>
        rw [timeline_called hcurrent]
        by_cases heq : m = n
        · subst heq
          obtain ⟨last, hlast, hsame, -⟩ := Timeline.exists_lot_cancel hafter
          exact ⟨last, hlast, hsame.trans howner, fun _ => .inr hmem⟩
        · refine ⟨after, ?_, howner, fun _ => .inr hmem⟩
          rw [Timeline.lot?_cancel_of_ne heq, hafter]

/-- After a last request to cancel, no loop is started. -/
theorem current?_asked {key : κ} {requests : List Request}
    (hlast : requests.getLast? = some .cancel) : (asked key requests agenda).current? key = none := by
  obtain ⟨before, rfl⟩ := List.getLast?_eq_some_iff.mp hlast
  rw [asked_concat, Request.act, Agenda.run_cancel]
  exact (Agenda.current?_called ..).trans (if_pos rfl)

/-- A call that cancels its cadence and does not restart it leaves no loop of it. -/
theorem current?_asked_of_not_restarts {key : κ} {call : Conduct}
    (hcancel : .cancel ∈ call.requests) (hcall : call.restarts = false) :
    (asked key call.requests agenda).current? key = none := by
  refine current?_asked ?_
  cases hlast : call.requests.getLast? with
  | none =>
    rw [List.getLast?_eq_none_iff.mp hlast] at hcancel
    cases hcancel
  | some request =>
    cases request with
    | cancel => rfl
    | start => simp [Conduct.restarts, hcancel, hlast] at hcall

/-! ## A call begins -/

omit [DecidableEq κ] in
/-- The requests of a call are not about a loop. -/
theorem lastOf_requests (key : κ) (requests : List Request) (entries : List (Entry κ)) (n : Nat) :
    lastOf ((requests.map (Request.entry key)).reverse ++ entries) n = lastOf entries n := by
  induction requests using List.reverseRecOn with
  | nil => rfl
  | append_singleton requests request ih =>
    rw [List.map_append, List.reverse_append]
    refine (lastOf_cons_of_ne ?_ _).trans ih
    cases request <;> exact nofun

omit [DecidableEq κ] in
theorem mem_sinceLast_requests {key : κ} {requests : List Request} {request : Request}
    (h : request ∈ requests) (entries : List (Entry κ)) (n : Nat) :
    request.entry key ∈ sinceLast ((requests.map (Request.entry key)).reverse ++ entries) n := by
  have hnone : ∀ entry ∈ (requests.map (Request.entry key)).reverse, (entry.loop? != some n) := by
    intro entry hentry
    obtain ⟨other, -, rfl⟩ := List.mem_map.mp (List.mem_reverse.mp hentry)
    cases other <;> rfl
  rw [sinceLast, List.takeWhile_append_of_pos hnone]
  exact List.mem_append_left _ (List.mem_reverse.mpr (List.mem_map_of_mem h))

variable {conduct : κ → Nat → Conduct}

/-- The agenda with one more call of a callback. -/
def tallied (key : κ) (agenda : Agenda κ (Calls κ)) : Agenda κ (Calls κ) :=
  { agenda with world := Function.update agenda.world key (agenda.world key + 1) }

theorem run_perform (key : κ) (agenda : Agenda κ (Calls κ)) :
    perform conduct key agenda =
      ⟨match (conduct key (agenda.world key)).ending with
        | .returns => .ok none
        | .raises failure => .error failure
        | .pauses delay failure => .ok (some { delay, failure }),
        asked key (conduct key (agenda.world key)).requests (tallied key agenda), []⟩ := by
  unfold perform
  rw [Act.run_bind, Act.run_view]
  dsimp only
  rw [Act.run_bind, Agenda.onWorld, Act.run_within, Act.run_modify]
  dsimp only
  rw [Act.run_bind, run_requests]
  cases (conduct key (agenda.world key)).ending <;> rfl

omit [DecidableEq κ] in
theorem callTidings_append (key : κ) (loop : Nat) (now : Seconds) (call : Conduct)
    (entries : List (Entry κ)) :
    callTidings key loop now call ++ entries =
      (if call.takesTime now then [] else [.completed key loop now]) ++
        ((call.requests.map (Request.entry key)).reverse ++
          .began key loop now call :: entries) := by
  rw [callTidings, List.append_assoc, List.append_assoc, List.singleton_append]

/-- One more call counts a beginning. -/
theorem Core.counts_began {acting : Option Nat} (h : Core interval acting agenda entries)
    (key : κ) (n : Nat) (moment : Seconds) (call : Conduct) :
    Counts interval agenda (tallied key agenda) (.began key n moment call) entries where
  timeline := rfl
  current _ := rfl
  cadences other := by
    change ∃ cadence, agenda.cadence? other = some cadence ∧ _
    simpa [Entry.isCompletion] using h.cadences other
  calls other := by
    have hcalls := h.calls other
    by_cases hother : other = key
    · subst hother
      simp [tallied, Entry.isBeginning, hcalls]
    · simp [tallied, Entry.isBeginning, hother, Ne.symm hother, hcalls]

/-- The beginning of a call in the chronicle. -/
theorem Course.tell_began (h : Course interval (some n) agenda entries)
    (hlot : agenda.timeline.lot? n = some lot) (hkept : lot.cancelled = false)
    (hlast : lastOf entries n = none ∨
      ∃ last, lastOf entries n = some (.completed lot.owner n last) ∧
        Elapsed last (interval lot.owner) agenda.timeline.now) (call : Conduct) :
    Course interval (some n) (tallied lot.owner agenda)
      (.began lot.owner n agenda.timeline.now call :: entries) := by
  have hcurrent := h.core.owned n lot hlot (h.hasEnded hlot) hkept
  have hfree : ∀ other, ¬ Calling lot.owner entries n other := by
    rintro other ⟨moment, hbegan⟩
    rcases hlast with hnone | ⟨last, hcompleted, -⟩
    · cases hnone.symm.trans hbegan
    · cases hcompleted.symm.trans hbegan
  have hordered : isOrdered lot.owner entries = true := by
    rw [← h.core.ordered, hcurrent, Option.isSome_some]
  exact h.tell rfl ⟨hordered, h.idle hcurrent hfree, hlast⟩ (h.core.counts_began ..)

/-- A call has begun in the turn of its loop and made its requests. A loop that is cancelled by now was
cancelled by the call. -/
structure Underway (interval : κ → Reading) (key : κ) (n : Nat) (call : Conduct)
    (agenda : Agenda κ (Calls κ)) (entries : List (Entry κ)) : Prop where
  course : Course interval (some n) agenda entries
  began : lastOf entries n = some (.began key n agenda.timeline.now call)
  lot : ∃ lot, agenda.timeline.lot? n = some lot ∧ lot.owner = key ∧
    (lot.cancelled = true → .cancelled key ∈ sinceLast entries n ∧
      (call.restarts = false → agenda.current? key = none))

theorem Course.underway (h : Course interval (some n) agenda entries)
    (hlot : agenda.timeline.lot? n = some lot) (hkept : lot.cancelled = false)
    (hlast : lastOf entries n = none ∨
      ∃ last, lastOf entries n = some (.completed lot.owner n last) ∧
        Elapsed last (interval lot.owner) agenda.timeline.now) (call : Conduct) :
    Underway interval lot.owner n call
      (asked lot.owner call.requests (tallied lot.owner agenda))
      ((call.requests.map (Request.entry lot.owner)).reverse ++
        .began lot.owner n agenda.timeline.now call :: entries) where
  course := (h.tell_began hlot hkept hlast call).ask lot.owner call.requests
  began := by
    rw [lastOf_requests, now_asked]
    exact lastOf_cons_self rfl entries
  lot := by
    have hcalled : (tallied lot.owner agenda).timeline.lot? n = some lot := hlot
    obtain ⟨after, hafter, howner, hcancelled⟩ := exists_lot_asked lot.owner call.requests hcalled
    refine ⟨after, hafter, howner, fun hgone => ?_⟩
    rcases hcancelled hgone with hbefore | hcancel
    · cases hkept.symm.trans hbefore
    · exact ⟨mem_sinceLast_requests hcancel _ n, current?_asked_of_not_restarts hcancel⟩

namespace Underway

variable {key : κ} {call : Conduct} (h : Underway interval key n call agenda entries)
include h

/-- The call is over in the same turn. -/
theorem complete (helapsed : CallElapsed agenda.timeline.now call agenda.timeline.now) :
    Course interval none (agenda.rested key n)
      (.completed key n agenda.timeline.now :: entries) := by
  obtain ⟨lot, hlot, rfl, -⟩ := h.lot
  exact h.course.rest hlot ⟨_, call, h.began, helapsed⟩

/-- The call pauses. If its loop is cancelled, no loop is started, unless by the call itself. -/
theorem pause (hordinary : call.IsOrdinary) {delay : Reading} {failure : Option Failure}
    (hending : call.ending = .pauses delay failure) {wake : Wake}
    (hwake : Wake.after? agenda.timeline.now delay = some wake) :
    Course interval none (agenda.slept n (.pausing failure) wake) entries := by
  obtain ⟨lot, hlot, rfl, hcancelled⟩ := h.lot
  have hrecorded : Recorded entries n { lot with phase := .pausing failure } :=
    ⟨⟨_, call, delay, h.began, hending, hordinary⟩, fun hgone => (hcancelled hgone).1⟩
  refine h.course.slept hlot rfl hwake (errand_began interval h.began hending) hrecorded ?_
  rintro hgone other ⟨moment, hother⟩ hstays
  obtain ⟨-, -, -, rfl⟩ := Entry.began.inj (Option.some.inj (h.began.symm.trans hother))
  exact (hcancelled hgone).2 hstays

end Underway

/-- **A call begins**, makes its requests, and is over or pauses. -/
theorem Course.begin (h : Course interval (some n) agenda entries)
    (hordinary : ∀ key call, (conduct key call).IsOrdinary)
    (hlot : agenda.timeline.lot? n = some lot) (hkept : lot.cancelled = false)
    (hlast : lastOf entries n = none ∨
      ∃ last, lastOf entries n = some (.completed lot.owner n last) ∧
        Elapsed last (interval lot.owner) agenda.timeline.now) :
    Course interval none (Agenda.begin (perform conduct) n lot.owner agenda).state
      (callTidings lot.owner n agenda.timeline.now (conduct lot.owner (agenda.world lot.owner)) ++
        entries) := by
  have hcall := hordinary lot.owner (agenda.world lot.owner)
  rw [Agenda.state_begin, run_perform, callTidings_append]
  dsimp only
  generalize conduct lot.owner (agenda.world lot.owner) = call at hcall ⊢
  have hunderway := h.underway hlot hkept hlast call
  -- No time passes while the call makes its requests.
  have hnow : (asked lot.owner call.requests (tallied lot.owner agenda)).timeline.now =
      agenda.timeline.now := now_asked lot.owner call.requests
  have hcomplete := hunderway.complete
  rw [hnow] at hcomplete
  cases hending : call.ending with
  | returns =>
    have htime : call.takesTime agenda.timeline.now = false := by rw [Conduct.takesTime, hending]
    rw [htime]
    exact hcomplete (by rw [CallElapsed, hending])
  | raises failure =>
    have htime : call.takesTime agenda.timeline.now = false := by rw [Conduct.takesTime, hending]
    have hlogged : failure.isCancelled = false := by rwa [Conduct.IsOrdinary, hending] at hcall
    dsimp only
    rw [htime, Agenda.state_settle _ _ _ hlogged]
    exact hcomplete (by rw [CallElapsed, hending])
  | pauses delay failure =>
    have htime : call.takesTime agenda.timeline.now =
        (Wake.after? agenda.timeline.now delay).isSome := by rw [Conduct.takesTime, hending]
    unfold Agenda.paused
    dsimp only
    rw [htime, hnow]
    cases hwake : Wake.after? agenda.timeline.now delay with
    | some wake => exact hunderway.pause hcall hending (hnow ▸ hwake)
    | none =>
      -- A pause that is too long to be waited for is a failure of the call.
      refine hcomplete ?_
      rw [CallElapsed, hending]
      exact .inr ⟨hwake, rfl⟩

/-! ## Turns -/

/-- **A cancelled loop** ends, and a call that it was in the middle of is interrupted. -/
theorem Course.stop (h : Course interval (some n) agenda entries)
    (hlot : agenda.timeline.lot? n = some lot) (hcancelled : lot.cancelled = true)
    (hrecorded : Recorded entries n lot) :
    Course interval none (agenda.ended n none)
      ((if lot.phase matches .pausing _ then
          [.interrupted lot.owner n agenda.timeline.now] else []) ++ entries) := by
  have hlasting : ∀ key, (interval key).toDouble?.isSome = true → agenda.current? key ≠ some n := by
    intro key _ hcurrent
    obtain ⟨found, hfound, -, hkept⟩ := h.core.current key n hcurrent
    obtain rfl := Option.some.inj (hlot.symm.trans hfound)
    cases hcancelled.symm.trans hkept
  have hlive := h.hasEnded hlot
  unfold Recorded at hrecorded
  unfold Lot.hasEnded at hlive
  cases hphase : lot.phase with
  | fresh =>
    rw [hphase] at hrecorded
    refine h.finish hlot ?_ hlasting none
    rintro key ⟨call, moment, hbegan⟩
    cases hrecorded.symm.trans hbegan
  | resting =>
    rw [hphase] at hrecorded
    obtain ⟨last, hlast⟩ := hrecorded
    refine h.finish hlot ?_ hlasting none
    rintro key ⟨call, moment, hbegan⟩
    cases hlast.symm.trans hbegan
  | pausing failure =>
    rw [hphase] at hrecorded
    obtain ⟨⟨start, call, delay, hlast, -⟩, hasked⟩ := hrecorded
    have htold : Course interval (some n) agenda
        (.interrupted lot.owner n agenda.timeline.now :: entries) := by
      refine h.tell rfl ⟨⟨call, start, hlast⟩, hasked hcancelled⟩ ⟨rfl, fun _ => rfl, fun key => ?_,
        fun key => ?_⟩
      · simpa [Entry.isCompletion] using h.core.cadences key
      · simpa [Entry.isBeginning] using h.core.calls key
    refine htold.finish hlot ?_ hlasting none
    rintro key ⟨other, moment, hbegan⟩
    rw [lastOf_cons_self rfl] at hbegan
    cases hbegan
  | ended failure =>
    rw [hphase] at hlive
    cases hlive

/-- **The turn of a loop** keeps the invariant. -/
theorem Course.turn (h : Course interval (some n) agenda entries)
    (hordinary : ∀ key call, (conduct key call).IsOrdinary)
    (hrecorded : ∀ lot, agenda.timeline.lot? n = some lot → Recorded entries n lot)
    (helapsed : agenda.timeline.isCancelled n = false → ∀ start delay,
      errand interval entries n = some (start, delay) → Elapsed start delay agenda.timeline.now) :
    Course interval none (Agenda.turn (perform conduct) n agenda).state
      (tidings conduct agenda (.turn n) ++ entries) := by
  obtain ⟨loop, hloop, hlive⟩ := Timeline.exists_of_isLive (h.orderly.acting n rfl).isLive
  have hlot : agenda.timeline.lot? n = some loop.lot := by rw [Timeline.lot?, hloop, Option.map_some]
  have hrecorded := hrecorded _ hlot
  rw [Timeline.isCancelled_eq hloop] at helapsed
  rw [Agenda.state_turn _ _ _ hloop, tidings, hloop]
  obtain ⟨owner, phase, isWaiting, cancelled⟩ := loop
  cases cancelled with
  | true =>
    have hstop := h.stop hlot rfl hrecorded
    cases phase with
    | ended failure => cases hlive
    | fresh | resting | pausing => exact hstop
  | false =>
    cases phase with
    | ended failure => cases hlive
    | fresh => exact h.begin hordinary hlot rfl (.inl hrecorded)
    | resting =>
      obtain ⟨last, hlast⟩ := hrecorded
      have hwaited := helapsed rfl _ _ (errand_completed interval hlast)
      exact h.begin hordinary hlot rfl (.inr ⟨last, hlast, hwaited⟩)
    | pausing failure =>
      obtain ⟨⟨start, call, delay, hlast, hending, hcall⟩, -⟩ := hrecorded
      have hover : CallElapsed start call agenda.timeline.now := by
        rw [CallElapsed, hending]
        exact .inl (helapsed rfl start delay (errand_began interval hlast hending))
      have hrest := h.rest hlot ⟨start, call, hlast, hover⟩
      cases failure with
      | none => exact hrest
      | some failure =>
        have hlogged : failure.isCancelled = false := by
          rw [Conduct.IsOrdinary, hending] at hcall
          exact hcall failure rfl
        dsimp only
        rw [Agenda.state_settle _ _ _ hlogged]
        exact hrest

/-! ## Events -/

theorem Course.beginRound (h : Course interval none agenda entries) :
    Course interval none { agenda with timeline := agenda.timeline.beginRound } entries :=
  h.retime h.orderly.beginRound h.punctual.beginRound (fun _ => rfl) fun _ _ _ hqueue =>
    hqueue.trans (List.sublist_append_left _ _)

section Pop

variable {event : Event} {queue : List Event} (hqueue : agenda.timeline.queue = event :: queue)
  (round : Nat)
include hqueue

omit [DecidableEq κ] in
/-- Two turns that are left after the first event keep their order. -/
theorem sublist_pop {m : Nat} (hfirst : event ≠ .turn n)
    (h : [Event.turn n, .turn m].Sublist agenda.timeline.queue) :
    [Event.turn n, .turn m].Sublist queue := by
  rw [hqueue, List.sublist_cons_iff] at h
  rcases h with hrest | ⟨rest, heq, -⟩
  · exact hrest
  · exact absurd (List.cons.inj heq).1.symm hfirst

/-- **The event at the head of the queue** is played. -/
theorem Course.playHead (h : Course interval none agenda entries)
    (hordinary : ∀ key call, (conduct key call).IsOrdinary) :
    Course interval none
      (playing conduct event
        { agenda with timeline := { agenda.timeline with queue, round } }).state
      (tidings conduct { agenda with timeline := { agenda.timeline with queue, round } } event ++
        entries) := by
  obtain ⟨horder, hsilent⟩ := h.orderly.pop hqueue round
  cases event with
  | turn n =>
    have hpunctual := h.punctual.pop hqueue round (by simp)
    have htaken := h.retime horder hpunctual (fun _ => rfl) fun k m hk =>
      sublist_pop hqueue fun heq => hk (congrArg some (Event.turn.inj heq))
    refine htaken.turn hordinary (fun lot hlot => ?_) fun hkept start delay herrand => ?_
    · exact h.core.recorded n lot (Option.some_ne_none n).symm hlot
    · obtain ⟨wake, hwake, hawaits⟩ := h.punctual.waits n (Option.some_ne_none n).symm
        (horder.acting n rfl).isLive hkept start delay herrand
      exact ⟨wake, hwake, hawaits.isOver (horder.acting n rfl).isWaiting⟩
  | alarm n =>
    have hpunctual := h.punctual.alarm hqueue round h.orderly rfl
    have hkept := Timeline.queue_alarm { agenda.timeline with queue, round } n
    refine h.retime (horder.alarm (hsilent n rfl)) hpunctual (fun m => Timeline.lot?_alarm n m)
      fun k m _ hsub => (sublist_pop hqueue (by simp) hsub).trans hkept
  | resume =>
    exact h.retime horder (h.punctual.pop hqueue round (by simp)) (fun _ => rfl)
      fun k m _ => sublist_pop hqueue (by simp)

end Pop

/-- **What happens next** keeps the invariant. -/
theorem Course.play (h : Course interval none agenda entries)
    (hordinary : ∀ key call, (conduct key call).IsOrdinary) {event : Event}
    {taken : Agenda κ (Calls κ)} (hnext : agenda.next? = some (event, taken)) :
    Course interval none (Account.play conduct event taken entries).agenda
      (Account.play conduct event taken entries).entries := by
  obtain ⟨⟨first, rest⟩, hfirst, heq⟩ := Option.map_eq_some_iff.mp hnext
  obtain ⟨rfl, rfl⟩ := Prod.mk.inj heq
  obtain ⟨current, hcurrent, hqueue, hrest⟩ := Timeline.next?_cases hfirst
  have hround : Course interval none { agenda with timeline := current } entries := by
    rcases hcurrent with rfl | rfl
    · exact h
    · exact h.beginRound
  rw [hrest]
  exact hround.playHead hqueue (current.round - 1) hordinary

end Warden.Schedule
