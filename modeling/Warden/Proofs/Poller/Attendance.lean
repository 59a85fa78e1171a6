import Warden.Proofs.Poller.Vigilance

/-!
# Loops with observers

Each cadence of a poller runs exactly as long as there is somebody to be told about what it asks, and
nobody is told about anything that nobody observes any more. Observers may attach and detach
themselves and others while they are told something, and may fail.

## Main results

* `Watched.close`, `Watched.move`: a poller stays vigilant when it is closed, and at each move
* `polls_while_observed`: the cadences run exactly while they are observed
-/

namespace Warden.Poller

open Warden.Numeric (Reading)
open Warden.Schedule (Agenda Cadence)

variable {ω ε : Type}

/-! ## Moves -/

section Moves

variable {topic : Topic} {old : List (Entry ω)} {stirred : Bool} {s : Noted ω ε}
variable [BEq ω] {around : Surroundings ε} {manner : Manner ω ε} (haround : IsOrdinary around)
include haround

/-- **The poller is closed**, and both loops are waited for. -/
theorem Watched.close (h : Watched (Vigilant topic old stirred) s) (hmanner : manner.Ordinary) :
    Watched (Vigilant topic old stirred) (Poller.close (playing around manner) s).state := by
  have hstanding : (detachAll s).state.Standing isPolled :=
    ⟨h.standing.cadences, h.standing.current, h.standing.owners⟩
  have hcontrolBeat : isPolled .control := trivial
  have hlogsBeat : isPolled .logs := trivial
  -- While the loop of the status is waited for, the other one may still go on, with nobody to tell.
  have hcalled : Watched (Deserted s.world.entries) ((detachAll s).state.called .control) := by
    refine ⟨hstanding.called hcontrolBeat, ?_⟩
    rw [Agenda.isStarted_called, Agenda.world_called]
    exact ⟨Function.update_self .., fun topic => by cases topic <;> rfl, rfl⟩
  obtain ⟨middle, hmiddle⟩ : ∃ middle,
      (Agenda.close (playing around manner) .control (detachAll s).state).state = middle := ⟨_, rfl⟩
  have hdeserted : Watched (Deserted s.world.entries) middle := by
    rw [← hmiddle]
    exact hcalled.passed (fun beat _ => keeps_tick_deserted haround beat) tick_ne_pause
      (Agenda.passed_close (tick around manner) .control (detachAll s).state)
  have hclose : (Poller.close (playing around manner) s).state =
      (Agenda.close (playing around manner) .logs middle).state := by
    have houtcome : (Agenda.close (playing around manner) .control (detachAll s).state).outcome =
        .ok () := hstanding.outcome_close hcontrolBeat (tick around manner)
    have hbind : (Poller.close (playing around manner) s).state =
        ((Agenda.close (playing around manner) .control >>= fun _ =>
          Agenda.close (playing around manner) .logs) (detachAll s).state).state := rfl
    rw [hbind, Act.state_bind, houtcome, hmiddle]
  have hlogs : Watched (Vigilant topic old stirred) (middle.called .logs) := by
    refine ⟨hdeserted.standing.called hlogsBeat, ?_⟩
    rw [Agenda.isStarted_called, Agenda.world_called, hdeserted.fits.entries]
    have hnobody := hdeserted.fits.observed
    have hcontrol := hdeserted.fits.started
    refine h.fits.detach (fun topic hobserved => ?_) fun beat hbeat => ?_
    · cases (hnobody topic).symm.trans hobserved
    · cases beat with
      | control => simpa [isNeeded, hnobody] using hcontrol
      | logs => simp [isNeeded, hnobody]
      | upkeep => cases hbeat
  rw [hclose]
  exact hlogs.passed (fun beat _ => keeps_tick haround hmanner beat) tick_ne_pause
    (Agenda.passed_close (tick around manner) .logs middle)

/-- **Each move** keeps the poller vigilant. -/
theorem Watched.move (h : Watched (Vigilant topic old stirred) s) (hmanner : manner.Ordinary)
    {t : Noted ω ε} (hmove : Move around manner s t) :
    Watched (Vigilant topic old stirred) t := by
  cases hmove with
  | request wanted =>
    have hkeeps : Act.Keeps (Watched (ε := ε) (Vigilant topic old stirred)) Act.Ordinary wanted.act :=
      keeps_act wanted
    exact hkeeps.state s h
  | close => exact h.close haround hmanner
  | outside f => exact (keeps_supervise (silent_modify (E := Act.Ordinary) f)).state s h
  | step hstep => exact h.step (fun beat _ => keeps_tick haround hmanner beat) tick_ne_pause hstep

/-- **The poller is vigilant** at every later moment. -/
theorem Watched.reached (h : Watched (Vigilant topic old stirred) s) (hmanner : manner.Ordinary)
    {t : Noted ω ε} (hreached : Reached around manner s t) :
    Watched (Vigilant topic old stirred) t := by
  induction hreached with
  | refl => exact h
  | tail _ hmove ih => exact ih.move haround hmanner hmove

end Moves

/-! ## From the beginning -/

/-- At the beginning nobody observes anything, and both cadences stand. -/
theorem watched_atIntervals {supervised : Supervised (Diary ω ε)} {control logs : Reading}
    (hcontrol : control.toDouble?.isSome = true) (hlogs : logs.toDouble?.isSome = true)
    {poller : Noted ω ε} (hpoller : atIntervals supervised control logs = .ok poller)
    (topic : Topic) : Watched (Vigilant topic supervised.awake.outside.entries false) poller := by
  unfold atIntervals Cadence.ofInterval at hpoller
  split_ifs at hpoller <;> cases hpoller
  refine ⟨⟨fun beat hbeat => ?_, fun beat n hbeat hcurrent => ?_, fun n lot hlot => ?_⟩, ?_⟩
  · cases beat with
    | control => exact ⟨_, rfl, hcontrol⟩
    | logs => exact ⟨_, rfl, hlogs⟩
    | upkeep => cases hbeat
  · cases beat with
    | control | logs => cases hcurrent
    | upkeep => cases hbeat
  · cases hlot
  · refine ⟨fun beat hbeat => ?_, [], rfl, heralded_nil topic, .inr ⟨rfl, ?_⟩⟩
    · cases beat with
      | control | logs => rfl
      | upkeep => cases hbeat
    · cases topic <;> rfl

/-- **The loops run exactly while they are observed**, if both intervals are in the range of
floating-point numbers. Whatever is asked of a poller, from outside and by the observers that are told
something, whether it is closed, and however the outside world changes while time passes: the status is asked about as long as somebody observes the status or the network,
and the log is read as long as somebody observes it. After a step that leaves nobody to observe a
topic, nobody is told about it, and the server is not asked for lines if it is the log, until somebody
is attached to observe it. Orders are followed from one such moment to the next. -/
theorem polls_while_observed [BEq ω] {around : Surroundings ε} (haround : IsOrdinary around)
    {manner : Manner ω ε} (hmanner : manner.Ordinary) {supervised : Supervised (Diary ω ε)}
    {control logs : Reading} (hcontrol : control.toDouble?.isSome = true)
    (hlogs : logs.toDouble?.isSome = true) {poller : Noted ω ε}
    (hpoller : atIntervals supervised control logs = .ok poller) :
    (∀ s, Reached around manner poller s →
      (s.isRunning .control = true ↔
        s.world.statusObservers ≠ [] ∨ s.world.networkObservers ≠ []) ∧
      (s.isRunning .logs = true ↔ s.world.logObservers ≠ [])) ∧
    (∀ s orders, Reached around manner s (after around manner s orders)) ∧
    ∀ topic s t, Reached around manner poller s → isObserved s.world topic = false →
      Reached around manner s t →
        ∃ new, t.world.entries = new ++ s.world.entries ∧
          ∀ later entry earlier, new = later ++ entry :: earlier → entry.concerns topic →
            .attached topic ∈ earlier := by
  have hwatched : ∀ topic s, Reached around manner poller s →
      Watched (Vigilant topic supervised.awake.outside.entries false) s := fun topic s hreached =>
    (watched_atIntervals hcontrol hlogs hpoller topic).reached haround hmanner hreached
  refine ⟨fun s hs => ?_, fun s orders => reached_after around manner s orders,
    fun topic s t hs hnobody ht => ?_⟩
  · have h := hwatched .log s hs
    rw [h.standing.isRunning (show isPolled .control from trivial), h.fits.needed .control trivial,
      h.standing.isRunning (show isPolled .logs from trivial), h.fits.needed .logs trivial]
    simp [isNeeded, isObserved]
  · -- From here on, the entries of this moment count as old.
    have h : Watched (Vigilant topic s.world.entries false) s :=
      ⟨(hwatched topic s hs).standing, (hwatched topic s hs).fits.needed,
        [], rfl, heralded_nil topic, .inr ⟨rfl, hnobody⟩⟩
    obtain ⟨new, hnew, hheralded, -⟩ := (h.reached haround hmanner ht).fits.since
    exact ⟨new, hnew, hheralded⟩

/-! ## Single runs -/

/-- Surroundings whose server always runs, and answers with a line whenever it is asked for lines. -/
def talkative : Surroundings Unit where
  service :=
    { start := fun _ _ => pure 0
      stop := pure ()
      isRunning := pure true
      webifPort := pure 8080
      logLines := fun wanted _ => pure (some "line\n", wanted + 1) }
  inhibitor := { acquire := fun _ => pure (), release := pure () }
  clock _ := 0
  interfaces := (pure [] : Act Unit (List Network.Interface))

/-- A poller with an empty diary. -/
def blank (control logs : Reading) (hcontrol : control.isPositive = true)
    (hlogs : logs.isPositive = true) : Noted Nat Unit where
  cadences := [
    (.control, { name := beatName .control, interval := control, interval_pos := hcontrol }),
    (.logs, { name := beatName .logs, interval := logs, interval_pos := hlogs })]
  world := { supervised := { awake := { token := {}, outside := { outside := () } } } }

/-- An observer of the status attaches one of the log and detaches itself; the other one fails
whenever it is told something. -/
def handOver : Manner Nat Unit := fun _ _ notice =>
  match notice with
  | .status _ => { requests := [.attachLog 1 200, .detachStatus 0] }
  | .network _ => {}
  | .log _ => { failure := some .nothingOpen }

/-- The observer of the status has handed over, and the other one has been told something. -/
def handedOver : Noted Nat Unit :=
  after talkative handOver (blank 1 1 rfl rfl)
    [.request (.attachStatus 0), .advance 0, .advance 1]

/-- After the observer of the status has handed over, the status is not asked about any more, and the
log is read on although its observer fails. -/
theorem polls_while_observed_handOver :
    IsOrdinary talkative ∧ handOver.Ordinary ∧ (Reading.toDouble? 1).isSome = true ∧
      atIntervals (blank 1 1 rfl rfl).world.supervised 1 1 = .ok (blank 1 1 rfl rfl) ∧
      handedOver.isRunning .control = false ∧ handedOver.isRunning .logs = true := by
  have haround : IsOrdinary talkative :=
    { isRunning := fun _ _ hf => by cases hf
      webifPort := fun _ _ hf => by cases hf
      logLines := fun _ _ _ _ hf => by cases hf
      interfaces := fun _ _ hf => by cases hf }
  have hmanner : handOver.Ordinary := by
    intro diary observer notice failure hfailure
    cases notice <;> cases hfailure
    rfl
  have hsecond : (Reading.toDouble? 1).isSome = true := by decide +kernel
  have hblank : atIntervals (blank 1 1 rfl rfl).world.supervised 1 1 = .ok (blank 1 1 rfl rfl) := rfl
  obtain ⟨hruns, hafter, -⟩ := polls_while_observed haround hmanner hsecond hsecond hblank
  obtain ⟨hcontrol, hlogs⟩ := hruns handedOver (hafter _ _)
  have hstatus : handedOver.world.statusObservers = [] := by decide +kernel
  have hnetwork : handedOver.world.networkObservers = [] := by decide +kernel
  have hlog : handedOver.world.logObservers = [(0, 1)] := by decide +kernel
  refine ⟨haround, hmanner, hsecond, hblank, ?_, hlogs.mpr (by rw [hlog]; exact List.cons_ne_nil _ _)⟩
  by_contra hrunning
  rcases hcontrol.mp (by simpa using hrunning) with h | h
  · exact h hstatus
  · exact h hnetwork

/-- **A loop that ends while it is observed**, as its interval is past the largest floating-point
number. -/
theorem ends_while_observed :
    (after talkative (fun _ _ _ => {}) (blank (.whole (10 ^ 400)) 1 (by decide +kernel) rfl)
        [.request (.attachStatus 0), .advance 0]).world.statusObservers = [0] ∧
      (after talkative (fun _ _ _ => {}) (blank (.whole (10 ^ 400)) 1 (by decide +kernel) rfl)
        [.request (.attachStatus 0), .advance 0]).isRunning .control = false := by
  decide +kernel

end Warden.Poller
