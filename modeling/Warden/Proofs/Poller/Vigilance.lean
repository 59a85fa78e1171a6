import Warden.Proofs.Poller.Questions
import Warden.Proofs.ServerLog.Delivery

/-!
# Vigilance

A poller is vigilant if its cadences fit to its observers: a cadence is started exactly if somebody
observes what it asks about. Since an earlier moment at which nobody observed a topic, nobody was told
about it before somebody was attached to observe it. Requests keep this, and so do ticks, as whoever
is told something in a tick was in the list of the observers when the tick came to them.

## Main definitions

* `isObserved`, `isNeeded`: somebody observes a topic, or what a cadence asks about
* `Heralded`: what concerns a topic comes after an attachment
* `Vigilant`: a vigilant poller
* `Deserted`: a poller without observers that is about to be closed
* `Watched`: the cadences stand, and a property of them, the observers and the diary holds

## Main results

* `keeps_act`: requests keep a poller vigilant
* `keeps_tick`, `keeps_tick_deserted`: ticks keep it vigilant, or deserted
-/

namespace Warden.Poller

open Warden.Schedule (Agenda)
open Warden.ServerLog (Follower)
open Warden.Act (Keeps Ordinary)

variable {ω ε α : Type}

/-! ## Observers and entries -/

/-- Somebody observes a topic. -/
def isObserved (poller : Poller ω ε) : Topic → Bool
  | .status => !poller.statusObservers.isEmpty
  | .network => !poller.networkObservers.isEmpty
  | .log => !poller.logObservers.isEmpty

/-- The cadence at which observers of a topic are told about it. -/
def beatOf : Topic → Beat
  | .status | .network => .control
  | .log => .logs

/-- The cadences of a poller. -/
def isPolled : Beat → Prop
  | .control | .logs => True
  | .upkeep _ => False

/-- Somebody observes what a cadence asks about. -/
def isNeeded (observed : Topic → Bool) : Beat → Bool
  | .control => observed .status || observed .network
  | .logs => observed .log
  | .upkeep _ => false

theorem isNeeded_mono {observed other : Topic → Bool}
    (h : ∀ topic, other topic = true → observed topic = true) {beat : Beat}
    (hother : isNeeded other beat = true) : isNeeded observed beat = true := by
  cases beat with
  | control =>
    have hcases := (Bool.or_eq_true _ _).mp hother
    exact (Bool.or_eq_true _ _).mpr (hcases.imp (h _) (h _))
  | logs => exact h .log hother
  | upkeep => exact hother

/-- What concerns a topic comes after an attachment of one of its observers. -/
def Heralded (topic : Topic) (entries : List (Entry ω)) : Prop :=
  ∀ later entry earlier, entries = later ++ entry :: earlier → entry.concerns topic →
    .attached topic ∈ earlier

theorem heralded_nil (topic : Topic) : Heralded topic ([] : List (Entry ω)) := by
  intro later entry earlier heq
  cases later <;> cases heq

theorem Heralded.cons {topic : Topic} {entries : List (Entry ω)} (h : Heralded topic entries)
    {entry : Entry ω} (hentry : entry.concerns topic → .attached topic ∈ entries) :
    Heralded topic (entry :: entries) := by
  intro later found earlier heq
  cases later with
  | nil =>
    obtain ⟨rfl, rfl⟩ := List.cons.inj heq
    exact hentry
  | cons last later => exact h later found earlier (List.cons.inj heq).2

/-- The cadences fit to the observers. Since an earlier moment, what concerns a topic came after an
attachment; until there is one, which there must be if `stirred`, nobody observes the topic. -/
structure Vigilant (topic : Topic) (old : List (Entry ω)) (stirred : Bool) (started : Beat → Bool)
    (observed : Topic → Bool) (entries : List (Entry ω)) : Prop where
  needed : ∀ beat, isPolled beat → started beat = isNeeded observed beat
  since : ∃ new, entries = new ++ old ∧ Heralded topic new ∧
    (.attached topic ∈ new ∨ stirred = false ∧ observed topic = false)

namespace Vigilant

variable {topic : Topic} {old : List (Entry ω)} {stirred : Bool} {started : Beat → Bool}
  {observed other : Topic → Bool} {entries : List (Entry ω)}

/-- Something is entered that does not concern the topic, or comes after an attachment. -/
theorem enter (h : Vigilant topic old stirred started observed entries) {entry : Entry ω}
    (hentry : entry.concerns topic → stirred = true) :
    Vigilant topic old stirred started observed (entry :: entries) where
  needed := h.needed
  since := by
    obtain ⟨new, rfl, hheralded, hstirred⟩ := h.since
    refine ⟨entry :: new, rfl, hheralded.cons fun hconcerns => ?_,
      hstirred.imp_left (List.mem_cons_of_mem _)⟩
    rcases hstirred with hmem | ⟨hcalm, -⟩
    · exact hmem
    · cases hcalm.symm.trans (hentry hconcerns)

/-- An observer was attached, and the cadence that tells it is started. -/
theorem attach (h : Vigilant topic old stirred started observed entries) {attached : Topic}
    (hother : ∀ topic, other topic = (decide (topic = attached) || observed topic)) :
    Vigilant topic old stirred (Function.update started (beatOf attached) true) other
      (.attached attached :: entries) where
  needed beat hbeat := by
    have hneeded := h.needed beat hbeat
    cases beat with
    | upkeep => cases hbeat
    | control | logs => cases attached <;> simp [isNeeded, hother, beatOf, hneeded]
  since := by
    obtain ⟨new, rfl, hheralded, hstirred⟩ := h.since
    refine ⟨.attached attached :: new, rfl, hheralded.cons False.elim, ?_⟩
    by_cases htopic : topic = attached
    · exact .inl (htopic ▸ List.mem_cons_self)
    · rw [hother, decide_eq_false htopic, Bool.false_or]
      exact hstirred.imp_left (List.mem_cons_of_mem _)

/-- Observers were detached, and the cadences that nobody observes any more were cancelled. -/
theorem detach (h : Vigilant topic old stirred started observed entries) {after : Beat → Bool}
    (hother : ∀ topic, other topic = true → observed topic = true)
    (hneeded : ∀ beat, isPolled beat → after beat = isNeeded other beat) :
    Vigilant topic old stirred after other entries where
  needed := hneeded
  since := by
    obtain ⟨new, hnew, hheralded, hstirred⟩ := h.since
    refine ⟨new, hnew, hheralded, hstirred.imp_right fun hcalm => ⟨hcalm.1, ?_⟩⟩
    by_contra hfound
    cases hcalm.2.symm.trans (hother topic (by simpa using hfound))

/-- Once there was an attachment there will always have been one. -/
theorem stir (h : Vigilant topic old true started observed entries) :
    Vigilant topic old stirred started observed entries where
  needed := h.needed
  since := by
    obtain ⟨new, hnew, hheralded, hmem | ⟨hcalm, -⟩⟩ := h.since
    · exact ⟨new, hnew, hheralded, .inl hmem⟩
    · cases hcalm

/-- Whoever is observing has been attached. -/
theorem stirred_of_observed (h : Vigilant topic old stirred started observed entries)
    (hobserved : observed topic = true) : Vigilant topic old true started observed entries where
  needed := h.needed
  since := by
    obtain ⟨new, hnew, hheralded, hmem | ⟨-, hcalm⟩⟩ := h.since
    · exact ⟨new, hnew, hheralded, .inl hmem⟩
    · cases hcalm.symm.trans hobserved

end Vigilant

/-- Nobody observes anything, nothing was entered since an earlier moment, and the status is not asked
about any more. -/
structure Deserted (old : List (Entry ω)) (started : Beat → Bool) (observed : Topic → Bool)
    (entries : List (Entry ω)) : Prop where
  started : started .control = false
  observed : ∀ topic, observed topic = false
  entries : entries = old

/-! ## What acts keep -/

section Acts

/-- Both cadences of a poller stand, and which of them are started fits to who observes what and to
the diary. -/
abbrev Watched (R : (Beat → Bool) → (Topic → Bool) → List (Entry ω) → Prop) : Noted ω ε → Prop :=
  Agenda.Upheld isPolled fun started poller => R started (isObserved poller) poller.entries

variable {R : (Beat → Bool) → (Topic → Bool) → List (Entry ω) → Prop} {E : Failure → Prop}

/-- The poller changes apart from its observers and the diary. -/
theorem keeps_change {f : Poller ω (Diary ω ε) → Poller ω (Diary ω ε)}
    (hobserved : ∀ poller, isObserved (f poller) = isObserved poller)
    (hentries : ∀ poller, (f poller).entries = poller.entries) :
    Keeps (Watched R) E (change f) := by
  refine Agenda.Upheld.keeps_onWorld fun started => .modify fun poller h => ?_
  rw [hobserved, hentries]
  exact h

theorem keeps_changeDisplay (f : Display → Display) :
    Keeps (Watched (ω := ω) (ε := ε) R) E (changeDisplay f) :=
  keeps_change (fun _ => rfl) fun _ => rfl

theorem keeps_look (f : Poller ω (Diary ω ε) → α) : Keeps (Watched R) E (look f) :=
  .view _

theorem keeps_supervise {act : Act (Supervised (Diary ω ε)) α} (hact : Silent E act) :
    Keeps (Watched R) E (supervise act) := by
  refine Agenda.Upheld.keeps_onWorld fun started => ⟨fun poller h => ?_, fun poller f _ hf => ?_⟩
  · have hentries := ((hact poller.supervised.startedAt poller.entries).state _ ⟨rfl, rfl⟩).2
    show R started (isObserved poller) (act poller.supervised).state.awake.outside.entries
    rw [hentries]
    exact h
  · exact (hact poller.supervised.startedAt poller.entries).failure _ f ⟨rfl, rfl⟩ hf

/-- An act on the outside world that enters one entry. -/
theorem keeps_outside {act : Act (Diary ω ε) α} {entry : Entry ω}
    (hentry : ∀ started observed entries, R started observed entries →
      R started observed (entry :: entries))
    (hact : ∀ diary, (act diary).state.entries = entry :: diary.entries)
    (hfailure : ∀ diary f, (act diary).outcome = .error f → E f) :
    Keeps (Watched R) E (outside act) := by
  refine Agenda.Upheld.keeps_onWorld fun started => ⟨fun poller h => ?_, fun poller f _ hf => ?_⟩
  · show R started (isObserved poller) (act poller.diary).state.entries
    rw [hact]
    exact hentry _ _ _ h
  · exact hfailure poller.diary f hf

/-- Something is entered. -/
theorem keeps_enter {entry : Entry ω} (hentry : ∀ started observed entries,
    R started observed entries → R started observed (entry :: entries)) :
    Keeps (Watched (ε := ε) R) E (enter entry) := by
  refine keeps_outside hentry (fun _ => rfl) fun diary f hf => ?_
  cases hf

/-! ### Requests -/

section Requests

variable {topic : Topic} {old : List (Entry ω)} {stirred : Bool} {s : Noted ω ε}

/-- An observer was attached, and the cadence that tells it is started. -/
theorem Watched.attach (h : Watched (Vigilant topic old stirred) s) (attached : Topic)
    {f : Poller ω (Diary ω ε) → Poller ω (Diary ω ε)}
    (hobserved : ∀ topic poller,
      isObserved (f poller) topic = (decide (topic = attached) || isObserved poller topic))
    (hentries : ∀ poller, (f poller).entries = poller.entries) :
    Watched (Vigilant topic old stirred) (Agenda.start (beatOf attached)
      (change f (enter (.attached attached) s).state).state).state := by
  have hbeat : isPolled (beatOf attached) := by cases attached <;> trivial
  have hstanding : (change f (enter (.attached attached) s).state).state.Standing isPolled :=
    ⟨h.standing.cadences, h.standing.current, h.standing.owners⟩
  refine ⟨hstanding.start hbeat, ?_⟩
  rw [hstanding.isStarted_start hbeat, Agenda.world_start]
  have hattach := h.fits.attach fun topic => hobserved topic (enter (.attached attached) s).state.world
  exact (hentries (enter (.attached attached) s).state.world).symm ▸ hattach

/-- Observers were detached, and a cadence is cancelled if nobody observes what it asks about. -/
theorem Watched.detach (h : Watched (Vigilant topic old stirred) s)
    {f : Poller ω (Diary ω ε) → Poller ω (Diary ω ε)} (beat : Beat)
    {isIdle : Poller ω (Diary ω ε) → Bool} (hbeat : isPolled beat)
    (hidle : ∀ poller, isIdle poller = !isNeeded (isObserved poller) beat)
    (hobserved : ∀ topic poller,
      isObserved (f poller) topic = true → isObserved poller topic = true)
    (hother : ∀ other poller, other ≠ beat →
      isNeeded (isObserved (f poller)) other = isNeeded (isObserved poller) other)
    (hentries : ∀ poller, (f poller).entries = poller.entries) :
    Watched (Vigilant topic old stirred) ((do
      change f
      if ← look isIdle then Agenda.cancel beat : Act (Noted ω ε) Unit) s).state := by
  have hstanding : (change f s).state.Standing isPolled :=
    ⟨h.standing.cadences, h.standing.current, h.standing.owners⟩
  have hneeded : ∀ other, other ≠ beat → isPolled other →
      s.isStarted other = isNeeded (isObserved (f s.world)) other := by
    intro other hne hpolled
    rw [hother other s.world hne]
    exact h.fits.needed other hpolled
  have hstate : ((do
      change f
      if ← look isIdle then Agenda.cancel beat : Act (Noted ω ε) Unit) s).state =
      if isIdle (f s.world) then (change f s).state.called beat else (change f s).state := by
    rw [Act.state_bind, run_change]
    dsimp only
    rw [state_look_bind]
    split_ifs
    · rw [Agenda.run_cancel]
    · rfl
  have hfits : ∀ after : Beat → Bool,
      (∀ other, isPolled other → after other = isNeeded (isObserved (f s.world)) other) →
        Vigilant topic old stirred after (isObserved (f s.world)) (f s.world).entries := by
    intro after hafter
    rw [hentries]
    exact h.fits.detach (fun topic => hobserved topic _) hafter
  rw [hstate, hidle]
  split_ifs with hunneeded
  · refine ⟨hstanding.called hbeat, ?_⟩
    rw [Agenda.isStarted_called, Agenda.world_called]
    refine hfits _ fun other hpolled => ?_
    by_cases heq : other = beat
    · rw [heq, Function.update_self]
      simpa using hunneeded
    · rw [Function.update_of_ne heq]
      exact hneeded other heq hpolled
  · refine ⟨hstanding, hfits _ fun other hpolled => ?_⟩
    by_cases heq : other = beat
    · subst heq
      -- What is observed after somebody was detached was observed before.
      have hafter : isNeeded (isObserved (f s.world)) other = true := by simpa using hunneeded
      have hbefore := isNeeded_mono (fun topic => hobserved topic s.world) hafter
      exact (h.fits.needed other hpolled).trans (hbefore.trans hafter.symm)
    · exact hneeded other heq hpolled

theorem isControlUnobserved_eq (poller : Poller ω ε) :
    isControlUnobserved poller = !isNeeded (isObserved poller) .control := by
  simp [isControlUnobserved, isNeeded, isObserved]

/-- A list with an element is not empty, and neither is one of which it is a part. -/
theorem isEmpty_of_sublist {items others : List α} (hsub : items.Sublist others)
    (hitems : (!items.isEmpty) = true) : (!others.isEmpty) = true := by
  cases others with
  | nil => rwa [List.sublist_nil.mp hsub] at hitems
  | cons => rfl

theorem outcome_restControl (s : Polling ω ε) : (restControl s).outcome = .ok () := by
  unfold restControl
  rw [Act.outcome_bind, run_look]
  dsimp only
  split_ifs
  · rw [Agenda.run_cancel]
  · rfl

/-- A request does not fail. -/
theorem outcome_act [BEq ω] (request : Request ω) (s : Noted ω ε) :
    (request.act s).outcome = .ok () := by
  cases request with
  | attachStatus | attachNetwork => exact congrArg Report.outcome (Agenda.run_start ..)
  | detachStatus | detachNetwork => exact outcome_restControl _
  | attachLog observer maxLines =>
    simp only [Request.act, attachLog, Act.outcome_bind, Act.outcome_discard, run_look, run_change,
      Agenda.run_start]
    rfl
  | detachLog follower =>
    simp only [Request.act, detachLog, Act.outcome_bind, run_look, run_change]
    split_ifs
    · rw [Agenda.run_cancel]
    · rfl
  | stop => simp only [Request.act, stop, detachAll, Act.outcome_bind, run_change, Agenda.run_cancel]

/-- Everybody is detached, and both cadences are cancelled. -/
theorem Watched.stop (h : Watched (Vigilant topic old stirred) s) :
    Watched (Vigilant topic old stirred) (Poller.stop s).state := by
  have hstate : (Poller.stop s).state =
      ((detachAll s).state.called .control).called .logs := by
    simp only [Poller.stop, Act.state_bind, detachAll, run_change, Agenda.run_cancel]
  have hstanding : (detachAll s).state.Standing isPolled :=
    ⟨h.standing.cadences, h.standing.current, h.standing.owners⟩
  have hcontrol := hstanding.called (show isPolled .control from trivial)
  rw [hstate]
  refine ⟨hcontrol.called (show isPolled .logs from trivial), ?_⟩
  rw [Agenda.isStarted_called, Agenda.isStarted_called, Agenda.world_called, Agenda.world_called]
  refine h.fits.detach (fun topic hobserved => ?_) fun beat hbeat => ?_
  · cases topic <;> cases hobserved
  · cases beat <;> first | rfl | cases hbeat

/-- **A request** keeps what is watched. -/
theorem keeps_act [BEq ω] (request : Request ω) :
    Keeps (Watched (ε := ε) (Vigilant topic old stirred)) E request.act where
  state s h := by
    cases request with
    | attachStatus observer =>
      refine h.attach .status (fun topic poller => ?_) fun _ => rfl
      cases topic <;> simp [isObserved]
    | attachNetwork observer =>
      refine h.attach .network (fun topic poller => ?_) fun _ => rfl
      cases topic <;> simp [isObserved]
    | attachLog observer maxLines =>
      have hstate : ((Request.attachLog observer maxLines).act s).state =
          (attachLog observer maxLines (enter (.attached .log) s).state).state := by
        rw [Request.act, Act.state_bind]
        exact Act.state_discard _ _
      rw [hstate, state_attachLog]
      refine h.attach .log (fun topic poller => ?_) fun _ => rfl
      cases topic <;> simp [isObserved]
    | detachStatus observer =>
      refine h.detach .control trivial isControlUnobserved_eq (fun topic poller hobserved => ?_)
        (fun other poller hother => ?_) fun _ => rfl
      · cases topic with
        | status => exact isEmpty_of_sublist List.erase_sublist hobserved
        | network | log => exact hobserved
      · cases other <;> first | rfl | cases hother rfl
    | detachNetwork observer =>
      refine h.detach .control trivial isControlUnobserved_eq (fun topic poller hobserved => ?_)
        (fun other poller hother => ?_) fun _ => rfl
      · cases topic with
        | network => exact isEmpty_of_sublist List.erase_sublist hobserved
        | status | log => exact hobserved
      · cases other <;> first | rfl | cases hother rfl
    | detachLog follower =>
      refine h.detach .logs trivial (fun poller => (Bool.not_not _).symm)
        (fun topic poller hobserved => ?_) (fun other poller hother => ?_) fun _ => rfl
      · cases topic with
        | log => exact isEmpty_of_sublist List.filter_sublist hobserved
        | status | network => exact hobserved
      · cases other <;> first | rfl | cases hother rfl
    | stop => exact h.stop
  failure s f h hf := by
    rw [outcome_act] at hf
    cases hf

end Requests

/-! ### Ticks -/

section Answers

variable {E : Failure → Prop}

theorem keeps_noteStatus (handle : Handle) :
    Keeps (Watched (ω := ω) (ε := ε) R) E (noteStatus handle) where
  state s h := by rwa [state_noteStatus]
  failure s f _ hf := by
    rw [outcome_noteStatus] at hf
    cases hf

/-- Publishing fails at most because the port cannot be written. -/
theorem keeps_publish (endpoints : List Endpoint) (port : Option Int) :
    Keeps (Watched (ω := ω) (ε := ε) R) Ordinary (publish endpoints port) := by
  have hplace : ∀ role, Keeps (Watched (ω := ω) (ε := ε) R) Ordinary
      (publishPlace endpoints port role) := fun role =>
    (Keeps.ofExcept fun f hf => ordinary_place? hf).bind fun _ => keeps_changeDisplay _
  exact (keeps_changeDisplay _).bind fun _ => (hplace .primary).bind fun _ => hplace .accessPoint

end Answers

section Ticks

variable [BEq ω] {around : Surroundings ε} {manner : Manner ω ε} (haround : IsOrdinary around)
include haround

omit [BEq ω] in
theorem keeps_askStatus : Keeps (Watched (ω := ω) R) Ordinary (askStatus around.noted) := by
  refine (keeps_supervise (silent_snapshot haround.toAnswersStatus)).bind fun handle => ?_
  refine (keeps_changeDisplay _).bind fun _ => ?_
  refine (keeps_supervise (silent_uptime haround.toAnswersStatus)).bind fun reading => ?_
  refine (Keeps.ofExcept fun f hf => ordinary_text hf).bind fun _ => ?_
  refine (keeps_changeDisplay _).bind fun _ => ?_
  exact (keeps_noteStatus handle).bind fun _ => .pure _

omit [BEq ω] in
theorem keeps_askNetwork (port : Option Int) :
    Keeps (Watched (ω := ω) R) Ordinary (askNetwork around.noted port) := by
  refine (keeps_supervise (silent_findBoth haround _)).bind fun endpoints => ?_
  exact (keeps_publish endpoints port).bind fun _ => .pure _

omit [BEq ω] in
/-- The server is asked for lines. -/
theorem keeps_pollFollower (hasked : ∀ started observed entries, R started observed entries →
      R started observed (.asked :: entries)) (number : Nat) :
    Keeps (Watched (ω := ω) R) Ordinary (pollFollower around.noted number) := by
  refine (keeps_look _).bind fun follower => ?_
  refine Keeps.bind (keeps_outside hasked (fun diary => ?_) fun diary f hf => ?_) fun answer => ?_
  · exact congrArg Diary.entries (Follower.state_poll around.noted.service.logLines follower diary)
  · have hsource := Follower.outcome_poll hf
    exact haround.logLines _ _ diary.outside f hsource
  · obtain ⟨text, after⟩ := answer
    dsimp only
    refine Keeps.bind (keeps_change (fun _ => ?_) fun _ => ?_) fun _ => .pure _ <;> rfl

/-- A tick of the status, if telling the observers keeps the property. -/
theorem keeps_tickStatus
    (hstatus : ∀ handle, Keeps (Watched R) Ordinary
      (look statusObservers >>= fun observers => tell (call manner) observers (.status handle)))
    (hnetwork : ∀ endpoints, Keeps (Watched R) Ordinary
      (look networkObservers >>= fun observers => tell (call manner) observers (.network endpoints))) :
    Keeps (Watched R) Ordinary (tickStatus around.noted (call manner)) := by
  refine (keeps_askStatus haround).bind fun handle => ?_
  rw [← Act.bind_assoc]
  refine (hstatus handle).bind fun _ => (keeps_look _).bind fun unobserved => .ite (.pure _) ?_
  exact (keeps_askNetwork haround _).bind hnetwork

/-- A tick of the log, if reading on for every observer keeps the property. -/
theorem keeps_tickLog
    (hread : Keeps (Watched R) Ordinary
      (look logObservers >>= fun readers => readers.forM (readOn around.noted (call manner)))) :
    Keeps (Watched R) Ordinary (tickLog around.noted (call manner)) := by
  unfold tickLog
  rw [← Act.bind_assoc]
  refine hread.bind fun _ => ?_
  refine (keeps_supervise (silent_isRunning haround.toAnswersStatus)).bind fun running => ?_
  exact keeps_changeDisplay _

end Ticks

/-- Where nobody observes a topic, nobody is told about it. -/
theorem keeps_nobody {β : Type} (about : Topic) {list : Poller ω (Diary ω ε) → List β}
    {act : β → Act (Noted ω ε) Unit}
    (hlist : ∀ poller, isObserved poller about = !(list poller).isEmpty)
    (hnobody : ∀ started observed entries, R started observed entries → observed about = false) :
    Keeps (Watched R) Ordinary (look list >>= fun items => items.forM act) := by
  have hnone : ∀ s, Watched R s → list s.world = [] := by
    intro s h
    have hempty := (hlist s.world).symm.trans (hnobody _ _ _ h.fits)
    simpa using hempty
  refine .view_bind (fun s h => ?_) fun s f h hf => ?_
  · rw [hnone s h]
    exact h
  · rw [hnone s h] at hf
    cases hf

section Manners

variable {topic : Topic} {old : List (Entry ω)} {stirred : Bool} {s : Noted ω ε}

/-- Something is done for every observer of a topic, if the topic is observed then. -/
theorem keeps_each {β : Type} (about : Topic) {list : Poller ω (Diary ω ε) → List β}
    {act : β → Act (Noted ω ε) Unit}
    (hlist : ∀ poller, isObserved poller about = !(list poller).isEmpty)
    (hact : ∀ stirred, (about = topic → stirred = true) → ∀ item,
      Keeps (Watched (Vigilant topic old stirred)) Ordinary (act item)) :
    Keeps (Watched (Vigilant topic old stirred)) Ordinary
      (look list >>= fun items => items.forM act) := by
  have heach : ∀ s, Watched (Vigilant topic old stirred) s →
      Watched (Vigilant topic old stirred) ((list s.world).forM act s).state ∧
        ∀ f, ((list s.world).forM act s).outcome = .error f → Ordinary f := by
    intro s h
    by_cases habout : about = topic
    · cases hitems : list s.world with
      | nil => exact ⟨h, nofun⟩
      | cons item items =>
        -- Whoever is in the list has been attached since.
        have hobserved : isObserved s.world topic = true := by
          rw [← habout, hlist, hitems]
          rfl
        have hstirred : Watched (Vigilant topic old true) s :=
          ⟨h.standing, h.fits.stirred_of_observed hobserved⟩
        have hkeeps := Keeps.forM (hact true fun _ => rfl) (item :: items)
        have hafter := hkeeps.state s hstirred
        exact ⟨⟨hafter.standing, hafter.fits.stir⟩, fun f hf => hkeeps.failure s f hstirred hf⟩
    · -- What is told about another topic may be told at any time.
      have hkeeps := Keeps.forM (hact stirred fun heq => absurd heq habout) (list s.world)
      exact ⟨hkeeps.state s h, fun f hf => hkeeps.failure s f h hf⟩
  exact .view_bind (fun s h => (heach s h).1) fun s f h hf => (heach s h).2 f hf

variable [BEq ω] {around : Surroundings ε} {manner : Manner ω ε}

/-- An observer is told something, after it has been attached if that concerns the topic. -/
theorem keeps_call (hmanner : manner.Ordinary) (observer : ω) {notice : Notice}
    (hnotice : notice.topic = topic → stirred = true) :
    Keeps (Watched (Vigilant topic old stirred)) Ordinary (call manner observer notice) := by
  have htold : (Entry.told observer notice).concerns topic → stirred = true := hnotice
  refine (keeps_look _).bind fun diary => ?_
  refine Keeps.bind (keeps_enter fun _ _ _ h => h.enter htold) fun _ => ?_
  refine Keeps.bind (keeps_supervise (silent_modify _)) fun _ => ?_
  exact (Keeps.forM keeps_act _).bind fun _ => .raise? fun f hf => hmanner _ _ _ f hf

variable (haround : IsOrdinary around)
include haround

/-- **Each tick** keeps the poller vigilant. -/
theorem keeps_tick (hmanner : manner.Ordinary) (beat : Beat) :
    Keeps (Watched (Vigilant topic old stirred)) Ordinary (tick around manner beat) := by
  have hpure : Keeps (Watched (Vigilant topic old stirred)) Ordinary
      (pure none : Act (Noted ω ε) (Option Schedule.Pause)) := .pure _
  cases beat with
  | control =>
    refine (keeps_tickStatus haround (fun handle => ?_) fun endpoints => ?_).bind fun _ => hpure
    · exact keeps_each .status (fun _ => rfl) fun stirred hstatus observer =>
        keeps_call hmanner observer hstatus
    · exact keeps_each .network (fun _ => rfl) fun stirred hnetwork observer =>
        keeps_call hmanner observer hnetwork
  | logs =>
    refine (keeps_tickLog haround ?_).bind fun _ => hpure
    refine keeps_each .log (fun _ => rfl) fun stirred hlog reader => ?_
    have hasked : (Entry.asked (ω := ω)).concerns topic → stirred = true :=
      fun heq => hlog (Eq.symm heq)
    have hshown : Keeps (Watched (ω := ω) (ε := ε) (Vigilant topic old stirred)) Ordinary (do
        let lineCount ← look (linesOf reader.1)
        changeDisplay fun display => { display with lineCount }) :=
      (keeps_look _).bind fun _ => keeps_changeDisplay _
    refine (keeps_pollFollower haround (fun _ _ _ h => h.enter hasked) reader.1).bind fun text => ?_
    have htext : (Notice.log text).topic = topic → stirred = true := hlog
    exact .ite hshown ((keeps_call hmanner reader.2 htext).bind fun _ => hshown)
  | upkeep => exact hpure

/-- A tick without observers tells nobody anything, and asks for no lines. -/
theorem keeps_tick_deserted (beat : Beat) :
    Keeps (Watched (Deserted old)) Ordinary (tick around manner beat) := by
  have hpure : Keeps (Watched (Deserted old)) Ordinary
      (pure none : Act (Noted ω ε) (Option Schedule.Pause)) := .pure _
  cases beat with
  | control =>
    refine (keeps_tickStatus haround (fun handle => ?_) fun endpoints => ?_).bind fun _ => hpure
    · exact keeps_nobody .status (fun _ => rfl) fun _ _ _ h => h.observed _
    · exact keeps_nobody .network (fun _ => rfl) fun _ _ _ h => h.observed _
  | logs =>
    refine (keeps_tickLog haround ?_).bind fun _ => hpure
    exact keeps_nobody .log (fun _ => rfl) fun _ _ _ h => h.observed _
  | upkeep => exact hpure

omit haround in
/-- No tick pauses. -/
theorem tick_ne_pause (beat : Beat) (s : Noted ω ε) (pause : Schedule.Pause) :
    (tick around manner beat s).outcome ≠ .ok (some pause) := by
  intro h
  cases beat with
  | control =>
    rw [tick, Act.outcome_bind] at h
    split at h <;> cases h
  | logs =>
    rw [tick, Act.outcome_bind] at h
    split at h <;> cases h
  | upkeep => cases h

end Manners

end Acts

end Warden.Poller
