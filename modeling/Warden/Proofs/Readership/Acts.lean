import Warden.Proofs.Act.Keeps
import Warden.Proofs.Poller.Diary
import Warden.Proofs.Readership.Turns
import Warden.Proofs.Supervisor.Commands

/-!
# What turns do

A turn is an act on a poller and its pages, which have much that readers of the log do not touch:
cadences, the status, the network, panels and alerts. What a turn does to the book, the followers,
their observers and what pages show of the log depends on these alone, and is what `take` says.

## Main definitions

* `Does`: an act that does something to what matters
* `IsQuiet`: an act that does nothing that matters

## Main results

* `tick_eq`: all observers read on, until one of them fails
* `of_act`: what a turn does to a poller and its pages
* `outcome_tick`: a tick whose observers fail, fails with the same failure
-/

namespace Warden.Readership

open Warden.ServerLog
open Warden.Act (Yields)

variable {ε α β : Type}

/-! ## Looking up what matters -/

theorem followers_of (premises : Premises Nat (Hearing ε)) (number : Nat) :
    (of premises).followers[number]? = premises.world.followers[number]? := by
  rw [of, Array.getElem?_toList]

theorem leaves_of (premises : Premises Nat (Hearing ε)) (page : Nat) :
    (of premises).leaves[page]? = (pagesOf premises)[page]?.map Page.leaf := by
  rw [of, List.getElem?_map, Array.getElem?_toList]

theorem size_followers (premises : Premises Nat (Hearing ε)) :
    premises.world.followers.size = (of premises).followers.length :=
  Array.length_toList.symm

theorem size_pages (premises : Premises Nat (Hearing ε)) :
    (pagesOf premises).size = (of premises).leaves.length := by
  rw [of, List.length_map, Array.length_toList]

/-! ## Acts and what matters -/

/-- An act that does something to what matters, and answers something about it. -/
def Does (act : Act (Premises Nat (Hearing ε)) α) (f : Readership → Readership)
    (answer : Readership → α → Prop) : Prop :=
  ∀ r, Yields (fun premises => of premises = r) act fun a premises =>
    of premises = f r ∧ answer r a

theorem Does.bind {act : Act (Premises Nat (Hearing ε)) α} {f : Readership → Readership}
    {answers : Readership → α → Prop} (hact : Does act f answers)
    {next : α → Act (Premises Nat (Hearing ε)) β} {r : Readership}
    {Q : β → Premises Nat (Hearing ε) → Prop}
    (hnext : ∀ a, answers r a → Yields (fun premises => of premises = f r) (next a) Q) :
    Yields (fun premises => of premises = r) (act >>= next) Q :=
  Yields.bind (hact r) fun a premises hpremises => hnext a hpremises.2 premises hpremises.1

/-- An act that does nothing that matters. -/
def IsQuiet (act : Act (Premises Nat (Hearing ε)) α) : Prop :=
  Does act id fun _ _ => True

/-- What matters depends on the world alone. -/
theorem of_congr {premises other : Premises Nat (Hearing ε)} (h : premises.world = other.world) :
    of premises = of other := by
  simp only [of, bookOf, pagesOf, h]

theorem does_attachLog (watcher : Watcher Nat) (maxLines : Int) :
    Does (ε := ε) (Poller.attachLog watcher maxLines) (fun r =>
      { r with
        followers := r.followers ++ [{ maxLines }]
        readers := r.readers ++ [(r.followers.length, watcher)] })
      fun r number => number = r.followers.length := by
  rintro r premises rfl
  refine ⟨_, Poller.outcome_attachLog .., ?_, Array.length_toList.symm⟩
  rw [Poller.state_attachLog, of_congr (Schedule.Agenda.world_start ..)]
  simp only [of, Poller.run_change, Array.toList_push, Array.length_toList]
  rfl

theorem does_detachLog (number : Nat) :
    Does (ε := ε) (Poller.detachLog number) (quit number) fun _ _ => True := by
  rintro r premises rfl
  have hworld : ∀ after : Premises Nat (Hearing ε), after.world = { premises.world with
      logObservers := premises.world.logObservers.filter (·.1 != number) } →
      of after = (of premises).quit number := by
    intro after hafter
    simp only [of, bookOf, pagesOf, hafter, quit]
  simp only [Poller.detachLog, Act.outcome_bind, Act.state_bind, Poller.run_look, Poller.run_change]
  split_ifs
  · rw [Schedule.Agenda.run_cancel]
    exact ⟨(), rfl, hworld _ (Schedule.Agenda.world_called ..), trivial⟩
  · exact ⟨(), rfl, hworld _ rfl, trivial⟩

/-- How an act ends that may have failed. -/
def outcomeOf : Option Failure → Except Failure Unit
  | none => .ok ()
  | some failure => .error failure

section Polls

variable (outer : Surroundings ε) (mood : Mood) (premises : Premises Nat (Hearing ε))

theorem outcome_pollFollower (number : Nat) :
    (Poller.pollFollower (Site.around outer.heard) number premises).outcome =
      .ok ((of premises).textFor number) := by
  have hfollower : premises.world.followers[number]? = premises.world.followers.toList[number]? :=
    Array.getElem?_toList.symm
  simp only [textFor, follower, of, ← hfollower]
  rfl

theorem of_pollFollower (number : Nat) :
    of (Poller.pollFollower (Site.around outer.heard) number premises).state =
      (of premises).poll number := by
  have hfollowers : (Poller.pollFollower (Site.around outer.heard) number
      premises).state.world.followers = premises.world.followers.setIfInBounds number
        (((of premises).follower number).reading (of premises).book.arrive.server.ring) := by
    simp only [follower, of, Array.getElem?_toList]
    rfl
  have hbook : bookOf (Poller.pollFollower (Site.around outer.heard) number premises).state =
      (of premises).book.arrive.enter (of premises).book.expected
        ((of premises).follower number).cursor.next ((of premises).textFor number) := by
    simp only [textFor, follower, of, Array.getElem?_toList]
    rfl
  rw [of, hfollowers, hbook, Array.toList_setIfInBounds]
  rfl

theorem followerOf_of (page : Nat) : (of premises).followerOf page =
    ((pagesOf premises)[page]?).bind Page.follower := by
  rw [followerOf, of, List.getElem?_map, Array.getElem?_toList]
  cases (pagesOf premises)[page]? <;> rfl

/-- A page that is changed shows of the log what changes with it. -/
theorem map_leaf_modify (pages : Array Page) (number : Nat) {f : Page → Page} {g : Leaf → Leaf}
    (h : ∀ page, (f page).leaf = g page.leaf) :
    (pages.modify number f).toList.map Page.leaf =
      (pages.toList.map Page.leaf).modify number g := by
  refine List.ext_getElem? fun other => ?_
  rw [Array.toList_modify, List.getElem?_map, List.getElem?_modify, List.getElem?_modify,
    List.getElem?_map]
  cases pages.toList[other]? with
  | none => rfl
  | some page => by_cases hother : number = other <;> simp [hother, h]

theorem follower_of (number : Nat) :
    (of premises).follower number = premises.world.followers[number]?.getD default := by
  rw [follower, of, Array.getElem?_toList]

theorem of_changePage (page : Nat) {f : Page → Page} {g : Leaf → Leaf}
    (h : ∀ page, (f page).leaf = g page.leaf) :
    of (Site.changePage page f premises).state =
      { of premises with leaves := (of premises).leaves.modify page g } := by
  have hleaves := map_leaf_modify (pagesOf premises) page h
  exact congrArg (Readership.mk _ _ _) hleaves

theorem run_siteLook (f : Site (Hearing ε) → α) : Site.look (ω := Nat) f premises =
    ⟨.ok (f premises.world.supervised.awake.outside), premises, []⟩ := rfl

/-- The buttons that lead to the web interface do not matter. -/
theorem of_showReach (page : Nat) : of (Page.showReach page premises).state = of premises := by
  have hchange : (Page.showReach page premises).state = (Site.changePage page (fun page =>
      { page with
        primaryEnabled := premises.world.display.primary.url.isSome
        accessPointEnabled := premises.world.display.accessPoint.url.isSome }) premises).state := rfl
  have hsame := map_leaf_modify (g := id) (pagesOf premises) page
    (f := fun page =>
      { page with
        primaryEnabled := premises.world.display.primary.url.isSome
        accessPointEnabled := premises.world.display.accessPoint.url.isSome }) fun _ => rfl
  rw [List.modify_id] at hsame
  rw [hchange]
  exact congrArg (Readership.mk _ _ _) hsame

/-- A page shows the text of its follower. -/
theorem render_eq (page : Nat) :
    (Page.render page premises).outcome = .ok () ∧
      of (Page.render page premises).state = (of premises).render page := by
  rw [Page.render, Act.outcome_bind, Act.state_bind, run_siteLook, render, followerOf_of, pagesOf]
  dsimp only
  cases premises.world.supervised.awake.outside.pages[page]?.bind Page.follower with
  | none => exact ⟨rfl, rfl⟩
  | some number =>
    refine ⟨rfl, ?_⟩
    dsimp only
    rw [follower_of]
    exact of_changePage premises page fun _ => rfl

/-- Whoever is told new text does what it does, and nothing else that matters. -/
theorem call_eq (watcher : Watcher Nat) (text : String) :
    (Watcher.call (guest mood) watcher (.log text) premises).outcome =
        outcomeOf ((of premises).hear mood text watcher).2 ∧
      of (Watcher.call (guest mood) watcher (.log text) premises).state =
        ((of premises).hear mood text watcher).1 := by
  cases watcher with
  | network page =>
    refine ⟨rfl, ?_⟩
    have hshow := of_showReach premises page
    exact hshow
  | log page => exact render_eq premises page
  | guest number =>
    have htold : (of premises).book.told = (bookOf premises).told := rfl
    rw [hear, htold]
    have hcall : Watcher.call (guest mood) (.guest number) (.log text) premises =
        (Act.raise? (mood (bookOf premises).told number text))
          (onBook (Act.modify (·.tell number text)) premises).state := rfl
    rw [hcall]
    cases mood (bookOf premises).told number text <;> exact ⟨rfl, rfl⟩

/-- An observer reads on. -/
theorem readOn_eq (reader : Nat × Watcher Nat) :
    (Poller.readOn (Site.around outer.heard) (Watcher.call (guest mood)) reader premises).outcome =
        outcomeOf ((of premises).read mood reader).2 ∧
      of (Poller.readOn (Site.around outer.heard) (Watcher.call (guest mood)) reader premises).state =
        ((of premises).read mood reader).1 := by
  have hpolled := outcome_pollFollower outer premises reader.1
  have hafter := of_pollFollower outer premises reader.1
  generalize hstate :
    (Poller.pollFollower (Site.around outer.heard) reader.1 premises).state = polled at *
  rw [Poller.readOn, Act.outcome_bind, Act.state_bind, hpolled, hstate, read]
  dsimp only
  split_ifs with hempty
  · exact ⟨rfl, hafter⟩
  · obtain ⟨houtcome, hheard⟩ := call_eq mood polled reader.2 ((of premises).textFor reader.1)
    rw [hafter] at houtcome hheard
    rw [Act.outcome_bind, Act.state_bind, houtcome]
    cases hmood : (hear mood ((of premises).textFor reader.1) reader.2
        ((of premises).poll reader.1)).2 with
    | none => exact ⟨rfl, hheard⟩
    | some failure => exact ⟨rfl, hheard⟩


/-- Observers read on, until one of them fails. -/
theorem forM_readOn (readers : List (Nat × Watcher Nat)) :
    (readers.forM (Poller.readOn (Site.around outer.heard) (Watcher.call (guest mood)))
        premises).outcome = outcomeOf ((of premises).readAll mood readers).2 ∧
      of (readers.forM (Poller.readOn (Site.around outer.heard) (Watcher.call (guest mood)))
        premises).state = ((of premises).readAll mood readers).1 := by
  induction readers generalizing premises with
  | nil => exact ⟨rfl, rfl⟩
  | cons reader later ih =>
    obtain ⟨houtcome, hafter⟩ := readOn_eq outer mood premises reader
    have hcons : (reader :: later).forM (Poller.readOn (Site.around outer.heard)
        (Watcher.call (guest mood))) premises =
        (Poller.readOn (Site.around outer.heard) (Watcher.call (guest mood)) reader >>= fun _ =>
          later.forM (Poller.readOn (Site.around outer.heard) (Watcher.call (guest mood))))
            premises := rfl
    rw [hcons, Act.outcome_bind, Act.state_bind, houtcome, readAll]
    rcases hread : (of premises).read mood reader with ⟨after, _ | failure⟩
    · rw [hread] at hafter
      dsimp only [outcomeOf] at hafter ⊢
      rw [← hafter]
      exact ih _
    · rw [hread] at hafter
      exact ⟨rfl, hafter⟩

/-- Asking whether the server runs does not matter. -/
theorem of_isRunning : of (Poller.supervise (Supervisor.isRunning (Site.around outer.heard))
    premises).state = of premises := by
  have hsupervised := Supervisor.state_isRunning (Site.around outer.heard) premises.world.supervised
  have hworld : (Poller.supervise (Supervisor.isRunning (Site.around outer.heard))
      premises).state.world = { premises.world with supervised :=
        (Supervisor.isRunning (Site.around outer.heard) premises.world.supervised).state } := rfl
  rw [of, bookOf, pagesOf, hworld, hsupervised]
  rfl

/-- **A tick of the log**: all observers read on, until one of them fails. -/
theorem tick_eq : of (Lifecycle.tick outer.heard (guest mood) .logs premises).state =
      ((of premises).readAll mood (of premises).readers).1 ∧
    ∀ failure, ((of premises).readAll mood (of premises).readers).2 = some failure →
      (Lifecycle.tick outer.heard (guest mood) .logs premises).outcome = .error failure := by
  obtain ⟨houtcome, hafter⟩ := forM_readOn outer mood premises premises.world.logObservers
  have hreaders : (of premises).readers = premises.world.logObservers := rfl
  have hstate : (Lifecycle.tick outer.heard (guest mood) .logs premises).state =
      (Poller.tickLog (Site.around outer.heard) (Watcher.call (guest mood)) premises).state := by
    rw [Lifecycle.tick, Act.state_bind]
    dsimp only
    cases (Poller.tickLog (Site.around outer.heard) (Watcher.call (guest mood)) premises).outcome
    all_goals rfl
  constructor
  · rw [hstate, Poller.tickLog, Poller.state_look_bind, Act.state_bind, houtcome, hreaders]
    cases ((of premises).readAll mood premises.world.logObservers).2 with
    | some failure => exact hafter
    | none =>
      -- After the last observer the poller asks whether the server still runs.
      dsimp only [outcomeOf]
      rw [Act.state_bind, ← hafter]
      cases (Poller.supervise (Supervisor.isRunning (Site.around outer.heard)) _).outcome <;>
        exact of_isRunning outer _
  · intro failure hfailure
    rw [hreaders] at hfailure
    rw [Lifecycle.tick, Act.outcome_bind]
    dsimp only
    rw [Poller.tickLog, Act.outcome_bind, Poller.run_look]
    dsimp only
    rw [Act.outcome_bind, houtcome, hfailure]
    rfl

/-- **The log of a page is detached**, and what it shows stays. -/
theorem of_detachPage (page : Nat) : of (Page.detachLog page premises).state =
    (of premises).take mood (.detachPage page) := by
  rw [Page.detachLog, Act.state_bind, run_siteLook, take, followerOf_of, pagesOf]
  dsimp only
  cases premises.world.supervised.awake.outside.pages[page]? with
  | none => rfl
  | some found =>
    dsimp only [Option.bind_some]
    cases found.follower with
    | none => rfl
    | some number =>
      obtain ⟨_, houtcome, hquit, -⟩ := does_detachLog number (of premises) premises rfl
      have hchange := of_changePage (Poller.detachLog number premises).state page
        (f := fun found => { found with follower := none })
        (g := fun leaf => { leaf with follower := none }) fun _ => rfl
      rw [hquit] at hchange
      rw [Act.state_bind_ok houtcome]
      exact hchange

end Polls

/-! ### Visits -/

theorem isQuiet_attachNetwork (watcher : Watcher Nat) :
    IsQuiet (ε := ε) (Poller.attachNetwork watcher) := by
  rintro r premises rfl
  have hstart : Poller.attachNetwork watcher premises = Schedule.Agenda.start .control
      { premises with world := { premises.world with
        networkObservers := premises.world.networkObservers ++ [watcher] } } := rfl
  rw [hstart]
  refine ⟨(), ?_, (of_congr (Schedule.Agenda.world_start ..)).trans rfl, trivial⟩
  rw [Schedule.Agenda.run_start]

theorem isQuiet_keepUp (page : Nat) : IsQuiet (ε := ε) (Page.keepUp page) := by
  rintro r premises rfl
  have hpositive : Page.upkeepInterval.isPositive = true := by decide +kernel
  have hstart : Page.keepUp page premises = Schedule.Agenda.start (.upkeep page)
      (Schedule.Agenda.put (.upkeep page)
        { name := Poller.beatName (.upkeep page)
          interval := Page.upkeepInterval
          interval_pos := hpositive } premises).state := by
    unfold Page.keepUp Schedule.Cadence.ofInterval
    rw [dif_pos hpositive]
    rfl
  rw [hstart]
  refine ⟨(), ?_, (of_congr (Schedule.Agenda.world_start ..)).trans rfl, trivial⟩
  rw [Schedule.Agenda.run_start]

theorem does_addPage (page : Page) :
    Does (ε := ε) (Site.addPage page) (fun r => { r with leaves := r.leaves ++ [page.leaf] })
      fun r number => number = r.leaves.length := by
  rintro r premises rfl
  have hpages : ∀ pages : Array Page,
      (pages.push page).toList.map Page.leaf = pages.toList.map Page.leaf ++ [page.leaf] := by
    intro pages
    rw [Array.toList_push, List.map_append, List.map_singleton]
  exact ⟨_, rfl, congrArg (Readership.mk _ _ _) (hpages _), size_pages premises⟩

/-- **A page is opened**, with a new follower. -/
theorem does_build : Does (ε := ε) Page.build (fun r =>
      { r with
        followers := r.followers ++ [{ maxLines := defaultLines }]
        readers := r.readers ++ [(r.followers.length, .log r.leaves.length)]
        leaves := r.leaves ++ [⟨some r.followers.length, "", 0⟩] }) fun _ _ => True := by
  intro r
  have hlook : ∀ f : Site (Hearing ε) → Bool, IsQuiet (Site.look (ω := Nat) f) := by
    rintro f r premises rfl
    exact ⟨_, rfl, rfl, trivial⟩
  have hpanel : IsQuiet (ε := ε) Site.addPanel := by
    rintro r premises rfl
    exact ⟨_, rfl, rfl, trivial⟩
  have hshow : ∀ page, IsQuiet (ε := ε) (Page.showReach page) := by
    rintro page r premises rfl
    exact ⟨_, rfl, of_showReach premises page, trivial⟩
  have henter : ∀ item, IsQuiet (ε := ε) (Act.enter item) := by
    rintro item r premises rfl
    exact ⟨_, rfl, rfl, trivial⟩
  refine (hlook _).bind fun startsOnBoot _ => hpanel.bind fun panel _ => ?_
  refine (does_addPage _).bind ?_
  rintro _ rfl
  refine (isQuiet_keepUp _).bind fun _ _ => (hshow _).bind fun _ _ => ?_
  refine (isQuiet_attachNetwork _).bind fun _ _ => (henter _).bind fun _ _ => ?_
  refine (does_attachLog _ _).bind ?_
  rintro _ rfl
  -- The page of the new follower is the last one.
  intro premises hpremises
  have hchange := of_changePage premises r.leaves.length (f := fun page =>
    { page with follower := some r.followers.length })
    (g := fun leaf => { leaf with follower := some r.followers.length }) fun _ => rfl
  rw [hpremises] at hchange
  refine ⟨_, rfl, hchange.trans (congrArg (Readership.mk _ _ _) ?_), trivial⟩
  exact List.modifyTailIdx_add (List.modifyHead _) 0 r.leaves [_]

theorem state_tick (outer : Surroundings ε) (mood : Mood) (during : Nat → List String)
    (premises : Premises Nat (Hearing ε)) :
    ((Turn.tick during).act outer mood premises).state =
      (Lifecycle.tick outer.heard (guest mood) .logs (expecting during premises).state).state := by
  have htick : ((Turn.tick during).act outer mood premises).state =
      (discard (Lifecycle.tick outer.heard (guest mood) .logs)
        (expecting during premises).state).state := rfl
  rw [htick, Act.state_discard]

/-- **A turn does to what matters** what it is to do. -/
theorem of_act (outer : Surroundings ε) (mood : Mood) (premises : Premises Nat (Hearing ε))
    (turn : Turn) : of (turn.act outer mood premises).state = (of premises).take mood turn := by
  have hpages := size_pages premises
  cases turn with
  | write lines => rfl
  | attach maxLines =>
    have hattach : (Turn.act outer mood (.attach maxLines) premises).state =
        (discard (Poller.attachLog (.guest premises.world.followers.size) maxLines)
          (own (.guest premises.world.followers.size) premises).state).state := rfl
    obtain ⟨-, -, hafter, -⟩ := does_attachLog (.guest premises.world.followers.size) maxLines _
      (own (.guest premises.world.followers.size) premises).state rfl
    rw [hattach, Act.state_discard, hafter, size_followers]
    rfl
  | detach follower =>
    obtain ⟨-, -, hafter, -⟩ := does_detachLog follower (of premises) premises rfl
    exact hafter
  | build =>
    have hown : ∀ watcher, (own watcher premises).outcome = .ok () := fun _ => rfl
    have hbuild : (Turn.act outer mood .build premises).state = (discard Page.build
        (own (.log (pagesOf premises).size) premises).state).state := by
      rw [Turn.act, Act.state_bind, run_siteLook]
      exact Act.state_bind_ok (hown _)
    obtain ⟨-, -, hafter, -⟩ := does_build _
      (own (.log (pagesOf premises).size) premises).state rfl
    rw [hbuild, Act.state_discard, hafter, hpages]
    rfl
  | detachPage page => exact of_detachPage mood premises page
  | tick during =>
    rw [state_tick, (tick_eq outer mood _).1]
    rfl

/-- A tick whose observers fail, fails with the same failure. -/
theorem outcome_tick (outer : Surroundings ε) {mood : Mood} {premises : Premises Nat (Hearing ε)}
    {during : Nat → List String} {failure : Failure}
    (h : (((of premises).expect during).readAll mood (of premises).readers).2 = some failure) :
    ((Turn.tick during).act outer mood premises).outcome = .error failure := by
  have htick : ((Turn.tick during).act outer mood premises).outcome =
      (discard (Lifecycle.tick outer.heard (guest mood) .logs)
        (expecting during premises).state).outcome := rfl
  rw [htick, Act.outcome_discard, (tick_eq outer mood _).2 failure h]
  rfl

end Warden.Readership
