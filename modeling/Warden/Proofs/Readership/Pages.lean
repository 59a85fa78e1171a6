import Warden.Page.Shown
import Warden.Proofs.Readership.Delivery
import Warden.Proofs.ServerLog.Retained

/-!
# Pages and the log that they show

A page shows the text in the buffer of its follower, and the number of lines in it. It is told when
its follower was given new text, and only then: a poll that gives nothing leaves the buffer alone,
and one that makes the buffer drop text gave some. A page whose log is detached is told nothing any
more.

## Main definitions

* `Leaf.Shows`: a page shows a buffer
* `Mirrored`: every page shows the buffer of its follower

## Main results

* `Mirrored.read`, `Mirrored.take`: what a reading and a turn keep
* `detached_take`: what a page shows whose log is detached
* `pages_show_retained`: every page shows what its follower retains, at any time
-/

namespace Warden

open Warden.Server (ChildServer)
open Warden.ServerLog

/-- A page shows a buffer. -/
def Leaf.Shows (leaf : Leaf) (buffer : Buffer) : Prop :=
  leaf.logText = buffer.text ∧ leaf.lineCount = buffer.lineCount

namespace Readership

variable {ε : Type} {r : Readership} {capacity : Nat} {mood : Mood}

theorem followerOf_eq {page : Nat} {leaf : Leaf} (h : r.leaves[page]? = some leaf) :
    r.followerOf page = leaf.follower := by
  rw [followerOf, h, Option.bind_some]

/-! ## Rendering -/

theorem followerOf_render (other page : Nat) :
    (r.render other).followerOf page = r.followerOf page := by
  unfold render
  cases r.followerOf other with
  | none => rfl
  | some number =>
    unfold followerOf
    dsimp only
    rw [List.getElem?_modify]
    cases r.leaves[page]? with
    | none => rfl
    | some leaf => by_cases hother : other = page <;> simp [hother]

theorem leaves_render_of_ne {other page : Nat} (h : other ≠ page) :
    (r.render other).leaves[page]? = r.leaves[page]? := by
  unfold render
  cases r.followerOf other with
  | none => rfl
  | some number => exact List.getElem?_modify_ne _ _ h

theorem shows_render {page number : Nat} {leaf : Leaf} (hpage : r.followerOf page = some number)
    (hleaf : (r.render page).leaves[page]? = some leaf) :
    leaf.Shows (r.follower number).buffer := by
  rw [render, hpage] at hleaf
  dsimp only at hleaf
  rw [List.getElem?_modify_eq] at hleaf
  obtain ⟨old, -, rfl⟩ := Option.map_eq_some_iff.mp hleaf
  exact ⟨rfl, rfl⟩

/-! ## Detached logs -/

section Detached

variable {page : Nat} {leaf : Leaf} (hleaf : r.leaves[page]? = some leaf)
  (hnone : leaf.follower = none)

include hleaf hnone

theorem ne_of_detached {other number : Nat} (hother : r.followerOf other = some number) :
    other ≠ page := by
  rintro rfl
  rw [followerOf_eq hleaf, hnone] at hother
  cases hother

theorem detached_render (other : Nat) : (r.render other).leaves[page]? = some leaf := by
  cases hother : r.followerOf other with
  | none => rwa [render, hother]
  | some number => rwa [leaves_render_of_ne (ne_of_detached hleaf hnone hother)]

variable (mood)

theorem detached_read (reader : Nat × Watcher Nat) :
    (r.read mood reader).1.leaves[page]? = some leaf := by
  have hpoll : (r.poll reader.1).leaves[page]? = some leaf := hleaf
  unfold read hear
  split_ifs
  · exact hpoll
  · cases reader.2 with
    | log other => exact detached_render hpoll hnone other
    | _ => exact hpoll

theorem detached_readAll (readers : List (Nat × Watcher Nat)) :
    (r.readAll mood readers).1.leaves[page]? = some leaf := by
  induction readers generalizing r with
  | nil => exact hleaf
  | cons reader later ih =>
    have hread := detached_read mood hleaf hnone reader
    cases houtcome : (r.read mood reader).2 with
    | some failure =>
      rw [(readAll_of_some houtcome later).1]
      exact hread
    | none =>
      rw [readAll_of_none houtcome]
      exact ih hread

/-- **What a page shows whose log is detached stays**, whatever happens. -/
theorem detached_take (turn : Turn) : (r.take mood turn).leaves[page]? = some leaf := by
  cases turn with
  | build => exact (List.getElem?_append_left (List.getElem?_eq_some_iff.mp hleaf).1).trans hleaf
  | detachPage other =>
    rw [take]
    cases hother : r.followerOf other with
    | none => exact hleaf
    | some number =>
      exact (List.getElem?_modify_ne _ _ (ne_of_detached hleaf hnone hother)).trans hleaf
  | tick during => exact detached_readAll (r := r.expect during) mood hleaf hnone r.readers
  | _ => exact hleaf

theorem detached_foldl_take (turns : List Turn) :
    (turns.foldl (take mood) r).leaves[page]? = some leaf := by
  induction turns generalizing r with
  | nil => exact hleaf
  | cons turn turns ih => exact ih (detached_take mood hleaf hnone turn)

end Detached

/-! ## Pages and their followers -/

/-- Every page shows the buffer of its follower, which holds the newest of what the follower was
given. -/
structure Mirrored (r : Readership) : Prop where
  /-- The follower of a page is its own. -/
  owned : ∀ page number : Nat, r.followerOf page = some number →
    r.book.owners[number]? = some (.log page)
  /-- A page that is told new text has the follower that the text was for. -/
  rendered : ∀ number page : Nat, (number, .log page) ∈ r.readers →
    r.followerOf page = some number
  shows : ∀ (page : Nat) (leaf : Leaf) (number : Nat), r.leaves[page]? = some leaf →
    leaf.follower = some number → leaf.Shows (r.follower number).buffer
  retains : r.audience.Retains r.book.history Buffer.defaultMaxChars

namespace Mirrored

theorem opened (premises : Premises Nat (Hearing ε)) (server : ChildServer) (capacity : Nat)
    (room : 0 < capacity) : Mirrored (of (opened premises server capacity room)) where
  owned _ _ hpage := nomatch hpage
  rendered _ _ hreader := nomatch hreader
  shows _ _ _ hleaf := nomatch hleaf
  retains _ _ hfollower := nomatch hfollower

theorem write (h : Mirrored r) (lines : List String) :
    Mirrored { r with book := r.book.write lines } where
  owned := h.owned
  rendered := h.rendered
  shows := h.shows
  retains number follower hfollower :=
    (h.retains number follower hfollower).imp id fun holds => holds.of_history lines

theorem quit (h : Mirrored r) (number : Nat) : Mirrored (r.quit number) where
  owned := h.owned
  rendered other page hreader := h.rendered other page (List.mem_of_mem_filter hreader)
  shows := h.shows
  retains := h.retains

/-! ### Followers that are attached -/

section Join

variable (h : Mirrored r) {page number : Nat} {leaf : Leaf} (watcher : Watcher Nat) (maxLines : Int)

include h

theorem owned_join (hpage : r.followerOf page = some number) :
    (r.join watcher maxLines).book.owners[number]? = some (.log page) := by
  have howned := h.owned page number hpage
  exact (List.getElem?_append_left (List.getElem?_eq_some_iff.mp howned).1).trans howned

variable (horderly : Orderly r capacity)

include horderly

theorem shows_join (hleaf : r.leaves[page]? = some leaf) (hnumber : leaf.follower = some number) :
    leaf.Shows ((r.join watcher maxLines).follower number).buffer := by
  have howned := h.owned page number ((followerOf_eq hleaf).trans hnumber)
  have hlt := horderly.lt_of_owned howned
  have hfollower : (r.join watcher maxLines).follower number = r.follower number :=
    congrArg (·.getD default) (List.getElem?_append_left hlt)
  rw [hfollower]
  exact h.shows page leaf number hleaf hnumber

theorem retains_join : (r.join watcher maxLines).audience.Retains
    (r.join watcher maxLines).book.history Buffer.defaultMaxChars :=
  h.retains.join horderly.sound maxLines (by decide)

end Join

/-- A guest that joins has a follower of its own. -/
theorem join (h : Mirrored r) (horderly : Orderly r capacity) (guest : Nat) (maxLines : Int) :
    Mirrored (r.join (.guest guest) maxLines) where
  owned _ _ hpage := h.owned_join _ maxLines hpage
  rendered number page hreader := by
    rcases List.mem_append.mp hreader with hreader | hnew
    · exact h.rendered number page hreader
    · cases List.mem_singleton.mp hnew
  shows _ _ _ hleaf hnumber := h.shows_join _ _ horderly hleaf hnumber
  retains := h.retains_join _ _ horderly

theorem leaf_build {page : Nat} {leaf : Leaf}
    (hleaf : (r.take mood .build).leaves[page]? = some leaf) :
    r.leaves[page]? = some leaf ∨
      page = r.leaves.length ∧ leaf = ⟨some r.followers.length, "", 0⟩ := by
  rcases Nat.lt_or_ge page r.leaves.length with hlt | hge
  · exact .inl ((List.getElem?_append_left hlt).symm.trans hleaf)
  · have hnew := (List.getElem?_append_right hge).symm.trans hleaf
    rw [List.getElem?_singleton] at hnew
    split_ifs at hnew
    exact .inr ⟨by omega, (Option.some.inj hnew).symm⟩

/-- A page that is opened shows the empty buffer of a new follower. -/
theorem build (h : Mirrored r) (horderly : Orderly r capacity) (mood : Mood) :
    Mirrored (r.take mood .build) := by
  constructor
  case owned =>
    intro page number hpage
    obtain ⟨leaf, hleaf, hnumber⟩ := Option.bind_eq_some_iff.mp hpage
    rcases leaf_build hleaf with hold | ⟨rfl, rfl⟩
    · exact h.owned_join _ defaultLines ((followerOf_eq hold).trans hnumber)
    · obtain rfl := Option.some.inj hnumber
      change (r.book.owners ++ [_])[r.followers.length]? = _
      rw [← horderly.owners_length, List.getElem?_concat_length]
  case rendered =>
    intro number page hreader
    rcases List.mem_append.mp hreader with hreader | hnew
    · obtain ⟨leaf, hleaf, hnumber⟩ := Option.bind_eq_some_iff.mp (h.rendered number page hreader)
      have hlt := (List.getElem?_eq_some_iff.mp hleaf).1
      exact (followerOf_eq ((List.getElem?_append_left hlt).trans hleaf)).trans hnumber
    · cases List.mem_singleton.mp hnew
      exact followerOf_eq (r := r.take mood .build) List.getElem?_concat_length
  case shows =>
    intro page leaf number hleaf hnumber
    rcases leaf_build hleaf with hold | ⟨rfl, rfl⟩
    · exact h.shows_join (.log r.leaves.length) defaultLines horderly hold hnumber
    · obtain rfl := Option.some.inj hnumber
      change Leaf.Shows _ (((r.followers ++ [_])[r.followers.length]?).getD default).buffer
      rw [List.getElem?_concat_length, Option.getD_some]
      exact ⟨rfl, (Buffer.lineCount_eq default).symm⟩
  case retains => exact h.retains_join (.log r.leaves.length) defaultLines horderly

/-! ### Logs that are detached -/

theorem take_detachPage {page number : Nat} (hpage : r.followerOf page = some number) :
    r.take mood (.detachPage page) =
      { r.quit number with
        leaves := r.leaves.modify page fun leaf => { leaf with follower := none } } := by
  rw [take, hpage]

/-- A page whose log is detached has no follower, and nobody else loses one. -/
theorem detachPage (h : Mirrored r) (mood : Mood) (page : Nat) :
    Mirrored (r.take mood (.detachPage page)) := by
  cases hpage : r.followerOf page with
  | none =>
    rw [take, hpage]
    exact h
  | some number =>
    -- The page itself has no follower any more, and the other pages are as they were.
    have hleaf : ∀ (other found : Nat) (leaf : Leaf),
        (r.take mood (.detachPage page)).leaves[other]? = some leaf → leaf.follower = some found →
        r.leaves[other]? = some leaf := by
      intro other found leaf hleaf hfound
      rw [take_detachPage hpage] at hleaf
      rcases eq_or_ne page other with rfl | hne
      · rw [List.getElem?_modify_eq] at hleaf
        obtain ⟨old, -, rfl⟩ := Option.map_eq_some_iff.mp hleaf
        cases hfound
      · exact (List.getElem?_modify_ne _ _ hne).symm.trans hleaf
    constructor
    case owned =>
      intro other found hother
      obtain ⟨leaf, hother, hfound⟩ := Option.bind_eq_some_iff.mp hother
      have howned := h.owned other found
        ((followerOf_eq (hleaf other found leaf hother hfound)).trans hfound)
      rwa [take_detachPage hpage]
    case rendered =>
      intro found other hreader
      rw [take_detachPage hpage] at hreader ⊢
      obtain ⟨hreader, hne⟩ := List.mem_filter.mp hreader
      have hfound := h.rendered found other hreader
      -- The observer of this page is the one that quits.
      have hother : page ≠ other := by
        rintro rfl
        rw [Option.some.inj (hpage.symm.trans hfound)] at hne
        simp at hne
      rw [← hfound]
      exact congrArg (·.bind Leaf.follower) (List.getElem?_modify_ne _ _ hother)
    case shows =>
      intro other leaf found hother hfound
      have hshows := h.shows other leaf found (hleaf other found leaf hother hfound) hfound
      rwa [take_detachPage hpage]
    case retains =>
      rw [take_detachPage hpage]
      exact h.retains

/-! ### Readings -/

theorem followerOf_read (mood : Mood) (reader : Nat × Watcher Nat) (page : Nat) :
    (r.read mood reader).1.followerOf page = r.followerOf page := by
  unfold read hear
  split_ifs
  · rfl
  · cases reader.2 with
    | log other => exact followerOf_render other page
    | _ => rfl

theorem follower_poll_of_ne {polled number : Nat} (h : polled ≠ number) :
    (r.poll polled).follower number = r.follower number := by
  rw [follower, poll, List.getElem?_set_ne h]
  rfl

/-- A poll that gives nothing leaves the buffers alone. -/
theorem buffer_poll_of_empty {polled : Nat} (h : (r.textFor polled).isEmpty) (number : Nat) :
    ((r.poll polled).follower number).buffer = (r.follower number).buffer := by
  rcases eq_or_ne polled number with rfl | hne
  · rw [follower, poll, List.getElem?_set_self']
    unfold textFor follower at h
    unfold follower
    cases hfound : r.followers[polled]? with
    | none => rfl
    | some old =>
      rw [hfound] at h
      exact if_pos h
  · rw [follower_poll_of_ne hne]

/-- A page shows the buffer of its follower after any reading. -/
theorem shows_read (h : Mirrored r) (horderly : Orderly r capacity) {reader : Nat × Watcher Nat}
    (hreader : reader ∈ r.readers) {page number : Nat} {leaf : Leaf}
    (hleaf : (r.read mood reader).1.leaves[page]? = some leaf)
    (hnumber : leaf.follower = some number) :
    leaf.Shows ((r.read mood reader).1.follower number).buffer := by
  have hfollower : (r.read mood reader).1.follower number = (r.poll reader.1).follower number := by
    rw [follower, followers_read]
    rfl
  have hpage : r.followerOf page = some number := by
    rw [← followerOf_read mood reader, followerOf_eq hleaf, hnumber]
  have howned := h.owned page number hpage
  have hreads := horderly.owned reader hreader
  -- A page that is not told anything has another follower.
  have hother : reader.2 ≠ .log page → r.leaves[page]? = some leaf →
      leaf.Shows ((r.poll reader.1).follower number).buffer := by
    intro hwatcher hold
    have hne : reader.1 ≠ number := by
      rintro rfl
      exact hwatcher (Option.some.inj (hreads.symm.trans howned))
    rw [follower_poll_of_ne hne]
    exact h.shows page leaf number hold hnumber
  rw [hfollower]
  by_cases hempty : (r.textFor reader.1).isEmpty
  · rw [read, if_pos hempty] at hleaf
    rw [buffer_poll_of_empty hempty]
    exact h.shows page leaf number hleaf hnumber
  · rw [read, if_neg hempty] at hleaf
    rcases reader with ⟨polled, watcher⟩
    cases watcher with
    | network other => exact hother (by simp) hleaf
    | guest guest => exact hother (by simp) hleaf
    | log other =>
      change ((r.poll polled).render other).leaves[page]? = some leaf at hleaf
      -- The page that is told the text is the one whose follower was polled.
      rcases eq_or_ne other page with rfl | hne
      · have hrendered := h.rendered polled other hreader
        obtain rfl : polled = number := Option.some.inj (hrendered.symm.trans hpage)
        exact shows_render hrendered hleaf
      · rw [leaves_render_of_ne hne] at hleaf
        exact hother (fun heq => hne (Watcher.log.inj heq)) hleaf

/-- **What a reading keeps.** -/
theorem read (h : Mirrored r) (horderly : Orderly r capacity) (mood : Mood)
    {reader : Nat × Watcher Nat} (hreader : reader ∈ r.readers) {lines : List String}
    {later : List (Nat × List String)}
    (hexpected : r.book.expected = (reader.1, lines) :: later) :
    Mirrored (r.read mood reader).1 where
  owned page number hpage := by
    rw [followerOf_read] at hpage
    rw [book_read, book_poll hexpected]
    exact h.owned page number hpage
  rendered number page hpage := by
    rw [readers_read] at hpage
    rw [followerOf_read]
    exact h.rendered number page hpage
  shows _ _ _ hleaf hnumber := h.shows_read horderly hreader hleaf hnumber
  retains := by
    rw [horderly.audience_read mood hreader hexpected, history_read mood hexpected]
    exact (h.write lines).retains.poll (horderly.write lines).sound reader.1

/-- **What a turn keeps.** -/
theorem take (h : Mirrored r) (horderly : Orderly r capacity) (mood : Mood) (turn : Turn) :
    Mirrored (r.take mood turn) := by
  cases turn with
  | write lines => exact h.write lines
  | attach maxLines => exact h.join horderly r.followers.length maxLines
  | detach number => exact h.quit number
  | build => exact h.build horderly mood
  | detachPage page => exact h.detachPage mood page
  | tick during =>
    have hexpect : Orderly (r.expect during) capacity ∧ Mirrored (r.expect during) :=
      ⟨horderly.expect during, h.owned, h.rendered, h.shows, h.retains⟩
    refine (tick_keeps (P := fun r => Orderly r capacity ∧ Mirrored r) ?_ hexpect).2
    intro r reader lines later hr hreader hexpected
    exact ⟨hr.1.read mood hreader hexpected, hr.2.read hr.1 mood hreader hexpected⟩

theorem foldl_take (h : Mirrored r) (horderly : Orderly r capacity) (mood : Mood)
    (turns : List Turn) : Mirrored (turns.foldl (Readership.take mood) r) := by
  induction turns generalizing r with
  | nil => exact h
  | cons turn turns ih => exact ih (h.take horderly mood turn) (horderly.take mood turn)

theorem after (outer : Surroundings ε) (mood : Mood) (premises : Premises Nat (Hearing ε))
    (server : ChildServer) (capacity : Nat) (room : 0 < capacity) (turns : List Turn) :
    Mirrored (of (Readership.after outer mood (Readership.opened premises server capacity room)
      turns)) := by
  rw [of_after]
  exact (opened premises server capacity room).foldl_take
    (.opened premises server capacity room) mood turns

end Mirrored

/-! ## Pages at any time -/

section Premises

variable {premises : Premises Nat (Hearing ε)} {page : Nat} {found : Page}

theorem leaf_of (hfound : (pagesOf premises)[page]? = some found) :
    (of premises).leaves[page]? = some found.leaf := by
  rw [leaves_of, hfound, Option.map_some]

/-- A page shows what its follower retains. -/
theorem Mirrored.shown (h : Mirrored (of premises)) (horderly : Orderly (of premises) capacity)
    (hfound : (pagesOf premises)[page]? = some found) {number : Nat}
    (hnumber : found.follower = some number) :
    ∃ follower, premises.world.followers[number]? = some follower ∧
      found.logText = follower.buffer.text ∧
      found.countLabel = toString (found.logText.toList.count '\n') ++ " lines" ∧
      found.logText.length ≤ 60000 ∧
      ((∀ line ∈ (bookOf premises).history, IsLine line) →
        ∃ dropped kept, (∀ line ∈ dropped ++ kept, line ∈ (bookOf premises).history) ∧
          String.join (((bookOf premises).pollsOf number).map Poll.text) =
            Text.joinLines (dropped ++ kept) ∧
          found.logText = Text.joinLines kept) := by
  have hleaf := leaf_of hfound
  have howned := h.owned page number ((followerOf_eq hleaf).trans hnumber)
  have hfollower := getElem?_follower (horderly.lt_of_owned howned)
  obtain ⟨htext, hcount⟩ := h.shows page found.leaf number hleaf hnumber
  obtain ⟨hbound, hholds⟩ := h.retains number _ hfollower
  rw [followers_of] at hfollower
  generalize (of premises).follower number = follower at *
  change found.logText = follower.buffer.text at htext
  change found.lineCount = follower.buffer.lineCount at hcount
  refine ⟨follower, hfollower, htext, ?_, ?_, ?_⟩
  · rw [Page.countLabel, hcount, Buffer.lineCount_eq, htext]
    rfl
  · rw [htext]
    exact hholds.length_le.trans hbound.le
  · rw [htext]
    exact hholds.lines

/-- A page shows what it did when its log was detached. -/
theorem detached_after (outer : Surroundings ε) (mood : Mood)
    (hfound : (pagesOf premises)[page]? = some found) (hnone : found.follower = none)
    (more : List Turn) :
    ∃ later, (pagesOf (after outer mood premises more))[page]? = some later ∧
      later.leaf = found.leaf := by
  have hlater := detached_foldl_take mood (leaf_of hfound) hnone more
  rw [← of_after outer, leaves_of] at hlater
  exact Option.map_eq_some_iff.mp hlater

end Premises

/-- **Every page shows what its follower retains**: whatever is written, whoever joins and quits,
and whichever guests fail. It shows the number of lines in the same text, which has no more than
60000 characters and is the end of what the follower was given, from the beginning of a line on.
What a page shows whose log is detached stays. -/
theorem pages_show_retained (outer : Surroundings ε) (mood : Mood)
    (premises : Premises Nat (Hearing ε)) (server : ChildServer) (capacity : Nat)
    (room : 0 < capacity) (turns : List Turn) :
    let current := after outer mood (opened premises server capacity room) turns
    let book := bookOf current
    ∀ (page : Nat) (found : Page), (pagesOf current)[page]? = some found →
      (∀ number, found.follower = some number →
        ∃ follower, current.world.followers[number]? = some follower ∧
          found.logText = follower.buffer.text ∧
          found.countLabel = toString (found.logText.toList.count '\n') ++ " lines" ∧
          found.logText.length ≤ 60000 ∧
          ((∀ line ∈ book.history, IsLine line) →
            ∃ dropped kept, (∀ line ∈ dropped ++ kept, line ∈ book.history) ∧
              String.join ((book.pollsOf number).map Poll.text) =
                Text.joinLines (dropped ++ kept) ∧
              found.logText = Text.joinLines kept)) ∧
      (found.follower = none → ∀ more, ∃ later : Page,
        (pagesOf (after outer mood current more))[page]? = some later ∧
        later.logText = found.logText ∧ later.countLabel = found.countLabel) := by
  intro current book page found hfound
  have horderly : Orderly (of current) capacity :=
    .after outer mood premises server capacity room turns
  have hmirrored : Mirrored (of current) :=
    .after outer mood premises server capacity room turns
  refine ⟨fun number hnumber => hmirrored.shown horderly hfound hnumber, fun hnone more => ?_⟩
  obtain ⟨later, hlater, hsame⟩ := detached_after outer mood hfound hnone more
  have hcount : later.lineCount = found.lineCount := congrArg Leaf.lineCount hsame
  refine ⟨later, hlater, congrArg Leaf.logText hsame, ?_⟩
  rw [Page.countLabel, Page.countLabel, hcount]

/-- A guest that fails and two pages read a log of two lines, and the log of the first page is
detached. -/
def visits : List Turn :=
  [.build, .attach 1, .build, .write ["a"], .tick fun _ => [], .tick fun _ => [], .detachPage 0,
    .write ["b", "c", "d"], .tick fun _ => [], .tick fun _ => [], .tick fun _ => []]

/-- The second page shows all lines that were not overwritten, and the first page what it showed
before. -/
theorem pages_show_retained_visits :
    0 < 2 ∧
      let current := after still touchy (opened bare default 2 (by decide)) visits
      (∃ shown : Page, (pagesOf current)[1]? = some shown ∧ shown.follower = some 2 ∧
        (∀ line ∈ (bookOf current).history, IsLine line) ∧ shown.countLabel = "3 lines" ∧
        ∃ dropped kept, String.join (((bookOf current).pollsOf 2).map Poll.text) =
          Text.joinLines (dropped ++ kept) ∧ "a\nc\nd\n" = Text.joinLines kept) ∧
      ∃ left : Page, (pagesOf current)[0]? = some left ∧ left.follower = none ∧
        ∃ later : Page, (pagesOf (after still touchy current [.write ["e"], .tick fun _ => []]))[0]? =
          some later ∧ later.logText = "a\n" := by
  refine ⟨by decide, ?_⟩
  have hpages : (pagesOf (after still touchy (opened bare default 2 (by decide)) visits)).map
      (fun page => (page.follower, page.logText)) =
        #[(none, "a\n"), (some 2, "a\nc\nd\n")] := by
    decide +kernel
  have hlines : ∀ line ∈
      (bookOf (after still touchy (opened bare default 2 (by decide)) visits)).history,
      IsLine line := by
    decide +kernel
  have hretained := pages_show_retained still touchy bare default 2 (by decide) visits
  generalize after still touchy (opened bare default 2 (by decide)) visits = current at *
  obtain ⟨shown, hshown, hsecond⟩ := Option.map_eq_some_iff.mp
    ((Array.getElem?_map ..).symm.trans (congrArg (·[1]?) hpages))
  obtain ⟨left, hleft, hfirst⟩ := Option.map_eq_some_iff.mp
    ((Array.getElem?_map ..).symm.trans (congrArg (·[0]?) hpages))
  obtain ⟨hfollower, htext⟩ := Prod.mk.inj hsecond
  obtain ⟨hnone, hstays⟩ := Prod.mk.inj hfirst
  constructor
  · obtain ⟨-, -, -, hcount, -, hkept⟩ := (hretained 1 shown hshown).1 2 hfollower
    rw [htext] at hcount hkept
    obtain ⟨dropped, kept, -, hgiven, hshows⟩ := hkept hlines
    exact ⟨shown, hshown, hfollower, hlines, hcount, dropped, kept, hgiven, hshows⟩
  · obtain ⟨later, hlater, hsame, -⟩ := (hretained 0 left hleft).2 hnone
      [.write ["e"], .tick fun _ => []]
    exact ⟨left, hleft, hnone, later, hlater, hsame.trans hstays⟩

end Readership

end Warden
