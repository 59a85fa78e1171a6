import Warden.Proofs.Readership.Acts

/-!
# Delivery of the log to guests

Guests share the ticks of one poller. A tick polls one follower after the other, and each guest is
told what its follower was given before the next follower is polled. A guest that fails ends the
tick: the followers of the guests after it are not polled, so that they are as far behind as they
were, and the text of the guest that failed was told to it before it failed. What a follower was
given and what its guest was told thus agree at any time.

## Main definitions

* `audience`: the server with the followers of its log
* `heard`: what is told to whom when somebody is given a text
* `Orderly`: each guest was told what its follower was given
* `Fails`: a guest fails when it is told something
* `IsAhead`: a follower after a poll

## Main results

* `tick_keeps`: a tick keeps what each reading keeps
* `Orderly.read`, `Orderly.take`: what a reading and a turn keep
* `readAll_told`: which followers a tick leaves alone that a guest ends
* `readAll_polls`: which followers a tick polls
* `guests_hear_their_followers`: every guest is told every line that its follower was given
-/

namespace Warden.Readership

open Warden.Server (ChildServer)
open Warden.ServerLog

variable {ε : Type} {r : Readership} {capacity : Nat}

/-- The server with the followers of its log, and what their polls came to. -/
def audience (r : Readership) : Audience :=
  ⟨r.book.server, r.followers, r.book.polls⟩

/-- What matters after a number of turns. -/
theorem of_after (outer : Surroundings ε) (mood : Mood) (premises : Premises Nat (Hearing ε))
    (turns : List Turn) :
    of (after outer mood premises turns) = turns.foldl (take mood) (of premises) := by
  induction turns generalizing premises with
  | nil => rfl
  | cons turn turns ih =>
    rw [after, List.foldl_cons, List.foldl_cons, ← of_act]
    exact ih _

/-! ## Readings -/

theorem getElem?_follower {number : Nat} (h : number < r.followers.length) :
    r.followers[number]? = some (r.follower number) := by
  rw [follower, List.getElem?_eq_getElem h, Option.getD_some]

/-- What is told to whom, when somebody is given a text. -/
def heard (text : String) : Watcher Nat → List (Nat × String)
  | .guest number => if text.isEmpty then [] else [(number, text)]
  | _ => []

theorem mem_heard {text : String} {watcher : Watcher Nat} {entry : Nat × String}
    (h : entry ∈ heard text watcher) : watcher = .guest entry.1 := by
  unfold heard at h
  cases watcher with
  | guest number =>
    split_ifs at h
    · cases h
    · rw [List.mem_singleton.mp h]
  | _ => cases h

theorem heard_cases (text : String) (watcher : Watcher Nat) :
    heard text watcher = [] ∨ ∃ number, watcher = .guest number ∧
      heard text watcher = [(number, text)] := by
  unfold heard
  cases watcher with
  | guest number => split_ifs <;> simp
  | _ => exact .inl rfl

/-- A guest is told a text, unless it is empty. -/
theorem texts_heard_guest (text : String) (number : Nat) :
    ((heard text (.guest number)).filter (·.1 == number)).map (·.2) =
      [text].filter (!·.isEmpty) := by
  unfold heard
  split_ifs with hempty <;> simp [hempty]

section Read

variable (mood : Mood) (reader : Nat × Watcher Nat)

@[simp] theorem book_render (page : Nat) : (r.render page).book = r.book := by
  unfold render
  split <;> rfl

@[simp] theorem followers_render (page : Nat) : (r.render page).followers = r.followers := by
  unfold render
  split <;> rfl

@[simp] theorem readers_render (page : Nat) : (r.render page).readers = r.readers := by
  unfold render
  split <;> rfl

theorem followers_read : (r.read mood reader).1.followers = (r.poll reader.1).followers := by
  unfold read hear
  split
  · rfl
  · cases reader.2 <;> simp

theorem readers_read : (r.read mood reader).1.readers = r.readers := by
  unfold read hear
  split
  · rfl
  · cases reader.2 <;> simp [poll]

theorem arrive_eq {number : Nat} {lines : List String} {later : List (Nat × List String)}
    (hexpected : r.book.expected = (number, lines) :: later) :
    r.book.arrive = { r.book.write lines with expected := later } := by
  rw [Book.arrive, hexpected]

/-- A poll is entered in the book, after the lines that are written before. -/
theorem book_poll {number : Nat} {lines : List String} {later : List (Nat × List String)}
    (hexpected : r.book.expected = (number, lines) :: later) :
    (r.poll number).book = { r.book.write lines with
      expected := later
      polls := r.book.polls ++ [⟨number, (r.book.write lines).server.ring.total,
        (r.follower number).cursor.next, r.textFor number⟩] } := by
  rw [poll, arrive_eq hexpected, hexpected]
  rfl

theorem told_poll (number : Nat) : (r.poll number).book.told = r.book.told := by
  unfold poll Book.enter Book.arrive
  cases r.book.expected <;> rfl

theorem book_read : (r.read mood reader).1.book =
    { (r.poll reader.1).book with told := r.book.told ++ heard (r.textFor reader.1) reader.2 } := by
  rw [← told_poll reader.1]
  unfold read hear heard
  split_ifs with hempty
  · cases reader.2 <;> simp only [List.append_nil]
  · cases reader.2 with
    | guest number => rfl
    | _ => simp only [List.append_nil, book_render]

variable {mood reader} in
theorem readAll_of_none (h : (r.read mood reader).2 = none) (later : List (Nat × Watcher Nat)) :
    r.readAll mood (reader :: later) = (r.read mood reader).1.readAll mood later := by
  rw [readAll]
  generalize r.read mood reader = result at h ⊢
  obtain ⟨after, rfl⟩ : ∃ after, result = (after, none) := ⟨result.1, Prod.ext rfl h⟩
  rfl

variable {mood reader} in
theorem readAll_of_some {failure : Failure} (h : (r.read mood reader).2 = some failure)
    (later : List (Nat × Watcher Nat)) :
    (r.readAll mood (reader :: later)).1 = (r.read mood reader).1 ∧
      (r.readAll mood (reader :: later)).2 = some failure := by
  rw [readAll]
  generalize r.read mood reader = result at h ⊢
  obtain ⟨after, rfl⟩ : ∃ after, result = (after, some failure) := ⟨result.1, Prod.ext rfl h⟩
  exact ⟨rfl, rfl⟩

variable {reader} in
theorem history_read {lines : List String} {later : List (Nat × List String)}
    (hexpected : r.book.expected = (reader.1, lines) :: later) :
    (r.read mood reader).1.book.history = r.book.history ++ lines := by
  rw [book_read, book_poll hexpected]
  rfl

/-- A reader fails as a guest does that is told something. -/
theorem outcome_read : (r.read mood reader).2 =
    (heard (r.textFor reader.1) reader.2).head?.bind fun entry =>
      mood r.book.told entry.1 entry.2 := by
  unfold read hear heard
  split_ifs with hempty
  · cases reader.2 <;> rfl
  · cases reader.2 with
    | guest number =>
      rw [told_poll]
      rfl
    | _ => rfl

end Read

/-- A tick keeps what each reading keeps, which finds the lines that are written before it. -/
theorem tick_keeps {P : Readership → Prop} {mood : Mood} {during : Nat → List String}
    (hread : ∀ (r : Readership) (reader : Nat × Watcher Nat) (lines : List String)
      (later : List (Nat × List String)), P r → reader ∈ r.readers →
      r.book.expected = (reader.1, lines) :: later → P (r.read mood reader).1)
    (h : P (r.expect during)) : P (r.take mood (.tick during)) := by
  -- The readers that are left are those that lines are expected for.
  have hall : ∀ (readers : List (Nat × Watcher Nat)) (r : Readership), P r →
      (∀ reader ∈ readers, reader ∈ r.readers) →
      r.book.expected.map Prod.fst = readers.map Prod.fst → P (r.readAll mood readers).1 := by
    intro readers
    induction readers with
    | nil => exact fun r h _ _ => h
    | cons reader later ih =>
      intro r h hreaders hexpected
      obtain ⟨⟨number, lines⟩, expected, hbook, rfl, hlater⟩ := List.map_eq_cons_iff.mp hexpected
      have hfirst := hread r reader lines expected h (hreaders reader List.mem_cons_self) hbook
      cases houtcome : (r.read mood reader).2 with
      | some failure => rwa [(readAll_of_some houtcome later).1]
      | none =>
        rw [readAll_of_none houtcome]
        refine ih _ hfirst (fun other hother => ?_) ?_
        · rw [readers_read]
          exact hreaders other (List.mem_cons_of_mem _ hother)
        · rw [book_read, book_poll hbook]
          exact hlater
  refine hall r.readers (r.expect during) h (fun _ hreader => hreader) ?_
  rw [expect, List.map_map]
  rfl

/-! ## Orderly readerships -/

/-- The followers of a ring of a capacity belong to different observers, and each guest was told
what its follower was given. -/
structure Orderly (r : Readership) (capacity : Nat) : Prop where
  sound : r.audience.Sound r.book.history capacity
  owners_length : r.book.owners.length = r.followers.length
  owned : ∀ reader ∈ r.readers, r.book.owners[reader.1]? = some reader.2
  /-- A guest is called by the number of its follower. -/
  numbered : ∀ number guest : Nat, r.book.owners[number]? = some (.guest guest) → guest = number
  distinct : r.readers.Pairwise (·.1 ≠ ·.1)
  told_lt : ∀ entry ∈ r.book.told, entry.1 < r.followers.length
  told : ∀ number : Nat, r.book.owners[number]? = some (.guest number) →
    r.book.textsOf number = ((r.book.pollsOf number).map Poll.text).filter (!·.isEmpty)

theorem sound_writeAll {audience : Audience} {history : List String}
    (sound : audience.Sound history capacity) (lines : List String) :
    Audience.Sound { audience with
      server := { audience.server with ring := audience.server.ring.appendAll lines } }
      (history ++ lines) capacity := by
  induction lines generalizing audience history with
  | nil => rwa [List.append_nil]
  | cons line lines ih =>
    rw [List.append_cons]
    exact ih (sound.write line)

namespace Orderly

theorem lt_of_owned (h : Orderly r capacity) {number : Nat} {watcher : Watcher Nat}
    (howned : r.book.owners[number]? = some watcher) : number < r.followers.length := by
  rw [← h.owners_length]
  exact (List.getElem?_eq_some_iff.mp howned).1

theorem lt_of_mem (h : Orderly r capacity) {reader : Nat × Watcher Nat}
    (hreader : reader ∈ r.readers) : reader.1 < r.followers.length :=
  h.lt_of_owned (h.owned reader hreader)

theorem write (h : Orderly r capacity) (lines : List String) :
    Orderly { r with book := r.book.write lines } capacity where
  sound := sound_writeAll h.sound lines
  owners_length := h.owners_length
  owned := h.owned
  numbered := h.numbered
  distinct := h.distinct
  told_lt := h.told_lt
  told := h.told

theorem quit (h : Orderly r capacity) (number : Nat) : Orderly (r.quit number) capacity where
  sound := h.sound
  owners_length := h.owners_length
  owned reader hreader := h.owned reader (List.mem_of_mem_filter hreader)
  numbered := h.numbered
  distinct := h.distinct.filter _
  told_lt := h.told_lt
  told := h.told

/-- Somebody that joins has the next follower, and the others keep theirs. -/
theorem owner_join (h : Orderly r capacity) {watcher found : Watcher Nat} {maxLines : Int}
    {number : Nat} (hfound : (r.join watcher maxLines).book.owners[number]? = some found) :
    r.book.owners[number]? = some found ∨ number = r.followers.length ∧ found = watcher := by
  have hlength := h.owners_length
  rcases Nat.lt_or_ge number r.book.owners.length with hlt | hge
  · exact .inl ((List.getElem?_append_left hlt).symm.trans hfound)
  · have hnew := (List.getElem?_append_right hge).symm.trans hfound
    rw [List.getElem?_singleton] at hnew
    split_ifs at hnew
    exact .inr ⟨by omega, (Option.some.inj hnew).symm⟩

/-- Somebody that joins was told nothing. -/
theorem join (h : Orderly r capacity) {watcher : Watcher Nat}
    (hguest : ∀ guest, watcher = .guest guest → guest = r.followers.length) (maxLines : Int) :
    Orderly (r.join watcher maxLines) capacity := by
  have hlength := h.owners_length
  constructor
  case sound => exact h.sound.join maxLines default
  case owners_length =>
    simp [Readership.join, hlength]
  case owned =>
    intro reader hreader
    rcases List.mem_append.mp hreader with hreader | hnew
    · have hlt := h.lt_of_mem hreader
      rw [← hlength] at hlt
      exact (List.getElem?_append_left hlt).trans (h.owned reader hreader)
    · obtain rfl := List.mem_singleton.mp hnew
      simp [Readership.join, ← hlength]
  case numbered =>
    intro number guest hfound
    rcases h.owner_join hfound with hfound | ⟨rfl, hwatcher⟩
    · exact h.numbered number guest hfound
    · exact hguest guest hwatcher.symm
  case distinct =>
    refine List.pairwise_append.mpr ⟨h.distinct, List.pairwise_singleton _ _, ?_⟩
    intro reader hreader new hnew
    obtain rfl := List.mem_singleton.mp hnew
    exact (h.lt_of_mem hreader).ne
  case told_lt =>
    intro entry hentry
    exact (h.told_lt entry hentry).trans_le (by simp [Readership.join])
  case told =>
    intro number hfound
    rcases h.owner_join hfound with hfound | ⟨rfl, -⟩
    · exact h.told number hfound
    · -- Numbers are given once, so nothing was polled or told under the new one.
      have hpolls : r.book.pollsOf r.followers.length = [] :=
        List.filter_eq_nil_iff.mpr fun poll hpoll =>
          mt beq_iff_eq.mp (h.sound.polled poll hpoll).ne
      have htexts : r.book.textsOf r.followers.length = [] := by
        rw [Book.textsOf, List.filter_eq_nil_iff.mpr, List.map_nil]
        intro entry hentry
        simpa using (h.told_lt entry hentry).ne
      change r.book.textsOf _ = ((r.book.pollsOf _).map Poll.text).filter _
      rw [hpolls, htexts]
      rfl

/-- What a poll does to a server and its followers, after the lines were written that come
before. -/
theorem audience_poll (h : Orderly r capacity) {reader : Nat × Watcher Nat}
    (hreader : reader ∈ r.readers) {lines : List String} {later : List (Nat × List String)}
    (hexpected : r.book.expected = (reader.1, lines) :: later) :
    (r.poll reader.1).audience =
      Audience.poll (audience { r with book := r.book.write lines }) reader.1 := by
  have hfound := getElem?_follower (h.lt_of_mem hreader)
  have hsound := (h.write lines).sound
  have hle : (r.follower reader.1).cursor.next ≤ (r.book.write lines).server.ring.total :=
    hsound.records.total_eq ▸ hsound.cursor_le reader.1 _ hfound
  rw [hsound.poll_eq hfound, audience, book_poll hexpected, poll, arrive_eq hexpected]
  simp only [Follower.reading_eq hle, textFor, arrive_eq hexpected]
  rfl

theorem audience_read (h : Orderly r capacity) (mood : Mood) {reader : Nat × Watcher Nat}
    (hreader : reader ∈ r.readers) {lines : List String} {later : List (Nat × List String)}
    (hexpected : r.book.expected = (reader.1, lines) :: later) :
    (r.read mood reader).1.audience =
      Audience.poll (audience { r with book := r.book.write lines }) reader.1 := by
  rw [← h.audience_poll hreader hexpected, audience, followers_read, book_read]
  rfl

/-- A guest that a poll is for is told its text, unless that is empty, and no other guest is. -/
theorem texts_heard (h : Orderly r capacity) {reader : Nat × Watcher Nat}
    (hreader : reader ∈ r.readers) {number : Nat}
    (hnumber : r.book.owners[number]? = some (.guest number)) (poll : Poll)
    (hpoll : poll.follower = reader.1) :
    ((heard poll.text reader.2).filter (·.1 == number)).map (·.2) =
      (([poll].filter (·.follower == number)).map Poll.text).filter (!·.isEmpty) := by
  have howned := h.owned reader hreader
  by_cases hown : reader.1 = number
  · subst hown
    have hguest : reader.2 = .guest reader.1 := Option.some.inj (howned.symm.trans hnumber)
    rw [hguest, texts_heard_guest]
    simp [hpoll]
  · have hnone : ∀ entry ∈ heard poll.text reader.2, ¬entry.1 == number := by
      intro entry hentry heq
      rw [mem_heard hentry] at howned
      exact hown ((h.numbered reader.1 entry.1 howned).symm.trans (beq_iff_eq.mp heq))
    rw [List.filter_eq_nil_iff.mpr hnone]
    simp [hpoll, hown]

/-- **What a reading keeps.** -/
theorem read (h : Orderly r capacity) (mood : Mood) {reader : Nat × Watcher Nat}
    (hreader : reader ∈ r.readers) {lines : List String} {later : List (Nat × List String)}
    (hexpected : r.book.expected = (reader.1, lines) :: later) :
    Orderly (r.read mood reader).1 capacity := by
  have hbook : (r.read mood reader).1.book = { (r.poll reader.1).book with
      told := r.book.told ++ heard (r.textFor reader.1) reader.2 } := book_read ..
  have howned := h.owned reader hreader
  have hpolls := book_poll hexpected
  have hlength : (r.poll reader.1).followers.length = r.followers.length := List.length_set
  constructor
  case sound =>
    rw [h.audience_read mood hreader hexpected, history_read mood hexpected]
    exact (h.write lines).sound.poll reader.1
  case owners_length =>
    rw [followers_read, hbook, hpolls, hlength]
    exact h.owners_length
  case owned =>
    rw [readers_read, hbook, hpolls]
    exact h.owned
  case numbered =>
    rw [hbook, hpolls]
    exact h.numbered
  case distinct =>
    rw [readers_read]
    exact h.distinct
  case told_lt =>
    intro entry hentry
    rw [followers_read, hlength]
    rw [hbook] at hentry
    rcases List.mem_append.mp hentry with hold | hnew
    · exact h.told_lt entry hold
    · rw [mem_heard hnew] at howned
      rw [h.numbered reader.1 entry.1 howned]
      exact h.lt_of_mem hreader
  case told =>
    intro number hnumber
    rw [hbook, hpolls] at hnumber ⊢
    -- The poll and what is told of it are added at the ends of the two lists.
    have htold := h.told number hnumber
    rw [Book.textsOf, Book.pollsOf] at htold ⊢
    simp only [List.filter_append, List.map_append, htold]
    exact congrArg _ (h.texts_heard hreader hnumber ⟨reader.1, _, _, _⟩ rfl)

theorem expect (h : Orderly r capacity) (during : Nat → List String) :
    Orderly (r.expect during) capacity :=
  ⟨h.sound, h.owners_length, h.owned, h.numbered, h.distinct, h.told_lt, h.told⟩

/-- What pages show does not matter to guests. -/
theorem withLeaves (h : Orderly r capacity) (leaves : List Leaf) :
    Orderly { r with leaves } capacity :=
  ⟨h.sound, h.owners_length, h.owned, h.numbered, h.distinct, h.told_lt, h.told⟩

/-- **What a turn keeps.** -/
theorem take (h : Orderly r capacity) (mood : Mood) (turn : Turn) :
    Orderly (r.take mood turn) capacity := by
  cases turn with
  | write lines => exact h.write lines
  | attach maxLines => exact h.join (fun guest hguest => (Watcher.guest.inj hguest).symm) maxLines
  | detach number => exact h.quit number
  | build =>
    have hpage : ∀ guest, Watcher.log r.leaves.length = .guest guest → guest = r.followers.length :=
      nofun
    exact (h.join hpage defaultLines).withLeaves _
  | detachPage page =>
    rw [Readership.take]
    cases r.followerOf page with
    | none => exact h
    | some number => exact (h.quit number).withLeaves _
  | tick during =>
    refine tick_keeps (P := (Orderly · capacity)) ?_ (h.expect during)
    intro r reader lines later h hreader hexpected
    exact h.read mood hreader hexpected

theorem opened (premises : Premises Nat (Hearing ε)) (server : ChildServer) (capacity : Nat)
    (room : 0 < capacity) : Orderly (of (opened premises server capacity room)) capacity where
  sound := Audience.sound_ofServer server capacity room
  owners_length := rfl
  owned _ hreader := nomatch hreader
  numbered _ _ hnumber := nomatch hnumber
  distinct := .nil
  told_lt _ hentry := nomatch hentry
  told _ hnumber := nomatch hnumber

theorem foldl_take (h : Orderly r capacity) (mood : Mood) (turns : List Turn) :
    Orderly (turns.foldl (Readership.take mood) r) capacity := by
  induction turns generalizing r with
  | nil => exact h
  | cons turn turns ih => exact ih (h.take mood turn)

theorem after (outer : Surroundings ε) (mood : Mood) (premises : Premises Nat (Hearing ε))
    (server : ChildServer) (capacity : Nat) (room : 0 < capacity) (turns : List Turn) :
    Orderly (of (Readership.after outer mood (Readership.opened premises server capacity room)
      turns)) capacity := by
  rw [of_after]
  exact (opened premises server capacity room).foldl_take mood turns

end Orderly

/-! ## Ticks that guests end -/

variable {mood : Mood}

theorem told_read (reader : Nat × Watcher Nat) : (r.read mood reader).1.book.told =
    r.book.told ++ heard (r.textFor reader.1) reader.2 := by
  rw [book_read]

/-- A tick adds to what was told. -/
theorem exists_told_readAll (mood : Mood) (readers : List (Nat × Watcher Nat)) (r : Readership) :
    ∃ new, (r.readAll mood readers).1.book.told = r.book.told ++ new := by
  induction readers generalizing r with
  | nil => exact ⟨[], (List.append_nil _).symm⟩
  | cons reader later ih =>
    cases houtcome : (r.read mood reader).2 with
    | some failure =>
      rw [(readAll_of_some houtcome later).1]
      exact ⟨_, told_read reader⟩
    | none =>
      rw [readAll_of_none houtcome]
      obtain ⟨new, hnew⟩ := ih (r.read mood reader).1
      refine ⟨heard (r.textFor reader.1) reader.2 ++ new, ?_⟩
      rw [← List.append_assoc, ← told_read, ← hnew]

theorem followers_read_of_ne {reader : Nat × Watcher Nat} {number : Nat} (h : reader.1 ≠ number) :
    (r.read mood reader).1.followers[number]? = r.followers[number]? := by
  rw [followers_read, poll, List.getElem?_set_ne h]

/-- A guest fails when it is told something between two moments. -/
def Fails (mood : Mood) (told after : List (Nat × String)) (number : Nat) (failure : Failure) :
    Prop :=
  ∃ new text rest, after = told ++ new ++ (number, text) :: rest ∧
    mood (told ++ new) number text = some failure

section Failing

variable {reader : Nat × Watcher Nat} {new rest : List (Nat × String)} {number : Nat} {text : String}
  {failure : Failure}

/-- A reader that fails is a guest that was told something. -/
theorem heard_of_fails (h : (r.read mood reader).2 = some failure) :
    ∃ guest, reader.2 = .guest guest ∧
      heard (r.textFor reader.1) reader.2 = [(guest, r.textFor reader.1)] ∧
      mood r.book.told guest (r.textFor reader.1) = some failure := by
  rw [outcome_read] at h
  rcases heard_cases (r.textFor reader.1) reader.2 with hnone | ⟨guest, hguest, hone⟩
  · rw [hnone] at h
    cases h
  · rw [hone] at h
    exact ⟨guest, hguest, hone, h⟩

/-- What a reader is told that goes on comes before what a guest is told that fails. -/
theorem exists_heard_append (h : (r.read mood reader).2 = none) {more : List (Nat × String)}
    (htold : heard (r.textFor reader.1) reader.2 ++ more = new ++ (number, text) :: rest)
    (hfails : mood (r.book.told ++ new) number text = some failure) :
    ∃ others, new = heard (r.textFor reader.1) reader.2 ++ others := by
  rw [outcome_read] at h
  rcases heard_cases (r.textFor reader.1) reader.2 with hnone | ⟨guest, -, hone⟩
  · exact ⟨new, by rw [hnone, List.nil_append]⟩
  · rw [hone] at h htold ⊢
    cases new with
    | cons entry others => exact ⟨others, by rw [(List.cons.inj htold).1, List.singleton_append]⟩
    | nil =>
      -- It would have been this reader that fails.
      obtain ⟨rfl, rfl⟩ := Prod.mk.inj (List.cons.inj htold).1
      rw [List.append_nil] at hfails
      cases h.symm.trans hfails

/-- **A guest that fails ends the tick.** It is the last one that is told something, and the
followers of the observers after it are left alone. -/
theorem readAll_told {readers : List (Nat × Watcher Nat)}
    (h : Fails mood r.book.told (r.readAll mood readers).1.book.told number failure) :
    (r.readAll mood readers).2 = some failure ∧
      (r.readAll mood readers).1.book.told.getLast?.map Prod.fst = some number ∧
      ∃ (before : List (Nat × Watcher Nat)) (reader : Nat × Watcher Nat)
          (later : List (Nat × Watcher Nat)),
        readers = before ++ reader :: later ∧ reader.2 = .guest number ∧
        ∀ other, other ∉ before.map Prod.fst → other ≠ reader.1 →
          (r.readAll mood readers).1.followers[other]? = r.followers[other]? := by
  obtain ⟨new, text, rest, htold, hfails⟩ := h
  induction readers generalizing r new with
  | nil =>
    have hlength := congrArg List.length htold
    simp [readAll] at hlength
  | cons reader later ih =>
    cases houtcome : (r.read mood reader).2 with
    | some ended =>
      -- Nobody was told anything after this reader.
      obtain ⟨guest, hguest, hone, hmood⟩ := heard_of_fails houtcome
      obtain ⟨hafter, hended⟩ := readAll_of_some houtcome later
      rw [hafter, told_read, List.append_assoc, List.append_cancel_left_eq, hone] at htold
      obtain ⟨rfl, hentry⟩ : new = [] ∧ (guest, r.textFor reader.1) = (number, text) := by
        rcases List.append_eq_singleton_iff.mp htold.symm with ⟨hnew, hentry⟩ | ⟨-, hnil⟩
        · exact ⟨hnew, (List.cons.inj hentry).1.symm⟩
        · cases hnil
      obtain ⟨rfl, rfl⟩ := Prod.mk.inj hentry
      rw [List.append_nil, hmood] at hfails
      refine ⟨hended.trans hfails, ?_, [], reader, later, rfl, hguest, ?_⟩
      · rw [hafter, told_read, hone, List.getLast?_concat]
        rfl
      · intro other _ hne
        rw [hafter, followers_read_of_ne (Ne.symm hne)]
    | none =>
      -- The guest that fails is told something by one of the later readers.
      rw [readAll_of_none houtcome] at htold ⊢
      obtain ⟨more, hmore⟩ := exists_told_readAll mood later (r.read mood reader).1
      have hfirst : heard (r.textFor reader.1) reader.2 ++ more = new ++ (number, text) :: rest := by
        rwa [hmore, told_read, List.append_assoc, List.append_assoc,
          List.append_cancel_left_eq] at htold
      obtain ⟨new, rfl⟩ := exists_heard_append houtcome hfirst hfails
      rw [← List.append_assoc, ← told_read] at htold hfails
      obtain ⟨hended, hnumber, before, last, after, rfl, hlast, hsame⟩ := ih new htold hfails
      refine ⟨hended, hnumber, reader :: before, last, after, rfl, hlast, ?_⟩
      intro other hother hne
      rw [List.map_cons, List.mem_cons, not_or] at hother
      rw [hsame other hother.2 hne, followers_read_of_ne (Ne.symm hother.1)]

end Failing

/-! ## Followers that a tick polls -/

theorem total_appendAll (ring : Ring) (lines : List String) :
    (ring.appendAll lines).total = ring.total + lines.length := by
  induction lines generalizing ring with
  | nil => rfl
  | cons line lines ih =>
    have hcons : ring.appendAll (line :: lines) = (ring.append line).appendAll lines := rfl
    rw [hcons, ih, Ring.total_append, List.length_cons]
    omega

theorem total_arrive (book : Book) : book.server.ring.total ≤ book.arrive.server.ring.total := by
  unfold Book.arrive
  split
  · exact Nat.le_refl _
  · exact (total_appendAll ..).symm ▸ Nat.le_add_right _ _

theorem total_read (reader : Nat × Watcher Nat) :
    r.book.server.ring.total ≤ (r.read mood reader).1.book.server.ring.total := by
  rw [book_read]
  exact total_arrive r.book

theorem follower_read_of_ne {reader : Nat × Watcher Nat} {number : Nat} (h : reader.1 ≠ number) :
    (r.read mood reader).1.follower number = r.follower number := by
  rw [follower, followers_read_of_ne h, follower]

theorem followers_readAll_of_notMem {readers : List (Nat × Watcher Nat)} {number : Nat}
    (h : ∀ reader ∈ readers, reader.1 ≠ number) :
    (r.readAll mood readers).1.followers[number]? = r.followers[number]? := by
  induction readers generalizing r with
  | nil => rfl
  | cons reader later ih =>
    obtain ⟨hne, hlater⟩ := List.forall_mem_cons.mp h
    cases houtcome : (r.read mood reader).2 with
    | some failure => rw [(readAll_of_some houtcome later).1, followers_read_of_ne hne]
    | none => rw [readAll_of_none houtcome, ih hlater, followers_read_of_ne hne]

/-- A follower after a poll has passed a whole batch of lines, or is at the end. -/
def IsAhead (total : Nat) (follower polled : Follower) : Prop :=
  min total (follower.cursor.next + (batchSize follower.maxLines).toNat) ≤ polled.cursor.next

theorem isAhead_read (mood : Mood) {reader : Nat × Watcher Nat} (h : reader.1 < r.followers.length) :
    ∃ polled, (r.read mood reader).1.followers[reader.1]? = some polled ∧
      IsAhead r.book.server.ring.total (r.follower reader.1) polled := by
  refine ⟨(r.follower reader.1).reading r.book.arrive.server.ring, ?_, ?_⟩
  · rw [followers_read, poll, List.getElem?_set_self h]
  · have hread := (r.follower reader.1).le_next_reading r.book.arrive.server.ring
    exact (min_le_min_right _ (total_arrive r.book)).trans hread

/-- **A tick polls a follower**, unless a guest before it fails. -/
theorem readAll_polls (mood : Mood) {before later : List (Nat × Watcher Nat)}
    {reader : Nat × Watcher Nat}
    (hdistinct : (before ++ reader :: later).Pairwise (·.1 ≠ ·.1))
    (hlt : reader.1 < r.followers.length) :
    (∃ earlier ∈ before, ∃ number failure, earlier.2 = .guest number ∧
      Fails mood r.book.told (r.readAll mood (before ++ reader :: later)).1.book.told number
        failure) ∨
    ∃ polled, (r.readAll mood (before ++ reader :: later)).1.followers[reader.1]? = some polled ∧
      IsAhead r.book.server.ring.total (r.follower reader.1) polled := by
  induction before generalizing r with
  | nil =>
    obtain ⟨polled, hpolled, hahead⟩ := isAhead_read mood hlt
    refine .inr ⟨polled, ?_, hahead⟩
    -- No later reader polls the same follower once more.
    have hlater : ∀ other ∈ later, other.1 ≠ reader.1 :=
      fun other hother => ((List.pairwise_cons.mp hdistinct).1 other hother).symm
    rw [List.nil_append]
    cases houtcome : (r.read mood reader).2 with
    | some failure =>
      rw [(readAll_of_some houtcome later).1]
      exact hpolled
    | none =>
      rw [readAll_of_none houtcome, followers_readAll_of_notMem hlater]
      exact hpolled
  | cons first before ih =>
    rw [List.cons_append, List.pairwise_cons] at hdistinct
    obtain ⟨hfirst, hdistinct⟩ := hdistinct
    rw [List.cons_append]
    cases houtcome : (r.read mood first).2 with
    | some failure =>
      obtain ⟨guest, hguest, hone, hmood⟩ := heard_of_fails houtcome
      refine .inl ⟨first, List.mem_cons_self, guest, failure, hguest, [], r.textFor first.1, [],
        ?_, ?_⟩
      · rw [(readAll_of_some houtcome _).1, told_read, hone, List.append_nil]
      · rwa [List.append_nil]
    | none =>
      have hne : first.1 ≠ reader.1 := hfirst reader List.mem_append_cons_self
      have hlt' : reader.1 < (r.read mood first).1.followers.length := by
        rwa [followers_read, poll, List.length_set]
      rw [readAll_of_none houtcome]
      rcases ih hdistinct hlt' with
        ⟨earlier, hearlier, number, failure, hguest, new, text, rest, htold, hfails⟩ |
        ⟨polled, hpolled, hahead⟩
      · -- Seen from before this reader, its text was told before the guest failed.
        rw [told_read, List.append_assoc r.book.told] at htold hfails
        exact .inl ⟨earlier, List.mem_cons_of_mem _ hearlier, number, failure, hguest, _, text, rest,
          htold, hfails⟩
      · rw [follower_read_of_ne hne] at hahead
        exact .inr ⟨polled, hpolled, (min_le_min_right _ (total_read first)).trans hahead⟩

/-! ## Guests and their followers -/

theorem join_filter (texts : List String) :
    String.join (texts.filter (!·.isEmpty)) = String.join texts := by
  induction texts with
  | nil => rfl
  | cons text texts ih =>
    by_cases hempty : text.isEmpty
    · rw [List.filter_cons_of_neg (by simp [hempty]), ih, String.join_cons,
        String.isEmpty_iff.mp hempty, String.empty_append]
    · rw [List.filter_cons_of_pos (by simp [hempty]), String.join_cons, String.join_cons, ih]

section Premises

variable {outer : Surroundings ε} {premises : Premises Nat (Hearing ε)}

/-- What a guest is told is what its follower is given. -/
theorem Orderly.hears (h : Orderly (of premises) capacity) {number : Nat}
    (hnumber : (bookOf premises).owners[number]? = some (.guest number)) :
    (∀ text ∈ (bookOf premises).textsOf number, text ≠ "") ∧
      String.join ((bookOf premises).textsOf number) =
        String.join (((bookOf premises).pollsOf number).map Poll.text) ∧
      ∃ follower, premises.world.followers[number]? = some follower ∧
        Received (bookOf premises).history capacity ((bookOf premises).pollsOf number)
          follower.cursor.next := by
  have htold : (bookOf premises).textsOf number =
      (((bookOf premises).pollsOf number).map Poll.text).filter (!·.isEmpty) :=
    h.told number hnumber
  refine ⟨?_, ?_, ?_⟩
  · rw [htold]
    rintro text htext rfl
    exact absurd (List.mem_filter.mp htext).2 (by decide)
  · rw [htold, join_filter]
  · have hfound := getElem?_follower (h.lt_of_owned hnumber)
    have hreceived := h.sound.received number _ hfound
    rw [followers_of] at hfound
    exact ⟨_, hfound, hreceived⟩

theorem Orderly.eq_of_guest (h : Orderly (of premises) capacity) {reader : Nat × Watcher Nat}
    (hreader : reader ∈ (of premises).readers) {number : Nat} (hguest : reader.2 = .guest number) :
    reader = (number, .guest number) :=
  Prod.ext (h.numbered _ _ (hguest ▸ h.owned reader hreader)).symm hguest

/-- What guests were told after a tick. -/
theorem told_tick (outer : Surroundings ε) (mood : Mood) (during : Nat → List String) :
    (bookOf ((Turn.tick during).act outer mood premises).state).told =
      (((of premises).expect during).readAll mood (of premises).readers).1.book.told :=
  congrArg (·.book.told) (of_act outer mood premises (.tick during))

/-- The followers after a tick. -/
theorem followers_tick (outer : Surroundings ε) (mood : Mood) (during : Nat → List String)
    (number : Nat) :
    ((Turn.tick during).act outer mood premises).state.world.followers[number]? =
      (((of premises).expect during).readAll mood (of premises).readers).1.followers[number]? := by
  rw [← followers_of, of_act]
  rfl

/-- A guest that fails ends the tick, and the followers after it are left alone. -/
theorem Orderly.ended (h : Orderly (of premises) capacity) {during : Nat → List String}
    {number : Nat} {failure : Failure}
    (hfails : Fails mood (bookOf premises).told
      (bookOf ((Turn.tick during).act outer mood premises).state).told number failure) :
    ((Turn.tick during).act outer mood premises).outcome = .error failure ∧
      (bookOf ((Turn.tick during).act outer mood premises).state).told.getLast?.map Prod.fst =
        some number ∧
      ∃ before later : List (Nat × Watcher Nat),
        premises.world.logObservers = before ++ (number, .guest number) :: later ∧
        ∀ reader ∈ later,
          ((Turn.tick during).act outer mood premises).state.world.followers[reader.1]? =
            premises.world.followers[reader.1]? := by
  rw [told_tick] at hfails ⊢
  obtain ⟨hended, hlast, before, reader, later, hreaders, hguest, hsame⟩ :=
    readAll_told (r := (of premises).expect during) hfails
  have hreader := h.eq_of_guest (hreaders ▸ List.mem_append_cons_self) hguest
  refine ⟨outcome_tick outer hended, hlast, before, later, hreader ▸ hreaders, ?_⟩
  intro other hother
  have hdistinct := h.distinct
  rw [hreaders, List.pairwise_append, List.pairwise_cons] at hdistinct
  obtain ⟨-, ⟨hlater, -⟩, hbefore⟩ := hdistinct
  -- No two observers share a follower, so one after the guest was not polled before it either.
  have hnot : other.1 ∉ before.map Prod.fst := by
    intro hpolled
    obtain ⟨earlier, hearlier, heq⟩ := List.mem_map.mp hpolled
    exact hbefore earlier hearlier other (List.mem_cons_of_mem _ hother) heq
  rw [followers_tick, hsame other.1 hnot (hlater other hother).symm, ← followers_of]
  rfl

/-- A follower is polled by a tick, unless a guest before it fails. -/
theorem Orderly.polls (h : Orderly (of premises) capacity) (during : Nat → List String)
    {before later : List (Nat × Watcher Nat)} {reader : Nat × Watcher Nat}
    (hreaders : premises.world.logObservers = before ++ reader :: later) :
    (∃ number failure, (number, .guest number) ∈ before ∧
      Fails mood (bookOf premises).told
        (bookOf ((Turn.tick during).act outer mood premises).state).told number failure) ∨
    ∃ follower polled, premises.world.followers[reader.1]? = some follower ∧
      ((Turn.tick during).act outer mood premises).state.world.followers[reader.1]? =
        some polled ∧
      IsAhead (bookOf premises).server.ring.total follower polled := by
  have hof : (of premises).readers = before ++ reader :: later := hreaders
  have hdistinct := h.distinct
  rw [hof] at hdistinct
  have hlt := h.lt_of_mem (hof ▸ List.mem_append_cons_self : reader ∈ (of premises).readers)
  have hpolls := readAll_polls (r := (of premises).expect during) mood hdistinct hlt
  rw [← hof] at hpolls
  rw [told_tick, followers_tick]
  rcases hpolls with ⟨earlier, hearlier, number, failure, hguest, hfails⟩ | ⟨polled, hpolled, hahead⟩
  · have hmem : earlier ∈ (of premises).readers := hof ▸ List.mem_append_left _ hearlier
    exact .inl ⟨number, failure, h.eq_of_guest hmem hguest ▸ hearlier, hfails⟩
  · have hfollower := getElem?_follower hlt
    rw [followers_of] at hfollower
    exact .inr ⟨_, polled, hfollower, hpolled, hahead⟩

end Premises

/-- **No guest misses a line because another one fails.** Whatever is written, whoever joins and
quits, and whichever guests fail: what a guest was told are not empty texts, and together they are
what its follower was given, the lines with increasing serial numbers without those that were
overwritten before the follower was polled. A guest that fails is the last one that a tick tells
something, the tick fails with it, and the followers after its own are left as they were. Each
follower that has no such guest before it is polled. -/
theorem guests_hear_their_followers (outer : Surroundings ε) (mood : Mood)
    (premises : Premises Nat (Hearing ε)) (server : ChildServer) (capacity : Nat)
    (room : 0 < capacity) (turns : List Turn) :
    let current := after outer mood (opened premises server capacity room) turns
    let book := bookOf current
    (∀ number : Nat, book.owners[number]? = some (.guest number) →
      (∀ text ∈ book.textsOf number, text ≠ "") ∧
      String.join (book.textsOf number) = String.join ((book.pollsOf number).map Poll.text) ∧
      ∃ follower, current.world.followers[number]? = some follower ∧
        Received book.history capacity (book.pollsOf number) follower.cursor.next) ∧
    ∀ during : Nat → List String,
      let tick := (Turn.tick during).act outer mood current
      let told := (bookOf tick.state).told
      (∀ (number : Nat) (failure : Failure), Fails mood book.told told number failure →
        tick.outcome = .error failure ∧ told.getLast?.map Prod.fst = some number ∧
        ∃ before later : List (Nat × Watcher Nat),
          current.world.logObservers = before ++ (number, .guest number) :: later ∧
          ∀ reader ∈ later,
            tick.state.world.followers[reader.1]? = current.world.followers[reader.1]?) ∧
      ∀ (before later : List (Nat × Watcher Nat)) (reader : Nat × Watcher Nat),
        current.world.logObservers = before ++ reader :: later →
        (∃ number failure, (number, .guest number) ∈ before ∧
          Fails mood book.told told number failure) ∨
        ∃ follower polled, current.world.followers[reader.1]? = some follower ∧
          tick.state.world.followers[reader.1]? = some polled ∧
          IsAhead book.server.ring.total follower polled := by
  intro current book
  have horderly : Orderly (of current) capacity :=
    .after outer mood premises server capacity room turns
  refine ⟨fun number hnumber => horderly.hears hnumber, fun during => ⟨?_, ?_⟩⟩
  · exact fun number failure hfails => horderly.ended hfails
  · exact fun before later reader hreaders => horderly.polls during hreaders

/-! ## A single run -/

/-- Surroundings in which nothing happens. -/
def still : Surroundings Unit where
  service :=
    { start := fun _ _ => pure 0
      stop := pure ()
      isRunning := pure true
      webifPort := pure 0
      logLines := fun wanted _ => pure (none, wanted) }
  inhibitor := { acquire := fun _ => pure (), release := pure () }
  clock _ := 0
  interfaces := (pure [] : Act Unit (List Network.Interface))

/-- A poller and pages before anything happens. -/
def bare : Premises Nat (Hearing Unit) where
  world := {
    supervised := {
      awake := {
        token := {}
        outside := {
          outside := { outside := (), book := { server := default } }
          settings := { configDirectory := none } } } } }

/-- The first guest fails whenever it is told something. -/
def touchy : Mood := fun _ number _ =>
  if number = 0 then some .nothingOpen else none

/-- Two guests and a page read a log of two lines. While the first guest fails, three lines are
written. -/
def rounds : List Turn :=
  [.attach 1, .attach 2, .build, .write ["a"], .tick fun _ => [], .write ["b", "c"],
    .tick fun number => if number = 0 then ["d"] else [], .tick fun _ => [], .tick fun _ => []]

/-- The second guest is told what was not overwritten before its follower was first polled. The
first guest goes on to end ticks, which poll its own follower and leave the other ones alone. -/
theorem guests_hear_their_followers_touchy :
    0 < 2 ∧
      let current := after still touchy (opened bare default 2 (by decide)) rounds
      let tick := (Turn.tick fun _ => ["e"]).act still touchy current
      (bookOf current).textsOf 0 = ["a\n", "c\n", "d\n"] ∧
      (bookOf current).textsOf 1 = ["c\nd\n"] ∧
      String.join ((bookOf current).textsOf 1) =
        String.join (((bookOf current).pollsOf 1).map Poll.text) ∧
      tick.outcome = .error .nothingOpen ∧
      tick.state.world.followers[1]? = current.world.followers[1]? ∧
      ∃ follower polled, current.world.followers[0]? = some follower ∧
        tick.state.world.followers[0]? = some polled ∧
        IsAhead (bookOf current).server.ring.total follower polled := by
  refine ⟨by decide, by decide +kernel, by decide +kernel, ?_⟩
  have hobservers :
      (after still touchy (opened bare default 2 (by decide)) rounds).world.logObservers =
        [(0, .guest 0), (1, .guest 1), (2, .log 0)] := by decide +kernel
  obtain ⟨hears, htick⟩ :=
    guests_hear_their_followers still touchy bare default 2 (by decide) rounds
  obtain ⟨-, hjoin, -⟩ := hears 1 (by decide +kernel)
  obtain ⟨hended, hpolls⟩ := htick fun _ => ["e"]
  obtain ⟨houtcome, -, before, later, hreaders, hsame⟩ :=
    hended 0 .nothingOpen ⟨[], "e\n", [], by decide +kernel, rfl⟩
  refine ⟨hjoin, houtcome, ?_, ?_⟩
  · rw [hobservers] at hreaders
    cases before with
    | nil =>
      obtain ⟨-, rfl⟩ := List.cons.inj hreaders
      exact hsame (1, .guest 1) List.mem_cons_self
    | cons earlier before =>
      obtain ⟨-, hlater⟩ := List.cons.inj hreaders
      have hmem : (0, .guest 0) ∈ [(1, Watcher.guest 1), (2, .log 0)] :=
        hlater ▸ List.mem_append_cons_self
      exact absurd hmem (by decide)
  · exact (hpolls [] _ _ hobservers).resolve_left fun ⟨_, _, hmem, _⟩ => absurd hmem List.not_mem_nil

end Warden.Readership
