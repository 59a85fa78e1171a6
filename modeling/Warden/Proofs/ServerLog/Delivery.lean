import Mathlib.Algebra.Order.Floor.Div
import Mathlib.Data.List.Range
import Warden.Proofs.ServerLog.History
import Warden.Server.Child

/-!
# Delivery of the log to its followers

Any number of followers read the log of one server, each at its own pace and with its own batch
size, while the server goes on writing. Each of them is given every line at most once, in order and
as it was written, and misses only lines that were overwritten before it asked for them.

## Main definitions

* `Reads`: a source that answers from a ring
* `Audience`: a server with the followers of its log and what their polls came to
* `Turn`, `Audience.after`: a line is written, a follower joins or polls; any number of these
* `Received`: what a follower was given

## Main results

* `pull_eq`, `poll_eq`: one reading from a ring
* `Audience.Sound.take`: what each turn keeps
* `delivered_exactly_once`: each follower is given its lines exactly once, and catches up
-/

namespace Warden.ServerLog

open Warden.Server (ChildServer)

variable {ε : Type}

/-! ## One reading -/

/-- A source that answers with the lines of a ring in the outside world, which it leaves as it
is. -/
def Reads (source : Source ε) (ring : ε → Ring) : Prop :=
  ∀ wanted count world, source wanted count world =
    ⟨.ok (some ((ring world).text wanted count).1, ((ring world).text wanted count).2), world, []⟩

theorem reads_logLines : Reads ChildServer.logLines ChildServer.ring :=
  fun _ _ _ => rfl

/-- The number of lines that is asked for is the wanted one if it is from 1 to 500. -/
theorem batchSize_eq (lines : Int) :
    batchSize lines = if 1 ≤ lines ∧ lines ≤ 500 then lines else 200 := by
  by_cases h : 1 ≤ lines ∧ lines ≤ 500
  · have hlines : (0 < lines && lines ≤ mostLines) = true := by
      rw [mostLines, ← Bool.decide_and]
      exact decide_eq_true (by omega)
    rw [batchSize, if_pos hlines, if_pos h]
  · have hlines : ¬ (0 < lines && lines ≤ mostLines) = true := by
      rw [mostLines, ← Bool.decide_and, decide_eq_true_iff]
      omega
    rw [batchSize, if_neg hlines, if_neg h, defaultLines]

theorem batchSize_range (lines : Int) : 1 ≤ batchSize lines ∧ batchSize lines ≤ 500 := by
  rw [batchSize_eq]
  split_ifs with h
  · exact h
  · decide

theorem batchSize_pos (lines : Int) : 0 < batchSize lines :=
  (batchSize_range lines).1

theorem pull_eq {source : Source ε} {ring : ε → Ring} (reads : Reads source ring)
    (cursor : Cursor) (lines : Int) (world : ε) :
    pull source cursor lines world =
      ⟨.ok (((ring world).text cursor.next (batchSize lines)).1,
        cursor.advance ((ring world).text cursor.next (batchSize lines)).2), world, []⟩ := by
  unfold pull
  rw [Act.run_bind]
  simp [reads _ _ world]

/-- A pull does to the world what the source does. -/
theorem state_pull (source : Source ε) (cursor : Cursor) (lines : Int) (world : ε) :
    (pull source cursor lines world).state =
      (source cursor.next (batchSize lines) world).state := by
  unfold pull
  rw [Act.state_bind, Act.run_attempt]
  dsimp only
  cases (source cursor.next (batchSize lines) world).outcome with
  | ok answer => rfl
  | error failure =>
    dsimp only
    split_ifs <;> rfl

/-- A pull fails only if the source does, with the same failure. -/
theorem outcome_pull {source : Source ε} {cursor : Cursor} {lines : Int} {world : ε}
    {failure : Failure} (h : (pull source cursor lines world).outcome = .error failure) :
    (source cursor.next (batchSize lines) world).outcome = .error failure := by
  unfold pull at h
  rw [Act.outcome_bind, Act.run_attempt] at h
  dsimp only at h
  cases hsource : (source cursor.next (batchSize lines) world).outcome with
  | ok answer =>
    rw [hsource] at h
    cases h
  | error other =>
    rw [hsource] at h
    dsimp only at h
    split_ifs at h <;> cases h
    rfl

namespace Follower

/-- A poll does to the world what the source does. -/
theorem state_poll (source : Source ε) (follower : Follower) (world : ε) :
    (follower.poll source world).state =
      (source follower.cursor.next (batchSize follower.maxLines) world).state := by
  rw [← state_pull, poll, Act.state_bind]
  cases (pull source follower.cursor follower.maxLines world).outcome <;> rfl

/-- A poll fails only if the source does, with the same failure. -/
theorem outcome_poll {source : Source ε} {follower : Follower} {world : ε} {failure : Failure}
    (h : (follower.poll source world).outcome = .error failure) :
    (source follower.cursor.next (batchSize follower.maxLines) world).outcome =
      .error failure := by
  rw [poll, Act.outcome_bind] at h
  cases hpull : (pull source follower.cursor follower.maxLines world).outcome with
  | ok answer =>
    rw [hpull] at h
    cases h
  | error other =>
    rw [hpull] at h
    cases h
    exact outcome_pull hpull

/-- What a poll that finds a ring gives to a follower. -/
def textFrom (follower : Follower) (ring : Ring) : String :=
  (ring.text follower.cursor.next (batchSize follower.maxLines)).1

/-- The cursor of a follower after a poll that finds a ring. -/
def cursorAfter (follower : Follower) (ring : Ring) : Nat :=
  ring.last follower.cursor.next (batchSize follower.maxLines)

/-- A follower after a poll that finds a ring. -/
def afterPoll (follower : Follower) (ring : Ring) : Follower :=
  { follower with
    cursor := ⟨follower.cursorAfter ring⟩
    buffer :=
      if (follower.textFrom ring).isEmpty then follower.buffer
      else follower.buffer.append (follower.textFrom ring) }

@[simp] theorem next_afterPoll (follower : Follower) (ring : Ring) :
    (follower.afterPoll ring).cursor.next = follower.cursorAfter ring := rfl

theorem cursorAfter_le (follower : Follower) (ring : Ring) :
    follower.cursorAfter ring ≤ ring.total :=
  Nat.min_le_left _ _

/-- A poll passes a whole batch of lines, unless it reaches the end. -/
theorem le_cursorAfter (follower : Follower) (ring : Ring) :
    min ring.total (follower.cursor.next + (batchSize follower.maxLines).toNat) ≤
      follower.cursorAfter ring := by
  simp only [cursorAfter, Ring.last, Ring.first, Int.toNat_natCast]
  omega

theorem cursor_le_cursorAfter {follower : Follower} {ring : Ring}
    (h : follower.cursor.next ≤ ring.total) : follower.cursor.next ≤ follower.cursorAfter ring :=
  (le_min h (Nat.le_add_right _ _)).trans (follower.le_cursorAfter ring)

/-- A follower after a poll of any ring, whether it has read past its end or not. -/
def reading (follower : Follower) (ring : Ring) : Follower :=
  { follower with
    cursor := follower.cursor.advance
      (ring.text follower.cursor.next (batchSize follower.maxLines)).2
    buffer :=
      if (follower.textFrom ring).isEmpty then follower.buffer
      else follower.buffer.append (follower.textFrom ring) }

theorem reading_eq {follower : Follower} {ring : Ring} (h : follower.cursor.next ≤ ring.total) :
    follower.reading ring = follower.afterPoll ring := by
  have hnext : max follower.cursor.next
      (ring.text follower.cursor.next (batchSize follower.maxLines)).2 =
      follower.cursorAfter ring := by
    rw [Ring.next_eq_last h (batchSize_pos follower.maxLines)]
    exact Nat.max_eq_right (cursor_le_cursorAfter h)
  simp only [reading, afterPoll, Cursor.advance, Int.toNat_natCast, hnext]

/-- A reading passes a whole batch of lines, unless it reaches the end. -/
theorem le_next_reading (follower : Follower) (ring : Ring) :
    min ring.total (follower.cursor.next + (batchSize follower.maxLines).toNat) ≤
      (follower.reading ring).cursor.next := by
  have hlast := follower.le_cursorAfter ring
  have hnext : (follower.reading ring).cursor.next = max follower.cursor.next
      (ring.text follower.cursor.next (batchSize follower.maxLines)).2 := by
    simp only [reading, Cursor.advance, Int.toNat_natCast]
  rw [hnext]
  simp only [Ring.text, Ring.since]
  split
  · -- Without a line, the reading goes on past everything written.
    simp only [Int.toNat_natCast]
    omega
  · exact hlast.trans (Nat.le_max_right _ _)

/-- A poll gives a follower what the ring hands out. -/
theorem poll_reads {source : Source ε} {ring : ε → Ring} (reads : Reads source ring)
    (follower : Follower) (world : ε) :
    follower.poll source world =
      ⟨.ok (follower.textFrom (ring world), follower.reading (ring world)), world, []⟩ := by
  unfold Follower.poll
  rw [Act.run_bind, pull_eq reads]
  rfl

/-- A poll of a follower that has not read past the end of a ring: it is given what the ring hands
out, and goes on after the last line of it. -/
theorem poll_eq {source : Source ε} {ring : ε → Ring} (reads : Reads source ring)
    {follower : Follower} {world : ε} (h : follower.cursor.next ≤ (ring world).total) :
    follower.poll source world =
      ⟨.ok (follower.textFrom (ring world), follower.afterPoll (ring world)), world, []⟩ := by
  rw [poll_reads reads, reading_eq h]

end Follower

/-! ## A server and the followers of its log -/

/-- What a poll found and was given. -/
structure Poll where
  follower : Nat
  /-- The number of lines ever written, at that moment. -/
  total : Nat
  /-- The serial number that the follower went on from. -/
  cursor : Nat
  text : String

/-- A server with the followers of its log, and what their polls came to. -/
structure Audience where
  server : ChildServer
  followers : List Follower := []
  polls : List Poll := []

/-- What happens to a log and its followers. -/
inductive Turn where
  | write (line : String)
  | join (maxLines : Int) (buffer : Buffer)
  | poll (follower : Nat)

/-- The line that a turn writes. -/
def Turn.line? : Turn → Option String
  | write line => some line
  | _ => none

/-- The turn is a poll of a follower. -/
def Turn.isPollOf (number : Nat) : Turn → Bool
  | poll follower => follower == number
  | _ => false

/-- The lines that turns write, in order. -/
def written (turns : List Turn) : List String :=
  turns.filterMap Turn.line?

namespace Audience

/-- A server whose log is an empty ring of a capacity, without followers. -/
def ofServer (server : ChildServer) (capacity : Nat) (room : 0 < capacity) : Audience :=
  { server := { server with ring := .empty capacity room } }

/-- A follower polls. -/
def poll (audience : Audience) (number : Nat) : Audience :=
  match audience.followers[number]? with
  | none => audience
  | some follower =>
    let report := follower.poll ChildServer.logLines audience.server
    match report.outcome with
    | .ok (text, after) =>
      { server := report.state
        followers := audience.followers.set number after
        polls := audience.polls ++
          [⟨number, audience.server.ring.total, follower.cursor.next, text⟩] }
    | .error _ => { audience with server := report.state }

/-- The audience after a turn. -/
def take (audience : Audience) : Turn → Audience
  | .write line =>
    { audience with server := { audience.server with ring := audience.server.ring.append line } }
  | .join maxLines buffer =>
    { audience with followers := audience.followers ++ [{ maxLines, buffer }] }
  | .poll number => audience.poll number

/-- The audience after a number of turns. -/
def after (audience : Audience) (turns : List Turn) : Audience :=
  turns.foldl take audience

/-- The polls of a follower, in order. -/
def pollsOf (audience : Audience) (number : Nat) : List Poll :=
  audience.polls.filter (·.follower == number)

theorem after_append (audience : Audience) (turns more : List Turn) :
    audience.after (turns ++ more) = (audience.after turns).after more :=
  List.foldl_append

end Audience

theorem written_singleton (turn : Turn) : written [turn] = turn.line?.toList := by
  cases turn <;> rfl

theorem written_append (turns more : List Turn) :
    written (turns ++ more) = written turns ++ written more :=
  List.filterMap_append

/-! ## What a follower was given -/

/-- The polls of a follower gave it the lines of a history with increasing serial numbers, and each
serial number below the cursor is one of them, or was overwritten before the poll that passed it. -/
def Received (history : List String) (capacity : Nat) (polls : List Poll) (cursor : Nat) : Prop :=
  ∃ ids : List Nat, ids.Pairwise (· < ·) ∧ (∀ id ∈ ids, id < cursor) ∧
    String.join (polls.map Poll.text) = Text.joinLines (ids.map (lineOf history)) ∧
    ∀ id < cursor, id ∈ ids ∨ ∃ poll ∈ polls, poll.cursor ≤ id ∧ id + capacity < poll.total

theorem received_nil (history : List String) (capacity : Nat) :
    Received history capacity [] 0 :=
  ⟨[], .nil, by simp, rfl, by simp⟩

theorem Received.of_history {history : List String} {capacity cursor : Nat} {polls : List Poll}
    (received : Received history capacity polls cursor) (h : cursor ≤ history.length)
    (more : List String) : Received (history ++ more) capacity polls cursor := by
  obtain ⟨ids, hsorted, hlt, htext, hcover⟩ := received
  refine ⟨ids, hsorted, hlt, ?_, hcover⟩
  rw [htext, map_lineOf_append history more fun id hid => (hlt id hid).trans_le h]

theorem join_concat (texts : List String) (text : String) :
    String.join (texts ++ [text]) = String.join texts ++ text := by
  simp [String.join]

/-- A poll that finds a ring of the history extends what was received by what the ring hands out. -/
theorem Received.poll {history : List String} {polls : List Poll} {ring : Ring}
    {follower : Follower} (received : Received history ring.capacity polls follower.cursor.next)
    (records : ring.Records history) (h : follower.cursor.next ≤ ring.total) (number : Nat) :
    Received history ring.capacity
      (polls ++ [⟨number, ring.total, follower.cursor.next, follower.textFrom ring⟩])
      (follower.cursorAfter ring) := by
  obtain ⟨ids, hsorted, hlt, htext, hcover⟩ := received
  have hfirst : ring.first follower.cursor.next = max follower.cursor.next ring.oldest := by
    simp [Ring.first]
  refine ⟨ids ++ ring.handed follower.cursor.next (batchSize follower.maxLines), ?_, ?_, ?_, ?_⟩
  · refine List.pairwise_append.mpr ⟨hsorted, List.pairwise_lt_range', fun id hid new hnew => ?_⟩
    have := hlt id hid
    have := (Ring.mem_handed.mp hnew).1
    omega
  · intro id hid
    rcases List.mem_append.mp hid with hold | hnew
    · exact (hlt id hold).trans_le (Follower.cursor_le_cursorAfter h)
    · exact (Ring.mem_handed.mp hnew).2
  · rw [List.map_append, List.map_singleton, join_concat, htext, List.map_append,
      Text.joinLines_append, Follower.textFrom, records.text_eq]
  · -- a serial number that this poll passes is handed out, unless it is older than the oldest line
    intro id hid
    rcases Nat.lt_or_ge id follower.cursor.next with hpast | hnow
    · rcases hcover id hpast with hold | ⟨poll, hpoll, hgap⟩
      · exact .inl (List.mem_append_left _ hold)
      · exact .inr ⟨poll, List.mem_append_left _ hpoll, hgap⟩
    · rcases Nat.lt_or_ge id ring.oldest with hlost | hkept
      · refine .inr ⟨_, List.mem_append_right _ (List.mem_singleton_self _), hnow, ?_⟩
        change id + ring.capacity < ring.total
        rw [Ring.oldest] at hlost
        omega
      · exact .inl (List.mem_append_right _ (Ring.mem_handed.mpr ⟨by omega, hid⟩))

/-- Without a gap, all lines up to the cursor were received. -/
theorem Received.eq_take {history : List String} {capacity cursor : Nat} {polls : List Poll}
    (received : Received history capacity polls cursor) (h : cursor ≤ history.length)
    (hgap : ∀ poll ∈ polls, poll.total - poll.cursor ≤ capacity) :
    String.join (polls.map Poll.text) = Text.joinLines (history.take cursor) := by
  obtain ⟨ids, hsorted, hlt, htext, hcover⟩ := received
  have hids : ids = List.range cursor := by
    refine List.Perm.eq_of_pairwise' hsorted List.pairwise_lt_range ?_
    refine (List.perm_ext_iff_of_nodup (hsorted.imp Nat.ne_of_lt) List.nodup_range).mpr fun id => ?_
    refine ⟨fun hid => List.mem_range.mpr (hlt id hid), fun hid => ?_⟩
    rcases hcover id (List.mem_range.mp hid) with hmem | ⟨poll, hpoll, hle, hlost⟩
    · exact hmem
    · have := hgap poll hpoll
      omega
  rw [htext, hids, map_lineOf_range history h]

/-! ## What turns keep -/

namespace Audience

/-- An audience after a history was written to a ring of a capacity: each follower has received
what it passed, and nothing else. -/
structure Sound (audience : Audience) (history : List String) (capacity : Nat) : Prop where
  capacity_eq : audience.server.ring.capacity = capacity
  records : audience.server.ring.Records history
  cursor_le : ∀ (number : Nat) (follower : Follower), audience.followers[number]? = some follower →
    follower.cursor.next ≤ history.length
  received : ∀ (number : Nat) (follower : Follower), audience.followers[number]? = some follower →
    Received history capacity (audience.pollsOf number) follower.cursor.next
  polled : ∀ poll ∈ audience.polls, poll.follower < audience.followers.length

theorem sound_ofServer (server : ChildServer) (capacity : Nat) (room : 0 < capacity) :
    (ofServer server capacity room).Sound [] capacity where
  capacity_eq := rfl
  records := Ring.records_empty capacity room
  cursor_le _ _ h := by simp [ofServer] at h
  received _ _ h := by simp [ofServer] at h
  polled _ h := by simp [ofServer] at h

variable {audience : Audience} {history : List String} {capacity : Nat}

theorem Sound.write (sound : audience.Sound history capacity) (line : String) :
    (audience.take (.write line)).Sound (history ++ [line]) capacity where
  capacity_eq := by simp [take, sound.capacity_eq]
  records := sound.records.append line
  cursor_le number follower h := by
    have := sound.cursor_le number follower h
    rw [List.length_append]
    omega
  received number follower h :=
    (sound.received number follower h).of_history (sound.cursor_le number follower h) [line]
  polled := sound.polled

/-- A follower that joins has the next number, and nobody has polled in its name. -/
theorem Sound.join (sound : audience.Sound history capacity) (maxLines : Int) (buffer : Buffer) :
    (audience.take (.join maxLines buffer)).Sound history capacity := by
  have hnew : audience.pollsOf audience.followers.length = [] := by
    refine List.filter_eq_nil_iff.mpr fun poll hpoll => ?_
    have := sound.polled poll hpoll
    simp
    omega
  have hold : ∀ (number : Nat) (follower : Follower),
      (audience.followers ++ [({ maxLines, buffer } : Follower)])[number]? = some follower →
      audience.followers[number]? = some follower ∨
        number = audience.followers.length ∧ follower.cursor.next = 0 := by
    intro number follower h
    rcases Nat.lt_trichotomy number audience.followers.length with hlt | heq | hgt
    · exact .inl (by rwa [List.getElem?_append_left hlt] at h)
    · subst heq
      obtain rfl : { maxLines, buffer } = follower := by simpa using h
      exact .inr ⟨rfl, rfl⟩
    · rw [List.getElem?_eq_none (by simp; omega)] at h
      cases h
  refine ⟨sound.capacity_eq, sound.records, ?_, ?_, ?_⟩
  · intro number follower h
    rcases hold number follower h with h | ⟨-, hstart⟩
    · exact sound.cursor_le number follower h
    · omega
  · intro number follower h
    rcases hold number follower h with h | ⟨rfl, hstart⟩
    · exact sound.received number follower h
    · rw [hstart]
      change Received history capacity (audience.pollsOf audience.followers.length) 0
      rw [hnew]
      exact received_nil history capacity
  · intro poll hpoll
    have := sound.polled poll hpoll
    simp only [take, List.length_append, List.length_singleton]
    omega

/-- What a poll does to an audience. -/
theorem Sound.poll_eq (sound : audience.Sound history capacity) {number : Nat}
    {follower : Follower} (h : audience.followers[number]? = some follower) :
    audience.poll number =
      { audience with
        followers := audience.followers.set number (follower.afterPoll audience.server.ring)
        polls := audience.polls ++ [⟨number, audience.server.ring.total, follower.cursor.next,
          follower.textFrom audience.server.ring⟩] } := by
  have hle : follower.cursor.next ≤ audience.server.ring.total :=
    sound.records.total_eq ▸ sound.cursor_le number follower h
  simp only [Audience.poll, h, Follower.poll_eq reads_logLines hle]

theorem poll_of_none {number : Nat} (h : audience.followers[number]? = none) :
    audience.poll number = audience := by
  simp only [Audience.poll, h]

theorem Sound.poll (sound : audience.Sound history capacity) (number : Nat) :
    (audience.poll number).Sound history capacity := by
  cases h : audience.followers[number]? with
  | none => rwa [poll_of_none h]
  | some follower =>
    have hlt : number < audience.followers.length := (List.getElem?_eq_some_iff.mp h).1
    have hle : follower.cursor.next ≤ audience.server.ring.total :=
      sound.records.total_eq ▸ sound.cursor_le number follower h
    rw [sound.poll_eq h]
    refine ⟨sound.capacity_eq, sound.records, ?_, ?_, ?_⟩
    · intro other reader hreader
      by_cases hother : number = other
      · subst hother
        obtain rfl : follower.afterPoll audience.server.ring = reader := by
          simpa [hlt] using hreader
        exact sound.records.total_eq ▸ follower.cursorAfter_le audience.server.ring
      · rw [List.getElem?_set_ne hother] at hreader
        exact sound.cursor_le other reader hreader
    · intro other reader hreader
      by_cases hother : number = other
      · subst hother
        obtain rfl : follower.afterPoll audience.server.ring = reader := by
          simpa [hlt] using hreader
        have hreceived := sound.received number follower h
        rw [← sound.capacity_eq] at hreceived ⊢
        simpa [pollsOf] using hreceived.poll sound.records hle number
      · rw [List.getElem?_set_ne hother] at hreader
        simpa [pollsOf, hother] using sound.received other reader hreader
    · intro poll hpoll
      rcases List.mem_append.mp hpoll with hold | hnew
      · simpa using sound.polled poll hold
      · rw [List.mem_singleton.mp hnew]
        simpa using hlt

/-- What each turn keeps. -/
theorem Sound.take (sound : audience.Sound history capacity) (turn : Turn) :
    (audience.take turn).Sound (history ++ written [turn]) capacity := by
  rw [written_singleton]
  cases turn with
  | write line => exact sound.write line
  | join maxLines buffer => exact (List.append_nil history).symm ▸ sound.join maxLines buffer
  | poll number => exact (List.append_nil history).symm ▸ sound.poll number

/-- What any number of turns keep. -/
theorem Sound.after (sound : audience.Sound history capacity) (turns : List Turn) :
    (audience.after turns).Sound (history ++ written turns) capacity := by
  induction turns using List.reverseRecOn with
  | nil => rwa [written, List.filterMap_nil, List.append_nil]
  | append_singleton turns turn ih =>
    rw [after_append, written_append, ← List.append_assoc]
    exact ih.take turn

/-! ## Catching up -/

/-- A turn that writes nothing moves a follower by a whole batch, unless it reaches the end. -/
theorem Sound.cursor_take (sound : audience.Sound history capacity) {turn : Turn}
    (quiet : turn.line? = none) {number : Nat} {follower : Follower}
    (h : audience.followers[number]? = some follower) :
    ∃ later, (audience.take turn).followers[number]? = some later ∧
      later.maxLines = follower.maxLines ∧
      min history.length (follower.cursor.next +
          [turn].countP (·.isPollOf number) * (batchSize follower.maxLines).toNat) ≤
        later.cursor.next := by
  have hlt : number < audience.followers.length := (List.getElem?_eq_some_iff.mp h).1
  cases turn with
  | write line => cases quiet
  | join maxLines buffer =>
    refine ⟨follower, ?_, rfl, by simp [Turn.isPollOf]⟩
    simpa [Audience.take, List.getElem?_append_left hlt] using h
  | poll other =>
    change ∃ later, (audience.poll other).followers[number]? = some later ∧ _
    cases hother : audience.followers[other]? with
    | none =>
      have hne : other ≠ number := by
        rintro rfl
        simp [h] at hother
      rw [poll_of_none hother]
      exact ⟨follower, h, rfl, by simp [Turn.isPollOf, hne]⟩
    | some reader =>
      rw [sound.poll_eq hother]
      by_cases heq : other = number
      · subst heq
        obtain rfl : follower = reader := Option.some.inj (h.symm.trans hother)
        refine ⟨_, List.getElem?_set_self hlt, rfl, ?_⟩
        rw [← sound.records.total_eq]
        simpa [Turn.isPollOf] using follower.le_cursorAfter audience.server.ring
      · refine ⟨follower, by rwa [List.getElem?_set_ne heq], rfl, ?_⟩
        simp [Turn.isPollOf, heq]

/-- Without new lines a follower is at the end after enough polls of its own, whatever the others
do. -/
theorem Sound.cursor_after (sound : audience.Sound history capacity) {turns : List Turn}
    (quiet : written turns = []) {number : Nat} {follower : Follower}
    (h : audience.followers[number]? = some follower) :
    ∃ later, (audience.after turns).followers[number]? = some later ∧
      later.maxLines = follower.maxLines ∧
      min history.length (follower.cursor.next +
          turns.countP (·.isPollOf number) * (batchSize follower.maxLines).toNat) ≤
        later.cursor.next := by
  induction turns using List.reverseRecOn with
  | nil => exact ⟨follower, h, rfl, by simp⟩
  | append_singleton turns turn ih =>
    rw [written_append, List.append_eq_nil_iff] at quiet
    obtain ⟨reader, hreader, hlines, hle⟩ := ih quiet.1
    have hsound := sound.after turns
    rw [quiet.1, List.append_nil] at hsound
    have hturn : turn.line? = none := by simpa [written_singleton] using quiet.2
    obtain ⟨later, hlater, hlines', hle'⟩ := hsound.cursor_take hturn hreader
    refine ⟨later, by rwa [after_append], hlines'.trans hlines, ?_⟩
    rw [hlines] at hle'
    rw [List.countP_append, Nat.add_mul]
    omega

end Audience

/-- **Exactly once.** Whatever is written and whoever joins and polls, in any order: the texts that
a follower was given are the lines with increasing serial numbers, as they were written, and a
serial number that the follower has passed is among them unless its line was overwritten before the
poll that passed it. If no poll found the follower more than the capacity behind, these are all
lines up to its cursor. Once nothing more is written, it is at the end after as many polls as the
rest has batches, whatever the other followers do. -/
theorem delivered_exactly_once (server : ChildServer) (capacity : Nat) (room : 0 < capacity)
    (turns : List Turn) :
    let audience := (Audience.ofServer server capacity room).after turns
    let total := audience.server.ring.total
    let history := written turns
    ∀ (number : Nat) (follower : Follower), audience.followers[number]? = some follower →
      (∃ ids : List Nat, ids.Pairwise (· < ·) ∧
        (∀ id ∈ ids, id < follower.cursor.next ∧ id < history.length) ∧
        String.join ((audience.pollsOf number).map Poll.text) =
          Text.joinLines (ids.map (lineOf history)) ∧
        ∀ id < follower.cursor.next, id ∈ ids ∨
          ∃ poll ∈ audience.pollsOf number, poll.cursor ≤ id ∧ id + capacity < poll.total) ∧
      ((∀ poll ∈ audience.pollsOf number, poll.total - poll.cursor ≤ capacity) →
        String.join ((audience.pollsOf number).map Poll.text) =
          Text.joinLines (history.take follower.cursor.next)) ∧
      ∀ more, written more = [] →
        (total - follower.cursor.next) ⌈/⌉ (batchSize follower.maxLines).toNat ≤
          more.countP (·.isPollOf number) →
        ∃ later, (audience.after more).followers[number]? = some later ∧
          later.cursor.next = total := by
  intro audience total history number follower h
  have sound : audience.Sound history capacity :=
    (Audience.sound_ofServer server capacity room).after turns
  have htotal : total = history.length := sound.records.total_eq
  have hle := sound.cursor_le number follower h
  have hreceived := sound.received number follower h
  refine ⟨?_, hreceived.eq_take hle, fun more quiet henough => ?_⟩
  · obtain ⟨ids, hsorted, hlt, htext, hcover⟩ := hreceived
    exact ⟨ids, hsorted, fun id hid => ⟨hlt id hid, (hlt id hid).trans_le hle⟩, htext, hcover⟩
  · obtain ⟨later, hlater, -, hreach⟩ := sound.cursor_after quiet h
    refine ⟨later, hlater, ?_⟩
    have hpos : 0 < (batchSize follower.maxLines).toNat := by
      have := batchSize_pos follower.maxLines
      omega
    have hbatches := (ceilDiv_le_iff_le_mul hpos).mp henough
    have hsound := sound.after more
    rw [quiet, List.append_nil] at hsound
    have hend := hsound.cursor_le number later hlater
    rw [Nat.mul_comm] at hreach
    omega

/-- A follower that reads line by line from a ring of two, and polls again when its next line has
been overwritten. -/
def lateTurns : List Turn :=
  [.join 1 default, .write "a", .poll 0, .write "b", .write "c", .write "d", .poll 0]

theorem delivered_to_late_follower :
    0 < 2 ∧
      let audience := (Audience.ofServer default 2 (by decide)).after lateTurns
      ∃ follower, audience.followers[0]? = some follower ∧ follower.cursor.next = 3 ∧
        ∃ ids : List Nat, ids.Pairwise (· < ·) ∧
          String.join ((audience.pollsOf 0).map Poll.text) =
            Text.joinLines (ids.map (lineOf ["a", "b", "c", "d"])) ∧
          (1 ∈ ids ∨ ∃ poll ∈ audience.pollsOf 0, poll.cursor ≤ 1 ∧ 1 + 2 < poll.total) := by
  refine ⟨by decide, _, rfl, rfl, ?_⟩
  obtain ⟨⟨ids, hsorted, -, htext, hcover⟩, -, -⟩ :=
    delivered_exactly_once default 2 (by decide) lateTurns 0 _ rfl
  exact ⟨ids, hsorted, htext, hcover 1 (by decide)⟩

end Warden.ServerLog
