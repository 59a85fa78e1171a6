import Warden.Proofs.ServerLog.Delivery
import Warden.Proofs.Text.Lines

/-!
# What followers retain

A follower keeps the newest of the text that it was given in a buffer of bounded size. When the
buffer runs over, it drops text up to the end of a line, and the line itself may be dropped as well:
whole lines are left, or nothing. So the buffer holds the end of what the follower was given, from
the beginning of a line on, whichever lines were overwritten before.

## Main definitions

* `IsLine`: a text within one line
* `Holds`: a buffer with the newest lines of what polls gave

## Main results

* `newestLines_joinLines`: cutting a text of lines leaves whole lines
* `Buffer.length_append_le`: a buffer never grows past its bound
* `Holds.afterPoll`: what a poll keeps
-/

namespace Warden.ServerLog

/-! ## Cutting a text of lines -/

/-- A text within one line. -/
def IsLine (line : String) : Prop :=
  '\n' ∉ line.toList

instance : DecidablePred IsLine :=
  fun line => inferInstanceAs (Decidable ('\n' ∉ line.toList))

/-- What follows the first line feed is whole lines, wherever a text of lines is cut. -/
theorem exists_cut_joinLines {lines : List String} (h : ∀ line ∈ lines, IsLine line) (count : Nat) :
    ∃ dropped kept, lines = dropped ++ kept ∧
      (((Text.joinLines lines).toList.drop count).dropWhile (· != '\n')).drop 1 =
        (Text.joinLines kept).toList := by
  induction lines generalizing count with
  | nil => exact ⟨[], [], rfl, by simp⟩
  | cons line lines ih =>
    rw [Text.toList_joinLines_cons]
    rcases Nat.lt_or_ge line.toList.length count with hpast | hwithin
    · -- The cut is in one of the later lines.
      obtain ⟨rest, rfl⟩ := Nat.exists_eq_add_of_lt hpast
      obtain ⟨dropped, kept, hlines, hkept⟩ :=
        ih (fun other hother => h other (List.mem_cons_of_mem _ hother)) rest
      refine ⟨line :: dropped, kept, by rw [hlines, List.cons_append], ?_⟩
      rw [Nat.add_assoc, List.drop_length_add_append, List.drop_succ_cons, hkept]
    · -- The cut is in this line, of which nothing is left then.
      refine ⟨[line], lines, rfl, ?_⟩
      have hrest : ∀ c ∈ line.toList.drop count, (c != '\n') = true := by
        intro c hc
        refine bne_iff_ne.mpr fun hfeed => h line List.mem_cons_self ?_
        exact hfeed ▸ List.mem_of_mem_drop hc
      rw [List.drop_append_of_le_length hwithin, List.dropWhile_append_of_pos hrest]
      rfl

theorem newestLines_joinLines {lines : List String} (h : ∀ line ∈ lines, IsLine line)
    (count : Nat) :
    ∃ dropped kept, lines = dropped ++ kept ∧
      String.ofList (newestLines count (Text.joinLines lines).toList) = Text.joinLines kept := by
  obtain ⟨dropped, kept, hlines, hkept⟩ := exists_cut_joinLines h _
  refine ⟨dropped, kept, hlines, ?_⟩
  rw [newestLines, hkept, String.ofList_toList]

theorem length_newestLines_le (count : Nat) (text : List Char) :
    (newestLines count text).length ≤ count := by
  have hwhile := (List.dropWhile_suffix (p := (· != '\n'))
    (l := text.drop (text.length - count))).length_le
  rw [newestLines, List.length_drop]
  rw [List.length_drop] at hwhile
  omega

namespace Buffer

variable {buffer : Buffer}

@[simp] theorem maxChars_append (buffer : Buffer) (more : String) :
    (buffer.append more).maxChars = buffer.maxChars := by
  unfold append
  dsimp only
  split_ifs <;> rfl

/-- A buffer never grows past its bound. -/
theorem length_append_le (buffer : Buffer) (more : String) :
    (buffer.append more).text.length ≤ buffer.maxChars := by
  unfold append
  dsimp only
  split_ifs with hover
  · have hle := length_newestLines_le (buffer.maxChars / 2) (buffer.text ++ more).toList
    rw [String.length_ofList]
    omega
  · exact Nat.le_of_not_lt hover

/-- More lines in a buffer of lines leave lines, and only older ones are dropped. -/
theorem exists_append_joinLines {kept : List String} (htext : buffer.text = Text.joinLines kept)
    {more : List String} (h : ∀ line ∈ kept ++ more, IsLine line) :
    ∃ dropped left, kept ++ more = dropped ++ left ∧
      (buffer.append (Text.joinLines more)).text = Text.joinLines left := by
  have hwhole : buffer.text ++ Text.joinLines more = Text.joinLines (kept ++ more) := by
    rw [Text.joinLines_append, htext]
  unfold append
  dsimp only
  rw [hwhole]
  split_ifs
  · exact newestLines_joinLines h _
  · exact ⟨[], _, rfl, rfl⟩

/-- The number of lines on display is the number of line feeds. -/
theorem lineCount_eq (buffer : Buffer) : buffer.lineCount = buffer.text.toList.count '\n' := by
  have hcount : ∀ (chars : List Char) (count : Nat),
      chars.foldl (fun count c => if c == '\n' then count + 1 else count) count =
        count + chars.count '\n' := by
    intro chars
    induction chars with
    | nil => exact fun count => rfl
    | cons c chars ih =>
      intro count
      rw [List.foldl_cons, ih, List.count_cons]
      split_ifs <;> omega
  rw [lineCount, Text.countFeeds, String.foldl_eq_foldl_toList, hcount, Nat.zero_add]

end Buffer

/-! ## Followers and their buffers -/

/-- A buffer holds the newest lines of a history that polls gave. -/
structure Holds (history : List String) (polls : List Poll) (buffer : Buffer) : Prop where
  length_le : buffer.text.length ≤ buffer.maxChars
  lines : (∀ line ∈ history, IsLine line) →
    ∃ dropped kept, (∀ line ∈ dropped ++ kept, line ∈ history) ∧
      String.join (polls.map Poll.text) = Text.joinLines (dropped ++ kept) ∧
      buffer.text = Text.joinLines kept

theorem holds_empty (history : List String) (maxChars : Nat) (h : 0 < maxChars) :
    Holds history [] (.empty maxChars h) :=
  ⟨Nat.zero_le _, fun _ => ⟨[], [], nofun, rfl, rfl⟩⟩

variable {history : List String} {polls : List Poll} {buffer : Buffer}

theorem Holds.of_history (holds : Holds history polls buffer) (more : List String) :
    Holds (history ++ more) polls buffer := by
  refine ⟨holds.length_le, fun hlines => ?_⟩
  obtain ⟨dropped, kept, hmem, hgiven, htext⟩ :=
    holds.lines fun line hline => hlines line (List.mem_append_left _ hline)
  exact ⟨dropped, kept, fun line hline => List.mem_append_left _ (hmem line hline), hgiven, htext⟩

/-- A ring of a history hands out lines of it. -/
theorem Ring.Records.exists_text {ring : Ring} (records : ring.Records history)
    (wanted count : Int) : ∃ lines, (∀ line ∈ lines, line ∈ history) ∧
      (ring.text wanted count).1 = Text.joinLines lines := by
  refine ⟨_, fun line hline => ?_, records.text_eq wanted count⟩
  obtain ⟨id, hid, rfl⟩ := List.mem_map.mp hline
  have hlt : id < history.length := by
    rw [← records.total_eq]
    exact (Ring.mem_handed.mp hid).2.trans_le (Nat.min_le_left _ _)
  rw [lineOf, List.getElem?_eq_getElem hlt]
  exact List.getElem_mem hlt

theorem Follower.buffer_afterPoll (follower : Follower) (ring : Ring) :
    (follower.afterPoll ring).buffer =
      if (follower.textFrom ring).isEmpty then follower.buffer
      else follower.buffer.append (follower.textFrom ring) := rfl

@[simp] theorem Follower.maxChars_afterPoll (follower : Follower) (ring : Ring) :
    (follower.afterPoll ring).buffer.maxChars = follower.buffer.maxChars := by
  rw [buffer_afterPoll]
  split_ifs
  · rfl
  · exact Buffer.maxChars_append ..

/-- **What a poll keeps.** -/
theorem Holds.afterPoll {ring : Ring} {follower : Follower}
    (holds : Holds history polls follower.buffer) (records : ring.Records history) (poll : Poll)
    (hpoll : poll.text = follower.textFrom ring) :
    Holds history (polls ++ [poll]) (follower.afterPoll ring).buffer := by
  have hgiven : String.join ((polls ++ [poll]).map Poll.text) =
      String.join (polls.map Poll.text) ++ follower.textFrom ring := by
    rw [List.map_append, List.map_singleton, join_concat, hpoll]
  rw [Follower.buffer_afterPoll]
  split_ifs with hempty
  · rw [String.isEmpty_iff.mp hempty, String.append_empty] at hgiven
    exact ⟨holds.length_le, hgiven ▸ holds.lines⟩
  · refine ⟨?_, fun hlines => ?_⟩
    · rw [Buffer.maxChars_append]
      exact Buffer.length_append_le ..
    · obtain ⟨dropped, kept, hmem, htext, hkept⟩ := holds.lines hlines
      obtain ⟨new, hnew, hfrom⟩ := records.exists_text follower.cursor.next
        (batchSize follower.maxLines)
      -- The text is added to the kept lines, and lines are lost at their beginning only.
      have hall : ∀ line ∈ dropped ++ (kept ++ new), line ∈ history := by
        intro line hline
        rw [← List.append_assoc] at hline
        exact (List.mem_append.mp hline).elim (hmem line) (hnew line)
      have hkeep : ∀ line ∈ kept ++ new, IsLine line :=
        fun line hline => hlines line (hall line (List.mem_append_right _ hline))
      obtain ⟨lost, left, hleft, hafter⟩ := Buffer.exists_append_joinLines hkept hkeep
      refine ⟨dropped ++ lost, left, ?_, ?_, ?_⟩
      · rw [List.append_assoc, ← hleft]
        exact hall
      · rw [hgiven, htext, List.append_assoc dropped, ← hleft, ← List.append_assoc,
          Text.joinLines_append (dropped ++ kept)]
        exact congrArg _ hfrom
      · rw [← hafter]
        exact congrArg (fun text => (follower.buffer.append text).text) hfrom

namespace Audience

/-- The buffers of the followers hold the newest lines that these were given. -/
def Retains (audience : Audience) (history : List String) (maxChars : Nat) : Prop :=
  ∀ (number : Nat) (follower : Follower), audience.followers[number]? = some follower →
    follower.buffer.maxChars = maxChars ∧
      Holds history (audience.pollsOf number) follower.buffer

variable {audience : Audience} {capacity maxChars : Nat}

theorem Retains.join (retains : audience.Retains history maxChars)
    (sound : audience.Sound history capacity) (maxLines : Int) (h : 0 < maxChars) :
    (audience.take (.join maxLines (.empty maxChars h))).Retains history maxChars := by
  intro number follower hfollower
  rcases Nat.lt_or_ge number audience.followers.length with hold | hnew
  · exact retains number follower ((List.getElem?_append_left hold).symm.trans hfollower)
  · have hpolls : audience.pollsOf number = [] :=
      List.filter_eq_nil_iff.mpr fun poll hpoll =>
        mt beq_iff_eq.mp ((sound.polled poll hpoll).trans_le hnew).ne
    have hfound := (List.getElem?_append_right hnew).symm.trans hfollower
    rw [List.getElem?_singleton] at hfound
    split_ifs at hfound
    obtain rfl := Option.some.inj hfound
    refine ⟨rfl, ?_⟩
    change Holds history (audience.pollsOf number) _
    rw [hpolls]
    exact holds_empty history maxChars h

theorem Retains.poll (retains : audience.Retains history maxChars)
    (sound : audience.Sound history capacity) (number : Nat) :
    (audience.poll number).Retains history maxChars := by
  cases hfollower : audience.followers[number]? with
  | none => rwa [poll_of_none hfollower]
  | some follower =>
    rw [sound.poll_eq hfollower]
    intro other reader hreader
    by_cases hother : number = other
    · subst hother
      have hlt : number < audience.followers.length := (List.getElem?_eq_some_iff.mp hfollower).1
      obtain rfl : follower.afterPoll audience.server.ring = reader := by
        simpa [hlt] using hreader
      obtain ⟨hbound, hholds⟩ := retains number follower hfollower
      refine ⟨(follower.maxChars_afterPoll _).trans hbound, ?_⟩
      have hafter := hholds.afterPoll sound.records
        ⟨number, audience.server.ring.total, follower.cursor.next,
          follower.textFrom audience.server.ring⟩ rfl
      simpa [pollsOf] using hafter
    · rw [List.getElem?_set_ne hother] at hreader
      simpa [pollsOf, hother] using retains other reader hreader

end Audience

end Warden.ServerLog
