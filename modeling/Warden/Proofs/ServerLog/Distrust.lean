import Mathlib.Logic.Function.Basic
import Warden.Proofs.ServerLog.Delivery

/-!
# Readers that do not trust their source

Any number of readers read from one source, some with a cursor that they hold themselves, some as
followers with a display buffer. The source may fail at any time, and answer with any text or none
and with any serial number to go on from. No reader fails with it or goes back: a failed source has
nothing new, and every question goes on from where the reader is.

## Main definitions

* `recording`: a source with a record of what it is asked
* `Room`: the readers of a source
* `Call`, `serve`, `after`: a reader reads once; any number of these
* `Pulled`, `Served`: what a pull and a call come to

## Main results

* `ofInt_max`: the check of a new cursor never fails
* `exists_pulled`, `Pulled.le`: a pull does not fail, and does not go back
* `exists_served`: one call
* `never_rewound`: calls in every run
-/

namespace Warden.ServerLog

variable {ε : Type}

/-! ## One pull -/

/-- **The check of a new cursor** never fails: the larger of the old serial number and the new one is
not negative. -/
theorem ofInt_max (cursor : Cursor) (next : Int) :
    Cursor.ofInt (max cursor.next next) = .ok (cursor.advance next) := by
  have hnonneg : 0 ≤ max (cursor.next : Int) next := by omega
  have hnumber : (max (cursor.next : Int) next).toNat = max cursor.next next.toNat := by omega
  rw [Cursor.ofInt, if_pos hnonneg, hnumber]
  rfl

/-- What a pull makes of the outcome of the source: the text that was found, and the cursor at the
larger of the two serial numbers; or nothing, and the same cursor. -/
structure Pulled (cursor : Cursor) (outcome : Except Failure (Option String × Int))
    (text : String) (after : Cursor) : Prop where
  of_ok : ∀ found next, outcome = .ok (found, next) →
    text = found.getD "" ∧ Cursor.ofInt (max cursor.next next) = .ok after
  of_error : ∀ failure, outcome = .error failure → text = "" ∧ after = cursor

/-- **A pull does not go back.** -/
theorem Pulled.le {cursor after : Cursor} {outcome : Except Failure (Option String × Int)}
    {text : String} (h : Pulled cursor outcome text after) : cursor.next ≤ after.next := by
  cases outcome with
  | ok answer =>
    obtain ⟨-, hafter⟩ := h.of_ok answer.1 answer.2 rfl
    rw [ofInt_max] at hafter
    obtain rfl := Except.ok.inj hafter
    exact Nat.le_max_left ..
  | error failure =>
    obtain ⟨-, rfl⟩ := h.of_error failure rfl
    exact Nat.le_refl _

/-- **A pull does not fail** when the source fails in an ordinary way only. -/
theorem exists_pulled (source : Source ε) (cursor : Cursor) (lines : Int) (world : ε)
    (hordinary : ∀ failure, (source cursor.next (batchSize lines) world).outcome = .error failure →
      failure.isCancelled = false) :
    ∃ text after, (pull source cursor lines world).outcome = .ok (text, after) ∧
      Pulled cursor (source cursor.next (batchSize lines) world).outcome text after := by
  rw [pull, Act.outcome_bind, Act.run_attempt]
  cases hsource : (source cursor.next (batchSize lines) world).outcome with
  | ok answer =>
    obtain ⟨found, next⟩ := answer
    refine ⟨found.getD "", cursor.advance next, rfl, fun found next h => ?_, nofun⟩
    obtain ⟨rfl, rfl⟩ := Prod.mk.inj (Except.ok.inj h)
    exact ⟨rfl, ofInt_max cursor _⟩
  | error failure =>
    -- Only a cancelled wait is passed on.
    have hmild : failure.isCancelled = false := hordinary failure hsource
    refine ⟨"", cursor, ?_, nofun, fun _ _ => ⟨rfl, rfl⟩⟩
    simp [hmild]

/-- A follower that takes a text, and goes on from a cursor. -/
def Follower.taking (follower : Follower) (text : String) (cursor : Cursor) : Follower :=
  { follower with
    cursor
    buffer := if text = "" then follower.buffer else follower.buffer.append text }

theorem Follower.outcome_poll_of_ok {source : Source ε} {follower : Follower} {world : ε}
    {text : String} {cursor : Cursor}
    (h : (pull source follower.cursor follower.maxLines world).outcome = .ok (text, cursor)) :
    (follower.poll source world).outcome = .ok (text, follower.taking text cursor) := by
  rw [Follower.poll, Act.outcome_bind, h]
  simp [Follower.taking]

/-! ## Readers of one source -/

/-- A question to a source: the serial number to start from, and the largest number of lines. -/
structure Question where
  wanted : Int
  count : Int

/-- A source with a record of what it is asked. -/
def recording (source : Source ε) : Source (List Question × ε) := fun wanted count state =>
  let report := source wanted count state.2
  ⟨report.outcome, (state.1 ++ [⟨wanted, count⟩], report.state), report.log⟩

/-- The readers of a source. -/
structure Room (ε : Type) where
  /-- What the source was asked so far. -/
  asked : List Question
  world : ε
  /-- The cursors that readers hold themselves. -/
  cursors : Nat → Cursor
  followers : Nat → Follower

/-- A reader reads once. -/
inductive Call where
  /-- The holder of a cursor pulls a number of lines. -/
  | pull (holder : Nat) (lines : Int)
  | poll (number : Nat)

namespace Room

/-- The cursor of the reader that calls. -/
def cursor (room : Room ε) : Call → Cursor
  | .pull holder _ => room.cursors holder
  | .poll number => (room.followers number).cursor

/-- The number of lines that the reader wants. -/
def lines (room : Room ε) : Call → Int
  | .pull _ lines => lines
  | .poll number => (room.followers number).maxLines

/-- What the source is to be asked: to go on from the cursor of the reader, for as many lines as it
wants if these are 1 to 500, and for 200 if they are not. -/
def question (room : Room ε) (call : Call) : Question where
  wanted := (room.cursor call).next
  count := if 1 ≤ room.lines call ∧ room.lines call ≤ 500 then room.lines call else 200

/-- What the source answers to the question. -/
def answer (source : Source ε) (room : Room ε) (call : Call) : Report ε (Option String × Int) :=
  source (room.question call).wanted (room.question call).count room.world

end Room

/-- An act on the source and its record. -/
def onSource {α : Type} (act : Act (List Question × ε) α) : Act (Room ε) α :=
  act.within (fun room => (room.asked, room.world)) fun room state =>
    { room with asked := state.1, world := state.2 }

/-- A reader reads once, and keeps what it comes to. -/
def serve (source : Source ε) : Call → Act (Room ε) String
  | .pull holder lines => do
    let cursor := (← Act.get).cursors holder
    let (text, cursor) ← onSource (pull (recording source) cursor lines)
    Act.modify fun room => { room with cursors := Function.update room.cursors holder cursor }
    return text
  | .poll number => do
    let follower := (← Act.get).followers number
    let (text, follower) ← onSource (follower.poll (recording source))
    Act.modify fun room =>
      { room with followers := Function.update room.followers number follower }
    return text

/-- The room after calls. -/
def after (source : Source ε) (room : Room ε) (calls : List Call) : Room ε :=
  calls.foldl (fun room call => (serve source call room).state) room

/-- What a call comes to. The source is asked once. Only the reader that called changes: its cursor
as in a pull, and a buffer by the text, if there is any. -/
structure Served (source : Source ε) (before : Room ε) (call : Call) (text : String)
    (after : Room ε) : Prop where
  asked_eq : after.asked = before.asked ++ [before.question call]
  world_eq : after.world = (before.answer source call).state
  pulled : Pulled (before.cursor call) (before.answer source call).outcome text (after.cursor call)
  buffer_eq : ∀ number, call = .poll number → (after.followers number).buffer =
    if text = "" then (before.followers number).buffer
    else (before.followers number).buffer.append text
  maxLines_eq : ∀ number, (after.followers number).maxLines = (before.followers number).maxLines
  other_cursors : ∀ holder, (∀ lines, call ≠ .pull holder lines) →
    after.cursors holder = before.cursors holder
  other_followers : ∀ number, call ≠ .poll number →
    after.followers number = before.followers number

/-- The failures of a source are ordinary ones. -/
def IsOrdinarySource (source : Source ε) : Prop :=
  ∀ wanted count world failure, (source wanted count world).outcome = .error failure →
    failure.isCancelled = false

theorem question_eq (room : Room ε) (call : Call) :
    room.question call = ⟨(room.cursor call).next, batchSize (room.lines call)⟩ := by
  rw [Room.question, batchSize_eq]

/-- A recording source gives the answer to the question, which it enters in its record. -/
theorem recording_question (source : Source ε) (room : Room ε) (call : Call) :
    recording source (room.cursor call).next (batchSize (room.lines call))
        (room.asked, room.world) =
      ⟨(room.answer source call).outcome,
        (room.asked ++ [room.question call], (room.answer source call).state),
        (room.answer source call).log⟩ := by
  rw [Room.answer, question_eq]
  rfl

theorem run_onSource {α : Type} (act : Act (List Question × ε) α) (room : Room ε) :
    onSource act room =
      ⟨(act (room.asked, room.world)).outcome,
        { room with
          asked := (act (room.asked, room.world)).state.1
          world := (act (room.asked, room.world)).state.2 },
        (act (room.asked, room.world)).log⟩ := rfl

section Calls

variable {source : Source ε} (hordinary : IsOrdinarySource source)
include hordinary

/-- The pull of the reader that calls. -/
theorem exists_pulled_cursor (room : Room ε) (call : Call) :
    let report := pull (recording source) (room.cursor call) (room.lines call)
      (room.asked, room.world)
    ∃ text cursor, report.outcome = .ok (text, cursor) ∧
      report.state = (room.asked ++ [room.question call], (room.answer source call).state) ∧
      Pulled (room.cursor call) (room.answer source call).outcome text cursor := by
  intro report
  have hanswer := recording_question source room call
  obtain ⟨text, cursor, houtcome, hpulled⟩ := exists_pulled (recording source)
    (room.cursor call) (room.lines call) (room.asked, room.world) (hordinary _ _ _)
  rw [hanswer] at hpulled
  refine ⟨text, cursor, houtcome, ?_, hpulled⟩
  exact (state_pull ..).trans (congrArg Report.state hanswer)

/-- **A reader with its own cursor** keeps the new one. -/
theorem exists_served_pull (room : Room ε) (holder : Nat) (lines : Int) :
    let report := serve source (.pull holder lines) room
    ∃ text, report.outcome = .ok text ∧
      Served source room (.pull holder lines) text report.state := by
  intro report
  obtain ⟨text, cursor, houtcome, hstate, hpulled⟩ :=
    exists_pulled_cursor hordinary room (.pull holder lines)
  have hreport : report.outcome = .ok text ∧ report.state =
      { room with
        asked := room.asked ++ [room.question (.pull holder lines)]
        world := (room.answer source (.pull holder lines)).state
        cursors := Function.update room.cursors holder cursor } := by
    simp only [Room.cursor, Room.lines] at houtcome hstate
    simp [report, serve, run_onSource, houtcome, hstate]
  refine ⟨text, hreport.1, ?_⟩
  rw [hreport.2]
  refine ⟨rfl, rfl, ?_, nofun, fun _ => rfl, fun other hother => ?_, fun _ _ => rfl⟩
  · simpa [Room.cursor] using hpulled
  · exact Function.update_of_ne (fun heq => hother lines (by rw [heq])) ..

/-- **A follower** keeps the new cursor, and the text if there is any. -/
theorem exists_served_poll (room : Room ε) (number : Nat) :
    let report := serve source (.poll number) room
    ∃ text, report.outcome = .ok text ∧ Served source room (.poll number) text report.state := by
  intro report
  obtain ⟨text, cursor, houtcome, hstate, hpulled⟩ :=
    exists_pulled_cursor hordinary room (.poll number)
  -- The cursor and the buffer change together, once the pull has succeeded.
  have hpoll := Follower.outcome_poll_of_ok houtcome
  have hpolled : ((room.followers number).poll (recording source) (room.asked, room.world)).state =
      (room.asked ++ [room.question (.poll number)], (room.answer source (.poll number)).state) := by
    rw [Follower.state_poll, ← hstate, state_pull]
    rfl
  have hreport : report.outcome = .ok text ∧ report.state =
      { room with
        asked := room.asked ++ [room.question (.poll number)]
        world := (room.answer source (.poll number)).state
        followers :=
          Function.update room.followers number ((room.followers number).taking text cursor) } := by
    simp [report, serve, run_onSource, hpoll, hpolled]
  refine ⟨text, hreport.1, ?_⟩
  rw [hreport.2]
  refine ⟨rfl, rfl, ?_, fun other hother => ?_, fun other => ?_, fun _ _ => rfl,
    fun other hother => ?_⟩
  · simpa [Room.cursor, Follower.taking] using hpulled
  · obtain rfl := Call.poll.inj hother
    simp [Follower.taking]
  · show (Function.update room.followers number _ other).maxLines = _
    by_cases heq : other = number
    · rw [heq, Function.update_self]
      rfl
    · rw [Function.update_of_ne heq]
  · exact Function.update_of_ne (fun heq => hother (by rw [heq])) ..

/-- **One call**, whoever makes it. -/
theorem exists_served (room : Room ε) (call : Call) :
    ∃ text, (serve source call room).outcome = .ok text ∧
      Served source room call text (serve source call room).state := by
  cases call with
  | pull holder lines => exact exists_served_pull hordinary room holder lines
  | poll number => exact exists_served_poll hordinary room number

end Calls

/-! ## Runs -/

/-- A room after calls: no reader is back behind where it was, and every question that was asked
since starts from a serial number that is not negative, and is for 1 to 500 lines. -/
structure Onward (before after : Room ε) (count : Nat) : Prop where
  cursors_le : ∀ holder, (before.cursors holder).next ≤ (after.cursors holder).next
  followers_le : ∀ number,
    (before.followers number).cursor.next ≤ (after.followers number).cursor.next
  asked_eq : ∃ questions, after.asked = before.asked ++ questions ∧ questions.length = count ∧
    ∀ question ∈ questions, 0 ≤ question.wanted ∧ 1 ≤ question.count ∧ question.count ≤ 500

theorem Onward.refl (room : Room ε) : Onward room room 0 where
  cursors_le _ := Nat.le_refl _
  followers_le _ := Nat.le_refl _
  asked_eq := ⟨[], by simp⟩

theorem Onward.trans {first second third : Room ε} {count more : Nat}
    (h : Onward first second count) (hmore : Onward second third more) :
    Onward first third (count + more) where
  cursors_le holder := Nat.le_trans (h.cursors_le holder) (hmore.cursors_le holder)
  followers_le number := Nat.le_trans (h.followers_le number) (hmore.followers_le number)
  asked_eq := by
    obtain ⟨questions, hasked, rfl, hquestions⟩ := h.asked_eq
    obtain ⟨others, hothers, rfl, hranges⟩ := hmore.asked_eq
    refine ⟨questions ++ others, ?_, List.length_append, fun question hmem => ?_⟩
    · rw [hothers, hasked, List.append_assoc]
    · exact (List.mem_append.mp hmem).elim (hquestions question) (hranges question)

/-- **A call** takes no reader back. -/
theorem Served.onward {source : Source ε} {before after : Room ε} {call : Call} {text : String}
    (h : Served source before call text after) : Onward before after 1 where
  cursors_le holder := by
    by_cases hcall : ∃ lines, call = .pull holder lines
    · obtain ⟨lines, rfl⟩ := hcall
      exact h.pulled.le
    · rw [h.other_cursors holder fun lines heq => hcall ⟨lines, heq⟩]
  followers_le number := by
    by_cases hcall : call = .poll number
    · subst hcall
      exact h.pulled.le
    · rw [h.other_followers number hcall]
  asked_eq := by
    refine ⟨[before.question call], h.asked_eq, rfl, fun question hmem => ?_⟩
    rw [List.mem_singleton.mp hmem, question_eq]
    exact ⟨Int.natCast_nonneg _, batchSize_range _⟩

/-- **Any number of calls** take no reader back. -/
theorem onward_after {source : Source ε} (hordinary : IsOrdinarySource source) (room : Room ε)
    (calls : List Call) : Onward room (after source room calls) calls.length := by
  -- By induction on the last call, with what one call does as the step.
  induction calls using List.reverseRecOn with
  | nil => exact .refl room
  | append_singleton calls call ih =>
    obtain ⟨text, -, hserved⟩ := exists_served hordinary (after source room calls) call
    rw [after, List.foldl_concat, ← after, List.length_append]
    exact ih.trans hserved.onward

/-- **A source that misbehaves does not take its readers back, and does not break them.** Whatever it
answers, and however it fails short of being cancelled, no call fails, in any run from any cursors
and with any numbers of lines. The source is asked once in each call, from the cursor of the reader
and for 1 to 500 lines. If it fails, the text is empty and the reader is as before. Otherwise the
text is what was found, the cursor goes on to the larger of the two serial numbers, and a follower
appends a text that is not empty. -/
theorem never_rewound (source : Source ε) (hordinary : IsOrdinarySource source) (room : Room ε)
    (calls : List Call) :
    Onward room (after source room calls) calls.length ∧
      ∀ call, ∃ text, (serve source call (after source room calls)).outcome = .ok text ∧
        Served source (after source room calls) call text
          (serve source call (after source room calls)).state :=
  ⟨onward_after hordinary room calls, fun call => exists_served hordinary _ call⟩

/-- A source that fails, or answers, as it is told. -/
def moody : Source (List (Option (Option String × Int))) := fun _ _ answers =>
  match answers with
  | [] => ⟨.ok (none, -1), [], []⟩
  | none :: rest => ⟨.error .noMemory, rest, []⟩
  | some answer :: rest => ⟨.ok answer, rest, []⟩

/-- Readers of a source that fails first, names a serial number below zero then, and has a line at
last. -/
def moodyRoom : Room (List (Option (Option String × Int))) where
  asked := []
  world := [none, some (none, -3), some (some "a\n", 9)]
  cursors _ := ⟨7⟩
  followers _ := { maxLines := 1000, cursor := ⟨4⟩ }

/-- The follower and the holder of a cursor are where they were after the first two answers, and the
follower is given the line. -/
theorem never_rewound_moody :
    IsOrdinarySource moody ∧
      let before := after moody moodyRoom [.poll 0, .pull 1 501]
      (7 ≤ (before.cursors 1).next ∧ 4 ≤ (before.followers 0).cursor.next) ∧
      ∃ text, (serve moody (.poll 0) before).outcome = .ok text ∧ text = "a\n" ∧
        Cursor.ofInt 9 = .ok ((serve moody (.poll 0) before).state.followers 0).cursor := by
  have hordinary : IsOrdinarySource moody := by
    intro _ _ answers failure h
    rcases answers with _ | ⟨_ | _, _⟩ <;> cases h
    rfl
  refine ⟨hordinary, ?_⟩
  intro before
  obtain ⟨honward, hserved⟩ := never_rewound moody hordinary moodyRoom [.poll 0, .pull 1 501]
  refine ⟨⟨honward.cursors_le 1, honward.followers_le 0⟩, ?_⟩
  obtain ⟨text, houtcome, hserved⟩ := hserved (.poll 0)
  obtain ⟨htext, hcursor⟩ := hserved.pulled.of_ok (some "a\n") 9 rfl
  exact ⟨text, houtcome, htext, hcursor⟩

end Warden.ServerLog
