import Warden.Proofs.ServerLog.Retained

/-!
# What a buffer keeps

A buffer shows the end of everything that was added to it. Text that fits stays whole. When it does
not fit, the buffer keeps the newest lines: the longest end of the text that begins right after a
line feed and has fewer characters than half of the bound. So a buffer of whole lines stays one.

## Main definitions

* `BeginsLine`: an end of a text that begins right after a line feed
* `IsNewest`: the longest such end with fewer characters than a bound, or nothing
* `Buffer.appendAll`, `Buffer.overruns`: a buffer after many texts, and how many did not fit

## Main results

* `isNewest_newestLines`: what a cut leaves is the newest lines
* `newest_lines_kept`: what a buffer shows after any texts, and what becomes of the next one
-/

namespace Warden.ServerLog

open Warden.Text

/-! ## The newest lines of a text -/

/-- An end of a text that begins right after a line feed. -/
def BeginsLine (text kept : List Char) : Prop :=
  ∃ before, text = before ++ '\n' :: kept

/-- The longest end of a text that begins right after a line feed and has fewer than `count`
characters, or nothing if there is no such end. -/
structure IsNewest (count : Nat) (text kept : List Char) : Prop where
  begins : (∃ other, BeginsLine text other ∧ other.length < count) →
    BeginsLine text kept ∧ kept.length < count
  longest : ∀ other, BeginsLine text other → other.length < count → other.length ≤ kept.length
  nothing : (¬ ∃ other, BeginsLine text other ∧ other.length < count) → kept = []

theorem newestLines_eq (count : Nat) (text : List Char) :
    newestLines count text = afterFeed (text.drop (text.length - count)) := rfl

/-- No end that begins right after a line feed is longer than the one after the first of them. -/
theorem length_le_afterFeed {text other : List Char} (h : BeginsLine text other) :
    other.length ≤ (afterFeed text).length := by
  obtain ⟨before, rfl⟩ := h
  induction before with
  | nil => simp
  | cons c before ih =>
    rw [List.cons_append]
    by_cases hfeed : c = '\n'
    · subst hfeed
      rw [afterFeed_feed, List.length_append, List.length_cons]
      omega
    · rwa [afterFeed_cons hfeed]

theorem beginsLine_afterFeed {text : List Char} (h : '\n' ∈ text) :
    BeginsLine text (afterFeed text) := by
  induction text with
  | nil => cases h
  | cons c text ih =>
    by_cases hfeed : c = '\n'
    · subst hfeed
      exact ⟨[], by simp⟩
    · obtain ⟨before, htext⟩ := ih ((List.mem_cons.mp h).resolve_left (Ne.symm hfeed))
      refine ⟨c :: before, ?_⟩
      rw [afterFeed_cons hfeed, List.cons_append, ← htext]

/-- An end with fewer than `count` characters begins right after one of the last `count`
characters. -/
theorem beginsLine_drop {count : Nat} {text other : List Char} :
    BeginsLine (text.drop (text.length - count)) other ↔
      BeginsLine text other ∧ other.length < count := by
  constructor
  · rintro ⟨before, hend⟩
    refine ⟨⟨text.take (text.length - count) ++ before, ?_⟩, ?_⟩
    · rw [List.append_assoc, ← hend, List.take_append_drop]
    · have hlength := congrArg List.length hend
      simp only [List.length_drop, List.length_append, List.length_cons] at hlength
      omega
  · rintro ⟨⟨before, rfl⟩, hshort⟩
    refine ⟨before.drop ((before ++ '\n' :: other).length - count), ?_⟩
    apply List.drop_append_of_le_length
    rw [List.length_append, List.length_cons]
    omega

/-- **What a cut leaves is the newest lines.** -/
theorem isNewest_newestLines (count : Nat) (text : List Char) :
    IsNewest count text (newestLines count text) := by
  rw [newestLines_eq]
  constructor
  · rintro ⟨other, hother⟩
    obtain ⟨before, hend⟩ := beginsLine_drop.mpr hother
    -- There is a line feed among the last characters, so the cut is after the first one.
    have hfeed : '\n' ∈ text.drop (text.length - count) := by simp [hend]
    exact beginsLine_drop.mp (beginsLine_afterFeed hfeed)
  · intro other hbegins hshort
    exact length_le_afterFeed (beginsLine_drop.mpr ⟨hbegins, hshort⟩)
  · intro hnone
    apply afterFeed_of_notMem
    intro hfeed
    exact hnone ⟨_, beginsLine_drop.mp (beginsLine_afterFeed hfeed)⟩

/-- What is dropped before the newest lines ends with a line, unless nothing is left. -/
theorem IsNewest.exists_dropped {count : Nat} {text kept : List Char} (h : IsNewest count text kept) :
    ∃ dropped, text = dropped ++ kept ∧ (IsClosed dropped ∨ kept = []) := by
  by_cases hsome : ∃ other, BeginsLine text other ∧ other.length < count
  · obtain ⟨⟨before, htext⟩, -⟩ := h.begins hsome
    exact ⟨before ++ ['\n'], by simpa using htext, .inl (isClosed_concat before)⟩
  · obtain rfl := h.nothing hsome
    exact ⟨text, (List.append_nil text).symm, .inr rfl⟩

/-! ## Adding texts to a buffer -/

namespace Buffer

/-- The buffer after a number of texts were added. -/
def appendAll (buffer : Buffer) (texts : List String) : Buffer :=
  texts.foldl append buffer

/-- How many of the texts that are added do not fit. -/
def overruns (buffer : Buffer) : List String → Nat
  | [] => 0
  | more :: texts =>
    (if buffer.maxChars < (buffer.text ++ more).length then 1 else 0) +
      (buffer.append more).overruns texts

theorem appendAll_concat (buffer : Buffer) (texts : List String) (more : String) :
    buffer.appendAll (texts ++ [more]) = (buffer.appendAll texts).append more := by
  rw [appendAll, List.foldl_append]
  rfl

@[simp] theorem maxChars_appendAll (buffer : Buffer) (texts : List String) :
    (buffer.appendAll texts).maxChars = buffer.maxChars := by
  induction texts generalizing buffer with
  | nil => rfl
  | cons more texts ih => exact (ih (buffer.append more)).trans (maxChars_append buffer more)

theorem trimmed_appendAll (buffer : Buffer) (texts : List String) :
    (buffer.appendAll texts).trimmed = buffer.trimmed + buffer.overruns texts := by
  induction texts generalizing buffer with
  | nil => rfl
  | cons more texts ih =>
    have hcons : buffer.appendAll (more :: texts) = (buffer.append more).appendAll texts := rfl
    have hone : (buffer.append more).trimmed = buffer.trimmed +
        if buffer.maxChars < (buffer.text ++ more).length then 1 else 0 := by
      rw [append]
      split_ifs <;> rfl
    rw [hcons, ih, hone, overruns, Nat.add_assoc]

variable {buffer : Buffer} {more : String}

/-- Text that fits stays whole. -/
theorem text_append_of_le (h : (buffer.text ++ more).length ≤ buffer.maxChars) :
    (buffer.append more).text = buffer.text ++ more := by
  rw [append, if_neg (Nat.not_lt.mpr h)]

/-- Of text that does not fit, the newest lines are kept. -/
theorem isNewest_append (h : buffer.maxChars < (buffer.text ++ more).length) :
    IsNewest (buffer.maxChars / 2) (buffer.text ++ more).toList
      (buffer.append more).text.toList := by
  have htext : (buffer.append more).text.toList =
      newestLines (buffer.maxChars / 2) (buffer.text ++ more).toList := by
    rw [append, if_pos h, String.toList_ofList]
  rw [htext]
  exact isNewest_newestLines _ _

/-- A buffer shows an end of its earlier text and the new one. What it dropped ends with a line,
unless nothing is left. -/
theorem exists_dropped (buffer : Buffer) (more : String) :
    ∃ dropped, (buffer.text ++ more).toList = dropped ++ (buffer.append more).text.toList ∧
      (IsClosed dropped ∨ (buffer.append more).text.toList = []) := by
  rcases Nat.lt_or_ge buffer.maxChars (buffer.text ++ more).length with hover | hfits
  · exact (isNewest_append hover).exists_dropped
  · exact ⟨[], by rw [text_append_of_le hfits, List.nil_append], .inl (.inl rfl)⟩

/-- A buffer never shows more than its bound, however it came about. -/
theorem length_appendAll_le (maxChars : Nat) (room : 0 < maxChars) (texts : List String) :
    ((empty maxChars room).appendAll texts).text.length ≤ maxChars := by
  induction texts using List.reverseRecOn with
  | nil => exact Nat.zero_le _
  | append_singleton texts more ih =>
    have hle := length_append_le ((empty maxChars room).appendAll texts) more
    rw [maxChars_appendAll] at hle
    rw [appendAll_concat]
    exact hle

/-- **A buffer shows an end of everything that was added.** -/
theorem text_appendAll_suffix (maxChars : Nat) (room : 0 < maxChars) (texts : List String) :
    ((empty maxChars room).appendAll texts).text.toList <:+ (String.join texts).toList := by
  induction texts using List.reverseRecOn with
  | nil => exact List.suffix_rfl
  | append_singleton texts more ih =>
    obtain ⟨earlier, hearlier⟩ := ih
    obtain ⟨dropped, hdropped, -⟩ :=
      exists_dropped ((empty maxChars room).appendAll texts) more
    refine ⟨earlier ++ dropped, ?_⟩
    rw [appendAll_concat, join_concat, String.toList_append, ← hearlier, List.append_assoc,
      ← hdropped, String.toList_append, List.append_assoc]

/-- **A buffer of whole lines shows whole lines**: what came before them ends with a line. -/
theorem exists_closed (maxChars : Nat) (room : 0 < maxChars) {texts : List String}
    (h : ∀ text ∈ texts, text.toList.getLast? = some '\n') :
    ∃ before, (String.join texts).toList =
        before ++ ((empty maxChars room).appendAll texts).text.toList ∧
      IsClosed before ∧ IsClosed ((empty maxChars room).appendAll texts).text.toList := by
  induction texts using List.reverseRecOn with
  | nil => exact ⟨[], rfl, .inl rfl, .inl rfl⟩
  | append_singleton texts more ih =>
    obtain ⟨before, hstream, hbefore, hclosed⟩ :=
      ih fun text htext => h text (List.mem_append_left _ htext)
    have hmore : IsClosed more.toList := .inr (h more (by simp))
    rw [appendAll_concat, join_concat, String.toList_append, hstream, List.append_assoc,
      ← String.toList_append]
    generalize (empty maxChars room).appendAll texts = buffer at hclosed ⊢
    have hwhole : IsClosed (buffer.text ++ more).toList := by
      rw [String.toList_append]
      exact hclosed.append hmore
    obtain ⟨dropped, hdropped, hcut⟩ := exists_dropped buffer more
    rw [hdropped] at hwhole
    refine ⟨before ++ dropped, by rw [hdropped, List.append_assoc], hbefore.append ?_,
      hwhole.of_append⟩
    rcases hcut with hcut | hnone
    · exact hcut
    · -- Nothing is left, so what was dropped is everything there was.
      rwa [hnone, List.append_nil] at hwhole

end Buffer

/-- **A buffer keeps the newest whole lines.** After any texts, what it shows has at most as many
characters as it has room for and is an end of everything that was added; it counts the texts that
did not fit and the line feeds on display. The next text is added as it is if it fits, and otherwise
the newest lines of both are kept, fewer characters than half of the room. If every text ends with a
line feed, only whole lines are shown, and only whole lines were dropped before them. -/
theorem newest_lines_kept (maxChars : Nat) (room : 0 < maxChars) (texts : List String) :
    ((Buffer.empty maxChars room).appendAll texts).text.length ≤ maxChars ∧
    let buffer := (Buffer.empty maxChars room).appendAll texts
    let stream := String.join texts
    buffer.text.toList <:+ stream.toList ∧
    buffer.trimmed = (Buffer.empty maxChars room).overruns texts ∧
    buffer.lineCount = buffer.text.toList.count '\n' ∧
    (∀ more : String,
      ((buffer.text ++ more).length ≤ maxChars →
        (buffer.append more).text = buffer.text ++ more) ∧
      (maxChars < (buffer.text ++ more).length →
        IsNewest (maxChars / 2) (buffer.text ++ more).toList
          (buffer.append more).text.toList)) ∧
    ((∀ text ∈ texts, text.toList.getLast? = some '\n') →
      ∃ before, stream.toList = before ++ buffer.text.toList ∧ IsClosed before ∧
        IsClosed buffer.text.toList) := by
  refine ⟨Buffer.length_appendAll_le maxChars room texts, ?_⟩
  intro buffer stream
  have hbound : buffer.maxChars = maxChars := Buffer.maxChars_appendAll ..
  refine ⟨Buffer.text_appendAll_suffix maxChars room texts, ?_, buffer.lineCount_eq,
    fun more => ⟨?_, ?_⟩, Buffer.exists_closed maxChars room⟩
  · exact (Buffer.trimmed_appendAll ..).trans (Nat.zero_add _)
  · intro hfits
    exact Buffer.text_append_of_le (hbound.symm ▸ hfits)
  · intro hover
    have hnewest : IsNewest (buffer.maxChars / 2) (buffer.text ++ more).toList
        (buffer.append more).text.toList := Buffer.isNewest_append (hbound.symm ▸ hover)
    rwa [hbound] at hnewest

/-- A buffer with room for eight characters, to which three lines are added. -/
theorem newest_lines_kept_small :
    0 < 8 ∧ (∀ text ∈ ["a\n", "bcd\n", "ef\n"], text.toList.getLast? = some '\n') ∧
      let buffer := (Buffer.empty 8 (by decide)).appendAll ["a\n", "bcd\n", "ef\n"]
      buffer.trimmed = 1 ∧ buffer.text.toList <:+ (String.join ["a\n", "bcd\n", "ef\n"]).toList ∧
        IsClosed buffer.text.toList := by
  have hclosed : ∀ text ∈ ["a\n", "bcd\n", "ef\n"], text.toList.getLast? = some '\n' := by decide
  obtain ⟨-, hsuffix, htrimmed, -, -, hlines⟩ :=
    newest_lines_kept 8 (by decide) ["a\n", "bcd\n", "ef\n"]
  refine ⟨by decide, hclosed, ?_, hsuffix, ?_⟩
  · exact htrimmed.trans (by decide +kernel)
  · obtain ⟨-, -, -, hshown⟩ := hlines hclosed
    exact hshown

end Warden.ServerLog
