import Mathlib.Data.List.Basic
import Mathlib.Data.List.TakeWhile
import Warden.Text.Line

/-!
# Lines and the text they make

Cutting a text into lines loses nothing but the way in which its lines end, so the lines, each
closed by a line feed, give back the text with a line feed for every line end. Lines can then be
counted and dropped in the text itself. Cut at every line boundary, a text has the same lines apart
from empty ones, whichever line ends belong together.

## Main definitions

* `afterFeed`, `dropLines`, `lastLines`: what is left of a text without its first lines
* `IsClosed`, `closed`: a text whose last line has ended; a text with the line feed that is missing
* `fed`: a text with a line feed for every line end

## Main results

* `toList_joinLines_splitFeeds`: the lines of a text, put together again, are the closed text
* `unifyLineEnds_eq_fed`: what a stream makes of the line ends
* `unifiedSoFar_prefix`: what it made so far begins what it makes of any text that goes on
* `exists_ended_append`: a text is the lines of it that have ended, and a line that has not
* `dropLines_joinLines`: dropping lines in a text of lines
* `filter_splitLines`: the lines of a text are its pieces between line boundaries
-/

namespace Warden.Text

/-! ## What follows a line feed -/

/-- The text after its first line feed. -/
def afterFeed (text : List Char) : List Char :=
  (text.dropWhile (· != '\n')).drop 1

@[simp] theorem afterFeed_feed (text : List Char) : afterFeed ('\n' :: text) = text := by
  simp [afterFeed]

theorem afterFeed_cons {c : Char} (h : c ≠ '\n') (text : List Char) :
    afterFeed (c :: text) = afterFeed text := by
  simp [afterFeed, h]

theorem afterFeed_append {line : List Char} (h : '\n' ∉ line) (text : List Char) :
    afterFeed (line ++ '\n' :: text) = text := by
  induction line with
  | nil => simp
  | cons c line ih =>
    rw [List.mem_cons, not_or] at h
    rw [List.cons_append, afterFeed_cons (Ne.symm h.1), ih h.2]

theorem afterFeed_of_notMem {text : List Char} (h : '\n' ∉ text) : afterFeed text = [] := by
  induction text with
  | nil => rfl
  | cons c text ih =>
    rw [List.mem_cons, not_or] at h
    rw [afterFeed_cons (Ne.symm h.1), ih h.2]

/-- The text without its first lines. -/
def dropLines : Nat → List Char → List Char
  | 0, text => text
  | count + 1, text => dropLines count (afterFeed text)

/-- The last lines of a text whose last line has ended. -/
def lastLines (count : Nat) (text : List Char) : List Char :=
  dropLines (text.count '\n' - count) text

/-- A text with no more lines than are wanted is wanted as a whole. -/
theorem lastLines_of_le {count : Nat} {text : List Char} (h : text.count '\n' ≤ count) :
    lastLines count text = text := by
  rw [lastLines, Nat.sub_eq_zero_of_le h, dropLines]

/-! ## Texts of whole lines -/

/-- A text without a line that has begun and not ended. -/
def IsClosed (text : List Char) : Prop :=
  text = [] ∨ text.getLast? = some '\n'

instance : DecidablePred IsClosed :=
  fun text => inferInstanceAs (Decidable (text = [] ∨ _))

theorem isClosed_concat (text : List Char) : IsClosed (text ++ ['\n']) :=
  .inr (by simp)

theorem IsClosed.append {text more : List Char} (htext : IsClosed text) (hmore : IsClosed more) :
    IsClosed (text ++ more) := by
  rcases hmore with rfl | hlast
  · rwa [List.append_nil]
  · right
    rw [List.getLast?_append, hlast]
    rfl

/-- The end of a text of whole lines ends where the text does. -/
theorem IsClosed.of_append {text more : List Char} (h : IsClosed (text ++ more)) :
    IsClosed more := by
  rcases h with hnil | hlast
  · exact .inl (List.append_eq_nil_iff.mp hnil).2
  · rcases List.eq_nil_or_concat more with rfl | ⟨more, c, rfl⟩
    · exact .inl rfl
    · right
      simpa [List.getLast?_append] using hlast

/-- The text with a line feed behind its last line, if that has not ended. -/
def closed (text : List Char) : List Char :=
  if IsClosed text then text else text ++ ['\n']

theorem closed_of_isClosed {text : List Char} (h : IsClosed text) : closed text = text :=
  if_pos h

theorem closed_cons (c : Char) {text : List Char} (h : text ≠ []) :
    closed (c :: text) = c :: closed text := by
  have hiff : IsClosed (c :: text) ↔ IsClosed text := by
    simp [IsClosed, List.getLast?_cons, h, List.getLast?_eq_some_getLast h]
  by_cases hclosed : IsClosed text
  · rw [closed, if_pos (hiff.mpr hclosed), closed, if_pos hclosed]
  · rw [closed, if_neg (mt hiff.mp hclosed), closed, if_neg hclosed, List.cons_append]

/-! ## Joining lines -/

theorem toList_joinLines_cons (line : String) (lines : List String) :
    (joinLines (line :: lines)).toList = line.toList ++ '\n' :: (joinLines lines).toList := by
  have hcons : joinLines (line :: lines) = line ++ "\n" ++ joinLines lines := by
    rw [← List.singleton_append, joinLines_append]
    simp [joinLines]
  simp [hcons]

theorem toList_joinLines_flatMap {α : Type} (lines : α → List String) (items : List α) :
    (joinLines (items.flatMap lines)).toList =
      items.flatMap fun item => (joinLines (lines item)).toList := by
  induction items with
  | nil => rfl
  | cons item items ih =>
    rw [List.flatMap_cons, joinLines_append, String.toList_append, ih, List.flatMap_cons]

/-- A text of lines has one line feed for each line. -/
theorem count_joinLines {lines : List String} (h : ∀ line ∈ lines, '\n' ∉ line.toList) :
    (joinLines lines).toList.count '\n' = lines.length := by
  induction lines with
  | nil => rfl
  | cons line lines ih =>
    obtain ⟨hline, hlines⟩ := List.forall_mem_cons.mp h
    rw [toList_joinLines_cons, List.count_append, List.count_eq_zero_of_not_mem hline,
      List.count_cons_self, ih hlines, List.length_cons, Nat.zero_add]

/-- **Lines are dropped** from a text of lines one by one. -/
theorem dropLines_joinLines {lines : List String} (h : ∀ line ∈ lines, '\n' ∉ line.toList)
    (count : Nat) :
    dropLines count (joinLines lines).toList = (joinLines (lines.drop count)).toList := by
  induction count generalizing lines with
  | zero => rfl
  | succ count ih =>
    cases lines with
    | nil =>
      have hnil := ih (List.forall_mem_nil fun line : String => '\n' ∉ line.toList)
      simpa [dropLines, afterFeed] using hnil
    | cons line lines =>
      obtain ⟨hline, hlines⟩ := List.forall_mem_cons.mp h
      rw [toList_joinLines_cons, dropLines, afterFeed_append hline, ih hlines, List.drop_succ_cons]

theorem lastLines_joinLines {lines : List String} (h : ∀ line ∈ lines, '\n' ∉ line.toList)
    (count : Nat) :
    lastLines count (joinLines lines).toList =
      (joinLines (lines.drop (lines.length - count))).toList := by
  rw [lastLines, count_joinLines h, dropLines_joinLines h]

/-! ## Lines that a line feed ends -/

theorem splitAfter_eq_nil {isEnd : Char → Bool} {text : List Char} :
    splitAfter isEnd text = [] ↔ text = [] := by
  cases text with
  | nil => simp [splitAfter]
  | cons c text =>
    rw [splitAfter]
    split_ifs
    · simp
    · split <;> simp

/-- No line holds a character that ends one. -/
theorem not_isEnd_of_mem {isEnd : Char → Bool} {text line : List Char}
    (h : line ∈ splitAfter isEnd text) : ∀ c ∈ line, isEnd c = false := by
  induction text generalizing line with
  | nil => cases h
  | cons first text ih =>
    rw [splitAfter] at h
    split_ifs at h with hend
    · rcases List.mem_cons.mp h with rfl | hrest
      · exact nofun
      · exact ih hrest
    · -- The first character joins the line that comes next.
      have hfirst : isEnd first = false := Bool.eq_false_iff.mpr hend
      split at h
      · obtain rfl := List.mem_singleton.mp h
        simpa using hfirst
      · next next lines hnext =>
        rcases List.mem_cons.mp h with rfl | hrest
        · exact List.forall_mem_cons.mpr ⟨hfirst, ih (hnext ▸ List.mem_cons_self)⟩
        · exact ih (hnext ▸ List.mem_cons_of_mem _ hrest)

theorem notMem_feed {text line : List Char} (h : line ∈ splitFeeds text) : '\n' ∉ line := by
  intro hfeed
  have hend := not_isEnd_of_mem h '\n' hfeed
  simp at hend

/-- **The lines of a text**, put together again, are the text with its last line closed. -/
theorem toList_joinLines_splitFeeds (text : List Char) :
    (joinLines ((splitFeeds text).map String.ofList)).toList = closed text := by
  induction text with
  | nil => rfl
  | cons c text ih =>
    unfold splitFeeds at ih ⊢
    by_cases hfeed : c = '\n'
    · -- An empty line of its own, whose end is there already.
      subst hfeed
      rw [splitAfter, if_pos (by simp), List.map_cons, toList_joinLines_cons, ih,
        String.toList_ofList, List.nil_append]
      by_cases hnil : text = []
      · subst hnil
        rfl
      · rw [closed_cons _ hnil]
    · rw [splitAfter, if_neg (by simpa using hfeed)]
      cases hlines : splitAfter (· == '\n') text with
      | nil =>
        -- The last character begins a line that has not ended.
        obtain rfl := splitAfter_eq_nil.mp hlines
        have hopen : ¬ IsClosed [c] := by simpa [IsClosed] using hfeed
        rw [List.map_singleton, toList_joinLines_cons, String.toList_ofList, closed, if_neg hopen]
        rfl
      | cons line lines =>
        have hne : text ≠ [] := fun hnil => by simp [hnil, splitAfter] at hlines
        rw [hlines, List.map_cons, toList_joinLines_cons, String.toList_ofList] at ih
        rw [List.map_cons, toList_joinLines_cons, String.toList_ofList, List.cons_append, ih,
          closed_cons _ hne]

/-! ## Line ends of a stream -/

/-- The text with a line feed for every line end: for a carriage return with the line feed behind
it, and for one without. -/
def fed : List Char → List Char
  | '\r' :: '\n' :: text => '\n' :: fed text
  | '\r' :: text => '\n' :: fed text
  | c :: text => c :: fed text
  | [] => []

/-- **A stream writes a line feed for every line end.** -/
theorem unifyLineEnds_eq_fed (text : List Char) : unifyLineEnds text = fed text := by
  unfold unifyLineEnds
  fun_induction fed text with
  | case1 text ih =>
    rw [mergeReturns, List.map_cons, ih]
    rfl
  | case2 text halone ih =>
    -- The carriage return stands alone, so it is not merged with what follows.
    rw [mergeReturns.eq_2 _ _ fun rest _ => halone rest, List.map_cons, ih]
    rfl
  | case3 c text hpair hreturn ih =>
    have hne : c ≠ '\r' := fun heq => hreturn heq
    rw [mergeReturns.eq_2 _ _ fun rest heq => absurd heq hne, List.map_cons, ih, if_neg]
    simpa using hne
  | case4 => rfl

/-- Two texts are written one by one, unless a line end is parted between them. -/
theorem fed_append {text more : List Char}
    (h : text.getLast? = some '\r' → more.head? ≠ some '\n') :
    fed (text ++ more) = fed text ++ fed more := by
  fun_induction fed text with
  | case1 text ih =>
    rw [List.cons_append, List.cons_append, fed, List.cons_append, ih]
    intro hlast
    exact h (by simp [List.getLast?_cons, hlast])
  | case2 text halone ih =>
    -- The carriage return stands alone in the longer text too.
    have hparted : ∀ rest, text ++ more ≠ '\n' :: rest := by
      intro rest heq
      cases text with
      | nil => exact h rfl (by simpa using congrArg List.head? heq)
      | cons c text => exact halone text (congrArg (· :: text) (List.cons.inj heq).1)
    rw [List.cons_append, fed.eq_2 _ hparted, List.cons_append, ih]
    intro hlast
    exact h (by simp [List.getLast?_cons, hlast])
  | case3 c text hpair hreturn ih =>
    rw [List.cons_append, fed.eq_3 _ _ (fun rest hc _ => hreturn hc) hreturn, List.cons_append, ih]
    intro hlast
    exact h (by simp [List.getLast?_cons, hlast])
  | case4 => rfl

/-- **What a stream made so far** begins what it makes of any text that goes on. -/
theorem unifiedSoFar_prefix (text more : List Char) :
    unifiedSoFar text <+: unifyLineEnds (text ++ more) := by
  rw [unifiedSoFar, unifyLineEnds_eq_fed, unifyLineEnds_eq_fed]
  split_ifs with hlast
  · -- The carriage return that was kept back parts no line end.
    obtain ⟨text, rfl⟩ := List.getLast?_eq_some_iff.mp (beq_iff_eq.mp hlast)
    rw [List.dropLast_concat, List.append_assoc, fed_append fun _ => by simp]
    exact List.prefix_append ..
  · rw [fed_append fun hreturn => absurd (beq_iff_eq.mpr hreturn) hlast]
    exact List.prefix_append ..

/-! ## Lines that have ended -/

/-- The lines that have ended are a text of whole lines. -/
theorem isClosed_ended (text : List Char) : IsClosed (ended text) := by
  rw [ended]
  cases hlines : text.reverse.dropWhile (· != '\n') with
  | nil => exact .inl rfl
  | cons c lines =>
    -- Dropping from the end stopped at a line feed.
    have hfeed := List.head?_dropWhile_not (· != '\n') text.reverse
    rw [hlines] at hfeed
    right
    rw [List.getLast?_reverse]
    simpa using hfeed

/-- A text is the lines of it that have ended, and a line that has not. -/
theorem exists_ended_append (text : List Char) :
    ∃ line, text = ended text ++ line ∧ '\n' ∉ line := by
  refine ⟨(text.reverse.takeWhile (· != '\n')).reverse, ?_, fun hfeed => ?_⟩
  · rw [ended, ← List.reverse_append, List.takeWhile_append_dropWhile, List.reverse_reverse]
  · have hother := List.mem_takeWhile_imp (List.mem_reverse.mp hfeed)
    simp at hother

/-! ## Pieces between line boundaries -/

/-- A line that has ended is followed by a piece of its own, empty at the end of the text. -/
theorem splitOnP_eq_or (isEnd : Char → Bool) (text : List Char) :
    text.splitOnP isEnd = splitAfter isEnd text ∨
      text.splitOnP isEnd = splitAfter isEnd text ++ [[]] := by
  induction text with
  | nil => exact .inr List.splitOnP_nil
  | cons c text ih =>
    rw [List.splitOnP_cons_eq_if_modifyHead, splitAfter]
    by_cases hend : isEnd c = true
    · rw [if_pos hend, if_pos hend, List.cons_append, List.cons.injEq, List.cons.injEq]
      simpa using ih
    · rw [if_neg hend, if_neg hend]
      have hne := List.splitOnP_ne_nil isEnd text
      cases hlines : splitAfter isEnd text with
      | nil =>
        rw [hlines] at ih
        obtain hnil | hpieces := ih
        · exact absurd hnil hne
        · exact .inl (by rw [hpieces]; rfl)
      | cons line lines =>
        rw [hlines] at ih
        obtain hpieces | hpieces := ih
        · exact .inl (by rw [hpieces]; rfl)
        · exact .inr (by rw [hpieces]; rfl)

/-- Lines that are not empty are pieces that are not empty. -/
theorem filter_splitAfter (isEnd : Char → Bool) (text : List Char) :
    (splitAfter isEnd text).filter (!·.isEmpty) =
      (text.splitOnP isEnd).filter (!·.isEmpty) := by
  rcases splitOnP_eq_or isEnd text with hpieces | hpieces
  · rw [hpieces]
  · rw [hpieces, List.filter_append]
    simp

/-- A carriage return and the line feed behind it have an empty piece between them, which is all
that merging them takes away. -/
theorem splitOnP_mergeReturns (text : List Char) :
    ∃ piece merged pieces, (mergeReturns text).splitOnP isLineBoundary = piece :: merged ∧
      text.splitOnP isLineBoundary = piece :: pieces ∧
      merged.filter (!·.isEmpty) = pieces.filter (!·.isEmpty) := by
  have hreturn : isLineBoundary '\r' = true := by decide
  have hfeed : isLineBoundary '\n' = true := by decide
  fun_induction mergeReturns text with
  | case1 text ih =>
    obtain ⟨piece, merged, pieces, hmerged, hpieces, hfilter⟩ := ih
    refine ⟨[], piece :: merged, [] :: piece :: pieces, ?_, ?_, ?_⟩
    · rw [List.splitOnP_cons_eq_if_modifyHead, if_pos hfeed, hmerged]
    · rw [List.splitOnP_cons_eq_if_modifyHead, if_pos hreturn,
        List.splitOnP_cons_eq_if_modifyHead, if_pos hfeed, hpieces]
    · rw [List.filter_cons, List.filter_cons_of_neg (by simp), List.filter_cons, hfilter]
  | case2 c text _ ih =>
    obtain ⟨piece, merged, pieces, hmerged, hpieces, hfilter⟩ := ih
    rw [List.splitOnP_cons_eq_if_modifyHead, List.splitOnP_cons_eq_if_modifyHead, hmerged, hpieces]
    by_cases hcut : isLineBoundary c = true
    · refine ⟨[], piece :: merged, piece :: pieces, if_pos hcut, if_pos hcut, ?_⟩
      rw [List.filter_cons, List.filter_cons, hfilter]
    · exact ⟨c :: piece, merged, pieces, if_neg hcut, if_neg hcut, hfilter⟩
  | case3 => exact ⟨[], [], [], List.splitOnP_nil, List.splitOnP_nil, rfl⟩

/-- **The lines of a text are its pieces between line boundaries**, apart from empty ones. -/
theorem filter_splitLines (text : List Char) :
    (splitLines text).filter (!·.isEmpty) =
      (text.splitOnP isLineBoundary).filter (!·.isEmpty) := by
  obtain ⟨piece, merged, pieces, hmerged, hpieces, hfilter⟩ := splitOnP_mergeReturns text
  rw [splitLines, filter_splitAfter, hmerged, hpieces, List.filter_cons, List.filter_cons, hfilter]

end Warden.Text
