import Warden.Proofs.Files.Route
import Warden.Proofs.Text.Blank
import Warden.Proofs.Text.Lines
import Warden.Proofs.Webif.Port

/-!
# Comments in the configuration

A number sign starts a comment that goes to the end of its line. Behind an assignment and on a line
of its own a comment has no effect. Behind a header it may have one: whether a line is a header is
looked up at the end of the whole line, where the comment is. So a comment has no effect exactly
when the line opens the same section with and without it.

## Main definitions

* `uncommented`: a text without its comments
* `Line.enters?`, `Line.sets?`: what a line does to the section and to the keys
* `KeepsSection`: a line that opens the same section with and without its comment
* `Agrees`: two readings that come to the same

## Main results

* `sets?_before`: a comment does not change what a line sets
* `Agrees.step`, `agrees_uncommented`: readings agree after every line, and after a whole text
* `comments_without_effect`: which comments have no effect
* `comment_behind_header`: a comment that has one
-/

namespace Warden.Webif

open Warden.Text

/-! ## Before and after a character -/

section Before

variable {c : Char} {front : List Char}

theorem bne_of_notMem (h : c ∉ front) : ∀ first ∈ front, (first != c) = true := by
  intro first hfirst
  rw [bne_iff_ne]
  rintro rfl
  exact h hfirst

theorem before_append (h : c ∉ front) (text : List Char) :
    before c (front ++ text) = front ++ before c text :=
  List.takeWhile_append_of_pos (bne_of_notMem h)

@[simp] theorem before_cons_self (c : Char) (text : List Char) : before c (c :: text) = [] := by
  simp [before]

theorem before_cons_of_ne {first : Char} (h : first ≠ c) (text : List Char) :
    before c (first :: text) = first :: before c text := by
  simp [before, h]

theorem before_of_notMem {text : List Char} (h : c ∉ text) : before c text = text := by
  simpa [before] using before_append h []

@[simp] theorem before_before (c : Char) (text : List Char) :
    before c (before c text) = before c text :=
  List.takeWhile_idem ..

theorem after_append (h : c ∉ front) (text : List Char) :
    after c (front ++ c :: text) = text := by
  have hdrop : (front ++ c :: text).dropWhile (· != c) = c :: text := by
    rw [List.dropWhile_append_of_pos (bne_of_notMem h), List.dropWhile_cons_of_neg (by simp)]
  rw [after, hdrop, List.drop_one, List.tail_cons]

end Before

/-! ## What a line does -/

/-- A header opens a section, which may be the one that is read. -/
def Line.enters? : Line → Option Bool
  | header name => some (name == sectionName)
  | _ => none

/-- The key is one that counts. -/
def IsKey (key : List Char) : Prop :=
  key = enabledKey ∨ key = portKey

instance : DecidablePred IsKey :=
  fun key => inferInstanceAs (Decidable (key = enabledKey ∨ key = portKey))

/-- What a line assigns to a key that counts. -/
def Line.sets? : Line → Option (List Char × List Char)
  | assignment key value => if IsKey key then some (key, value) else none
  | _ => none

/-- The key that a line names. -/
def keyOf (raw : List Char) : List Char := toUpper (trim (before '=' raw))

/-- The value that a line names. -/
def valueOf (raw : List Char) : List Char := trim (before '#' (after '=' raw))

/-- The marks of comments and headers do not stand in front of the equals sign, as no key has
them. -/
theorem notMem_of_isKey {c : Char} {text : List Char} (hmark : c = '#' ∨ c = '[')
    (h : IsKey (toUpper (trim text))) : c ∉ text := by
  have hblank : isBlank c = false := by rcases hmark with rfl | rfl <;> decide
  have hmarks : '#' ∈ upperChar '#' ∧ '[' ∈ upperChar '[' := by decide +kernel
  have hupper : c ∈ upperChar c := by
    rcases hmark with rfl | rfl
    · exact hmarks.1
    · exact hmarks.2
  have hkeys : c ∉ enabledKey ∧ c ∉ portKey := by rcases hmark with rfl | rfl <;> decide
  intro hmem
  have hkey : c ∈ toUpper (trim text) :=
    List.mem_flatMap.mpr ⟨c, (mem_trim hblank).mpr hmem, hupper⟩
  rcases h with h | h
  · exact hkeys.1 (h ▸ hkey)
  · exact hkeys.2 (h ▸ hkey)

theorem mem_before_of_head? {first c : Char} {text : List Char} (h : text.head? = some first)
    (hne : first ≠ c) : first ∈ before c text := by
  obtain ⟨rest, rfl⟩ := List.head?_eq_some_iff.mp h
  rw [before_cons_of_ne hne]
  exact List.mem_cons_self

theorem head?_of_bracketed? {text name : List Char} (h : bracketed? text = some name) :
    text.head? = some '[' := by
  rw [bracketed?] at h
  split at h
  · next hbrackets =>
    rw [Bool.and_eq_true, beq_iff_eq, beq_iff_eq] at hbrackets
    exact hbrackets.1
  · cases h

/-- Blanks around a line belong neither to its key nor to its value. -/
theorem keyOf_trim {raw : List Char} (h : '=' ∈ raw) :
    keyOf (trim raw) = keyOf raw ∧ valueOf (trim raw) = valueOf raw := by
  obtain ⟨first, last, hraw, hfirst, hlast⟩ := exists_trim raw
  have hmem : '=' ∈ trim raw := (mem_trim (by decide)).mpr h
  obtain ⟨key, value, htrim, hkey⟩ := List.eq_append_cons_of_mem hmem
  rw [htrim] at hraw ⊢
  have hraw : raw = (first ++ key) ++ '=' :: (value ++ last) := by simpa using hraw
  have hfront : '=' ∉ first ++ key := by
    rw [List.mem_append, not_or]
    exact ⟨fun hmem => absurd (hfirst _ hmem) (by decide), hkey⟩
  have hsign : '#' ∉ last := fun hmem => absurd (hlast _ hmem) (by decide)
  rw [keyOf, keyOf, valueOf, valueOf, hraw, before_append hkey, before_append hfront,
    after_append hkey, after_append hfront, before_cons_self, before_cons_self, List.append_nil,
    List.append_nil, trim_blanks_append hfirst]
  refine ⟨rfl, ?_⟩
  by_cases hvalue : '#' ∈ value
  · -- The blanks behind the line belong to its comment.
    obtain ⟨front, rest, rfl, hfront⟩ := List.eq_append_cons_of_mem hvalue
    rw [List.append_assoc, before_append hfront, before_append hfront, List.cons_append,
      before_cons_self, before_cons_self]
  · rw [before_append hvalue, before_of_notMem hvalue, before_of_notMem hsign,
      trim_append_blanks hlast]

/-- What a line may mean. -/
inductive Means (raw : List Char) : Line → Prop
  | nothing (h : '=' ∈ raw → '#' ∈ before '=' (trim raw)) : Means raw .nothing
  | header (name : List Char) (h : (trim raw).head? = some '[') : Means raw (.header name)
  | assignment (h : '=' ∈ raw) : Means raw (.assignment (keyOf raw) (valueOf raw))

theorem means (raw : List Char) : Means raw (Line.ofText raw) := by
  have hmem : '=' ∈ trim raw ↔ '=' ∈ raw := mem_trim (by decide)
  rw [Line.ofText]
  split
  · next hskipped =>
    rw [Bool.or_eq_true, List.isEmpty_iff, beq_iff_eq] at hskipped
    refine .nothing fun hassigns => ?_
    rcases hskipped with hnil | hhead
    · rw [← hmem, hnil] at hassigns
      cases hassigns
    · exact mem_before_of_head? hhead (by decide)
  · split
    · next name hbracketed => exact .header _ (head?_of_bracketed? hbracketed)
    · split
      · next hcontains =>
        have hassigns : '=' ∈ raw := by simpa [hmem] using hcontains
        obtain ⟨hkey, hvalue⟩ := keyOf_trim hassigns
        have hmeans := Means.assignment hassigns
        rwa [← hkey, ← hvalue] at hmeans
      · next hcontains =>
        refine .nothing fun hassigns => absurd ?_ hcontains
        simpa [hmem] using hassigns

/-- **What a line sets** is read off the equals sign and the key in front of it. -/
theorem sets?_ofText (raw : List Char) :
    (Line.ofText raw).sets? =
      if '=' ∈ raw ∧ IsKey (keyOf raw) then some (keyOf raw, valueOf raw) else none := by
  have hmeans := means raw
  generalize Line.ofText raw = line at hmeans ⊢
  cases hmeans with
  | nothing h =>
    refine (if_neg fun ⟨hassigns, hkey⟩ => ?_).symm
    rw [← (keyOf_trim hassigns).1] at hkey
    exact notMem_of_isKey (.inl rfl) hkey (h hassigns)
  | header name h =>
    refine (if_neg fun ⟨hassigns, hkey⟩ => ?_).symm
    rw [← (keyOf_trim hassigns).1] at hkey
    exact notMem_of_isKey (.inr rfl) hkey (mem_before_of_head? h (by decide))
  | assignment h => simp [Line.sets?, h]

/-- **A comment does not change what a line sets.** -/
theorem sets?_before (raw : List Char) :
    (Line.ofText (before '#' raw)).sets? = (Line.ofText raw).sets? := by
  rw [sets?_ofText, sets?_ofText]
  by_cases hassigns : '=' ∈ raw
  · obtain ⟨key, value, rfl, hkey⟩ := List.eq_append_cons_of_mem hassigns
    by_cases hsign : '#' ∈ key
    · -- The comment swallows the equals sign, and without it there is no key that counts.
      obtain ⟨front, rest, rfl, hfront⟩ := List.eq_append_cons_of_mem hsign
      have hnone : '=' ∉ front := fun h => hkey (List.mem_append_left _ h)
      have hother : ¬ IsKey (keyOf (front ++ '#' :: rest ++ '=' :: value)) := fun h => by
        rw [keyOf, before_append hkey] at h
        have hfree : '#' ∉ front ++ '#' :: rest ++ before '=' ('=' :: value) :=
          notMem_of_isKey (.inl rfl) h
        exact hfree (by simp)
      rw [List.append_assoc, before_append hfront, List.cons_append, before_cons_self,
        List.append_nil, if_neg fun h => hnone h.1, ← List.cons_append, ← List.append_assoc,
        if_neg fun h => hother h.2]
    · -- The comment stands behind the equals sign, so it is no part of the value either.
      rw [before_append hsign, before_cons_of_ne (by decide), keyOf, keyOf, before_append hkey,
        before_append hkey, before_cons_self, before_cons_self, valueOf, valueOf,
        after_append hkey, after_append hkey, before_before]
      simp
  · have hnone : '=' ∉ before '#' raw := fun h => hassigns (List.takeWhile_subset _ h)
    rw [if_neg fun h => hnone h.1, if_neg fun h => hassigns h.1]

/-- The line opens the same section with and without its comment. -/
def KeepsSection (raw : List Char) : Prop :=
  (Line.ofText (before '#' raw)).enters? = (Line.ofText raw).enters?

instance : DecidablePred KeepsSection :=
  fun raw => inferInstanceAs (Decidable ((Line.ofText (before '#' raw)).enters? = _))

/-- Only a line that begins with a bracket opens a section. -/
theorem enters?_eq_none {raw : List Char} (h : (trim raw).head? ≠ some '[') :
    (Line.ofText raw).enters? = none := by
  have hmeans := means raw
  generalize Line.ofText raw = line at hmeans ⊢
  cases hmeans with
  | nothing => rfl
  | header name hhead => exact absurd hhead h
  | assignment => rfl

/-- A line without a bracket in front, and a line without a comment, keep the section. -/
theorem keepsSection {raw : List Char} (h : (trim raw).head? ≠ some '[' ∨ '#' ∉ raw) :
    KeepsSection raw := by
  rcases h with hhead | hsign
  · have hbare : (trim (before '#' raw)).head? ≠ some '[' := by
      intro hbracket
      apply hhead
      have hraw : before '#' raw ++ raw.dropWhile (· != '#') = raw :=
        List.takeWhile_append_dropWhile
      rw [head?_trim] at hbracket ⊢
      rw [← hraw, List.find?_append]
      exact Option.or_eq_some_iff.mpr (.inl hbracket)
    rw [KeepsSection, enters?_eq_none hbare, enters?_eq_none hhead]
  · rw [KeepsSection, before_of_notMem hsign]

/-! ## Readings that agree -/

/-- Two readings that come to the same, and are both in the section that is read or both not. -/
structure Agrees (reading other : Reading) : Prop where
  inside_eq : (reading.topic == sectionName) = (other.topic == sectionName)
  enabled_eq : reading.enabled = other.enabled
  port_eq : reading.port = other.port
  ignored_eq : reading.ignored = other.ignored

theorem Agrees.refl (reading : Reading) : Agrees reading reading := ⟨rfl, rfl, rfl, rfl⟩

theorem Agrees.answer_eq {reading other : Reading} (h : Agrees reading other) :
    reading.answer = other.answer := by
  rw [Reading.answer, Reading.answer, h.enabled_eq, h.port_eq]

/-- A line that opens no section does what it sets. -/
theorem step_of_enters? {line : Line} (h : line.enters? = none) (reading : Reading) :
    reading.step line =
      line.sets?.elim reading fun set => reading.step (.assignment set.1 set.2) := by
  cases line with
  | nothing => rfl
  | header => cases h
  | assignment key value =>
    rw [Line.sets?]
    split_ifs with hkey
    · rfl
    · rw [IsKey, not_or] at hkey
      simp [Reading.step, hkey]

theorem header_of_enters? {line : Line} {inside : Bool} (h : line.enters? = some inside) :
    ∃ name, line = .header name ∧ (name == sectionName) = inside := by
  cases line with
  | header name => exact ⟨name, rfl, Option.some.inj h⟩
  | nothing => cases h
  | assignment => cases h

theorem sets?_of_enters? {line : Line} {inside : Bool} (h : line.enters? = some inside) :
    line.sets? = none := by
  obtain ⟨name, rfl, -⟩ := header_of_enters? h
  rfl

namespace Agrees

variable {reading other : Reading}

theorem assign (h : Agrees reading other) (key value : List Char) :
    Agrees (reading.step (.assignment key value)) (other.step (.assignment key value)) := by
  rw [Reading.step, Reading.step, h.inside_eq]
  split_ifs
  · cases Numeric.Literal.readMarked (String.ofList value) with
    | error fault => exact ⟨h.inside_eq, h.enabled_eq, h.port_eq, by simp [h.ignored_eq]⟩
    | ok n =>
      dsimp only
      rw [Reading.set, Reading.set]
      split_ifs
      · exact ⟨h.inside_eq, rfl, h.port_eq, h.ignored_eq⟩
      · exact ⟨h.inside_eq, h.enabled_eq, rfl, h.ignored_eq⟩
      · exact h
  · exact h

/-- **Readings agree after lines** that open the same section and set the same. -/
theorem step (h : Agrees reading other) {line bare : Line} (henters : line.enters? = bare.enters?)
    (hsets : line.sets? = bare.sets?) : Agrees (reading.step line) (other.step bare) := by
  cases hinside : bare.enters? with
  | some inside =>
    obtain ⟨name, rfl, hname⟩ := header_of_enters? (henters.trans hinside)
    obtain ⟨bareName, rfl, hbare⟩ := header_of_enters? hinside
    exact ⟨hname.trans hbare.symm, h.enabled_eq, h.port_eq, h.ignored_eq⟩
  | none =>
    rw [step_of_enters? (henters.trans hinside), step_of_enters? hinside, hsets]
    cases bare.sets? with
    | none => exact h
    | some set => exact h.assign set.1 set.2

/-- **Readings agree after all lines**, with and without comments. -/
theorem lines {raws : List (List Char)} (h : Agrees reading other)
    (hkeeps : ∀ raw ∈ raws, KeepsSection raw) :
    Agrees (((raws.map (before '#')).map Line.ofText).foldl Reading.step reading)
      ((raws.map Line.ofText).foldl Reading.step other) := by
  induction raws generalizing reading other with
  | nil => exact h
  | cons raw raws ih =>
    obtain ⟨hraw, hraws⟩ := List.forall_mem_cons.mp hkeeps
    exact ih (h.step hraw (sets?_before raw)) hraws

end Agrees

/-! ## Texts without comments -/

/-- The rest of a text without its comments; a comment may have begun. -/
def uncommentFrom : Bool → List Char → List Char
  | _, [] => []
  | inComment, c :: text =>
    if isLineBoundary c then c :: uncommentFrom false text
    else if inComment || c == '#' then uncommentFrom true text
    else c :: uncommentFrom false text

/-- The text without its comments, from each number sign to the end of the line. -/
def uncommented (text : List Char) : List Char :=
  uncommentFrom false text

theorem splitOnP_uncommentFrom (inComment : Bool) (text : List Char) :
    (uncommentFrom inComment text).splitOnP isLineBoundary =
      ((text.splitOnP isLineBoundary).map (before '#')).modifyHead
        fun piece => if inComment then [] else piece := by
  induction text generalizing inComment with
  | nil => cases inComment <;> rfl
  | cons c text ih =>
    obtain ⟨piece, pieces, hpieces⟩ :=
      List.exists_cons_of_ne_nil (List.splitOnP_ne_nil isLineBoundary text)
    rw [hpieces] at ih
    rw [uncommentFrom, List.splitOnP_cons_eq_if_modifyHead, hpieces]
    by_cases hboundary : isLineBoundary c = true
    · -- The next line begins outside of a comment.
      rw [if_pos hboundary, if_pos hboundary, List.splitOnP_cons_eq_if_modifyHead,
        if_pos hboundary, ih]
      cases inComment <;> rfl
    · rw [if_neg hboundary, if_neg hboundary, List.modifyHead_cons, List.map_cons]
      by_cases hsign : c = '#'
      · -- A comment begins, or goes on: nothing of this line is left.
        rw [if_pos (by simp [hsign]), ih, hsign, before_cons_self]
        cases inComment <;> rfl
      · rw [before_cons_of_ne hsign]
        cases inComment with
        | true =>
          rw [Bool.true_or, if_pos rfl, ih]
          rfl
        | false =>
          rw [if_neg (by simpa using hsign), List.splitOnP_cons_eq_if_modifyHead,
            if_neg hboundary, ih]
          rfl

/-- **The lines of a text without comments** are its lines, each up to its first number sign. -/
theorem splitOnP_uncommented (text : List Char) :
    (uncommented text).splitOnP isLineBoundary =
      (text.splitOnP isLineBoundary).map (before '#') := by
  obtain ⟨piece, pieces, hpieces⟩ :=
    List.exists_cons_of_ne_nil (List.splitOnP_ne_nil isLineBoundary text)
  rw [uncommented, splitOnP_uncommentFrom, hpieces]
  rfl

/-- Empty lines set nothing. -/
theorem foldl_step_filter (raws : List (List Char)) (reading : Reading) :
    ((raws.filter (!·.isEmpty)).map Line.ofText).foldl Reading.step reading =
      (raws.map Line.ofText).foldl Reading.step reading := by
  induction raws generalizing reading with
  | nil => rfl
  | cons raw raws ih =>
    cases raw with
    | nil => exact ih reading
    | cons c raw => exact ih (reading.step (Line.ofText (c :: raw)))

/-- A text is read piece by piece between its line boundaries. -/
theorem ofText_eq_foldl (text : List Char) :
    ofText text = ((text.splitOnP isLineBoundary).map Line.ofText).foldl Reading.step {} := by
  rw [ofText, ← foldl_step_filter, filter_splitLines, foldl_step_filter]

theorem keepsSection_nil : KeepsSection [] := rfl

/-- **A text and the text without its comments** come to the same when every line keeps its
section. -/
theorem agrees_uncommented {text : List Char} (h : ∀ raw ∈ splitLines text, KeepsSection raw) :
    Agrees (ofText (uncommented text)) (ofText text) := by
  -- The pieces are the lines and some empty ones.
  have hpieces : ∀ raw ∈ text.splitOnP isLineBoundary, KeepsSection raw := by
    intro raw hraw
    by_cases hnil : raw = []
    · rw [hnil]
      exact keepsSection_nil
    · have hline : raw ∈ (text.splitOnP isLineBoundary).filter (!·.isEmpty) :=
        List.mem_filter.mpr ⟨hraw, by simpa using hnil⟩
      rw [← filter_splitLines] at hline
      exact h raw (List.mem_filter.mp hline).1
  rw [ofText_eq_foldl, ofText_eq_foldl, splitOnP_uncommented]
  exact (Agrees.refl {}).lines hpieces

/-! ## Comments with an effect -/

/-- What stands above a line, inside or outside of the section that is read. -/
def heading (inside : Bool) : List Char :=
  if inside then "[webif]".toList else []

/-- A line inside or outside of the section, above an assignment to the port. -/
def around (inside : Bool) (raw : List Char) : List Char :=
  heading inside ++ '\n' :: (raw ++ '\n' :: "PORT=1".toList)

theorem step_heading (inside : Bool) :
    ({} : Reading).step (Line.ofText (heading inside)) =
      { topic := if inside then sectionName else [] } := by
  cases inside with
  | false => rfl
  | true =>
    have hheader : Line.ofText (heading true) = .header sectionName := by decide +kernel
    rw [hheader]
    rfl

/-- The port below a line: 1 if it is assigned in the section that is read, the default if not. -/
theorem answer_around (inside : Bool) {line : Line} (h : line.sets? = none) :
    ([Line.ofText (heading inside), line, Line.ofText "PORT=1".toList].foldl
        Reading.step {}).answer =
      if line.enters?.getD inside then 1 else 8080 := by
  have hbelow : Line.ofText "PORT=1".toList = .assignment portKey ['1'] := by decide +kernel
  have hnumber : Numeric.Literal.readMarked (String.ofList ['1']) = .ok 1 := by decide +kernel
  have hkey : (portKey == enabledKey || portKey == portKey) = true := by decide
  have hport (topic : List Char) : (({ topic } : Reading).step (.assignment portKey ['1'])).answer =
      if topic == sectionName then 1 else 8080 := by
    rw [Reading.step, hkey, Bool.and_true, hnumber]
    split_ifs <;> rfl
  rw [List.foldl_cons, List.foldl_cons, List.foldl_cons, List.foldl_nil, step_heading, hbelow]
  cases henters : line.enters? with
  | some other =>
    obtain ⟨name, rfl, hname⟩ := header_of_enters? henters
    rw [Reading.step, hport, hname, Option.getD_some]
  | none =>
    rw [step_of_enters? henters, h, Option.elim_none, hport, Option.getD_none]
    cases inside <;> rfl

/-- The pieces of the text around a line. -/
theorem splitOnP_around (inside : Bool) {raw : List Char}
    (h : ∀ c ∈ raw, isLineBoundary c = false) :
    (around inside raw).splitOnP isLineBoundary = [heading inside, raw, "PORT=1".toList] := by
  have hfeed : isLineBoundary '\n' = true := by decide
  have hline : ∀ text : List Char, text.all (!isLineBoundary ·) = true →
      ∀ c ∈ text, isLineBoundary c = false := by simp
  have habove := hline (heading inside) (by cases inside <;> decide)
  have hbelow := hline "PORT=1".toList (by decide)
  rw [around, List.splitOnP_append_cons_of_forall_mem habove _ hfeed,
    List.splitOnP_append_cons_of_forall_mem h _ hfeed, List.splitOnP_eq_singleton hbelow]

/-- A line whose comment moves the section sets nothing. -/
theorem sets?_eq_none {raw : List Char} (h : ¬ KeepsSection raw) :
    (Line.ofText raw).sets? = none := by
  cases henters : (Line.ofText raw).enters? with
  | some inside => exact sets?_of_enters? henters
  | none =>
    -- Without its comment the line is a header.
    obtain ⟨inside, hbare⟩ := Option.ne_none_iff_exists'.mp fun hnone => h (hnone.trans henters.symm)
    rw [← sets?_before]
    exact sets?_of_enters? hbare

/-- Two lines that open different sections differ for one of the sections above them. -/
theorem exists_getD_ne {bare entered : Option Bool} (h : bare ≠ entered) :
    ∃ inside, bare.getD inside ≠ entered.getD inside := by
  cases bare with
  | none =>
    cases entered with
    | none => exact absurd rfl h
    | some inside => exact ⟨!inside, by simp⟩
  | some inside =>
    cases entered with
    | none => exact ⟨!inside, by simp⟩
    | some other => exact ⟨true, fun heq => h (congrArg some heq)⟩

/-- **A comment that moves the section** has an effect on a line below. -/
theorem exists_effect {raw : List Char} (hraw : ∀ c ∈ raw, isLineBoundary c = false)
    (h : ¬ KeepsSection raw) :
    ∃ text, raw ∈ splitLines text ∧
      (ofText (uncommented text)).answer ≠ (ofText text).answer := by
  obtain ⟨inside, hinside⟩ := exists_getD_ne h
  have hsets := sets?_eq_none h
  refine ⟨around inside raw, ?_, ?_⟩
  · have hne : raw ≠ [] := by
      rintro rfl
      exact h keepsSection_nil
    have hpiece : raw ∈ ((around inside raw).splitOnP isLineBoundary).filter (!·.isEmpty) := by
      rw [splitOnP_around inside hraw, List.mem_filter]
      simpa using hne
    rw [← filter_splitLines] at hpiece
    exact (List.mem_filter.mp hpiece).1
  · have hanswer : (ofText (around inside raw)).answer =
        if (Line.ofText raw).enters?.getD inside then 1 else 8080 := by
      rw [ofText_eq_foldl, splitOnP_around inside hraw]
      exact answer_around inside hsets
    have huncommented : (ofText (uncommented (around inside raw))).answer =
        if (Line.ofText (before '#' raw)).enters?.getD inside then 1 else 8080 := by
      have hpieces : [heading inside, raw, "PORT=1".toList].map (before '#') =
          [heading inside, before '#' raw, "PORT=1".toList] := by cases inside <;> rfl
      rw [ofText_eq_foldl, splitOnP_uncommented, splitOnP_around inside hraw, hpieces]
      exact answer_around inside ((sets?_before raw).trans hsets)
    rw [hanswer, huncommented]
    intro hsame
    apply hinside
    generalize (Line.ofText (before '#' raw)).enters?.getD inside = bare at hsame ⊢
    generalize (Line.ofText raw).enters?.getD inside = entered at hsame ⊢
    cases bare <;> cases entered <;> simp_all

/-! ## Reading the port with and without comments -/

/-- **Comments have no effect** on the port, on its failures and on the log, when every line of the
file opens the same section with and without its comment. Lines without a bracket in front do, so
comments behind assignments and on lines of their own have no effect. A line that does not stands in
a file whose port changes with its comments. -/
theorem comments_without_effect {σ : Type} (tree bareTree : Files.Tree) (directory : String)
    (bytes bare : List UInt8) (state : σ)
    (hread : tree.read (filePath directory) = .ok (some bytes))
    (hbare : bareTree.read (filePath directory) = .ok (some bare))
    (hdecode : Utf8.decode bare = uncommented (Utf8.decode bytes)) :
    ((∀ raw ∈ splitLines (Utf8.decode bytes), KeepsSection raw) →
      readPort bareTree (some directory) state = readPort tree (some directory) state) ∧
    (∀ raw, (trim raw).head? ≠ some '[' ∨ '#' ∉ raw → KeepsSection raw) ∧
    ∀ raw, (∀ c ∈ raw, isLineBoundary c = false) → ¬ KeepsSection raw →
      ∃ text, raw ∈ splitLines text ∧
        (ofText (uncommented text)).answer ≠ (ofText text).answer := by
  refine ⟨?_, fun raw h => keepsSection h, fun raw hraw h => exists_effect hraw h⟩
  intro hkeeps
  have hagrees := agrees_uncommented hkeeps
  rw [← hdecode] at hagrees
  simp only [readPort, hread, hbare, hagrees.ignored_eq, hagrees.answer_eq]

/-- The bytes of a text of ASCII characters. -/
def bytesOf (text : String) : List UInt8 :=
  text.toList.map fun c => UInt8.ofNat c.toNat

/-- A file of the root directory with a text of ASCII characters. -/
def configTree (text : String) : Files.Tree where
  entries := [(["config.cfg"], .file (bytesOf text) 0o644)]

theorem read_configTree (text : String) :
    (configTree text).read (filePath "/") = .ok (some (bytesOf text)) := by
  have hpath : filePath "/" = "/config.cfg" := by decide +kernel
  have hfind : (configTree text).find [] "/config.cfg" = .ok ["config.cfg"] :=
    Files.Tree.find_of_walk _ (by decide +kernel) (by decide) (by decide) (by decide +kernel) rfl
  rw [hpath]
  exact Files.Tree.read_of_find _ hfind rfl rfl

theorem outcome_readPort_configTree (text : String) :
    (readPort (configTree text) (some "/") ()).outcome =
      .ok (ofText (Utf8.decode (bytesOf text))).answer := by
  rw [outcome_readPort, portOf, read_configTree]
  rfl

/-- The port that is set without any comment. -/
theorem outcome_readPort_bare :
    (readPort (configTree "[webif] \nPORT=9000\n") (some "/") ()).outcome = .ok 9000 := by
  rw [outcome_readPort_configTree]
  exact congrArg Except.ok (by decide +kernel)

/-- A comment behind the port and one on a line of its own have no effect. -/
theorem comments_without_effect_inline :
    (readPort (configTree "[webif] \nPORT=9000# admin ui\n# server") (some "/") ()).outcome =
      .ok 9000 := by
  have hlines : ∀ raw ∈ splitLines (Utf8.decode (bytesOf
      "[webif] \nPORT=9000# admin ui\n# server")),
      (trim raw).head? ≠ some '[' ∨ '#' ∉ raw := by decide +kernel
  obtain ⟨hsame, hkeeps, -⟩ := comments_without_effect _ _ "/" _ _ ()
    (read_configTree "[webif] \nPORT=9000# admin ui\n# server")
    (read_configTree "[webif] \nPORT=9000\n") (by decide +kernel)
  rw [← hsame fun raw hraw => hkeeps raw (hlines raw hraw)]
  exact outcome_readPort_bare

/-- **A comment behind a header** hides the header, so the port in its section is not read. -/
theorem comment_behind_header :
    uncommented "[webif] # admin ui\nPORT=9000\n".toList = "[webif] \nPORT=9000\n".toList ∧
      (readPort (configTree "[webif] \nPORT=9000\n") (some "/") ()).outcome = .ok 9000 ∧
      (readPort (configTree "[webif] # admin ui\nPORT=9000\n") (some "/") ()).outcome =
        .ok 8080 := by
  refine ⟨by decide +kernel, outcome_readPort_bare, ?_⟩
  rw [outcome_readPort_configTree]
  exact congrArg Except.ok (by decide +kernel)

end Warden.Webif
