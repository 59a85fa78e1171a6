import Warden.Proofs.Webif.Comments

/-!
# The last valid assignment counts

A file makes a list of assignments: those of its lines that stand in the section that is read. The
port is read off that list alone. The last integer assigned to the switch decides whether there is a
port, and of the integers assigned to the port the last one that a port may have is the port. The
assignments to these two keys whose value is no integer are logged in the order of the file.

## Main definitions

* `opened?`, `topicBelow`: the section that a line opens, and the one that follows lines
* `assigned?`, `assignments`: what a line assigns, and what the lines of a file assign
* `integers`, `rejected`: the integers assigned to a key, and the assignments without an integer
* `portOfAssignments`, `rejection`: the port that assignments set, and the record of a rejected one
* `Sums`, `Tells`: what a reading says of the assignments, and of the lines, that it has seen

## Main results

* `Sums.assign`, `Tells.step`: one more assignment, and one more line
* `assignments_around`: lines outside of the section assign nothing
* `last_assignment_counts`: the port, and the log, of every directory
-/

namespace Warden.Webif

open Warden.Text

/-! ## The assignments of a file -/

/-- A header is a name between brackets. -/
theorem bracketed?_eq_some {text name : List Char} :
    bracketed? text = some name ↔ text = '[' :: (name ++ [']']) := by
  constructor
  · intro h
    rw [bracketed?] at h
    split_ifs at h with hbrackets
    rw [Bool.and_eq_true, beq_iff_eq, beq_iff_eq] at hbrackets
    obtain ⟨rest, rfl⟩ := List.head?_eq_some_iff.mp hbrackets.1
    -- The two brackets are different, so the line has both of them.
    have hrest : rest.getLast? = some ']' := by
      cases rest with
      | nil => simp at hbrackets
      | cons c rest => simpa using hbrackets.2
    obtain ⟨inner, rfl⟩ := List.getLast?_eq_some_iff.mp hrest
    obtain rfl : inner = name := by simpa using h
    rfl
  · rintro rfl
    have hlast : ('[' :: (name ++ [']'])).getLast? = some ']' := by
      rw [← List.cons_append, List.getLast?_concat]
    simp [bracketed?, hlast]

/-- The section that a line opens. -/
def opened? (raw : List Char) : Option (List Char) :=
  (bracketed? (trim raw)).map fun name => toLower (trim name)

/-- The section in which the line after these lines stands: that of the nearest header. -/
def topicBelow (above : List (List Char)) : Option (List Char) :=
  (above.filterMap opened?).getLast?

/-- What a line assigns, in whatever section it stands. -/
def assigned? (raw : List Char) : Option (List Char × List Char) :=
  let line := trim raw
  if line ≠ [] ∧ line.head? ≠ some '#' ∧ bracketed? line = none ∧ '=' ∈ line then
    some (keyOf line, valueOf line)
  else none

/-- The assignments that lines make in the section that is read, in their order. -/
def assignments (raws : List (List Char)) : List (List Char × List Char) :=
  raws.zipIdx.filterMap fun (raw, number) =>
    if topicBelow (raws.take number) = some sectionName then assigned? raw else none

/-- The integer that a value stands for. -/
def integer? (value : List Char) : Option Int :=
  (Numeric.Literal.readMarked (String.ofList value)).toOption

/-- The integers that are assigned to a key. -/
def integers (key : List Char) (made : List (List Char × List Char)) : List Int :=
  (made.filter fun assignment => assignment.1 = key).filterMap fun assignment =>
    integer? assignment.2

/-- The assignments to a key that counts whose value is no integer. -/
def rejected (made : List (List Char × List Char)) : List (List Char × List Char) :=
  made.filter fun (key, value) => IsKey key ∧ integer? value = none

/-- The port that assignments set, or -1 when the last integer that was assigned to the switch is
zero. -/
def portOfAssignments (made : List (List Char × List Char)) : Int :=
  if (integers enabledKey made).getLast? = some 0 then -1
  else ((integers portKey made).filter fun n => 1 ≤ n ∧ n ≤ 65535).getLast?.getD 8080

/-- The record of an assignment whose value is no integer. -/
def rejection (path : String) (assignment : List Char × List Char) : Log.Item :=
  .record ⟨.debug, s!"read_webif_port: ignoring {String.ofList assignment.1}=" ++
    s!"{String.ofList (quotedChars assignment.2)} in {path}"⟩

/-! ## One more line -/

theorem topicBelow_concat (raws : List (List Char)) (raw : List Char) :
    topicBelow (raws ++ [raw]) = (opened? raw).or (topicBelow raws) := by
  rw [topicBelow, List.filterMap_append, List.getLast?_append, topicBelow]
  cases hopened : opened? raw <;> simp [hopened]

theorem assignments_concat (raws : List (List Char)) (raw : List Char) :
    assignments (raws ++ [raw]) = assignments raws ++
      (if topicBelow raws = some sectionName then assigned? raw else none).toList := by
  rw [assignments, List.zipIdx_append, List.filterMap_append]
  congr 1
  · -- The lines above an earlier line are still the same.
    apply List.filterMap_congr
    rintro ⟨earlier, number⟩ hmem
    have hlt : number < raws.length := (List.mem_zipIdx' hmem).1
    dsimp only
    rw [List.take_append_of_le_length hlt.le]
  · simp only [List.zipIdx_singleton, Nat.zero_add, List.take_left, List.filterMap_cons,
      List.filterMap_nil]
    cases (if topicBelow raws = some sectionName then assigned? raw else none) <;> rfl

theorem integers_concat (key : List Char) (made : List (List Char × List Char))
    (assignment : List Char × List Char) :
    integers key (made ++ [assignment]) = integers key made ++
      (if assignment.1 = key then integer? assignment.2 else none).toList := by
  rw [integers, List.filter_append, List.filterMap_append]
  congr 1
  by_cases hkey : assignment.1 = key
  · cases hvalue : integer? assignment.2 <;> simp [hkey, hvalue]
  · simp [hkey]

/-- A line that opens a section is a header. -/
theorem ofText_of_opened? {raw name : List Char} (h : opened? raw = some name) :
    Line.ofText raw = .header name := by
  obtain ⟨inner, hinner, rfl⟩ := Option.map_eq_some_iff.mp h
  have hline := bracketed?_eq_some.mp hinner
  rw [Line.ofText, hinner, hline]
  rfl

/-- Any other line is an assignment or says nothing. -/
theorem ofText_of_not_opened {raw : List Char} (h : opened? raw = none) :
    Line.ofText raw = (assigned? raw).elim .nothing fun set => .assignment set.1 set.2 := by
  have hheader : bracketed? (trim raw) = none := Option.map_eq_none_iff.mp h
  rw [Line.ofText, hheader, assigned?]
  by_cases hskipped : trim raw = [] ∨ (trim raw).head? = some '#'
  · rw [if_pos (by simpa using hskipped), if_neg ?_]
    · rfl
    · rintro ⟨hne, hhead, -⟩
      exact hskipped.elim hne hhead
  · rw [if_neg (by simpa using hskipped)]
    rw [not_or] at hskipped
    obtain ⟨hne, hhead⟩ := hskipped
    by_cases hassigns : '=' ∈ trim raw
    · simp [hassigns, hne, hhead, hheader, keyOf, valueOf]
    · simp [hassigns]

/-- A header assigns nothing. -/
theorem assigned?_of_opened? {raw name : List Char} (h : opened? raw = some name) :
    assigned? raw = none := by
  obtain ⟨inner, hinner, -⟩ := Option.map_eq_some_iff.mp h
  refine if_neg fun hline => ?_
  rw [hline.2.2.1] at hinner
  cases hinner

/-- An assignment leaves the section as it is. -/
theorem topic_assignment (reading : Reading) (key value : List Char) :
    (reading.step (.assignment key value)).topic = reading.topic := by
  rw [Reading.step]
  split_ifs
  · cases Numeric.Literal.readMarked (String.ofList value) with
    | error fault => rfl
    | ok n =>
      dsimp only
      rw [Reading.set]
      split_ifs <;> rfl
  · rfl

/-! ## What a reading says -/

/-- A reading says what assignments come to. -/
structure Sums (reading : Reading) (made : List (List Char × List Char)) : Prop where
  enabled_iff : reading.enabled = true ↔ (integers enabledKey made).getLast? ≠ some 0
  port_eq : reading.port =
    ((integers portKey made).filter fun n => 1 ≤ n ∧ n ≤ 65535).getLast?.getD 8080
  ignored_eq : reading.ignored = rejected made

namespace Sums

variable {reading : Reading} {made : List (List Char × List Char)}

theorem answer_eq (h : Sums reading made) : reading.answer = portOfAssignments made := by
  rw [Reading.answer, portOfAssignments, h.port_eq]
  by_cases hzero : (integers enabledKey made).getLast? = some 0
  · rw [if_pos hzero, if_neg fun henabled => h.enabled_iff.mp henabled hzero]
  · rw [if_neg hzero, if_pos (h.enabled_iff.mpr hzero)]

/-- An integer that is assigned to the switch. -/
theorem assign_enabled (h : Sums reading made) {value : List Char} {n : Int}
    (hvalue : integer? value = some n) :
    Sums { reading with enabled := n != 0 } (made ++ [(enabledKey, value)]) where
  enabled_iff := by
    rw [integers_concat, if_pos rfl, hvalue, Option.toList_some, List.getLast?_concat]
    simp
  port_eq := by
    have hkeys : enabledKey ≠ portKey := by decide
    rw [integers_concat, if_neg hkeys, Option.toList_none, List.append_nil]
    exact h.port_eq
  ignored_eq := by
    rw [rejected, List.filter_append, ← rejected, ← h.ignored_eq]
    simp [hvalue]

/-- An integer that is assigned to the port counts if a port may have it. -/
theorem assign_port (h : Sums reading made) {value : List Char} {n : Int}
    (hvalue : integer? value = some n) :
    Sums { reading with port := if 1 ≤ n ∧ n ≤ 65535 then n else reading.port }
      (made ++ [(portKey, value)]) where
  enabled_iff := by
    have hkeys : portKey ≠ enabledKey := by decide
    rw [integers_concat, if_neg hkeys, Option.toList_none, List.append_nil]
    exact h.enabled_iff
  port_eq := by
    rw [integers_concat, if_pos rfl, hvalue, Option.toList_some, List.filter_append]
    by_cases hport : 1 ≤ n ∧ n ≤ 65535
    · simp [hport]
    · simp [hport, h.port_eq]
  ignored_eq := by
    rw [rejected, List.filter_append, ← rejected, ← h.ignored_eq]
    simp [hvalue]

/-- An assignment that sets nothing: it is noted when its key counts. -/
theorem assign_other (h : Sums reading made) (key value : List Char)
    (hother : IsKey key → integer? value = none) :
    Sums { reading with
        ignored := reading.ignored ++ if IsKey key then [(key, value)] else [] }
      (made ++ [(key, value)]) := by
  -- No integer is assigned to a key that counts.
  have hnone : ∀ counting, IsKey counting →
      integers counting (made ++ [(key, value)]) = integers counting made := by
    intro counting hcounting
    rw [integers_concat]
    by_cases hkey : key = counting
    · rw [if_pos hkey, hother (hkey ▸ hcounting), Option.toList_none, List.append_nil]
    · rw [if_neg hkey, Option.toList_none, List.append_nil]
  refine ⟨?_, ?_, ?_⟩
  · rw [hnone enabledKey (.inl rfl)]
    exact h.enabled_iff
  · rw [hnone portKey (.inr rfl)]
    exact h.port_eq
  · rw [rejected, List.filter_append, ← rejected, ← h.ignored_eq]
    by_cases hkey : IsKey key
    · simp [hkey, hother hkey]
    · simp [hkey]

/-- **One more assignment** in the section that is read. -/
theorem assign (h : Sums reading made) (htopic : reading.topic = sectionName)
    (key value : List Char) :
    Sums (reading.step (.assignment key value)) (made ++ [(key, value)]) := by
  have hcounts : (reading.topic == sectionName && (key == enabledKey || key == portKey)) =
      decide (IsKey key) := by
    rw [Bool.eq_iff_iff, decide_eq_true_iff, IsKey]
    simp [htopic]
  rw [Reading.step, hcounts]
  by_cases hkey : IsKey key
  · rw [if_pos (decide_eq_true hkey)]
    cases hvalue : Numeric.Literal.readMarked (String.ofList value) with
    | error fault =>
      have hnone : integer? value = none := by rw [integer?, hvalue]; rfl
      have hother := h.assign_other key value fun _ => hnone
      rwa [if_pos hkey] at hother
    | ok n =>
      have hsome : integer? value = some n := by rw [integer?, hvalue]; rfl
      show Sums (reading.set key n) (made ++ [(key, value)])
      rcases hkey with rfl | rfl
      · exact h.assign_enabled hsome
      · have hport := h.assign_port hsome
        have hkeys : (portKey == enabledKey) = false := by decide
        rw [Reading.set, hkeys, isPort, ← Bool.decide_and]
        by_cases hrange : 1 ≤ n ∧ n ≤ 65535
        · simpa [hrange] using hport
        · simpa [hrange] using hport
  · rw [if_neg (by simpa using hkey)]
    have hother := h.assign_other key value fun hcounting => absurd hcounting hkey
    rwa [if_neg hkey, List.append_nil] at hother

end Sums

/-- A reading says what lines come to: in which section the next line stands, and what the
assignments in the section that is read add up to. -/
structure Tells (reading : Reading) (raws : List (List Char)) : Prop where
  inside_iff : reading.topic = sectionName ↔ topicBelow raws = some sectionName
  sums : Sums reading (assignments raws)

/-- **One more line.** -/
theorem Tells.step {reading : Reading} {raws : List (List Char)} (h : Tells reading raws)
    (raw : List Char) : Tells (reading.step (Line.ofText raw)) (raws ++ [raw]) := by
  cases hopened : opened? raw with
  | some name =>
    -- A header moves the section and assigns nothing.
    rw [ofText_of_opened? hopened]
    refine ⟨?_, ?_⟩
    · rw [topicBelow_concat, hopened, Option.some_or, Option.some_inj]
      rfl
    · rw [assignments_concat, assigned?_of_opened? hopened, ite_self, Option.toList_none,
        List.append_nil]
      exact ⟨h.sums.enabled_iff, h.sums.port_eq, h.sums.ignored_eq⟩
  | none =>
    have htopic : topicBelow (raws ++ [raw]) = topicBelow raws := by
      rw [topicBelow_concat, hopened, Option.none_or]
    rw [ofText_of_not_opened hopened]
    cases hassigned : assigned? raw with
    | none =>
      refine ⟨htopic ▸ h.inside_iff, ?_⟩
      rw [assignments_concat, hassigned, ite_self, Option.toList_none, List.append_nil]
      exact h.sums
    | some set =>
      have hstep : (reading.step (.assignment set.1 set.2)).topic = reading.topic :=
        topic_assignment reading set.1 set.2
      refine ⟨?_, ?_⟩
      · rw [htopic, Option.elim_some, hstep]
        exact h.inside_iff
      · rw [assignments_concat, hassigned, Option.elim_some]
        by_cases hinside : reading.topic = sectionName
        · rw [if_pos (h.inside_iff.mp hinside), Option.toList_some]
          exact h.sums.assign hinside set.1 set.2
        · -- Outside of the section that is read, an assignment does nothing.
          rw [if_neg fun hbelow => hinside (h.inside_iff.mpr hbelow), Option.toList_none,
            List.append_nil]
          have hskip : reading.step (.assignment set.1 set.2) = reading := by
            simp [Reading.step, hinside]
          rw [hskip]
          exact h.sums

/-- **A reading says what the lines come to** that it has seen. -/
theorem tells_lines (raws : List (List Char)) :
    Tells ((raws.map Line.ofText).foldl Reading.step {}) raws := by
  induction raws using List.reverseRecOn with
  | nil => exact ⟨by decide, ⟨by decide, rfl, rfl⟩⟩
  | append_singleton raws raw ih =>
    rw [List.map_append, List.foldl_append]
    exact ih.step raw

/-! ## Lines outside of the section -/

section Outside

variable {above between : List (List Char)}

theorem topicBelow_around (hplain : ∀ raw ∈ between, opened? raw = none)
    (below : List (List Char)) :
    topicBelow (above ++ between ++ below) = topicBelow (above ++ below) := by
  have hnone : between.filterMap opened? = [] := List.filterMap_eq_nil_iff.mpr hplain
  simp [topicBelow, List.filterMap_append, hnone]

/-- **Lines outside of the section** that is read assign nothing, wherever they stand, unless they
are headers. -/
theorem assignments_around (houtside : topicBelow above ≠ some sectionName)
    (hplain : ∀ raw ∈ between, opened? raw = none) (below : List (List Char)) :
    assignments (above ++ between ++ below) = assignments (above ++ below) := by
  induction below using List.reverseRecOn with
  | nil =>
    rw [List.append_nil, List.append_nil]
    -- The lines between are left out one by one, the last one first.
    induction between using List.reverseRecOn with
    | nil => rw [List.append_nil]
    | append_singleton between raw ih =>
      have hearlier : ∀ raw ∈ between, opened? raw = none := by
        intro raw hraw
        exact hplain raw (List.mem_append_left _ hraw)
      have htopic : topicBelow (above ++ between) = topicBelow above := by
        simpa using topicBelow_around hearlier []
      rw [← List.append_assoc, assignments_concat, htopic, if_neg houtside, Option.toList_none,
        List.append_nil]
      exact ih hearlier
  | append_singleton below raw ih =>
    rw [← List.append_assoc, ← List.append_assoc, assignments_concat, assignments_concat, ih,
      topicBelow_around hplain]

end Outside

/-! ## The port of a directory -/

variable {σ : Type}

/-- Noting the ignored assignments writes one record for each of them, in their order. -/
theorem run_noteIgnored (path : String) (ignored : List (List Char × List Char)) (state : σ) :
    ignored.forM (noteIgnored path) state = ⟨.ok (), state, ignored.map (rejection path)⟩ := by
  induction ignored with
  | nil => rfl
  | cons assignment ignored ih =>
    have hfirst : noteIgnored path assignment state =
        (⟨.ok (), state, [rejection path assignment]⟩ : Report σ Unit) := by
      simp [noteIgnored, rejection, String.append_assoc]
    show (noteIgnored path assignment >>= fun _ => ignored.forM (noteIgnored path)) state = _
    rw [Act.run_bind, hfirst]
    dsimp only
    rw [ih]
    rfl

/-- Reading the port of a file that is there. -/
theorem run_readPort {tree : Files.Tree} {directory : String} {bytes : List UInt8}
    (hne : directory ≠ "") (hread : tree.read (filePath directory) = .ok (some bytes))
    (state : σ) :
    readPort tree (some directory) state =
      ⟨.ok (portOfAssignments (assignments (splitLines (Utf8.decode bytes)))), state,
        (rejected (assignments (splitLines (Utf8.decode bytes)))).map
          (rejection (filePath directory))⟩ := by
  have htells := tells_lines (splitLines (Utf8.decode bytes))
  rw [← ofText] at htells
  have hempty : directory.isEmpty = false := by simpa using hne
  rw [readPort]
  simp only [hempty, hread, Bool.false_eq_true, if_false]
  rw [Act.run_bind, run_noteIgnored, htells.sums.answer_eq, htells.sums.ignored_eq]
  simp

/-- Without a file that can be read, the port is the default. -/
theorem run_readPort_of_unread {tree : Files.Tree} {directory : String}
    (htaken : Failure.ofText? directory = none)
    (hunread : ∀ bytes, tree.read (filePath directory) ≠ .ok (some bytes)) (state : σ) :
    readPort tree (some directory) state = ⟨.ok 8080, state, []⟩ := by
  rw [readPort]
  by_cases hempty : directory.isEmpty
  · simp only [hempty, if_true]
    rfl
  · simp only [hempty, Bool.false_eq_true, if_false]
    cases hread : tree.read (filePath directory) with
    | ok content =>
      cases content with
      | none => rfl
      | some bytes => exact absurd hread (hunread bytes)
    | error obstacle =>
      cases obstacle with
      | refused failure =>
        -- The system takes the path, as it takes the text of the directory.
        have hpath := Files.ofText?_child directory fileName htaken ofText?_fileName
        rw [filePath] at hread
        rw [Files.Tree.read_refused _ _ _ hread] at hpath
        cases hpath
      | missing | notDirectory | nameTooLong | denied => rfl

/-- **The last valid assignment counts.** The port of a file is read off the assignments in its
section: it is -1 if the last integer assigned to the switch is zero, and otherwise the last integer
assigned to the port that a port may have, or 8080. Exactly the assignments to these keys whose
value is no integer are logged, in the order of the file. Lines outside of the section may be
replaced by any other lines that are no headers. Without a directory, or without a file that can be
read in a directory whose text the system takes, the port is 8080. It is always -1 or a number from
1 to 65535. -/
theorem last_assignment_counts (tree : Files.Tree) (directory : String) (state : σ) :
    (∀ bytes, directory ≠ "" → tree.read (filePath directory) = .ok (some bytes) →
      let raws := splitLines (Utf8.decode bytes)
      readPort tree (some directory) state =
        ⟨.ok (portOfAssignments (assignments raws)), state,
          (rejected (assignments raws)).map (rejection (filePath directory))⟩ ∧
      ∀ above between below, raws = above ++ between ++ below →
        topicBelow above ≠ some sectionName → (∀ raw ∈ between, opened? raw = none) →
        ∀ other otherBytes replaced, other.read (filePath directory) = .ok (some otherBytes) →
          splitLines (Utf8.decode otherBytes) = above ++ replaced ++ below →
          (∀ raw ∈ replaced, opened? raw = none) →
          readPort other (some directory) state = readPort tree (some directory) state) ∧
    readPort tree none state = ⟨.ok 8080, state, []⟩ ∧
    readPort tree (some "") state = ⟨.ok 8080, state, []⟩ ∧
    (Failure.ofText? directory = none →
      (∀ bytes, tree.read (filePath directory) ≠ .ok (some bytes)) →
      readPort tree (some directory) state = ⟨.ok 8080, state, []⟩) ∧
    ∀ place port, (readPort tree place state).outcome = .ok port →
      port = -1 ∨ 1 ≤ port ∧ port ≤ 65535 := by
  refine ⟨fun bytes hne hread => ⟨run_readPort hne hread state, ?_⟩, rfl, rfl,
    fun htaken hunread => run_readPort_of_unread htaken hunread state, fun place port hport => ?_⟩
  · intro above between below hraws houtside hplain other otherBytes replaced hother hlines hbare
    -- Both files make the assignments of the lines above and below.
    rw [run_readPort hne hother, run_readPort hne hread, hlines, hraws,
      assignments_around houtside hbare, assignments_around houtside hplain]
  · rw [outcome_readPort] at hport
    apply (portOf_range hport).imp_right
    intro hrange
    simpa [isPort] using hrange

/-- A file with two sections that are read, and lines in another section between them. -/
def sectionedText (between : String) : String :=
  "[webif]\nPORT=0x2000\nenabled = off\n[other]\n" ++ between ++
    "\n[ WebIf ]\nPort = 70000 # too large\n"

/-- A file that nobody may read. -/
def closedTree : Files.Tree where
  entries := [(["config.cfg"], .file (bytesOf (sectionedText "PORT=1")) 0o200)]

theorem read_closedTree : closedTree.read (filePath "/") = .error .denied := by
  have hpath : filePath "/" = "/config.cfg" := by decide +kernel
  have hfind : closedTree.find [] "/config.cfg" = .ok ["config.cfg"] :=
    Files.Tree.find_of_walk _ (by decide +kernel) (by decide) (by decide) (by decide +kernel) rfl
  have hfound : closedTree.find closedTree.workingDirectory "/config.cfg" = .ok ["config.cfg"] :=
    hfind
  rw [hpath, Files.Tree.read, Files.Tree.lookUp, hfound]
  rfl

/-- The last port that is in range counts, in whatever base it is written, and a value that is no
integer is logged. What the other section says is of no account, and a file that may not be read
leaves the default. -/
theorem last_assignment_counts_sections :
    readPort (configTree (sectionedText "PORT=1")) (some "/") () =
        ⟨.ok 8192, (), [rejection "/config.cfg" (enabledKey, "off".toList)]⟩ ∧
      readPort (configTree (sectionedText "ENABLED=0\nPORT=2")) (some "/") () =
        readPort (configTree (sectionedText "PORT=1")) (some "/") () ∧
      readPort closedTree (some "/") () = ⟨.ok 8080, (), []⟩ := by
  have hpath : filePath "/" = "/config.cfg" := by decide +kernel
  obtain ⟨hfile, -⟩ :=
    last_assignment_counts (configTree (sectionedText "PORT=1")) "/" ()
  obtain ⟨hport, hsame⟩ := hfile _ (by decide) (read_configTree _)
  obtain ⟨-, -, -, hunread, -⟩ := last_assignment_counts closedTree "/" ()
  have hmade : assignments (splitLines (Utf8.decode (bytesOf (sectionedText "PORT=1")))) =
      [(portKey, "0x2000".toList), (enabledKey, "off".toList), (portKey, "70000".toList)] := by
    decide +kernel
  refine ⟨?_, ?_, ?_⟩
  · rw [hport, hmade, hpath]
    have hanswer : portOfAssignments [(portKey, "0x2000".toList), (enabledKey, "off".toList),
        (portKey, "70000".toList)] = 8192 := by decide +kernel
    have hrejected : rejected [(portKey, "0x2000".toList), (enabledKey, "off".toList),
        (portKey, "70000".toList)] = [(enabledKey, "off".toList)] := by decide +kernel
    rw [hanswer, hrejected]
    rfl
  · exact hsame ["[webif]".toList, "PORT=0x2000".toList, "enabled = off".toList, "[other]".toList]
      ["PORT=1".toList] ["[ WebIf ]".toList, "Port = 70000 # too large".toList]
      (by decide +kernel) (by decide +kernel) (by decide +kernel) _ _
      ["ENABLED=0".toList, "PORT=2".toList] (read_configTree _) (by decide +kernel)
      (by decide +kernel)
  · refine hunread ((Files.ofText?_eq_none "/").mpr (by decide +kernel)) fun bytes => ?_
    rw [read_closedTree]
    exact nofun

end Warden.Webif
