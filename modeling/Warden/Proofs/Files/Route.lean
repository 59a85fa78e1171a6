import Mathlib.Tactic.Common
import Warden.Proofs.Files.Taken

/-!
# Where a path leads

A path that starts with a separator leads to the same place from every directory. A path below a
directory leads to the place of the directory with the names of the path behind it. The text of a
path in normal form is looked up along its own names, and leads where the text it was read from
leads.

## Main definitions

* `IsName`: a name between two separators
* `Tree.origin`: where a route starts

## Main results

* `route_text`: the text of a path is looked up along its names
* `find_absolute`: an absolute text leads to the same place from everywhere
* `find_below`: where a relative text without `..` leads
* `walk_normal`: the names `.` may be left out
* `find_child`: a file in a directory is found in the place of the directory
-/

namespace Warden.Files

open Warden.Text

/-! ## Names in a text -/

/-- A name between two separators. -/
def IsName (name : List Char) : Prop :=
  name ≠ [] ∧ separator ∉ name

instance (name : List Char) : Decidable (IsName name) :=
  inferInstanceAs (Decidable (_ ∧ _))

theorem splitAtEach_ne_nil (isCut : Char → Bool) (text : List Char) :
    splitAtEach isCut text ≠ [] := by
  cases text with
  | nil => simp [splitAtEach]
  | cons c text =>
    rw [splitAtEach]
    repeat' split
    all_goals simp

/-- No piece holds a cut. -/
theorem not_isCut_of_mem (isCut : Char → Bool) (text piece : List Char) (c : Char)
    (hpiece : piece ∈ splitAtEach isCut text) (hc : c ∈ piece) : isCut c = false := by
  induction text generalizing piece with
  | nil => simp_all [splitAtEach]
  | cons first text ih =>
    rw [splitAtEach] at hpiece
    split at hpiece
    · rcases List.mem_cons.mp hpiece with rfl | hrest
      · simp at hc
      · exact ih piece hrest hc
    · next hfirst =>
      split at hpiece
      · next hnil => exact absurd hnil (splitAtEach_ne_nil isCut text)
      · next head pieces heq =>
        rw [heq] at ih
        rcases List.mem_cons.mp hpiece with rfl | hrest
        · rcases List.mem_cons.mp hc with rfl | hc
          · exact Bool.eq_false_iff.mpr hfirst
          · exact ih head (by simp) hc
        · exact ih piece (by simp [hrest]) hc

/-- A piece without a cut stays in one. -/
theorem splitAtEach_of_no_cut (isCut : Char → Bool) (piece : List Char)
    (hpiece : ∀ c ∈ piece, isCut c = false) : splitAtEach isCut piece = [piece] := by
  induction piece with
  | nil => rfl
  | cons c piece ih =>
    rw [splitAtEach, hpiece c (by simp), ih fun c hc => hpiece c (by simp [hc])]
    rfl

/-- A piece ends at the next cut. -/
theorem splitAtEach_append_cut (isCut : Char → Bool) (piece rest : List Char) (cut : Char)
    (hpiece : ∀ c ∈ piece, isCut c = false) (hcut : isCut cut = true) :
    splitAtEach isCut (piece ++ cut :: rest) = piece :: splitAtEach isCut rest := by
  induction piece with
  | nil => rw [List.nil_append, splitAtEach, if_pos hcut]
  | cons c piece ih =>
    rw [List.cons_append, splitAtEach, hpiece c (by simp), ih fun c hc => hpiece c (by simp [hc])]
    rfl

theorem isName_of_mem_namesOf {text name : List Char} (h : name ∈ namesOf text) : IsName name := by
  obtain ⟨hpiece, hne⟩ := List.mem_filter.mp h
  refine ⟨fun hnil => by simp [hnil] at hne, fun hsep => ?_⟩
  have hcut := not_isCut_of_mem _ _ _ _ hpiece hsep
  simp at hcut

@[simp] theorem namesOf_nil : namesOf [] = [] := rfl

@[simp] theorem namesOf_separator (text : List Char) :
    namesOf (separator :: text) = namesOf text := by
  rw [namesOf, splitAtEach, if_pos (by simp), List.filter_cons_of_neg (by simp), ← namesOf]

theorem isCut_eq_false {name : List Char} (h : IsName name) :
    ∀ c ∈ name, (c == separator) = false := by
  intro c hc
  rw [beq_eq_false_iff_ne]
  rintro rfl
  exact h.2 hc

/-- A text of one name. -/
theorem namesOf_name {name : List Char} (h : IsName name) : namesOf name = [name] := by
  rw [namesOf, splitAtEach_of_no_cut _ _ (isCut_eq_false h), List.filter_cons_of_pos (by simp [h.1]),
    List.filter_nil]

theorem namesOf_name_append {name : List Char} (h : IsName name) (text : List Char) :
    namesOf (name ++ separator :: text) = name :: namesOf text := by
  rw [namesOf, splitAtEach_append_cut _ _ _ _ (isCut_eq_false h) (by simp),
    List.filter_cons_of_pos (by simp [h.1]), ← namesOf]

/-- **Names with separators between them** are read back. -/
theorem namesOf_intercalate {names : List (List Char)} (h : ∀ name ∈ names, IsName name) :
    namesOf ([separator].intercalate names) = names := by
  induction names with
  | nil => rfl
  | cons name names ih =>
    have hname := h name (by simp)
    have hrest := ih fun other hother => h other (by simp [hother])
    cases names with
    | nil => simpa using namesOf_name hname
    | cons next names =>
      rw [List.intercalate_cons_cons, List.append_assoc, List.singleton_append,
        namesOf_name_append hname, hrest]

/-! ## The text of a path -/

/-- A text starts with a separator exactly when its root is not empty. -/
theorem isEmpty_rootOf (text : List Char) :
    (rootOf text).isEmpty = !(text.head? == some separator) := by
  rw [rootOf]
  cases text with
  | nil => rfl
  | cons c text =>
    by_cases hc : c = separator
    · subst hc
      have hlength : ((separator :: text).takeWhile (· == separator)).length ≠ 0 := by simp
      split <;> simp_all
    · simp [hc]

theorem mem_rootOf {text : List Char} {c : Char} (h : c ∈ rootOf text) : c = separator := by
  rw [rootOf] at h
  split at h <;> simp_all

theorem namesOf_root_append {root : List Char} (hroot : ∀ c ∈ root, c = separator)
    (text : List Char) : namesOf (root ++ text) = namesOf text := by
  induction root with
  | nil => rfl
  | cons c root ih =>
    obtain rfl := hroot c (by simp)
    rw [List.cons_append, namesOf_separator]
    exact ih fun c hc => hroot c (by simp [hc])

/-- Names with separators between them start with a character of the first name, and end with one of
the last name. -/
theorem ends_intercalate {names : List (List Char)} (h : ∀ name ∈ names, IsName name)
    (hne : names ≠ []) : ∃ first last : Char, first ≠ separator ∧ last ≠ separator ∧
      ([separator].intercalate names).head? = some first ∧
      ([separator].intercalate names).getLast? = some last := by
  induction names with
  | nil => exact absurd rfl hne
  | cons name names ih =>
    have hname := h name (by simp)
    obtain ⟨first, rest, rfl⟩ := List.exists_cons_of_ne_nil hname.1
    have hfirst : first ≠ separator := fun heq => hname.2 (by simp [heq])
    cases names with
    | nil =>
      obtain ⟨last, hlast⟩ := Option.isSome_iff_exists.mp
        (List.getLast?_isSome.mpr (List.cons_ne_nil first rest))
      refine ⟨first, last, hfirst, fun heq => hname.2 ?_, by simp, by simpa using hlast⟩
      exact heq ▸ List.mem_of_getLast? hlast
    | cons next names =>
      obtain ⟨-, last, -, hlast, -, hend⟩ :=
        ih (fun other hother => h other (by simp [hother])) (by simp)
      refine ⟨first, last, hfirst, hlast, ?_, ?_⟩
      · simp [List.intercalate_cons_cons]
      · rw [List.intercalate_cons_cons, List.getLast?_append, hend]
        rfl

/-- **The text of a path** with names is looked up along these names. -/
theorem route_text {path : Path} (hroot : ∀ c ∈ path.root, c = separator)
    (hnames : ∀ name ∈ path.names, IsName name) (hne : path.names ≠ []) :
    Route.ofText path.text =
      ⟨!path.root.isEmpty, path.names.map String.ofList, false⟩ := by
  obtain ⟨first, last, hfirst, hlast, hhead, hend⟩ := ends_intercalate hnames hne
  have htext : path.text.toList = path.root ++ [separator].intercalate path.names := by
    rw [Path.text, if_neg (by simp [hne]), String.toList_ofList]
  have habsolute : (path.text.toList.head? == some separator) = !path.root.isEmpty := by
    rw [htext]
    cases hlist : path.root with
    | nil => simp [hhead, hfirst]
    | cons c root =>
      have hc : c = separator := hroot c (by simp [hlist])
      simp [hc]
  have hdirectory : (path.text.toList.getLast? == some separator) = false := by
    rw [htext, List.getLast?_append, hend]
    simpa using hlast
  have hlist : namesOf path.text.toList = path.names := by
    rw [htext, namesOf_root_append hroot, namesOf_intercalate hnames]
  rw [Route.ofText, habsolute, hdirectory, hlist]

theorem isName_of_mem_ofText {text : String} {name : List Char}
    (h : name ∈ (Path.ofText text).names) : IsName name :=
  isName_of_mem_namesOf (List.mem_filter.mp h).1

/-- The route of a file in a directory. -/
theorem route_child (text : String) {name : String} (hname : IsName name.toList) :
    Route.ofText ((Path.ofText text).child name).text =
      ⟨(Route.ofText text).isAbsolute,
        (Route.ofText text).names.filter (· != ".") ++ [name], false⟩ := by
  have hnames : ∀ other ∈ ((Path.ofText text).child name).names, IsName other := by
    intro other hother
    rcases List.mem_append.mp hother with hold | hnew
    · exact isName_of_mem_ofText hold
    · rwa [List.mem_singleton.mp hnew]
  have hlist : ((Path.ofText text).names.map String.ofList) =
      (Route.ofText text).names.filter (· != ".") := by
    have hpoint : (fun piece : List Char => piece != ['.']) =
        (fun name : String => name != ".") ∘ String.ofList := by
      funext piece
      simp only [Function.comp, bne, Bool.not_inj_iff]
      rw [Bool.eq_iff_iff, beq_iff_eq, beq_iff_eq, ← String.toList_inj, String.toList_ofList]
      rfl
    rw [Path.ofText, Route.ofText, List.filter_map, hpoint]
  rw [route_text (fun c hc => mem_rootOf hc) hnames (by simp [Path.child]), Path.child,
    List.map_append, hlist, List.map_singleton, String.ofList_toList]
  have habsolute : (!(Path.ofText text).root.isEmpty) = (Route.ofText text).isAbsolute := by
    rw [Path.ofText, Route.ofText, isEmpty_rootOf, Bool.not_not]
  rw [habsolute]

/-! ## Walking -/

namespace Tree

variable (tree : Tree)

theorem walk_append (here : Place) (names more : List String) :
    tree.walk here (names ++ more) =
      (tree.walk here names).bind fun there => tree.walk there more := by
  induction names generalizing here with
  | nil => rfl
  | cons name names ih =>
    rw [List.cons_append, walk, walk]
    split_ifs <;> first | rfl | exact ih _

/-- The name `.` leads nowhere else. -/
theorem walk_point {here there : Place} {names : List String}
    (h : tree.walk here ("." :: names) = .ok there) : tree.walk here names = .ok there := by
  rw [walk, if_pos (beq_self_eq_true _)] at h
  split_ifs at h
  exact h

/-- **The name `.`** may be left out. -/
theorem walk_normal {here there : Place} {names : List String}
    (h : tree.walk here names = .ok there) :
    tree.walk here (names.filter (· != ".")) = .ok there := by
  induction names generalizing here with
  | nil => exact h
  | cons name names ih =>
    by_cases hpoint : name = "."
    · subst hpoint
      rw [List.filter_cons_of_neg (by simp)]
      exact ih (tree.walk_point h)
    · rw [List.filter_cons_of_pos (by simpa using hpoint)]
      rw [walk] at h ⊢
      split_ifs at h ⊢ <;> exact ih h

/-- Names without `..` lead to a place behind the first one. -/
theorem walk_below {here there : Place} {names : List String} (hup : ".." ∉ names)
    (h : tree.walk here names = .ok there) : there = here ++ names.filter (· != ".") := by
  induction names generalizing here with
  | nil =>
    obtain rfl := Except.ok.inj h
    simp
  | cons name names ih =>
    have hrest : ".." ∉ names := fun hmem => hup (List.mem_cons_of_mem _ hmem)
    by_cases hpoint : name = "."
    · subst hpoint
      rw [List.filter_cons_of_neg (by simp)]
      exact ih hrest (tree.walk_point h)
    · have hparent : name ≠ ".." := fun heq => hup (by simp [heq])
      rw [List.filter_cons_of_pos (by simpa using hpoint)]
      rw [walk] at h
      split_ifs at h with _ hname hname
      · exact absurd (by simpa using hname) hpoint
      · exact absurd (by simpa using hname) hparent
      · simpa using ih hrest h

/-! ## Looking up -/

/-- Where a route starts that is followed from a place. -/
def origin (start : Place) (route : Route) : Place :=
  if route.isAbsolute then [] else start

/-- Looking up a text that the system takes. -/
theorem find_taken {text : String} (h : text.toList.all isTaken = true) (start : Place) :
    tree.find start text =
      if text.isEmpty then .error .missing
      else if pathLimit < text.utf8ByteSize then .error .nameTooLong
      else (tree.walk (origin start (Route.ofText text)) (Route.ofText text).names).bind fun place =>
        if (Route.ofText text).namesDirectory && !tree.hasDirectory place then .error .notDirectory
        else .ok place := by
  rw [find, (ofText?_eq_none text).mpr h]
  rfl

/-- What the names of a text lead to is found, if the text is short and does not end in a
separator. -/
theorem find_of_walk {start place : Place} {text : String} (htaken : text.toList.all isTaken = true)
    (hne : text.isEmpty = false) (hshort : text.utf8ByteSize ≤ pathLimit)
    (hdirectory : (Route.ofText text).namesDirectory = false)
    (hwalk : tree.walk (origin start (Route.ofText text)) (Route.ofText text).names = .ok place) :
    tree.find start text = .ok place := by
  rw [tree.find_taken htaken, hne, if_neg Bool.false_ne_true, if_neg (Nat.not_lt.mpr hshort),
    hwalk, Except.bind, hdirectory, Bool.false_and, if_neg Bool.false_ne_true]

/-- What is found is led to by the names of the text. -/
theorem walk_of_find {start place : Place} {text : String} (h : tree.find start text = .ok place) :
    tree.walk (origin start (Route.ofText text)) (Route.ofText text).names = .ok place := by
  rw [find] at h
  split at h
  · cases h
  · split_ifs at h
    change (tree.walk (origin start (Route.ofText text)) (Route.ofText text).names).bind _ = _ at h
    cases hwalk : tree.walk (origin start (Route.ofText text)) (Route.ofText text).names with
    | error obstacle => rw [hwalk] at h; cases h
    | ok there =>
      rw [hwalk, Except.bind] at h
      split_ifs at h
      exact h

/-- **An absolute text** leads to the same place from everywhere. -/
theorem find_absolute {text : String} (h : (Route.ofText text).isAbsolute = true)
    (start other : Place) : tree.find start text = tree.find other text := by
  simp only [find, h, if_true]

/-- **A relative text without `..`** leads to the place behind the first one. -/
theorem find_below {start place : Place} {text : String}
    (habsolute : (Route.ofText text).isAbsolute = false) (hup : ".." ∉ (Route.ofText text).names)
    (h : tree.find start text = .ok place) :
    place = start ++ (Route.ofText text).names.filter (· != ".") := by
  have hwalk := tree.walk_of_find h
  rw [origin, habsolute] at hwalk
  exact tree.walk_below hup hwalk

/-- **A file in a directory** is found in the place of the directory. -/
theorem find_child {start directory file : Place} {text name : String}
    (hname : IsName name.toList) (hpoint : name ≠ ".") (hparent : name ≠ "..")
    (hdirectory : tree.find start text = .ok directory)
    (hfile : tree.find start ((Path.ofText text).child name).text = .ok file) :
    file = directory ++ [name] := by
  have hwalk := tree.walk_of_find hfile
  rw [route_child text hname] at hwalk
  -- Both texts are followed from the same place, along the same names up to the last one.
  have horigin : origin start ⟨(Route.ofText text).isAbsolute,
      (Route.ofText text).names.filter (· != ".") ++ [name], false⟩ =
        origin start (Route.ofText text) := rfl
  rw [horigin, walk_append, tree.walk_normal (tree.walk_of_find hdirectory)] at hwalk
  have hlast := tree.walk_below (by simpa using Ne.symm hparent) hwalk
  simpa [hpoint] using hlast

/-- The content of a file that is found. -/
theorem read_of_find {text : String} {place : Place} {content : List UInt8} {mode : Nat}
    (hfind : tree.find tree.workingDirectory text = .ok place)
    (hentry : tree.entry? place = some (.file content mode))
    (hmode : (Entry.file content mode).isReadable = true) :
    tree.read text = .ok (some content) := by
  have hlook : tree.lookUp text = .ok (.file content mode) := by
    simp only [lookUp, hfind, bind, Except.bind, hentry]
  simp only [read, hlook, bind, Except.bind, hmode, Bool.not_true, Bool.false_eq_true, if_false]

end Tree

end Warden.Files
