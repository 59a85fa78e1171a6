import Mathlib.Tactic.Common
import Warden.Files.Tree

/-!
# Texts that the system takes

The system takes a text unless it holds a NUL character or a code point that has no encoding. The
characters of a path in normal form are those of the text it was read from, so a path below a taken
directory is taken. Looking something up in a tree refuses a path only because of its text; all
other failures are failed system calls.

## Main definitions

* `isTaken`: a character that the system takes

## Main results

* `ofText?_eq_none`: a text is taken when all its characters are
* `ofText?_child`: a file in a taken directory has a taken path
* `read_refused`: reading refuses only a text that is not taken
* `ask_error`: a question about a path fails only as a system call
-/

namespace Warden.Files

open Warden.Text

/-- A character that the system takes. -/
def isTaken (c : Char) : Bool :=
  !isUnencodable c && c != '\x00'

/-- Cutting a text where a property begins to hold leaves nothing exactly when it never holds. -/
theorem takeWhile_drop_eq_nil (holds : Char → Bool) (text : List Char) :
    (text.drop (text.takeWhile fun c => !holds c).length).takeWhile holds = [] ↔
      ∀ c ∈ text, holds c = false := by
  induction text with
  | nil => simp
  | cons c text ih =>
    cases hc : holds c with
    | true => simp [hc]
    | false => simp [hc, ih]

/-- There is no code point without an encoding exactly when every character has one. -/
theorem unencodable?_eq_none (text : List Char) :
    unencodable? text = none ↔ ∀ c ∈ text, isUnencodable c = false := by
  rw [← takeWhile_drop_eq_nil, unencodable?]
  simp [List.isEmpty_iff]

/-- **A text is taken** exactly when all its characters are. -/
theorem ofText?_eq_none (text : String) :
    Failure.ofText? text = none ↔ text.toList.all isTaken = true := by
  have hsplit : text.toList.all isTaken = true ↔
      (∀ c ∈ text.toList, isUnencodable c = false) ∧ '\x00' ∉ text.toList := by
    simp only [List.all_eq_true, isTaken, Bool.and_eq_true, Bool.not_eq_true', bne_iff_ne]
    constructor
    · intro h
      exact ⟨fun c hc => (h c hc).1, fun hnul => (h _ hnul).2 rfl⟩
    · rintro ⟨hcodes, hnul⟩ c hc
      exact ⟨hcodes c hc, fun heq => hnul (heq ▸ hc)⟩
  rw [hsplit, ← unencodable?_eq_none, Failure.ofText?]
  cases unencodable? text.toList with
  | some found => simp
  | none => simp

/-! ## Paths -/

/-- The pieces of a text hold its characters. -/
theorem mem_of_mem_splitAtEach (isCut : Char → Bool) (text piece : List Char) (c : Char)
    (hpiece : piece ∈ splitAtEach isCut text) (hc : c ∈ piece) : c ∈ text := by
  induction text generalizing piece with
  | nil => simp_all [splitAtEach]
  | cons first text ih =>
    rw [splitAtEach] at hpiece
    -- A cut begins an empty piece; any other character joins the piece after it.
    split at hpiece
    · rcases List.mem_cons.mp hpiece with rfl | hrest
      · simp at hc
      · exact List.mem_cons_of_mem _ (ih _ hrest hc)
    · split at hpiece
      · simp_all
      · rename_i head pieces heq
        rcases List.mem_cons.mp hpiece with rfl | hrest
        · rcases List.mem_cons.mp hc with rfl | hc
          · simp
          · exact List.mem_cons_of_mem _ (ih head (by simp [heq]) hc)
        · exact List.mem_cons_of_mem _ (ih piece (by simp [heq, hrest]) hc)

/-- The characters of names with separators between them. -/
theorem mem_intercalate (names : List (List Char)) (c : Char)
    (hc : c ∈ [separator].intercalate names) : c = separator ∨ ∃ name ∈ names, c ∈ name := by
  induction names with
  | nil => simp at hc
  | cons name names ih =>
    cases names with
    | nil => exact .inr ⟨name, by simp, by simpa using hc⟩
    | cons next names =>
      rw [List.intercalate_cons_cons, List.append_assoc, List.mem_append, List.mem_append] at hc
      rcases hc with hc | hc | hc
      · exact .inr ⟨name, by simp, hc⟩
      · exact .inl (by simpa using hc)
      · rcases ih hc with rfl | ⟨other, hother, hc⟩
        · exact .inl rfl
        · exact .inr ⟨other, List.mem_cons_of_mem _ hother, hc⟩

/-- The text of a path is made of its root, its names and separators; the empty path is a point. -/
theorem mem_text (path : Path) (c : Char) (hc : c ∈ path.text.toList) :
    c = '.' ∨ c = separator ∨ c ∈ path.root ∨ ∃ name ∈ path.names, c ∈ name := by
  rw [Path.text] at hc
  split at hc
  · simp_all
  · rw [String.toList_ofList, List.mem_append] at hc
    rcases hc with hc | hc
    · exact .inr (.inr (.inl hc))
    · rcases mem_intercalate _ c hc with rfl | hname
      · exact .inr (.inl rfl)
      · exact .inr (.inr (.inr hname))

/-- The path of a taken text with one more taken name is taken. -/
theorem ofText?_child (text name : String) (htext : Failure.ofText? text = none)
    (hname : Failure.ofText? name = none) :
    Failure.ofText? ((Path.ofText text).child name).text = none := by
  rw [ofText?_eq_none, List.all_eq_true] at htext hname ⊢
  intro c hc
  rcases mem_text _ c hc with rfl | rfl | hroot | ⟨piece, hpiece, hc⟩
  · decide
  · decide
  · have : c = separator := by
      simp only [Path.child, Path.ofText, rootOf] at hroot
      split at hroot <;> simp_all
    rw [this]
    decide
  · rw [Path.child, List.mem_append, List.mem_singleton] at hpiece
    rcases hpiece with hpiece | rfl
    · have hpiece := (List.mem_filter.mp (List.mem_filter.mp hpiece).1).1
      exact htext c (mem_of_mem_splitAtEach _ _ piece c hpiece hc)
    · exact hname c hc

/-! ## Looking up -/

namespace Tree

/-- Walking along names never refuses a text. -/
theorem walk_ne_refused (tree : Tree) (here : Place) (names : List String) (failure : Failure) :
    tree.walk here names ≠ .error (.refused failure) := by
  induction names generalizing here with
  | nil => simp [walk]
  | cons name names ih =>
    rw [walk]
    repeat' split
    all_goals first | exact ih _ | simp

/-- A lookup refuses only a text that is not taken. -/
theorem find_refused (tree : Tree) (start : Place) (text : String) (failure : Failure)
    (h : tree.find start text = .error (.refused failure)) :
    Failure.ofText? text = some failure := by
  rw [find] at h
  cases htext : Failure.ofText? text with
  | some refusal =>
    rw [htext] at h
    cases h
    rfl
  | none =>
    simp only [htext] at h
    generalize (if (Route.ofText text).isAbsolute = true then ([] : Place) else start) = here at h
    cases hwalk : tree.walk here (Route.ofText text).names with
    | error obstacle =>
      simp only [hwalk, bind, Except.bind] at h
      have hrefused : obstacle = .refused failure := by
        split_ifs at h <;> cases h
        rfl
      exact absurd (hrefused ▸ hwalk) (walk_ne_refused tree here _ failure)
    | ok place =>
      simp only [hwalk, bind, Except.bind] at h
      split_ifs at h <;> cases h

/-- **Reading refuses** only a text that is not taken. -/
theorem read_refused (tree : Tree) (text : String) (failure : Failure)
    (h : tree.read text = .error (.refused failure)) : Failure.ofText? text = some failure := by
  rw [read, lookUp] at h
  cases hfind : tree.find tree.workingDirectory text with
  | error obstacle =>
    rw [hfind] at h
    cases h
    exact find_refused _ _ _ _ hfind
  | ok place =>
    cases hentry : tree.entry? place with
    | none => simp [hfind, hentry, bind, Except.bind] at h
    | some entry =>
      simp only [hfind, hentry, bind, Except.bind] at h
      split_ifs at h
      · cases h
      · cases entry <;> cases h

/-- **A question about a path** fails only as a system call. -/
theorem ask_error (tree : Tree) (isIt : Entry → Bool) (text : String) (failure : Failure)
    (h : tree.ask isIt text = .error failure) : failure.isSystem := by
  rw [ask] at h
  split at h <;> cases h
  rfl

end Tree

end Warden.Files
