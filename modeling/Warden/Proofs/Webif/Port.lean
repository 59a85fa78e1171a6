import Mathlib.Data.List.Induction
import Mathlib.Tactic.Common
import Warden.Proofs.Files.Taken
import Warden.Webif

/-!
# What reading the port comes to

Reading the port changes nothing. It fails only for a directory whose text the system does not take.

## Main definitions

* `portOf tree directory`: the port that the files and a directory come to

## Main results

* `state_readPort`, `outcome_readPort`: reading the port comes to `portOf`, whatever the state
* `portOf_ok`: there is a port for every directory whose text the system takes
* `portOf_range`: it is -1 or a number that a port may have
-/

namespace Warden.Webif

open Warden.Text

variable {σ : Type}

/-- The port that the files and a directory come to. -/
def portOf (tree : Files.Tree) : Option String → Except Failure Int
  | none => .ok defaultPort
  | some directory =>
    if directory.isEmpty then .ok defaultPort
    else match tree.read (filePath directory) with
      | .error (.refused failure) => .error failure
      | .ok (some bytes) => .ok (ofText (Utf8.decode bytes)).answer
      | _ => .ok defaultPort

/-- Logging the ignored assignments never fails. -/
theorem outcome_noteIgnored (path : String) (ignored : List (List Char × List Char)) (state : σ) :
    (ignored.forM (noteIgnored path) state).outcome = .ok () := by
  induction ignored with
  | nil => rfl
  | cons assignment ignored ih => exact ih

/-- Logging the ignored assignments changes nothing. -/
theorem state_noteIgnored (path : String) (ignored : List (List Char × List Char)) (state : σ) :
    (ignored.forM (noteIgnored path) state).state = state := by
  induction ignored with
  | nil => rfl
  | cons assignment ignored ih => exact ih

/-- **Reading the port** comes to the port of the files and the directory. -/
theorem outcome_readPort (tree : Files.Tree) (directory : Option String) (state : σ) :
    (readPort tree directory state).outcome = portOf tree directory := by
  cases directory with
  | none => rfl
  | some directory =>
    rw [readPort, portOf]
    by_cases hempty : directory.isEmpty
    · simp [hempty]
    · simp only [hempty, Bool.false_eq_true, if_false]
      rcases tree.read (filePath directory) with (_ | _ | _ | _ | _) | (_ | bytes)
      case ok.some => rw [Act.outcome_bind, outcome_noteIgnored]; rfl
      all_goals rfl

/-- Reading the port changes nothing. -/
@[simp] theorem state_readPort (tree : Files.Tree) (directory : Option String) (state : σ) :
    (readPort tree directory state).state = state := by
  cases directory with
  | none => rfl
  | some directory =>
    rw [readPort]
    by_cases hempty : directory.isEmpty
    · simp [hempty]
    · simp only [hempty, Bool.false_eq_true, if_false]
      rcases tree.read (filePath directory) with (_ | _ | _ | _ | _) | (_ | bytes)
      case ok.some => rw [Act.state_bind, outcome_noteIgnored, state_noteIgnored]; rfl
      all_goals rfl

theorem ofText?_fileName : Failure.ofText? fileName = none :=
  (Files.ofText?_eq_none fileName).mpr (by decide +kernel)

/-- **There is a port** for every directory whose text the system takes. -/
theorem portOf_ok (tree : Files.Tree) (directory : Option String)
    (htaken : ∀ text ∈ directory, Failure.ofText? text = none) :
    ∃ port, portOf tree directory = .ok port := by
  cases directory with
  | none => exact ⟨_, rfl⟩
  | some directory =>
    rw [portOf]
    split
    · exact ⟨_, rfl⟩
    · split
      · rename_i failure hread
        have hpath : Failure.ofText? (filePath directory) = none :=
          Files.ofText?_child directory fileName (htaken directory rfl) ofText?_fileName
        rw [Files.Tree.read_refused _ _ _ hread] at hpath
        cases hpath
      · exact ⟨_, rfl⟩
      · exact ⟨_, rfl⟩

theorem portOf_ne_error {tree : Files.Tree} {directory : Option String} {failure : Failure}
    (htaken : ∀ text ∈ directory, Failure.ofText? text = none) :
    portOf tree directory ≠ .error failure := by
  obtain ⟨port, hport⟩ := portOf_ok tree directory htaken
  intro herror
  cases hport.symm.trans herror

/-! ## The range of ports -/

theorem isPort_set {reading : Reading} (h : isPort reading.port) (key : List Char) (n : Int) :
    isPort (reading.set key n).port := by
  rw [Reading.set]
  split_ifs with hkey hport
  · exact h
  · exact hport
  · exact h

theorem isPort_step {reading : Reading} (h : isPort reading.port) (line : Line) :
    isPort (reading.step line).port := by
  cases line with
  | nothing => exact h
  | header name => exact h
  | assignment key value =>
    rw [Reading.step]
    split_ifs
    · cases Numeric.Literal.readMarked (String.ofList value) with
      | ok n => exact isPort_set h key n
      | error fault => exact h
    · exact h

/-- Whatever a file says, the port that it sets is a number that a port may have. -/
theorem isPort_ofText (text : List Char) : isPort (ofText text).port := by
  rw [ofText]
  induction (splitLines text).map Line.ofText using List.reverseRecOn with
  | nil => decide
  | append_singleton lines line ih =>
    rw [List.foldl_append]
    exact isPort_step ih line

/-- **The port of a directory** is -1 or a number that a port may have. -/
theorem portOf_range {tree : Files.Tree} {directory : Option String} {port : Int}
    (h : portOf tree directory = .ok port) : port = -1 ∨ isPort port := by
  have hdefault : isPort defaultPort := by decide
  cases directory with
  | none =>
    obtain rfl := Except.ok.inj h
    exact .inr hdefault
  | some directory =>
    rw [portOf] at h
    split at h
    · obtain rfl := Except.ok.inj h
      exact .inr hdefault
    · split at h
      · cases h
      · next bytes _ =>
        obtain rfl := Except.ok.inj h
        rw [Reading.answer]
        split_ifs
        · exact .inr (isPort_ofText _)
        · exact .inl rfl
      · obtain rfl := Except.ok.inj h
        exact .inr hdefault

end Warden.Webif
