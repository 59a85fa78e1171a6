import Mathlib.Data.List.DropRight
import Warden.Text.Blank

/-!
# What is left without the blanks

Taking the blanks around a text away leaves what stands between them: everything that is not blank
stays, and blanks that are added before or behind a text make no difference.

## Main results

* `exists_trim`: only blanks are taken away
* `head?_trim`: what is left begins with what is not blank
* `trim_blanks_append`, `trim_append_blanks`: blanks around a text make no difference
-/

namespace Warden.Text

theorem trimRight_cons {c : Char} (h : isBlank c = false) (text : List Char) :
    trimRight (c :: text) = c :: trimRight text := by
  have hdrop : (text.reverse ++ [c]).dropWhile isBlank = text.reverse.dropWhile isBlank ++ [c] := by
    rw [List.dropWhile_append]
    split
    · next hnil => simp [List.isEmpty_iff.mp hnil, h]
    · rfl
  rw [trimRight, List.reverse_cons, hdrop, List.reverse_concat, trimRight]

theorem trim_cons (c : Char) (text : List Char) :
    trim (c :: text) = if isBlank c then trim text else c :: trimRight text := by
  rw [trim, trimLeft, List.dropWhile_cons]
  split_ifs with hblank
  · rfl
  · exact trimRight_cons (Bool.eq_false_iff.mpr hblank) text

/-- A text without the blanks around it begins with what is not blank. -/
theorem head?_trim (text : List Char) : (trim text).head? = text.find? (!isBlank ·) := by
  induction text with
  | nil => rfl
  | cons c text ih =>
    rw [trim_cons, List.find?_cons]
    cases isBlank c
    · rfl
    · simpa using ih

/-- Only blanks are taken away, before and after what stays. -/
theorem exists_trim (text : List Char) :
    ∃ front back, text = front ++ trim text ++ back ∧
      (∀ c ∈ front, isBlank c) ∧ ∀ c ∈ back, isBlank c := by
  refine ⟨text.takeWhile isBlank, (trimLeft text).rtakeWhile isBlank, ?_,
    fun c hc => List.mem_takeWhile_imp hc, fun c hc => List.mem_rtakeWhile_imp hc⟩
  have hright : trim text ++ (trimLeft text).rtakeWhile isBlank = trimLeft text :=
    List.rdropWhile_append_rtakeWhile ..
  rw [List.append_assoc, hright, trimLeft, List.takeWhile_append_dropWhile]

theorem mem_trim {c : Char} {text : List Char} (hblank : isBlank c = false) :
    c ∈ trim text ↔ c ∈ text := by
  obtain ⟨front, back, htext, hfront, hback⟩ := exists_trim text
  constructor
  · intro h
    rw [htext]
    exact List.mem_append_left _ (List.mem_append_right _ h)
  · intro h
    rw [htext, List.mem_append, List.mem_append] at h
    rcases h with (h | h) | h
    · exact absurd (hfront c h) (by simp [hblank])
    · exact h
    · exact absurd (hback c h) (by simp [hblank])

theorem trim_blanks_append {blanks : List Char} (h : ∀ c ∈ blanks, isBlank c)
    (text : List Char) : trim (blanks ++ text) = trim text := by
  rw [trim, trimLeft, List.dropWhile_append_of_pos h, trim, trimLeft]

theorem trim_append_blanks {blanks : List Char} (h : ∀ c ∈ blanks, isBlank c)
    (text : List Char) : trim (text ++ blanks) = trim text := by
  induction text with
  | nil =>
    have hnil : blanks.dropWhile isBlank = [] := List.dropWhile_eq_nil_iff.mpr h
    rw [List.nil_append, trim, trimLeft, hnil]
    rfl
  | cons c text ih =>
    have hreverse : ∀ c ∈ blanks.reverse, isBlank c := fun c hc => h c (List.mem_reverse.mp hc)
    have hright : trimRight (text ++ blanks) = trimRight text := by
      rw [trimRight, List.reverse_append, List.dropWhile_append_of_pos hreverse, trimRight]
    rw [List.cons_append, trim_cons, trim_cons, ih, hright]

end Warden.Text
