import Mathlib.Data.List.Basic
import Mathlib.Data.Nat.ModEq
import Warden.ServerLog.Ring

/-!
# The ring and the history of its lines

The history of a ring is the list of all lines ever written to it, the oldest first; a line's serial
number is its position there. The ring counts the history, and each slot holds the newest line
whose serial number leads to it, so the retained lines are the end of the history.

## Main definitions

* `lineOf`: the line with a serial number in a history
* `Ring.Records`: a ring that was written from a history

## Main results

* `Ring.Records.append`: the history grows with each line written
* `Ring.Records.since_eq`, `Ring.Records.text_eq`: what a ring hands out are the lines of its
  history, by serial number
-/

namespace Warden.ServerLog

/-- The line with a serial number in a history. -/
def lineOf (history : List String) (id : Nat) : String :=
  history[id]?.getD ""

theorem lineOf_append_left (history more : List String) {id : Nat} (h : id < history.length) :
    lineOf (history ++ more) id = lineOf history id := by
  rw [lineOf, lineOf, List.getElem?_append_left h]

/-- Serial numbers of a history name the same lines when the history grows. -/
theorem map_lineOf_append (history more : List String) {ids : List Nat}
    (h : ∀ id ∈ ids, id < history.length) :
    ids.map (lineOf (history ++ more)) = ids.map (lineOf history) :=
  List.map_congr_left fun id hid => lineOf_append_left history more (h id hid)

/-- The lines with the first serial numbers are the start of the history. -/
theorem map_lineOf_range (history : List String) {count : Nat} (h : count ≤ history.length) :
    (List.range count).map (lineOf history) = history.take count := by
  refine List.ext_getElem (by simp [h]) fun id hid hid' => ?_
  simp only [List.length_map, List.length_range] at hid
  have hlt : id < history.length := by omega
  simp [lineOf, hlt]

namespace Ring

/-! ## The slots -/

theorem line_append_total (ring : Ring) (line : String) :
    (ring.append line).line ring.total = line := by
  have hsize := ring.size_slots
  -- A full ring overwrites a slot, and one that is not full grows by one.
  by_cases hfull : ring.capacity ≤ ring.total
  · simp [append, Ring.line, hfull, ring.slot_lt hfull]
  · have hslot : ring.total % ring.capacity = ring.slots.size := by
      rw [Nat.mod_eq_of_lt (by omega)]
      omega
    simp [append, Ring.line, hfull, hslot]

/-- Serial numbers less than a capacity apart lead to different slots. -/
theorem mod_ne_mod {id total capacity : Nat} (hlo : total < id + capacity) (hhi : id < total) :
    id % capacity ≠ total % capacity := by
  intro heq
  have hdvd : capacity ∣ total - id :=
    Nat.dvd_of_mod_eq_zero (Nat.sub_mod_eq_zero_of_mod_eq heq.symm)
  have := Nat.le_of_dvd (by omega) hdvd
  omega

/-- A line is overwritten by none of the next `capacity - 1` lines. -/
theorem line_append_of_lt (ring : Ring) (line : String) {id : Nat}
    (hlo : ring.total < id + ring.capacity) (hhi : id < ring.total) :
    (ring.append line).line id = ring.line id := by
  have hne := mod_ne_mod hlo hhi
  have hsize := ring.size_slots
  by_cases hfull : ring.capacity ≤ ring.total
  · simp [append, Ring.line, hfull, hne.symm]
  · have hslot : id % ring.capacity ≠ ring.slots.size := by
      rw [Nat.mod_eq_of_lt (by omega)]
      omega
    simp [append, Ring.line, hfull, Array.getElem?_push, hslot]

/-! ## Rings of a history -/

/-- A ring that was written from a history: it counts its lines and retains the newest of them. -/
structure Records (ring : Ring) (history : List String) : Prop where
  total_eq : ring.total = history.length
  line_eq : ∀ id, ring.oldest ≤ id → id < ring.total → ring.line id = lineOf history id

theorem records_empty (capacity : Nat) (h : 0 < capacity) : (empty capacity h).Records [] :=
  ⟨rfl, fun _ _ hlt => absurd hlt (Nat.not_lt_zero _)⟩

theorem Records.append {ring : Ring} {history : List String} (records : ring.Records history)
    (line : String) : (ring.append line).Records (history ++ [line]) := by
  refine ⟨by simp [records.total_eq], fun id hlo hhi => ?_⟩
  have htotal := records.total_eq
  simp only [oldest, total_append, capacity_append] at hlo hhi
  rcases Nat.lt_succ_iff_lt_or_eq.mp hhi with hlt | rfl
  · have hpos := ring.capacity_pos
    rw [line_append_of_lt ring line (by omega) hlt,
      records.line_eq id (by simp only [oldest]; omega) hlt,
      lineOf_append_left history [line] (by omega)]
  · rw [line_append_total, lineOf, htotal]
    simp

@[simp] theorem capacity_appendAll (ring : Ring) (lines : List String) :
    (ring.appendAll lines).capacity = ring.capacity := by
  induction lines generalizing ring with
  | nil => rfl
  | cons line lines ih => exact (ih (ring.append line)).trans (capacity_append ring line)

theorem Records.appendAll {ring : Ring} {history : List String} (records : ring.Records history)
    (lines : List String) : (ring.appendAll lines).Records (history ++ lines) := by
  induction lines generalizing ring history with
  | nil => rwa [List.append_nil]
  | cons line lines ih =>
    rw [List.append_cons]
    exact ih (records.append line)

/-! ## Handing out lines -/

/-- The serial numbers that are handed out. -/
def handed (ring : Ring) (wanted count : Int) : List Nat :=
  List.range' (ring.first wanted) (ring.last wanted count - ring.first wanted)

theorem mem_handed {ring : Ring} {wanted count : Int} {id : Nat} :
    id ∈ ring.handed wanted count ↔ ring.first wanted ≤ id ∧ id < ring.last wanted count := by
  rw [handed, List.mem_range'_1]
  omega

/-- A ring hands out the lines of its history. -/
theorem Records.since_eq {ring : Ring} {history : List String} (records : ring.Records history)
    (wanted count : Int) :
    (ring.since wanted count).1 = (ring.handed wanted count).map (lineOf history) := by
  refine List.map_congr_left fun id hid => ?_
  obtain ⟨hlo, hhi⟩ := mem_handed.mp hid
  exact records.line_eq id ((Nat.le_max_right _ _).trans hlo)
    (hhi.trans_le (Nat.min_le_left _ _))

theorem Records.text_eq {ring : Ring} {history : List String} (records : ring.Records history)
    (wanted count : Int) :
    (ring.text wanted count).1 =
      Text.joinLines ((ring.handed wanted count).map (lineOf history)) := by
  rw [← records.since_eq]
  rfl

/-- A reader that has not read past the end goes on after the last line handed out. -/
theorem next_eq_last {ring : Ring} {cursor : Nat} (h : cursor ≤ ring.total) {count : Int}
    (hcount : 0 < count) : (ring.text cursor count).2 = ring.last cursor count := by
  have hfirst : ring.first cursor ≤ ring.total := by
    simp only [first, oldest, Int.toNat_natCast]
    omega
  simp only [text, since]
  split
  · rename_i hnone
    have hzero : ring.last cursor count - ring.first cursor = 0 := by simpa using hnone
    simp only [last, first, oldest, Int.toNat_natCast] at hzero hfirst ⊢
    omega
  · rfl

end Ring

end Warden.ServerLog
