import Warden.Proofs.ServerLog.History

/-!
# Batches of a ring

A batch is what a ring hands out at once: a stretch of its history from a serial number on, as long
as it was asked for and as lines are retained. It comes with the serial number to go on from. A
reader that goes on from there loses no retained line, as long as the batch has room for a line. A
batch without room leads past everything written, so the lines that were waiting are lost.

## Main results

* `Ring.Records.since_eq_take`: a batch is a stretch of the history
* `Ring.next_since`: the serial number to go on from
* `batch_resumes`: when going on from a batch loses no retained line
* `waiting_line_lost`: a line is lost after a batch without room
-/

namespace Warden.ServerLog

/-- Serial numbers in a row name a stretch of the history. -/
theorem map_lineOf_range' (history : List String) {first count : Nat}
    (h : count ≤ history.length - first) :
    (List.range' first count).map (lineOf history) = (history.drop first).take count := by
  apply List.ext_getElem
  · simp only [List.length_map, List.length_range', List.length_take, List.length_drop]
    omega
  · intro place hplace _
    simp only [List.length_map, List.length_range'] at hplace
    have hlt : first + place < history.length := by omega
    simp [lineOf, hlt]

namespace Ring

@[simp] theorem length_since (ring : Ring) (wanted count : Int) :
    (ring.since wanted count).1.length = ring.last wanted count - ring.first wanted := by
  simp [since]

/-- **A batch is a stretch of the history**, cut off where the history ends. -/
theorem Records.since_eq_take {ring : Ring} {history : List String} (records : ring.Records history)
    (wanted count : Int) :
    (ring.since wanted count).1 = (history.drop (ring.first wanted)).take count.toNat := by
  have htotal := records.total_eq
  have hhanded : ring.last wanted count - ring.first wanted ≤
      history.length - ring.first wanted := by
    simp only [last]
    omega
  rw [records.since_eq, handed, map_lineOf_range' history hhanded, List.take_eq_take_iff,
    List.length_drop]
  simp only [last]
  omega

/-- **The serial number to go on from** is the one after the batch. An empty batch leads past
everything written. -/
theorem next_since (ring : Ring) (wanted count : Int) :
    (ring.since wanted count).2 =
      if (ring.since wanted count).1.length = 0 then max wanted.toNat ring.total
      else ring.first wanted + (ring.since wanted count).1.length := by
  rw [length_since]
  simp only [since, List.isEmpty_iff, List.map_eq_nil_iff, List.range'_eq_nil_iff]
  split_ifs
  · rfl
  · omega

/-- A batch with room for everything has all retained lines, and leads past everything written. -/
theorem Records.text_all {ring : Ring} {history : List String} (records : ring.Records history)
    {count : Int} (h : history.length ≤ count) :
    ring.text 0 count =
      (Text.joinLines (history.drop (history.length - ring.capacity)), history.length) := by
  have htotal := records.total_eq
  have hpos := ring.capacity_pos
  have hfirst : ring.first 0 = history.length - ring.capacity := by
    simp only [first, oldest]
    omega
  have hlines : (ring.since 0 count).1 = history.drop (history.length - ring.capacity) := by
    rw [records.since_eq_take, hfirst, List.take_of_length_le (by rw [List.length_drop]; omega)]
  -- Whether or not anything is retained, the reader goes on at the end.
  have hnext : (ring.since 0 count).2 = history.length := by
    rw [next_since, hlines, hfirst, htotal, List.length_drop]
    split_ifs <;> omega
  rw [text, ← hlines, ← hnext]

end Ring

/-- **A batch goes on without a loss.** A ring hands out a stretch of its history that begins with
the serial number that is asked for, or with the oldest retained line if that is newer, and has at
most as many lines as it has room for. The reader never goes back. If the batch has room for a line,
or no line is waiting, every retained line that the reader passes is in the batch, and otherwise
some line is not. -/
theorem batch_resumes (capacity : Nat) (room : 0 < capacity) (history : List String)
    (wanted count : Int) :
    let ring := (Ring.empty capacity room).appendAll history
    let oldest := history.length - capacity
    let first := (max wanted oldest).toNat
    let lines := (ring.since wanted count).1
    let next := (ring.since wanted count).2
    lines = (history.drop first).take count.toNat ∧
    (lines.length : Int) ≤ max 0 count ∧
    wanted ≤ next ∧
    ((∀ id : Nat, oldest ≤ id → id < history.length → wanted ≤ id → id < next →
        first ≤ id ∧ id < first + lines.length) ↔
      0 < count ∨ history.length ≤ wanted.toNat) := by
  intro ring oldest first lines next
  have records : ring.Records history := (Ring.records_empty capacity room).appendAll history
  have htotal : ring.total = history.length := records.total_eq
  have hcapacity : ring.capacity = capacity := Ring.capacity_appendAll ..
  have holdest : ring.oldest = oldest := by rw [Ring.oldest, htotal, hcapacity]
  have hfirst : ring.first wanted = first := by
    rw [Ring.first, holdest]
    omega
  have hlength : lines.length = min (history.length - first) count.toNat := by
    rw [Ring.length_since, Ring.last, hfirst, htotal]
    omega
  have hnext : next = if lines.length = 0 then max wanted.toNat history.length
      else first + lines.length := by
    rw [← htotal, ← hfirst]
    exact ring.next_since wanted count
  refine ⟨hfirst ▸ records.since_eq_take wanted count, by omega, ?_, ?_⟩
  · rw [hnext]
    split_ifs <;> omega
  · constructor
    · -- The last line that is waiting would be passed without being in the batch.
      intro hall
      by_contra hnone
      have hempty : lines.length = 0 := by omega
      rw [if_pos hempty] at hnext
      have hlast := hall (history.length - 1) (by omega) (by omega) (by omega) (by omega)
      omega
    · intro hroom id hold hlt hwanted hid
      rw [hnext] at hid
      split_ifs at hid with hempty
      · -- An empty batch with room for a line means that nothing is waiting.
        omega
      · exact ⟨by omega, hid⟩

/-- A reader asks for a part of the lines from a serial number on, while some are still to come. -/
theorem batch_resumes_capped :
    0 < 3 ∧
      let ring := (Ring.empty 3 (by decide)).appendAll ["a", "b", "c", "d", "e"]
      (ring.since 1 2).1 = ["c", "d"] ∧ (1 : Int) ≤ (ring.since 1 2).2 ∧
        ∀ id : Nat, 2 ≤ id → id < 5 → (1 : Int) ≤ id → id < (ring.since 1 2).2 →
          2 ≤ id ∧ id < 2 + (ring.since 1 2).1.length := by
  refine ⟨by decide, ?_⟩
  obtain ⟨hlines, -, hle, hall⟩ :=
    batch_resumes 3 (by decide) ["a", "b", "c", "d", "e"] 1 2
  exact ⟨hlines, hle, hall.mpr (.inl (by decide))⟩

/-- **A line that was waiting is lost** after a batch without room: it is retained and was asked
for, the batch is empty, and the reader goes on behind it. -/
theorem waiting_line_lost :
    let ring := (Ring.empty 1 (by decide)).appendAll ["a"]
    ring.since 0 0 = ([], 1) ∧
      ¬ ∀ id : Nat, ring.oldest ≤ id → id < ring.total → (0 : Int) ≤ id →
        id < (ring.since 0 0).2 → ∃ place : Nat, (ring.since 0 0).1[place]? = some (ring.line id) := by
  intro ring
  have hsince : ring.since 0 0 = ([], 1) := rfl
  refine ⟨hsince, fun hall => ?_⟩
  obtain ⟨place, hplace⟩ := hall 0 (by decide) (by decide) (by decide) (by rw [hsince]; decide)
  rw [hsince] at hplace
  cases hplace

end Warden.ServerLog
