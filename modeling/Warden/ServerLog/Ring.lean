import Warden.Failure
import Warden.Text.Line

/-!
# The ring of server log lines

The newest lines of the server's log, each with a serial number that counts all lines ever written.
A line overwrites the one that is `capacity` lines older.

## Main definitions

* `Ring`: the newest lines of a log
* `Limits`: what a machine has room for
* `Ring.append`: one more line
* `Ring.since`: the retained lines from a serial number on
* `Ring.text`: these lines as one text
-/

namespace Warden.ServerLog

/-- The newest lines of a log. The line with serial number `i` is in slot `i % capacity`. -/
structure Ring where
  capacity : Nat
  slots : Array String
  /-- The number of lines ever written. -/
  total : Nat
  capacity_pos : 0 < capacity
  size_slots : slots.size = min total capacity

/-- What a machine has room for: the numbers of lines up from which there is no memory for them, and
from which no list has so many. -/
structure Limits where
  memory : Nat := Nat.pow 2 32
  size : Nat := Nat.pow 2 63

namespace Ring

/-- The default number of retained lines. -/
def defaultCapacity : Nat := 2000

/-- A ring without any line. -/
def empty (capacity : Nat) (h : 0 < capacity) : Ring :=
  ⟨capacity, #[], 0, h, by simp⟩

instance : Inhabited Ring := ⟨empty defaultCapacity (by decide)⟩

/-- A ring without any line, if it has room for one and the machine has room for it. -/
def ofCapacity (capacity : Int) (limits : Limits := {}) : Except Failure Ring :=
  if h : 0 < capacity.toNat then
    if limits.size ≤ capacity.toNat then .error .pastSizes
    else if limits.memory ≤ capacity.toNat then .error .noMemory
    else .ok (empty capacity.toNat h)
  else .error .noRingCapacity

/-- The slot of the next line, once every slot is in use. -/
theorem slot_lt (ring : Ring) (h : ring.capacity ≤ ring.total) :
    ring.total % ring.capacity < ring.slots.size := by
  have := Nat.mod_lt ring.total ring.capacity_pos
  have := ring.size_slots
  omega

/-- The ring with one more line. -/
def append (ring : Ring) (line : String) : Ring :=
  if h : ring.capacity ≤ ring.total then
    { ring with
      slots := ring.slots.set (ring.total % ring.capacity) line (ring.slot_lt h)
      total := ring.total + 1
      size_slots := by
        have := ring.size_slots
        simp only [Array.size_set]
        omega }
  else
    { ring with
      slots := ring.slots.push line
      total := ring.total + 1
      size_slots := by
        have := ring.size_slots
        simp only [Array.size_push]
        omega }

/-- The ring with more lines. -/
def appendAll (ring : Ring) (lines : List String) : Ring :=
  lines.foldl append ring

/-- The serial number of the oldest retained line. -/
def oldest (ring : Ring) : Nat :=
  ring.total - ring.capacity

/-- The line with a serial number, as long as it is retained. -/
def line (ring : Ring) (id : Nat) : String :=
  ring.slots[id % ring.capacity]?.getD ""

/-- The first line that is handed out from a serial number on. -/
def first (ring : Ring) (wanted : Int) : Nat :=
  max wanted.toNat ring.oldest

/-- The serial number after the last line that is handed out. -/
def last (ring : Ring) (wanted : Int) (count : Int) : Nat :=
  min ring.total (ring.first wanted + count.toNat)

/-- At most `count` retained lines from the serial number `wanted` on, and the serial number to go
on from: the one after the last line, or past everything written when there is no line. -/
def since (ring : Ring) (wanted : Int) (count : Int) : List String × Nat :=
  let first := ring.first wanted
  let last := ring.last wanted count
  let lines := (List.range' first (last - first)).map ring.line
  (lines, if lines.isEmpty then max wanted.toNat ring.total else last)

/-- These lines as one text, each closed by a line feed. -/
def text (ring : Ring) (wanted : Int) (count : Int) : String × Nat :=
  let (lines, next) := ring.since wanted count
  (Text.joinLines lines, next)

@[simp] theorem total_append (ring : Ring) (line : String) :
    (ring.append line).total = ring.total + 1 := by
  unfold append
  split <;> rfl

@[simp] theorem capacity_append (ring : Ring) (line : String) :
    (ring.append line).capacity = ring.capacity := by
  unfold append
  split <;> rfl

end Ring

end Warden.ServerLog
