/-!
# Reading UTF-8 with replacement

Bytes are read as UTF-8. Each longest run of bytes that begins a character and does not complete it
is read as one replacement character U+FFFD, and so is each byte that begins no character.

## Main definitions

* `Sequence`: a character of several bytes that has begun
* `decode`, `decodeSoFar`: the characters of a list of bytes, and of one that may go on

## Main results

* `decodeSoFar_prefix`: whatever goes on, what was read so far is read
-/

namespace Warden.Text.Utf8

/-- A character of several bytes that has begun: how many bytes are missing, the range of the next
one, and the bits read so far. -/
structure Sequence where
  missing : Nat
  lowest : UInt8
  highest : UInt8
  bits : Nat

/-- What reads as U+FFFD. -/
def replacement : Char := '\ufffd'

/-- What a byte begins: a character of its own, a sequence, or nothing. -/
def start (byte : UInt8) : List Char × Option Sequence :=
  if byte < 0x80 then ([Char.ofNat byte.toNat], none)
  else if 0xC2 ≤ byte && byte ≤ 0xDF then ([], some ⟨1, 0x80, 0xBF, byte.toNat - 0xC0⟩)
  else if 0xE0 ≤ byte && byte ≤ 0xEF then
    let lowest := if byte == 0xE0 then 0xA0 else 0x80
    let highest := if byte == 0xED then 0x9F else 0xBF
    ([], some ⟨2, lowest, highest, byte.toNat - 0xE0⟩)
  else if 0xF0 ≤ byte && byte ≤ 0xF4 then
    let lowest := if byte == 0xF0 then 0x90 else 0x80
    let highest := if byte == 0xF4 then 0x8F else 0xBF
    ([], some ⟨3, lowest, highest, byte.toNat - 0xF0⟩)
  else ([replacement], none)

/-- The reading of one byte after what has begun. -/
def step (begun : Option Sequence) (byte : UInt8) : List Char × Option Sequence :=
  match begun with
  | none => start byte
  | some s =>
    if s.lowest ≤ byte && byte ≤ s.highest then
      let bits := s.bits * 64 + (byte.toNat - 0x80)
      if s.missing ≤ 1 then ([Char.ofNat bits], none)
      else ([], some ⟨s.missing - 1, 0x80, 0xBF, bits⟩)
    else
      let (chars, next) := start byte
      (replacement :: chars, next)

/-- The characters of the bytes that follow what has begun, after the characters `done`, last first,
and what has begun at their end. -/
def decodeFrom (done : List Char) (begun : Option Sequence) :
    List UInt8 → List Char × Option Sequence
  | [] => (done.reverse, begun)
  | byte :: rest =>
    let (chars, next) := step begun byte
    decodeFrom (chars.reverse ++ done) next rest

/-- The characters of a list of bytes that may go on: what has begun at its end is left out. -/
def decodeSoFar (bytes : List UInt8) : List Char :=
  (decodeFrom [] none bytes).1

/-- The characters of a list of bytes. -/
def decode (bytes : List UInt8) : List Char :=
  let (chars, begun) := decodeFrom [] none bytes
  if begun.isSome then chars ++ [replacement] else chars

/-! ## Bytes that go on -/

theorem decodeFrom_append (done : List Char) (begun : Option Sequence) (bytes more : List UInt8) :
    decodeFrom done begun (bytes ++ more) =
      decodeFrom (decodeFrom done begun bytes).1.reverse (decodeFrom done begun bytes).2 more := by
  induction bytes generalizing done begun with
  | nil => simp [decodeFrom]
  | cons byte bytes ih => exact ih ..

/-- Reading on takes no character back. -/
theorem prefix_decodeFrom (done : List Char) (begun : Option Sequence) (bytes : List UInt8) :
    done.reverse <+: (decodeFrom done begun bytes).1 := by
  induction bytes generalizing done begun with
  | nil => exact List.prefix_rfl
  | cons byte bytes ih =>
    have hread : done.reverse <+: ((step begun byte).1.reverse ++ done).reverse := by simp
    exact hread.trans (ih ..)

/-- **What was read so far** begins what is read of any bytes that go on. -/
theorem decodeSoFar_prefix (bytes more : List UInt8) :
    decodeSoFar bytes <+: decode (bytes ++ more) := by
  have hread := prefix_decodeFrom (decodeSoFar bytes).reverse (decodeFrom [] none bytes).2 more
  rw [List.reverse_reverse, decodeSoFar, ← decodeFrom_append] at hread
  rw [decode]
  dsimp only
  -- A sequence that has begun at the end adds a mark behind what was read.
  split
  · exact hread.trans (List.prefix_append ..)
  · exact hread

end Warden.Text.Utf8
