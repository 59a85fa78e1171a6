import Warden.Failure
import Warden.Text.Line

/-!
# The display buffer

The newest text of a log for display. When the text grows past its bound, the newest half of the
bound is kept, from the first line that begins in it.

## Main definitions

* `Buffer`: the text on display
* `Buffer.append`: more text
* `newestLines`: the lines that begin in the last characters of a text
-/

namespace Warden.ServerLog

/-- The text on display. -/
structure Buffer where
  maxChars : Nat
  text : String
  /-- How often text was dropped. -/
  trimmed : Nat
  maxChars_pos : 0 < maxChars

/-- The text after the first line feed among the last `count` characters, or nothing if there is no
line feed among them. -/
def newestLines (count : Nat) (text : List Char) : List Char :=
  ((text.drop (text.length - count)).dropWhile (· != '\n')).drop 1

namespace Buffer

/-- The default bound on the number of characters. -/
def defaultMaxChars : Nat := 60000

/-- An empty buffer. -/
def empty (maxChars : Nat) (h : 0 < maxChars) : Buffer :=
  ⟨maxChars, "", 0, h⟩

instance : Inhabited Buffer := ⟨empty defaultMaxChars (by decide)⟩

/-- An empty buffer, if it has room for a character. -/
def ofMaxChars (maxChars : Int) : Except Failure Buffer :=
  if h : 0 < maxChars.toNat then .ok (empty maxChars.toNat h)
  else .error .noBufferCapacity

/-- The number of lines on display. -/
def lineCount (buffer : Buffer) : Nat :=
  Text.countFeeds buffer.text

/-- The buffer with more text. -/
def append (buffer : Buffer) (more : String) : Buffer :=
  let whole := buffer.text ++ more
  if buffer.maxChars < whole.length then
    { buffer with
      text := String.ofList (newestLines (buffer.maxChars / 2) whole.toList)
      trimmed := buffer.trimmed + 1 }
  else { buffer with text := whole }

end Buffer

end Warden.ServerLog
