/-!
# Lines of a text

A text is cut after each line boundary; a last line without a boundary counts when it is not
empty. Two sets of boundaries are in use: the line feed alone, and all line and paragraph
separators. A carriage return followed by a line feed is one boundary.

## Main definitions

* `splitAfter`: the lines of a text for a given set of boundaries
* `splitLines`: the lines for all line and paragraph separators
* `unifyLineEnds`, `unifiedSoFar`: every line end of a stream written as a line feed
* `ended`: a text without the line that has not ended
* `joinLines`: lines written one after the other, each closed by a line feed
-/

namespace Warden.Text

/-- The lines of a text, without the characters that end them. -/
def splitAfter (isEnd : Char → Bool) : List Char → List (List Char)
  | [] => []
  | c :: rest =>
    if isEnd c then [] :: splitAfter isEnd rest
    else match splitAfter isEnd rest with
      | [] => [[c]]
      | line :: lines => (c :: line) :: lines

/-- A carriage return and the line feed after it merged into the line feed. -/
def mergeReturns : List Char → List Char
  | '\r' :: '\n' :: rest => '\n' :: mergeReturns rest
  | c :: rest => c :: mergeReturns rest
  | [] => []

/-- The line end of a stream is a line feed, a carriage return or both together; here all are
written as a line feed. -/
def unifyLineEnds (text : List Char) : List Char :=
  (mergeReturns text).map fun c => if c == '\r' then '\n' else c

/-- The text that a stream makes up of one that may go on. A carriage return at the end is kept back,
as a line feed may belong to it. -/
def unifiedSoFar (text : List Char) : List Char :=
  unifyLineEnds (if text.getLast? == some '\r' then text.dropLast else text)

/-- The lines of a text that have ended. -/
def ended (text : List Char) : List Char :=
  (text.reverse.dropWhile (· != '\n')).reverse

/-- The line and paragraph separators. -/
def isLineBoundary (c : Char) : Bool :=
  ('\n' ≤ c && c ≤ '\r') || ('\x1c' ≤ c && c ≤ '\x1e') || c == '\u0085' ||
  c == '\u2028' || c == '\u2029'

/-- The lines between all line and paragraph separators. -/
def splitLines (text : List Char) : List (List Char) :=
  splitAfter isLineBoundary (mergeReturns text)

/-- The lines that a line feed ends. -/
def splitFeeds (text : List Char) : List (List Char) :=
  splitAfter (· == '\n') text

/-- Lines as one text, each line closed by a line feed. -/
def joinLines (lines : List String) : String :=
  lines.foldl (fun text line => text ++ line ++ "\n") ""

/-- The number of line feeds in a text. -/
def countFeeds (text : String) : Nat :=
  text.foldl (fun count c => if c == '\n' then count + 1 else count) 0

/-- Pieces of a text between the places where `isCut` holds; the pieces around a cut may be empty,
so that there is one piece more than there are cuts. -/
def splitAtEach (isCut : Char → Bool) : List Char → List (List Char)
  | [] => [[]]
  | c :: rest =>
    if isCut c then [] :: splitAtEach isCut rest
    else match splitAtEach isCut rest with
      | [] => [[c]]
      | piece :: pieces => (c :: piece) :: pieces

/-- A text that is not empty. -/
def nonEmpty? (text : String) : Option String :=
  if text.isEmpty then none else some text

/-- A text that may be missing as it stands in a message. -/
def orNone (text : Option String) : String :=
  text.getD "None"

/-! ## Joining lines -/

theorem foldl_joinLines (lines : List String) (text : String) :
    lines.foldl (fun text line => text ++ line ++ "\n") text = text ++ joinLines lines := by
  unfold joinLines
  induction lines generalizing text with
  | nil => simp
  | cons line lines ih =>
    simp only [List.foldl_cons]
    rw [ih, ih ("" ++ line ++ "\n")]
    simp [String.append_assoc]

@[simp] theorem joinLines_nil : joinLines [] = "" := rfl

@[simp] theorem joinLines_append (lines more : List String) :
    joinLines (lines ++ more) = joinLines lines ++ joinLines more := by
  rw [joinLines, List.foldl_append, foldl_joinLines more]
  rfl

end Warden.Text
