import Warden.Text.Case.Table

/-!
# Case mapping of texts

Lower and upper case of whole texts. The mapping works character by character, except that a Greek
capital sigma becomes the final small sigma when a cased character stands before it and none after
it, case-ignorable characters aside.

## Main definitions

* `toLower`: the text in lower case
* `toUpper`: the text in upper case
-/

namespace Warden.Text

/-- The character that a code point moves to by the first run that covers it. -/
def mapByRuns (runs : Array CaseRun) (c : Char) : Char :=
  match runs.find? (·.covers c.toNat) with
  | some run => Char.ofNat ((c.toNat : Int) + run.shift).toNat
  | none => c

/-- The lower case of a character outside the context of a sigma. The capital I with a dot keeps
its dot as a combining character. -/
def lowerChar (c : Char) : List Char :=
  if c == '\u0130' then ['i', '\u0307'] else [mapByRuns lowerRuns c]

/-- The upper case of a character. -/
def upperChar (c : Char) : List Char :=
  match upperExpansions.find? (·.1 == c.toNat) with
  | some (_, codes) => codes.map Char.ofNat
  | none => [mapByRuns upperRuns c]

/-- The next character that is not case-ignorable has case. -/
def nextIsCased (text : List Char) : Bool :=
  match text.dropWhile caseIgnorable.has with
  | [] => false
  | c :: _ => cased.has c

/-- The lower case of a text, after the characters of `before`, nearest first. -/
def lowerAfter (before : List Char) : List Char → List Char
  | [] => []
  | c :: rest =>
    let low :=
      if c == '\u03a3' then
        [if nextIsCased before && !nextIsCased rest then '\u03c2' else '\u03c3']
      else lowerChar c
    low ++ lowerAfter (c :: before) rest

/-- The text in lower case. -/
def toLower (text : List Char) : List Char :=
  lowerAfter [] text

/-- The text in upper case. -/
def toUpper (text : List Char) : List Char :=
  text.flatMap upperChar

end Warden.Text
