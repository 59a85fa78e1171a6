/-!
# Blanks around a text

Blanks are the characters that Unicode counts as white space or as separators of paragraphs and
segments, the information separators U+001C to U+001F included.

## Main definitions

* `isBlank`: the blank characters
* `trim`: a text without the blanks at its two ends
-/

namespace Warden.Text

/-- The blank characters. -/
def isBlank (c : Char) : Bool :=
  ('\t' ≤ c && c ≤ '\r') || ('\x1c' ≤ c && c ≤ ' ') || c == '\u0085' || c == '\u00a0' ||
  c == '\u1680' || ('\u2000' ≤ c && c ≤ '\u200a') || c == '\u2028' || c == '\u2029' ||
  c == '\u202f' || c == '\u205f' || c == '\u3000'

/-- The text without the blanks before it. -/
def trimLeft (text : List Char) : List Char :=
  text.dropWhile isBlank

/-- The text without the blanks after it. -/
def trimRight (text : List Char) : List Char :=
  (text.reverse.dropWhile isBlank).reverse

/-- The text without the blanks around it. -/
def trim (text : List Char) : List Char :=
  trimRight (trimLeft text)

end Warden.Text
