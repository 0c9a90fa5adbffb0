import Weave.Text.Basic

/-!
White space: the characters of the Unicode property `White_Space`, and trimming by them.
-/

namespace Weave.Text

/-- The twenty-five characters with the property `White_Space`. The zero-width space, the
byte order mark and the information separators are not among them. -/
def isSpace (c : Char) : Bool :=
  ('\t' ≤ c && c ≤ '\r') || c == ' ' || c == '\u0085' || c == '\u00a0' || c == '\u1680' ||
    ('\u2000' ≤ c && c ≤ '\u200a') || c == '\u2028' || c == '\u2029' || c == '\u202f' ||
    c == '\u205f' || c == '\u3000'

/-- White space that does not end a line. Source text also counts the byte order mark. -/
def isInlineSpace (c : Char) : Bool :=
  c == '\ufeff' || (isSpace c && !isLineBreak c)

/-- Drops the longest tail whose characters all satisfy `p`. -/
def dropEndWhile (p : Char → Bool) (t : Text) : Text := (t.reverse.dropWhile p).reverse

/-- Removes white space from the end. -/
def trimEnd (t : Text) : Text := dropEndWhile isSpace t

/-- Removes white space from both ends. -/
def trim (t : Text) : Text := trimEnd (t.dropWhile isSpace)

end Weave.Text
