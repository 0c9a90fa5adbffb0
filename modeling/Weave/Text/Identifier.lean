import Weave.Text.Basic
import Weave.Text.IdentifierTable

/-!
The characters of identifiers: ASCII letters, digits, `_` and `$`, and beyond ASCII what the
identifier tables list. A character that may start an identifier may also continue one.
-/

namespace Weave.Text

/-- Whether a code point lies in one of the closed ranges. -/
def inRanges (ranges : Array (Nat × Nat)) (point : Nat) : Bool :=
  ranges.any fun range => range.1 ≤ point && point ≤ range.2

/-- Whether a character is one of the 128 of ASCII. -/
def isAscii (c : Char) : Bool := c.toNat < 128

/-- Whether an identifier may begin with `c`. -/
def isIdentifierStart (c : Char) : Bool :=
  c == '_' || c == '$' || c.isAlpha ||
    (!isAscii c && inRanges IdentifierTable.startRanges c.toNat)

/-- Whether `c` may stand inside an identifier. The two zero-width joiners count. -/
def isIdentifierPart (c : Char) : Bool :=
  isIdentifierStart c || c.isDigit ||
    (!isAscii c && inRanges IdentifierTable.continueRanges c.toNat) ||
    c == '\u200c' || c == '\u200d'

end Weave.Text
