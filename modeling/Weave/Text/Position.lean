import Weave.Text.Basic

/-!
Positions as a reader counts them: lines are divided by line feeds alone, columns count
characters, and both start at one.
-/

namespace Weave

/-- A place in a text. -/
structure Position where
  line : Nat
  column : Nat
  deriving DecidableEq, Repr

namespace Position

/-- The position right behind the characters of `front`. -/
def after (front : Text) : Position where
  line := front.count '\n' + 1
  column := (front.reverse.takeWhile (· != '\n')).length + 1

/-- The position of a byte offset. Offsets beyond the end count as the end, and an offset
that cuts a character counts as the end of that character. -/
def ofOffset (source : Text) (offset : Nat) : Position :=
  after (source.upTo (source.dropBytes offset))

/-- The position of a byte offset, if the offset does not cut a character. -/
def ofOffset? (source : Text) (offset : Nat) : Option Position :=
  if source.isBoundary offset then some (ofOffset source offset) else none

end Position

end Weave
