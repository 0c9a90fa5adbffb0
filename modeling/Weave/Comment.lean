import Weave.Text.Space

/-!
The lines of a block comment without their decoration: the opening `/*`, the stars down the
left side and the closing `*/` are not part of the prose.
-/

namespace Weave.Comment

/-- Drops one slash from the front, if there is one. -/
def dropSlash : Text → Text
  | '/' :: rest => rest
  | text => text

/-- What is left of a line behind its leading marker, if it has one: white space, an optional
slash, one or more stars, an optional slash, white space. -/
def afterLeadingMarker? (line : Text) : Option Text :=
  match dropSlash (line.dropWhile Text.isSpace) with
  | '*' :: rest => some ((dropSlash (rest.dropWhile (· == '*'))).dropWhile Text.isSpace)
  | _ => none

/-- What is left of a line before its trailing marker, if it has one: white space, one or more
stars, a slash, white space. -/
def beforeTrailingMarker? (line : Text) : Option Text :=
  match line.reverse.dropWhile Text.isSpace with
  | '/' :: '*' :: rest => some ((rest.dropWhile (· == '*')).dropWhile Text.isSpace).reverse
  | _ => none

/-- A line without its leading marker, and what is left of it without its trailing marker. A
line that has neither is kept with its indentation. -/
def stripMarkers (line : Text) : Text :=
  let body := (afterLeadingMarker? line).getD line
  (beforeTrailingMarker? body).getD body

/-- Splits a text at its line breaks. A carriage return with the line feed behind it is one
break; each of them alone is one too. -/
def splitLines : Text → List Text
  | [] => [[]]
  | '\r' :: '\n' :: rest => [] :: splitLines rest
  | c :: rest =>
    if c = '\r' || c = '\n' then [] :: splitLines rest
    else match splitLines rest with
      | [] => [[c]]
      | line :: more => (c :: line) :: more

/-- The lines of a block comment, without their markers. -/
def lines (comment : Text) : List Text := (splitLines comment).map stripMarkers

end Weave.Comment
