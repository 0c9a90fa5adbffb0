import Weave.Template
import Weave.Text.Space

/-!
Segments: runs of source text that are prose throughout or code throughout, and the body that
each contributes to the document.
-/

namespace Weave

/-- What a segment is rendered as. -/
inductive Segment.Kind where
  /-- Prose out of block comments. -/
  | comment
  /-- Source code, shown in a fenced block. -/
  | code
  deriving DecidableEq, Repr

/-- A run of tokens of one class. -/
structure Segment where
  kind : Segment.Kind
  /-- Comment lines without their markers, or pieces of code as written. -/
  fragments : List Text
  /-- The range of the source that the run covers. -/
  span : Span
  /-- The place of the segment among those of the same source, from zero. -/
  index : Nat
  deriving DecidableEq, Repr

/-- The segment as it stands in the document, before any fence. Lines of prose are joined and
trimmed; code loses the line breaks in front and the white space at its end. -/
def Segment.body (segment : Segment) : Text :=
  match segment.kind with
  | .comment => Text.trim (['\n'].intercalate segment.fragments)
  | .code => Text.trimEnd (segment.fragments.flatten.dropWhile fun c => c == '\r' || c == '\n')

end Weave
