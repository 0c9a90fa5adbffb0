import Weave.Output
import Weave.Segment.Segmenter

/-!
The document: one block for each segment with a body, one blank line between blocks. Prose is
a paragraph; code stands between fences that are longer than any run of backticks in it.
-/

namespace Weave

namespace Document

/-- The length of the longest run of backticks. -/
def longestRun (t : Text) : Nat :=
  (t.foldl
    (fun (run, best) c => if c = '`' then (run + 1, max best (run + 1)) else (0, best))
    (0, 0)).2

/-- The fence around a body: at least three backticks, and more than any run in the body. -/
def fence (body : Text) : Text := List.replicate (max (longestRun body) 2 + 1) '`'

/-- The texts that the block of a segment is written in: prose at once, code as the line of the
opening fence, the body and the line of the closing fence. -/
def parts (fenceLang : Text) (segment : Segment) : List Text :=
  let body := segment.body
  match segment.kind with
  | .comment => [body ++ ['\n']]
  | .code => [fence body ++ fenceLang ++ ['\n'], body ++ ['\n'], fence body ++ ['\n']]

/-- The block that a segment contributes. -/
def block (fenceLang : Text) (segment : Segment) : Text := (parts fenceLang segment).flatten

end Document

/-- The writer of a document: its output, the language named on each fence, and the number of
blocks written in full. -/
structure Emitter (ω : Type) where
  output : ω
  fenceLang : Text
  blocks : Nat := 0

namespace Emitter

variable {ω : Type} [Output ω]

/-- Writes the block of a segment, behind an empty line if it is not the first. A segment whose
body is empty writes nothing. -/
def emit (e : Emitter ω) (segment : Segment) : Emitter ω × Except Fault Unit :=
  if segment.body.isEmpty then (e, .ok ())
  else
    let separator : List Text := if 0 < e.blocks then [['\n']] else []
    match Output.writeAll e.output (separator ++ Document.parts e.fenceLang segment) with
    | (output, .ok ()) => ({ e with output, blocks := e.blocks + 1 }, .ok ())
    | (output, .error fault) => ({ e with output }, .error fault)

instance : Sink (Emitter ω) where
  accept e segment :=
    match e.emit segment with
    | (e, .ok ()) => (e, .ok ())
    | (e, .error fault) => (e, .error (.output fault))

end Emitter

end Weave
