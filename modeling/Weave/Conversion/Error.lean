import Weave.Text.Position

/-!
What can go wrong in a conversion: a template that does not end, or an output that refuses
what is written to it. A template that does not end may also be kept, with a diagnostic.
-/

namespace Weave

/-- Why an output refuses what is written to it. -/
inductive Fault where
  /-- The output holds as many bytes as it may. -/
  | limitReached
  /-- The output could not pass on what it holds. -/
  | flushFailed
  /-- The receiver did not take the segment. -/
  | refused
  deriving DecidableEq, Repr

/-- What an output says when it refuses. -/
def Fault.message : Fault → String
  | .limitReached => "limit reached"
  | .flushFailed => "flush failed"
  | .refused => "sink refused"

/-- Why a source text was not converted. -/
inductive ConversionError where
  /-- The source ended inside the template literal that starts at `offset`. -/
  | unterminatedTemplate (offset : Nat) (position : Position)
  /-- The document could not be written. -/
  | output (fault : Fault)
  deriving DecidableEq, Repr

/-- What the program says about a source that was not converted. -/
def ConversionError.message : ConversionError → String
  | .unterminatedTemplate _ position =>
    s!"unterminated template literal starting at line {position.line}, column {position.column}"
  | .output fault => s!"failed to write output: {fault.message}"

/-- A problem that did not stop the conversion. -/
structure Diagnostic where
  /-- The byte offset that the message is about. -/
  offset : Nat
  position : Position
  message : String
  deriving DecidableEq, Repr

/-- The diagnostic on one line, behind its position. -/
def Diagnostic.render (d : Diagnostic) : String :=
  s!"{d.position.line}:{d.position.column}: {d.message}"

/-- What becomes of a template literal that the source does not end. -/
inductive UnterminatedPolicy where
  /-- The conversion fails. -/
  | fail
  /-- The rest of the source is kept as code, with a diagnostic. -/
  | truncate
  deriving DecidableEq, Repr

end Weave
