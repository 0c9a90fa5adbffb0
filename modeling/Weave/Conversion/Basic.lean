import Weave.Document

/-!
Conversion of one source text: its segments are written to the document as they are finished.
-/

namespace Weave

/-- How a source text is converted. -/
structure ConversionOptions where
  /-- The language named on each fence. -/
  fenceLang : Text := "typescript".toList
  unterminated : UnterminatedPolicy := .fail
  deriving DecidableEq, Repr

/-- What a conversion reports besides the document. -/
structure ConversionReport where
  /-- The number of blocks in the document. -/
  blocks : Nat
  diagnostics : List Diagnostic
  deriving DecidableEq, Repr

/-- A document with the report on it. -/
structure Conversion extends ConversionReport where
  document : Text
  deriving DecidableEq, Repr

/-- Converts `source` and writes the document to `output`. The output is returned as the
conversion leaves it, also when it fails. -/
def convertTo {ω : Type} [Output ω] (source : Text) (options : ConversionOptions) (output : ω) :
    ω × Except ConversionError ConversionReport :=
  let g : Segmenter (Emitter ω) :=
    { sink := { output, fenceLang := options.fenceLang }, policy := options.unterminated }
  match g.runAll (Scanner.ofSource source) with
  | ((g, _), .error e) => (g.sink.output, .error e)
  | ((g, _), .ok ()) =>
    match Output.flush g.sink.output with
    | .error fault => (g.sink.output, .error (.output fault))
    | .ok () =>
      (g.sink.output, .ok { blocks := g.sink.blocks, diagnostics := g.diagnostics.toList })

/-- Converts `source` to a document in memory. -/
def convert (source : Text) (options : ConversionOptions) : Except ConversionError Conversion :=
  match convertTo source options ({} : Page) with
  | (page, .ok report) => .ok { report with document := page.text }
  | (_, .error e) => .error e

end Weave
