import Weave.Conversion.Error
import Weave.Text.Utf8

/-!
Outputs: where a document is written. A `Page` takes any text; a `BoundedOutput` takes bytes
up to a limit, keeps what fits of a text that does not fit, and may fail to pass on what it
holds.
-/

namespace Weave

/-- Something that text can be written to, and that may refuse. -/
class Output (ω : Type) where
  /-- Writes a text. A refusal may come after a part of the text was taken. -/
  write : ω → Text → ω × Except Fault Unit
  /-- Passes on what was written. -/
  flush : ω → Except Fault Unit

/-- Writes texts one after the other, up to the first that the output refuses. -/
def Output.writeAll {ω : Type} [Output ω] (output : ω) : List Text → ω × Except Fault Unit
  | [] => (output, .ok ())
  | text :: more =>
    match Output.write output text with
    | (output, .ok ()) => writeAll output more
    | (output, .error fault) => (output, .error fault)

/-- An output in memory, which refuses nothing. -/
structure Page where
  pieces : Array Text := #[]
  deriving DecidableEq, Repr

/-- What was written, in order. -/
def Page.text (page : Page) : Text := page.pieces.toList.flatten

instance : Output Page where
  write page text := ({ pieces := page.pieces.push text }, .ok ())
  flush _ := .ok ()

/-- An output of bytes that takes `limit` of them in total, or any number. -/
structure BoundedOutput where
  limit : Option Nat := none
  /-- Whether `flush` fails. -/
  failsFlush : Bool := false
  written : Array UInt8 := #[]
  deriving DecidableEq, Repr

namespace BoundedOutput

/-- Writes bytes, as many as there is room for, and fails if that is not all of them. -/
def writeBytes (out : BoundedOutput) (bytes : Bytes) : BoundedOutput × Except Fault Unit :=
  match out.limit with
  | none => ({ out with written := out.written ++ bytes }, .ok ())
  | some limit =>
    let room := limit - out.written.size
    ({ out with written := out.written ++ bytes.take room },
      if bytes.length ≤ room then .ok () else .error .limitReached)

end BoundedOutput

instance : Output BoundedOutput where
  write out text := out.writeBytes (Utf8.encode text)
  flush out := if out.failsFlush then .error .flushFailed else .ok ()

end Weave
