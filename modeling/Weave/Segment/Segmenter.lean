import Weave.Comment
import Weave.Conversion.Error
import Weave.Segment.Basic

/-!
The segmenter: it classifies tokens one at a time as prose (block comments) or code (all
else), buffers a run of one class, and hands each finished run to a sink. A sink may refuse a
segment; the segmenter then reports the error and can still be used.
-/

namespace Weave

/-- A receiver of finished segments, which come in the order of the source. -/
class Sink (σ : Type) where
  accept : σ → Segment → σ × Except ConversionError Unit

/-- The class of the run that is being buffered, if there is one. -/
inductive Run where
  | unset
  | comment
  | code
  deriving DecidableEq, Repr

/-- The kind of the segment that a run becomes. -/
def Run.kind? : Run → Option Segment.Kind
  | .unset => none
  | .comment => some .comment
  | .code => some .code

/-- Whether more tokens are wanted. -/
inductive Flow where
  | more
  | done
  deriving DecidableEq, Repr

/-- The state of segmenting a source. -/
structure Segmenter (σ : Type) where
  sink : σ
  run : Run := .unset
  /-- Fragments of the run so far. -/
  buffer : Array Text := #[]
  /-- The range of the source that the buffered fragments cover. -/
  span : Option Span := none
  /-- The index of the next segment. -/
  nextIndex : Nat := 0
  policy : UnterminatedPolicy
  diagnostics : Array Diagnostic := #[]

namespace Segmenter

variable {σ : Type}

/-- Adds fragments that cover `span` to the buffered run. -/
def add (g : Segmenter σ) (fragments : List Text) (span : Span) : Segmenter σ :=
  { g with
    buffer := g.buffer ++ fragments
    span := match g.span with
      | some covered => some { covered with stop := span.stop }
      | none => some span }

/-- Deals with a template literal that the source does not end, as the policy says. -/
def reportUnterminated (g : Segmenter σ) (source : Text) (literal : Template) :
    Segmenter σ × Except ConversionError Unit :=
  let offset := literal.start
  let position := Position.ofOffset source offset
  match g.policy with
  | .fail => (g, .error (.unterminatedTemplate offset position))
  | .truncate =>
    let message := "unterminated template literal, the rest of the input is kept as code"
    ({ g with diagnostics := g.diagnostics.push { offset, position, message } }, .ok ())

variable [Sink σ]

/-- Hands the buffered run to the sink. With nothing buffered nothing happens. -/
def flush (g : Segmenter σ) : Segmenter σ × Except ConversionError Unit :=
  match g.run.kind? with
  | none => (g, .ok ())
  | some kind =>
    if g.buffer.isEmpty then (g, .ok ())
    else
      let segment : Segment :=
        { kind, fragments := g.buffer.toList, span := g.span.getD ⟨0, 0⟩, index := g.nextIndex }
      let (sink, outcome) := Sink.accept g.sink segment
      ({ g with sink, buffer := #[], span := none, nextIndex := g.nextIndex + 1 }, outcome)

/-- Makes `run` the class of the run, handing over a run of another class first. -/
def enter (g : Segmenter σ) (run : Run) : Segmenter σ × Except ConversionError Unit :=
  if g.run = run then (g, .ok ())
  else match g.flush with
    | (g, .ok ()) => ({ g with run }, .ok ())
    | (g, .error e) => (g, .error e)

/-- Adds one token, which `s` has as its current one, to the run of its class. A template with
substitutions is one fragment, and is taken from the scanner to its end. -/
def feed (g : Segmenter σ) (token : Token) (s : Scanner) :
    (Segmenter σ × Scanner) × Except ConversionError Flow :=
  match token.kind with
  | .endOfInput =>
    match g.flush with
    | (g, .ok ()) => ((g, s), .ok .done)
    | (g, .error e) => ((g, s), .error e)
  | .blockComment =>
    match g.enter .comment with
    | (g, .ok ()) =>
      ((g.add (Comment.lines token.text) ⟨token.start, token.stop⟩, s), .ok .more)
    | (g, .error e) => ((g, s), .error e)
  | .templateStart =>
    match g.enter .code with
    | (g, .error e) => ((g, s), .error e)
    | (g, .ok ()) =>
      let (literal, s) := Template.read token s
      let (g, reported) :=
        if literal.terminated then (g, .ok ()) else g.reportUnterminated s.source literal
      match reported with
      | .ok () => ((g.add [literal.text s.source] literal.toSpan, s), .ok .more)
      | .error e => ((g, s), .error e)
  | _ =>
    match g.enter .code with
    | (g, .ok ()) => ((g.add [token.text] ⟨token.start, token.stop⟩, s), .ok .more)
    | (g, .error e) => ((g, s), .error e)

/-- After a token that is not the last, the scanner has no more text ahead than before. -/
theorem feed_more {g : Segmenter σ} {token : Token} {s : Scanner} {after : Segmenter σ × Scanner}
    (fed : g.feed token s = (after, .ok .more)) :
    token.kind ≠ .endOfInput ∧ after.2.rest.length ≤ s.rest.length := by
  unfold feed at fed
  split at fed
  · split at fed <;> simp at fed
  · next isComment =>
    split at fed
    · simp only [Prod.mk.injEq] at fed
      simp [isComment, ← fed.1]
    · simp at fed
  · next isTemplate =>
    split at fed
    · simp at fed
    · simp only at fed
      split at fed
      · simp only [Prod.mk.injEq] at fed
        simp only [isTemplate, ← fed.1]
        exact ⟨by simp, (Template.read_rest_suffix token s).length_le⟩
      · simp at fed
  · next notEnd _ _ =>
    split at fed
    · simp only [Prod.mk.injEq] at fed
      simp only [← fed.1]
      exact ⟨notEnd, Nat.le_refl _⟩
    · simp at fed

/-- Feeds every token ahead of the scanner, up to the end of input or the first error. -/
def runAll (g : Segmenter σ) (s : Scanner) :
    (Segmenter σ × Scanner) × Except ConversionError Unit :=
  match _fed : g.feed s.next.current s.next with
  | (after, .error e) => (after, .error e)
  | (after, .ok .done) => (after, .ok ())
  | ((g, s), .ok .more) => g.runAll s
termination_by s.rest.length
decreasing_by
  exact Nat.lt_of_le_of_lt (feed_more _fed).2 (Scanner.next_rest_length (feed_more _fed).1)

end Segmenter

/-- A sink that keeps the segments it accepts, and refuses the calls that `refuses` names,
counted from zero. -/
structure Collector where
  refuses : Nat → Bool := fun _ => false
  calls : Nat := 0
  accepted : Array Segment := #[]

instance : Sink Collector where
  accept c segment :=
    if c.refuses c.calls then ({ c with calls := c.calls + 1 }, .error (.output .refused))
    else ({ c with calls := c.calls + 1, accepted := c.accepted.push segment }, .ok ())

/-- The segments of a source with the diagnostics about it, or the error that stopped the run. -/
def segments (source : Text) (policy : UnterminatedPolicy) :
    Except ConversionError (Array Segment × Array Diagnostic) :=
  let g : Segmenter Collector := { sink := {}, policy }
  match g.runAll (Scanner.ofSource source) with
  | (_, .error e) => .error e
  | ((g, _), .ok ()) => .ok (g.sink.accepted, g.diagnostics)

end Weave
