import Weave.Proofs.Placement
import Weave.Segment.Segmenter

/-!
The source as the segmenter takes it: piece by piece, a piece being one token, or a template
literal with all its substitutions. The pieces are consecutive and spell the source, a piece that
the source does not end is the last one, and `runAll` is a walk along the list of pieces.
-/

namespace Weave

/-- What the segmenter takes at once. -/
structure Piece where
  /-- The class that the piece belongs to. -/
  kind : Segment.Kind
  start : Nat
  text : Text
  /-- Not set for a template literal that the source does not end. -/
  terminated : Bool
  deriving DecidableEq, Repr

namespace Piece

def stop (p : Piece) : Nat := p.start + p.text.size

def span (p : Piece) : Span := ⟨p.start, p.stop⟩

/-- The piece that a token by itself is. -/
def ofToken (token : Token) : Piece where
  kind := if token.kind = .blockComment then .comment else .code
  start := token.start
  text := token.text
  terminated := true

/-- The piece that a template literal of `source` is. -/
def ofTemplate (source : Text) (literal : Template) : Piece where
  kind := .code
  start := literal.start
  text := literal.text source
  terminated := literal.terminated

/-- What the piece adds to the segment that it is part of. -/
def fragments (p : Piece) : List Text :=
  match p.kind with
  | .comment => Comment.lines p.text
  | .code => [p.text]

/-- The text of pieces that follow each other. -/
def spell (ps : List Piece) : Text := ps.flatMap text

/-- Each piece starts where the one before it stops, the first one at `offset`. -/
def Consecutive : (offset : Nat) → List Piece → Prop
  | _, [] => True
  | offset, p :: ps => p.start = offset ∧ Consecutive p.stop ps

@[simp] theorem spell_nil : spell [] = [] := rfl

@[simp] theorem spell_cons (p : Piece) (ps : List Piece) :
    spell (p :: ps) = p.text ++ spell ps := rfl

@[simp] theorem spell_append (ps qs : List Piece) : spell (ps ++ qs) = spell ps ++ spell qs := by
  simp [spell]

theorem consecutive_append {offset : Nat} {ps qs : List Piece} :
    Consecutive offset (ps ++ qs) ↔
      Consecutive offset ps ∧ Consecutive (offset + (spell ps).size) qs := by
  induction ps generalizing offset with
  | nil => simp [Consecutive]
  | cons p ps ih =>
    rw [List.cons_append, Consecutive, Consecutive, ih, and_assoc]
    refine and_congr_right fun starts => ?_
    rw [spell_cons, Text.size_append, stop, starts, Nat.add_assoc]

end Piece

namespace Scanner

/-- The piece ahead of a scanner, and the scanner behind that piece. There is none at the end of
input. -/
def piece? (s : Scanner) : Option (Piece × Scanner) :=
  if s.next.current.kind = .endOfInput then none
  else if s.next.current.kind = .templateStart then
    let (literal, after) := Template.read s.next.current s.next
    some (.ofTemplate s.source literal, after)
  else some (.ofToken s.next.current, s.next)

variable {s after : Scanner} {p : Piece} {front : Text}

theorem piece?_eq_none : s.piece? = none ↔ s.rest = [] := by
  rw [← next_kind_eq_endOfInput, piece?]
  split
  · simp [*]
  · split <;> simp [*]

/-- A piece is a template literal read to its end, or one token of another kind. -/
theorem piece?_cases (ahead : s.piece? = some (p, after)) :
    s.next.current.kind ≠ .endOfInput ∧
    ((s.next.current.kind = .templateStart ∧
        p = .ofTemplate s.source (Template.read s.next.current s.next).1 ∧
        after = (Template.read s.next.current s.next).2) ∨
      (s.next.current.kind ≠ .templateStart ∧ p = .ofToken s.next.current ∧ after = s.next)) := by
  unfold piece? at ahead
  split at ahead
  · cases ahead
  · next more =>
    split at ahead
    · next opens =>
      cases ahead
      exact ⟨more, .inl ⟨opens, rfl, rfl⟩⟩
    · next other =>
      cases ahead
      exact ⟨more, .inr ⟨other, rfl, rfl⟩⟩

theorem piece?_rest_length (ahead : s.piece? = some (p, after)) :
    after.rest.length < s.rest.length := by
  obtain ⟨more, ⟨-, -, rfl⟩ | ⟨-, -, rfl⟩⟩ := piece?_cases ahead
  · exact Nat.lt_of_le_of_lt (Template.read_rest_suffix _ _).length_le (next_rest_length more)
  · exact next_rest_length more

/-- The piece ahead starts where the current token stops, is not empty, and is taken off the
text ahead. Only a template literal can be unterminated, and then nothing follows it. -/
theorem piece?_spec (placed : s.Placed front) (ahead : s.piece? = some (p, after)) :
    p.start = s.current.stop ∧ p.text ++ after.rest = s.rest ∧ p.text ≠ [] ∧
    after.source = s.source ∧ (∃ behind, after.Placed behind) ∧
    (p.terminated = false → p.kind = .code ∧ p.text.head? = some '`' ∧ after.rest = []) := by
  obtain ⟨more, ⟨opens, rfl, rfl⟩ | ⟨-, rfl, rfl⟩⟩ := piece?_cases ahead
  · obtain ⟨starts, -, unclosed⟩ := Template.read_extent s.next
    obtain ⟨taken, literal, split⟩ := Template.read_text placed.next
    obtain ⟨tail, backtick⟩ := rest_of_next_templateStart opens
    obtain ⟨c, body, token⟩ := List.exists_cons_of_ne_nil (next_text_ne_nil more)
    have spelled := s.next_text_append
    rw [next_source] at literal
    refine ⟨starts.trans s.next_start, ?_, ?_, by simp, Template.read_placed _ placed.next,
      fun broken => ⟨rfl, ?_, unclosed broken⟩⟩
    · rw [Piece.ofTemplate, literal, List.append_assoc, split, spelled]
    · simp [Piece.ofTemplate, literal, token]
    · rw [token, backtick, List.cons_append, List.cons.injEq] at spelled
      simp [Piece.ofTemplate, literal, token, spelled.1]
  · exact ⟨s.next_start, s.next_text_append, next_text_ne_nil more, s.next_source,
      ⟨_, placed.next⟩, by simp [Piece.ofToken]⟩

theorem piece?_stop (placed : s.Placed front) (ahead : s.piece? = some (p, after)) :
    p.stop = after.current.stop := by
  obtain ⟨starts, split, -, same, ⟨behind, standing⟩, -⟩ := piece?_spec placed ahead
  have before := placed.stop_add_rest
  have later := standing.stop_add_rest
  rw [← split, Text.size_append] at before
  rw [same] at later
  rw [Piece.stop, starts]
  omega

/-- The pieces ahead of a scanner. -/
def pieces (s : Scanner) : List Piece :=
  match _ahead : s.piece? with
  | none => []
  | some (p, after) => p :: after.pieces
termination_by s.rest.length
decreasing_by exact piece?_rest_length _ahead

theorem pieces_eq_nil (ended : s.piece? = none) : s.pieces = [] := by
  rw [pieces]
  split
  · rfl
  · next ahead => simp [ended] at ahead

theorem pieces_eq_cons (ahead : s.piece? = some (p, after)) : s.pieces = p :: after.pieces := by
  rw [pieces]
  split
  · next ended => simp [ahead] at ended
  · next found =>
    cases ahead.symm.trans found
    rfl

end Scanner

/-- Pieces as they lie in a text that starts at `offset`. -/
structure Laid (offset : Nat) (text : Text) (ps : List Piece) : Prop where
  spelled : Piece.spell ps = text
  consecutive : Piece.Consecutive offset ps
  inhabited : ∀ p ∈ ps, p.text ≠ []
  /-- A piece that the source does not end is a template literal, and the last piece. -/
  unterminated : ∀ before p behind, ps = before ++ p :: behind → p.terminated = false →
    behind = [] ∧ p.kind = .code ∧ p.text.head? = some '`'

/-- The pieces ahead of a scanner lie in its source from the end of the current token on, and
spell all that is ahead. -/
theorem Scanner.Placed.laid {s : Scanner} {front : Text} (placed : s.Placed front) :
    Laid s.current.stop s.rest s.pieces := by
  fun_induction Scanner.pieces s generalizing front with
  | case1 s ended =>
    rw [Scanner.piece?_eq_none] at ended
    exact ⟨ended.symm, trivial, by simp, by simp⟩
  | case2 s p after ahead ih =>
    obtain ⟨starts, split, inhabited, -, ⟨behind, standing⟩, broken⟩ :=
      Scanner.piece?_spec placed ahead
    have rest := ih standing
    have meets := Scanner.piece?_stop placed ahead
    refine ⟨?_, ⟨starts, meets ▸ rest.consecutive⟩, ?_, ?_⟩
    · rw [Piece.spell_cons, rest.spelled, split]
    · intro q member
      rcases List.mem_cons.mp member with rfl | member
      · exact inhabited
      · exact rest.inhabited q member
    · intro before q behind cut unclosed
      rcases List.cons_eq_append_iff.mp cut with ⟨rfl, here⟩ | ⟨before, rfl, later⟩
      · obtain ⟨rfl, rfl⟩ := List.cons.inj here
        obtain ⟨code, backtick, ended⟩ := broken unclosed
        exact ⟨Scanner.pieces_eq_nil (Scanner.piece?_eq_none.mpr ended), code, backtick⟩
      · exact rest.unterminated before q behind later unclosed

/-- The class of run that pieces of a kind are collected in. -/
def Run.ofKind : Segment.Kind → Run
  | .comment => .comment
  | .code => .code

namespace Segmenter

variable {σ : Type} [Sink σ]

/-- Adds one piece to the run of its class. -/
def takePiece (g : Segmenter σ) (source : Text) (p : Piece) :
    Segmenter σ × Except ConversionError Unit :=
  match g.enter (.ofKind p.kind) with
  | (g, .error e) => (g, .error e)
  | (g, .ok ()) =>
    match if p.terminated then (g, .ok ())
        else g.reportUnterminated source { p.span with terminated := false, maxDepth := 0 } with
    | (g, .error e) => (g, .error e)
    | (g, .ok ()) => (g.add p.fragments p.span, .ok ())

/-- Adds pieces one after the other, up to the first error. -/
def takePieces (g : Segmenter σ) (source : Text) :
    List Piece → Segmenter σ × Except ConversionError Unit
  | [] => (g, .ok ())
  | p :: ps =>
    match g.takePiece source p with
    | (g, .ok ()) => g.takePieces source ps
    | (g, .error e) => (g, .error e)

/-- Adds pieces and hands over the last run. -/
def finish (g : Segmenter σ) (source : Text) (ps : List Piece) :
    Segmenter σ × Except ConversionError Unit :=
  match g.takePieces source ps with
  | (g, .ok ()) => g.flush
  | (g, .error e) => (g, .error e)

/-- Feeding a token that does not open a template adds that token. -/
theorem feed_token (g : Segmenter σ) {s : Scanner} (more : s.next.current.kind ≠ .endOfInput)
    (other : s.next.current.kind ≠ .templateStart) :
    g.feed s.next.current s.next =
      (((g.takePiece s.source (.ofToken s.next.current)).1, s.next),
        (g.takePiece s.source (.ofToken s.next.current)).2.map fun _ => .more) := by
  have covers : (Piece.ofToken s.next.current).span =
      ⟨s.next.current.start, s.next.current.stop⟩ := rfl
  simp only [feed, takePiece, covers]
  split
  · contradiction
  · next comment =>
    simp only [Piece.ofToken, Piece.fragments, comment, Run.ofKind, ↓reduceIte]
    rcases g.enter .comment with ⟨g, _ | _⟩ <;> rfl
  · contradiction
  · next notComment _ =>
    simp only [Piece.ofToken, Piece.fragments, if_neg notComment, Run.ofKind, ↓reduceIte]
    rcases g.enter .code with ⟨g, _ | _⟩ <;> rfl

/-- A piece is lost when the run before it is refused. -/
theorem takePiece_of_refused {g g' : Segmenter σ} {p : Piece} {e : ConversionError} (source : Text)
    (refused : g.enter (.ofKind p.kind) = (g', .error e)) :
    g.takePiece source p = (g', .error e) := by
  rw [takePiece, refused]

/-- Feeding a token that opens a template adds the whole literal. The scanner moves behind it
unless the run before it could not be handed over. -/
theorem feed_template (g : Segmenter σ) {s after : Scanner} {literal : Template}
    (opens : s.next.current.kind = .templateStart)
    (consumed : Template.read s.next.current s.next = (literal, after))
    (same : after.source = s.source)
    (covers : (Piece.ofTemplate s.source literal).span = literal.toSpan) :
    ∃ left, g.feed s.next.current s.next =
        (((g.takePiece s.source (.ofTemplate s.source literal)).1, left),
          (g.takePiece s.source (.ofTemplate s.source literal)).2.map fun _ => .more) ∧
      (left = after ∨ left = s.next ∧ ∃ g' e, g.enter .code = (g', .error e)) := by
  simp only [feed, opens, takePiece, covers, consumed, same]
  simp only [Piece.ofTemplate, Piece.fragments, Run.ofKind]
  rcases g.enter .code with ⟨g, _ | _⟩
  · exact ⟨s.next, rfl, .inr ⟨rfl, _, _, rfl⟩⟩
  · by_cases closed : literal.terminated = true
    · simp only [closed, ↓reduceIte]
      exact ⟨after, rfl, .inl rfl⟩
    · simp only [closed, reportUnterminated]
      cases g.policy with
      | fail => exact ⟨after, rfl, .inl rfl⟩
      | truncate => exact ⟨after, rfl, .inl rfl⟩

/-- Feeding the token ahead adds the piece ahead, and moves the scanner behind it. When the run
before the piece is refused, a template is left behind its first token. -/
theorem feed_eq_takePiece (g : Segmenter σ) {s after : Scanner} {p : Piece} {front : Text}
    (placed : s.Placed front) (ahead : s.piece? = some (p, after)) :
    ∃ left, g.feed s.next.current s.next =
        (((g.takePiece s.source p).1, left), (g.takePiece s.source p).2.map fun _ => .more) ∧
      (left = after ∨ left = s.next ∧ ∃ g' e, g.enter (.ofKind p.kind) = (g', .error e)) := by
  have meets := Scanner.piece?_stop placed ahead
  obtain ⟨more, ⟨opens, rfl, rfl⟩ | ⟨other, rfl, rfl⟩⟩ := Scanner.piece?_cases ahead
  · obtain ⟨-, stops, -⟩ := Template.read_extent s.next
    have same := Template.read_source s.next.current s.next
    rw [Scanner.next_source] at same
    have covers : (Piece.ofTemplate s.source (Template.read s.next.current s.next).1).span =
        (Template.read s.next.current s.next).1.toSpan := by
      rw [Piece.span, meets, ← stops]
      rfl
    exact g.feed_template opens rfl same covers
  · exact ⟨s.next, g.feed_token more other, .inl rfl⟩

/-- Feeding the end of input hands over the last run. -/
theorem feed_endOfInput (g : Segmenter σ) {s : Scanner} (ended : s.rest = []) :
    g.feed s.next.current s.next = ((g.flush.1, s.next), g.flush.2.map fun _ => .done) := by
  simp only [feed, Scanner.next_kind_eq_endOfInput.mpr ended]
  rcases g.flush with ⟨g, _ | _⟩ <;> rfl

private theorem runAll_of_error {g : Segmenter σ} {s : Scanner} {left : Segmenter σ × Scanner}
    {e : ConversionError} (fed : g.feed s.next.current s.next = (left, .error e)) :
    g.runAll s = (left, .error e) := by
  rw [runAll]
  split <;> simp_all

private theorem runAll_of_done {g : Segmenter σ} {s : Scanner} {left : Segmenter σ × Scanner}
    (fed : g.feed s.next.current s.next = (left, .ok .done)) : g.runAll s = (left, .ok ()) := by
  rw [runAll]
  split <;> simp_all

private theorem runAll_of_more {g g' : Segmenter σ} {s s' : Scanner}
    (fed : g.feed s.next.current s.next = ((g', s'), .ok .more)) : g.runAll s = g'.runAll s' := by
  rw [runAll]
  split <;> simp_all

/-- Running the segmenter over a scanner is taking the pieces ahead of it and handing over the
last run. -/
theorem runAll_eq_finish (g : Segmenter σ) (s : Scanner) {front : Text} (placed : s.Placed front) :
    ((g.runAll s).1.1, (g.runAll s).2) = g.finish s.source s.pieces := by
  cases ahead : s.piece? with
  | none =>
    have fed := g.feed_endOfInput (Scanner.piece?_eq_none.mp ahead)
    rw [Scanner.pieces_eq_nil ahead, finish, takePieces]
    rcases flushed : g.flush with ⟨g', _ | _⟩ <;> rw [flushed] at fed
    · rw [runAll_of_error fed]
      exact flushed.symm
    · rw [runAll_of_done fed]
      exact flushed.symm
  | some found =>
    obtain ⟨p, after⟩ := found
    have shorter := Scanner.piece?_rest_length ahead
    obtain ⟨-, -, -, same, ⟨behind, standing⟩, -⟩ := Scanner.piece?_spec placed ahead
    obtain ⟨left, fed, moved⟩ := g.feed_eq_takePiece placed ahead
    rw [Scanner.pieces_eq_cons ahead, finish, takePieces]
    rcases taken : g.takePiece s.source p with ⟨g', _ | _⟩ <;> rw [taken] at fed
    · rw [runAll_of_error fed]
    · obtain rfl | ⟨-, _, _, refused⟩ := moved
      · rw [runAll_of_more fed, runAll_eq_finish g' left standing, same]
        rfl
      · rw [takePiece_of_refused s.source refused] at taken
        cases taken
termination_by s.rest.length

end Segmenter

end Weave
