import Weave.Proofs.Pieces

/-!
Tokens at top level. A template literal with substitutions is one token there, from its opening
backtick to its closing one, and every other token is itself. The pieces that a segmenter takes are
these tokens, so they follow each other from the start of the source to its end.
-/

namespace Weave

/-- The literal as one token of its source. -/
def Template.token (literal : Template) (source : Text) : Token where
  kind := .templateStart
  start := literal.start
  text := literal.text source
  unterminated := !literal.terminated

namespace Token

/-- The class of segment that a token at top level belongs to. -/
def segmentKind (token : Token) : Segment.Kind :=
  if token.kind = .blockComment then .comment else .code

/-- What a token at top level adds to its segment. -/
def fragments (token : Token) : List Text :=
  if token.kind = .blockComment then Comment.lines token.text else [token.text]

end Token

/-- The piece that a token at top level is. -/
def Piece.ofTopLevel (token : Token) : Piece where
  kind := token.segmentKind
  start := token.start
  text := token.text
  terminated := !(token.kind = .templateStart && token.unterminated)

@[simp] theorem Piece.fragments_ofTopLevel (token : Token) :
    (Piece.ofTopLevel token).fragments = token.fragments := by
  unfold Piece.fragments Piece.ofTopLevel Token.segmentKind Token.fragments
  by_cases comment : token.kind = .blockComment <;> simp [comment]

namespace Scanner

/-- The token ahead at top level, and the scanner behind it. There is none at the end of input. -/
def whole? (s : Scanner) : Option (Token × Scanner) :=
  if s.next.current.kind = .endOfInput then none
  else if s.next.current.kind = .templateStart then
    let (literal, after) := Template.read s.next.current s.next
    some (literal.token s.source, after)
  else some (s.next.current, s.next)

variable {s after : Scanner} {token : Token} {front : Text}

/-- The piece ahead of a scanner is the token ahead of it at top level. -/
theorem piece?_eq_map (s : Scanner) :
    s.piece? = s.whole?.map fun (token, after) => (.ofTopLevel token, after) := by
  unfold piece? whole?
  split
  · rfl
  · split
    · simp [Piece.ofTemplate, Piece.ofTopLevel, Template.token, Token.segmentKind]
    · next other => simp [Piece.ofToken, Piece.ofTopLevel, Token.segmentKind, other]

theorem piece?_of_whole? (ahead : s.whole? = some (token, after)) :
    s.piece? = some (.ofTopLevel token, after) := by
  rw [piece?_eq_map, ahead]
  rfl

theorem whole?_eq_none : s.whole? = none ↔ s.rest = [] := by
  rw [← piece?_eq_none, piece?_eq_map, Option.map_eq_none_iff]

/-- The token ahead starts where the current token stops, is not empty, and is taken off the text
ahead. -/
theorem whole?_spec (placed : s.Placed front) (ahead : s.whole? = some (token, after)) :
    token.start = s.current.stop ∧ token.text ++ after.rest = s.rest ∧ token.text ≠ [] ∧
    ∃ behind, after.Placed behind := by
  obtain ⟨starts, split, inhabited, -, standing, -⟩ :=
    piece?_spec placed (piece?_of_whole? ahead)
  exact ⟨starts, split, inhabited, standing⟩

theorem whole?_rest_length (ahead : s.whole? = some (token, after)) :
    after.rest.length < s.rest.length :=
  piece?_rest_length (piece?_of_whole? ahead)

/-- The tokens ahead at top level. -/
def topLevel (s : Scanner) : List Token :=
  match _ahead : s.whole? with
  | none => []
  | some (token, after) => token :: after.topLevel
termination_by s.rest.length
decreasing_by exact whole?_rest_length _ahead

theorem topLevel_eq_nil (ended : s.whole? = none) : s.topLevel = [] := by
  rw [topLevel]
  split
  · rfl
  · next ahead => simp [ended] at ahead

theorem topLevel_eq_cons (ahead : s.whole? = some (token, after)) :
    s.topLevel = token :: after.topLevel := by
  rw [topLevel]
  split
  · next ended => simp [ahead] at ended
  · next found =>
    cases ahead.symm.trans found
    rfl

/-- A first token at top level is the one ahead, and the others are those behind it. -/
theorem whole?_of_topLevel {ts : List Token} (scanned : s.topLevel = token :: ts) :
    ∃ after, s.whole? = some (token, after) ∧ after.topLevel = ts := by
  cases ahead : s.whole? with
  | none =>
    rw [topLevel_eq_nil ahead] at scanned
    cases scanned
  | some found =>
    obtain ⟨first, after⟩ := found
    rw [topLevel_eq_cons ahead] at scanned
    obtain ⟨rfl, rest⟩ := List.cons.inj scanned
    exact ⟨after, rfl, rest⟩

/-- The pieces ahead of a scanner are its tokens at top level. -/
theorem pieces_eq_map (s : Scanner) : s.pieces = s.topLevel.map Piece.ofTopLevel := by
  fun_induction topLevel s with
  | case1 s ended =>
    rw [List.map_nil, pieces_eq_nil]
    rw [piece?_eq_map, ended]
    rfl
  | case2 s token after ahead ih =>
    rw [pieces_eq_cons (piece?_of_whole? ahead), ih, List.map_cons]

end Scanner

end Weave
