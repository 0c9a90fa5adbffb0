import Weave.Token.Progress

/-!
The scanner: a source, its current token, and the text behind that token. `next` moves on by
one token; `rescan` reads a closing brace again as the continuation of a template. Each step
takes the current token off the front of the text ahead, so the tokens in order make up the
source.
-/

namespace Weave

/-- The state of scanning a source. -/
structure Scanner where
  source : Text
  /-- The current token; before the first step it is empty and of kind `unknown`. -/
  current : Token
  /-- The text behind the current token. -/
  rest : Text
  /-- Whether a slash at the front of `rest` may open a regular expression. -/
  regexAllowed : Bool
  deriving DecidableEq, Repr

namespace Scanner

/-- A scanner in front of the first token of `source`. -/
def ofSource (source : Text) : Scanner where
  source
  current := { kind := .unknown, start := 0, text := [], unterminated := false }
  rest := source
  regexAllowed := true

/-- Words behind which a slash opens a regular expression. -/
def operatorWords : List Text :=
  ["return", "typeof", "instanceof", "in", "of", "new", "delete", "void", "throw", "case",
    "do", "else", "yield", "await"].map String.toList

/-- Whether a slash behind a token of this kind and text may open a regular expression.
White space, comments and the end of input leave the answer as it was. -/
def allowsRegex (kind : Kind) (text : Text) (before : Bool) : Bool :=
  if kind.isTrivia then before
  else match kind with
    | .endOfInput => before
    | .punctuation => !([")", "]", "++", "--"].map String.toList).contains text
    | .openBrace | .closeBrace | .templateStart | .templateContinuation | .unknown => true
    | .identifier => operatorWords.contains text
    | _ => false

/-- Makes `lexeme`, read off the front of `ahead`, the current token. -/
def take (s : Scanner) (start : Nat) (ahead : Text) (lexeme : Lexeme) : Scanner :=
  let text := ahead.upTo lexeme.rest
  { s with
    current := { kind := lexeme.kind, start, text, unterminated := lexeme.unterminated }
    rest := lexeme.rest
    regexAllowed := allowsRegex lexeme.kind text s.regexAllowed }

/-- Moves on to the next token. At the end of the source the current token is an empty one
of kind `endOfInput`, however often the scanner is asked. -/
def next (s : Scanner) : Scanner :=
  match s.rest with
  | [] =>
    { s with
      current := { kind := .endOfInput, start := s.current.stop, text := [], unterminated := false } }
  | c :: rest =>
    s.take s.current.stop (c :: rest) (Lexeme.read (s.current.stop == 0) s.regexAllowed c rest)

/-- Reads a current closing brace again, together with what follows it, as template text up
to the next substitution or the closing backtick. Any other current token is kept. -/
def rescan (s : Scanner) : Scanner :=
  if s.current.kind = .closeBrace then
    s.take s.current.start (s.current.text ++ s.rest)
      (Lexeme.template .templateEnd .templateContinuation s.rest)
  else s

/-- A step leaves a tail of the text ahead. -/
theorem next_rest_suffix (s : Scanner) : s.next.rest <:+ s.rest := by
  unfold next
  split
  · next empty => simp [empty]
  · next c rest ahead =>
    rw [ahead]
    exact (Lexeme.read_suffix _ _ c rest).trans (List.suffix_cons c rest)

/-- A step that does not report the end of input takes at least one character. -/
theorem next_rest_length {s : Scanner} (more : s.next.current.kind ≠ .endOfInput) :
    s.next.rest.length < s.rest.length := by
  unfold next at more ⊢
  split at more
  · simp at more
  · next c rest ahead =>
    have shorter := (Lexeme.read_suffix (s.current.stop == 0) s.regexAllowed c rest).length_le
    simp only [ahead, take, List.length_cons]
    omega

theorem rescan_rest_suffix (s : Scanner) : s.rescan.rest <:+ s.rest := by
  unfold rescan
  split
  · exact Lexeme.template_suffix _ _ s.rest
  · exact List.suffix_rfl

/-- The tokens ahead of a scanner, up to and including the end of input. -/
def tokens (s : Scanner) : List Token :=
  if s.next.current.kind = .endOfInput then [s.next.current]
  else s.next.current :: s.next.tokens
termination_by s.rest.length
decreasing_by exact next_rest_length ‹_›

end Scanner

end Weave
