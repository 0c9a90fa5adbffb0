import Weave.Text.Basic

/-!
Tokens of source text. White space, line breaks and comments are tokens too, so that the
texts of all tokens in order make up the source.
-/

namespace Weave

/-- The lexical class of a token. -/
inductive Kind where
  /-- A comment between `/*` and `*/`. -/
  | blockComment
  /-- A comment from `//` to the end of the line. -/
  | lineComment
  /-- A run of white space within a line. -/
  | whitespace
  /-- One line break; a carriage return and the line feed after it are one. -/
  | newLine
  /-- A first line that begins with `#!`. -/
  | shebang
  /-- From the opening backtick of a template to its first `$` and brace. -/
  | templateStart
  /-- From the brace that closes a substitution to the `$` and brace of the next one. -/
  | templateContinuation
  /-- From the brace that closes the last substitution to the closing backtick. -/
  | templateEnd
  /-- A template without substitutions. -/
  | plainTemplate
  | stringLiteral
  | numericLiteral
  | regexLiteral
  | identifier
  | openBrace
  | closeBrace
  | punctuation
  | unknown
  | endOfInput
  deriving DecidableEq, Repr

/-- Whether tokens of this kind are white space or comments. -/
def Kind.isTrivia : Kind → Bool
  | .blockComment | .lineComment | .whitespace | .newLine | .shebang => true
  | _ => false

/-- A token: its kind, the byte offset at which it starts, and its text. -/
structure Token where
  kind : Kind
  start : Nat
  text : Text
  /-- Set when the input ended before the closing delimiter. -/
  unterminated : Bool
  deriving DecidableEq, Repr

/-- The byte offset right behind the token. -/
def Token.stop (token : Token) : Nat := token.start + token.text.size

end Weave
