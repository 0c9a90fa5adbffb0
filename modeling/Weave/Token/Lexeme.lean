import Weave.Text.Identifier
import Weave.Text.Space
import Weave.Token.Basic

/-!
Reading one token off the front of a text. Each reader takes the text behind the token's
opening characters and returns what is left behind the token. The reading depends on nothing
but the text ahead, whether the text is at the very start of the source, and whether a slash
may open a regular expression there.
-/

namespace Weave

/-- One token read off the front of a text: its kind, whether its closing delimiter is
missing, and the text behind it. -/
structure Lexeme where
  kind : Kind
  rest : Text
  unterminated : Bool := false
  deriving DecidableEq, Repr

namespace Lexeme

/-- The text behind the first `*/`, if there is one. -/
def afterCommentClose : Text → Option Text
  | [] => none
  | '*' :: '/' :: rest => some rest
  | _ :: rest => afterCommentClose rest

/-- Reads a string whose opening quote has been taken. The string ends behind the first
`quote` that no backslash escapes; it is unterminated when a line break or the end of the
text comes first. A backslash takes the next character along, or the next two if they are a
carriage return and a line feed. -/
def string (quote : Char) : Text → Lexeme
  | [] => { kind := .stringLiteral, rest := [], unterminated := true }
  | '\\' :: '\r' :: '\n' :: rest => string quote rest
  | '\\' :: _ :: rest => string quote rest
  | c :: rest =>
    if c = quote then { kind := .stringLiteral, rest }
    else if Text.isLineBreak c then
      { kind := .stringLiteral, rest := c :: rest, unterminated := true }
    else string quote rest

/-- Reads template text whose opening backtick or brace has been taken. The text ends behind
a backtick, with the kind `closed`, or behind a `$` and an opening brace, with the kind
`broken`. -/
def template (closed broken : Kind) : Text → Lexeme
  | [] => { kind := closed, rest := [], unterminated := true }
  | '\\' :: '\r' :: '\n' :: rest => template closed broken rest
  | '\\' :: _ :: rest => template closed broken rest
  | '$' :: '{' :: rest => { kind := broken, rest }
  | c :: rest =>
    if c = '`' then { kind := closed, rest } else template closed broken rest

/-- Whether a number with these first two characters is written in base two, eight or
sixteen. -/
def hasRadixMark : Text → Bool
  | '0' :: mark :: _ => mark ∈ ['x', 'X', 'b', 'B', 'o', 'O']
  | _ => false

/-- The text behind a number. Letters, digits and `_` belong to the number; a decimal number
also takes one dot, and a sign right behind an `e`. `before` is the character before the
text, `radix` says that the number has a radix mark, `dotted` that its dot has been taken. -/
def afterNumber (radix : Bool) : (before : Char) → (dotted : Bool) → Text → Text
  | _, _, [] => []
  | before, dotted, c :: rest =>
    if c = '.' then
      if dotted || radix then c :: rest else afterNumber radix c true rest
    else if c.isAlphanum || c = '_' ||
        ((c = '+' || c = '-') && !radix && (before = 'e' || before = 'E')) then
      afterNumber radix c dotted rest
    else c :: rest

/-- The text behind the slash that closes a regular expression whose opening slash has been
taken, if one closes it before the end of the line. A backslash takes the next character
along, and between brackets a slash is an ordinary character. -/
def afterRegexClose : (bracketed : Bool) → Text → Option Text
  | _, [] => none
  | bracketed, '\\' :: c :: rest =>
    if Text.isLineBreak c then none else afterRegexClose bracketed rest
  | bracketed, c :: rest =>
    if Text.isLineBreak c then none
    else if c = '[' then afterRegexClose true rest
    else if c = ']' then afterRegexClose false rest
    else if c = '/' && !bracketed then some rest
    else afterRegexClose bracketed rest

/-- Punctuators of more than one character, longer ones first. -/
def punctuators : List Text :=
  [">>>=", "...", "===", "!==", "**=", "<<=", ">>=", ">>>", "&&=", "||=", "??=", "=>", "==",
    "!=", "<=", ">=", "&&", "||", "??", "?.", "++", "--", "+=", "-=", "*=", "/=", "%=", "&=",
    "|=", "^=", "**", "<<", ">>"].map String.toList

/-- Whether `mark` opens the text as a punctuator. In front of a digit, `?.` is a question
mark followed by a number. -/
def opensWith (text mark : Text) : Bool :=
  mark.isPrefixOf text &&
    !(mark == ['?', '.'] && ((text.drop 2).head?.any Char.isDigit))

/-- The text behind the longest punctuator at the front, which is one character when no
longer one stands there. -/
def afterPunctuator (text : Text) : Text :=
  match punctuators.find? (opensWith text) with
  | some mark => text.drop mark.length
  | none => text.drop 1

/-- Whether `c` is one of the printable ASCII characters that are no letter or digit. -/
def isPunctuation (c : Char) : Bool :=
  ('!' ≤ c && c ≤ '/') || (':' ≤ c && c ≤ '@') || ('[' ≤ c && c ≤ '`') || ('{' ≤ c && c ≤ '~')

/-- Reads a slash that opens no comment, with the text behind it. -/
def slash (regexAllowed : Bool) (rest : Text) : Lexeme :=
  match if regexAllowed then afterRegexClose false rest else none with
  | some flags => { kind := .regexLiteral, rest := flags.dropWhile Text.isIdentifierPart }
  | none => { kind := .punctuation, rest := afterPunctuator ('/' :: rest) }

/-- Reads a block comment whose `/*` has been taken. -/
def blockComment (rest : Text) : Lexeme :=
  match afterCommentClose rest with
  | some rest => { kind := .blockComment, rest }
  | none => { kind := .blockComment, rest := [], unterminated := true }

/-- The text from the next line break on. -/
def atLineBreak (text : Text) : Text := text.dropWhile (!Text.isLineBreak ·)

/-- Reads the token that begins with `c` and goes on in `rest`. -/
def read (atStart regexAllowed : Bool) (c : Char) (rest : Text) : Lexeme :=
  if c = '\r' then
    { kind := .newLine, rest := if rest.head? = some '\n' then rest.tail else rest }
  else if Text.isLineBreak c then { kind := .newLine, rest }
  else if c = '#' && atStart && rest.head? = some '!' then
    { kind := .shebang, rest := atLineBreak rest }
  else if c = '/' then
    match rest with
    | '/' :: comment => { kind := .lineComment, rest := atLineBreak comment }
    | '*' :: comment => blockComment comment
    | _ => slash regexAllowed rest
  else if c = '`' then template .plainTemplate .templateStart rest
  else if c = '\'' || c = '"' then string c rest
  else if c = '{' then { kind := .openBrace, rest }
  else if c = '}' then { kind := .closeBrace, rest }
  else if c.isDigit || (c = '.' && rest.head?.any Char.isDigit) then
    { kind := .numericLiteral
      rest := afterNumber (hasRadixMark (c :: rest)) c (c = '.') rest }
  else if Text.isIdentifierStart c then
    { kind := .identifier, rest := rest.dropWhile Text.isIdentifierPart }
  else if Text.isInlineSpace c then
    { kind := .whitespace, rest := rest.dropWhile Text.isInlineSpace }
  else if isPunctuation c then
    { kind := .punctuation, rest := afterPunctuator (c :: rest) }
  else { kind := .unknown, rest }

end Lexeme

end Weave
