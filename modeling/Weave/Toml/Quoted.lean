import Weave.Toml.Value

/-!
Quoted strings of TOML: basic strings with escapes, literal strings without, and the forms of
both that run over several lines. Every reader takes the text behind the opening quotes and
returns the string with the text behind the closing quotes.
-/

namespace Weave.Toml

/-- Blanks within a line. -/
def isBlank (c : Char) : Bool := c == ' ' || c == '\t'

/-- Control characters, which may stand in no string or comment; the tab is none of them. -/
def isControl (c : Char) : Bool := (c.toNat < 0x20 && c != '\t') || c.toNat == 0x7f

/-- The value of a hexadecimal digit. -/
def hexDigit? (c : Char) : Option Nat :=
  if c.isDigit then some (c.toNat - '0'.toNat)
  else if 'a' ≤ c && c ≤ 'f' then some (c.toNat - 'a'.toNat + 10)
  else if 'A' ≤ c && c ≤ 'F' then some (c.toNat - 'A'.toNat + 10)
  else none

/-- The character whose code point the hexadecimal digits give, if there is one. -/
def hexChar? (digits : List Char) : Option Char := do
  let values ← digits.mapM hexDigit?
  let point := values.foldl (fun n d => n * 16 + d) 0
  if point.isValidChar then some (Char.ofNat point) else none

/-- The character that stands behind a backslash for another one. -/
def shortEscape? : Char → Option Char
  | 'b' => some '\x08'
  | 't' => some '\t'
  | 'n' => some '\n'
  | 'f' => some '\x0c'
  | 'r' => some '\r'
  | 'e' => some '\x1b'
  | '"' => some '"'
  | '\\' => some '\\'
  | _ => none

/-- How many hexadecimal digits follow an escape that names a code point. -/
def escapeDigits : Char → Nat
  | 'x' => 2
  | 'u' => 4
  | 'U' => 8
  | _ => 0

/-- Reads what follows a backslash: a short escape, or `x`, `u` or `U` and two, four or eight
hexadecimal digits. -/
def escape? : Text → Option (Char × Text)
  | [] => none
  | c :: rest =>
    let digits := escapeDigits c
    if digits = 0 then (shortEscape? c).map (·, rest)
    else if rest.length < digits then none
    else (hexChar? (rest.take digits)).map (·, rest.drop digits)

theorem escape?_length {text : Text} {c : Char} {rest : Text} (read : escape? text = some (c, rest)) :
    rest.length < text.length := by
  fun_cases escape? text with
  | case1 => simp [escape?] at read
  | case2 d tail digits short =>
    obtain ⟨e, -, pair⟩ : ∃ e, shortEscape? d = some e ∧ (e, tail) = (c, rest) := by
      simpa [escape?, digits, short] using read
    simp [(Prod.mk.inj pair).2]
  | case3 d tail digits long few => simp [escape?, digits, long, few] at read
  | case4 d tail digits long enough =>
    obtain ⟨e, -, pair⟩ : ∃ e, hexChar? (tail.take digits) = some e ∧
        (e, tail.drop digits) = (c, rest) := by
      simpa [escape?, digits, long, enough] using read
    simp only [← (Prod.mk.inj pair).2, List.length_drop, List.length_cons]
    omega

/-- Reads a basic string of one line. -/
def basicString (read : Text) (text : Text) : Except Error (Text × Text) :=
  match text with
  | [] => .error .unclosedString
  | c :: rest =>
    if c = '"' then .ok (read.reverse, rest)
    else if c = '\\' then
      match _escaped : escape? rest with
      | some (e, rest) => basicString (e :: read) rest
      | none => .error .invalidEscape
    else if isControl c then .error .invalidCharacter
    else basicString (c :: read) rest
termination_by text.length
decreasing_by
  · simp only [List.length_cons]
    have := escape?_length _escaped
    omega
  · simp

/-- Reads a literal string of one line. -/
def literalString (read : Text) : Text → Except Error (Text × Text)
  | [] => .error .unclosedString
  | c :: rest =>
    if c = '\'' then .ok (read.reverse, rest)
    else if isControl c then .error .invalidCharacter
    else literalString (c :: read) rest

/-- Drops the line break at the front, if there is one. -/
def dropLineBreak : Text → Text
  | '\n' :: rest => rest
  | '\r' :: '\n' :: rest => rest
  | text => text

/-- Ends a string of several lines behind its three closing quotes: up to two more quotes in
front of them belong to the string. -/
def closeLines (quote : Char) (read : Text) (rest : Text) : Text × Text :=
  let extra := min 2 (rest.takeWhile (· == quote)).length
  ((List.replicate extra quote ++ read).reverse, rest.drop extra)

/-- Whether only blanks stand between here and the end of the line. -/
def endsLine (text : Text) : Bool :=
  match text.dropWhile isBlank with
  | '\n' :: _ => true
  | '\r' :: '\n' :: _ => true
  | _ => false

/-- Reads a basic string of several lines. A backslash at the end of a line takes all blanks and
line breaks up to the next other character away; `folding` says that this is going on. -/
def basicLines (read : Text) (folding : Bool) (text : Text) : Except Error (Text × Text) :=
  match text with
  | [] => .error .unclosedString
  | '"' :: '"' :: '"' :: rest => .ok (closeLines '"' read rest)
  | '\r' :: '\n' :: rest => basicLines (if folding then read else '\n' :: read) folding rest
  | '\n' :: rest => basicLines (if folding then read else '\n' :: read) folding rest
  | '\\' :: rest =>
    if endsLine rest then basicLines read true rest
    else match _escaped : escape? rest with
      | some (e, rest) => basicLines (e :: read) false rest
      | none => .error .invalidEscape
  | c :: rest =>
    if folding && isBlank c then basicLines read true rest
    else if isControl c then .error .invalidCharacter
    else basicLines (c :: read) false rest
termination_by text.length
decreasing_by
  all_goals try simp only [List.length_cons]
  · omega
  · omega
  · omega
  · have := escape?_length _escaped
    omega
  · omega
  · omega

/-- Reads a literal string of several lines. -/
def literalLines (read : Text) : Text → Except Error (Text × Text)
  | [] => .error .unclosedString
  | '\'' :: '\'' :: '\'' :: rest => .ok (closeLines '\'' read rest)
  | '\r' :: '\n' :: rest => literalLines ('\n' :: read) rest
  | '\n' :: rest => literalLines ('\n' :: read) rest
  | c :: rest => if isControl c then .error .invalidCharacter else literalLines (c :: read) rest

end Weave.Toml
