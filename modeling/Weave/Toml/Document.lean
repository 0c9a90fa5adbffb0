import Weave.Toml.Quoted
import Weave.Toml.Scalar
import Weave.Toml.Table

/-!
Reading a TOML document, version 1.1. Main entry: `parse`, which gives the entries of the root
table, or the first thing found wrong.
-/

namespace Weave.Toml

/-- The text behind blanks, line breaks and comments. -/
def afterFiller (inComment : Bool) : Text → Except Error Text
  | [] => .ok []
  | '\n' :: rest => afterFiller false rest
  | '\r' :: '\n' :: rest => afterFiller false rest
  | c :: rest =>
    if inComment then
      if isControl c then .error .invalidCharacter else afterFiller true rest
    else if isBlank c then afterFiller false rest
    else if c = '#' then afterFiller true rest
    else .ok (c :: rest)

/-- Whether a character may stand in a key without quotes. -/
def isBareKeyChar (c : Char) : Bool := c.isAlphanum || c == '_' || c == '-'

/-- Reads one part of a key. -/
def keyPart (text : Text) : Except Error (Text × Text) :=
  match text with
  | '"' :: '"' :: '"' :: _ => .error .expectedKey
  | '\'' :: '\'' :: '\'' :: _ => .error .expectedKey
  | '"' :: rest => basicString [] rest
  | '\'' :: rest => literalString [] rest
  | _ =>
    let key := text.takeWhile isBareKeyChar
    if key.isEmpty then .error .expectedKey else .ok (key, text.drop key.length)

/-- Reads a key: parts with dots between them. Each part takes a character, so `fuel` need not
exceed the length of the text. -/
def keyPath (fuel : Nat) (text : Text) : Except Error (List Text × Text) :=
  match fuel with
  | 0 => .error .expectedKey
  | fuel + 1 => do
    let (part, rest) ← keyPart text
    match rest.dropWhile isBlank with
    | '.' :: rest =>
      let (parts, rest) ← keyPath fuel (rest.dropWhile isBlank)
      return (part :: parts, rest)
    | rest => return ([part], rest)

/-- Whether a character ends a value written without quotes. -/
def endsScalar (c : Char) : Bool := c ∈ [' ', '\t', '\n', '\r', ',', ']', '}', '#']

/-- Reads a value written without quotes. A date and a time may have one space between them. -/
def unquoted (text : Text) : Except Error (Value × Text) :=
  let word := text.takeWhile (!endsScalar ·)
  let rest := text.drop word.length
  let hasTime := afterDate? word == some [] &&
    (match rest with
      | ' ' :: c :: _ => c.isDigit
      | _ => false)
  let (word, rest) :=
    if hasTime then
      let time := (rest.drop 1).takeWhile (!endsScalar ·)
      (word ++ ' ' :: time, rest.drop (time.length + 1))
    else (word, rest)
  if word.isEmpty then .error .expectedValue
  else (scalar word).map (·, rest)

/-- Reads the equals sign behind a key, with the blanks around it. -/
def afterEquals (text : Text) : Except Error Text :=
  match text.dropWhile isBlank with
  | '=' :: rest => .ok (rest.dropWhile isBlank)
  | _ => .error .expectedEquals

mutual

/-- Reads a value. Arrays and inline tables may be nested `depth` deep; each call that does not
end the reading takes a character from the text within two steps, which bounds `fuel`. -/
def value (fuel depth : Nat) (text : Text) : Except Error (Value × Text) :=
  match fuel with
  | 0 => .error .nestedTooDeep
  | fuel + 1 =>
    match text with
    | '"' :: '"' :: '"' :: rest =>
      (basicLines [] false (dropLineBreak rest)).map fun (s, rest) => (.string s, rest)
    | '"' :: rest => (basicString [] rest).map fun (s, rest) => (.string s, rest)
    | '\'' :: '\'' :: '\'' :: rest =>
      (literalLines [] (dropLineBreak rest)).map fun (s, rest) => (.string s, rest)
    | '\'' :: rest => (literalString [] rest).map fun (s, rest) => (.string s, rest)
    | '[' :: rest =>
      match depth with
      | 0 => .error .nestedTooDeep
      | depth + 1 => (items fuel depth [] rest).map fun (vs, rest) => (.array false vs, rest)
    | '{' :: rest =>
      match depth with
      | 0 => .error .nestedTooDeep
      | depth + 1 => (members fuel depth [] rest).map fun (es, rest) => (.table .inline es, rest)
    | _ => unquoted text

/-- Reads the items of an array behind those in `read`, which are in reverse order. -/
def items (fuel depth : Nat) (read : List Value) (text : Text) :
    Except Error (List Value × Text) :=
  match fuel with
  | 0 => .error .unclosedArray
  | fuel + 1 => do
    match ← afterFiller false text with
    | ']' :: rest => return (read.reverse, rest)
    | text =>
      let (item, rest) ← value fuel depth text
      match ← afterFiller false rest with
      | ',' :: rest => items fuel depth (item :: read) rest
      | ']' :: rest => return ((item :: read).reverse, rest)
      | _ => .error .unclosedArray

/-- Reads the members of an inline table behind those in `entries`. -/
def members (fuel depth : Nat) (entries : Entries) (text : Text) :
    Except Error (Entries × Text) :=
  match fuel with
  | 0 => .error .unclosedTable
  | fuel + 1 => do
    match ← afterFiller false text with
    | '}' :: rest => return (entries, rest)
    | text =>
      let (path, rest) ← keyPath text.length text
      let (member, rest) ← value fuel depth (← afterEquals rest)
      let entries ← entries.insert path member
      match ← afterFiller false rest with
      | ',' :: rest => members fuel depth entries rest
      | '}' :: rest => return (entries, rest)
      | _ => .error .unclosedTable

end

/-- How deep arrays and inline tables may be nested. -/
def maxDepth : Nat := 80

/-- Reads the brackets that close a header, `mark` giving them. -/
def closeHeader (mark rest : Text) : Except Error Text :=
  let rest := rest.dropWhile isBlank
  if mark.isPrefixOf rest then .ok (rest.drop mark.length) else .error .unclosedHeader

/-- Reads one header or one key with its value, in the table that `header` names. Gives the
header that is then in force. -/
def statement (header : List Text) (root : Entries) (text : Text) :
    Except Error (List Text × Entries × Text) :=
  match text with
  | '[' :: '[' :: rest => do
    let (path, rest) ← keyPath rest.length (rest.dropWhile isBlank)
    let rest ← closeHeader [']', ']'] rest
    return (path, ← root.openItem path, rest)
  | '[' :: rest => do
    let (path, rest) ← keyPath rest.length (rest.dropWhile isBlank)
    let rest ← closeHeader [']'] rest
    return (path, ← root.openTable path, rest)
  | _ => do
    let (path, rest) ← keyPath text.length text
    let text ← afterEquals rest
    let (member, rest) ← value (2 * text.length + 2) maxDepth text
    return (header, ← root.inTable (·.insert path member) header, rest)

/-- Checks that a statement is followed by the end of its line, or by a comment. -/
def endOfLine (text : Text) : Except Error Text :=
  match text.dropWhile isBlank with
  | [] => .ok []
  | '#' :: rest => .ok ('#' :: rest)
  | '\n' :: rest => .ok ('\n' :: rest)
  | '\r' :: '\n' :: rest => .ok ('\n' :: rest)
  | _ => .error .expectedLineEnd

/-- Reads statements to the end of the text. Each takes a character, which bounds `fuel`. -/
def statements (fuel : Nat) (header : List Text) (root : Entries) (text : Text) :
    Except Error Entries :=
  match fuel with
  | 0 => .ok root
  | fuel + 1 => do
    match ← afterFiller false text with
    | [] => return root
    | text =>
      let (header, root, rest) ← statement header root text
      statements fuel header root (← endOfLine rest)

/-- The entries of the root table of a document. A byte order mark at the front is skipped. -/
def parse (text : Text) : Except Error Entries :=
  let text := match text with
    | '\ufeff' :: rest => rest
    | _ => text
  statements (text.length + 1) [] [] text

end Weave.Toml
