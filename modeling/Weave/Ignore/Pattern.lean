import Weave.Text.Utf8

/-!
The patterns of ignore rules. They match the bytes of a whole path: `?` and `*` stay between
slashes, `**` between slashes stands for any number of directories, brackets give a choice of
bytes and braces a choice of patterns. A pattern is matched by following all the ways in which its
tokens can take a front of the path.
-/

namespace Weave.Ignore

/-- One token of a pattern. -/
inductive Token where
  | literal (bytes : Bytes)
  /-- One byte that is no slash. -/
  | any
  /-- Bytes that are no slashes. -/
  | anyRun
  /-- Directories in front of the rest, or none. -/
  | anyFront
  /-- A slash and everything behind it. -/
  | anyTail
  /-- A slash, and directories behind it, or none. -/
  | anyMiddle
  /-- One byte that lies in one of the ranges, or in none of them. -/
  | oneOf (negated : Bool) (ranges : List (UInt8 × UInt8))
  /-- One of several patterns. -/
  | alternatives (choices : List (List Token))

/-- Tokens that take a path one after the other. -/
abbrev Pattern := List Token

/-- The byte of a slash. -/
def slash : UInt8 := 0x2f

/-- What can be left behind a slash of `bytes`. -/
def afterSlashes : Bytes → List Bytes
  | [] => []
  | b :: rest => if b = slash then rest :: afterSlashes rest else afterSlashes rest

/-- All tails of `bytes`, the longest first, up to behind the first byte that does not satisfy
`p`. -/
def tailsWhile (p : UInt8 → Bool) : Bytes → List Bytes
  | [] => [[]]
  | b :: rest => (b :: rest) :: (if p b then tailsWhile p rest else [])

mutual

/-- What can be left of `bytes` behind a front that the token takes. -/
def Token.ends : Token → Bytes → List Bytes
  | .literal front, bytes => if front.isPrefixOf bytes then [bytes.drop front.length] else []
  | .any, bytes =>
    match bytes with
    | b :: rest => if b = slash then [] else [rest]
    | [] => []
  | .anyRun, bytes => tailsWhile (· != slash) bytes
  | .anyFront, bytes => bytes :: afterSlashes bytes
  | .anyTail, bytes =>
    match bytes with
    | b :: rest => if b = slash then tailsWhile (fun _ => true) rest else []
    | [] => []
  | .anyMiddle, bytes =>
    match bytes with
    | b :: rest => if b = slash then rest :: afterSlashes rest else []
    | [] => []
  | .oneOf negated ranges, bytes =>
    match bytes with
    | b :: rest =>
      if (ranges.any fun range => range.1 ≤ b && b ≤ range.2) != negated then [rest] else []
    | [] => []
  | .alternatives choices, bytes => endsOfAny choices bytes

/-- What can be left of `bytes` behind fronts that the tokens take one after the other. -/
def endsOfAll : List Token → Bytes → List Bytes
  | [], bytes => [bytes]
  | token :: tokens, bytes => ((token.ends bytes).flatMap (endsOfAll tokens)).eraseDups

/-- What can be left of `bytes` behind a front that one of the patterns takes. -/
def endsOfAny : List (List Token) → Bytes → List Bytes
  | [], _ => []
  | choice :: choices, bytes => endsOfAll choice bytes ++ endsOfAny choices bytes

end

/-- Whether the pattern matches all of `bytes`. `**` alone matches everything. -/
def Pattern.matchesBytes (pattern : Pattern) (bytes : Bytes) : Bool :=
  match pattern with
  | [.anyFront] => true
  | _ => (endsOfAll pattern bytes).contains []

/-- The choice of a group of patterns; empty ones do not count. -/
def alternativesOf (choices : List (List Token)) : List Token :=
  match choices.filter (!·.isEmpty) with
  | [] => []
  | choices => [.alternatives choices]

/-- A bracket read up to its end. -/
inductive Bracket where
  | unclosed
  /-- A range goes backwards. -/
  | invalid
  | closed (ranges : List (Char × Char)) (rest : Text)

/-- Reads what stands between brackets. `ranges` are the ranges so far, the last one first;
`first` says that nothing was read yet, and `inRange` that a hyphen waits for the end of the
range. -/
def bracket (ranges : List (Char × Char)) (first inRange : Bool) : Text → Bracket
  | [] => .unclosed
  | c :: rest =>
    if c = ']' && !first then
      .closed (if inRange then ('-', '-') :: ranges else ranges) rest
    else if c = '-' && !first && !inRange then bracket ranges false true rest
    else if inRange then
      match ranges with
      | (low, _) :: others =>
        if c < low then .invalid else bracket ((low, c) :: others) false false rest
      | [] => .invalid
    else bracket ((c, c) :: ranges) false false rest

/-- The bytes that a range of characters stands for. The bytes of a character beyond ASCII stand
each for itself, and the range lies between the two bytes next to the hyphen. -/
def byteRanges (range : Char × Char) : List (UInt8 × UInt8) :=
  let low := Utf8.encode [range.1]
  let high := Utf8.encode [range.2]
  let single (b : UInt8) : UInt8 × UInt8 := (b, b)
  if range.1 = range.2 then low.map single
  else
    low.dropLast.map single ++
      (match low.getLast?, high.head? with
        | some a, some b => [(a, b)]
        | _, _ => []) ++
      (high.drop 1).map single

/-- How far the reading of a pattern has come. -/
structure Reading where
  /-- Tokens of the innermost open pattern, the last one first. -/
  tokens : List Token := []
  /-- For each open brace, the innermost first: the finished patterns of its group, the last one
  first, and the tokens in front of the brace. -/
  groups : List (List (List Token) × List Token) := []

/-- Adds a token to the innermost open pattern. -/
def Reading.push (r : Reading) (token : Token) : Reading := { r with tokens := token :: r.tokens }

/-- Reads two stars that stand behind other tokens of their pattern, `before` being the character
in front of them, and gives the reading with the text behind them. Between slashes they stand for
directories, elsewhere for two single stars. -/
def doubleStar (r : Reading) (before : Option Char) (rest : Text) : Reading × Text :=
  let plain := ((r.push .anyRun).push .anyRun, rest)
  let inGroup := !r.groups.isEmpty
  let replace (last : Bool) (rest : Text) : Reading × Text :=
    match r.tokens with
    | .anyFront :: _ => (r, rest)
    | .anyTail :: _ => (r, rest)
    | _ :: tokens => ({ r with tokens := (if last then .anyTail else .anyMiddle) :: tokens }, rest)
    | [] => plain
  if before != some '/' && !(inGroup && (before == some ',' || before == some '{')) then plain
  else match rest with
    | [] => replace true []
    | '/' :: behind => replace false behind
    | c :: _ => if inGroup && (c = ',' || c = '}') then replace true rest else plain

/-- Reads the tokens of a pattern, or nothing if it is not a pattern. `before` is the character in
front of `text`; `brackets` says that brackets are still looked for. Each step takes a character,
so `fuel` need not exceed the length of the text. -/
def readTokens (fuel : Nat) (r : Reading) (before : Option Char) (brackets : Bool) (text : Text) :
    Option Pattern :=
  match fuel with
  | 0 => if r.groups.isEmpty then some r.tokens.reverse else none
  | fuel + 1 =>
    match text with
    | [] => if r.groups.isEmpty then some r.tokens.reverse else none
    | '?' :: rest => readTokens fuel (r.push .any) (some '?') brackets rest
    | '*' :: '*' :: rest =>
      if r.tokens.isEmpty then
        match rest with
        | [] => readTokens fuel (r.push .anyFront) (some '*') brackets []
        | '/' :: rest => readTokens fuel (r.push .anyFront) (some '/') brackets rest
        | _ => readTokens fuel ((r.push .anyRun).push .anyRun) (some '*') brackets rest
      else
        let (r, behind) := doubleStar r before rest
        let last := if behind.length < rest.length then '/' else '*'
        readTokens fuel r (some last) brackets behind
    | '*' :: rest => readTokens fuel (r.push .anyRun) (some '*') brackets rest
    | '{' :: rest =>
      readTokens fuel { tokens := [], groups := ([], r.tokens) :: r.groups } (some '{') brackets rest
    | '}' :: rest =>
      match r.groups with
      | [] => none
      | (choices, outer) :: groups =>
        let token := alternativesOf ((r.tokens.reverse :: choices).reverse)
        readTokens fuel { tokens := token ++ outer, groups } (some '}') brackets rest
    | ',' :: rest =>
      match r.groups with
      | [] => readTokens fuel (r.push (.literal (Utf8.encode [',']))) (some ',') brackets rest
      | (choices, outer) :: groups =>
        readTokens fuel { tokens := [], groups := (r.tokens.reverse :: choices, outer) :: groups }
          (some ',') brackets rest
    | '\\' :: rest =>
      match rest with
      | [] => none
      | c :: rest => readTokens fuel (r.push (.literal (Utf8.encode [c]))) (some c) brackets rest
    | c :: rest =>
      let asLiteral (brackets : Bool) :=
        readTokens fuel (r.push (.literal (Utf8.encode [c]))) (some c) brackets rest
      if c = '[' && brackets then
        let (negated, inside) := match rest with
          | '!' :: inside => (true, inside)
          | '^' :: inside => (true, inside)
          | _ => (false, rest)
        match bracket [] true false inside with
        | .unclosed => asLiteral false
        | .invalid => none
        | .closed ranges behind =>
          readTokens fuel (r.push (.oneOf negated (ranges.flatMap byteRanges))) (some ']') brackets
            behind
      else asLiteral brackets

/-- The pattern that a text writes, if it writes one. A bracket that is not closed stands for
itself. -/
def Pattern.parse? (text : Text) : Option Pattern :=
  readTokens text.length {} none true text

end Weave.Ignore
