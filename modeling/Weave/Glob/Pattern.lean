import Weave.Text.Basic

/-!
Glob patterns for one name: `?` is any character, `*` any run of them, brackets give a choice of
characters, and `**` alone stands for any number of directories. Positions in errors count
characters from zero.
-/

namespace Weave.Glob

/-- Characters from `first` to `last`. -/
structure CharRange where
  first : Char
  last : Char
  deriving DecidableEq, Repr

/-- One part of a pattern. -/
inductive Part where
  | char (c : Char)
  | anyChar
  | anySequence
  | anyDirectories
  | within (ranges : List CharRange)
  | except (ranges : List CharRange)
  deriving DecidableEq, Repr

/-- Parts that take a name one after the other. -/
abbrev Pattern := List Part

/-- What is wrong with a pattern. -/
inductive Cause where
  | tooManyStars
  | misplacedDoubleStar
  | invalidRange
  deriving DecidableEq, Repr

/-- What is wrong with a pattern, and near which character. -/
structure Error where
  position : Nat
  cause : Cause
  deriving DecidableEq, Repr

/-- What the program says about a pattern that it cannot read. -/
def Error.message (e : Error) : String :=
  let reason := match e.cause with
    | .tooManyStars => "wildcards are either regular `*` or recursive `**`"
    | .misplacedDoubleStar => "recursive wildcards must form a single path component"
    | .invalidRange => "invalid range pattern"
  s!"Pattern syntax error near position {e.position}: {reason}"

/-- The ranges that the characters between brackets give. A hyphen between two characters makes a
range of them. -/
def charRanges : Text → List CharRange
  | first :: '-' :: last :: rest => ⟨first, last⟩ :: charRanges rest
  | c :: rest => ⟨c, c⟩ :: charRanges rest
  | [] => []

/-- Reads a choice of characters whose opening bracket has been taken. The first character, behind
an exclamation mark if there is one, is always part of the choice. -/
def choice? (text : Text) : Option (Part × Text) :=
  let (make, text) : (List CharRange → Part) × Text := match text with
    | '!' :: rest => (.except, rest)
    | _ => (.within, text)
  match text with
  | [] => none
  | first :: rest =>
    let inside := rest.takeWhile (· != ']')
    match rest.drop inside.length with
    | _ :: rest => some (make (charRanges (first :: inside)), rest)
    | [] => none

theorem choice?_length {text : Text} {part : Part} {rest : Text}
    (read : choice? text = some (part, rest)) : rest.length < text.length := by
  have drops (n : Nat) (t : Text) (c : Char) (r : Text) (h : t.drop n = c :: r) :
      r.length < t.length := by
    have := congrArg List.length h
    simp only [List.length_drop, List.length_cons] at this
    omega
  unfold choice? at read
  simp only at read
  split at read
  · simp at read
  · next first tail shape =>
    split at read
    · next c behind cut =>
      have shorter := drops _ _ _ _ cut
      simp only [Option.some.injEq, Prod.mk.injEq] at read
      obtain ⟨-, rfl⟩ := read
      split at shape
      · simp only at shape
        simp only [shape, List.length_cons]
        omega
      · simp only at shape
        simp only [shape, List.length_cons]
        omega
    · simp at read

/-- Reads the parts of a pattern behind those in `read`, which are in reverse order. `position` is
the number of characters before `text`, and `before` the last of them. -/
def parts (read : List Part) (position : Nat) (before : Option Char) (text : Text) :
    Except Error Pattern :=
  match text with
  | [] => .ok read.reverse
  | '?' :: rest => parts (.anyChar :: read) (position + 1) (some '?') rest
  | '*' :: '*' :: '*' :: _ => .error ⟨position + 2, .tooManyStars⟩
  | '*' :: '*' :: rest =>
    if position != 0 && before != some '/' then .error ⟨position - 1, .misplacedDoubleStar⟩
    else
      let read := if read.length > 1 && read.head? == some .anyDirectories then read
        else .anyDirectories :: read
      match rest with
      | [] => .ok read.reverse
      | '/' :: rest => parts read (position + 3) (some '/') rest
      | _ => .error ⟨position + 2, .misplacedDoubleStar⟩
  | '*' :: rest => parts (.anySequence :: read) (position + 1) (some '*') rest
  | '[' :: rest =>
    match _chosen : choice? rest with
    | some (part, behind) =>
      parts (part :: read) (position + 1 + (rest.length - behind.length)) (some ']') behind
    | none => .error ⟨position, .invalidRange⟩
  | c :: rest => parts (.char c :: read) (position + 1) (some c) rest
termination_by text.length
decreasing_by
  all_goals try simp only [List.length_cons]
  · omega
  · omega
  · omega
  · have := choice?_length _chosen
    omega
  · omega

/-- The pattern that a text writes. -/
def parse (text : Text) : Except Error Pattern := parts [] 0 none text

/-- Whether a choice of characters holds `c`. -/
def inRanges (ranges : List CharRange) (c : Char) : Bool :=
  ranges.any fun range => range.first ≤ c && c ≤ range.last

/-- Whether a pattern matches a name. -/
def Pattern.matchesName : Pattern → Text → Bool
  | [], name => name.isEmpty
  | .anySequence :: parts, name | .anyDirectories :: parts, name =>
    (List.range (name.length + 1)).any fun n => Pattern.matchesName parts (name.drop n)
  | _ :: _, [] => false
  | .char c :: parts, d :: name => c == d && Pattern.matchesName parts name
  | .anyChar :: parts, _ :: name => Pattern.matchesName parts name
  | .within ranges :: parts, d :: name => inRanges ranges d && Pattern.matchesName parts name
  | .except ranges :: parts, d :: name => !inRanges ranges d && Pattern.matchesName parts name

/-- The text that a pattern without wildcards stands for. -/
def Pattern.literal? (pattern : Pattern) : Option Text :=
  pattern.mapM fun part =>
    match part with
    | .char c => some c
    | _ => none

end Weave.Glob
