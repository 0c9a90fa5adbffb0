import Weave.Ignore.Pattern
import Weave.Text.Space

/-!
Ignore rules, one for each line of an ignore file. Of the rules of one file, the last one that
matches a path decides whether the path is ignored or kept.
-/

namespace Weave.Ignore

/-- What a rule says about a path that it matches. -/
inductive Verdict where
  | ignored
  | kept
  deriving DecidableEq, Repr

/-- One rule. -/
structure Rule where
  pattern : Pattern
  verdict : Verdict
  /-- Whether the rule is about directories alone. -/
  directoriesOnly : Bool

/-- Whether a text ends in `tail`. -/
def endsIn (text tail : Text) : Bool := tail.reverse.isPrefixOf text.reverse

/-- The rule on a line, if there is one. An exclamation mark in front keeps instead of ignoring,
and a slash at the end restricts the rule to directories. A pattern with a slash in front or
inside starts at the directory of the file; any other matches at every depth. -/
def Rule.parse? (line : Text) : Option Rule := do
  if line.head? == some '#' then none
  let line := if endsIn line ['\\', ' '] then line else Text.trimEnd line
  if line.isEmpty then none
  let escaped := ['\\', '!'].isPrefixOf line || ['\\', '#'].isPrefixOf line
  let kept := !escaped && line.head? == some '!'
  let line := if escaped || kept then line.drop 1 else line
  let anchored := !escaped && line.head? == some '/'
  let line := if anchored then line.drop 1 else line
  let directoriesOnly := line.getLast? == some '/'
  let line := if directoriesOnly then line.dropLast else line
  let line := if directoriesOnly && line.getLast? == some '\\' then line.dropLast else line
  let everywhere := !anchored && !line.contains '/' && line != ['*', '*']
  let glob := if everywhere then '*' :: '*' :: '/' :: line else line
  let glob := if endsIn glob ['/', '*', '*'] then glob ++ ['/', '*'] else glob
  let pattern ← Pattern.parse? glob
  return { pattern, verdict := if kept then .kept else .ignored, directoriesOnly }

/-- The lines of a file, up to the first that is not text. -/
def textLines (content : Bytes) : List Text :=
  ((content.splitOn 0x0a).map fun line =>
      Utf8.decode? (if line.getLast? == some 0x0d then line.dropLast else line)).takeWhile
    Option.isSome |>.filterMap id

/-- The rules of an ignore file. Byte order marks at its front do not count. -/
def rules (content : Bytes) : List Rule :=
  match textLines content with
  | [] => []
  | first :: more => (first.dropWhile (· == '\ufeff') :: more).filterMap Rule.parse?

/-- The rules of a file, with the directory that they are relative to. -/
structure RuleSet where
  root : Text := []
  rules : List Rule := []

/-- A text without `front`, if it begins with it. -/
def dropFront (front text : Text) : Text :=
  if front.isPrefixOf text then text.drop front.length else text

/-- A path as the rules of a set see it. -/
def RuleSet.relative (set : RuleSet) (path : Text) : Text :=
  let path := dropFront ['.', '/'] path
  if set.root = ['.'] || !path.contains '/' || !set.root.isPrefixOf path then path
  else dropFront ['/'] (path.drop set.root.length)

/-- What the rules say about a path. -/
def RuleSet.verdict? (set : RuleSet) (path : Text) (isDirectory : Bool) : Option Verdict :=
  let bytes := Utf8.encode (set.relative path)
  (set.rules.reverse.find? fun rule =>
    (!rule.directoriesOnly || isDirectory) && rule.pattern.matchesBytes bytes).map Rule.verdict

end Weave.Ignore
