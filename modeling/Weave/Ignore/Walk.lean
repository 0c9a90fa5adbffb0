import Weave.FileSystem
import Weave.Ignore.Rule

/-!
Walking a directory. Hidden entries and ignored ones are passed over, with all that they hold.
Ignore files hold for the directory they stand in and for everything below it, also when the walk
starts further down; the nearest file that has something to say about a path decides, but an
`.ignore` file goes before a `.gitignore` file, and both before what git keeps elsewhere.
-/

namespace Weave.Ignore

/-- The ignore files that a directory may hold, the ones that go first in front. -/
def fileNames : List Text := [".ignore", ".gitignore", ".git/info/exclude"].map String.toList

/-- The rules in the ignore files of a directory, in the order of `fileNames`. -/
def rulesIn (fs : FileSystem) (directory : Path) : List RuleSet :=
  fileNames.map fun name =>
    match fs.read (directory.join ⟨name⟩) with
    | .ok content => { root := dropFront ['.', '/'] directory.text, rules := rules content }
    | .error _ => {}

/-- The path of a location. -/
def absolutePath (location : Location) : Path := ⟨'/' :: ['/'].intercalate location⟩

/-- The lists that a list begins with, without itself, the longest first. -/
def properFronts {α : Type} (l : List α) : List (List α) :=
  (List.range l.length).reverse.map fun n => l.take n

/-- What a walk knows before it starts. -/
structure Walk where
  /-- The directory that is walked, as written. -/
  start : Path
  /-- The location of that directory. -/
  location : Location
  /-- Whether ignore files hold. -/
  respectRules : Bool
  /-- The rules in each directory below the start, by the names that lead to it. -/
  inside : List (List Text × List RuleSet)
  /-- The rules in each directory above the start, the nearest first. -/
  above : List (List RuleSet)
  /-- The rules that hold in all directories of the user. -/
  global : RuleSet

namespace Walk

/-- Gathers the rules for walking a directory. -/
def prepare (fs : FileSystem) (start : Path) (location : Location) (respectRules : Bool)
    (global : RuleSet) : Walk :=
  let directories := [] :: (fs.below location).filter fun names =>
    fs.get? (location ++ names) == some .directory
  let pathOf (names : List Text) : Path := names.foldl (fun path name => path.join ⟨name⟩) start
  { start, location, respectRules, global
    inside := if respectRules then directories.map fun names => (names, rulesIn fs (pathOf names))
      else []
    above := if respectRules then (properFronts location).map fun up => rulesIn fs (absolutePath up)
      else [] }

/-- The path of an entry below the start. -/
def pathOf (walk : Walk) (names : List Text) : Path :=
  names.foldl (fun path name => path.join ⟨name⟩) walk.start

/-- The path of an entry from the root, as the rules above the start see it. -/
def pathFromRoot (walk : Walk) (path : Text) : Text :=
  let relative :=
    if walk.start.components = [.current] then path
    else dropFront ['/'] (dropFront (dropFront ['.', '/'] walk.start.text) path)
  ((absolutePath walk.location).join ⟨relative⟩).text

/-- What the ignore files say about an entry, which names lead to from the start. -/
def verdict? (walk : Walk) (names : List Text) (isDirectory : Bool) : Option Verdict :=
  if !walk.respectRules then none
  else
    let path := dropFront ['.', '/'] (walk.pathOf names).text
    let fromRoot := walk.pathFromRoot path
    let near := (properFronts names).filterMap fun front => walk.inside.lookup front
    let ofKind (kind : Nat) : Option Verdict :=
      (near.findSome? fun sets => sets[kind]?.bind (·.verdict? path isDirectory)).or
        (walk.above.findSome? fun sets => sets[kind]?.bind (·.verdict? fromRoot isDirectory))
    ((List.range fileNames.length).findSome? ofKind).or (walk.global.verdict? path isDirectory)

/-- Whether the walk passes over an entry: it is ignored, or it is hidden and no rule keeps it. -/
def skips (walk : Walk) (names : List Text) (isDirectory : Bool) : Bool :=
  match walk.verdict? names isDirectory with
  | some .ignored => true
  | some .kept => false
  | none => (names.getLast?.bind List.head?) == some '.'

/-- Whether the walk comes to an entry: it passes over neither the entry nor a directory on the
way to it. -/
def reaches (walk : Walk) (names : List Text) (isDirectory : Bool) : Bool :=
  !walk.skips names isDirectory &&
    (properFronts names).all fun front => front.isEmpty || !walk.skips front true

end Walk

/-- The files below a directory that a walk comes to. Links to files are among them, links to
directories are not followed. A directory comes in front of what it holds, and names are in order. A
directory named by a hyphen alone stands for standard input and holds nothing. -/
def walk (fs : FileSystem) (start : Path) (respectRules : Bool) (global : RuleSet) : List Path :=
  match fs.locate start with
  | .error _ => []
  | .ok location =>
    let location := fs.home location
    if start.components = [.normal ['-']] then []
    else
      let walk := Walk.prepare fs start location respectRules global
      (fs.below location).filterMap fun names =>
        match fs.get? (location ++ names) with
        | some (.file _) => if walk.reaches names false then some (walk.pathOf names) else none
        | _ => none

end Weave.Ignore
