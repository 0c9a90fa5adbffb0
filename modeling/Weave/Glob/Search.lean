import Weave.FileSystem
import Weave.Glob.Pattern

/-!
The paths that a glob pattern matches. The pattern is taken apart at its slashes, and each part is
looked for in the directories that the parts before it have led to. Matches come in the order of
their names, a directory in front of what it holds.
-/

namespace Weave.Glob

/-- The path of `name` in a directory. Paths in the working directory are written without a dot in
front. -/
def childPath (directory : Path) (name : Text) : Path :=
  if directory.components = [.current] then ⟨name⟩ else directory.join ⟨name⟩

/-- The names in a directory. -/
def namesIn (fs : FileSystem) (directory : Path) : List Text :=
  match fs.locate directory with
  | .ok location => fs.names (fs.home location)
  | .error _ => []

/-- Everything down to some levels below a directory, each path with the name that it ends in. -/
def pathsWithin (fs : FileSystem) : (levels : Nat) → (directory : Path) → List (Path × Text)
  | 0, _ => []
  | levels + 1, directory =>
    (namesIn fs directory).flatMap fun name =>
      let path := childPath directory name
      (path, name) :: if fs.isDirectory path then pathsWithin fs levels path else []

/-- Everything below a directory, down to as many levels as there are locations. Only a circle of links
goes on further down. -/
def pathsBelow (fs : FileSystem) (directory : Path) : List (Path × Text) :=
  pathsWithin fs (fs.locations.length + 1) directory

/-- Whether a pattern stands for any number of directories. -/
def isRecursive (pattern : Pattern) : Bool := pattern == [.anyDirectories]

/-- The paths below `path` that the patterns lead to, one pattern for each step. A pattern without
wildcards is looked up rather than searched for. A pattern with wildcards matches a single dot or
two dots only if it begins with a dot. -/
def search (fs : FileSystem) (directoriesOnly : Bool) : List Pattern → Path → List Path
  | [], path => if directoriesOnly && !fs.isDirectory path then [] else [path]
  | pattern :: patterns, path =>
    match pattern.literal? with
    | some name =>
      let next := childPath path name
      let found := if name = ['.'] || name = ['.', '.'] then fs.isDirectory path
        else fs.pathExists next
      if found then search fs directoriesOnly patterns next else []
    | none =>
      if !fs.isDirectory path then []
      else if isRecursive pattern then
        match patterns with
        | [] => ((pathsBelow fs path).filter fun (found, _) => fs.isDirectory found).map Prod.fst
        | following :: later =>
          if isRecursive following then search fs directoriesOnly (following :: later) path
          else (pathsBelow fs path).flatMap fun (found, name) =>
            if following.matchesName name then search fs directoriesOnly later found else []
      else
        let dots : List Text := if pattern.head? == some (.char '.') then [['.', '.'], ['.']] else []
        (dots.filter pattern.matchesName).flatMap (fun name =>
            search fs directoriesOnly patterns (path.join ⟨name⟩)) ++
          ((namesIn fs path).filter pattern.matchesName).flatMap (fun name =>
            search fs directoriesOnly patterns (childPath path name))

/-- The pieces between the slashes of a text; a slash at its end ends the last piece. -/
def pieces (text : Text) : List Text :=
  let all := Path.splitSlashes text
  if all.getLast? == some [] then all.dropLast else all

/-- The paths that a pattern matches. -/
def expand (fs : FileSystem) (pattern : Text) : Except Error (List Path) := do
  let _ ← parse pattern
  let absolute := pattern.head? == some '/'
  let relative := if absolute then pattern.drop 1 else pattern
  let steps ← (pieces relative).mapM parse
  let steps := if relative.isEmpty then steps ++ [[]] else steps
  let start := Path.ofString (if absolute then "/" else ".")
  return search fs (pattern.getLast? == some '/') steps start

end Weave.Glob
