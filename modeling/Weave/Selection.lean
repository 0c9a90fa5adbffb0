import Weave.Glob.Search
import Weave.Ignore.Walk

/-!
Which files are converted. A file that is named is always taken. Files found by walking a directory
or by expanding a pattern are taken if they have one of the chosen extensions.
-/

namespace Weave

/-- Which files a search takes. -/
structure FileFilter where
  /-- Extensions without the dot. -/
  extensions : List Text
  /-- Whether ignore files hold when directories are walked. -/
  respectGitignore : Bool
  deriving DecidableEq, Repr

/-- Whether a path has one of the chosen extensions. -/
def FileFilter.accepts (filter : FileFilter) (path : Path) : Bool :=
  path.extension?.any filter.extensions.contains

/-- The files to convert, with what there is to say about the search. -/
structure Selection where
  files : List Path := []
  notices : List Text := []
  deriving DecidableEq, Repr

namespace Selection

/-- Both selections, one behind the other. -/
def append (a b : Selection) : Selection :=
  { files := a.files ++ b.files, notices := a.notices ++ b.notices }

/-- The files that one argument stands for. -/
def ofArgument (fs : FileSystem) (filter : FileFilter) (global : Ignore.RuleSet)
    (argument : Text) : Selection :=
  let path : Path := ⟨argument⟩
  if fs.isFile path then { files := [path] }
  else if fs.isDirectory path then
    { files := (Ignore.walk fs path filter.respectGitignore global).filter filter.accepts }
  else match Glob.expand fs argument with
    | .error e => { notices := ["Invalid pattern '".toList ++ argument ++ s!"': {e.message}".toList] }
    | .ok found =>
      let files := found.filter fun path => fs.isFile path && filter.accepts path
      if files.isEmpty then
        { notices := ["Warning: no files match '".toList ++ argument ++ ['\'']] }
      else { files }

/-- The files that the arguments stand for, in their order. `global` holds the ignore rules of the
user. -/
def ofArguments (fs : FileSystem) (filter : FileFilter) (global : Ignore.RuleSet)
    (arguments : List Text) : Selection :=
  (arguments.map (ofArgument fs filter global)).foldl append {}

end Selection

end Weave
