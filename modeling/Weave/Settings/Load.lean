import Weave.FileSystem
import Weave.Settings.Basic

/-!
Loading settings from files: the user's own, then the nearest project file, then one that is named.
The user's file may be missing or unfit; the others, where they exist, must be fit.
-/

namespace Weave.Settings

/-- Why a settings file gives no layer. -/
inductive LoadError where
  | unreadable (path : Path) (cause : FileError)
  | invalid (path : Path) (cause : SettingsError)
  deriving DecidableEq, Repr

/-- What the program says about a settings file that gives no layer. -/
def LoadError.message : LoadError → String
  | .unreadable path cause => s!"Failed to read config file: {path.toString}: {cause.message}"
  | .invalid path cause => s!"Failed to parse config file: {path.toString}: {cause.message}"

/-- The layer in a file. -/
def loadFile (read : Reader) (fs : FileSystem) (path : Path) : Except LoadError Settings := do
  let content ← (fs.readText path).mapError (.unreadable path)
  (parse read content).mapError (.invalid path)

/-- The name of a project's settings file. -/
def projectFileName : Path := .ofString ".literate.toml"

/-- The settings file of the project that a directory belongs to: the one in the directory itself
or in the nearest directory above it. -/
def projectFile? (fs : FileSystem) (start : Path) : Option Path :=
  (start.ancestors.map (·.join projectFileName)).find? fs.isFile

/-- The user's own layer. A file that is unfit counts as an empty layer, with a notice. -/
def loadGlobal (read : Reader) (fs : FileSystem) (path : Option Path) : List Text × Settings :=
  match path.filter fs.isFile with
  | none => ([], {})
  | some path =>
    match loadFile read fs path with
    | .ok settings => ([], settings)
    | .error e => ([s!"Warning: Failed to load global config: {e.message}".toList], {})

/-- A layer that is empty without a file. -/
def loadLayer (read : Reader) (fs : FileSystem) (path : Option Path) : Except LoadError Settings :=
  match path with
  | none => .ok {}
  | some path => loadFile read fs path

/-- The settings in force in the directory `start`, with notices. -/
def load (read : Reader) (fs : FileSystem) (global : Option Path) (start : Path)
    (explicit : Option Path) : List Text × Except LoadError Settings :=
  let (notices, user) := loadGlobal read fs global
  (notices, do
    let project ← loadLayer read fs (projectFile? fs start)
    let named ← loadLayer read fs explicit
    return (user.overlay project).overlay named)

end Weave.Settings
