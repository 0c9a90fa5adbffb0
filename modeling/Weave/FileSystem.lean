import Weave.Path
import Weave.Text.Order
import Weave.Text.Utf8

/-!
A file system as a value: which names from the root down lead to a directory or to a file. Paths
are followed name by name; everything on the way must be a directory. Through links, a file or a
directory may have further names. An operation that fails says why, and what it did before stays: the
directories that it made, and the part of a file that it wrote until the disk was full. Permissions
and files of other kinds are left out.
-/

namespace Weave

/-- What a name leads to. -/
inductive Entry where
  | directory
  | file (content : Bytes)
  deriving DecidableEq, Repr

/-- The names from the root down to an entry. -/
abbrev Location := List Text

/-- Why a file operation fails. -/
inductive FileError where
  | notFound
  | alreadyExists
  | notADirectory
  | isADirectory
  /-- The path holds a zero character. -/
  | badName
  /-- The contents are not text. -/
  | notText
  | diskFull
  deriving DecidableEq, Repr

/-- What the program says about a failed file operation. -/
def FileError.message : FileError → String
  | .notFound => "No such file or directory (os error 2)"
  | .alreadyExists => "File exists (os error 17)"
  | .notADirectory => "Not a directory (os error 20)"
  | .isADirectory => "Is a directory (os error 21)"
  | .badName => "file name contained an unexpected NUL byte"
  | .notText => "stream did not contain valid UTF-8"
  | .diskFull => "No space left on device (os error 28)"

/-- The entries by location, with the directory in which relative paths start. The root is a
directory and is not listed. -/
structure FileSystem where
  entries : List (Location × Entry) := []
  workingDirectory : Location := []
  /-- Further names of files and directories. A link is a location that stands for another one, which
  is not a link. -/
  links : List (Location × Location) := []
  /-- How many bytes the disk takes of the writes to come, one number for each. It takes all of those
  that have none. -/
  shortages : List (Option Nat) := []
  deriving DecidableEq, Repr

/-- A change of files that was not completed: why, and the files as it has left them. -/
structure Setback (ε : Type) where
  cause : ε
  files : FileSystem
  deriving DecidableEq, Repr

/-- Tells the cause in other words. -/
def Setback.map {ε ε' : Type} (f : ε → ε') (setback : Setback ε) : Setback ε' :=
  ⟨f setback.cause, setback.files⟩

namespace FileSystem

/-- The location that a location stands for, under which its entry is listed. -/
def home (fs : FileSystem) (location : Location) : Location :=
  if location = [] then [] else (fs.links.lookup location).getD location

/-- The entry at a location. -/
def get? (fs : FileSystem) (location : Location) : Option Entry :=
  if fs.home location = [] then some .directory else fs.entries.lookup (fs.home location)

/-- Lists an entry under a location, in place of what is listed there. -/
def put (fs : FileSystem) (location : Location) (entry : Entry) : FileSystem :=
  { fs with
    entries :=
      if fs.entries.any (·.1 == location) then
        fs.entries.map fun old => if old.1 == location then (location, entry) else old
      else fs.entries ++ [(location, entry)] }

/-- Follows the pieces between the slashes of a path. Each piece needs a directory to stand in;
the location of the last one need not exist. -/
def follow (fs : FileSystem) (location : Location) : List Text → Except FileError Location
  | [] => .ok location
  | piece :: pieces =>
    match fs.get? location with
    | none => .error .notFound
    | some (.file _) => .error .notADirectory
    | some .directory =>
      let here := fs.home location
      if piece = [] || piece = ['.'] then fs.follow here pieces
      else if piece = ['.', '.'] then fs.follow here.dropLast pieces
      else fs.follow (here ++ [piece]) pieces

/-- The location that a path leads to. A link at its end is not followed. -/
def locate (fs : FileSystem) (path : Path) : Except FileError Location :=
  if path.text.contains '\x00' then .error .badName
  else if path.text.isEmpty then .error .notFound
  else
    let start := if path.isAbsolute then [] else fs.workingDirectory
    fs.follow start (Path.splitSlashes path.text)

/-- The entry that a path leads to. -/
def lookup (fs : FileSystem) (path : Path) : Except FileError Entry := do
  match fs.get? (← fs.locate path) with
  | some entry => return entry
  | none => .error .notFound

/-- Whether a path leads to a file. -/
def isFile (fs : FileSystem) (path : Path) : Bool :=
  match fs.lookup path with
  | .ok (.file _) => true
  | _ => false

/-- Whether a path leads to a directory. -/
def isDirectory (fs : FileSystem) (path : Path) : Bool :=
  match fs.lookup path with
  | .ok .directory => true
  | _ => false

/-- Whether a path leads to anything. -/
def pathExists (fs : FileSystem) (path : Path) : Bool := (fs.lookup path).toBool

/-- The contents of a file. -/
def read (fs : FileSystem) (path : Path) : Except FileError Bytes := do
  match ← fs.lookup path with
  | .file content => return content
  | .directory => .error .isADirectory

/-- The contents of a file that holds text. -/
def readText (fs : FileSystem) (path : Path) : Except FileError Text := do
  match Utf8.decode? (← fs.read path) with
  | some text => return text
  | none => .error .notText

/-- Empties the file that is listed under a location, or makes one there, and writes to it what the
disk takes. -/
def fill (fs : FileSystem) (location : Location) (content : Bytes) :
    Except (Setback FileError) FileSystem :=
  let room := (fs.shortages.headD none).getD content.length
  let later := { fs with shortages := fs.shortages.tail }
  let filled := later.put location (.file (content.take room))
  if content.length ≤ room then .ok filled else .error ⟨.diskFull, filled⟩

/-- Writes the file that a location is a name of. -/
def writeAt (fs : FileSystem) (location : Location) (content : Bytes) :
    Except (Setback FileError) FileSystem :=
  match fs.get? location with
  | some .directory => .error ⟨.isADirectory, fs⟩
  | _ =>
    match fs.get? (fs.home location).dropLast with
    | some .directory => fs.fill (fs.home location) content
    | some (.file _) => .error ⟨.notADirectory, fs⟩
    | none => .error ⟨.notFound, fs⟩

/-- Writes a file, in place of one that is there. -/
def write (fs : FileSystem) (path : Path) (content : Bytes) :
    Except (Setback FileError) FileSystem := do
  let location ← (fs.locate path).mapError (⟨·, fs⟩)
  fs.writeAt location content

/-- Makes one directory, where nothing is yet, not even a link that leads nowhere. -/
def createDirectory (fs : FileSystem) (path : Path) : Except FileError FileSystem := do
  let location ← fs.locate path
  match fs.links.lookup location, fs.get? location with
  | none, none =>
    match fs.get? location.dropLast with
    | some .directory => return fs.put location .directory
    | some (.file _) => .error .notADirectory
    | none => .error .notFound
  | _, _ => .error .alreadyExists

/-- Makes one directory, unless it is there. -/
def ensureDirectory (fs : FileSystem) (path : Path) : Except FileError FileSystem :=
  match fs.createDirectory path with
  | .ok fs => .ok fs
  | .error e => if fs.isDirectory path then .ok fs else .error e

/-- Makes the first of the paths a directory. The others are the ancestors of the first, nearest
ones first; those that are missing are made before it, and stay even if it cannot be made. The empty
path needs nothing. -/
def createAll (fs : FileSystem) : List Path → Except (Setback FileError) FileSystem
  | [] => .error ⟨.notFound, fs⟩
  | path :: ancestors =>
    if path.text.isEmpty then .ok fs
    else match fs.createDirectory path with
      | .ok fs => .ok fs
      | .error .notFound => do
        let above ← fs.createAll ancestors
        (above.ensureDirectory path).mapError (⟨·, above⟩)
      | .error e => if fs.isDirectory path then .ok fs else .error ⟨e, fs⟩

/-- Makes a directory and all that is missing above it. -/
def createDirectories (fs : FileSystem) (path : Path) : Except (Setback FileError) FileSystem :=
  fs.createAll path.ancestors

/-- The locations that are listed, with those of links. -/
def locations (fs : FileSystem) : List Location := fs.entries.map Prod.fst ++ fs.links.map Prod.fst

/-- The names in a directory, in order. -/
def names (fs : FileSystem) (directory : Location) : List Text :=
  ((fs.locations.filter fun location => location != [] && location.dropLast == directory).filterMap
    List.getLast?).mergeSort Text.precedes

/-- Whether one location comes before another when a directory comes before what it holds and
names are in order. -/
def locationPrecedes : Location → Location → Bool
  | [], _ => true
  | _ :: _, [] => false
  | a :: s, b :: t => if a == b then locationPrecedes s t else a.precedes b

/-- The locations below a directory, relative to it: each directory in front of what it holds, and
names in order. -/
def below (fs : FileSystem) (directory : Location) : List Location :=
  (fs.locations.filterMap fun location =>
      if directory.isPrefixOf location && directory.length < location.length then
        some (location.drop directory.length)
      else none).mergeSort locationPrecedes

end FileSystem

end Weave
