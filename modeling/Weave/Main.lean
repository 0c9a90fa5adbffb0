import Weave.Program

/-!
The command. It gathers the files that a command line can reach, runs the program on them, and
writes out what the program leaves.
-/

namespace Weave.Command

/-- The location that the pieces of a path lead to from a directory, up to the first piece that
has a wildcard. -/
def fixedLocation (start : Location) : List Text → Location
  | [] => start
  | piece :: pieces =>
    if piece.any (· ∈ ['*', '?', '[']) then start
    else if piece = [] || piece = ['.'] then fixedLocation start pieces
    else if piece = ['.', '.'] then fixedLocation start.dropLast pieces
    else fixedLocation (start ++ [piece]) pieces

/-- The location that a path leads to. -/
def locationOf (working : Location) (path : Path) : Location :=
  fixedLocation (if path.isAbsolute then [] else working) (Path.splitSlashes path.text)

/-- The location that a location on disk stands for, which is another one if there are links on the
way to it. -/
def homeOf (location : Location) : IO Location := do
  try
    let path ← IO.FS.realPath (Ignore.absolutePath location).toString
    return (Path.splitSlashes path.toString.toList).filter (· ≠ [])
  catch _ => return location

/-- Adds a link. -/
def addLink (files : FileSystem) (location home : Location) : FileSystem :=
  { files with links := files.links ++ [(location, home)] }

/-- Adds the directories on the way to a location, and what links on the way stand for. -/
partial def addDirectories (files : FileSystem) (location : Location) : IO FileSystem := do
  let mut files := files
  for up in (Ignore.properFronts location).filter (· ≠ []) do
    let home ← homeOf up
    if home = up then files := files.put up .directory
    else if (files.links.lookup up).isNone then
      files := (← addDirectories (addLink files up home) home).put home .directory
  return files

/-- Adds what is at a location on disk, with all that it holds. What cannot be read is left out. -/
partial def addTree (files : FileSystem) (location : Location) : IO FileSystem := do
  let path := (Ignore.absolutePath location).toString
  let here := (← IO.currentDir) / path
  let home ← homeOf location
  try
    if home ≠ location then
      if (files.links.lookup location).isSome then return files
      else addTree (← addDirectories (addLink files location home) home) home
    else if ← here.isDir then
      let mut files := files.put location .directory
      for entry in ← here.readDir do
        files ← addTree files (location ++ [entry.fileName.toList])
      return files
    else
      let content ← IO.FS.readBinFile path
      return files.put location (.file content.toList)
  catch _ => return files

/-- Adds the directories on the way to a location, with the settings and ignore files in them. -/
def addAncestors (files : FileSystem) (location : Location) : IO FileSystem := do
  let mut files ← addDirectories files location
  for up in Ignore.properFronts location do
    for name in Settings.projectFileName.text :: Ignore.fileNames do
      let inner := Path.splitSlashes name
      for front in (Ignore.properFronts inner).reverse do
        let directory := (← IO.currentDir) / (Ignore.absolutePath (up ++ front)).toString
        if !front.isEmpty && (← directory.isDir) then
          files := files.put (up ++ front) .directory
      let file := (← IO.currentDir) / (Ignore.absolutePath (up ++ inner)).toString
      if (← file.pathExists) && !(← file.isDir) then
        files ← addTree files (up ++ inner)
  return files

/-- Everything on standard input. -/
partial def readAll (input : IO.FS.Stream) (read : ByteArray) : IO ByteArray := do
  let chunk ← input.read 65536
  if chunk.isEmpty then return read else readAll input (read ++ chunk)

/-- The files that a command line can reach. -/
def gather (working : Location) (configHome : Option Path) (arguments : CommandLine.Arguments) :
    IO FileSystem := do
  let userFiles := configHome.toList.flatMap fun home =>
    [home.join (.ofString "literate/config.toml"), home.join (.ofString "git/ignore")]
  let named := arguments.config.toList ++ arguments.outDir.toList
  let sources := if arguments.readsStdin then [] else arguments.paths
  let paths := userFiles ++ (named ++ sources).map Path.mk ++ [Settings.projectFileName]
  let mut files : FileSystem := { workingDirectory := working }
  for location in paths.map (locationOf working) do
    files ← addAncestors files location
    files ← addTree files location
  return files

/-- Writes to disk what is new or changed. -/
def store (before after : FileSystem) : IO Unit := do
  for (location, entry) in after.entries do
    if before.get? location != some entry then
      let path := (Ignore.absolutePath location).toString
      match entry with
      | .directory => IO.FS.createDirAll path
      | .file content => IO.FS.writeBinFile path ⟨content.toArray⟩

/-- The directory of the user's settings. -/
def configHome? : IO (Option Path) := do
  let absolute (value : Option String) : Option Path :=
    (value.map Path.ofString).filter Path.isAbsolute
  match absolute (← IO.getEnv "XDG_CONFIG_HOME") with
  | some home => return some home
  | none => return (absolute (← IO.getEnv "HOME")).map (·.join (.ofString ".config"))

end Weave.Command

open Weave in
/-- Runs the program on the files there are, and puts its results where they belong. -/
def main (args : List String) : IO UInt32 := do
  let args := args.map String.toList
  let here ← IO.currentDir
  let working := Command.locationOf [] (.ofString here.toString)
  let configHome ← Command.configHome?
  let arguments := (CommandLine.parse args).toOption.getD {}
  let readsStdin := (CommandLine.parse args).toBool && arguments.readsStdin
  let files ← Command.gather working configHome arguments
  let stdin ← if readsStdin then Command.readAll (← IO.getStdin) .empty else pure .empty
  let outcome := Program.run { files, configHome, stdin := stdin.toList } args
  Command.store files outcome.files
  (← IO.getStdout).write ⟨(Utf8.encode outcome.stdout).toArray⟩
  (← IO.getStderr).write ⟨(Utf8.encode outcome.stderr).toArray⟩
  return outcome.exitCode.toUInt32
