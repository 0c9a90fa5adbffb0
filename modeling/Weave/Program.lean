import Weave.CommandLine.Help
import Weave.Delivery
import Weave.Selection
import Weave.Settings.Toml

/-!
The program as a function: from a command line, what stands on standard input and the files there
are, to an exit code, what is written to the two outputs and the files there are then.
-/

namespace Weave

/-- What the program finds when it starts. -/
structure Environment where
  files : FileSystem
  /-- The directory of the user's settings, if there is one. -/
  configHome : Option Path := none
  stdin : Bytes := []

/-- What the program leaves when it ends. -/
structure Outcome where
  exitCode : Nat
  stdout : Text := []
  stderr : Text := []
  files : FileSystem

namespace Program

/-- Lines for standard error. -/
def errorLines (lines : List Text) : Text := lines.flatMap (· ++ ['\n'])

/-- Warnings about a source, which `name` stands for. -/
def warnings (name : Text) (diagnostics : List Diagnostic) : List Text :=
  diagnostics.map fun d => "Warning: ".toList ++ name ++ ':' :: d.render.toList

/-- The line about a failure that ends the program. -/
def fatal (failure : Failure) : Text := s!"Error: {failure.message}".toList

/-- Converts what stands on standard input. -/
def runStdin (env : Environment) (options : ConversionOptions) : Outcome :=
  match convert (Utf8.decodeLossy env.stdin) options with
  | .error e =>
    { exitCode := 1, stderr := errorLines [fatal (.conversion e)], files := env.files }
  | .ok conversion =>
    { exitCode := 0
      stdout := conversion.document
      stderr := errorLines (warnings "<stdin>".toList conversion.diagnostics)
      files := env.files }

/-- Delivers the files that could be converted, in order, and counts the others. A failed delivery
ends the run. -/
def deliverAll (d : Delivery Page) (failed : Nat) :
    List (Path × Except Failure ConvertedFile) → Delivery Page × Except Failure Nat
  | [] => (d, .ok failed)
  | (path, .error e) :: rest =>
    deliverAll (d.note s!"Error processing {path.toString}: {e.message}") (failed + 1) rest
  | (path, .ok file) :: rest =>
    let d := { d with notices := d.notices ++ warnings path.text file.diagnostics }
    match d.deliver file with
    | (d, .error e) => (d, .error e)
    | (d, .ok ()) => deliverAll d failed rest

/-- Converts the files and delivers their documents. -/
def runFiles (fs : FileSystem) (arguments : CommandLine.Arguments) (options : ConversionOptions)
    (paths : List Path) : Outcome :=
  let start : Delivery Page :=
    { outDir := arguments.outDir.map Path.mk
      baseDir := Ignore.absolutePath fs.workingDirectory
      verbose := arguments.verbose
      files := fs
      output := {} }
  let start := if arguments.verbose then start.note s!"Converting {paths.length} file(s)..."
    else start
  let results := paths.map fun path => (path, convertFile fs options path)
  match deliverAll start 0 results with
  | (d, .error e) =>
    { exitCode := 1
      stdout := d.output.text
      stderr := errorLines (d.notices ++ [fatal e])
      files := d.files }
  | (d, .ok failed) =>
    let counts := s!"{paths.length} files processed, {d.delivered} converted, {failed} failed"
    let summary := s!"\nSummary: {counts}"
    let d := if arguments.verbose then d.note summary else d
    { exitCode := if failed = 0 then 0 else 1
      stdout := d.output.text
      stderr := errorLines d.notices
      files := d.files }

/-- The ignore rules of the user. -/
def globalRules (env : Environment) : Ignore.RuleSet :=
  let root := (Ignore.absolutePath env.files.workingDirectory).text
  match env.configHome.map fun home => env.files.read (home.join (.ofString "git/ignore")) with
  | some (.ok content) => { root, rules := Ignore.rules content }
  | _ => {}

/-- Carries out a command line that has been read. -/
def runArguments (read : Settings.Reader) (env : Environment) (arguments : CommandLine.Arguments) :
    Outcome :=
  let fs := env.files
  let start := Ignore.absolutePath fs.workingDirectory
  let userFile := env.configHome.map (·.join (.ofString "literate/config.toml"))
  let (notices, loaded) := Settings.load read fs userFile start (arguments.config.map Path.mk)
  let before := errorLines notices
  match loaded with
  | .error e =>
    { exitCode := 1, stderr := before ++ errorLines [fatal (.settings e)], files := fs }
  | .ok settings =>
    let resolved := (settings.overlay arguments.settings).resolve
    if arguments.readsStdin then
      let outcome := runStdin env resolved.conversion
      { outcome with stderr := before ++ outcome.stderr }
    else
      let filter : FileFilter :=
        { extensions := resolved.extensions, respectGitignore := resolved.respectGitignore }
      let selection := Selection.ofArguments fs filter (globalRules env) arguments.paths
      let before := before ++ errorLines selection.notices
      if selection.files.isEmpty then
        { exitCode := 0
          stderr := before ++
            errorLines ["No files found matching the provided patterns.".toList]
          files := fs }
      else
        let outcome := runFiles fs arguments resolved.conversion selection.files
        { outcome with stderr := before ++ outcome.stderr }

/-- Runs the program. -/
def run (env : Environment) (arguments : List Text) : Outcome :=
  match CommandLine.parse arguments with
  | .ok arguments => runArguments Settings.ofToml env arguments
  | .error e =>
    let text := e.message.toList
    if e.exitCode = 0 then { exitCode := 0, stdout := text, files := env.files }
    else { exitCode := e.exitCode, stderr := text, files := env.files }

end Program

end Weave
