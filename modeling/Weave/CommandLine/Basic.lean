import Weave.Settings.Basic

/-!
The command line: paths and options, in any order. An option takes its value from the same
argument, behind an equals sign or (for one-letter options) directly, or from the next argument;
behind `--` everything is a path.
-/

namespace Weave.CommandLine

/-- What the command line asks for. -/
structure Arguments where
  /-- Files, directories and patterns, in the order given. -/
  paths : List Text := []
  /-- The directory to write documents to, instead of standard output. -/
  outDir : Option Text := none
  fenceLang : Option Text := none
  /-- Whether a template that does not end is kept as code. -/
  lenient : Bool := false
  /-- A settings file on top of those that are found. -/
  config : Option Text := none
  noGitignore : Bool := false
  /-- The number of workers; zero leaves it to the program. -/
  threads : Nat := 0
  verbose : Bool := false
  deriving DecidableEq, Repr

/-- Whether the source comes from standard input: no path is given, or `-` alone. -/
def Arguments.readsStdin (arguments : Arguments) : Bool :=
  arguments.paths == [] || arguments.paths == [['-']]

/-- The layer of settings that the command line makes up. -/
def Arguments.settings (arguments : Arguments) : Settings where
  fenceLang := arguments.fenceLang
  unterminated := if arguments.lenient then some .truncate else none
  respectGitignore := if arguments.noGitignore then some false else none

/-- Why a command line is not carried out. -/
inductive Error where
  | unknownArgument (argument : Text)
  /-- An option has no value, or an empty one where a path is needed. -/
  | missingValue
  | invalidNumber
  /-- An option or a switch is given twice. -/
  | repeated
  /-- A switch is given a value. -/
  | unexpectedValue
  /-- Help is asked for, in full or in short. -/
  | help (full : Bool)
  | version
  deriving DecidableEq, Repr

/-- Options that take a value. -/
inductive ValueOption where
  | outDir
  | fenceLang
  | config
  | threads
  deriving DecidableEq, Repr

/-- Options that take no value. -/
inductive Switch where
  | lenient
  | noGitignore
  | verbose
  | help
  | version
  deriving DecidableEq, Repr

/-- What an option's name stands for. -/
inductive Meaning where
  | value (option : ValueOption)
  | switch (switch : Switch)
  deriving DecidableEq, Repr

/-- The option with a long name. -/
def ofLongName (name : Text) : Option Meaning :=
  [("out-dir", Meaning.value .outDir), ("fence-lang", .value .fenceLang),
    ("config", .value .config), ("threads", .value .threads), ("lenient", .switch .lenient),
    ("no-gitignore", .switch .noGitignore), ("verbose", .switch .verbose),
    ("help", .switch .help), ("version", .switch .version)].lookup (String.ofList name)

/-- The option with a one-letter name. -/
def ofShortName : Char → Option Meaning
  | 'o' => some (.value .outDir)
  | 'c' => some (.value .config)
  | 'j' => some (.value .threads)
  | 'v' => some (.switch .verbose)
  | 'h' => some (.switch .help)
  | 'V' => some (.switch .version)
  | _ => none

/-- A number of workers: decimal digits, with or without a plus sign, below 2^64. -/
def number? (text : Text) : Option Nat :=
  let digits := match text with
    | '+' :: digits => digits
    | digits => digits
  if digits.isEmpty || !digits.all Char.isDigit then none
  else
    let n := digits.foldl (fun n c => n * 10 + (c.toNat - '0'.toNat)) 0
    if n < Nat.pow 2 64 then some n else none

/-- How far the reading of a command line has come. -/
structure Reading where
  arguments : Arguments := {}
  /-- The options and switches seen so far. -/
  given : List Meaning := []
  /-- An option that has its value, if it has one yet, from an argument of its own. It is looked
  at when the next option or path comes. -/
  pending : Option (ValueOption × Option Text) := none
  deriving DecidableEq, Repr

namespace Reading

/-- Notes that an option or switch is given, for the first time. -/
def note (r : Reading) (meaning : Meaning) : Except Error Reading :=
  if meaning ∈ r.given then .error .repeated
  else .ok { r with given := meaning :: r.given }

/-- Gives an option its value. -/
def assign (r : Reading) (option : ValueOption) (value : Text) : Except Error Reading := do
  let r ← r.note (.value option)
  let a := r.arguments
  match option with
  | .outDir =>
    if value.isEmpty then .error .missingValue
    else return { r with arguments := { a with outDir := some value } }
  | .config =>
    if value.isEmpty then .error .missingValue
    else return { r with arguments := { a with config := some value } }
  | .fenceLang => return { r with arguments := { a with fenceLang := some value } }
  | .threads =>
    match number? value with
    | some n => return { r with arguments := { a with threads := n } }
    | none => .error .invalidNumber

/-- Gives the pending option the value it took. -/
def settle (r : Reading) : Except Error Reading :=
  match r.pending with
  | none => .ok r
  | some (_, none) => .error .missingValue
  | some (option, some value) => { r with pending := none }.assign option value

/-- Carries out a switch. -/
def turnOn (r : Reading) (switch : Switch) (long : Bool) : Except Error Reading := do
  let r ← r.settle
  match switch with
  | .help => .error (.help long)
  | .version => .error .version
  | .lenient =>
    let r ← r.note (.switch switch)
    return { r with arguments := { r.arguments with lenient := true } }
  | .noGitignore =>
    let r ← r.note (.switch switch)
    return { r with arguments := { r.arguments with noGitignore := true } }
  | .verbose =>
    let r ← r.note (.switch switch)
    return { r with arguments := { r.arguments with verbose := true } }

/-- Takes an option, with its value if that stands in the same argument. -/
def takeOption (r : Reading) (option : ValueOption) (attached : Option Text) :
    Except Error Reading := do
  let r ← r.settle
  match attached with
  | some value => r.assign option value
  | none => return { r with pending := some (option, none) }

/-- Adds a path. -/
def addPath (r : Reading) (path : Text) : Except Error Reading := do
  let r ← r.settle
  return { r with arguments := { r.arguments with paths := r.arguments.paths ++ [path] } }

/-- Takes a long option, what stands behind the two hyphens being `text`. -/
def takeLong (r : Reading) (text : Text) : Except Error Reading :=
  let name := text.takeWhile (· != '=')
  let attached : Option Text := match text.drop name.length with
    | [] => none
    | _ :: value => some value
  match ofLongName name with
  | none => .error (.unknownArgument ('-' :: '-' :: name))
  | some (.value option) => r.takeOption option attached
  | some (.switch switch) =>
    if attached.isSome then .error .unexpectedValue else r.turnOn switch true

/-- Takes a cluster of one-letter options. The first that takes a value takes the rest of the
cluster for it, or the next argument if nothing is left. -/
def takeShort (r : Reading) : Text → Except Error Reading
  | [] => .ok r
  | letter :: rest =>
    match ofShortName letter with
    | none => .error (.unknownArgument ['-', letter])
    | some (.switch switch) => do (← r.turnOn switch false).takeShort rest
    | some (.value option) =>
      match rest with
      | [] => r.takeOption option none
      | '=' :: value => r.takeOption option (some value)
      | value => r.takeOption option (some value)

end Reading

/-- Takes one argument in front of any `--`. -/
def Reading.take (r : Reading) (argument : Text) : Except Error Reading :=
  match argument with
  | '-' :: '-' :: text => r.takeLong text
  | '-' :: letter :: rest => r.takeShort (letter :: rest)
  | _ =>
    match r.pending with
    | some (option, none) => .ok { r with pending := some (option, some argument) }
    | _ => r.addPath argument

/-- Takes arguments to the end. -/
def Reading.takeAll (r : Reading) : List Text → Except Error Reading
  | [] => r.settle
  | ['-', '-'] :: paths => do (← paths.foldlM Reading.addPath r).settle
  | argument :: rest => do (← r.take argument).takeAll rest

/-- Reads a command line, without the name of the program. -/
def parse (arguments : List Text) : Except Error Arguments :=
  ((({} : Reading).takeAll arguments).map Reading.arguments)

end Weave.CommandLine
