import Weave.CommandLine.Basic

/-!
What the program says about itself and about a command line that it cannot carry out.
-/

namespace Weave.CommandLine

/-- The name and version of the program. -/
def versionText : String := "literate 0.1.0\n"

/-- The arguments in short, one line each. -/
def shortHelp : String :=
"Turn TypeScript and JavaScript sources into literate Markdown.

Usage: literate [OPTIONS] [PATHS]...

Arguments:
  [PATHS]...  Files, directories or glob patterns to convert

Options:
  -o, --out-dir <DIR>      Write each document to DIR, mirroring the input layout, instead of stdout
      --fence-lang <LANG>  Info string written after each opening code fence
      --lenient            Keep an unterminated template literal as code and warn instead of failing
  -c, --config <FILE>      Configuration file applied on top of discovered ones
      --no-gitignore       Disable .gitignore file processing
  -j, --threads <THREADS>  Number of worker threads (0 = one per CPU) [default: 0]
  -v, --verbose            Report progress on stderr
  -h, --help               Print help (see more with '--help')
  -V, --version            Print version
"

/-- The arguments in full. -/
def fullHelp : String :=
"Turn TypeScript and JavaScript sources into literate Markdown.

Block comments become prose paragraphs and the code between them becomes fenced code blocks. With no paths (or `-`) the source is read from stdin and the document is written to stdout.

Usage: literate [OPTIONS] [PATHS]...

Arguments:
  [PATHS]...
          Files, directories or glob patterns to convert

Options:
  -o, --out-dir <DIR>
          Write each document to DIR, mirroring the input layout, instead of stdout

      --fence-lang <LANG>
          Info string written after each opening code fence

      --lenient
          Keep an unterminated template literal as code and warn instead of failing

  -c, --config <FILE>
          Configuration file applied on top of discovered ones

      --no-gitignore
          Disable .gitignore file processing

  -j, --threads <THREADS>
          Number of worker threads (0 = one per CPU)
          
          [default: 0]

  -v, --verbose
          Report progress on stderr

  -h, --help
          Print help (see a summary with '-h')

  -V, --version
          Print version
"

/-- What the program says instead of carrying out a command line. -/
def Error.message : Error → String
  | .unknownArgument argument => s!"error: unexpected argument '{String.ofList argument}' found\n"
  | .missingValue => "error: a value is required for an option but none was supplied\n"
  | .invalidNumber => "error: invalid value for '--threads <THREADS>'\n"
  | .repeated => "error: an argument cannot be used multiple times\n"
  | .unexpectedValue => "error: a value was given to an option that takes none\n"
  | .help true => fullHelp
  | .help false => shortHelp
  | .version => versionText

/-- The exit code for a command line that is not carried out. -/
def Error.exitCode : Error → Nat
  | .help _ | .version => 0
  | _ => 2

end Weave.CommandLine
