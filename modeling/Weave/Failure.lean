import Weave.Settings.Load

/-!
What stops the program, or the conversion of one file, and what it says then.
-/

namespace Weave

/-- Why something was not done. -/
inductive Failure where
  | conversion (cause : ConversionError)
  | settings (cause : Settings.LoadError)
  | readSource (path : Path) (cause : FileError)
  | convertSource (path : Path) (cause : ConversionError)
  | createDirectory (path : Path) (cause : FileError)
  | writeDocument (path : Path) (cause : FileError)
  | standardOutput (cause : Fault)
  deriving DecidableEq, Repr

/-- What the program says about a failure: what was not done, and then why. -/
def Failure.message : Failure → String
  | .conversion cause => cause.message
  | .settings cause => cause.message
  | .readSource path cause => s!"Failed to read file: {path.toString}: {cause.message}"
  | .convertSource path cause => s!"Failed to convert file: {path.toString}: {cause.message}"
  | .createDirectory path cause => s!"Failed to create directory: {path.toString}: {cause.message}"
  | .writeDocument path cause => s!"Failed to write file: {path.toString}: {cause.message}"
  | .standardOutput cause => s!"Failed to write to stdout: {cause.message}"

end Weave
