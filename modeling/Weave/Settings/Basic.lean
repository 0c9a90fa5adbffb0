import Weave.Conversion.Basic
import Weave.Text.Quoted

/-!
Settings in layers. A layer sets some of the fields; of two layers the upper one wins wherever it
sets a field, and what no layer sets has a default. A layer read from a file must satisfy the
rules that `validate` checks.
-/

namespace Weave

/-- One layer of settings. -/
structure Settings where
  /-- The language named on each fence. -/
  fenceLang : Option Text := none
  unterminated : Option UnterminatedPolicy := none
  /-- Extensions, without the dot, of the files to convert. -/
  extensions : Option (List Text) := none
  /-- Whether ignore files hold when directories are walked. -/
  respectGitignore : Option Bool := none
  deriving DecidableEq, Repr

/-- Settings with every default filled in. -/
structure ResolvedSettings where
  fenceLang : Text
  unterminated : UnterminatedPolicy
  extensions : List Text
  respectGitignore : Bool
  deriving DecidableEq, Repr

/-- What the settings say about the conversion of one text. -/
def ResolvedSettings.conversion (settings : ResolvedSettings) : ConversionOptions :=
  { fenceLang := settings.fenceLang, unterminated := settings.unterminated }

/-- Why a text gives no layer of settings. -/
inductive SettingsError where
  /-- The text cannot be read, for the reason given. -/
  | malformed (reason : String)
  | badFenceLang
  | badExtension (extension : Text)
  deriving DecidableEq, Repr

/-- What the program says about a text that gives no layer. -/
def SettingsError.message : SettingsError → String
  | .malformed reason => s!"Invalid TOML configuration: {reason}"
  | .badFenceLang => "fence_lang must not contain backticks or line breaks"
  | .badExtension extension =>
    let shown := String.ofList extension.quoted
    s!"Invalid extension {shown}: give extensions without a leading dot"

namespace Settings

/-- Lays `upper` over `lower`. -/
def overlay (lower upper : Settings) : Settings where
  fenceLang := upper.fenceLang.or lower.fenceLang
  unterminated := upper.unterminated.or lower.unterminated
  extensions := upper.extensions.or lower.extensions
  respectGitignore := upper.respectGitignore.or lower.respectGitignore

/-- The extensions of the files that are converted unless a layer says otherwise. -/
def defaultExtensions : List Text :=
  ["ts", "tsx", "mts", "cts", "js", "jsx", "mjs", "cjs"].map String.toList

/-- Fills in the defaults. -/
def resolve (settings : Settings) : ResolvedSettings where
  fenceLang := settings.fenceLang.getD "typescript".toList
  unterminated := settings.unterminated.getD .fail
  extensions := settings.extensions.getD defaultExtensions
  respectGitignore := settings.respectGitignore.getD true

/-- Whether a language can stand behind a fence: it has no backtick and no line break. -/
def isFenceLang (lang : Text) : Bool := lang.all fun c => c != '`' && c != '\n' && c != '\r'

/-- Whether a text is an extension: it is not empty and has no dot. -/
def isExtension (extension : Text) : Bool := !extension.isEmpty && extension.all (· != '.')

/-- Checks the language, and then the extensions in order. -/
def validate (settings : Settings) : Except SettingsError Unit :=
  if !settings.fenceLang.all isFenceLang then .error .badFenceLang
  else match (settings.extensions.getD []).find? (!isExtension ·) with
    | some extension => .error (.badExtension extension)
    | none => .ok ()

/-- A way to read a layer out of a text, or to say why it cannot be read. -/
abbrev Reader := Text → Except String Settings

/-- The valid layer that a text gives. -/
def parse (read : Reader) (content : Text) : Except SettingsError Settings := do
  let settings ← (read content).mapError .malformed
  settings.validate
  return settings

end Settings

end Weave
