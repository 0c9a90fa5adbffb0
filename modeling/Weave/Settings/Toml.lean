import Weave.Settings.Basic
import Weave.Toml.Document

/-!
Reading a layer of settings out of a TOML document. Keys of the root table that name no setting
are passed over; a setting whose value is of the wrong type makes the document unfit.
-/

namespace Weave.Settings

open Toml (Value Entries)

/-- The text of a string value. -/
def textOf? : Value → Option Text
  | .string text => some text
  | _ => none

/-- The policy that a name stands for. -/
def policyNamed? (name : Text) : Option UnterminatedPolicy :=
  if name = "error".toList then some .fail
  else if name = "truncate".toList then some .truncate
  else none

/-- A policy is written as its name, or as a table whose one key is its name and has nothing for a
value. -/
def policyOf? : Value → Option UnterminatedPolicy
  | .string name => policyNamed? name
  | .table _ [(name, .table _ [])] => policyNamed? name
  | .table _ [(name, .array _ [])] => policyNamed? name
  | _ => none

/-- A list of texts. -/
def textsOf? : Value → Option (List Text)
  | .array _ items => items.mapM textOf?
  | _ => none

/-- A truth value. -/
def boolOf? : Value → Option Bool
  | .boolean value => some value
  | _ => none

/-- The setting under a key, if the key is there; its value must be one that `read` takes. -/
def field {α : Type} (entries : Entries) (key : String) (read : Value → Option α) :
    Except String (Option α) :=
  match entries.get? key.toList with
  | none => .ok none
  | some value =>
    match read value with
    | some setting => .ok (some setting)
    | none => .error s!"the value of {key} has the wrong type"

/-- Reads a layer of settings out of a TOML document. -/
def ofToml : Reader := fun content => do
  let entries ← (Toml.parse content).mapError Toml.Error.message
  return {
    fenceLang := ← field entries "fence_lang" textOf?
    unterminated := ← field entries "unterminated" policyOf?
    extensions := ← field entries "extensions" textsOf?
    respectGitignore := ← field entries "respect_gitignore" boolOf? }

end Weave.Settings
