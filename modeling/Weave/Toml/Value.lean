import Weave.Text.Basic

/-!
Values of a TOML document, and what may be wrong with one. Tables and arrays remember how they
were written, because that decides whether later lines may still add to them.
-/

namespace Weave.Toml

/-- How a table came to be. -/
inductive TableForm where
  /-- Written as a value, between braces; it cannot be added to. -/
  | inline
  /-- Defined by a header of its own. -/
  | header
  /-- Named on the way to a deeper header only. -/
  | implied
  /-- Made by a dotted key. -/
  | dotted
  deriving DecidableEq, Repr

/-- A value. Numbers and dates are kept as written, since nothing here computes with them. -/
inductive Value where
  | string (text : Text)
  | integer (literal : Text)
  | float (literal : Text)
  | boolean (value : Bool)
  | datetime (literal : Text)
  /-- An array; `ofHeaders` says that double-bracket headers built it. -/
  | array (ofHeaders : Bool) (items : List Value)
  | table (form : TableForm) (entries : List (Text × Value))

/-- The entries of a table, in the order in which their keys first appear. -/
abbrev Entries := List (Text × Value)

/-- Why a text is not a TOML document. -/
inductive Error where
  | expectedKey
  | expectedEquals
  | expectedValue
  | expectedLineEnd
  | unclosedHeader
  | unclosedString
  | unclosedArray
  | unclosedTable
  | invalidEscape
  | invalidCharacter
  | invalidScalar
  | outOfRange
  | nestedTooDeep
  | duplicateKey (key : Text)
  deriving DecidableEq, Repr

/-- What is wrong with a document, in words. -/
def Error.message : Error → String
  | .expectedKey => "expected a key"
  | .expectedEquals => "expected an equals sign after a key"
  | .expectedValue => "expected a value"
  | .expectedLineEnd => "expected the end of the line"
  | .unclosedHeader => "a table header is not closed"
  | .unclosedString => "a string is not closed"
  | .unclosedArray => "an array is not closed"
  | .unclosedTable => "an inline table is not closed"
  | .invalidEscape => "a string holds an invalid escape"
  | .invalidCharacter => "a control character stands where none is allowed"
  | .invalidScalar => "a value is neither a string nor a number, a date or a boolean"
  | .outOfRange => "a number is out of range"
  | .nestedTooDeep => "values are nested too deeply"
  | .duplicateKey key => s!"the key {String.ofList key} is defined twice"

/-- The value that a key has. -/
def Entries.get? (entries : Entries) (key : Text) : Option Value := entries.lookup key

/-- Gives a key a value, in its place if the key is there already. -/
def Entries.set (entries : Entries) (key : Text) (value : Value) : Entries :=
  if entries.any (·.1 == key) then
    entries.map fun entry => if entry.1 == key then (key, value) else entry
  else entries ++ [(key, value)]

end Weave.Toml
