import Weave.Text.HiddenTable
import Weave.Text.Identifier

/-!
Text quoted for a message: between double quotes, with an escape for each character that would
not be seen.
-/

namespace Weave.Text

/-- Whether a character can be shown as it is. -/
def isShown (c : Char) : Bool :=
  0x20 ≤ c.toNat && !inRanges HiddenTable.ranges c.toNat

/-- A character as it stands inside quotes: quotes and backslashes have a backslash in front,
characters that are not shown have a short escape or their code point in hexadecimal. -/
def quoteChar (c : Char) : Text :=
  match c with
  | '\x00' => ['\\', '0']
  | '\t' => ['\\', 't']
  | '\r' => ['\\', 'r']
  | '\n' => ['\\', 'n']
  | '"' => ['\\', '"']
  | '\\' => ['\\', '\\']
  | c =>
    if isShown c then [c]
    else ['\\', 'u', '{'] ++ Nat.toDigits 16 c.toNat ++ ['}']

/-- A text between double quotes. -/
def quoted (t : Text) : Text := '"' :: t.flatMap quoteChar ++ ['"']

end Weave.Text
