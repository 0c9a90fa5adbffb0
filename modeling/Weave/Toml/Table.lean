import Weave.Toml.Value

/-!
Building the tables of a TOML document. A key may be given one value, and a table may be opened
by one header; a table made by dotted keys takes further dotted keys only, and a value written in
one piece takes nothing more.
-/

namespace Weave.Toml.Entries

/-- Applies `change` to the entries of the last table of an array that headers built. -/
def inLastItem (items : List Value) (key : Text)
    (change : TableForm → Entries → Except Error Entries) : Except Error (List Value) :=
  match items.getLast? with
  | some (.table form entries) => do
    return items.dropLast ++ [.table form (← change form entries)]
  | _ => .error (.duplicateKey key)

/-- Gives a new key a value. -/
def insertNew (key : Text) (value : Value) (entries : Entries) : Except Error Entries :=
  if (entries.get? key).isSome then .error (.duplicateKey key)
  else .ok (entries.set key value)

/-- Gives a new key a value in the table that the dotted `path` leads to from a table of the
given form. Tables that are missing on the way are made; the last one must be of dotted form. -/
def insertUnder (key : Text) (value : Value) :
    (path : List Text) → TableForm → Entries → Except Error Entries
  | [], form, entries =>
    if form = .dotted then insertNew key value entries else .error (.duplicateKey key)
  | step :: path, _, entries =>
    match entries.get? step with
    | none => do return entries.set step (.table .dotted (← insertUnder key value path .dotted []))
    | some (.table form inner) =>
      if form = .implied || form = .dotted then do
        return entries.set step (.table form (← insertUnder key value path form inner))
      else .error (.duplicateKey step)
    | some (.array true items) => do
      return entries.set step (.array true (← inLastItem items step (insertUnder key value path)))
    | some _ => .error (.duplicateKey step)

/-- Gives the key that a dotted path ends in a value. -/
def insert (path : List Text) (value : Value) (entries : Entries) : Except Error Entries :=
  match path.dropLast, path.getLast? with
  | [], some key => insertNew key value entries
  | front, some key => insertUnder key value front .header entries
  | _, none => .error .expectedKey

/-- Follows the path of a header to the table that its last key stands in, and applies `change`
to that key there. Tables that are missing on the way are implied. -/
def atHeader (change : Text → Entries → Except Error Entries) :
    List Text → Entries → Except Error Entries
  | [], _ => .error .expectedKey
  | [key], entries => change key entries
  | step :: path, entries =>
    match entries.get? step with
    | none => do return entries.set step (.table .implied (← atHeader change path []))
    | some (.table .inline _) => .error (.duplicateKey step)
    | some (.table form inner) => do
      return entries.set step (.table form (← atHeader change path inner))
    | some (.array true items) => do
      return entries.set step
        (.array true (← inLastItem items step fun _ => atHeader change path))
    | some _ => .error (.duplicateKey step)

/-- Opens the table of a header. An implied table becomes a defined one; no other table that is
there may be opened. -/
def openTable : List Text → Entries → Except Error Entries :=
  atHeader fun key entries =>
    match entries.get? key with
    | none => .ok (entries.set key (.table .header []))
    | some (.table .implied inner) => .ok (entries.set key (.table .header inner))
    | some _ => .error (.duplicateKey key)

/-- Adds a table to the array of a double-bracket header. -/
def openItem : List Text → Entries → Except Error Entries :=
  atHeader fun key entries =>
    match entries.get? key with
    | none => .ok (entries.set key (.array true [.table .header []]))
    | some (.array true items) =>
      .ok (entries.set key (.array true (items ++ [.table .header []])))
    | some _ => .error (.duplicateKey key)

/-- Applies `change` to the entries of the table that the header `path` has opened. -/
def inTable (change : Entries → Except Error Entries) :
    List Text → Entries → Except Error Entries
  | [], entries => change entries
  | step :: path, entries =>
    match entries.get? step with
    | some (.table form inner) => do
      return entries.set step (.table form (← inTable change path inner))
    | some (.array true items) => do
      return entries.set step (.array true (← inLastItem items step fun _ => inTable change path))
    | _ => .error (.duplicateKey step)

end Weave.Toml.Entries
