import Weave.Text.Basic

/-!
Paths as they are written, and their components. Repeated slashes, slashes at the end and dots
that are not in front do not count; two dots always do. Cutting a path keeps the rest of it as it
was written.
-/

namespace Weave

/-- A path, as written. -/
structure Path where
  text : Text
  deriving DecidableEq, Repr

namespace Path

/-- One component of a path. -/
inductive Component where
  /-- The slash in front of an absolute path. -/
  | root
  /-- A dot in front of a relative path. -/
  | current
  /-- Two dots. -/
  | parent
  | normal (name : Text)
  deriving DecidableEq, Repr

/-- The path that a string writes. -/
def ofString (s : String) : Path := ⟨s.toList⟩

/-- The path as a string. -/
def toString (path : Path) : String := String.ofList path.text

/-- Whether the path starts at the root. -/
def isAbsolute (path : Path) : Bool := path.text.head? == some '/'

/-- Splits a text at its slashes. -/
def splitSlashes (text : Text) : List Text := text.splitOn '/'

/-- The component that a piece between slashes stands for, if it stands for one. `front` says
that the piece begins a relative path. -/
def componentOf (front : Bool) (piece : Text) : Option Component :=
  if piece = [] then none
  else if piece = ['.'] then if front then some .current else none
  else if piece = ['.', '.'] then some .parent
  else some (.normal piece)

/-- The components of the pieces of a path, each with the number of characters of the path up to
its end. `offset` counts the characters in front of the first piece. -/
def locate (front : Bool) (offset : Nat) : List Text → List (Component × Nat)
  | [] => []
  | piece :: pieces =>
    let stop := offset + piece.length
    let later := locate false (stop + 1) pieces
    match componentOf front piece with
    | some component => (component, stop) :: later
    | none => later

/-- The components of a path, each with where it ends in the text. -/
def located (path : Path) : List (Component × Nat) :=
  match path.text with
  | '/' :: rest => (.root, 1) :: locate false 1 (splitSlashes rest)
  | text => locate true 0 (splitSlashes text)

/-- The components of a path. -/
def components (path : Path) : List Component := path.located.map Prod.fst

/-- The name that a path ends in. There is none when it ends in a root or in dots. -/
def fileName? (path : Path) : Option Text :=
  match path.components.getLast? with
  | some (.normal name) => some name
  | _ => none

/-- The path without its last component. A root has nothing to go up to. -/
def parent? (path : Path) : Option Path :=
  match path.located.reverse with
  | [] => none
  | (.root, _) :: _ => none
  | [_] => some ⟨[]⟩
  | _ :: (_, stop) :: _ => some ⟨path.text.take stop⟩

/-- Puts `inner` behind `path`. An absolute path replaces the one before it. -/
def join (path inner : Path) : Path :=
  if inner.isAbsolute || path.text.isEmpty then inner
  else if path.text.getLast? == some '/' then ⟨path.text ++ inner.text⟩
  else ⟨path.text ++ '/' :: inner.text⟩

/-- The path whose components are `names`. -/
def ofNames (names : List Text) : Path := ⟨['/'].intercalate names⟩

/-- The path, the path without its last component, and so on. As many as there are characters and
one more suffice, since each is shorter than the one before it. -/
def ancestors (path : Path) : List Path :=
  go (path.text.length + 1) path
where
  go : Nat → Path → List Path
    | 0, _ => []
    | fuel + 1, path =>
      path :: (match path.parent? with
        | some parent => go fuel parent
        | none => [])

/-- What is left of the components of a path behind those of `base`, if it begins with them. -/
def stripBase? (base path : Path) : Option (List Component) :=
  if base.components.isPrefixOf path.components then
    some (path.components.drop base.components.length)
  else none

/-- A name cut at its last dot: the stem, and the extension if there is one. A dot in front of a
name begins no extension. -/
def splitName (name : Text) : Text × Option Text :=
  let extension := (name.reverse.takeWhile (· != '.')).reverse
  let stem := name.take (name.length - extension.length - 1)
  if name = ['.', '.'] || extension.length = name.length || stem.isEmpty then (name, none)
  else (stem, some extension)

/-- The extension of the name that a path ends in. -/
def extension? (path : Path) : Option Text := path.fileName?.bind fun name => (splitName name).2

end Path

end Weave
