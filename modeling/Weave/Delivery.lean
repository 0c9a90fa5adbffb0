import Weave.Failure

/-!
Converted files, and where their documents go: to an output, with an empty line between documents,
or into a directory, under the names of their sources.
-/

namespace Weave

/-- A file with the document made of it. -/
structure ConvertedFile extends Conversion where
  path : Path
  deriving DecidableEq, Repr

/-- Reads and converts a file. -/
def convertFile (fs : FileSystem) (options : ConversionOptions) (path : Path) :
    Except Failure ConvertedFile := do
  let source ← (fs.readText path).mapError (.readSource path)
  let conversion ← (convert source options).mapError (.convertSource path)
  return { conversion with path }

/-- Where documents go, and what has been delivered. -/
structure Delivery (ω : Type) where
  /-- The directory that documents are written to, instead of the output. -/
  outDir : Option Path := none
  /-- The directory that absolute paths of sources are taken relative to. -/
  baseDir : Path
  /-- Whether every document is reported. -/
  verbose : Bool := false
  files : FileSystem
  output : ω
  /-- The number of documents delivered. -/
  delivered : Nat := 0
  notices : List Text := []

namespace Delivery

/-- The name of the document of a source: the name of the source with the extension `md`. If all
that stands before the extension is a dot, that dot and the one of the extension are left. -/
def documentName (name : Text) : Text :=
  match Path.splitName name with
  | (['.'], some _) => ['.', '.']
  | (stem, _) => stem ++ ".md".toList

/-- The names, from the output directory down, under which the document of a source is written: the
names in the path of the source, which is taken relative to `baseDir` if it is absolute. Where
that leaves nothing, it is the name that the path ends in, and else a fixed name. -/
def documentNames (baseDir source : Path) : List Text :=
  let relative := if source.isAbsolute then Path.stripBase? baseDir source
    else some source.components
  let names := (relative.getD []).filterMap fun component =>
    match component with
    | .normal name => some name
    | _ => none
  if names.isEmpty then [source.fileName?.getD "document".toList] else names

/-- Where the document of a source is written in an output directory. -/
def documentPath (baseDir outDir source : Path) : Path :=
  let names := documentNames baseDir source
  outDir.join (.ofNames (names.dropLast ++ [documentName (names.getLastD [])]))

/-- Makes the directory of a document. -/
def createParent (files : FileSystem) (target : Path) : Except (Setback Failure) FileSystem :=
  match target.parent? with
  | none => .ok files
  | some parent => (files.createDirectories parent).mapError (·.map (.createDirectory parent))

/-- Writes a document to its path, and makes its directory before. -/
def store (files : FileSystem) (target : Path) (document : Text) :
    Except (Setback Failure) FileSystem := do
  let made ← createParent files target
  (made.write target (Utf8.encode document)).mapError (·.map (.writeDocument target))

variable {ω : Type}

/-- Adds a notice. -/
def note (d : Delivery ω) (notice : String) : Delivery ω :=
  { d with notices := d.notices ++ [notice.toList] }

/-- Writes a document into the output directory. -/
def toDirectory (d : Delivery ω) (outDir : Path) (file : ConvertedFile) :
    Delivery ω × Except Failure Unit :=
  let target := documentPath d.baseDir outDir file.path
  match store d.files target file.document with
  | .error setback => ({ d with files := setback.files }, .error setback.cause)
  | .ok files =>
    let d := { d with files, delivered := d.delivered + 1 }
    (if d.verbose then
        d.note s!"✓ {file.path.toString} -> {target.toString} ({file.blocks} block(s))"
      else d, .ok ())

variable [Output ω]

/-- Writes a text to the output. -/
def write (d : Delivery ω) (text : Text) : Delivery ω × Except Failure Unit :=
  match Output.write d.output text with
  | (output, .ok ()) => ({ d with output }, .ok ())
  | (output, .error fault) => ({ d with output }, .error (.standardOutput fault))

/-- Writes a document to the output, behind an empty line if it is not the first. -/
def toOutput (d : Delivery ω) (file : ConvertedFile) : Delivery ω × Except Failure Unit :=
  let separator : Text := if 0 < d.delivered then ['\n'] else []
  match d.write (separator ++ file.document) with
  | (d, .error e) => (d, .error e)
  | (d, .ok ()) =>
    let d := { d with delivered := d.delivered + 1 }
    (if d.verbose then d.note s!"✓ {file.path.toString} ({file.blocks} block(s))" else d, .ok ())

/-- Delivers a document. -/
def deliver (d : Delivery ω) (file : ConvertedFile) : Delivery ω × Except Failure Unit :=
  match d.outDir with
  | some outDir => d.toDirectory outDir file
  | none => d.toOutput file

end Delivery

end Weave
