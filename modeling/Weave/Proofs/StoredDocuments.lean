import Weave.Program
import Weave.Proofs.DocumentNames

/-!
Documents in an output directory. Storing a document changes the file at its path and no other, so at
the end of a run the document of a source is there, unless a later source has its document stored in
the same file. A document that cannot be stored ends the run, with as much of it in its file as the
disk took, and the sources behind it leave nothing.
-/

namespace Weave

namespace Delivery

open FileSystem (Keeps KeepsAll KeepsBut SameFile left)

variable {files files' : FileSystem}

/-! ### One document -/

theorem createParent_keeps (files : FileSystem) (target : Path) :
    KeepsAll files (left (createParent files target)) := by
  unfold createParent
  split
  · exact .refl _ _
  · rw [FileSystem.left_mapError]
    exact files.createDirectories_keeps _

/-- Storing a document changes no file but the one at its path, whether it succeeds or not. -/
theorem store_keeps (files : FileSystem) (target : Path) (document : Text) :
    KeepsBut (· = target) files (left (store files target document)) := by
  have prepared := createParent_keeps files target
  unfold store
  cases made : createParent files target with
  | error setback =>
    rw [made] at prepared
    exact prepared.mono fun _ => False.elim
  | ok ready =>
    rw [made] at prepared
    have step : left (.ok ready >>= fun ready =>
          (ready.write target (Utf8.encode document)).mapError (·.map (Failure.writeDocument target))) =
        left (ready.write target (Utf8.encode document)) :=
      FileSystem.left_mapError _ _
    rw [step]
    exact Keeps.trans (prepared.mono fun _ => False.elim) (ready.write_keeps target _)

/-- A document that has been stored is at its path. -/
theorem read_of_store {target : Path} {document : Text}
    (stored : store files target document = .ok files') :
    files'.read target = .ok (Utf8.encode document) := by
  obtain ⟨made, -, wrote⟩ := bind_eq_ok.mp stored
  exact FileSystem.read_of_write (mapError_eq_ok.mp wrote)

/-! ### Documents one after the other -/

section

variable (target : ConvertedFile → Path)

/-- Stores documents in order, up to the first that cannot be stored. -/
def storeAll (files : FileSystem) : List ConvertedFile → Except (Setback Failure) FileSystem
  | [] => .ok files
  | file :: later => do
    let files ← store files (target file) file.document
    storeAll files later

/-- The documents that were delivered are at their paths, except where the path of a later one, or of
one that was tried after them, leads to the same file. -/
def Stores (files : FileSystem) (delivered tried : List ConvertedFile) : Prop :=
  ∀ before file behind, delivered = before ++ file :: behind →
    (∀ later ∈ behind ++ tried, ¬ files.SameFile (target later) (target file)) →
      files.read (target file) = .ok (Utf8.encode file.document)

/-- What storing documents comes to: some are delivered, and if that is not all of them, the first of
the others cannot be stored behind them. -/
structure Delivers (start : FileSystem) (result : Except (Setback Failure) FileSystem)
    (delivered undelivered : List ConvertedFile) : Prop where
  /-- Other files than those of the documents are as they were. -/
  kept : KeepsBut (fun path => ∃ file ∈ delivered ++ undelivered.take 1, path = target file) start
    (left result)
  stored : Stores target (left result) delivered (undelivered.take 1)
  stopped : ∀ file ∈ undelivered.head?, ∃ before setback,
    storeAll target start delivered = .ok before ∧
      store before (target file) file.document = .error setback

variable {target}

/-- A document that is there stays there when documents are stored in other files. -/
theorem Stores.cons {file : ConvertedFile} {behind tried : List ConvertedFile}
    (stored : Stores target files' behind tried)
    (held : files.read (target file) = .ok (Utf8.encode file.document))
    (kept : KeepsBut (fun path => ∃ later ∈ behind ++ tried, path = target later) files files') :
    Stores target files' (file :: behind) tried := by
  intro before chosen after split apart
  rcases List.cons_eq_append_iff.mp split with ⟨rfl, same⟩ | ⟨before', rfl, rest⟩
  · obtain ⟨rfl, rfl⟩ := List.cons.inj same
    refine kept.read held ?_
    rintro _ ⟨later, member, rfl⟩
    exact apart later member
  · exact stored before' chosen after rest apart

variable (target)

/-- Documents are delivered in order, up to the first that cannot be stored. -/
theorem storeAll_delivers (files : FileSystem) (documents : List ConvertedFile) :
    ∃ delivered undelivered, documents = delivered ++ undelivered ∧
      Delivers target files (storeAll target files documents) delivered undelivered := by
  induction documents generalizing files with
  | nil => exact ⟨[], [], rfl, .refl _ _, by simp [Stores], nofun⟩
  | cons file documents ih =>
    have changed := store_keeps files (target file) file.document
    cases first : store files (target file) file.document with
    | error setback =>
      have failed : storeAll target files (file :: documents) = .error setback := by
        rw [storeAll, first]
        rfl
      rw [first] at changed
      refine ⟨[], file :: documents, rfl, ?_, by simp [Stores], ?_⟩
      · rw [failed]
        exact changed.mono fun path here => ⟨file, List.mem_cons_self, here⟩
      · rintro _ ⟨⟩
        exact ⟨files, setback, rfl, first⟩
    | ok after =>
      have step (later : List ConvertedFile) :
          storeAll target files (file :: later) = storeAll target after later := by
        rw [storeAll, first]
        rfl
      rw [first] at changed
      obtain ⟨delivered, undelivered, rfl, run⟩ := ih after
      refine ⟨file :: delivered, undelivered, rfl, ?_, ?_, ?_⟩
      · rw [step]
        refine KeepsBut.trans (changed.mono fun path here => ⟨file, List.mem_cons_self, here⟩) ?_
        refine run.kept.mono fun path => ?_
        rintro ⟨other, member, here⟩
        exact ⟨other, List.mem_cons_of_mem _ member, here⟩
      · rw [step]
        exact run.stored.cons (read_of_store first) run.kept
      · rw [step]
        exact run.stopped

variable {target}

/-- A document that cannot be stored behind others ends the sequence. -/
theorem storeAll_of_refused {delivered : List ConvertedFile} {file : ConvertedFile}
    {before : FileSystem} {setback : Setback Failure}
    (ready : storeAll target files delivered = .ok before)
    (refused : store before (target file) file.document = .error setback)
    (rest : List ConvertedFile) :
    storeAll target files (delivered ++ file :: rest) = .error setback := by
  induction delivered generalizing files with
  | nil =>
    cases ready
    rw [List.nil_append, storeAll, refused]
    rfl
  | cons first delivered ih =>
    rw [storeAll] at ready
    obtain ⟨after, stored, later⟩ := bind_eq_ok.mp ready
    rw [List.cons_append, storeAll, stored]
    exact ih later

end

end Delivery

open FileSystem (left)

open Delivery (documentPath store storeAll Stores)

namespace Program

/-- What a run into a directory does to the files is to store the documents of those that could be
converted. -/
theorem deliverAll_directory {outDir : Path} (results : List (Path × Except Failure ConvertedFile))
    (d : Delivery Page) (failed : Nat) (chosen : d.outDir = some outDir) :
    let stored := storeAll (fun file => documentPath d.baseDir outDir file.path) d.files
      (results.filterMap (·.2.toOption))
    (deliverAll d failed results).1.files = left stored ∧
      ∀ setback, stored = .error setback →
        (deliverAll d failed results).2 = .error setback.cause := by
  induction results generalizing d failed with
  | nil => exact ⟨rfl, nofun⟩
  | cons result results ih =>
    obtain ⟨path, outcome⟩ := result
    cases outcome with
    | error e =>
      exact ih (d.note s!"Error processing {path.toString}: {e.message}") (failed + 1) chosen
    | ok file =>
      let warned := { d with notices := d.notices ++ warnings path.text file.diagnostics }
      have converted : ((path, .ok file) :: results).filterMap (·.2.toOption) =
          file :: results.filterMap (·.2.toOption) := rfl
      have step : warned.deliver file = warned.toDirectory outDir file := by
        simp only [Delivery.deliver, warned, chosen]
      rw [converted, deliverAll, step, Delivery.toDirectory, storeAll]
      dsimp only [warned]
      cases store d.files (documentPath d.baseDir outDir file.path) file.document with
      | error setback => exact ⟨rfl, by rintro _ ⟨⟩; rfl⟩
      | ok files =>
        dsimp only
        split
        · exact ih _ failed chosen
        · exact ih _ failed chosen

/-- A run over files is a run over what they convert to, from the files there are and an empty output.
Files that could not be converted make it fail in the end; a failure that ends it is reported last. -/
theorem runFiles_eq_deliverAll (fs : FileSystem) (arguments : CommandLine.Arguments)
    (options : ConversionOptions) (paths : List Path) :
    ∃ start : Delivery Page, start.outDir = arguments.outDir.map Path.mk ∧
      start.baseDir = Ignore.absolutePath fs.workingDirectory ∧ start.files = fs ∧
      start.output = {} ∧ start.delivered = 0 ∧
      let ran := deliverAll start 0 (paths.map fun path => (path, convertFile fs options path))
      let outcome := runFiles fs arguments options paths
      outcome.files = ran.1.files ∧ outcome.stdout = ran.1.output.text ∧
      (∀ failed, ran.2 = .ok failed → outcome.exitCode = if failed = 0 then 0 else 1) ∧
      ∀ failure, ran.2 = .error failure →
        outcome.exitCode = 1 ∧ errorLines [fatal failure] <:+ outcome.stderr := by
  let fresh : Delivery Page :=
    { outDir := arguments.outDir.map Path.mk
      baseDir := Ignore.absolutePath fs.workingDirectory
      verbose := arguments.verbose
      files := fs
      output := {} }
  let start := if arguments.verbose then fresh.note s!"Converting {paths.length} file(s)..."
    else fresh
  have started : start.outDir = fresh.outDir ∧ start.baseDir = fresh.baseDir ∧
      start.files = fresh.files ∧ start.output = fresh.output ∧
      start.delivered = fresh.delivered := by
    dsimp only [start]
    split <;> exact ⟨rfl, rfl, rfl, rfl, rfl⟩
  obtain ⟨outDir_eq, baseDir_eq, files_eq, output_eq, delivered_eq⟩ := started
  refine ⟨start, outDir_eq, baseDir_eq, files_eq, output_eq, delivered_eq, ?_⟩
  unfold runFiles
  dsimp only [start, fresh]
  generalize deliverAll _ 0 _ = ran
  rcases ran with ⟨d, failure | failed⟩
  · refine ⟨rfl, rfl, nofun, ?_⟩
    rintro _ ⟨⟩
    refine ⟨rfl, errorLines d.notices, ?_⟩
    exact List.flatMap_append.symm
  · refine ⟨?_, ?_, ?_, nofun⟩
    · dsimp only
      split <;> rfl
    · dsimp only
      split <;> rfl
    · rintro _ ⟨⟩
      rfl

/-- At the end of a run into an output directory, the document of every file that was delivered is at
its path, unless the path of a later one, or of one that could not be stored and so ended the run,
leads to the same file. Without links, this is so only if the two have the same path. A run ends
before its time only at a document that cannot be stored behind those that were delivered, with its
failure, and leaves the files as that does. -/
theorem batch_documents_stored (fs : FileSystem) {arguments : CommandLine.Arguments}
    (options : ConversionOptions) (paths : List Path) {outDir : Text}
    (chosen : arguments.outDir = some outDir) :
    let target := fun file : ConvertedFile =>
      documentPath (Ignore.absolutePath fs.workingDirectory) ⟨outDir⟩ file.path
    let outcome := runFiles fs arguments options paths
    (∃ delivered undelivered,
      paths.filterMap (fun path => (convertFile fs options path).toOption) =
        delivered ++ undelivered ∧
      Stores target outcome.files delivered (undelivered.take 1) ∧
      ∀ file ∈ undelivered.head?, ∃ before failure,
        storeAll target fs delivered = .ok before ∧
        store before (target file) file.document = .error ⟨failure, outcome.files⟩ ∧
        outcome.exitCode = 1 ∧ errorLines [fatal failure] <:+ outcome.stderr) ∧
    (fs.links = [] → ∀ a b, outcome.files.SameFile (target a) (target b) → target a = target b) := by
  intro target outcome
  obtain ⟨start, outDir_eq, baseDir_eq, files_eq, -, -, outcome_eq, -, -, ended⟩ :=
    runFiles_eq_deliverAll fs arguments options paths
  rw [chosen] at outDir_eq
  obtain ⟨files, stopped⟩ := deliverAll_directory
    (paths.map fun path => (path, convertFile fs options path)) start 0 outDir_eq
  rw [List.filterMap_map, baseDir_eq, files_eq] at files stopped
  obtain ⟨delivered, undelivered, split, run⟩ := Delivery.storeAll_delivers target fs
    (paths.filterMap fun path => (convertFile fs options path).toOption)
  rw [split] at run
  have stored_eq : outcome.files = left (storeAll target fs (delivered ++ undelivered)) := by
    rw [← split]
    exact outcome_eq.trans files
  have kept := run.kept
  have stored := run.stored
  rw [← stored_eq] at kept stored
  refine ⟨⟨delivered, undelivered, split, stored, fun file first => ?_⟩, fun plain a b shared => ?_⟩
  · obtain ⟨before, setback, ready, refused⟩ := run.stopped file first
    obtain ⟨rest, rfl⟩ : ∃ rest, undelivered = file :: rest := List.head?_eq_some_iff.mp first
    have failed := Delivery.storeAll_of_refused ready refused rest
    refine ⟨before, setback.cause, ready, ?_, ended _ (stopped setback ?_)⟩
    · rw [stored_eq, failed]
      exact refused
    · rw [← failed, ← split]
      rfl
  · exact FileSystem.documentPath_eq_of_sameFile (kept.links_eq.trans plain) shared

/-- Next to a source that cannot be read as text, of two sources with one path for their documents the
later one has its document there. The document of a fourth source gives way to that of a fifth, whose
path is a link to the same file, and of which the disk takes only one byte. -/
theorem shared_path_holds_later_document :
    let fs : FileSystem :=
      { entries := [(["bad.ts".toList], .file [0xFF]),
          (["a.ts".toList], .file (Utf8.encode "/* A */".toList)),
          (["a.js".toList], .file (Utf8.encode "/* B */".toList)),
          (["d".toList], .directory),
          (["d".toList, "b.ts".toList], .file (Utf8.encode "/* C */".toList)),
          (["e.ts".toList], .file (Utf8.encode "/* D */".toList)),
          (["out".toList], .directory)]
        links := [(["out".toList, "e.md".toList], ["out".toList, "d".toList, "b.md".toList])]
        shortages := [none, none, none, some 1] }
    let arguments : CommandLine.Arguments := { outDir := some "out".toList }
    let outcome := runFiles fs arguments {}
      (["a.ts", "bad.ts", "a.js", "d/b.ts", "e.ts"].map Path.ofString)
    arguments.outDir = some "out".toList ∧ outcome.exitCode = 1 ∧
      outcome.files.read (.ofString "out/a.md") = .ok (Utf8.encode "B\n".toList) ∧
      outcome.files.read (.ofString "out/d/b.md") = .ok (Utf8.encode "D".toList) := by
  intro fs arguments outcome
  obtain ⟨⟨delivered, undelivered, split, stored, stopped⟩, -⟩ :=
    batch_documents_stored fs {} (["a.ts", "bad.ts", "a.js", "d/b.ts", "e.ts"].map Path.ofString)
      (rfl : arguments.outDir = some "out".toList)
  let target := fun file : ConvertedFile =>
    documentPath (Ignore.absolutePath []) (.ofString "out") file.path
  let first : ConvertedFile := ⟨⟨⟨1, []⟩, "A\n".toList⟩, .ofString "a.ts"⟩
  let second : ConvertedFile := ⟨⟨⟨1, []⟩, "B\n".toList⟩, .ofString "a.js"⟩
  let others : List ConvertedFile := [⟨⟨⟨1, []⟩, "C\n".toList⟩, .ofString "d/b.ts"⟩,
    ⟨⟨⟨1, []⟩, "D\n".toList⟩, .ofString "e.ts"⟩]
  have converted : first :: second :: others = delivered ++ undelivered :=
    Eq.trans (by decide +kernel) split
  have shared : .ofString "out/a.md" = target second := by decide +kernel
  have apart : ∀ later ∈ others, ¬ outcome.files.SameFile (target later) (target second) := by
    decide +kernel
  refine ⟨rfl, by decide +kernel, (congrArg outcome.files.read shared).trans ?_,
    eq_ok_of_toOption (by decide +kernel)⟩
  -- The first two documents can be stored, so that neither of them has ended the run.
  have works : (storeAll target fs [first, second]).isOk = true := by decide +kernel
  rcases delivered with _ | ⟨file, _ | ⟨file', behind⟩⟩
  · obtain rfl : first :: second :: others = undelivered := converted
    obtain ⟨before, failure, ready, refused, -⟩ := stopped first rfl
    have failed : storeAll target fs [first, second] = .error _ :=
      Delivery.storeAll_of_refused ready refused [second]
    rw [failed] at works
    cases works
  · obtain ⟨rfl, rfl⟩ : first = file ∧ second :: others = undelivered := List.cons.inj converted
    obtain ⟨before, failure, ready, refused, -⟩ := stopped second rfl
    have failed : storeAll target fs [first, second] = .error _ :=
      Delivery.storeAll_of_refused ready refused []
    rw [failed] at works
    cases works
  · obtain ⟨rfl, later⟩ := List.cons.inj converted
    obtain ⟨rfl, rest⟩ := List.cons.inj later
    have tried : behind ++ undelivered.take 1 ⊆ others := by
      rw [rest]
      exact ((List.take_sublist 1 undelivered).append_left behind).subset
    exact stored [first] second behind rfl fun file member => apart file (tried member)

/-- Four sources can be converted, but the document of the first gives way to that of the second,
which has the same path; that of the third cannot be written, and so the fourth has none either. -/
theorem converted_documents_missing :
    let fs : FileSystem :=
      { entries := [(["a.ts".toList], .file (Utf8.encode "/* A */".toList)),
          (["a.js".toList], .file (Utf8.encode "/* B */".toList)),
          (["b.ts".toList], .file (Utf8.encode "/* C */".toList)),
          (["c.ts".toList], .file (Utf8.encode "/* D */".toList)),
          (["out".toList], .directory),
          (["out".toList, "b.md".toList], .directory)] }
    let sources := ["a.ts", "a.js", "b.ts", "c.ts"]
    let outcome := run { files := fs } (sources.map String.toList ++ ["-o".toList, "out".toList])
    let target := fun source => documentPath (Ignore.absolutePath []) (.ofString "out") source
    (sources.map fun source =>
        (convertFile fs {} (.ofString source)).toOption.map (·.document)) =
      [some "A\n".toList, some "B\n".toList, some "C\n".toList, some "D\n".toList] ∧
    outcome.files.read (target (.ofString "a.ts")) = .ok (Utf8.encode "B\n".toList) ∧
    (outcome.files.read (target (.ofString "c.ts"))).isOk = false := by
  intro fs sources outcome target
  refine ⟨by decide +kernel, eq_ok_of_toOption ?_, by decide +kernel⟩
  decide +kernel

end Program

end Weave
