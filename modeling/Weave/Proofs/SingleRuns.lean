import Weave.Proofs.Separation
import Weave.Proofs.StoredDocuments

/-!
A run over named files is made up of runs over what each of them holds. Both kinds of run load the
same settings and put a source through the same conversion, so the exit code and the output of either
are told by one function: the document of a source under the settings in force, if it has one.
-/

namespace Weave

section

variable {fs : FileSystem} {path : Path} {content : Bytes}

/-- A file with text in it has the document that its contents have. -/
theorem convertFile_document (held : fs.read path = .ok content)
    (valid : (Utf8.decode? content).isSome) (options : ConversionOptions) :
    (convertFile fs options path).toOption.map (·.document) =
      (convert (Utf8.decodeLossy content) options).toOption.map (·.document) := by
  obtain ⟨source, decoded⟩ := Option.isSome_iff_exists.mp valid
  have readable : fs.readText path = .ok source := by
    rw [FileSystem.readText, bind_eq_ok]
    exact ⟨content, held, by rw [decoded]; rfl⟩
  have steps : convertFile fs options path =
      ((convert source options).mapError (.convertSource path)).map fun conversion =>
        { conversion with path } := by
    rw [convertFile, readable]
    rfl
  rw [steps, Utf8.decodeLossy_of_decode? decoded]
  cases convert source options <;> rfl

end

/-- Files that are named are taken as they are named, and there is nothing to say about them. -/
theorem Selection.ofArguments_files {fs : FileSystem} {named : List Text}
    (files : ∀ argument ∈ named, fs.isFile ⟨argument⟩ = true) (filter : FileFilter)
    (global : Ignore.RuleSet) :
    ofArguments fs filter global named = { files := named.map Path.mk } := by
  induction named using List.reverseRecOn with
  | nil => rfl
  | append_singleton named last ih =>
    have before := ih fun argument member => files argument (List.mem_append_left _ member)
    have here : ofArgument fs filter global last = { files := [⟨last⟩] } := by
      rw [ofArgument]
      exact if_pos (files last (by simp))
    rw [ofArguments] at before
    rw [ofArguments, List.map_append, List.foldl_append, before, List.map_singleton, here]
    simp [append]

namespace Outcome

/-- Outcomes with the same exit code and the same output, whatever else they leave. -/
structure Agrees (a b : Outcome) : Prop where
  exitCode_eq : a.exitCode = b.exitCode
  stdout_eq : a.stdout = b.stdout

/-- An outcome that shows a document, or fails and shows nothing if there is none. -/
structure Shows (outcome : Outcome) (document? : Option Text) : Prop where
  succeeds : outcome.exitCode = 0 ↔ document?.isSome
  stdout_eq : outcome.stdout = document?.getD []

theorem Agrees.shows {a b : Outcome} {document? : Option Text} (agrees : a.Agrees b)
    (shows : b.Shows document?) : a.Shows document? where
  succeeds := by rw [agrees.exitCode_eq, shows.succeeds]
  stdout_eq := by rw [agrees.stdout_eq, shows.stdout_eq]

theorem Shows.eq_none {outcome : Outcome} {document? : Option Text}
    (shows : outcome.Shows document?) (failed : outcome.exitCode ≠ 0) : document? = none := by
  rwa [← Option.not_isSome_iff_eq_none, ← shows.succeeds]

/-- What the outcomes that succeed show is the documents that there are. -/
theorem stdout_of_succeeded {α : Type} {outcome : α → Outcome} {document? : α → Option Text}
    (shows : ∀ a, (outcome a).Shows (document? a)) (as : List α) :
    ((as.map outcome).filter (·.exitCode = 0)).map (·.stdout) = as.filterMap document? := by
  induction as with
  | nil => rfl
  | cons a as ih =>
    have succeeds := (shows a).succeeds
    have stdout_eq := (shows a).stdout_eq
    cases found : document? a <;> simp_all

end Outcome

namespace Program

/-- What the settings and the command line ask of the conversion, if the settings can be loaded. -/
def optionsInForce? (read : Settings.Reader) (env : Environment)
    (arguments : CommandLine.Arguments) : Option ConversionOptions :=
  let start := Ignore.absolutePath env.files.workingDirectory
  let userFile := env.configHome.map (·.join (.ofString "literate/config.toml"))
  let (_, loaded) := Settings.load read env.files userFile start (arguments.config.map Path.mk)
  loaded.toOption.map fun settings => (settings.overlay arguments.settings).resolve.conversion

/-- The document of a source under the settings in force, if it has one. -/
def document? (read : Settings.Reader) (env : Environment) (arguments : CommandLine.Arguments)
    (source : Bytes) : Option Text := do
  let options ← optionsInForce? read env arguments
  (convert (Utf8.decodeLossy source) options).toOption.map (·.document)

section

variable (read : Settings.Reader) (env : Environment) (arguments : CommandLine.Arguments)

/-- What a run comes to: without settings to go by it fails and writes nothing; otherwise it converts
standard input, or the files that the paths stand for if there are any. -/
theorem runArguments_cases :
    (optionsInForce? read env arguments = none ∧ (runArguments read env arguments).exitCode = 1 ∧
        (runArguments read env arguments).stdout = []) ∨
      ∃ options, optionsInForce? read env arguments = some options ∧
        (arguments.readsStdin = true →
          (runArguments read env arguments).Agrees (runStdin env options)) ∧
        (arguments.readsStdin = false → ∃ filter,
          let selection := Selection.ofArguments env.files filter (globalRules env) arguments.paths
          selection.files ≠ [] → (runArguments read env arguments).Agrees
            (runFiles env.files arguments options selection.files)) := by
  unfold optionsInForce?
  dsimp only [runArguments]
  rcases Settings.load _ _ _ _ _ with ⟨notices, e | settings⟩
  · exact .inl ⟨rfl, rfl, rfl⟩
  · let resolved := (settings.overlay arguments.settings).resolve
    refine .inr ⟨resolved.conversion, rfl, fun reads => ?_, fun notStdin =>
      ⟨⟨resolved.extensions, resolved.respectGitignore⟩, fun inhabited => ?_⟩⟩
    · dsimp only
      rw [if_pos reads]
      exact ⟨rfl, rfl⟩
    · dsimp only
      rw [if_neg (by simp [notStdin]), if_neg (by simpa using inhabited)]
      exact ⟨rfl, rfl⟩

variable {read env arguments}

theorem document?_of_options {options : ConversionOptions}
    (inForce : optionsInForce? read env arguments = some options) (source : Bytes) :
    document? read env arguments source =
      (convert (Utf8.decodeLossy source) options).toOption.map (·.document) := by
  rw [document?, inForce]
  rfl

theorem document?_of_no_options (none : optionsInForce? read env arguments = none)
    (source : Bytes) : document? read env arguments source = Option.none := by
  rw [document?, none]
  rfl

/-- A run over standard input shows the document of what stands there. -/
theorem runArguments_stdin (reads : arguments.readsStdin = true) :
    (runArguments read env arguments).Shows (document? read env arguments env.stdin) := by
  rcases runArguments_cases read env arguments with
    ⟨none, failed, silent⟩ | ⟨options, inForce, same, -⟩
  · rw [document?_of_no_options none]
    exact ⟨by simp [failed], silent⟩
  · have converted : (runStdin env options).Shows
        ((convert (Utf8.decodeLossy env.stdin) options).toOption.map (·.document)) := by
      rw [runStdin]
      cases convert (Utf8.decodeLossy env.stdin) options with
      | error e => exact ⟨by simp [Except.toOption], rfl⟩
      | ok conversion => exact ⟨by simp [Except.toOption], rfl⟩
    rw [document?_of_options inForce]
    exact (same reads).shows converted

end

/-- A run over files to an output succeeds if every file has a document, and writes those there are
in order, with a line break between each two. -/
theorem runFiles_page {arguments : CommandLine.Arguments} (toOutput : arguments.outDir = none)
    (fs : FileSystem) (options : ConversionOptions) (paths : List Path) :
    ((runFiles fs arguments options paths).exitCode = 0 ↔
        ∀ path ∈ paths, (convertFile fs options path).toOption.isSome) ∧
      (runFiles fs arguments options paths).stdout = ['\n'].intercalate
        (paths.filterMap fun path => (convertFile fs options path).toOption.map (·.document)) := by
  let results := paths.map fun path => (path, convertFile fs options path)
  have documents_eq : documents results =
      paths.filterMap fun path => (convertFile fs options path).toOption.map (·.document) := by
    simp only [documents, results, List.filterMap_map, List.map_filterMap]
    rfl
  have none_iff : results.countP (·.2.toOption.isNone) = 0 ↔
      ∀ path ∈ paths, (convertFile fs options path).toOption.isSome := by
    rw [List.countP_eq_zero, List.forall_mem_map]
    simp [Option.isSome_iff_ne_none]
  obtain ⟨start, outDir_eq, -, -, output_eq, delivered_eq, -, stdout_eq, exitCode_eq, -⟩ :=
    runFiles_eq_deliverAll fs arguments options paths
  have holds : start.Holds [] :=
    ⟨by rw [outDir_eq, toOutput]; rfl, delivered_eq, by rw [output_eq]; rfl⟩
  obtain ⟨d, failed, ran, held, count⟩ := deliverAll_page results holds 0
  rw [List.nil_append, documents_eq] at held
  rw [Nat.zero_add] at count
  constructor
  · rw [exitCode_eq failed (congrArg Prod.snd ran), ← none_iff, ← count]
    simp
  · rw [stdout_eq, ran, held.text_eq]

/-- Files with text in them that a command line names, in its order, and what they hold. Their
documents go to standard output. -/
structure NamesSources (fs : FileSystem) (arguments : CommandLine.Arguments)
    (sources : List (Text × Bytes)) : Prop where
  paths_eq : arguments.paths = sources.map Prod.fst
  notStdin : arguments.readsStdin = false
  toOutput : arguments.outDir = none
  held : ∀ source ∈ sources, fs.read ⟨source.1⟩ = .ok source.2
  valid : ∀ source ∈ sources, (Utf8.decode? source.2).isSome

theorem NamesSources.ne_nil {fs : FileSystem} {arguments : CommandLine.Arguments}
    {sources : List (Text × Bytes)} (named : NamesSources fs arguments sources) : sources ≠ [] := by
  rintro rfl
  have notStdin := named.notStdin
  rw [CommandLine.Arguments.readsStdin, named.paths_eq] at notStdin
  cases notStdin

/-- What remains of the files can be named alone. -/
theorem NamesSources.without {fs : FileSystem} {arguments : CommandLine.Arguments}
    {before behind : List (Text × Bytes)} {source : Text × Bytes}
    (named : NamesSources fs arguments (before ++ source :: behind))
    (notStdin : { arguments with paths := (before ++ behind).map Prod.fst }.readsStdin = false) :
    NamesSources fs { arguments with paths := (before ++ behind).map Prod.fst }
      (before ++ behind) := by
  have listed : before ++ behind ⊆ before ++ source :: behind :=
    ((List.sublist_cons_self source behind).append_left before).subset
  exact ⟨rfl, notStdin, named.toOutput, fun other member => named.held other (listed member),
    fun other member => named.valid other (listed member)⟩

/-- A run over named files succeeds if all of them have a document, and writes those there are. -/
theorem runArguments_named (read : Settings.Reader) {env : Environment}
    {arguments : CommandLine.Arguments} {sources : List (Text × Bytes)}
    (named : NamesSources env.files arguments sources) :
    ((runArguments read env arguments).exitCode = 0 ↔
        ∀ source ∈ sources, (document? read env arguments source.2).isSome) ∧
      (runArguments read env arguments).stdout = ['\n'].intercalate
        (sources.filterMap fun source => document? read env arguments source.2) := by
  rcases runArguments_cases read env arguments with
    ⟨none, failed, silent⟩ | ⟨options, inForce, -, same⟩
  · obtain ⟨first, present⟩ := List.exists_mem_of_ne_nil sources named.ne_nil
    simp only [document?_of_no_options none, failed, silent]
    refine ⟨⟨nofun, fun all => ?_⟩, ?_⟩
    · cases all first present
    · simp
  · obtain ⟨filter, same⟩ := same named.notStdin
    let path (source : Text × Bytes) : Path := ⟨source.1⟩
    have selected : Selection.ofArguments env.files filter (globalRules env) arguments.paths =
        { files := sources.map path } := by
      rw [named.paths_eq, Selection.ofArguments_files, List.map_map]
      · rfl
      · rw [List.forall_mem_map]
        exact fun source member => FileSystem.isFile_of_read (named.held source member)
    have each : ∀ source ∈ sources,
        (convertFile env.files options (path source)).toOption.map (·.document) =
          document? read env arguments source.2 := by
      intro source member
      rw [document?_of_options inForce]
      exact convertFile_document (named.held source member) (named.valid source member) options
    obtain ⟨succeeds, text_eq⟩ := runFiles_page named.toOutput env.files options (sources.map path)
    rw [selected] at same
    obtain ⟨exit_eq, stdout_eq⟩ := same (by simpa using named.ne_nil)
    rw [exit_eq, stdout_eq, succeeds, text_eq, List.forall_mem_map, List.filterMap_map]
    constructor
    · refine forall₂_congr fun source member => ?_
      rw [← each source member, Option.isSome_map]
    · exact congrArg _ (List.filterMap_congr each)

/-- A run over named files is made up of the runs over what each of them holds: it succeeds if all of
those do, and writes what the successful ones write, in order, with a line break between each two.
A run that fails has written nothing, so the output is the same without its file. -/
theorem batch_composes_single_runs (read : Settings.Reader) {env : Environment}
    {arguments : CommandLine.Arguments} {given : List Text} {sources : List (Text × Bytes)}
    (named : NamesSources env.files arguments sources)
    (fromStdin : { arguments with paths := given }.readsStdin = true) :
    let single (source : Bytes) : Outcome :=
      runArguments read { env with stdin := source } { arguments with paths := given }
    let batch := runArguments read env arguments
    (batch.exitCode = 0 ↔ ∀ source ∈ sources, (single source.2).exitCode = 0) ∧
    batch.stdout = ['\n'].intercalate
      (((sources.map fun source => single source.2).filter (·.exitCode = 0)).map (·.stdout)) ∧
    (∀ source, (single source).exitCode ≠ 0 → (single source).stdout = []) ∧
    ∀ before failing behind, sources = before ++ failing :: behind →
      (single failing.2).exitCode ≠ 0 →
      let fewer := { arguments with paths := (before ++ behind).map Prod.fst }
      fewer.readsStdin = false → (runArguments read env fewer).stdout = batch.stdout := by
  intro single batch
  -- Neither the paths nor standard input play a part in which document a source has.
  have shows (source : Bytes) : (single source).Shows (document? read env arguments source) :=
    runArguments_stdin fromStdin
  obtain ⟨succeeds, stdout_eq⟩ := runArguments_named read named
  refine ⟨?_, ?_, fun source failed => ?_, ?_⟩
  · rw [succeeds]
    exact forall₂_congr fun source _ => (shows source.2).succeeds.symm
  · rw [Outcome.stdout_of_succeeded fun source : Text × Bytes => shows source.2]
    exact stdout_eq
  · rw [(shows source).stdout_eq, (shows source).eq_none failed]
    rfl
  · rintro before failing behind rfl failed fewer notStdin
    obtain ⟨-, fewer_eq⟩ := runArguments_named read (named.without notStdin)
    have nothing : document? read env arguments failing.2 = none := (shows failing.2).eq_none failed
    rw [fewer_eq, stdout_eq, List.filterMap_append, List.filterMap_append, List.filterMap_cons,
      nothing]
    rfl

/-- A file with a template that does not end fails between two others, and leaves no trace in the
output. -/
theorem unclosed_template_left_out :
    let sources : List (Text × Bytes) :=
      [("a.ts".toList, Utf8.encode "/* A */".toList), ("bad.ts".toList, Utf8.encode "`$\x7b".toList),
        ("c.ts".toList, Utf8.encode "x".toList)]
    let env : Environment :=
      { files := { entries := sources.map fun source => ([source.1], .file source.2) } }
    let arguments : CommandLine.Arguments := { paths := sources.map Prod.fst }
    NamesSources env.files arguments sources ∧
    (run env arguments.paths).exitCode ≠ 0 ∧
    (run env arguments.paths).stdout = "A\n\n```typescript\nx\n```\n".toList ∧
    (run env ["a.ts".toList, "c.ts".toList]).stdout = (run env arguments.paths).stdout := by
  intro sources env arguments
  have parsed : CommandLine.parse arguments.paths = .ok arguments :=
    eq_ok_of_toOption (by decide +kernel)
  have parsedFewer : CommandLine.parse ["a.ts".toList, "c.ts".toList] =
      .ok { arguments with paths := ["a.ts".toList, "c.ts".toList] } :=
    eq_ok_of_toOption (by decide +kernel)
  have held : ∀ source ∈ sources, (env.files.read ⟨source.1⟩).toOption = some source.2 := by
    decide +kernel
  have named : NamesSources env.files arguments sources :=
    ⟨rfl, by decide, rfl, fun source member => eq_ok_of_toOption (held source member),
      by decide +kernel⟩
  have fromStdin : { arguments with paths := [] }.readsStdin = true := rfl
  obtain ⟨succeeds, stdout_eq, -, removed⟩ :=
    batch_composes_single_runs Settings.ofToml named fromStdin
  rw [run, run, parsed, parsedFewer]
  refine ⟨named, fun success => ?_, stdout_eq.trans (by decide +kernel), ?_⟩
  · have unclosed := succeeds.mp success _ (List.mem_cons_of_mem _ List.mem_cons_self)
    exact absurd unclosed (by decide +kernel)
  · exact removed [_] _ [_] rfl (by decide +kernel) (by decide)

end Program

end Weave
