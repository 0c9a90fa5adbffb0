import Weave.Program
import Weave.Proofs.Fallible

/-!
Which settings the program runs with. A layer that comes out of a file has been checked, layers that
satisfy the rules do so when they are laid over each other, and so do the defaults. The layer of the
command line is not checked: what it sets can break the rules, and nothing else can.
-/

namespace Weave

/-! ### The rules -/

/-- A language that can stand behind a fence without ending the fence or its line. -/
structure FitsFence (lang : Text) : Prop where
  noBacktick : '`' ∉ lang
  noBreak : '\n' ∉ lang ∧ '\r' ∉ lang

/-- An extension as the ends of file names are compared with it. -/
structure IsExtension (extension : Text) : Prop where
  inhabited : extension ≠ []
  noDot : '.' ∉ extension

/-- Settings whose language and extensions satisfy the rules. -/
structure ResolvedSettings.Valid (settings : ResolvedSettings) : Prop where
  fenceLang : FitsFence settings.fenceLang
  extensions : ∀ extension ∈ settings.extensions, IsExtension extension

namespace Settings

/-- A layer that satisfies the rules wherever it sets something. -/
structure Valid (settings : Settings) : Prop where
  fenceLang : ∀ lang ∈ settings.fenceLang, FitsFence lang
  extensions : ∀ listed ∈ settings.extensions, ∀ extension ∈ listed, IsExtension extension

theorem isFenceLang_iff {lang : Text} : isFenceLang lang = true ↔ FitsFence lang := by
  simp only [isFenceLang, List.all_eq_true, Bool.and_eq_true, bne_iff_ne]
  constructor
  · intro fit
    exact ⟨fun member => (fit _ member).1.1 rfl,
      fun member => (fit _ member).1.2 rfl, fun member => (fit _ member).2 rfl⟩
  · rintro ⟨noBacktick, noFeed, noReturn⟩ c member
    exact ⟨⟨ne_of_mem_of_not_mem member noBacktick, ne_of_mem_of_not_mem member noFeed⟩,
      ne_of_mem_of_not_mem member noReturn⟩

theorem isExtension_iff {extension : Text} :
    isExtension extension = true ↔ IsExtension extension := by
  simp only [isExtension, List.all_eq_true, Bool.and_eq_true, bne_iff_ne, Bool.not_eq_true',
    List.isEmpty_eq_false_iff]
  constructor
  · rintro ⟨inhabited, fit⟩
    exact ⟨inhabited, fun member => fit _ member rfl⟩
  · rintro ⟨inhabited, noDot⟩
    exact ⟨inhabited, fun c member => ne_of_mem_of_not_mem member noDot⟩

/-- The check accepts exactly the layers that satisfy the rules. -/
theorem validate_eq_ok {settings : Settings} : settings.validate = .ok () ↔ settings.Valid := by
  have languages : settings.fenceLang.all isFenceLang = true ↔
      ∀ lang ∈ settings.fenceLang, FitsFence lang := by
    cases settings.fenceLang <;> simp [isFenceLang_iff]
  have listed : (settings.extensions.getD []).find? (!isExtension ·) = none ↔
      ∀ listed ∈ settings.extensions, ∀ extension ∈ listed, IsExtension extension := by
    cases settings.extensions <;> simp [isExtension_iff]
  unfold validate
  split
  · next unfit =>
    rw [Bool.not_eq_true', ← Bool.not_eq_true, languages] at unfit
    exact ⟨nofun, fun valid => absurd valid.fenceLang unfit⟩
  · next fit =>
    rw [Bool.not_eq_true', Bool.not_eq_false, languages] at fit
    split
    · next found =>
      have unfit := mt listed.mpr (by simp [found])
      exact ⟨nofun, fun valid => absurd valid.extensions unfit⟩
    · next none_found => exact ⟨fun _ => ⟨fit, listed.mp none_found⟩, fun _ => rfl⟩

/-! ### Layers -/

theorem valid_empty : ({} : Settings).Valid := ⟨nofun, nofun⟩

/-- Layers that satisfy the rules do so together. -/
theorem Valid.overlay {lower upper : Settings} (below : lower.Valid) (above : upper.Valid) :
    (lower.overlay upper).Valid where
  fenceLang lang set := by
    rcases Option.or_eq_some_iff.mp set with set | ⟨-, set⟩
    · exact above.fenceLang lang set
    · exact below.fenceLang lang set
  extensions listed set := by
    rcases Option.or_eq_some_iff.mp set with set | ⟨-, set⟩
    · exact above.extensions listed set
    · exact below.extensions listed set

/-- What a layer leaves open has a default that satisfies the rules. -/
theorem Valid.resolve {settings : Settings} (valid : settings.Valid) : settings.resolve.Valid where
  fenceLang := by
    cases set : settings.fenceLang with
    | none =>
      have checked : isFenceLang "typescript".toList = true := by decide
      rw [Settings.resolve, set]
      exact isFenceLang_iff.mp checked
    | some lang =>
      rw [Settings.resolve, set]
      exact valid.fenceLang lang set
  extensions := by
    cases set : settings.extensions with
    | none =>
      have checked : defaultExtensions.all isExtension = true := by decide
      rw [Settings.resolve, set]
      exact fun extension member => isExtension_iff.mp (List.all_eq_true.mp checked extension member)
    | some listed =>
      rw [Settings.resolve, set]
      exact valid.extensions listed set

/-! ### Layers out of files -/

section

variable {read : Reader} {fs : FileSystem} {settings : Settings}

/-- A layer that a text gives has been checked, whatever reads it. -/
theorem parse_valid {content : Text} (parsed : parse read content = .ok settings) :
    settings.Valid := by
  obtain ⟨layer, -, later⟩ := bind_eq_ok.mp parsed
  obtain ⟨_, checked, same⟩ := bind_eq_ok.mp later
  cases same
  exact validate_eq_ok.mp checked

theorem loadFile_valid {path : Path} (loaded : loadFile read fs path = .ok settings) :
    settings.Valid := by
  obtain ⟨content, -, parsed⟩ := bind_eq_ok.mp loaded
  exact parse_valid (mapError_eq_ok.mp parsed)

theorem loadLayer_valid {path : Option Path} (loaded : loadLayer read fs path = .ok settings) :
    settings.Valid := by
  cases path with
  | none =>
    cases loaded
    exact valid_empty
  | some path => exact loadFile_valid loaded

/-- The user's layer satisfies the rules: an unfit file counts as an empty layer. -/
theorem loadGlobal_valid (path : Option Path) : (loadGlobal read fs path).2.Valid := by
  unfold loadGlobal
  split
  · exact valid_empty
  · split
    · next loaded => exact loadFile_valid loaded
    · exact valid_empty

theorem load_valid {global explicit : Option Path} {start : Path}
    (loaded : (load read fs global start explicit).2 = .ok settings) : settings.Valid := by
  obtain ⟨project, fromProject, later⟩ := bind_eq_ok.mp loaded
  obtain ⟨named, fromNamed, same⟩ := bind_eq_ok.mp later
  cases same
  exact ((loadGlobal_valid global).overlay (loadLayer_valid fromProject)).overlay
    (loadLayer_valid fromNamed)

end

end Settings

/-- The command line sets no extensions, and its language is taken as it is given. -/
theorem CommandLine.Arguments.settings_valid {arguments : Arguments} :
    arguments.settings.Valid ↔ ∀ lang ∈ arguments.fenceLang, FitsFence lang :=
  ⟨fun valid => valid.fenceLang, fun fit => ⟨fit, nofun⟩⟩

/-- A language that the command line names is the one in force. -/
theorem Settings.resolve_overlay_fenceLang (settings : Settings)
    {arguments : CommandLine.Arguments} {lang : Text} (named : arguments.fenceLang = some lang) :
    (settings.overlay arguments.settings).resolve.fenceLang = lang := by
  simp [resolve, overlay, CommandLine.Arguments.settings, named]

/-- The settings in force satisfy the rules exactly if the language that the command line names, if
it names one, satisfies them: the layers that come out of files cannot break them, whichever of the
files there are and whatever they hold. The extensions satisfy them always. -/
theorem settings_in_force_valid {read : Settings.Reader} {fs : FileSystem}
    {global explicit : Option Path} {start : Path} {settings : Settings}
    (loaded : (Settings.load read fs global start explicit).2 = .ok settings)
    (arguments : CommandLine.Arguments) :
    let inForce := (settings.overlay arguments.settings).resolve
    (inForce.Valid ↔ ∀ lang ∈ arguments.fenceLang, FitsFence lang) ∧
      ∀ extension ∈ inForce.extensions, IsExtension extension := by
  intro inForce
  have fromFiles := Settings.load_valid loaded
  refine ⟨⟨fun valid lang named => ?_, fun fit => ?_⟩, ?_⟩
  · rw [← settings.resolve_overlay_fenceLang named]
    exact valid.fenceLang
  · exact (fromFiles.overlay (CommandLine.Arguments.settings_valid.mpr fit)).resolve
  · -- The extensions are those of the files, with or without a language from the command line.
    exact fromFiles.resolve.extensions

/-- A project file under a command line that names another language. -/
theorem project_file_valid_in_force :
    let fs : FileSystem :=
      { entries := [([".literate.toml".toList],
          .file (Utf8.encode "fence_lang = \"ts\"\nextensions = [\"mts\"]".toList))] }
    ∃ settings, (Settings.load Settings.ofToml fs none (.ofString "/") none).2 = .ok settings ∧
      (settings.overlay { fenceLang := some "js".toList : CommandLine.Arguments }.settings).resolve =
        ⟨"js".toList, .fail, ["mts".toList], true⟩ ∧
      (settings.overlay
        { fenceLang := some "js".toList : CommandLine.Arguments }.settings).resolve.Valid := by
  intro fs
  have loaded : (Settings.load Settings.ofToml fs none (.ofString "/") none).2 =
      .ok { fenceLang := some "ts".toList, extensions := some ["mts".toList] } :=
    eq_ok_of_toOption (by decide +kernel)
  obtain ⟨valid, -⟩ := settings_in_force_valid loaded { fenceLang := some "js".toList }
  refine ⟨_, loaded, by decide, valid.mpr ?_⟩
  rintro lang ⟨⟩
  exact Settings.isFenceLang_iff.mp (by decide)

/-- A language with a backtick is accepted from the command line and stands behind the fence. -/
theorem backtick_language_in_force :
    ∃ arguments settings,
      CommandLine.parse ["--fence-lang".toList, "a`b".toList] = .ok arguments ∧
      (Settings.load Settings.ofToml {} none (.ofString "/") none).2 = .ok settings ∧
      ¬ (settings.overlay arguments.settings).resolve.Valid ∧
      (Program.run { files := {}, stdin := Utf8.encode "x".toList }
        ["--fence-lang".toList, "a`b".toList]).exitCode = 0 ∧
      (Program.run { files := {}, stdin := Utf8.encode "x".toList }
        ["--fence-lang".toList, "a`b".toList]).stdout = "```a`b\nx\n```\n".toList := by
  have parsed : CommandLine.parse ["--fence-lang".toList, "a`b".toList] =
      .ok { fenceLang := some "a`b".toList } := eq_ok_of_toOption (by decide +kernel)
  have loaded : (Settings.load Settings.ofToml {} none (.ofString "/") none).2 = .ok {} :=
    eq_ok_of_toOption (by decide +kernel)
  refine ⟨_, _, parsed, loaded, fun valid => ?_, by decide +kernel, by decide +kernel⟩
  exact valid.fenceLang.noBacktick (by decide)

end Weave
