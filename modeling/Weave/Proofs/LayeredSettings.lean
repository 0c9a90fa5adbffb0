import Weave.Proofs.FileChanges
import Weave.Proofs.ValidSettings

/-!
Settings are resolved field by field. The layers are those of the user's file, of the project's, of
one that is named and of the command line, and each field has the value of the last layer that sets
it. A project's file is looked for from a directory upwards; it and the named one must be fit where
there is one, while the user's counts as an empty layer if it is not.
-/

namespace Weave

/-! ### Directories above a path -/

namespace Path

/-- The directory a number of levels above a path, if the path is that deep. -/
def above? (path : Path) : Nat → Option Path
  | 0 => some path
  | levels + 1 => path.parent?.bind fun parent => parent.above? levels

/-- How long pieces are with a slash after each of them. -/
def extent : List Text → Nat
  | [] => 0
  | piece :: pieces => piece.length + 1 + extent pieces

theorem extent_splitSlashes (text : Text) : extent (splitSlashes text) = text.length + 1 := by
  induction text with
  | nil => rfl
  | cons c text ih =>
    rw [splitSlashes] at ih ⊢
    rw [List.splitOn_cons_eq_if_modifyHead]
    split
    · rw [extent, ih, List.length_nil, List.length_cons]
      omega
    · obtain ⟨first, more, split⟩ := List.exists_cons_of_ne_nil (List.splitOn_ne_nil '/' text)
      rw [split, extent] at ih
      rw [split, List.modifyHead_cons, extent, List.length_cons, List.length_cons]
      omega

/-- The components of pieces end in order, each within the pieces. -/
theorem locate_ordered (front : Bool) (offset : Nat) (pieces : List Text) :
    (locate front offset pieces).Pairwise (·.2 < ·.2) ∧
      ∀ located ∈ locate front offset pieces,
        offset < located.2 ∧ located.2 < offset + extent pieces := by
  induction pieces generalizing front offset with
  | nil => exact ⟨.nil, nofun⟩
  | cons piece pieces ih =>
    obtain ⟨ordered, bounds⟩ := ih false (offset + piece.length + 1)
    rw [locate, extent]
    split
    · next component stands =>
      have inhabited : 0 < piece.length := by
        apply List.length_pos_iff.mpr
        rintro rfl
        cases stands
      refine ⟨List.pairwise_cons.mpr ⟨fun located later => ?_, ordered⟩, ?_⟩
      · have bound := bounds located later
        dsimp only
        omega
      · rw [List.forall_mem_cons]
        refine ⟨⟨by dsimp only; omega, by dsimp only; omega⟩, fun located later => ?_⟩
        have bound := bounds located later
        omega
    · refine ⟨ordered, fun located later => ?_⟩
      have bound := bounds located later
      omega

theorem located_ordered (path : Path) :
    path.located.Pairwise (·.2 < ·.2) ∧
      ∀ located ∈ path.located, 0 < located.2 ∧ located.2 ≤ path.text.length := by
  unfold located
  split
  · next rest text_eq =>
    obtain ⟨ordered, bounds⟩ := locate_ordered false 1 (splitSlashes rest)
    rw [extent_splitSlashes] at bounds
    rw [text_eq, List.pairwise_cons, List.forall_mem_cons, List.length_cons]
    refine ⟨⟨fun located later => (bounds located later).1, ordered⟩, ⟨by simp, by simp⟩, ?_⟩
    intro located later
    have bound := bounds located later
    omega
  · obtain ⟨ordered, bounds⟩ := locate_ordered true 0 (splitSlashes path.text)
    rw [extent_splitSlashes] at bounds
    refine ⟨ordered, fun located later => ?_⟩
    have bound := bounds located later
    omega

/-- Going up a level makes a path shorter. -/
theorem parent?_length {path parent : Path} (up : path.parent? = some parent) :
    parent.text.length < path.text.length := by
  obtain ⟨ordered, bounds⟩ := path.located_ordered
  have descending : path.located.reverse.Pairwise fun a b => b.2 < a.2 :=
    List.pairwise_reverse.mpr ordered
  have bounds : ∀ located ∈ path.located.reverse,
      0 < located.2 ∧ located.2 ≤ path.text.length :=
    fun located member => bounds located (List.mem_reverse.mp member)
  unfold parent? at up
  split at up
  · cases up
  · cases up
  · next last _ located =>
    have bound := bounds last (by simp [located])
    cases up
    exact Nat.lt_of_lt_of_le bound.1 bound.2
  · next last component stop more _ located =>
    rw [located] at descending bounds
    have before := (List.pairwise_cons.mp descending).1 _ List.mem_cons_self
    have bound := bounds last List.mem_cons_self
    cases up
    rw [List.length_take]
    dsimp only at before
    omega

/-- A path with at most as many characters as there is fuel is followed up to its end. -/
theorem getElem?_go {path : Path} {fuel : Nat} (enough : path.text.length < fuel) (levels : Nat) :
    (ancestors.go fuel path)[levels]? = path.above? levels := by
  induction fuel generalizing path levels with
  | zero => cases enough
  | succ fuel ih =>
    rw [ancestors.go]
    cases levels with
    | zero => rfl
    | succ levels =>
      rw [List.getElem?_cons_succ, above?]
      cases up : path.parent? with
      | none => rfl
      | some parent =>
        have shorter := parent?_length up
        exact ih (by omega) levels

theorem getElem?_ancestors (path : Path) (levels : Nat) :
    path.ancestors[levels]? = path.above? levels :=
  getElem?_go (Nat.lt_succ_self _) levels

end Path

namespace Settings

/-! ### Files with settings -/

section

variable {read : Reader} {fs : FileSystem} {path start : Path} {layer : Settings}

/-- The settings file of the project that `start` belongs to: it stands there or some levels above,
and no directory on fewer levels has one. -/
def IsProjectFile (fs : FileSystem) (start path : Path) : Prop :=
  ∃ levels directory, start.above? levels = some directory ∧
    path = directory.join projectFileName ∧ fs.isFile path = true ∧
    ∀ fewer < levels, ∀ nearer, start.above? fewer = some nearer →
      fs.isFile (nearer.join projectFileName) = false

theorem projectFile?_eq_some : projectFile? fs start = some path ↔ IsProjectFile fs start path := by
  rw [projectFile?, List.find?_eq_some_iff_getElem]
  constructor
  · rintro ⟨isFile, levels, deep, same, before⟩
    rw [List.length_map] at deep
    refine ⟨levels, start.ancestors[levels], ?_, ?_, isFile, ?_⟩
    · rw [← Path.getElem?_ancestors, List.getElem?_eq_getElem deep]
    · rw [← same, List.getElem_map]
    · intro fewer less nearer above
      rw [← Path.getElem?_ancestors] at above
      obtain ⟨_, rfl⟩ := List.getElem?_eq_some_iff.mp above
      simpa using before fewer less
  · rintro ⟨levels, directory, above, rfl, isFile, before⟩
    rw [← Path.getElem?_ancestors] at above
    obtain ⟨deep, rfl⟩ := List.getElem?_eq_some_iff.mp above
    refine ⟨isFile, levels, by rwa [List.length_map], List.getElem_map _, fun fewer less => ?_⟩
    have absent := before fewer less start.ancestors[fewer] (by
      rw [← Path.getElem?_ancestors, List.getElem?_eq_getElem])
    simpa using absent

/-- The file at `path` holds a layer of settings that satisfies the rules. -/
def Holds (read : Reader) (fs : FileSystem) (path : Path) (layer : Settings) : Prop :=
  ∃ content, fs.readText path = .ok content ∧ read content = .ok layer ∧ layer.Valid

/-- The file at `path` gives no layer of settings. -/
inductive Unfit (read : Reader) (fs : FileSystem) (path : Path) : Prop where
  | unreadable {cause : FileError} (failed : fs.readText path = .error cause)
  | malformed {content : Text} {reason : String} (held : fs.readText path = .ok content)
      (failed : read content = .error reason)
  | invalid {content : Text} {layer : Settings} (held : fs.readText path = .ok content)
      (parsed : read content = .ok layer) (broken : ¬ layer.Valid)

theorem unfit_iff : Unfit read fs path ↔ ¬ ∃ layer, Holds read fs path layer := by
  constructor
  · rintro (⟨failed⟩ | ⟨held, failed⟩ | ⟨held, parsed, broken⟩) ⟨layer, content, held', parsed', valid⟩
    · cases failed.symm.trans held'
    · cases held.symm.trans held'
      cases failed.symm.trans parsed'
    · cases held.symm.trans held'
      cases parsed.symm.trans parsed'
      exact broken valid
  · intro none
    cases held : fs.readText path with
    | error cause => exact .unreadable held
    | ok content =>
      cases parsed : read content with
      | error reason => exact .malformed held parsed
      | ok layer => exact .invalid held parsed fun valid => none ⟨layer, content, held, parsed, valid⟩

theorem loadFile_eq_ok : loadFile read fs path = .ok layer ↔ Holds read fs path layer := by
  rw [loadFile, bind_eq_ok]
  refine exists_congr fun content => and_congr mapError_eq_ok ?_
  rw [mapError_eq_ok, parse, bind_eq_ok]
  constructor
  · rintro ⟨settings, parsed, later⟩
    obtain ⟨_, checked, same⟩ := bind_eq_ok.mp later
    cases same
    exact ⟨mapError_eq_ok.mp parsed, validate_eq_ok.mp checked⟩
  · rintro ⟨parsed, valid⟩
    refine ⟨layer, mapError_eq_ok.mpr parsed, bind_eq_ok.mpr ⟨(), validate_eq_ok.mpr valid, rfl⟩⟩

theorem Holds.unique {other : Settings} (held : Holds read fs path layer)
    (held' : Holds read fs path other) : layer = other :=
  Except.ok.inj ((loadFile_eq_ok.mpr held).symm.trans (loadFile_eq_ok.mpr held'))

theorem Holds.isFile (held : Holds read fs path layer) : fs.isFile path = true := by
  obtain ⟨content, readable, -⟩ := held
  obtain ⟨bytes, there, -⟩ := bind_eq_ok.mp readable
  exact FileSystem.isFile_of_read there

theorem loadFile_fails : (∃ e, loadFile read fs path = .error e) ↔ Unfit read fs path := by
  rw [unfit_iff]
  cases loaded : loadFile read fs path with
  | error e =>
    refine ⟨fun _ => ?_, fun _ => ⟨e, rfl⟩⟩
    rintro ⟨layer, held⟩
    cases loaded.symm.trans (loadFile_eq_ok.mpr held)
  | ok layer => exact ⟨nofun, fun none => absurd ⟨layer, loadFile_eq_ok.mp loaded⟩ none⟩

/-! ### Layers out of files -/

/-- The layer in the file that `named` tells of, or an empty one if it tells of none. -/
inductive LayerOf (read : Reader) (fs : FileSystem) (named : Path → Prop) : Settings → Prop where
  | file {path : Path} {layer : Settings} (found : named path) (held : Holds read fs path layer) :
      LayerOf read fs named layer
  | absent (none : ∀ path, ¬ named path) : LayerOf read fs named {}

theorem LayerOf.eq_empty {named : Path → Prop} (taken : LayerOf read fs named layer)
    (empty : ∀ path, named path → Holds read fs path {}) : layer = {} := by
  cases taken with
  | file found held => exact held.unique (empty _ found)
  | absent => rfl

theorem loadLayer_eq_ok {file : Option Path} :
    loadLayer read fs file = .ok layer ↔ LayerOf read fs (file = some ·) layer := by
  cases file with
  | none =>
    constructor
    · rintro ⟨⟩
      exact .absent nofun
    · rintro (⟨⟨⟩, -⟩ | -)
      rfl
  | some path =>
    constructor
    · exact fun loaded => .file rfl (loadFile_eq_ok.mp loaded)
    · rintro (⟨⟨⟩, held⟩ | none)
      · exact loadFile_eq_ok.mpr held
      · exact absurd rfl (none path)

theorem loadLayer_fails {file : Option Path} :
    (∃ e, loadLayer read fs file = .error e) ↔ ∃ path, file = some path ∧ Unfit read fs path := by
  cases file with
  | none => exact ⟨nofun, nofun⟩
  | some path =>
    constructor
    · exact fun failed => ⟨path, rfl, loadFile_fails.mp failed⟩
    · rintro ⟨_, ⟨⟩, unfit⟩
      exact loadFile_fails.mpr unfit

/-- The user's layer is the one in a file that is fit, and otherwise empty. Notice is given of a file
that is there and is unfit. -/
theorem loadGlobal_cases (file : Option Path) :
    (∃ path layer, file = some path ∧ Holds read fs path layer ∧
      loadGlobal read fs file = ([], layer)) ∨
    (∀ path, file = some path → Unfit read fs path) ∧ (loadGlobal read fs file).2 = {} ∧
      ((loadGlobal read fs file).1 ≠ [] ↔ ∃ path, file = some path ∧ fs.isFile path = true) := by
  cases file with
  | none => exact .inr ⟨nofun, rfl, fun notice => absurd rfl notice, nofun⟩
  | some path =>
    cases isFile : fs.isFile path with
    | false =>
      have unfit : Unfit read fs path := by
        rw [unfit_iff]
        rintro ⟨layer, held⟩
        cases isFile.symm.trans held.isFile
      have dropped : (some path).filter fs.isFile = none := Option.filter_some_neg (by simp [isFile])
      refine .inr ⟨by rintro _ ⟨⟩; exact unfit, ?_⟩
      simp [loadGlobal, dropped, isFile]
    | true =>
      have kept : (some path).filter fs.isFile = some path := Option.filter_some_pos isFile
      cases loaded : loadFile read fs path with
      | ok layer =>
        refine .inl ⟨path, layer, rfl, loadFile_eq_ok.mp loaded, ?_⟩
        simp [loadGlobal, kept, loaded]
      | error e =>
        have unfit : Unfit read fs path := loadFile_fails.mp ⟨e, loaded⟩
        refine .inr ⟨by rintro _ ⟨⟩; exact unfit, ?_⟩
        simp [loadGlobal, kept, loaded, isFile]

theorem loadGlobal_layerOf (file : Option Path) :
    LayerOf read fs (fun path => file = some path ∧ ¬ Unfit read fs path)
      (loadGlobal read fs file).2 := by
  rcases loadGlobal_cases file with ⟨path, layer, named, held, loaded⟩ | ⟨unfit, empty, -⟩
  · rw [loaded]
    exact .file ⟨named, fun unfit => unfit_iff.mp unfit ⟨layer, held⟩⟩ held
  · rw [empty]
    exact .absent fun path ⟨named, fit⟩ => fit (unfit path named)

theorem loadGlobal_notices (file : Option Path) :
    (loadGlobal read fs file).1 ≠ [] ↔
      ∃ path, file = some path ∧ fs.isFile path = true ∧ Unfit read fs path := by
  rcases loadGlobal_cases file with ⟨path, layer, rfl, held, loaded⟩ | ⟨unfit, -, notices⟩
  · rw [loaded]
    refine ⟨fun notice => absurd rfl notice, ?_⟩
    rintro ⟨_, ⟨⟩, -, unfit⟩
    exact absurd ⟨layer, held⟩ (unfit_iff.mp unfit)
  · rw [notices]
    refine exists_congr fun path => and_congr_right fun named => ?_
    exact ⟨fun isFile => ⟨isFile, unfit path named⟩, And.left⟩

end

/-! ### Fields of stacked layers -/

/-- The value that the last of the layers to set a field gives it. -/
def lastSet {α : Type} (field : Settings → Option α) (layers : List Settings) : Option α :=
  (layers.filterMap field).getLast?

section

variable {α : Type} (field : Settings → Option α)

theorem lastSet_cons (layer : Settings) (layers : List Settings) :
    lastSet field (layer :: layers) = (lastSet field layers).or (field layer) := by
  unfold lastSet
  cases set : field layer with
  | none => rw [List.filterMap_cons_none set, Option.or_none]
  | some value =>
    rw [List.filterMap_cons_some set, List.getLast?_cons]
    cases (layers.filterMap field).getLast? <;> rfl

/-- If a field of two layers is that of the upper one unless it is open there, a field of many layers
is set by the last that sets it. -/
theorem field_foldl_overlay
    (upperWins : ∀ lower upper, field (lower.overlay upper) = (field upper).or (field lower))
    (lowest : Settings) (layers : List Settings) :
    field (layers.foldl overlay lowest) = lastSet field (lowest :: layers) := by
  induction layers generalizing lowest with
  | nil => rw [lastSet_cons]; rfl
  | cons layer layers ih =>
    rw [List.foldl_cons, ih, lastSet_cons, upperWins, lastSet_cons, lastSet_cons, Option.or_assoc]

end

end Settings

open Settings (lastSet)

/-- Each field has the value that the last of the layers to set it gives it, or its default. -/
structure ResolvedSettings.SetBy (settings : ResolvedSettings) (layers : List Settings) : Prop where
  fenceLang : settings.fenceLang = (lastSet (·.fenceLang) layers).getD "typescript".toList
  unterminated : settings.unterminated = (lastSet (·.unterminated) layers).getD .fail
  extensions : settings.extensions = (lastSet (·.extensions) layers).getD
    (["ts", "tsx", "mts", "cts", "js", "jsx", "mjs", "cjs"].map String.toList)
  respectGitignore : settings.respectGitignore = (lastSet (·.respectGitignore) layers).getD true

namespace Settings

theorem resolve_setBy (lowest : Settings) (layers : List Settings) :
    (layers.foldl overlay lowest).resolve.SetBy (lowest :: layers) where
  fenceLang := congrArg (Option.getD · _)
    (field_foldl_overlay (·.fenceLang) (fun _ _ => rfl) lowest layers)
  unterminated := congrArg (Option.getD · _)
    (field_foldl_overlay (·.unterminated) (fun _ _ => rfl) lowest layers)
  extensions := congrArg (Option.getD · _)
    (field_foldl_overlay (·.extensions) (fun _ _ => rfl) lowest layers)
  respectGitignore := congrArg (Option.getD · _)
    (field_foldl_overlay (·.respectGitignore) (fun _ _ => rfl) lowest layers)

/-! ### Loading -/

section

variable (read : Reader) (fs : FileSystem) (global explicit : Option Path) (start : Path)

/-- Of the user's file, loading takes the layer alone. -/
theorem load_snd : (load read fs global start explicit).2 = (do
    let project ← loadLayer read fs (projectFile? fs start)
    let named ← loadLayer read fs explicit
    return ((loadGlobal read fs global).2.overlay project).overlay named) := rfl

theorem load_fails : (∃ e, (load read fs global start explicit).2 = .error e) ↔
    (∃ path, IsProjectFile fs start path ∧ Unfit read fs path) ∨
      ∃ path, explicit = some path ∧ Unfit read fs path := by
  simp only [← projectFile?_eq_some, ← loadLayer_fails, load_snd]
  cases loadLayer read fs (projectFile? fs start) with
  | error e => exact ⟨fun _ => .inl ⟨e, rfl⟩, fun _ => ⟨e, rfl⟩⟩
  | ok project =>
    cases loadLayer read fs explicit with
    | error e => exact ⟨fun _ => .inr ⟨e, rfl⟩, fun _ => ⟨e, rfl⟩⟩
    | ok named => exact ⟨nofun, nofun⟩

end

/-- Layers are loaded and resolved field by field. Loading fails exactly if the project has a
settings file, or one is named, and that file cannot be read, is malformed or breaks the rules. A
user's file that is not there or is unfit makes no difference to what is loaded, just as one that
sets nothing; notice is given of it if it is there. What is loaded, under the command line, gives
each field the value of the last layer that sets it, the user's being the lowest, then the project's,
the named one and the command line, and its default if none does. -/
theorem layers_resolved_in_order (read : Reader) (fs : FileSystem) (global explicit : Option Path)
    (start : Path) :
    ((∃ e, (load read fs global start explicit).2 = .error e) ↔
      (∃ path, IsProjectFile fs start path ∧ Unfit read fs path) ∨
        ∃ path, explicit = some path ∧ Unfit read fs path) ∧
    (∀ empty : Option Path, (∀ path ∈ global, Unfit read fs path) →
      (∀ path ∈ empty, Holds read fs path {}) →
      (load read fs global start explicit).2 = (load read fs empty start explicit).2) ∧
    ((load read fs global start explicit).1 ≠ [] ↔
      ∃ path, global = some path ∧ fs.isFile path = true ∧ Unfit read fs path) ∧
    ∀ settings, (load read fs global start explicit).2 = .ok settings →
      ∃ user project named,
        LayerOf read fs (fun path => global = some path ∧ ¬ Unfit read fs path) user ∧
        LayerOf read fs (IsProjectFile fs start) project ∧
        LayerOf read fs (explicit = some ·) named ∧
        ∀ arguments : CommandLine.Arguments,
          (settings.overlay arguments.settings).resolve.SetBy
            [user, project, named, arguments.settings] := by
  refine ⟨load_fails read fs global explicit start, ?_, loadGlobal_notices global, ?_⟩
  · intro empty unfit silent
    have absent := (loadGlobal_layerOf global).eq_empty fun path ⟨named, fit⟩ =>
      absurd (unfit path named) fit
    have blank := (loadGlobal_layerOf empty).eq_empty fun path ⟨named, _⟩ => silent path named
    rw [load_snd, load_snd, absent, blank]
  · intro settings loaded
    rw [load_snd] at loaded
    obtain ⟨project, fromProject, later⟩ := bind_eq_ok.mp loaded
    obtain ⟨named, fromNamed, same⟩ := bind_eq_ok.mp later
    cases same
    have found : (projectFile? fs start = some ·) = IsProjectFile fs start :=
      funext fun path => propext projectFile?_eq_some
    refine ⟨_, project, named, loadGlobal_layerOf global, ?_, loadLayer_eq_ok.mp fromNamed,
      fun arguments => resolve_setBy _ [project, named, arguments.settings]⟩
    rw [← found]
    exact loadLayer_eq_ok.mp fromProject

/-- An unfit file of the user is passed over; the language is the project's, whose file stands one
level up, the policy that of a named file, and the command line switches ignore files off. -/
theorem unfit_user_file_passed_over :
    let fs : FileSystem :=
      { entries := [(["user".toList], .file (Utf8.encode "fence_lang = 1".toList)),
          (["p".toList], .directory), (["p".toList, "src".toList], .directory),
          (["p".toList, ".literate.toml".toList],
            .file (Utf8.encode "fence_lang = \"tsx\"".toList)),
          (["named".toList], .file (Utf8.encode "unterminated = \"truncate\"".toList))] }
    let start := Path.ofString "/p/src"
    let arguments : CommandLine.Arguments := { noGitignore := true }
    ∃ settings user project named,
      (load ofToml fs (some (.ofString "/user")) start (some (.ofString "/named"))).2 =
        .ok settings ∧
      LayerOf ofToml fs (IsProjectFile fs start) project ∧
      (settings.overlay arguments.settings).resolve =
        ⟨"tsx".toList, .truncate, defaultExtensions, false⟩ ∧
      (settings.overlay arguments.settings).resolve.SetBy
        [user, project, named, arguments.settings] := by
  intro fs start arguments
  have loaded : (load ofToml fs (some (.ofString "/user")) start (some (.ofString "/named"))).2 =
      .ok { fenceLang := some "tsx".toList, unterminated := some .truncate } :=
    eq_ok_of_toOption (by decide +kernel)
  obtain ⟨-, -, -, layers⟩ := layers_resolved_in_order ofToml fs (some (.ofString "/user"))
    (some (.ofString "/named")) start
  obtain ⟨user, project, named, -, fromProject, -, setBy⟩ := layers _ loaded
  exact ⟨_, user, project, named, loaded, fromProject, by decide, setBy arguments⟩

end Settings

end Weave
