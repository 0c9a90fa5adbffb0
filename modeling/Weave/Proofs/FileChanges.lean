import Weave.FileSystem
import Weave.Proofs.Fallible

/-!
What operations on files leave as it was, whether they succeed or not. Making a directory puts one
where nothing was, and writing a file puts one where no directory was; everything else stays. So
directories stay for good, a path that leads somewhere goes on leading there, and a file is changed
only by writing to it, under whichever of its names.
-/

namespace Weave

namespace FileSystem

variable {fs fs' : FileSystem} {l m : Location} {entry : Entry}

/-! ### Entries -/

@[simp] theorem get?_nil (fs : FileSystem) : fs.get? [] = some .directory := rfl

theorem home_of_not_linked (plain : fs.links.lookup l = none) : fs.home l = l := by
  rw [home, plain]
  split
  · next root => exact root.symm
  · rfl

/-- Replacing what is listed under a location changes what is found there only. -/
theorem lookup_replaced (entries : List (Location × Entry)) (l m : Location) (entry : Entry) :
    (entries.map fun old => if old.1 == l then (l, entry) else old).lookup m =
      if m = l then (entries.lookup m).map fun _ => entry else entries.lookup m := by
  induction entries with
  | nil => simp
  | cons old entries ih =>
    obtain ⟨k, held⟩ := old
    rw [List.map_cons]
    by_cases here : k = l
    · subst here
      by_cases same : m = k
      · subst same
        simp
      · have other : (m == k) = false := beq_eq_false_iff_ne.mpr same
        simpa [List.lookup_cons, other, same] using ih
    · have kept : (k == l) = false := beq_eq_false_iff_ne.mpr here
      by_cases same : m = k
      · subst same
        simp [kept, here]
      · have other : (m == k) = false := beq_eq_false_iff_ne.mpr same
        simpa [List.lookup_cons, kept, other] using ih

/-- What is listed under a location is found under all its names, and nothing else changes. -/
theorem get?_put (fs : FileSystem) (inside : l ≠ []) (entry : Entry) (m : Location) :
    (fs.put l entry).get? m = if fs.home m = l then some entry else fs.get? m := by
  have home_eq : (fs.put l entry).home m = fs.home m := rfl
  rw [get?, get?, home_eq]
  generalize fs.home m = h
  by_cases root : h = []
  · subst root
    rw [if_pos rfl, if_neg (Ne.symm inside), if_pos rfl]
  · rw [if_neg root, if_neg root, put]
    dsimp only
    split
    · next listed =>
      rw [lookup_replaced]
      split
      · next same =>
        subst same
        have found : (fs.entries.lookup h).isSome = true := by simpa using listed
        obtain ⟨held, here⟩ := Option.isSome_iff_exists.mp found
        rw [here]
        rfl
      · rfl
    · next unlisted =>
      rw [List.lookup_append]
      split
      · next same =>
        subst same
        have missing : fs.entries.lookup h = none := by
          rw [List.lookup_eq_none_iff]
          rintro ⟨k, held⟩ member
          simp only [List.any_eq_true, beq_iff_eq, not_exists, not_and] at unlisted
          exact bne_iff_ne.mpr (Ne.symm (unlisted (k, held) member))
        rw [missing, Option.none_or, List.lookup_cons_self]
      · next other =>
        have apart : (h == l) = false := beq_eq_false_iff_ne.mpr other
        rw [List.lookup_cons, apart, List.lookup_nil, Option.or_none]

/-! ### Where a path leads -/

/-- Where a piece of a path leads from a location. -/
def descend (fs : FileSystem) (location : Location) (piece : Text) : Location :=
  if piece = [] || piece = ['.'] then fs.home location
  else if piece = ['.', '.'] then (fs.home location).dropLast
  else fs.home location ++ [piece]

theorem follow_cons {start : Location} {piece : Text} {pieces : List Text} :
    fs.follow start (piece :: pieces) = .ok l ↔
      fs.get? start = some .directory ∧ fs.follow (fs.descend start piece) pieces = .ok l := by
  rw [follow, descend]
  cases fs.get? start with
  | none => exact ⟨nofun, nofun⟩
  | some entry =>
    cases entry with
    | file content => exact ⟨nofun, nofun⟩
    | directory =>
      dsimp only
      split
      · exact ⟨fun leads => ⟨rfl, leads⟩, And.right⟩
      · split
        · exact ⟨fun leads => ⟨rfl, leads⟩, And.right⟩
        · exact ⟨fun leads => ⟨rfl, leads⟩, And.right⟩

/-- Pieces lead where their names say, if every one of them stands in a directory. -/
theorem follow_eq_ok {start : Location} {pieces : List Text} :
    fs.follow start pieces = .ok l ↔
      pieces.foldl fs.descend start = l ∧
        ∀ front piece behind, pieces = front ++ piece :: behind →
          fs.get? (front.foldl fs.descend start) = some .directory := by
  induction pieces generalizing start with
  | nil => simp [follow]
  | cons piece pieces ih =>
    rw [follow_cons, ih, List.foldl_cons]
    constructor
    · rintro ⟨here, rfl, further⟩
      refine ⟨rfl, fun front next behind split => ?_⟩
      rcases List.cons_eq_append_iff.mp split with ⟨rfl, -⟩ | ⟨front', rfl, rest⟩
      · exact here
      · exact further front' next behind rest
    · rintro ⟨rfl, all⟩
      refine ⟨all [] piece pieces rfl, rfl, fun front next behind split => ?_⟩
      exact all (piece :: front) next behind (by rw [split, List.cons_append])

/-- Where a path starts from. -/
def origin (fs : FileSystem) (path : Path) : Location :=
  if path.isAbsolute then [] else fs.workingDirectory

/-- A path leads where its pieces say, if each of them stands in a directory. -/
theorem locate_eq_ok {path : Path} :
    fs.locate path = .ok l ↔
      '\x00' ∉ path.text ∧ path.text ≠ [] ∧
        (Path.splitSlashes path.text).foldl fs.descend (fs.origin path) = l ∧
        ∀ front piece behind, Path.splitSlashes path.text = front ++ piece :: behind →
          fs.get? (front.foldl fs.descend (fs.origin path)) = some .directory := by
  unfold locate
  split
  · next named =>
    rw [List.contains_iff_mem] at named
    exact ⟨nofun, fun ⟨clean, _⟩ => absurd named clean⟩
  · next named =>
    rw [List.contains_iff_mem] at named
    split
    · next empty =>
      exact ⟨nofun, fun ⟨_, inhabited, _⟩ => absurd (List.isEmpty_iff.mp empty) inhabited⟩
    · next inhabited =>
      rw [List.isEmpty_iff] at inhabited
      dsimp only
      rw [follow_eq_ok]
      exact ⟨fun leads => ⟨named, inhabited, leads⟩, fun ⟨_, _, leads⟩ => leads⟩

/-! ### What stays -/

/-- Every directory stays one, and every file stays one; unless it is at a location of `written`, it
holds what it held. -/
structure Keeps (written : Location → Prop) (before after : FileSystem) : Prop where
  workingDirectory_eq : after.workingDirectory = before.workingDirectory
  links_eq : after.links = before.links
  directory : ∀ l, before.get? l = some .directory → after.get? l = some .directory
  file : ∀ l content, before.get? l = some (.file content) →
    ∃ later, after.get? l = some (.file later) ∧ (¬ written l → later = content)

/-- No file is written. -/
abbrev KeepsAll (before after : FileSystem) : Prop := Keeps (fun _ => False) before after

/-- The location under which what a path leads to is listed. -/
def homeOf? (fs : FileSystem) (path : Path) : Option Location :=
  (fs.locate path).toOption.map fs.home

/-- Two paths lead to one file. -/
def SameFile (fs : FileSystem) (p q : Path) : Prop :=
  fs.isFile q = true ∧ fs.homeOf? p = fs.homeOf? q

instance (fs : FileSystem) (p q : Path) : Decidable (fs.SameFile p q) :=
  inferInstanceAs (Decidable (_ ∧ _))

theorem homeOf?_of_locate {path : Path} (leads : fs.locate path = .ok l) :
    fs.homeOf? path = some (fs.home l) := by
  rw [homeOf?, leads]
  rfl

namespace Keeps

variable {written written' : Location → Prop} {fs'' : FileSystem}

theorem refl (written : Location → Prop) (fs : FileSystem) : Keeps written fs fs :=
  ⟨rfl, rfl, fun _ there => there, fun _ content there => ⟨content, there, fun _ => rfl⟩⟩

theorem mono (kept : Keeps written fs fs') (more : ∀ l, written l → written' l) :
    Keeps written' fs fs' := by
  refine ⟨kept.workingDirectory_eq, kept.links_eq, kept.directory, fun l content there => ?_⟩
  obtain ⟨later, stays, same⟩ := kept.file l content there
  exact ⟨later, stays, fun apart => same fun here => apart (more l here)⟩

theorem trans (first : Keeps written fs fs') (second : Keeps written fs' fs'') :
    Keeps written fs fs'' where
  workingDirectory_eq := second.workingDirectory_eq.trans first.workingDirectory_eq
  links_eq := second.links_eq.trans first.links_eq
  directory l there := second.directory l (first.directory l there)
  file l content there := by
    obtain ⟨middle, stays, same⟩ := first.file l content there
    obtain ⟨later, stays', same'⟩ := second.file l middle stays
    exact ⟨later, stays', fun apart => (same' apart).trans (same apart)⟩

theorem home_eq (kept : Keeps written fs fs') (l : Location) : fs'.home l = fs.home l := by
  rw [home, home, kept.links_eq]

theorem descend_eq (kept : Keeps written fs fs') : fs'.descend = fs.descend := by
  funext l piece
  rw [descend, descend, kept.home_eq]

theorem origin_eq (kept : Keeps written fs fs') (path : Path) : fs'.origin path = fs.origin path := by
  rw [origin, origin, kept.workingDirectory_eq]

/-- A path that leads somewhere goes on leading there. -/
theorem locate (kept : Keeps written fs fs') {path : Path} (leads : fs.locate path = .ok l) :
    fs'.locate path = .ok l := by
  rw [locate_eq_ok] at leads ⊢
  rw [kept.descend_eq, kept.origin_eq]
  obtain ⟨clean, inhabited, there, standing⟩ := leads
  refine ⟨clean, inhabited, there, fun front piece behind split => ?_⟩
  exact kept.directory _ (standing front piece behind split)

end Keeps

/-! ### Reading and writing -/

theorem lookup_eq_ok {path : Path} :
    fs.lookup path = .ok entry ↔ ∃ l, fs.locate path = .ok l ∧ fs.get? l = some entry := by
  unfold lookup
  rw [bind_eq_ok]
  refine exists_congr fun l => and_congr_right fun _ => ?_
  cases fs.get? l with
  | none => exact ⟨nofun, nofun⟩
  | some held => exact ⟨by rintro ⟨⟩; rfl, by rintro ⟨⟩; rfl⟩

theorem read_eq_ok {path : Path} {content : Bytes} :
    fs.read path = .ok content ↔
      ∃ l, fs.locate path = .ok l ∧ fs.get? l = some (.file content) := by
  rw [← lookup_eq_ok, read, bind_eq_ok]
  constructor
  · rintro ⟨held, found, taken⟩
    cases held with
    | directory => cases taken
    | file bytes =>
      cases taken
      exact found
  · exact fun found => ⟨_, found, rfl⟩

theorem isFile_iff {path : Path} : fs.isFile path = true ↔
    ∃ l content, fs.locate path = .ok l ∧ fs.get? l = some (.file content) := by
  unfold isFile
  split
  · next content found =>
    obtain ⟨l, leads, there⟩ := lookup_eq_ok.mp found
    exact ⟨fun _ => ⟨l, content, leads, there⟩, fun _ => rfl⟩
  · next other =>
    refine ⟨nofun, ?_⟩
    rintro ⟨l, content, leads, there⟩
    exact absurd (lookup_eq_ok.mpr ⟨l, leads, there⟩) (other content)

theorem isFile_of_read {path : Path} {content : Bytes} (held : fs.read path = .ok content) :
    fs.isFile path = true := by
  obtain ⟨l, leads, there⟩ := read_eq_ok.mp held
  exact isFile_iff.mpr ⟨l, content, leads, there⟩

/-- Only files that the paths lead to are written. -/
abbrev KeepsBut (paths : Path → Prop) (before after : FileSystem) : Prop :=
  Keeps (fun l => ∃ path, paths path ∧ after.homeOf? path = some (after.home l)) before after

namespace KeepsBut

variable {paths paths' : Path → Prop} {fs'' : FileSystem}

theorem mono (kept : KeepsBut paths fs fs') (more : ∀ path, paths path → paths' path) :
    KeepsBut paths' fs fs' := by
  refine Keeps.mono kept fun l => ?_
  rintro ⟨path, written, home_eq⟩
  exact ⟨path, more path written, home_eq⟩

theorem trans (first : KeepsBut paths fs fs') (second : KeepsBut paths fs' fs'') :
    KeepsBut paths fs fs'' := by
  -- A path that led to a file when it was written to still does so in the end.
  refine Keeps.trans (Keeps.mono first fun l => ?_) second
  rintro ⟨path, written, home_eq⟩
  obtain ⟨m, leads, same⟩ := Option.map_eq_some_iff.mp home_eq
  refine ⟨path, written, ?_⟩
  rw [homeOf?_of_locate (second.locate (eq_ok_of_toOption leads)), second.home_eq, second.home_eq,
    same]

/-- A file is read as before, if no path that is written to leads to it. -/
theorem read (kept : KeepsBut paths fs fs') {path : Path} {content : Bytes}
    (held : fs.read path = .ok content)
    (apart : ∀ other, paths other → ¬ fs'.SameFile other path) : fs'.read path = .ok content := by
  obtain ⟨l, leads, there⟩ := read_eq_ok.mp held
  obtain ⟨later, stays, same⟩ := kept.file l content there
  have leads' := kept.locate leads
  have held' : fs'.read path = .ok later := read_eq_ok.mpr ⟨l, leads', stays⟩
  rw [held', same]
  rintro ⟨other, written, home_eq⟩
  exact apart other written ⟨isFile_of_read held', home_eq.trans (homeOf?_of_locate leads').symm⟩

end KeepsBut

/-- The root is a directory. -/
theorem home_ne_nil (free : fs.get? l ≠ some .directory) : fs.home l ≠ [] := by
  intro root
  exact free (if_pos root)

/-- Where nothing is, anything can be put. -/
theorem keeps_put_new (new : fs.get? l = none) (entry : Entry) :
    KeepsAll fs (fs.put (fs.home l) entry) := by
  have inside : fs.home l ≠ [] := home_ne_nil (by simp [new])
  have others (m : Location) (held : Entry) (there : fs.get? m = some held) :
      (fs.put (fs.home l) entry).get? m = some held := by
    rw [get?_put fs inside, if_neg, there]
    intro same
    rw [get?, same, ← get?, new] at there
    cases there
  exact ⟨rfl, rfl, fun m there => others m _ there,
    fun m content there => ⟨content, others m _ there, fun _ => rfl⟩⟩

/-- Writing to a file changes what is read under its names. -/
theorem keeps_put_file (free : fs.get? l ≠ some .directory) (content : Bytes) :
    Keeps (fun m => fs.home l = fs.home m) fs (fs.put (fs.home l) (.file content)) := by
  have inside := home_ne_nil free
  refine ⟨rfl, rfl, fun m there => ?_, fun m held there => ?_⟩
  · rw [get?_put fs inside, if_neg, there]
    intro same
    rw [get?, same] at there
    exact free there
  · rw [get?_put fs inside]
    split
    · next same => exact ⟨content, rfl, fun apart => absurd same.symm apart⟩
    · exact ⟨held, there, fun _ => rfl⟩

/-- The files as an attempt to change them leaves them. -/
def left {ε : Type} : Except (Setback ε) FileSystem → FileSystem
  | .ok files => files
  | .error setback => setback.files

theorem left_mapError {ε ε' : Type} (f : ε → ε') (result : Except (Setback ε) FileSystem) :
    left (result.mapError (·.map f)) = left result := by
  cases result <;> rfl

/-- A new directory takes the place of nothing. -/
theorem createDirectory_keeps {path : Path} (made : fs.createDirectory path = .ok fs') :
    KeepsAll fs fs' := by
  unfold createDirectory at made
  obtain ⟨l, -, put⟩ := bind_eq_ok.mp made
  split at put
  · next plain new =>
    split at put
    · cases put
      rw [← home_of_not_linked plain]
      exact keeps_put_new new .directory
    · cases put
    · cases put
  · cases put

theorem ensureDirectory_keeps {path : Path} (made : fs.ensureDirectory path = .ok fs') :
    KeepsAll fs fs' := by
  unfold ensureDirectory at made
  split at made
  · next created =>
    cases made
    exact createDirectory_keeps created
  · split at made
    · cases made
      exact .refl _ _
    · cases made

theorem createAll_keeps (fs : FileSystem) (paths : List Path) :
    KeepsAll fs (left (fs.createAll paths)) := by
  induction paths with
  | nil => exact .refl _ _
  | cons path ancestors ih =>
    rw [createAll]
    split
    · exact .refl _ _
    · split
      · next created => exact createDirectory_keeps created
      · cases above : fs.createAll ancestors with
        | error setback =>
          rw [above] at ih
          exact ih
        | ok made =>
          rw [above] at ih
          have step : left (do
              let above ← .ok made
              (above.ensureDirectory path).mapError (⟨·, above⟩)) =
              left ((made.ensureDirectory path).mapError (Setback.mk · made)) := rfl
          rw [step]
          cases last : made.ensureDirectory path with
          | error cause => exact ih
          | ok fs' => exact ih.trans (ensureDirectory_keeps last)
      · split
        · exact .refl _ _
        · exact .refl _ _

/-- Making directories changes nothing that is there, also if not all of them can be made. -/
theorem createDirectories_keeps (fs : FileSystem) (path : Path) :
    KeepsAll fs (left (fs.createDirectories path)) :=
  createAll_keeps fs path.ancestors

/-- Writing to a path either changes nothing, or the path leads to no directory and the file at its
end is filled. -/
theorem write_cases (fs : FileSystem) (path : Path) (content : Bytes) :
    (∃ cause, fs.write path content = .error ⟨cause, fs⟩) ∨
      ∃ l, fs.locate path = .ok l ∧ fs.get? l ≠ some .directory ∧
        fs.write path content = fs.fill (fs.home l) content := by
  unfold write
  cases fs.locate path with
  | error cause => exact .inl ⟨cause, rfl⟩
  | ok l =>
    have step : ((Except.ok l).mapError (Setback.mk · fs) >>= fun l => fs.writeAt l content) =
        fs.writeAt l content := rfl
    rw [step, writeAt]
    split
    · exact .inl ⟨_, rfl⟩
    · next free =>
      split
      · exact .inr ⟨l, rfl, free, rfl⟩
      · exact .inl ⟨_, rfl⟩
      · exact .inl ⟨_, rfl⟩

theorem fill_keeps (free : fs.get? l ≠ some .directory) (content : Bytes) :
    Keeps (fun m => fs.home l = fs.home m) fs (left (fs.fill (fs.home l) content)) := by
  let later : FileSystem := { fs with shortages := fs.shortages.tail }
  have used : Keeps (fun m => fs.home l = fs.home m) fs later :=
    ⟨rfl, rfl, fun _ there => there, fun _ held there => ⟨held, there, fun _ => rfl⟩⟩
  have freeLater : later.get? l ≠ some .directory := free
  unfold fill
  dsimp only
  split
  · exact used.trans (keeps_put_file freeLater _)
  · exact used.trans (keeps_put_file freeLater _)

/-- Writing changes no file but the one that the path leads to, also if the disk takes only a part. -/
theorem write_keeps (fs : FileSystem) (path : Path) (content : Bytes) :
    KeepsBut (· = path) fs (left (fs.write path content)) := by
  rcases write_cases fs path content with ⟨cause, failed⟩ | ⟨l, leads, free, filled⟩
  · rw [failed]
    exact .refl _ _
  · rw [filled]
    have kept := fill_keeps free content
    refine kept.mono fun m same => ⟨path, rfl, ?_⟩
    rw [homeOf?_of_locate (kept.locate leads), kept.home_eq, kept.home_eq, same]

/-- What has been written is read back. -/
theorem read_of_write {path : Path} {content : Bytes} (wrote : fs.write path content = .ok fs') :
    fs'.read path = .ok content := by
  rcases write_cases fs path content with ⟨cause, failed⟩ | ⟨l, leads, free, filled⟩
  · cases failed.symm.trans wrote
  · have kept := fill_keeps free content
    rw [← filled, wrote] at kept
    refine read_eq_ok.mpr ⟨l, kept.locate leads, ?_⟩
    rw [filled] at wrote
    unfold fill at wrote
    dsimp only at wrote
    split at wrote
    · next fits =>
      cases wrote
      rw [get?_put _ (home_ne_nil free), List.take_of_length_le fits]
      exact if_pos rfl
    · cases wrote

end FileSystem

end Weave
