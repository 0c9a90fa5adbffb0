import Mathlib.Data.List.Basic
import Weave.Proofs.DocumentNames

/-!
Documents stay below the output directory. The path of a document has the components of that
directory and then names only: those in the path of its source, the last of them with the extension
of a document. The one exception is a source whose name is two dots and an extension. Of such a
name nothing but the dots is left, and the path leads up.
-/

namespace Weave

namespace Path

/-- The name that a component is, if it is one. -/
def Component.name? : Component → Option Text
  | .normal name => some name
  | _ => none

/-- The components of a path, without those of `base` in front of them if it is absolute. -/
def Below (base path : Path) (below : List Component) : Prop :=
  path.components = (if path.isAbsolute then base.components else []) ++ below

theorem Below.unique {base path : Path} {below below' : List Component}
    (stands : Below base path below) (stands' : Below base path below') : below = below' :=
  List.append_cancel_left (stands.symm.trans stands')

/-- The name with the extension of a document, in place of the one it has or behind it if it has
none. A dot in front of a name begins no extension. -/
def Retitled (name title : Text) : Prop :=
  (∃ stem extension, stem ≠ [] ∧ '.' ∉ extension ∧ name = stem ++ '.' :: extension ∧
    title = stem ++ ".md".toList) ∨
  (∀ stem extension, '.' ∉ extension → name = stem ++ '.' :: extension → stem = []) ∧
    title = name ++ ".md".toList

theorem Retitled.suffix {name title : Text} (retitled : Retitled name title) :
    ".md".toList <:+ title := by
  rcases retitled with ⟨stem, -, -, -, -, rfl⟩ | ⟨-, rfl⟩
  · exact List.suffix_append stem _
  · exact List.suffix_append name _

theorem stripBase?_eq_some {base path : Path} {below : List Component} :
    stripBase? base path = some below ↔ path.components = base.components ++ below := by
  unfold stripBase?
  split
  · next starts =>
    obtain ⟨rest, whole⟩ := List.isPrefixOf_iff_prefix.mp starts
    rw [← whole, List.drop_left, Option.some_inj, List.append_cancel_left_eq]
  · next other =>
    refine ⟨nofun, fun whole => absurd ?_ other⟩
    rw [whole]
    exact List.isPrefixOf_iff_prefix.mpr (List.prefix_append _ _)

/-! ### Components of joined paths -/

/-- The components that the pieces of a path between its slashes stand for. -/
def pieceComponents : List Text → List Component
  | [] => []
  | piece :: pieces => (componentOf true piece).toList ++ pieces.filterMap (componentOf false)

theorem map_locate (offset : Nat) (pieces : List Text) :
    (locate false offset pieces).map Prod.fst = pieces.filterMap (componentOf false) := by
  induction pieces generalizing offset with
  | nil => rfl
  | cons piece pieces ih =>
    rw [locate, List.filterMap_cons]
    split
    · next component stands => rw [stands, List.map_cons, ih]
    · next none => rw [none, ih]

theorem map_locate_front (offset : Nat) (pieces : List Text) :
    (locate true offset pieces).map Prod.fst = pieceComponents pieces := by
  cases pieces with
  | nil => rfl
  | cons piece pieces =>
    rw [locate, pieceComponents]
    split
    · next component stands => rw [stands, List.map_cons, map_locate, Option.toList_some]; rfl
    · next none => rw [none, map_locate, Option.toList_none]; rfl

theorem components_eq (path : Path) :
    path.components =
      (if path.isAbsolute then [.root] else []) ++ pieceComponents (splitSlashes path.text) := by
  unfold components located
  split
  · next rest text_eq =>
    have pieces : splitSlashes path.text = [] :: splitSlashes rest := by
      rw [text_eq, splitSlashes]
      exact List.splitOn_append_cons_self [] rest
    rw [List.map_cons, map_locate, isAbsolute, pieces, text_eq]
    rfl
  · next relative =>
    have notAbsolute : path.isAbsolute = false := by
      rw [isAbsolute, beq_eq_false_iff_ne]
      intro starts
      obtain ⟨rest, text_eq⟩ := List.head?_eq_some_iff.mp starts
      exact relative rest text_eq
    rw [map_locate_front, notAbsolute]
    rfl

theorem pieceComponents_append {front : List Text} (inhabited : front ≠ []) (pieces : List Text) :
    pieceComponents (front ++ pieces) =
      pieceComponents front ++ pieces.filterMap (componentOf false) := by
  obtain ⟨piece, more, rfl⟩ := List.exists_cons_of_ne_nil inhabited
  rw [List.cons_append, pieceComponents, pieceComponents, List.filterMap_append, List.append_assoc]

/-- The pieces in front of what is put behind a path stand for the components of the path. -/
theorem pieceComponents_frontPieces (path : Path) :
    pieceComponents path.frontPieces = pieceComponents (splitSlashes path.text) := by
  unfold frontPieces
  split
  · next empty =>
    rw [empty]
    rfl
  · split
    · next closed =>
      obtain ⟨front, text_eq⟩ := List.getLast?_eq_some_iff.mp closed
      have pieces : splitSlashes path.text = splitSlashes front ++ [[]] := by
        rw [text_eq, splitSlashes]
        exact List.splitOn_append_cons_self front []
      have inhabited : splitSlashes front ≠ [] := List.splitOn_ne_nil '/' front
      rw [pieces, pieceComponents_append inhabited, text_eq, List.dropLast_concat]
      exact (List.append_nil _).symm
    · rfl

/-- What a name, or two dots, stand for in a path. -/
def componentFor (name : Text) : Component := if name = ['.', '.'] then .parent else .normal name

theorem componentOf_eq {name : Text} (leads : name = ['.', '.'] ∨ IsName name) (front : Bool) :
    componentOf front name = some (componentFor name) := by
  rcases leads with rfl | isName
  · rfl
  · simp [componentOf, componentFor, isName.inhabited, isName.notHere, isName.notUp]

theorem componentFor_of_isName {name : Text} (isName : IsName name) :
    componentFor name = .normal name := if_neg isName.notUp

theorem pieceComponents_append_names (front : List Text) {names : List Text}
    (lead : ∀ name ∈ names, name = ['.', '.'] ∨ IsName name) :
    pieceComponents (front ++ names) = pieceComponents front ++ names.map componentFor := by
  have behind {names : List Text} (lead : ∀ name ∈ names, name = ['.', '.'] ∨ IsName name) :
      names.filterMap (componentOf false) = names.map componentFor :=
    List.filterMap_eq_map_iff_forall_eq_some.mpr fun name listed =>
      componentOf_eq (lead name listed) false
  cases front with
  | cons piece pieces => rw [pieceComponents_append (List.cons_ne_nil piece pieces), behind lead]
  | nil =>
    cases names with
    | nil => rfl
    | cons name names =>
      obtain ⟨first, later⟩ := List.forall_mem_cons.mp lead
      change (componentOf true name).toList ++ names.filterMap (componentOf false) = _
      rw [componentOf_eq first, behind later]
      rfl

/-- Names that are put behind a path stand behind its components. -/
theorem components_join_ofNames (path : Path) {names : List Text} (inhabited : names ≠ [])
    (lead : ∀ name ∈ names, name = ['.', '.'] ∨ IsName name) :
    (path.join (ofNames names)).components = path.components ++ names.map componentFor := by
  have clean : ∀ name ∈ names, name ≠ [] ∧ '/' ∉ name := by
    intro name listed
    rcases lead name listed with rfl | isName
    · exact ⟨by decide, by decide⟩
    · exact ⟨isName.inhabited, isName.noSlash⟩
  obtain ⟨pieces, absolute⟩ := path.join_ofNames inhabited clean
  rw [components_eq, pieces, absolute, components_eq path, List.append_assoc,
    ← pieceComponents_frontPieces, pieceComponents_append_names _ lead]

/-! ### Extensions -/

theorem takeWhile_of_not_mem {text : Text} (noDot : '.' ∉ text) (more : Text) :
    (text.reverse ++ more).takeWhile (· != '.') = text.reverse ++ more.takeWhile (· != '.') := by
  refine List.takeWhile_append_of_pos fun c member => ?_
  rw [bne_iff_ne]
  rintro rfl
  exact noDot (List.mem_reverse.mp member)

/-- The last dot of a name cuts it, unless nothing stands in front of it. -/
theorem splitName_append {stem extension : Text} (noDot : '.' ∉ extension) :
    splitName (stem ++ '.' :: extension) =
      if stem ++ '.' :: extension = ['.', '.'] ∨ stem = [] then (stem ++ '.' :: extension, none)
      else (stem, some extension) := by
  -- From the end of the name, the first dot is the one in front of the extension.
  have behind : ((stem ++ '.' :: extension).reverse.takeWhile (· != '.')).reverse = extension := by
    rw [List.reverse_append, List.reverse_cons, List.append_assoc, takeWhile_of_not_mem noDot]
    simp
  have length : (stem ++ '.' :: extension).length = stem.length + extension.length + 1 := by
    rw [List.length_append, List.length_cons, Nat.add_assoc]
  have front : (stem ++ '.' :: extension).take
      ((stem ++ '.' :: extension).length - extension.length - 1) = stem := by
    have short : (stem ++ '.' :: extension).length - extension.length - 1 = stem.length := by omega
    rw [short, List.take_left]
  have shorter : ¬ extension.length = (stem ++ '.' :: extension).length := by omega
  simp only [splitName, behind, front, shorter, List.isEmpty_iff, decide_false, Bool.or_false,
    Bool.or_eq_true, decide_eq_true_eq]

theorem splitName_of_not_mem {name : Text} (noDot : '.' ∉ name) :
    splitName name = (name, none) := by
  have behind : name.reverse.takeWhile (· != '.') = name.reverse := by
    simpa using takeWhile_of_not_mem noDot []
  simp only [splitName, behind, List.reverse_reverse]
  simp

theorem splitName_of_extension {stem extension : Text} (inhabited : stem ≠ [])
    (noDot : '.' ∉ extension) (notUp : stem ++ '.' :: extension ≠ ['.', '.']) :
    splitName (stem ++ '.' :: extension) = (stem, some extension) := by
  rw [splitName_append noDot, if_neg (not_or.mpr ⟨notUp, inhabited⟩)]

/-- A name without a dot, but for one in front of it, is not cut. -/
theorem splitName_of_no_extension {name : Text}
    (whole : ∀ stem extension, '.' ∉ extension → name = stem ++ '.' :: extension → stem = []) :
    splitName name = (name, none) := by
  by_cases dot : '.' ∈ name
  · obtain ⟨later, earlier, reversed, noDot⟩ :=
      List.eq_append_cons_of_mem (List.mem_reverse.mpr dot)
    have cut : name = earlier.reverse ++ '.' :: later.reverse := by
      rw [← List.reverse_reverse name, reversed]
      simp
    have noDot' : '.' ∉ later.reverse := fun member => noDot (List.mem_reverse.mp member)
    rw [cut, splitName_append noDot', if_pos (.inr (whole _ _ noDot' cut))]
  · exact splitName_of_not_mem dot

end Path

namespace Delivery

open Weave.Path (IsName Retitled Below)

/-- A name of two dots and an extension. -/
def Dotted (name : Text) : Prop := ∃ extension, '.' ∉ extension ∧ name = '.' :: '.' :: extension

theorem documentName_of_dotted {name : Text} (isName : IsName name) (dotted : Dotted name) :
    documentName name = ['.', '.'] := by
  obtain ⟨extension, noDot, rfl⟩ := dotted
  -- The second dot cuts the name, which leaves the first one for a stem.
  have split : Path.splitName ('.' :: '.' :: extension) = (['.'], some extension) :=
    Path.splitName_of_extension (List.cons_ne_nil '.' []) noDot isName.notUp
  rw [documentName, split]
  rfl

theorem documentName_of_splitName {name stem : Text} {extension : Option Text}
    (split : Path.splitName name = (stem, extension)) (other : stem = ['.'] → extension = none) :
    documentName name = stem ++ ".md".toList := by
  rw [documentName, split]
  split
  · next same =>
    obtain ⟨rfl, rfl⟩ := Prod.mk.inj same
    cases other rfl
  · next same =>
    obtain ⟨rfl, -⟩ := Prod.mk.inj same
    rfl

theorem documentName_retitled {name : Text} (isName : IsName name) (plain : ¬ Dotted name) :
    Retitled name (documentName name) := by
  by_cases extended :
      ∃ stem extension, stem ≠ [] ∧ '.' ∉ extension ∧ name = stem ++ '.' :: extension
  · obtain ⟨stem, extension, inhabited, noDot, rfl⟩ := extended
    refine .inl ⟨stem, extension, inhabited, noDot, rfl, ?_⟩
    refine documentName_of_splitName
      (Path.splitName_of_extension inhabited noDot isName.notUp) fun dot => ?_
    subst dot
    exact absurd ⟨extension, noDot, rfl⟩ plain
  · have whole : ∀ stem extension, '.' ∉ extension → name = stem ++ '.' :: extension →
        stem = [] := by
      intro stem extension noDot cut
      by_contra inhabited
      exact extended ⟨stem, extension, inhabited, noDot, cut⟩
    have uncut := Path.splitName_of_no_extension whole
    exact .inr ⟨whole, documentName_of_splitName uncut fun _ => rfl⟩

/-! ### The names of a source -/

/-- The names that lead from the output directory to a document, while the last of them still is
that of the source: the names below `baseDir`. A source outside it, or without such names, has
only the name it ends in, and if there is none a fixed one. -/
inductive SourceNames (baseDir source : Path) : List Text → Prop where
  | inside {below : List Path.Component} (stands : Below baseDir source below)
      (named : below.filterMap Path.Component.name? ≠ []) :
      SourceNames baseDir source (below.filterMap Path.Component.name?)
  | outside (unnamed : ∀ below, Below baseDir source below →
      below.filterMap Path.Component.name? = []) :
      SourceNames baseDir source [source.fileName?.getD "document".toList]

theorem namesBelow_cases (baseDir source : Path) :
    (∃ below, Below baseDir source below ∧
      namesBelow baseDir source = below.filterMap Path.Component.name?) ∨
    (∀ below, ¬ Below baseDir source below) ∧ namesBelow baseDir source = [] := by
  unfold namesBelow Below
  split
  · cases strip : Path.stripBase? baseDir source with
    | some below => exact .inl ⟨below, Path.stripBase?_eq_some.mp strip, rfl⟩
    | none =>
      refine .inr ⟨fun below whole => ?_, rfl⟩
      rw [Path.stripBase?_eq_some.mpr whole] at strip
      cases strip
  · exact .inl ⟨source.components, rfl, rfl⟩

theorem sourceNames_iff {baseDir source : Path} {names : List Text} :
    SourceNames baseDir source names ↔ names = documentNames baseDir source := by
  rw [documentNames_eq]
  rcases namesBelow_cases baseDir source with ⟨below, stands, listed⟩ | ⟨apart, empty⟩
  · rw [listed]
    constructor
    · rintro (⟨stands', named⟩ | unnamed)
      · rw [stands'.unique stands] at named ⊢
        rw [if_neg named]
      · rw [if_pos (unnamed below stands)]
    · rintro rfl
      split
      · next unnamed =>
        refine .outside fun below' stands' => ?_
        rw [stands'.unique stands, unnamed]
      · next named => exact .inside stands named
  · rw [if_pos empty]
    constructor
    · rintro (⟨stands, -⟩ | -)
      · exact absurd stands (apart _)
      · rfl
    · rintro rfl
      exact .outside fun below stands => absurd stands (apart below)

/-! ### Documents below the output directory -/

/-- The path has the components of `outDir` and then the names of the source, the last of them with
the extension of a document. -/
def Mirrors (baseDir outDir source target : Path) : Prop :=
  ∃ names last title, SourceNames baseDir source (names ++ [last]) ∧ Retitled last title ∧
    ".md".toList <:+ title ∧
    target.components = outDir.components ++ (names ++ [title]).map .normal

theorem SourceNames.isName {baseDir source : Path} {names : List Text}
    (listed : SourceNames baseDir source names) : ∀ name ∈ names, IsName name := by
  rw [sourceNames_iff.mp listed]
  exact fun name member => isName_of_mem_documentNames member

theorem sourceNames_concat (baseDir source : Path) :
    ∃ names last, SourceNames baseDir source (names ++ [last]) := by
  obtain empty | ⟨names, last, split⟩ := List.eq_nil_or_concat (documentNames baseDir source)
  · exact absurd empty (documentNames_ne_nil baseDir source)
  · exact ⟨names, last, sourceNames_iff.mpr (List.concat_eq_append ▸ split.symm)⟩

theorem components_documentPath {baseDir source : Path} (outDir : Path) {names : List Text}
    {last : Text} (listed : SourceNames baseDir source (names ++ [last])) :
    (documentPath baseDir outDir source).components =
      outDir.components ++ (names.map .normal ++ [Path.componentFor (documentName last)]) := by
  obtain ⟨isNames, isLast⟩ := List.forall_mem_append.mp listed.isName
  have target : targetNames baseDir source = names ++ [documentName last] := by
    rw [targetNames, ← sourceNames_iff.mp listed, List.dropLast_concat, List.getLastD_concat]
  have lead : ∀ name ∈ names ++ [documentName last], name = ['.', '.'] ∨ IsName name := by
    refine List.forall_mem_append.mpr ⟨fun name member => .inr (isNames name member), ?_⟩
    exact List.forall_mem_singleton.mpr
      (documentName_cases (isLast last (List.mem_singleton_self last)))
  have normal : names.map Path.componentFor = names.map .normal :=
    List.map_congr_left fun name member => Path.componentFor_of_isName (isNames name member)
  rw [documentPath_eq_join, target, Path.components_join_ofNames outDir (by simp) lead,
    List.map_append, normal]
  rfl

theorem mirrors_of_not_dotted {baseDir source : Path} (outDir : Path) {names : List Text}
    {last : Text} (listed : SourceNames baseDir source (names ++ [last])) (plain : ¬ Dotted last) :
    Mirrors baseDir outDir source (documentPath baseDir outDir source) := by
  have retitled := documentName_retitled (listed.isName last (by simp)) plain
  have named : documentName last ≠ ['.', '.'] := by
    intro dots
    have short := retitled.suffix.length_le
    rw [dots] at short
    exact absurd short (by decide)
  refine ⟨names, last, documentName last, listed, retitled, retitled.suffix, ?_⟩
  rw [components_documentPath outDir listed, Path.componentFor, if_neg named, List.map_append]
  rfl

theorem components_of_dotted {baseDir source : Path} (outDir : Path) {names : List Text}
    {last : Text} (listed : SourceNames baseDir source (names ++ [last])) (dotted : Dotted last) :
    (documentPath baseDir outDir source).components =
      outDir.components ++ (names.map .normal ++ [.parent]) := by
  rw [components_documentPath outDir listed,
    documentName_of_dotted (listed.isName last (by simp)) dotted]
  rfl

theorem not_mirrors_of_dotted {baseDir source : Path} (outDir : Path) {names : List Text}
    {last : Text} (listed : SourceNames baseDir source (names ++ [last])) (dotted : Dotted last) :
    ¬ Mirrors baseDir outDir source (documentPath baseDir outDir source) := by
  -- Whatever the names are, the last component would be a name.
  rintro ⟨names', last', title, -, -, -, mirrored⟩
  rw [components_of_dotted outDir listed dotted, List.append_cancel_left_eq,
    List.map_append] at mirrored
  obtain ⟨-, up⟩ := List.append_inj' mirrored rfl
  cases up

/-- A document stays below the output directory, under the names of its source, exactly if the name
of the source is not two dots and an extension. The path of a document of such a name leads up from
where the document belongs. -/
theorem document_stays_below (baseDir outDir source : Path) :
    (Mirrors baseDir outDir source (documentPath baseDir outDir source) ↔
      ¬ ∃ names last, SourceNames baseDir source (names ++ [last]) ∧ Dotted last) ∧
    ∀ names last, SourceNames baseDir source (names ++ [last]) → Dotted last →
      (documentPath baseDir outDir source).components =
        outDir.components ++ (names.map .normal ++ [.parent]) := by
  refine ⟨⟨?_, fun plain => ?_⟩, fun names last => components_of_dotted outDir⟩
  · rintro mirrored ⟨names, last, listed, dotted⟩
    exact not_mirrors_of_dotted outDir listed dotted mirrored
  · obtain ⟨names, last, listed⟩ := sourceNames_concat baseDir source
    exact mirrors_of_not_dotted outDir listed fun dotted => plain ⟨names, last, listed, dotted⟩

example : documentPath (.ofString "/project") (.ofString "out")
    (.ofString "/project/a/../.b/c.d.ts/") = .ofString "out/a/.b/c.d.md" := by decide

/-- The document of `..ts` is not put into the output directory, but has the path of the directory
above it. -/
theorem dotted_name_leads_up :
    (documentPath (.ofString "/project") (.ofString "out") (.ofString "..ts")).components =
      [.normal "out".toList, .parent] ∧
    ¬ Mirrors (.ofString "/project") (.ofString "out") (.ofString "..ts")
      (documentPath (.ofString "/project") (.ofString "out") (.ofString "..ts")) := by
  have listed : SourceNames (.ofString "/project") (.ofString "..ts") ([] ++ ["..ts".toList]) :=
    sourceNames_iff.mpr (by decide)
  have dotted : Dotted "..ts".toList := ⟨"ts".toList, by decide, rfl⟩
  exact ⟨components_of_dotted _ listed dotted, not_mirrors_of_dotted _ listed dotted⟩

end Delivery

end Weave
