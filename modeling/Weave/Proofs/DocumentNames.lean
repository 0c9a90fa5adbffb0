import Weave.Delivery
import Weave.Proofs.FileChanges

/-!
The names under which documents are written. They are names that stand in the paths of sources, so
none of them leads up or holds a slash; the last one takes on the extension of a document, which
leaves nothing but dots of some names. In an output directory such names lead down from it, and two
sources have their documents at one place only if they have the same names.
-/

namespace Weave

namespace Path

/-- A text that leads from a directory to something in it. -/
structure IsName (name : Text) : Prop where
  inhabited : name ≠ []
  notHere : name ≠ ['.']
  notUp : name ≠ ['.', '.']
  noSlash : '/' ∉ name

theorem not_mem_of_mem_splitSlashes {text piece : Text} (listed : piece ∈ splitSlashes text) :
    '/' ∉ piece := by
  unfold splitSlashes at listed
  induction text generalizing piece with
  | nil =>
    obtain rfl : piece = [] := by simpa using listed
    exact List.not_mem_nil
  | cons c text ih =>
    rw [List.splitOn_cons_eq_if_modifyHead] at listed
    split at listed
    · rcases List.mem_cons.mp listed with rfl | later
      · exact List.not_mem_nil
      · exact ih later
    · next other =>
      obtain ⟨first, more, split⟩ := List.exists_cons_of_ne_nil (List.splitOn_ne_nil '/' text)
      rw [split] at listed ih
      rcases List.mem_cons.mp listed with rfl | later
      · have apart : c ≠ '/' := fun same => other (beq_iff_eq.mpr same)
        simpa [Ne.symm apart] using ih List.mem_cons_self
      · exact ih (List.mem_cons_of_mem first later)

theorem isName_of_componentOf {front : Bool} {piece name : Text} (clean : '/' ∉ piece)
    (stands : componentOf front piece = some (.normal name)) : IsName name := by
  unfold componentOf at stands
  split at stands
  · cases stands
  · next inhabited =>
    split at stands
    · split at stands <;> cases stands
    · next notHere =>
      split at stands
      · cases stands
      · next notUp =>
        cases stands
        exact ⟨inhabited, notHere, notUp, clean⟩

/-- The pieces between slashes that are components of their own are names. -/
theorem isName_of_mem_locate {front : Bool} {offset stop : Nat} {pieces : List Text} {name : Text}
    (clean : ∀ piece ∈ pieces, '/' ∉ piece)
    (listed : (.normal name, stop) ∈ locate front offset pieces) : IsName name := by
  induction pieces generalizing front offset with
  | nil => cases listed
  | cons piece pieces ih =>
    have cleanLater : ∀ piece ∈ pieces, '/' ∉ piece := fun piece member =>
      clean piece (List.mem_cons_of_mem _ member)
    rw [locate] at listed
    split at listed
    · next component stands =>
      rcases List.mem_cons.mp listed with first | later
      · obtain ⟨rfl, -⟩ := Prod.mk.inj first
        exact isName_of_componentOf (clean piece List.mem_cons_self) stands
      · exact ih cleanLater later
    · exact ih cleanLater listed

theorem isName_of_mem_components {path : Path} {name : Text}
    (listed : .normal name ∈ path.components) : IsName name := by
  obtain ⟨⟨component, stop⟩, located, same⟩ := List.mem_map.mp listed
  obtain rfl : component = .normal name := same
  unfold Path.located at located
  split at located
  · rcases List.mem_cons.mp located with first | later
    · cases first
    · exact isName_of_mem_locate (fun _ => not_mem_of_mem_splitSlashes) later
  · exact isName_of_mem_locate (fun _ => not_mem_of_mem_splitSlashes) located

theorem isName_of_fileName? {path : Path} {name : Text} (ends : path.fileName? = some name) :
    IsName name := by
  unfold fileName? at ends
  split at ends
  · next last =>
    cases ends
    exact isName_of_mem_components (List.mem_of_getLast? last)
  · cases ends

/-- The stem of a name is its front. -/
theorem splitName_prefix (name : Text) : (splitName name).1 <+: name := by
  unfold splitName
  dsimp only
  split
  · exact List.prefix_rfl
  · exact List.take_prefix _ name

/-- The pieces of a path in front of names that are put behind it. -/
def frontPieces (path : Path) : List Text :=
  if path.text = [] then []
  else splitSlashes (if path.text.getLast? = some '/' then path.text.dropLast else path.text)

/-- Names that are put behind a path make a path that starts where the path does, and its pieces are
those of the path and then the names. -/
theorem join_ofNames (path : Path) {names : List Text} (inhabited : names ≠ [])
    (clean : ∀ name ∈ names, name ≠ [] ∧ '/' ∉ name) :
    splitSlashes (path.join (ofNames names)).text = path.frontPieces ++ names ∧
      (path.join (ofNames names)).isAbsolute = path.isAbsolute := by
  have pieces : splitSlashes (ofNames names).text = names :=
    List.splitOn_intercalate '/' (fun name member => (clean name member).2) inhabited
  obtain ⟨first, names, rfl⟩ := List.exists_cons_of_ne_nil inhabited
  obtain ⟨leads, noSlash⟩ := clean first List.mem_cons_self
  obtain ⟨c, more, rfl⟩ := List.exists_cons_of_ne_nil leads
  have notSlash : c ≠ '/' := by
    rintro rfl
    exact noSlash List.mem_cons_self
  have starts : (ofNames ((c :: more) :: names)).text.head? = some c := by
    cases names <;> rfl
  have relative : (ofNames ((c :: more) :: names)).isAbsolute = false := by
    rw [isAbsolute, starts]
    simpa using notSlash
  unfold join frontPieces
  rw [relative, Bool.false_or]
  split
  · next empty =>
    rw [List.isEmpty_iff] at empty
    rw [if_pos empty, pieces, relative, isAbsolute, empty]
    exact ⟨rfl, rfl⟩
  · next inhabited =>
    rw [List.isEmpty_iff] at inhabited
    have start (behind : Text) : (⟨path.text ++ behind⟩ : Path).isAbsolute = path.isAbsolute := by
      obtain ⟨d, later, shape⟩ := List.exists_cons_of_ne_nil inhabited
      rw [isAbsolute, isAbsolute, shape]
      rfl
    rw [if_neg inhabited]
    split
    · next closed =>
      rw [beq_iff_eq] at closed
      obtain ⟨front, text_eq⟩ := List.getLast?_eq_some_iff.mp closed
      refine ⟨?_, start _⟩
      rw [if_pos closed, text_eq, List.dropLast_concat, List.append_assoc, List.singleton_append,
        splitSlashes, List.splitOn_append_cons_self]
      exact congrArg (_ ++ ·) pieces
    · next opened =>
      rw [beq_iff_eq] at opened
      refine ⟨?_, start _⟩
      rw [if_neg opened, splitSlashes, List.splitOn_append_cons_self]
      exact congrArg (_ ++ ·) pieces

end Path

namespace Delivery

open Weave.Path (IsName)

/-- The name of a document is a name again, or two dots. -/
theorem documentName_cases {name : Text} (isName : IsName name) :
    documentName name = ['.', '.'] ∨ IsName (documentName name) := by
  have stem_front := Path.splitName_prefix name
  unfold documentName
  split
  · exact .inl rfl
  · next stem extension _ shape =>
    rw [shape] at stem_front
    have noSlash : '/' ∉ stem := fun member => isName.noSlash (stem_front.subset member)
    refine .inr ⟨by simp, fun same => ?_, fun same => ?_, by simp [noSlash]⟩
    · simpa using congrArg List.length same
    · simpa using congrArg List.length same

/-- The components of a path that are names, in order; those of `baseDir` are left out in front of an
absolute path. -/
def namesBelow (baseDir source : Path) : List Text :=
  ((if source.isAbsolute then Path.stripBase? baseDir source
    else some source.components).getD []).filterMap fun
    | .normal name => some name
    | _ => none

theorem documentNames_eq (baseDir source : Path) :
    documentNames baseDir source =
      if namesBelow baseDir source = [] then [source.fileName?.getD "document".toList]
      else namesBelow baseDir source := by
  simp only [← List.isEmpty_iff]
  rfl

theorem mem_components_of_mem_namesBelow {baseDir source : Path} {name : Text}
    (listed : name ∈ namesBelow baseDir source) : .normal name ∈ source.components := by
  obtain ⟨component, member, named⟩ := List.mem_filterMap.mp listed
  have normal : component = .normal name := by
    cases component with
    | normal text =>
      cases named
      rfl
    | _ => cases named
  rw [normal] at member
  split at member
  · unfold Path.stripBase? at member
    split at member
    · exact List.mem_of_mem_drop member
    · cases member
  · exact member

theorem documentNames_ne_nil (baseDir source : Path) : documentNames baseDir source ≠ [] := by
  rw [documentNames_eq]
  split
  · exact List.cons_ne_nil _ _
  · assumption

/-- The names of a document are names in the path of its source, or the fixed name. -/
theorem isName_of_mem_documentNames {baseDir source : Path} {name : Text}
    (listed : name ∈ documentNames baseDir source) : IsName name := by
  rw [documentNames_eq] at listed
  split at listed
  · obtain rfl := List.mem_singleton.mp listed
    cases ends : source.fileName? with
    | none => exact ⟨by decide, by decide, by decide, by decide⟩
    | some name => exact Path.isName_of_fileName? ends
  · exact Path.isName_of_mem_components (mem_components_of_mem_namesBelow listed)

/-- The names that lead from the output directory to the document of a source. -/
def targetNames (baseDir source : Path) : List Text :=
  (documentNames baseDir source).dropLast ++
    [documentName ((documentNames baseDir source).getLastD [])]

theorem documentPath_eq_join (baseDir outDir source : Path) :
    documentPath baseDir outDir source = outDir.join (.ofNames (targetNames baseDir source)) := rfl

/-- All names that lead to a document are names, but the last one may be two dots. -/
theorem targetNames_cases (baseDir source : Path) :
    ∃ init last, targetNames baseDir source = init ++ [last] ∧ (∀ name ∈ init, IsName name) ∧
      (last = ['.', '.'] ∨ IsName last) := by
  refine ⟨_, _, rfl, fun name listed => ?_, documentName_cases ?_⟩
  · exact isName_of_mem_documentNames (List.dropLast_subset _ listed)
  · have inhabited := documentNames_ne_nil baseDir source
    rw [List.getLastD_eq_getLast?, List.getLast?_eq_some_getLast inhabited, Option.getD_some]
    exact isName_of_mem_documentNames (List.getLast_mem inhabited)

end Delivery

namespace FileSystem

open Weave.Path (IsName)

section

variable {fs : FileSystem}

theorem home_of_no_links (plain : fs.links = []) (l : Location) : fs.home l = l :=
  home_of_not_linked (by rw [plain]; rfl)

theorem descend_of_isName (plain : fs.links = []) {name : Text} (isName : IsName name)
    (l : Location) : fs.descend l name = l ++ [name] := by
  simp [descend, home_of_no_links plain, isName.inhabited, isName.notHere, isName.notUp]

theorem descend_dots (plain : fs.links = []) (l : Location) :
    fs.descend l ['.', '.'] = l.dropLast := by
  simp [descend, home_of_no_links plain]

/-- Names lead down. -/
theorem foldl_descend (plain : fs.links = []) {names : List Text}
    (isName : ∀ name ∈ names, IsName name) (l : Location) :
    names.foldl fs.descend l = l ++ names := by
  induction names generalizing l with
  | nil => simp
  | cons name names ih =>
    rw [List.foldl_cons, descend_of_isName plain (isName name List.mem_cons_self),
      ih fun later member => isName later (List.mem_cons_of_mem _ member), List.append_assoc,
      List.singleton_append]

/-- Where the names behind a path start. -/
def directoryOf (fs : FileSystem) (path : Path) : Location :=
  path.frontPieces.foldl fs.descend (fs.origin path)

variable {baseDir outDir source source' : Path} {l : Location}

/-- Without links, the document of a source, wherever it can be written, is where its names lead from
the output directory. Two dots for a name lead up from that directory, and nowhere else can be written
to by them. -/
theorem location_of_target (plain : fs.links = [])
    (leads : fs.locate (Delivery.documentPath baseDir outDir source) = .ok l)
    (free : fs.get? l ≠ some .directory) :
    l = fs.directoryOf outDir ++ Delivery.targetNames baseDir source ∨
      Delivery.targetNames baseDir source = [['.', '.']] ∧
        l.length < (fs.directoryOf outDir).length := by
  obtain ⟨init, last, names, isName, ending⟩ := Delivery.targetNames_cases baseDir source
  have clean : ∀ name ∈ init ++ [last], name ≠ [] ∧ '/' ∉ name := by
    intro name listed
    rcases List.mem_append.mp listed with member | member
    · exact ⟨(isName name member).inhabited, (isName name member).noSlash⟩
    · obtain rfl := List.mem_singleton.mp member
      rcases ending with rfl | isName
      · exact ⟨by decide, by decide⟩
      · exact ⟨isName.inhabited, isName.noSlash⟩
  obtain ⟨pieces, absolute⟩ := outDir.join_ofNames (by simp) clean
  rw [Delivery.documentPath_eq_join, names] at leads
  obtain ⟨-, -, there, standing⟩ := locate_eq_ok.mp leads
  have origin_eq : fs.origin (outDir.join (.ofNames (init ++ [last]))) = fs.origin outDir := by
    rw [origin, origin, absolute]
  rw [pieces, origin_eq, List.foldl_append, List.foldl_append, List.foldl_cons, List.foldl_nil,
    foldl_descend plain isName, ← directoryOf] at there
  rw [names]
  rcases ending with rfl | isName
  · obtain rfl := (descend_dots plain _).symm.trans there
    rcases List.eq_nil_or_concat init with rfl | ⟨above, name, split⟩
    · rw [List.append_nil] at free ⊢
      have below : fs.directoryOf outDir ≠ [] := by
        intro root
        rw [root] at free
        exact free (get?_nil fs)
      have inhabited := List.length_pos_iff.mpr below
      refine .inr ⟨rfl, ?_⟩
      rw [List.length_dropLast]
      omega
    · -- The directory that the last name but one stands in is where the dots lead.
      rw [List.concat_eq_append] at split
      subst split
      have stands := standing (outDir.frontPieces ++ above) name [['.', '.']] (by rw [pieces]; simp)
      rw [origin_eq, List.foldl_append, ← directoryOf, foldl_descend plain fun other member =>
        isName other (List.mem_append_left _ member)] at stands
      rw [← List.append_assoc, List.dropLast_concat] at free
      exact absurd stands free
  · left
    rw [← there, descend_of_isName plain isName, List.append_assoc]

/-- Without links, documents that are written to one place have the same path. -/
theorem documentPath_eq_of_locate (plain : fs.links = []) (free : fs.get? l ≠ some .directory)
    (leads : fs.locate (Delivery.documentPath baseDir outDir source) = .ok l)
    (leads' : fs.locate (Delivery.documentPath baseDir outDir source') = .ok l) :
    Delivery.documentPath baseDir outDir source = Delivery.documentPath baseDir outDir source' := by
  have names : Delivery.targetNames baseDir source = Delivery.targetNames baseDir source' := by
    rcases location_of_target plain leads free with down | ⟨dots, up⟩
    · rcases location_of_target plain leads' free with down' | ⟨-, up'⟩
      · exact List.append_cancel_left (down.symm.trans down')
      · rw [down, List.length_append] at up'
        omega
    · rcases location_of_target plain leads' free with down' | ⟨dots', -⟩
      · rw [down', List.length_append] at up
        omega
      · rw [dots, dots']
  rw [Delivery.documentPath_eq_join, Delivery.documentPath_eq_join, names]

/-- Without links, documents in one file have the same path. -/
theorem documentPath_eq_of_sameFile (plain : fs.links = [])
    (shared : fs.SameFile (Delivery.documentPath baseDir outDir source)
      (Delivery.documentPath baseDir outDir source')) :
    Delivery.documentPath baseDir outDir source = Delivery.documentPath baseDir outDir source' := by
  obtain ⟨isFile, home_eq⟩ := shared
  obtain ⟨l, content, leads', there⟩ := isFile_iff.mp isFile
  rw [homeOf?_of_locate leads', homeOf?, Option.map_eq_some_iff] at home_eq
  obtain ⟨m, leads, same⟩ := home_eq
  rw [home_of_no_links plain, home_of_no_links plain] at same
  subst same
  exact documentPath_eq_of_locate plain (by simp [there]) (eq_ok_of_toOption leads) leads'

end

end FileSystem

end Weave
