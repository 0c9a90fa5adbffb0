import Weave.Program
import Weave.Proofs.Batches
import Weave.Proofs.PureCode

/-!
Documents on one output. A document that is not empty starts and ends with a line that is not blank,
so a single line break between two of them makes exactly one empty line. The break is put in front
of every document but the first, though, whether the documents are empty or not: an empty document
among others leaves an empty line too many.
-/

namespace Weave

/-- A text of lines the first and the last of which have a visible character at their outer end, so
that an empty line before the text or behind it is not its own. -/
structure Framed (t : Text) : Prop where
  starts : ∃ c rest, t = c :: rest ∧ Text.isSpace c = false
  ends : ∃ front c, t = front ++ [c, '\n'] ∧ Text.isSpace c = false

namespace Text

/-- What is left of a trimmed text has no white space at its ends. -/
theorem trim_ends {t : Text} (left : trim t ≠ []) :
    (∃ c rest, trim t = c :: rest ∧ isSpace c = false) ∧
      ∃ front c, trim t = front ++ [c] ∧ isSpace c = false := by
  constructor
  · obtain ⟨c, rest, shape⟩ := List.exists_cons_of_ne_nil left
    refine ⟨c, rest, shape, ?_⟩
    obtain ⟨space, split⟩ := trimEnd_prefix (t.dropWhile isSpace)
    have front : t.dropWhile isSpace = c :: (rest ++ space) := by
      rw [← split, ← List.cons_append, ← shape]
      rfl
    simpa [front] using List.head?_dropWhile_not isSpace t
  · refine ⟨_, _, (List.dropLast_append_getLast left).symm, ?_⟩
    exact Bool.eq_false_iff.mpr (List.rdropWhile_last_not isSpace _ left)

theorem length_intercalate (texts : List Text) :
    (['\n'].intercalate texts).length = texts.flatten.length + (texts.length - 1) := by
  have broken (more : List Text) :
      (more.flatMap ('\n' :: ·)).length = more.flatten.length + more.length := by
    induction more with
    | nil => rfl
    | cons second more ih => simp [ih]; omega
  cases texts with
  | nil => rfl
  | cons first more => simp [intercalate_cons, broken, Nat.add_assoc]

/-- Leaving empty texts out changes nothing only if there are none, or if there is nothing else. -/
theorem intercalate_filter_eq_iff (texts : List Text) :
    ['\n'].intercalate texts = ['\n'].intercalate (texts.filter (!·.isEmpty)) ↔
      [] ∉ texts ∨ texts.length ≤ 1 := by
  have full_iff : (∀ t ∈ texts, (!t.isEmpty) = true) ↔ [] ∉ texts := by
    constructor
    · intro full member
      cases full [] member
    · intro full t member
      cases t with
      | nil => contradiction
      | cons c t => rfl
  constructor
  · intro same
    -- The visible text is the same on both sides, so the breaks must be as many.
    have lengths : texts.flatten.length + (texts.length - 1) =
        texts.flatten.length + ((texts.filter (!·.isEmpty)).length - 1) := by
      rw [← length_intercalate, same, length_intercalate, List.flatten_filter_not_isEmpty]
    rw [← full_iff, ← List.length_filter_eq_length_iff]
    have fewer : (texts.filter (!·.isEmpty)).length ≤ texts.length := List.length_filter_le _ texts
    omega
  · rintro (full | short)
    · rw [List.filter_eq_self.mpr (full_iff.mpr full)]
    · match texts, short with
      | [], _ => rfl
      | [[]], _ => rfl
      | [c :: t], _ => rfl

end Text

namespace Framed

variable {a b : Text}

/-- Texts with an empty line between them are framed by the outer ends. -/
theorem separate (first : Framed a) (second : Framed b) : Framed (a ++ '\n' :: b) where
  starts := by
    obtain ⟨c, rest, rfl, ink⟩ := first.starts
    exact ⟨c, rest ++ '\n' :: b, rfl, ink⟩
  ends := by
    obtain ⟨front, c, rfl, ink⟩ := second.ends
    exact ⟨a ++ '\n' :: front, c, by simp, ink⟩

theorem intercalate {texts : List Text} (framed : ∀ t ∈ texts, Framed t) (inhabited : texts ≠ []) :
    Framed (['\n'].intercalate texts) := by
  induction texts with
  | nil => contradiction
  | cons first more ih =>
    have here := framed first List.mem_cons_self
    cases more with
    | nil => simpa using here
    | cons second more =>
      rw [List.intercalate_cons_cons, List.append_assoc]
      exact here.separate (ih (fun t member => framed t (List.mem_cons_of_mem _ member)) (by simp))

end Framed

namespace Document

/-- A block is framed: prose has been trimmed, and code stands between fences. -/
theorem block_framed (fenceLang : Text) {segment : Segment} (inhabited : segment.body ≠ []) :
    Framed (block fenceLang segment) := by
  cases kind : segment.kind with
  | comment =>
    have body_eq : segment.body = Text.trim (['\n'].intercalate segment.fragments) := by
      rw [Segment.body, kind]
    have block_eq : block fenceLang segment = segment.body ++ ['\n'] := by
      simp [block, parts, kind]
    rw [body_eq] at inhabited
    obtain ⟨⟨c, rest, front, ink⟩, before, last, behind, ink'⟩ := Text.trim_ends inhabited
    rw [block_eq, body_eq]
    exact ⟨⟨c, rest ++ ['\n'], by rw [front]; rfl, ink⟩,
      ⟨before, last, by rw [behind]; simp, ink'⟩⟩
  | code =>
    have ink : Text.isSpace '`' = false := by decide
    obtain ⟨ticks, opening, closing⟩ :
        ∃ ticks, fence segment.body = '`' :: ticks ∧ fence segment.body = ticks ++ ['`'] :=
      ⟨_, List.replicate_succ, List.replicate_succ'⟩
    have block_eq : block fenceLang segment = fence segment.body ++
        (fenceLang ++ '\n' :: segment.body ++ '\n' :: fence segment.body ++ ['\n']) := by
      simp [block, parts, kind]
    rw [block_eq]
    constructor
    · exact ⟨'`', _, by rw [opening, List.cons_append], ink⟩
    · refine ⟨fence segment.body ++ (fenceLang ++ '\n' :: segment.body ++ '\n' :: ticks), '`', ?_, ink⟩
      nth_rewrite 2 [closing]
      simp

theorem blocks_framed (fenceLang : Text) (segments : List Segment) :
    ∀ t ∈ (written segments).map (block fenceLang), Framed t := by
  intro t member
  obtain ⟨segment, listed, rfl⟩ := List.mem_map.mp member
  apply block_framed
  simpa using (List.mem_filter.mp listed).2

end Document

/-- A document is empty or framed. -/
theorem convert_framed {source : Text} {options : ConversionOptions} {result : Conversion}
    (converted : convert source options = .ok result) (inhabited : result.document ≠ []) :
    Framed result.document := by
  rw [convert_eq] at converted
  rcases ran : segments source options.unterminated with cause | ⟨found, diagnostics⟩
  · rw [ran] at converted
    cases converted
  rw [ran] at converted
  cases converted
  apply Framed.intercalate (Document.blocks_framed _ _)
  intro none
  exact inhabited (congrArg ['\n'].intercalate none)

namespace Delivery

/-- A page takes a document, behind a line break if there have been others. -/
theorem toOutput_page (d : Delivery Page) (file : ConvertedFile) :
    ∃ d', d.toOutput file = (d', .ok ()) ∧ d'.outDir = d.outDir ∧
      d'.delivered = d.delivered + 1 ∧
      d'.output.text =
        d.output.text ++ ((if 0 < d.delivered then ['\n'] else []) ++ file.document) := by
  let text := (if 0 < d.delivered then ['\n'] else []) ++ file.document
  let page : Page := { pieces := d.output.pieces.push text }
  have text_eq : page.text = d.output.text ++ text := by
    simp [page, Page.text]
  refine ⟨_, rfl, ?_⟩
  dsimp only
  split <;> exact ⟨rfl, rfl, text_eq⟩

/-- The output holds documents one behind the other, with a line break between each two. -/
structure Holds (d : Delivery Page) (documents : List Text) : Prop where
  outDir_eq : d.outDir = none
  delivered_eq : d.delivered = documents.length
  text_eq : d.output.text = ['\n'].intercalate documents

theorem Holds.deliver_page {d : Delivery Page} {documents : List Text} (holds : d.Holds documents)
    (file : ConvertedFile) :
    ∃ d', d.deliver file = (d', .ok ()) ∧ d'.Holds (documents ++ [file.document]) := by
  obtain ⟨d', ran, outDir_eq, delivered_eq, text_eq⟩ := d.toOutput_page file
  refine ⟨d', by rw [deliver, holds.outDir_eq, ran], outDir_eq.trans holds.outDir_eq, ?_, ?_⟩
  · rw [delivered_eq, holds.delivered_eq, List.length_append, List.length_singleton]
  · rw [text_eq, holds.text_eq, holds.delivered_eq, Text.intercalate_concat_eq]

end Delivery

namespace Program

/-- The documents of the files that could be converted. -/
def documents (results : List (Path × Except Failure ConvertedFile)) : List Text :=
  (results.filterMap (·.2.toOption)).map (·.document)

/-- A run to an output puts every document there, behind those that are there, and counts the files
that could not be converted. -/
theorem deliverAll_page (results : List (Path × Except Failure ConvertedFile)) {d : Delivery Page}
    {before : List Text} (holds : d.Holds before) (failed : Nat) :
    ∃ d' failed', deliverAll d failed results = (d', .ok failed') ∧
      d'.Holds (before ++ documents results) ∧
      failed' = failed + results.countP (·.2.toOption.isNone) := by
  induction results generalizing d before failed with
  | nil => exact ⟨d, failed, rfl, by simpa [documents] using holds, rfl⟩
  | cons result results ih =>
    obtain ⟨path, outcome⟩ := result
    cases outcome with
    | error e =>
      have noted : (d.note s!"Error processing {path.toString}: {e.message}").Holds before :=
        ⟨holds.outDir_eq, holds.delivered_eq, holds.text_eq⟩
      obtain ⟨last, failed', rest, held, count⟩ := ih noted (failed + 1)
      refine ⟨last, failed', rest, held, ?_⟩
      rw [count, List.countP_cons_of_pos (by rfl)]
      omega
    | ok file =>
      have warned : { d with notices := d.notices ++ warnings path.text file.diagnostics }.Holds
          before := ⟨holds.outDir_eq, holds.delivered_eq, holds.text_eq⟩
      obtain ⟨d', ran, holds'⟩ := warned.deliver_page file
      obtain ⟨last, failed', rest, held, count⟩ := ih holds' failed
      refine ⟨last, failed', ?_, ?_, ?_⟩
      · rw [deliverAll, ran]
        exact rest
      · rwa [List.append_assoc] at held
      · rwa [List.countP_cons_of_neg (by simp [Except.toOption])]

/-- A run to an output writes the documents in order with a line break between each two, and a
document that is not empty has no blank line at its ends. So exactly one empty line stands between
two documents that are not empty and none at the ends, as long as no document is empty or there is
but one; in all other cases there are more. -/
theorem documents_on_output (fs : FileSystem) (baseDir : Path) (verbose : Bool)
    {results : List (Path × Except Failure ConvertedFile)}
    (converted : ∀ path file, (path, .ok file) ∈ results →
      ∃ source options, convert source options = .ok file.toConversion) :
    let start : Delivery Page := { baseDir, verbose, files := fs, output := {} }
    ∃ d failed, deliverAll start 0 results = (d, .ok failed) ∧
      d.output.text = ['\n'].intercalate (documents results) ∧
      (∀ document ∈ documents results, document ≠ [] → Framed document) ∧
      (d.output.text = ['\n'].intercalate ((documents results).filter (!·.isEmpty)) ↔
        [] ∉ documents results ∨ (documents results).length ≤ 1) := by
  intro start
  have fresh : start.Holds [] := ⟨rfl, rfl, rfl⟩
  obtain ⟨d, failed, ran, held, -⟩ := deliverAll_page results fresh 0
  have text_eq : d.output.text = ['\n'].intercalate (documents results) := held.text_eq
  refine ⟨d, failed, ran, text_eq, fun document member inhabited => ?_, ?_⟩
  · obtain ⟨file, listed, rfl⟩ := List.mem_map.mp member
    obtain ⟨⟨path, outcome⟩, given, taken⟩ := List.mem_filterMap.mp listed
    cases outcome with
    | error e => cases taken
    | ok found =>
      obtain rfl : found = file := Option.some.inj taken
      obtain ⟨source, options, made⟩ := converted path found given
      exact convert_framed made inhabited
  · rw [text_eq]
    exact Text.intercalate_filter_eq_iff _

/-- A document of prose and one of code, with a file between them that could not be read. -/
theorem prose_and_code_on_output :
    let prose : ConvertedFile := ⟨⟨⟨1, []⟩, "A\n".toList⟩, .ofString "a.ts"⟩
    let code : ConvertedFile := ⟨⟨⟨1, []⟩, "```typescript\nx\n```\n".toList⟩, .ofString "c.ts"⟩
    let results : List (Path × Except Failure ConvertedFile) :=
      [(.ofString "a.ts", .ok prose),
        (.ofString "b.ts", .error (.readSource (.ofString "b.ts") .notFound)),
        (.ofString "c.ts", .ok code)]
    (∀ path file, (path, .ok file) ∈ results →
      ∃ source options, convert source options = .ok file.toConversion) ∧
    ∃ d failed,
      deliverAll { baseDir := .ofString "/", files := {}, output := {} } 0 results =
        (d, .ok failed) ∧
      d.output.text = "A\n\n```typescript\nx\n```\n".toList := by
  intro prose code results
  have first : convert "/* A */".toList {} = .ok prose.toConversion :=
    eq_ok_of_toOption (by decide +kernel)
  have second : convert "x".toList {} = .ok code.toConversion :=
    eq_ok_of_toOption (by decide +kernel)
  have converted : ∀ path file, (path, .ok file) ∈ results →
      ∃ source options, convert source options = .ok file.toConversion := by
    intro path file member
    simp only [results, List.mem_cons, Prod.mk.injEq, Except.ok.injEq, reduceCtorEq, and_false,
      List.not_mem_nil, or_false, false_or] at member
    rcases member with ⟨-, rfl⟩ | ⟨-, rfl⟩
    · exact ⟨_, _, first⟩
    · exact ⟨_, _, second⟩
  obtain ⟨d, failed, ran, -, -, separated⟩ :=
    documents_on_output {} (.ofString "/") false converted
  exact ⟨converted, d, failed, ran, (separated.mpr (.inl (by decide))).trans (by decide)⟩

/-- An empty document leaves an empty line in front of the first one that is not. -/
theorem empty_document_leaves_empty_line :
    let fs : FileSystem :=
      { entries := [(["a.ts".toList], .file []),
          (["b.ts".toList], .file (Utf8.encode "/* B */".toList))] }
    (["a.ts", "b.ts"].map fun source =>
        (convertFile fs {} (.ofString source)).toOption.map (·.document)) =
      [some [], some "B\n".toList] ∧
    (run { files := fs } ["a.ts".toList, "b.ts".toList]).stdout = "\nB\n".toList := by
  decide +kernel

end Program

end Weave
