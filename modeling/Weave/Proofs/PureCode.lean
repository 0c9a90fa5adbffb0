import Mathlib.Data.List.DropRight
import Weave.Proofs.InsertedProse
import Weave.Proofs.Streaming
import Weave.Proofs.TrailingSpace

/-!
Sources of code only. Such a source is one segment, and its document one fenced block around the
source without the line breaks in front and the white space at the end. That body is a source of
code only as well: the line breaks that are gone from its front leave every token behind them what
it was, unless a shebang comes to stand at the start of the source, and the white space that is gone
from its end closed nothing that was open. So it converts to the same document.
-/

namespace Weave

namespace Text

/-- Line breaks that code loses at its front. -/
def isLeadingBreak (c : Char) : Bool := c == '\r' || c == '\n'

/-- A text without the line breaks in front and the white space at its end. -/
def stripped (t : Text) : Text := trimEnd (t.dropWhile isLeadingBreak)

theorem trimEnd_append_space (t : Text) :
    ∃ space, t = trimEnd t ++ space ∧ ∀ c ∈ space, isSpace c = true :=
  ⟨t.rtakeWhile isSpace, List.rdropWhile_append_rtakeWhile.symm, fun _ => List.mem_rtakeWhile_imp⟩

theorem trimEnd_prefix (t : Text) : trimEnd t <+: t := List.rdropWhile_prefix isSpace t

theorem trimEnd_trimEnd (t : Text) : trimEnd (trimEnd t) = trimEnd t :=
  List.rdropWhile_idempotent isSpace t

/-- What stands first behind the line breaks is none. -/
theorem not_isLeadingBreak {t rest : Text} {c : Char}
    (front : t.dropWhile isLeadingBreak = c :: rest) : isLeadingBreak c = false := by
  simpa [front] using List.head?_dropWhile_not isLeadingBreak t

theorem dropWhile_stripped (t : Text) : (stripped t).dropWhile isLeadingBreak = stripped t := by
  obtain ⟨space, split⟩ := trimEnd_prefix (t.dropWhile isLeadingBreak)
  cases shape : stripped t with
  | nil => rfl
  | cons c body =>
    have front : t.dropWhile isLeadingBreak = c :: (body ++ space) := by
      rw [← split, ← List.cons_append, ← shape]
      rfl
    rw [List.dropWhile_cons_of_neg (by simp [not_isLeadingBreak front])]

/-- Marks at the front of a text with white space behind it are at the front of the text. -/
theorem prefix_of_append_space {mark t space : Text} (ink : ∀ c ∈ mark, isSpace c = false)
    (blank : ∀ c ∈ space, isSpace c = true) (front : mark <+: t ++ space) : mark <+: t := by
  induction mark generalizing t with
  | nil => exact List.nil_prefix
  | cons m mark ih =>
    cases t with
    | nil =>
      have first := blank m (front.subset List.mem_cons_self)
      rw [ink m List.mem_cons_self] at first
      cases first
    | cons c t =>
      obtain ⟨rfl, rest⟩ := List.cons_prefix_cons.mp front
      have later := ih (fun d member => ink d (List.mem_cons_of_mem _ member)) rest
      exact List.cons_prefix_cons.mpr ⟨rfl, later⟩

theorem stripped_stripped (t : Text) : stripped (stripped t) = stripped t := by
  rw [stripped, dropWhile_stripped]
  exact trimEnd_trimEnd _

end Text

namespace Lexeme

/-- A line break takes a line feed along only from among the line breaks. -/
theorem afterEscape_leading (b : Char) (more : Text) {text : Text}
    (stops : text.head? ≠ some '\n') :
    ∃ taken later, more = taken ++ later ∧
      afterEscape b (taken ++ (later ++ text)) = later ++ text := by
  by_cases pair : b = '\r' ∧ more.head? = some '\n'
  · obtain ⟨rfl, feed⟩ := pair
    obtain ⟨later, rfl⟩ := List.head?_eq_some_iff.mp feed
    exact ⟨['\n'], later, rfl, rfl⟩
  · refine ⟨[], more, rfl, ?_⟩
    have alone : ¬ (b = '\r' ∧ (more ++ text).head? = some '\n') := by
      cases more with
      | nil => exact fun both => stops both.2
      | cons c more => simpa using pair
    rw [List.nil_append, afterEscape, if_neg alone]

end Lexeme

namespace Scanner

/-- Line breaks ahead are tokens at top level, and a slash behind them is what it was before. -/
theorem behind_leading_breaks {text : Text} (stops : text.head? ≠ some '\n') :
    (breaks : Text) → (∀ c ∈ breaks, Text.isLeadingBreak c = true) →
    (s : Scanner) → (∃ front, s.Placed front) → s.rest = breaks ++ text →
    ∃ mid : Scanner, mid.rest = text ∧ mid.regexAllowed = s.regexAllowed ∧
      (∃ behind, mid.Placed behind) ∧ mid.topLevel <:+ s.topLevel
  | [], _, s, placed, ahead => ⟨s, ahead, rfl, placed, List.suffix_rfl⟩
  | b :: more, leading, s, ⟨front, placed⟩, ahead => by
    have lineBreak : Text.isLineBreak b = true := by
      have isLeading := leading b List.mem_cons_self
      simp only [Text.isLeadingBreak, Bool.or_eq_true, beq_iff_eq] at isLeading
      rcases isLeading with rfl | rfl <;> rfl
    obtain ⟨taken, later, rfl, takes⟩ := Lexeme.afterEscape_leading b more stops
    have ahead' : s.rest = b :: (taken ++ (later ++ text)) := by
      rw [ahead, List.cons_append, List.append_assoc]
    obtain ⟨found, left, regex⟩ :=
      whole?_trivia ahead' (Lexeme.read_lineBreak _ _ _ lineBreak) takes rfl
    obtain ⟨-, -, -, behind, standing⟩ := whole?_spec placed found
    have shorter : later.length < (b :: (taken ++ later)).length := by
      simp only [List.length_cons, List.length_append]
      omega
    obtain ⟨mid, rest_eq, regex_eq, placed', tail⟩ := behind_leading_breaks stops later
      (fun c member => leading c (by simp [member])) s.next ⟨behind, standing⟩ left
    refine ⟨mid, rest_eq, regex_eq.trans regex, placed', ?_⟩
    rw [topLevel_eq_cons found]
    exact tail.trans (List.suffix_cons _ _)
termination_by breaks => breaks.length

end Scanner

/-- Without the line breaks in front, a source has tokens like those that it had behind them, if no
shebang comes to stand at its start. -/
theorem topLevel_without_breaks {source : Text}
    (noShebang : ['#', '!'] <+: source.dropWhile Text.isLeadingBreak → ['#', '!'] <+: source) :
    ∀ token ∈ (Scanner.ofSource (source.dropWhile Text.isLeadingBreak)).topLevel,
      ∃ token' ∈ (Scanner.ofSource source).topLevel, token.Alike token' := by
  intro token member
  have split := List.takeWhile_append_dropWhile (p := Text.isLeadingBreak) (l := source)
  cases breaks : source.takeWhile Text.isLeadingBreak with
  | nil =>
    rw [breaks, List.nil_append] at split
    rw [split] at member
    exact ⟨token, member, rfl, rfl⟩
  | cons b more =>
    have leading : ∀ c ∈ b :: more, Text.isLeadingBreak c = true := by
      rw [← breaks]
      exact fun c inBreaks => List.mem_takeWhile_imp inBreaks
    rw [breaks] at split
    have plain : ¬ ['#', '!'] <+: source.dropWhile Text.isLeadingBreak := by
      intro shebang
      have atStart := noShebang shebang
      rw [← split, List.cons_append] at atStart
      obtain ⟨rfl, -⟩ := List.cons_prefix_cons.mp atStart
      exact absurd (leading '#' List.mem_cons_self) (by decide)
    have stops : (source.dropWhile Text.isLeadingBreak).head? ≠ some '\n' := by
      intro feed
      obtain ⟨rest, front⟩ := List.head?_eq_some_iff.mp feed
      cases Text.not_isLeadingBreak front
    obtain ⟨mid, rest_eq, regex_eq, ⟨behind, placed⟩, tail⟩ :=
      Scanner.behind_leading_breaks stops (b :: more) leading (Scanner.ofSource source)
        ⟨[], Scanner.placed_ofSource source⟩ split.symm
    have shifted : Scanner.Shifted mid.current.stop
        (Scanner.ofSource (source.dropWhile Text.isLeadingBreak)) mid :=
      ⟨rest_eq, regex_eq, (Nat.zero_add _).symm, fun _ => plain⟩
    have moved := shifted.topLevel (Scanner.placed_ofSource _) placed
    refine ⟨token.shift mid.current.stop, tail.subset ?_, rfl, rfl⟩
    rw [moved]
    exact List.mem_map_of_mem member

/-- The stripped source has tokens like those of the source, if no shebang comes to stand at its
start. -/
theorem topLevel_stripped {source : Text}
    (noShebang : ['#', '!'] <+: source.stripped → ['#', '!'] <+: source) :
    ∀ token ∈ (Scanner.ofSource source.stripped).topLevel,
      ∃ token' ∈ (Scanner.ofSource source).topLevel, token.Alike token' := by
  intro token member
  obtain ⟨space, split, blank⟩ :=
    Text.trimEnd_append_space (source.dropWhile Text.isLeadingBreak)
  obtain ⟨token₁, member₁, alike₁⟩ := topLevel_append_space blank source.stripped token member
  rw [Text.stripped, ← split] at member₁
  have noShebang' :
      ['#', '!'] <+: source.dropWhile Text.isLeadingBreak → ['#', '!'] <+: source := by
    intro shebang
    rw [split] at shebang
    refine noShebang (Text.prefix_of_append_space ?_ blank shebang)
    simp [Text.isSpace]
  obtain ⟨token₂, member₂, alike₂⟩ := topLevel_without_breaks noShebang' token₁ member₁
  exact ⟨token₂, member₂, alike₁.trans alike₂⟩

/-- The block of code with the given body. -/
def Document.fenced (fenceLang body : Text) : Text :=
  fence body ++ fenceLang ++ ['\n'] ++ (body ++ ['\n']) ++ (fence body ++ ['\n'])

/-- No token of the source is prose, and what it does not end may be cut short under the policy. -/
structure CodeOnly (source : Text) (policy : UnterminatedPolicy) : Prop where
  code : ∀ token ∈ (Scanner.ofSource source).topLevel, token.segmentKind = .code
  closed : (∀ token ∈ (Scanner.ofSource source).topLevel,
    (Piece.ofTopLevel token).terminated = true) ∨ policy = .truncate

namespace CodeOnly

variable {source source' : Text} {policy : UnterminatedPolicy}

theorem of_alike (codeOnly : CodeOnly source policy)
    (alike : ∀ token ∈ (Scanner.ofSource source').topLevel,
      ∃ token' ∈ (Scanner.ofSource source).topLevel, token.Alike token') :
    CodeOnly source' policy where
  code token member := by
    obtain ⟨token', member', like⟩ := alike token member
    have code := codeOnly.code token' member'
    rwa [Token.segmentKind, like.kind_eq] at code
  closed := codeOnly.closed.imp_left fun closed token member => by
    obtain ⟨token', member', like⟩ := alike token member
    have ended := closed token' member'
    rwa [Piece.ofTopLevel, like.kind_eq, like.unterminated_eq] at ended

/-- Where all segments are code, so are all tokens. -/
theorem of_segments {found : Array Segment} {diagnostics : Array Diagnostic}
    (ran : segments source policy = .ok (found, diagnostics))
    (code : ∀ segment ∈ found.toList, segment.kind = .code) : CodeOnly source policy where
  code token member := by
    rw [segments_of_ok ran, segments_ofPieces_eq_batch] at code
    rw [← Token.flatten_runs (Scanner.ofSource source).topLevel] at member
    obtain ⟨run, listed, inRun⟩ := List.mem_flatten.mp member
    obtain ⟨index, inside, here⟩ := List.mem_iff_getElem.mp listed
    rw [Token.segmentKind_of_mem_runs listed inRun index]
    exact code _ (List.mem_mapIdx.mpr ⟨index, inside, by rw [here]⟩)
  closed := segments_ok_iff.mp ⟨_, ran⟩

/-- Tokens of code that follow each other make up one segment. -/
theorem batch_eq (codeOnly : CodeOnly source policy)
    (inhabited : (Scanner.ofSource source).topLevel ≠ []) :
    Segment.batch (Scanner.ofSource source).topLevel =
        [Segment.ofTokens 0 (Scanner.ofSource source).topLevel] ∧
      (Segment.ofTokens 0 (Scanner.ofSource source).topLevel).kind = .code ∧
      (Segment.ofTokens 0 (Scanner.ofSource source).topLevel).body = source.stripped := by
  have runs : Token.runs (Scanner.ofSource source).topLevel =
      [(Scanner.ofSource source).topLevel] := by
    refine List.splitBy_of_isChain inhabited ?_
    refine (List.pairwise_of_forall_mem_list fun a inA b inB => ?_).isChain
    rw [beq_iff_eq, codeOnly.code a inA, codeOnly.code b inB]
  have kind : (Segment.ofTokens 0 (Scanner.ofSource source).topLevel).kind = .code := by
    obtain ⟨first, member⟩ := List.exists_mem_of_ne_nil _ inhabited
    have listed : (Scanner.ofSource source).topLevel ∈
        Token.runs (Scanner.ofSource source).topLevel := by simp [runs]
    rw [← Token.segmentKind_of_mem_runs listed member 0]
    exact codeOnly.code first member
  have text : (Segment.ofTokens 0 (Scanner.ofSource source).topLevel).fragments.flatten =
      source := by
    have fragments : (Segment.ofTokens 0 (Scanner.ofSource source).topLevel).fragments =
        (Scanner.ofSource source).topLevel.map Token.text :=
      Token.fragments_of_code fun token member =>
        Token.segmentKind_eq_code.mp (codeOnly.code token member)
    rw [fragments, ← List.flatMap_def]
    exact (Scanner.placed_ofSource source).texts_topLevel
  refine ⟨by rw [Segment.batch, runs]; rfl, kind, ?_⟩
  rw [Segment.body, kind, text]
  rfl

/-- The source is one block around its stripped text, or none if nothing is left of it. -/
theorem written_eq (codeOnly : CodeOnly source policy) (fenceLang : Text) :
    (Document.written (Segment.batch (Scanner.ofSource source).topLevel)).map
        (Document.block fenceLang) =
      if source.stripped = [] then [] else [Document.fenced fenceLang source.stripped] := by
  by_cases empty : (Scanner.ofSource source).topLevel = []
  · have nothing := (Scanner.placed_ofSource source).texts_topLevel
    rw [empty] at nothing
    obtain rfl : [] = source := nothing
    rw [empty]
    rfl
  · obtain ⟨batch, kind, body⟩ := codeOnly.batch_eq empty
    rw [batch, Document.written_cons, body]
    cases shape : source.stripped with
    | nil => rfl
    | cons c rest =>
      have block : Document.block fenceLang
          (Segment.ofTokens 0 (Scanner.ofSource source).topLevel) =
            Document.fenced fenceLang (c :: rest) := by
        simp [Document.block, Document.parts, Document.fenced, kind, body, shape]
      rw [← block]
      rfl

/-- What code alone converts to depends on its stripped text only. -/
theorem converts {options : ConversionOptions} (codeOnly : CodeOnly source options.unterminated) :
    ∃ result, convert source options = .ok result ∧
      result.document =
        (if source.stripped = [] then []
          else Document.fenced options.fenceLang source.stripped) ∧
      result.blocks = if source.stripped = [] then 0 else 1 := by
  have allowed : (∀ p ∈ (Scanner.ofSource source).pieces, p.terminated = true) ∨
      options.unterminated = .truncate := by
    rw [Scanner.pieces_eq_map, List.forall_mem_map]
    exact codeOnly.closed
  obtain ⟨found, diagnostics, ran, batch, -⟩ :=
    segments_succeed source options.unterminated allowed
  have blocks := codeOnly.written_eq options.fenceLang
  have converted := convert_eq source options
  rw [ran] at converted
  rw [← batch] at blocks
  refine ⟨_, converted, ?_, ?_⟩
  · change Document.render options.fenceLang found.toList = _
    rw [Document.render, blocks]
    split
    · rfl
    · simp [List.intercalate]
  · change (Document.written found.toList).length = _
    rw [← List.length_map (Document.block options.fenceLang), blocks]
    split <;> rfl

end CodeOnly

/-- A source whose segments are all code is one fenced block, or an empty document if nothing is
left of it without line breaks in front and white space at its end. What is left converts to the
same document, unless it begins with a shebang that was behind line breaks in the source. -/
theorem pure_code_converts {source : Text} {options : ConversionOptions} {found : Array Segment}
    {diagnostics : Array Diagnostic}
    (ran : segments source options.unterminated = .ok (found, diagnostics))
    (code : ∀ segment ∈ found.toList, segment.kind = .code) :
    ∃ result, convert source options = .ok result ∧
      (source.stripped = [] → result.document = []) ∧
      (source.stripped ≠ [] →
        result.document = Document.fenced options.fenceLang source.stripped ∧ result.blocks = 1) ∧
      ((['#', '!'] <+: source.stripped → ['#', '!'] <+: source) →
        ∃ again, convert source.stripped options = .ok again ∧
          again.document = result.document ∧ again.blocks = result.blocks) := by
  have codeOnly := CodeOnly.of_segments ran code
  obtain ⟨result, converted, document, blocks⟩ := codeOnly.converts
  refine ⟨result, converted, ?_, ?_, ?_⟩
  · intro empty
    rw [document, if_pos empty]
  · intro filled
    rw [document, blocks, if_neg filled, if_neg filled]
    exact ⟨rfl, rfl⟩
  · intro noShebang
    have onlyCode := codeOnly.of_alike (topLevel_stripped noShebang)
    obtain ⟨again, converted', document', blocks'⟩ := onlyCode.converts
    rw [Text.stripped_stripped] at document' blocks'
    exact ⟨again, converted', document'.trans document.symm, blocks'.trans blocks.symm⟩

/-- An open string at the end and a regular expression at the front are read again as they were. -/
theorem padded_regex_converts :
    ∃ result again, convert "\r\n\n/a`/g+'b \n".toList {} = .ok result ∧
      result.document = Document.fenced "typescript".toList "/a`/g+'b".toList ∧
      convert "/a`/g+'b".toList {} = .ok again ∧ again.document = result.document := by
  have ran : segments "\r\n\n/a`/g+'b \n".toList .fail =
      .ok (#[⟨.code, ["\r\n".toList, "\n".toList, "/a`/g".toList, "+".toList, "'b ".toList,
        "\n".toList], ⟨0, 13⟩, 0⟩], #[]) :=
    eq_ok_of_toOption (by decide +kernel)
  have stripped : Text.stripped "\r\n\n/a`/g+'b \n".toList = "/a`/g+'b".toList := by decide +kernel
  obtain ⟨result, converted, -, block, again⟩ := @pure_code_converts _ {} _ _ ran (by decide)
  rw [stripped] at block again
  obtain ⟨document, -⟩ := block (by decide)
  obtain ⟨again, converted', same, -⟩ := again (by decide)
  exact ⟨result, again, converted, document, converted', same⟩

/-- A shebang that comes to stand at the start of a source hides what opened in its line. -/
theorem exposed_shebang_converts_anew :
    (∃ found : Array Segment, segments "\n#!`\n/* x */`".toList .fail = .ok (found, #[]) ∧
      ∀ segment ∈ found.toList, segment.kind = .code) ∧
    ∃ result again, convert "\n#!`\n/* x */`".toList {} = .ok result ∧
      convert (Text.stripped "\n#!`\n/* x */`".toList) {} = .ok again ∧
      result.blocks = 1 ∧ again.blocks = 3 ∧ again.document ≠ result.document := by
  have ran : segments "\n#!`\n/* x */`".toList .fail =
      .ok (#[⟨.code, ["\n".toList, "#".toList, "!".toList, "`\n/* x */`".toList], ⟨0, 13⟩, 0⟩],
        #[]) :=
    eq_ok_of_toOption (by decide +kernel)
  have stripped : Text.stripped "\n#!`\n/* x */`".toList = "#!`\n/* x */`".toList := by
    decide +kernel
  have first : convert "\n#!`\n/* x */`".toList {} =
      .ok { blocks := 1, diagnostics := []
            document := "```typescript\n#!`\n/* x */`\n```\n".toList } :=
    eq_ok_of_toOption (by decide +kernel)
  have second : convert "#!`\n/* x */`".toList {} =
      .ok { blocks := 3, diagnostics := []
            document := "```typescript\n#!`\n```\n\nx\n\n```typescript\n`\n```\n".toList } :=
    eq_ok_of_toOption (by decide +kernel)
  rw [stripped]
  exact ⟨⟨_, ran, by decide⟩, _, _, first, second, rfl, rfl, by decide +kernel⟩

end Weave
