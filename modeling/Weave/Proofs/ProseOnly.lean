import Mathlib.Data.List.DropRight
import Weave.Proofs.Batches
import Weave.Proofs.Locality
import Weave.Proofs.Streaming

/-!
Sources without code. Between the block comments of such a source stand white space and line breaks
only, and these are segments of code as far as the segmenter goes; they leave no trace in the
document if trimming their text leaves nothing. White space of the source is white space to trim but
for one character, the byte order mark. So a document has nothing but prose exactly if no white
space between the comments holds a byte order mark.
-/

namespace Weave

namespace Text

theorem trimEnd_eq_nil {t : Text} : trimEnd t = [] ↔ ∀ c ∈ t, isSpace c = true :=
  List.rdropWhile_eq_nil_iff

/-- All white space of a source but the byte order mark can be trimmed. -/
theorem isSpace_of_isInlineSpace {c : Char} (space : isInlineSpace c = true) :
    isSpace c = true ↔ c ≠ '\ufeff' := by
  simp only [isInlineSpace, Bool.or_eq_true, beq_iff_eq, Bool.and_eq_true] at space
  rcases space with rfl | ⟨space, -⟩
  · decide
  · refine ⟨?_, fun _ => space⟩
    rintro - rfl
    exact absurd space (by decide)

end Text

/-- Code leaves nothing in the document if it is white space throughout. -/
theorem Segment.body_eq_nil {segment : Segment} (code : segment.kind = .code) :
    segment.body = [] ↔ ∀ c ∈ segment.fragments.flatten, Text.isSpace c = true := by
  have breaks (c : Char) (leading : (c == '\r' || c == '\n') = true) : Text.isSpace c = true := by
    simp only [Bool.or_eq_true, beq_iff_eq] at leading
    rcases leading with rfl | rfl <;> decide
  rw [body, code]
  dsimp only
  rw [Text.trimEnd_eq_nil]
  constructor
  · intro blank c member
    rw [← List.takeWhile_append_dropWhile (p := fun c => c == '\r' || c == '\n')
      (l := segment.fragments.flatten), List.mem_append] at member
    rcases member with member | member
    · have leading := List.mem_takeWhile_imp member
      exact breaks c leading
    · exact blank c member
  · exact fun blank c member => blank c (List.dropWhile_subset _ member)

namespace Lexeme

/-- White space is read to its end. -/
theorem read_whitespace {atStart regexAllowed : Bool} {c : Char} {text : Text} :
    (read atStart regexAllowed c text).kind = .whitespace →
      Text.isInlineSpace c = true ∧
      (read atStart regexAllowed c text).rest = text.dropWhile Text.isInlineSpace := by
  fun_cases read atStart regexAllowed c text with
  | case5 => simp [blockComment_kind]
  | case6 => rcases slash_kind regexAllowed text with regex | mark <;> simp [*]
  | case7 => rcases template_kind .plainTemplate .templateStart text with plain | start <;> simp [*]
  | case8 => simp [string_kind]
  | case13 => simp [*]
  | _ => simp

/-- A line break is one character, or a carriage return with the line feed behind it. -/
theorem read_newLine {atStart regexAllowed : Bool} {c : Char} {text : Text}
    (breaks : (read atStart regexAllowed c text).kind = .newLine) :
    (read atStart regexAllowed c text).rest = text ∨
      text = '\n' :: (read atStart regexAllowed c text).rest := by
  have first := isLineBreak_of_read_kind breaks
  by_cases carriage : c = '\r'
  · simp only [read, if_pos carriage]
    split
    · next paired =>
      right
      exact (List.cons_head?_tail paired).symm
    · left
      rfl
  · simp [read, carriage, first]

end Lexeme

/-- The kinds of tokens in a source without code. -/
def Kind.isProse : Kind → Bool
  | .blockComment | .whitespace | .newLine | .endOfInput => true
  | _ => false

namespace Scanner

variable {s : Scanner}

/-- A token of white space holds nothing else. -/
theorem next_text_whitespace (space : s.next.current.kind = .whitespace) :
    ∀ c ∈ s.next.current.text, Text.isInlineSpace c = true := by
  have spelled := s.next_text_append
  cases ahead : s.rest with
  | nil => simp [next, ahead] at space
  | cons first rest =>
    have kind : (Lexeme.read (s.current.stop == 0) s.regexAllowed first rest).kind =
        .whitespace := by
      simpa [next, ahead, take] using space
    obtain ⟨opens, left⟩ := Lexeme.read_whitespace kind
    have behind : s.next.rest = rest.dropWhile Text.isInlineSpace := by
      simpa [next, ahead, take] using left
    have text_eq : s.next.current.text = first :: rest.takeWhile Text.isInlineSpace := by
      refine List.append_cancel_right (spelled.trans ?_)
      rw [ahead, behind, List.cons_append, List.takeWhile_append_dropWhile]
    rw [text_eq]
    intro c member
    rcases List.mem_cons.mp member with rfl | member
    · exact opens
    · exact List.mem_takeWhile_imp member

/-- A token that breaks the line holds nothing else. -/
theorem next_text_newLine (breaks : s.next.current.kind = .newLine) :
    ∀ c ∈ s.next.current.text, Text.isLineBreak c = true := by
  have spelled := s.next_text_append
  cases ahead : s.rest with
  | nil => simp [next, ahead] at breaks
  | cons first rest =>
    have kind : (Lexeme.read (s.current.stop == 0) s.regexAllowed first rest).kind = .newLine := by
      simpa [next, ahead, take] using breaks
    have opens := Lexeme.isLineBreak_of_read_kind kind
    have behind : s.next.rest =
        (Lexeme.read (s.current.stop == 0) s.regexAllowed first rest).rest := by
      simp [next, ahead, take]
    rw [ahead, behind] at spelled
    rcases Lexeme.read_newLine kind with alone | paired
    · have text_eq : s.next.current.text = [first] := by
        refine List.append_cancel_right (spelled.trans ?_)
        rw [alone]
        rfl
      rw [text_eq]
      simpa using opens
    · have text_eq : s.next.current.text = [first, '\n'] :=
        List.append_cancel_right (spelled.trans (congrArg (first :: ·) paired))
      have feed : Text.isLineBreak '\n' = true := by decide
      rw [text_eq]
      simp [opens, feed]

/-- What is so of every token that a scanner can move on to is so of all that are ahead. -/
theorem forall_mem_tokens {P : Token → Prop} (step : ∀ s : Scanner, P s.next.current)
    (s : Scanner) : ∀ token ∈ s.tokens, P token := by
  fun_induction tokens s with
  | case1 s ended => simpa using step s
  | case2 s more ih => simpa using ⟨step s, ih⟩

theorem whole?_of_token (more : s.next.current.kind ≠ .endOfInput)
    (plain : s.next.current.kind ≠ .templateStart) :
    s.whole? = some (s.next.current, s.next) := by
  rw [whole?, if_neg more, if_neg plain]

/-- Without templates that have substitutions, the tokens at top level are all tokens. -/
theorem tokens_eq_topLevel (flat : ∀ token ∈ s.tokens, token.kind ≠ .templateStart) :
    ∃ last, last.kind = .endOfInput ∧ s.tokens = s.topLevel ++ [last] := by
  fun_induction tokens s with
  | case1 s ended =>
    refine ⟨s.next.current, ended, ?_⟩
    rw [topLevel_eq_nil (by simp [whole?, ended])]
    rfl
  | case2 s more ih =>
    have plain := flat s.next.current List.mem_cons_self
    obtain ⟨last, ended, rest⟩ := ih fun token member => flat token (List.mem_cons_of_mem _ member)
    refine ⟨last, ended, ?_⟩
    rw [topLevel_eq_cons (whole?_of_token more plain), rest]
    rfl

/-- White space and line breaks can be trimmed but for byte order marks in the white space. -/
theorem next_text_blank (prose : s.next.current.kind.isProse = true)
    (code : s.next.current.kind ≠ .blockComment) :
    (∀ c ∈ s.next.current.text, Text.isSpace c = true) ↔
      (s.next.current.kind = .whitespace → '\ufeff' ∉ s.next.current.text) := by
  cases kind : s.next.current.kind <;> simp only [kind, Kind.isProse] at prose code
  case blockComment => exact absurd rfl code
  case whitespace =>
    have space := next_text_whitespace kind
    constructor
    · intro blank _ marked
      exact absurd (blank _ marked) (by decide)
    · intro unmarked c member
      refine (Text.isSpace_of_isInlineSpace (space c member)).mpr ?_
      rintro rfl
      exact unmarked rfl member
  case newLine =>
    have breaks := next_text_newLine kind
    simpa using fun c member => Text.isSpace_of_isLineBreak (breaks c member)
  case endOfInput =>
    have ended := next_kind_eq_endOfInput.mp kind
    have spelled := s.next_text_append
    rw [ended, List.append_eq_nil_iff] at spelled
    simp [spelled.1]
  all_goals cases prose

end Scanner

/-- All tokens of the source are comments, white space and line breaks. -/
def ProseOnly (source : Text) : Prop :=
  ∀ token ∈ (Scanner.ofSource source).tokens, token.kind.isProse = true

instance (source : Text) : Decidable (ProseOnly source) :=
  inferInstanceAs (Decidable (∀ token ∈ (Scanner.ofSource source).tokens, _))

/-- Some white space of the source holds a byte order mark. -/
def HoldsMark (source : Text) : Prop :=
  ∃ token ∈ (Scanner.ofSource source).tokens, token.kind = .whitespace ∧ '\ufeff' ∈ token.text

instance (source : Text) : Decidable (HoldsMark source) :=
  inferInstanceAs (Decidable (∃ token ∈ (Scanner.ofSource source).tokens, _))

/-- The bodies of the segments of prose, without empty ones. -/
def Document.proseBodies (segments : List Segment) : List Text :=
  ((segments.filter (·.kind = .comment)).map Segment.body).filter (!·.isEmpty)

/-- Where all that is written is prose, a document is its bodies, each a line of its own. -/
theorem Document.render_prose {segments : List Segment} (fenceLang : Text)
    (prose : ∀ segment ∈ written segments, segment.kind = .comment) :
    render fenceLang segments =
      ['\n'].intercalate ((proseBodies segments).map (· ++ ['\n'])) ∧
    (written segments).length = (proseBodies segments).length := by
  have bodies : (written segments).map Segment.body = proseBodies segments := by
    rw [proseBodies, List.filter_map, List.filter_filter, written]
    refine congrArg _ (List.filter_congr fun segment member => ?_)
    cases empty : segment.body.isEmpty with
    | true => simp [empty]
    | false =>
      have listed : segment ∈ written segments := List.mem_filter.mpr ⟨member, by simp [empty]⟩
      simp [empty, prose segment listed]
  have blocks : (written segments).map (block fenceLang) =
      ((written segments).map Segment.body).map (· ++ ['\n']) := by
    rw [List.map_map]
    refine List.map_congr_left fun segment member => ?_
    simp [block, parts, prose segment member]
  exact ⟨by rw [render, blocks, bodies], by rw [← bodies, List.length_map]⟩

namespace ProseOnly

variable {source : Text} (prose : ProseOnly source)

include prose

/-- The tokens are those at top level and the end of input. -/
theorem tokens_eq : ∃ last, last.kind = .endOfInput ∧
    (Scanner.ofSource source).tokens = (Scanner.ofSource source).topLevel ++ [last] := by
  refine Scanner.tokens_eq_topLevel fun token member opens => ?_
  have kind := prose token member
  rw [opens] at kind
  cases kind

theorem mem_tokens {token : Token} (member : token ∈ (Scanner.ofSource source).topLevel) :
    token ∈ (Scanner.ofSource source).tokens := by
  obtain ⟨last, -, tokens⟩ := prose.tokens_eq
  rw [tokens]
  exact List.mem_append_left _ member

/-- Between the comments, white space leaves a body if it holds a byte order mark. -/
theorem body_eq_nil {run : List Token}
    (listed : run ∈ Token.runs (Scanner.ofSource source).topLevel) (index : Nat)
    (code : (Segment.ofTokens index run).kind = .code) :
    (Segment.ofTokens index run).body = [] ↔
      ∀ token ∈ run, token.kind = .whitespace → '\ufeff' ∉ token.text := by
  have others : ∀ token ∈ run, token.kind ≠ .blockComment := fun token member =>
    Token.segmentKind_eq_code.mp ((Token.segmentKind_of_mem_runs listed member index).trans code)
  have text : (Segment.ofTokens index run).fragments = run.map Token.text :=
    Token.fragments_of_code others
  have blank (token : Token) (member : token ∈ run) :
      (∀ c ∈ token.text, Text.isSpace c = true) ↔
        (token.kind = .whitespace → '\ufeff' ∉ token.text) := by
    have inSource : token ∈ (Scanner.ofSource source).topLevel := by
      rw [← Token.flatten_runs (Scanner.ofSource source).topLevel]
      exact List.mem_flatten_of_mem listed member
    have scanned := prose.mem_tokens inSource
    exact Scanner.forall_mem_tokens
      (P := fun token => token.kind.isProse = true → token.kind ≠ .blockComment →
        ((∀ c ∈ token.text, Text.isSpace c = true) ↔
          (token.kind = .whitespace → '\ufeff' ∉ token.text)))
      (fun _ => Scanner.next_text_blank) _ token scanned (prose token scanned) (others token member)
  rw [Segment.body_eq_nil code, text]
  constructor
  · intro all token member
    refine (blank token member).mp fun c inText => all c ?_
    exact List.mem_flatten_of_mem (List.mem_map_of_mem member) inText
  · intro unmarked c member
    obtain ⟨_, listed, inText⟩ := List.mem_flatten.mp member
    obtain ⟨token, inRun, rfl⟩ := List.mem_map.mp listed
    exact (blank token inRun).mpr (unmarked token inRun) c inText

/-- Only prose is written exactly if no white space holds a byte order mark. -/
theorem written_iff :
    (∀ segment ∈ Document.written (Segment.batch (Scanner.ofSource source).topLevel),
      segment.kind = .comment) ↔ ¬ HoldsMark source := by
  constructor
  · rintro allProse ⟨token, member, space, marked⟩
    obtain ⟨last, ended, tokens⟩ := prose.tokens_eq
    have inSource : token ∈ (Scanner.ofSource source).topLevel := by
      rw [tokens] at member
      refine (List.mem_append.mp member).resolve_right fun isLast => ?_
      rw [List.mem_singleton.mp isLast, ended] at space
      cases space
    rw [← Token.flatten_runs (Scanner.ofSource source).topLevel] at inSource
    obtain ⟨run, listed, inRun⟩ := List.mem_flatten.mp inSource
    obtain ⟨index, inside, here⟩ := List.mem_iff_getElem.mp listed
    have code : (Segment.ofTokens index run).kind = .code := by
      rw [← Token.segmentKind_of_mem_runs listed inRun index, Token.segmentKind_eq_code, space]
      simp
    have filled : (Segment.ofTokens index run).body ≠ [] := fun empty =>
      (prose.body_eq_nil listed index code).mp empty token inRun space marked
    have comment := allProse (Segment.ofTokens index run) <| by
      refine List.mem_filter.mpr ⟨?_, by simpa using filled⟩
      exact List.mem_mapIdx.mpr ⟨index, inside, by rw [here]⟩
    rw [code] at comment
    cases comment
  · intro unmarked segment member
    obtain ⟨inBatch, filled⟩ := List.mem_filter.mp member
    obtain ⟨index, inside, rfl⟩ := List.mem_mapIdx.mp inBatch
    have listed := List.getElem_mem inside
    generalize (Token.runs (Scanner.ofSource source).topLevel)[index] = run at listed filled ⊢
    cases kind : (Segment.ofTokens index run).kind with
    | comment => rfl
    | code =>
      have empty : (Segment.ofTokens index run).body = [] := by
        rw [prose.body_eq_nil listed index kind]
        intro token inRun space marked
        refine unmarked ⟨token, prose.mem_tokens ?_, space, marked⟩
        rw [← Token.flatten_runs (Scanner.ofSource source).topLevel]
        exact List.mem_flatten_of_mem listed inRun
      simp [empty] at filled

end ProseOnly

/-- A source without code converts without complaint. Its document has blocks of prose alone exactly
if no white space of the source holds a byte order mark, and is then the bodies of its segments of
prose, a line each, with an empty line between. -/
theorem prose_only_converts {source : Text} (prose : ProseOnly source)
    (options : ConversionOptions) :
    ∃ found result, segments source options.unterminated = .ok (found, #[]) ∧
      convert source options = .ok result ∧ result.diagnostics = [] ∧
      ((∀ segment ∈ Document.written found.toList, segment.kind = .comment) ↔
        ¬ HoldsMark source) ∧
      (¬ HoldsMark source →
        result.document =
          ['\n'].intercalate ((Document.proseBodies found.toList).map (· ++ ['\n'])) ∧
        result.blocks = (Document.proseBodies found.toList).length) := by
  have closed : ∀ p ∈ (Scanner.ofSource source).pieces, p.terminated = true := by
    intro p member
    rw [Scanner.pieces_eq_map] at member
    obtain ⟨token, listed, rfl⟩ := List.mem_map.mp member
    have kind := prose token (prose.mem_tokens listed)
    have plain : token.kind ≠ .templateStart := fun opens => by simp [opens, Kind.isProse] at kind
    simp [Piece.ofTopLevel, plain]
  obtain ⟨found, diagnostics, ran, batch, noted⟩ :=
    segments_succeed source options.unterminated (.inl closed)
  obtain rfl : diagnostics = #[] := by
    rw [← Array.toList_eq_nil_iff, noted, Piece.flatMap_diagnostics source closed]
  have converted := convert_eq source options
  rw [ran] at converted
  have only := prose.written_iff
  rw [← batch] at only
  refine ⟨found, _, ran, converted, rfl, only, fun unmarked => ?_⟩
  exact Document.render_prose options.fenceLang (only.mpr unmarked)

/-- Comments with a line separator between them are two paragraphs. -/
theorem separated_comments_convert :
    ProseOnly "/* a */\u2028/** b */".toList ∧
      ∃ result, convert "/* a */\u2028/** b */".toList {} = .ok result ∧
        result.document = "a\n\nb\n".toList ∧ result.blocks = 2 := by
  have prose : ProseOnly "/* a */\u2028/** b */".toList := by decide +kernel
  have unmarked : ¬ HoldsMark "/* a */\u2028/** b */".toList := by decide +kernel
  have ran : segments "/* a */\u2028/** b */".toList .fail =
      .ok (#[⟨.comment, [['a']], ⟨0, 7⟩, 0⟩, ⟨.code, [['\u2028']], ⟨7, 10⟩, 1⟩,
        ⟨.comment, [['b']], ⟨10, 18⟩, 2⟩], #[]) :=
    eq_ok_of_toOption (by decide +kernel)
  obtain ⟨found, result, found_eq, converted, -, -, text⟩ := prose_only_converts prose {}
  obtain ⟨rfl, -⟩ := Prod.mk.inj (Except.ok.inj (ran.symm.trans found_eq))
  obtain ⟨document, blocks⟩ := text unmarked
  refine ⟨prose, result, converted, ?_, ?_⟩
  · rw [document]
    decide +kernel
  · rw [blocks]
    decide +kernel

theorem Text.not_isIdentifierStart_mark : Text.isIdentifierStart '\ufeff' = false := by
  rw [Text.isIdentifierStart, Text.inRanges_eq_any]
  decide +kernel

theorem Lexeme.read_mark (atStart regexAllowed : Bool) (rest : Text) :
    read atStart regexAllowed '\ufeff' rest =
      { kind := .whitespace, rest := rest.dropWhile Text.isInlineSpace } := by
  have space : Text.isInlineSpace '\ufeff' = true := by decide
  simp [read, Text.isLineBreak, Text.not_isIdentifierStart_mark, space, Char.isDigit]

/-- A byte order mark in front of a comment is shown as code. -/
theorem byte_order_mark_is_fenced :
    ProseOnly ('\ufeff' :: "/* a */".toList) ∧
      ∃ result, convert ('\ufeff' :: "/* a */".toList) {} = .ok result ∧
        result.document = "```typescript\n\ufeff\n```\n\na\n".toList ∧ result.blocks = 2 := by
  have step : (Scanner.ofSource ('\ufeff' :: "/* a */".toList)).next =
      ⟨'\ufeff' :: "/* a */".toList, ⟨.whitespace, 0, ['\ufeff'], false⟩, "/* a */".toList,
        true⟩ := by
    simp only [Scanner.next, Scanner.ofSource, Lexeme.read_mark]
    decide +kernel
  have prose : ProseOnly ('\ufeff' :: "/* a */".toList) := by
    rw [ProseOnly, Scanner.tokens, step]
    decide +kernel
  have tokens : (Scanner.ofSource ('\ufeff' :: "/* a */".toList)).topLevel =
      [⟨.whitespace, 0, ['\ufeff'], false⟩, ⟨.blockComment, 3, "/* a */".toList, false⟩] := by
    have ahead := Scanner.whole?_of_token (s := Scanner.ofSource ('\ufeff' :: "/* a */".toList))
      (by rw [step]; decide) (by rw [step]; decide)
    rw [Scanner.topLevel_eq_cons ahead, step]
    decide +kernel
  have closed : ∀ p ∈ (Scanner.ofSource ('\ufeff' :: "/* a */".toList)).pieces,
      p.terminated = true := by
    rw [Scanner.pieces_eq_map, tokens]
    decide
  obtain ⟨found, diagnostics, ran, batch, -⟩ := segments_succeed _ .fail (.inl closed)
  have converted := convert_eq ('\ufeff' :: "/* a */".toList) {}
  rw [ran] at converted
  refine ⟨prose, _, converted, ?_, ?_⟩
  · change Document.render "typescript".toList found.toList = _
    rw [batch, tokens]
    decide +kernel
  · change (Document.written found.toList).length = 2
    rw [batch, tokens]
    decide +kernel

end Weave
