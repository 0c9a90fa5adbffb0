import Mathlib.Data.List.Forall2
import Weave.Proofs.LineEndings
import Weave.Proofs.Positions
import Weave.Proofs.Streaming

/-!
Conversion does not depend on the convention for line endings. With the same tokens but for the line
endings in them, a source and its `crlf` have the same runs of tokens; the lines of a comment are the
same, code keeps its line endings, and a position counts line feeds alone. So both are converted, or
neither is, with the same positions reported, and block for block the documents differ in the line
endings of the code only.
-/

namespace Weave

open Text (crlf crlf_cons crlf_feed)

/-! ### Lists in step -/

section

variable {α β : Type} {R : α → β → Prop}

/-- Related lists are the two sides of a list of related pairs. -/
theorem exists_pairs {l : List α} {l' : List β} (related : List.Forall₂ R l l') :
    ∃ pairs : List { p : α × β // R p.1 p.2 },
      l = pairs.map (·.1.1) ∧ l' = pairs.map (·.1.2) := by
  induction related with
  | nil => exact ⟨[], rfl, rfl⟩
  | @cons a b _ _ here _ ih =>
    obtain ⟨pairs, rfl, rfl⟩ := ih
    exact ⟨⟨(a, b), here⟩ :: pairs, rfl, rfl⟩

/-- Related lists are split at the same places. -/
theorem splitBy_forall₂ {l : List α} {l' : List β} (related : List.Forall₂ R l l')
    {r : α → α → Bool} {r' : β → β → Bool}
    (same : ∀ {a b a' b'}, R a a' → R b b' → r' a' b' = r a b) :
    List.Forall₂ (List.Forall₂ R) (l.splitBy r) (l'.splitBy r') := by
  obtain ⟨pairs, rfl, rfl⟩ := exists_pairs related
  have classes : (fun a b : { p : α × β // R p.1 p.2 } => r' a.1.2 b.1.2) =
      fun a b => r a.1.1 b.1.1 := by
    funext a b
    exact same a.2 b.2
  rw [splitBy_map, splitBy_map, classes, List.forall₂_map_left_iff, List.forall₂_map_right_iff,
    List.forall₂_same]
  intro run _
  rw [List.forall₂_map_left_iff, List.forall₂_map_right_iff, List.forall₂_same]
  exact fun pair _ => pair.2

theorem forall₂_mapIdx {γ δ : Type} {S : γ → δ → Prop} {l : List α} {l' : List β} {f : Nat → α → γ}
    {g : Nat → β → δ} (related : List.Forall₂ R l l') (step : ∀ i {a b}, R a b → S (f i a) (g i b)) :
    List.Forall₂ S (l.mapIdx f) (l'.mapIdx g) := by
  rw [List.forall₂_iff_get] at related ⊢
  obtain ⟨length_eq, items⟩ := related
  refine ⟨by simpa using length_eq, fun i inside inside' => ?_⟩
  rw [List.length_mapIdx] at inside inside'
  simpa using step i (items i inside inside')

/-- What is the same for related items is the same for related lists. -/
theorem map_eq_of_forall₂ {γ : Type} {l : List α} {l' : List β} {f : α → γ} {g : β → γ}
    (related : List.Forall₂ R l l') (same : ∀ a ∈ l, ∀ b, R a b → g b = f a) :
    l'.map g = l.map f := by
  induction related with
  | nil => rfl
  | cons here _ ih =>
    rw [List.map_cons, List.map_cons, same _ List.mem_cons_self _ here,
      ih fun a member => same a (List.mem_cons_of_mem _ member)]

theorem forall₂_concat_left {l : List α} {a : α} {l' : List β}
    (related : List.Forall₂ R (l ++ [a]) l') :
    ∃ m b, l' = m ++ [b] ∧ List.Forall₂ R l m ∧ R a b := by
  induction l generalizing l' with
  | nil =>
    obtain ⟨b, rest, here, last, rfl⟩ := List.forall₂_cons_left_iff.mp related
    obtain rfl := List.forall₂_nil_left_iff.mp last
    exact ⟨[], b, rfl, .nil, here⟩
  | cons first l ih =>
    obtain ⟨b, rest, here, later, rfl⟩ := List.forall₂_cons_left_iff.mp related
    obtain ⟨m, last, rfl, before, here'⟩ := ih later
    exact ⟨b :: m, last, rfl, .cons here before, here'⟩

end

/-! ### Comments and code -/

namespace Comment

theorem splitLines_cons {c : Char} (inLine : c ≠ '\r' ∧ c ≠ '\n') (t : Text) :
    splitLines (c :: t) =
      match splitLines t with
      | [] => [[c]]
      | line :: more => (c :: line) :: more := by
  have notBreak : ¬ (decide (c = '\r') || decide (c = '\n')) = true := by simp [inLine]
  rw [splitLines]
  · exact if_neg notBreak
  · rintro rest rfl
    exact absurd rfl inLine.1

/-- A comment has the same lines with either convention. -/
theorem splitLines_crlf {t : Text} (bare : '\r' ∉ t) : splitLines t.crlf = splitLines t := by
  induction t with
  | nil => rfl
  | cons c t ih =>
    rw [List.mem_cons, not_or] at bare
    by_cases feed : c = '\n'
    · subst feed
      rw [crlf_feed, splitLines, ih bare.2]
      rfl
    · have inLine : c ≠ '\r' ∧ c ≠ '\n' := ⟨Ne.symm bare.1, feed⟩
      rw [crlf_cons feed, splitLines_cons inLine, splitLines_cons inLine, ih bare.2]

theorem lines_crlf {t : Text} (bare : '\r' ∉ t) : lines t.crlf = lines t := by
  rw [lines, splitLines_crlf bare, lines]

end Comment

theorem Text.dropEndWhile_crlf {p : Char → Bool} (alike : p '\r' = p '\n') (t : Text) :
    dropEndWhile p t.crlf = (dropEndWhile p t).crlf := by
  have concat (t : Text) (c : Char) :
      dropEndWhile p (t ++ [c]) = if p c then dropEndWhile p t else t ++ [c] := by
    rw [dropEndWhile, List.reverse_append, List.reverse_singleton, List.singleton_append,
      List.dropWhile_cons]
    split <;> simp [dropEndWhile]
  induction t using List.reverseRecOn with
  | nil => rfl
  | append_singleton t c ih =>
    rw [crlf_append, concat]
    by_cases feed : c = '\n'
    · subst feed
      have pair : crlf t ++ crlf ['\n'] = (crlf t ++ ['\r']) ++ ['\n'] := by simp
      rw [pair, concat, concat, alike]
      split
      · exact ih
      · simp
    · rw [crlf_cons feed, crlf_nil, concat]
      split
      · exact ih
      · rw [crlf_append, crlf_cons feed, crlf_nil]

/-- The runs of backticks are the same with either convention. -/
theorem Document.longestRun_crlf (t : Text) : longestRun t.crlf = longestRun t := by
  unfold longestRun crlf
  rw [List.foldl_flatMap]
  congr 2
  funext state c
  by_cases feed : c = '\n' <;> simp [feed]

theorem Document.fence_crlf (body : Text) : fence body.crlf = fence body := by
  rw [fence, longestRun_crlf, fence]

/-! ### Segments -/

namespace Token

variable {a b : Token}

theorem Rebroken.segmentKind_eq (rebroken : a.Rebroken b) : b.segmentKind = a.segmentKind := by
  rw [segmentKind, rebroken.kind_eq, segmentKind]

theorem Rebroken.fragments_of_comment (rebroken : a.Rebroken b) (comment : a.segmentKind = .comment) :
    b.fragments = a.fragments := by
  have isComment := segmentKind_eq_comment.mp comment
  rw [fragments, if_pos (rebroken.kind_eq.trans isComment), fragments, if_pos isComment,
    rebroken.text_eq, Comment.lines_crlf rebroken.bare]

theorem Rebroken.fragments_of_code (rebroken : a.Rebroken b) (code : a.segmentKind = .code) :
    b.fragments = a.fragments.map crlf := by
  have other := segmentKind_eq_code.mp code
  rw [fragments, if_neg (rebroken.kind_eq ▸ other), fragments, if_neg other, rebroken.text_eq]
  rfl

end Token

/-- Segments that are the same but for their place and the line endings of code. -/
structure Segment.Rebroken (a b : Segment) : Prop where
  kind_eq : b.kind = a.kind
  index_eq : b.index = a.index
  prose : a.kind = .comment → b.fragments = a.fragments ∧ b.body = a.body
  code : a.kind = .code → b.fragments = a.fragments.map crlf ∧ b.body = a.body.crlf ∧
    (Document.fence b.body).length = (Document.fence a.body).length

namespace Segment

variable {a b : Segment}

/-- Code loses the same line breaks and white space at its ends with either convention. -/
theorem body_of_fragments_crlf (code : a.kind = .code) (kind_eq : b.kind = a.kind)
    (fragments_eq : b.fragments = a.fragments.map crlf) : b.body = a.body.crlf := by
  have breaks := Text.dropWhile_crlf (p := fun c => c == '\r' || c == '\n') (by decide)
  rw [body, kind_eq, code, body, code]
  dsimp only
  rw [fragments_eq, ← Text.crlf_flatten, breaks, Text.trimEnd,
    Text.dropEndWhile_crlf (by decide)]
  rfl

/-- The segments of runs in step. -/
theorem rebroken_ofTokens {run run' : List Token} (related : List.Forall₂ Token.Rebroken run run')
    (index : Nat) (uniform : ∀ token ∈ run, token.segmentKind = (ofTokens index run).kind) :
    (ofTokens index run).Rebroken (ofTokens index run') := by
  have kinds : run'.map Token.kind = run.map Token.kind :=
    map_eq_of_forall₂ related fun _ _ _ rebroken => rebroken.kind_eq
  have kind_of (run : List Token) : (ofTokens index run).kind =
      if (run.map Token.kind).all (· = .blockComment) then .comment else .code := by
    rw [List.all_map]
    rfl
  have kind_eq : (ofTokens index run').kind = (ofTokens index run).kind := by
    rw [kind_of, kinds, ← kind_of]
  refine ⟨kind_eq, rfl, fun comment => ?_, fun code => ?_⟩
  · have fragments_eq : (ofTokens index run').fragments = (ofTokens index run).fragments := by
      dsimp only [ofTokens]
      rw [List.flatMap_def, List.flatMap_def]
      refine congrArg List.flatten (map_eq_of_forall₂ related fun token member _ rebroken => ?_)
      exact rebroken.fragments_of_comment ((uniform token member).trans comment)
    refine ⟨fragments_eq, ?_⟩
    rw [body, kind_eq, comment, body, comment, fragments_eq]
  · have fragments_eq :
        (ofTokens index run').fragments = (ofTokens index run).fragments.map crlf := by
      dsimp only [ofTokens]
      rw [List.map_flatMap, List.flatMap_def, List.flatMap_def]
      refine congrArg List.flatten (map_eq_of_forall₂ related fun token member _ rebroken => ?_)
      exact rebroken.fragments_of_code ((uniform token member).trans code)
    have body_eq := body_of_fragments_crlf code kind_eq fragments_eq
    exact ⟨fragments_eq, body_eq, by rw [body_eq, Document.fence_crlf]⟩

theorem rebroken_batch {tokens tokens' : List Token}
    (related : List.Forall₂ Token.Rebroken tokens tokens') :
    List.Forall₂ Segment.Rebroken (batch tokens) (batch tokens') := by
  have runs : List.Forall₂ (List.Forall₂ Token.Rebroken) (Token.runs tokens) (Token.runs tokens') :=
    splitBy_forall₂ related fun first second => by
      rw [first.segmentKind_eq, second.segmentKind_eq]
  have uniform : List.Forall₂
      (fun run run' => (∀ index, ∀ token ∈ run, token.segmentKind = (ofTokens index run).kind) ∧
        List.Forall₂ Token.Rebroken run run') (Token.runs tokens) (Token.runs tokens') :=
    (List.forall₂_and_left _ _).mpr ⟨fun run listed index token member =>
      Token.segmentKind_of_mem_runs listed member index, runs⟩
  exact forall₂_mapIdx uniform fun index _ _ ⟨kinds, run⟩ => rebroken_ofTokens run index (kinds index)

theorem Rebroken.isEmpty_body (rebroken : a.Rebroken b) : b.body.isEmpty = a.body.isEmpty := by
  cases kind : a.kind with
  | comment => rw [(rebroken.prose kind).2]
  | code =>
    rw [(rebroken.code kind).2.1, Bool.eq_iff_iff, List.isEmpty_iff, List.isEmpty_iff,
      Text.crlf_eq_nil]

end Segment

theorem Document.rebroken_written {segments segments' : List Segment}
    (related : List.Forall₂ Segment.Rebroken segments segments') :
    List.Forall₂ Segment.Rebroken (written segments) (written segments') :=
  List.rel_filter (fun a b rebroken => by simp [rebroken.isEmpty_body]) related

/-! ### Positions -/

namespace Position

theorem count_crlf (front : Text) : front.crlf.count '\n' = front.count '\n' := by
  induction front with
  | nil => rfl
  | cons c front ih => by_cases feed : c = '\n' <;> simp [crlf_cons, feed, ih]

/-- A carriage return belongs to the line that ends with it. -/
theorem lastLine_crlf (front : Text) :
    (front.crlf.reverse.takeWhile (· != '\n')).length =
      (front.reverse.takeWhile (· != '\n')).length := by
  induction front using List.reverseRecOn with
  | nil => rfl
  | append_singleton front c ih => by_cases feed : c = '\n' <;> simp [crlf_cons, feed, ih]

theorem after_crlf (front : Text) : after front.crlf = after front := by
  rw [after, count_crlf, lastLine_crlf, after]

end Position

/-- Pieces that are the same but for their place and the line endings in them. -/
structure Piece.Rebroken (p q : Piece) : Prop where
  terminated_eq : q.terminated = p.terminated
  text_eq : q.text = p.text.crlf

theorem Token.Rebroken.piece {a b : Token} (rebroken : a.Rebroken b) :
    (Piece.ofTopLevel a).Rebroken (.ofTopLevel b) := by
  refine ⟨?_, rebroken.text_eq⟩
  rw [Piece.ofTopLevel, Piece.ofTopLevel, rebroken.kind_eq, rebroken.unterminated_eq]

namespace Piece

theorem spell_rebroken {ps qs : List Piece} (related : List.Forall₂ Piece.Rebroken ps qs) :
    spell qs = (spell ps).crlf := by
  induction related with
  | nil => rfl
  | cons here _ ih => rw [spell_cons, here.text_eq, ih, spell_cons, Text.crlf_append]

/-- A piece and its counterpart have the same position in their sources. -/
theorem position_rebroken {source source' : Text} {before before' behind behind' : List Piece}
    {p q : Piece} (laid : Laid 0 source (before ++ p :: behind))
    (laid' : Laid 0 source' (before' ++ q :: behind'))
    (related : List.Forall₂ Piece.Rebroken before before') :
    Position.ofOffset source' q.start = Position.ofOffset source p.start := by
  have position {source : Text} {before behind : List Piece} {p : Piece}
      (laid : Laid 0 source (before ++ p :: behind)) :
      Position.ofOffset source p.start = Position.after (spell before) := by
    have starts := (consecutive_append.mp laid.consecutive).2.1
    rw [← laid.spelled, spell_append, starts, Nat.zero_add, Position.ofOffset_append]
  rw [position laid, position laid', spell_rebroken related, Position.after_crlf]

theorem terminated_rebroken {ps qs : List Piece} (related : List.Forall₂ Piece.Rebroken ps qs)
    (closed : ∀ p ∈ ps, p.terminated = true) : ∀ q ∈ qs, q.terminated = true := by
  have same : qs.map terminated = ps.map terminated :=
    map_eq_of_forall₂ related fun _ _ _ rebroken => rebroken.terminated_eq
  rw [← List.forall_mem_map (P := (· = true))] at closed ⊢
  rwa [same]

end Piece

/-! ### The whole conversion -/

section

variable {source : Text} (bare : '\r' ∉ source)
include bare

theorem topLevel_rebroken :
    List.Forall₂ Token.Rebroken (Scanner.ofSource source).topLevel
      (Scanner.ofSource source.crlf).topLevel :=
  (Scanner.rebroken_ofSource bare).topLevel (Scanner.placed_ofSource _) (Scanner.placed_ofSource _)

theorem pieces_rebroken :
    List.Forall₂ Piece.Rebroken (Scanner.ofSource source).pieces
      (Scanner.ofSource source.crlf).pieces := by
  rw [Scanner.pieces_eq_map, Scanner.pieces_eq_map, List.forall₂_map_left_iff,
    List.forall₂_map_right_iff]
  exact (topLevel_rebroken bare).imp fun _ _ rebroken => rebroken.piece

/-- Both sources have segments, alike one by one and with diagnostics at the same positions, or both
fail at the same position. -/
theorem segments_rebroken (policy : UnterminatedPolicy) :
    (∃ found diagnostics found' diagnostics',
      segments source policy = .ok (found, diagnostics) ∧
      segments source.crlf policy = .ok (found', diagnostics') ∧
      List.Forall₂ Segment.Rebroken found.toList found'.toList ∧
      diagnostics'.toList.map Diagnostic.position = diagnostics.toList.map Diagnostic.position) ∨
    ∃ offset offset' position,
      segments source policy = .error (.unterminatedTemplate offset position) ∧
      segments source.crlf policy = .error (.unterminatedTemplate offset' position) := by
  have related := pieces_rebroken bare
  have alike := Segment.rebroken_batch (topLevel_rebroken bare)
  have laid : Laid 0 source (Scanner.ofSource source).pieces :=
    (Scanner.placed_ofSource source).laid
  have laid' : Laid 0 source.crlf (Scanner.ofSource source.crlf).pieces :=
    (Scanner.placed_ofSource source.crlf).laid
  rcases laid.ending with closed | ⟨before, p, pieces, closed, broken, -⟩
  · have closed' := Piece.terminated_rebroken related closed
    obtain ⟨found, diagnostics, ran, found_eq, none⟩ :=
      segments_succeed source policy (.inl closed)
    obtain ⟨found', diagnostics', ran', found_eq', none'⟩ :=
      segments_succeed source.crlf policy (.inl closed')
    refine .inl ⟨found, diagnostics, found', diagnostics', ran, ran', ?_, ?_⟩
    · rwa [found_eq, found_eq']
    · rw [none, none', Piece.flatMap_diagnostics _ closed, Piece.flatMap_diagnostics _ closed']
  · rw [pieces] at related laid
    obtain ⟨before', q, pieces', fronts, last⟩ := forall₂_concat_left related
    rw [pieces'] at laid'
    have position := Piece.position_rebroken laid laid' fronts
    have closed' := Piece.terminated_rebroken fronts closed
    have broken' := last.terminated_eq.trans broken
    cases policy with
    | fail =>
      refine .inr ⟨p.start, q.start, _, segments_fail pieces closed broken, ?_⟩
      rw [segments_fail pieces' closed' broken', position]
    | truncate =>
      obtain ⟨found, diagnostics, ran, found_eq, single⟩ :=
        segments_succeed source .truncate (.inr rfl)
      obtain ⟨found', diagnostics', ran', found_eq', single'⟩ :=
        segments_succeed source.crlf .truncate (.inr rfl)
      refine .inl ⟨found, diagnostics, found', diagnostics', ran, ran', ?_, ?_⟩
      · rwa [found_eq, found_eq']
      · rw [single, single', pieces, pieces', List.flatMap_append, List.flatMap_append,
          Piece.flatMap_diagnostics _ closed, Piece.flatMap_diagnostics _ closed']
        simpa [Piece.diagnostics, broken, broken', Piece.diagnostic] using position

end

/-- What the conversions of two texts have in common that differ in their line endings. -/
structure SameConversion (source other : Text) (options : ConversionOptions) : Prop where
  tokens : List.Forall₂ Token.Rebroken (Scanner.ofSource source).tokens
    (Scanner.ofSource other).tokens
  succeeds : (∃ conversion, convert other options = .ok conversion) ↔
    ∃ conversion, convert source options = .ok conversion
  failure : ∀ e e', convert source options = .error e → convert other options = .error e' →
    ∃ offset offset' position, e = .unterminatedTemplate offset position ∧
      e' = .unterminatedTemplate offset' position
  report : ∀ c c', convert source options = .ok c → convert other options = .ok c' →
    c'.blocks = c.blocks ∧ c'.diagnostics.map (·.position) = c.diagnostics.map (·.position)
  segments : ∀ c, convert source options = .ok c → ∃ found diagnostics found' diagnostics',
    segments source options.unterminated = .ok (found, diagnostics) ∧
    segments other options.unterminated = .ok (found', diagnostics') ∧
    List.Forall₂ Segment.Rebroken found.toList found'.toList ∧
    List.Forall₂ Segment.Rebroken (Document.written found.toList) (Document.written found'.toList) ∧
    (Document.written found.toList).length = c.blocks

/-- Conversion does not depend on the convention for line endings. -/
theorem conversion_ignores_line_endings {source : Text} (bare : '\r' ∉ source)
    (options : ConversionOptions) : SameConversion source source.crlf options := by
  have tokens := (Scanner.rebroken_ofSource bare).tokens
  rcases segments_rebroken bare options.unterminated with
    ⟨found, diagnostics, found', diagnostics', ran, ran', alike, positions⟩ |
    ⟨offset, offset', position, failed, failed'⟩
  · have converted := convert_eq source options
    have converted' := convert_eq source.crlf options
    rw [ran] at converted
    rw [ran'] at converted'
    have blocks := Document.rebroken_written alike
    refine ⟨tokens, ⟨fun _ => ⟨_, converted⟩, fun _ => ⟨_, converted'⟩⟩, ?_, ?_, ?_⟩
    · intro e e' failed
      rw [converted] at failed
      cases failed
    · intro c c' ok ok'
      obtain rfl := Except.ok.inj (converted.symm.trans ok)
      obtain rfl := Except.ok.inj (converted'.symm.trans ok')
      exact ⟨blocks.length_eq.symm, positions⟩
    · intro c ok
      obtain rfl := Except.ok.inj (converted.symm.trans ok)
      exact ⟨found, diagnostics, found', diagnostics', ran, ran', alike, blocks, rfl⟩
  · have failure := convert_eq source options
    have failure' := convert_eq source.crlf options
    rw [failed] at failure
    rw [failed'] at failure'
    refine ⟨tokens, ?_, ?_, ?_, ?_⟩
    · simp [failure, failure', Except.map]
    · intro e e' given given'
      obtain rfl := Except.error.inj (failure.symm.trans given)
      obtain rfl := Except.error.inj (failure'.symm.trans given')
      exact ⟨offset, offset', position, rfl, rfl⟩
    · intro c c' ok
      rw [failure] at ok
      cases ok
    · intro c ok
      rw [failure] at ok
      cases ok

/-- A comment of two lines, a string that goes on behind a line break, and a template that is cut
short. -/
theorem cut_template_rebroken :
    '\r' ∉ "/* a\n * b */\nx = '\\\n'\n`c\n$\x7b".toList ∧
    (convert "/* a\n * b */\nx = '\\\n'\n`c\n$\x7b".toList
      { unterminated := .truncate }).toOption.map (fun c => (c.blocks, c.diagnostics.map (·.position))) =
      some (2, [⟨5, 1⟩]) ∧
    SameConversion "/* a\n * b */\nx = '\\\n'\n`c\n$\x7b".toList
      (crlf "/* a\n * b */\nx = '\\\n'\n`c\n$\x7b".toList) { unterminated := .truncate } :=
  ⟨by decide, by decide +kernel, conversion_ignores_line_endings (by decide) _⟩

end Weave
