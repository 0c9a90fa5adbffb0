import Weave.Proofs.Resumption

/-!
Prose on a line of its own. A block comment that is put into a source right behind a line break at
top level changes nothing else: what stands before the break is read without looking past it, the
break and the comment leave it open whether a slash opens a regular expression, and what follows is
read from a scanner in the same state, only further on in its source.
-/

namespace Weave

namespace Lexeme

/-- A line break takes the same characters whatever follows it, a line feed apart. -/
theorem afterEscape_of_take {b : Char} {taken rest rest' : Text}
    (takes : afterEscape b (taken ++ rest) = rest) (notFeed : rest'.head? ≠ some '\n') :
    afterEscape b (taken ++ rest') = rest' := by
  cases taken with
  | nil =>
    rw [List.nil_append, afterEscape, if_neg]
    exact fun pair => notFeed pair.2
  | cons d taken =>
    unfold afterEscape at takes
    split at takes
    · next pair =>
      obtain ⟨rfl, feed⟩ := pair
      obtain rfl : d = '\n' := by simpa using feed
      obtain rfl : taken = [] := List.append_left_eq_self.mp takes
      rfl
    · have longer := congrArg List.length takes
      simp only [List.length_append, List.length_cons] at longer
      omega

end Lexeme

namespace Scanner

variable {s : Scanner}

/-- White space and comments that are read off the front are tokens at top level, behind which a
slash is what it was before them. -/
theorem whole?_trivia {c : Char} {text rest : Text} {l : Lexeme}
    (ahead : s.rest = c :: (text ++ rest))
    (read : Lexeme.read (s.current.stop == 0) s.regexAllowed c (text ++ rest) = l)
    (left : l.rest = rest) (trivia : l.kind.isTrivia = true) :
    s.whole? = some (⟨l.kind, s.current.stop, c :: text, l.unterminated⟩, s.next) ∧
    s.next.rest = rest ∧ s.next.regexAllowed = s.regexAllowed := by
  have stepped := next_eq_take ahead
  rw [read] at stepped
  have text_eq : Text.upTo (c :: (text ++ rest)) l.rest = c :: text := by
    rw [left, ← List.cons_append, Text.upTo_append]
  have token_eq : s.next.current = ⟨l.kind, s.current.stop, c :: text, l.unterminated⟩ := by
    rw [stepped, take, text_eq]
  have more : l.kind ≠ .endOfInput := by
    intro ended
    simp [ended, Kind.isTrivia] at trivia
  have single : l.kind ≠ .templateStart := by
    intro opens
    simp [opens, Kind.isTrivia] at trivia
  refine ⟨?_, ?_, ?_⟩
  · rw [whole?, token_eq, if_neg more, if_neg single]
  · rw [stepped, take, left]
  · simp only [stepped, take, allowsRegex, trivia, ↓reduceIte]

/-- A line break at top level takes a line feed along that stands behind a carriage return. -/
theorem newLine_ahead {nl : Token} {after : Scanner} (ahead : s.whole? = some (nl, after))
    (isBreak : nl.kind = .newLine) :
    ∃ b taken, nl.text = b :: taken ∧ Text.isLineBreak b = true ∧
      Lexeme.afterEscape b (taken ++ after.rest) = after.rest := by
  unfold whole? at ahead
  split at ahead
  · cases ahead
  · split at ahead
    · cases ahead
      cases isBreak
    · next more other =>
      cases ahead
      obtain ⟨b, rest, rest_eq⟩ :=
        List.exists_cons_of_ne_nil (fun empty => more (next_kind_eq_endOfInput.mpr empty))
      rw [next_eq_take rest_eq] at isBreak
      have lineBreak := Lexeme.isLineBreak_of_read_kind isBreak
      have left : s.next.rest = Lexeme.afterEscape b rest := by
        rw [next_eq_take rest_eq, Lexeme.read_lineBreak _ _ _ lineBreak]
        rfl
      obtain ⟨taken, split⟩ := Lexeme.afterEscape_suffix b rest
      refine ⟨b, taken, ?_, lineBreak, by rw [left, split]⟩
      have whole := s.next_text_append
      rw [rest_eq, left] at whole
      apply List.append_cancel_right (whole.trans _)
      rw [List.cons_append, split]

theorem newLine_of_mem_topLevel {nl : Token} (member : nl ∈ s.topLevel)
    (isBreak : nl.kind = .newLine) :
    ∃ b taken, nl.text = b :: taken ∧ Text.isLineBreak b = true := by
  fun_induction Scanner.topLevel s with
  | case1 s ended => cases member
  | case2 s token after ahead ih =>
    rcases List.mem_cons.mp member with rfl | member
    · obtain ⟨b, taken, text_eq, lineBreak, -⟩ := newLine_ahead ahead isBreak
      exact ⟨b, taken, text_eq, lineBreak⟩
    · exact ih member

end Scanner

/-- The block comment around a body. -/
def Comment.enclose (body : Text) : Text := '/' :: ('*' :: (body ++ ['*', '/']))

/-- The token that the comment around `body` is. -/
def Token.ofComment (start : Nat) (body : Text) : Token where
  kind := .blockComment
  start
  text := Comment.enclose body
  unterminated := false

namespace Scanner

variable {s s' : Scanner}

/-- A block comment ahead is a token at top level. -/
theorem whole?_comment {body rest : Text} (ahead : s.rest = Comment.enclose body ++ rest)
    (bare : ¬ ['*', '/'] <:+: body) :
    s.whole? = some (.ofComment s.current.stop body, s.next) ∧ s.next.rest = rest ∧
      s.next.regexAllowed = s.regexAllowed := by
  have read : Lexeme.read (s.current.stop == 0) s.regexAllowed '/'
      ('*' :: (body ++ ['*', '/']) ++ rest) = { kind := .blockComment, rest } := by
    rw [List.cons_append, Lexeme.read_comment, Lexeme.blockComment, List.append_assoc]
    simp only [List.cons_append, List.nil_append, Lexeme.afterCommentClose_append bare]
  exact whole?_trivia ahead read rfl rfl

/-- Where one scanner is at a line break and the other at the same break with a comment behind it,
they are in the same state behind the break and the comment. -/
theorem shifted_behind_comment {b : Char} {taken rest body : Text}
    (lineBreak : Text.isLineBreak b = true) (stop_eq : s'.current.stop = s.current.stop)
    (regexAllowed_eq : s'.regexAllowed = s.regexAllowed) (ahead : s.rest = b :: (taken ++ rest))
    (ahead' : s'.rest = b :: (taken ++ (Comment.enclose body ++ rest)))
    (takes : Lexeme.afterEscape b (taken ++ rest) = rest) (bare : ¬ ['*', '/'] <:+: body) :
    s.whole? = some (⟨.newLine, s.current.stop, b :: taken, false⟩, s.next) ∧
    s'.topLevel = ⟨.newLine, s.current.stop, b :: taken, false⟩ ::
      .ofComment (s.current.stop + Text.size (b :: taken)) body :: s'.next.next.topLevel ∧
    Shifted (Comment.enclose body).size s.next s'.next.next := by
  have takes' : Lexeme.afterEscape b (taken ++ (Comment.enclose body ++ rest)) =
      Comment.enclose body ++ rest := Lexeme.afterEscape_of_take takes (by simp [Comment.enclose])
  obtain ⟨found, left, regex⟩ :=
    whole?_trivia ahead (Lexeme.read_lineBreak _ _ _ lineBreak) takes rfl
  obtain ⟨found', left', regex'⟩ :=
    whole?_trivia ahead' (Lexeme.read_lineBreak _ _ _ lineBreak) takes' rfl
  obtain ⟨comment, final, regex''⟩ := whole?_comment left' bare
  have sizes := s.next_stop_add_rest
  have sizes' := s'.next_stop_add_rest
  have sizes'' := s'.next.next_stop_add_rest
  simp only [ahead, ahead', left, left', final, stop_eq, Text.size_cons, Text.size_append]
    at sizes sizes' sizes''
  have stop_eq' : s'.next.current.stop = s.current.stop + Text.size (b :: taken) := by
    rw [Text.size_cons]
    omega
  have width := b.utf8Size_pos
  refine ⟨found, ?_, ?_, ?_, by omega, fun start => absurd start (by omega)⟩
  · rw [topLevel_eq_cons found', topLevel_eq_cons comment, stop_eq, stop_eq']
  · rw [final, left]
  · rw [regex'', regex', regexAllowed_eq, regex]

end Scanner

/-- Where a source is cut behind one of its tokens, the texts before and behind the cut are those of
the tokens there. -/
theorem Token.texts_of_cut {s₁ s₂ : Text} {before after : List Token} {last : Token}
    (scanned : (Scanner.ofSource (s₁ ++ s₂)).topLevel = before ++ last :: after)
    (cut : last.stop = s₁.size) : s₁ = texts before ++ last.text ∧ s₂ = texts after := by
  have laid := (Scanner.placed_ofSource (s₁ ++ s₂)).laid
  rw [Scanner.pieces_eq_map, scanned, List.map_append] at laid
  have starts : last.start = (texts before).size := by
    have consecutive := (Piece.consecutive_append.mp laid.consecutive).2.1
    rwa [Piece.spell_map_ofTopLevel, Scanner.ofSource, Token.stop, Text.size_nil,
      Nat.zero_add] at consecutive
  have spelled := laid.spelled
  rw [← List.map_append, Piece.spell_map_ofTopLevel, texts_append] at spelled
  have whole : (texts before ++ last.text) ++ texts after = s₁ ++ s₂ := by
    rw [List.append_assoc]
    exact spelled
  have size_eq : s₁.size = (texts before ++ last.text).size := by
    rw [← cut, stop, starts, Text.size_append]
  have behind : texts after = s₂ := by
    have dropped := congrArg (Text.dropBytes s₁.size) whole
    rw [Text.dropBytes_append] at dropped
    rwa [size_eq, Text.dropBytes_append] at dropped
  rw [behind] at whole
  exact ⟨(List.append_cancel_right whole).symm, behind.symm⟩

/-- A comment behind a line break at top level is one more token there, and the tokens behind it are
moved on by its size. -/
theorem Scanner.topLevel_insert_comment {s₁ s₂ body : Text} {before after : List Token} {nl : Token}
    (scanned : (ofSource (s₁ ++ s₂)).topLevel = before ++ nl :: after) (isBreak : nl.kind = .newLine)
    (cut : nl.stop = s₁.size) (bare : ¬ ['*', '/'] <:+: body) :
    (ofSource (s₁ ++ (Comment.enclose body ++ s₂))).topLevel =
      before ++ nl :: .ofComment s₁.size body ::
        after.map (Token.shift (Comment.enclose body).size) := by
  obtain ⟨front_eq, rest_eq⟩ := Token.texts_of_cut scanned cut
  obtain ⟨b, taken, text_eq, lineBreak⟩ :=
    newLine_of_mem_topLevel (scanned ▸ List.mem_append_right before List.mem_cons_self) isBreak
  -- Both scans go together up to the line break.
  have same : SameUpTo b (taken ++ s₂) (taken ++ (Comment.enclose body ++ s₂))
      (ofSource (s₁ ++ s₂)) (ofSource (s₁ ++ (Comment.enclose body ++ s₂))) := by
    refine ⟨rfl, rfl, Token.texts before, ?_, ?_⟩ <;> simp [ofSource, front_eq, text_eq]
  have later : b :: (taken ++ s₂) = Token.texts (nl :: after) := by
    rw [Token.texts, List.flatMap_cons, text_eq, rest_eq, List.cons_append]
    rfl
  obtain ⟨mid, mid', same, scanned, scanned', ⟨_, placed⟩, ⟨_, placed'⟩⟩ :=
    same.topLevel lineBreak (placed_ofSource _) (placed_ofSource _) scanned
      (later ▸ List.suffix_rfl)
  have ahead : mid.rest = b :: (taken ++ s₂) := by
    rw [← placed.texts_topLevel, scanned, later]
  have ahead' : mid'.rest = b :: (taken ++ (Comment.enclose body ++ s₂)) := by
    obtain ⟨kept, kept_eq, kept_eq'⟩ := same.ahead
    obtain rfl : kept = [] := List.append_left_eq_self.mp (kept_eq.symm.trans ahead)
    exact kept_eq'
  obtain ⟨past, found, scanned⟩ := whole?_of_topLevel scanned
  have takes : Lexeme.afterEscape b (taken ++ s₂) = s₂ := by
    obtain ⟨b', taken', text_eq', -, takes⟩ := newLine_ahead found isBreak
    obtain ⟨rfl, rfl⟩ := List.cons.inj (text_eq.symm.trans text_eq')
    obtain ⟨-, split, -, -⟩ := whole?_spec placed found
    have past_eq : past.rest = s₂ := by
      rw [text_eq, ahead, List.cons_append] at split
      exact List.append_cancel_left (List.tail_eq_of_cons_eq split)
    rwa [past_eq] at takes
  obtain ⟨found', resumed, shifted⟩ := shifted_behind_comment lineBreak
    (congrArg Token.stop same.current_eq) same.regexAllowed_eq ahead ahead' takes bare
  obtain ⟨rfl, rfl⟩ := Prod.mk.inj (Option.some.inj (found.symm.trans found'))
  have moved := shifted.topLevel placed.next placed'.next.next
  rw [scanned', resumed, moved, scanned, ← cut]
  rfl

/-- The fragments of the segments of one class, in order. -/
def Segment.fragmentsOf (kind : Segment.Kind) (segments : List Segment) : List Text :=
  (segments.filter (·.kind = kind)).flatMap Segment.fragments

/-- What the tokens of one class add to its segments, in order. -/
def Token.fragmentsOf (kind : Segment.Kind) (tokens : List Token) : List Text :=
  (tokens.filter (·.segmentKind = kind)).flatMap Token.fragments

namespace Token

theorem fragmentsOf_append (kind : Segment.Kind) (ts us : List Token) :
    fragmentsOf kind (ts ++ us) = fragmentsOf kind ts ++ fragmentsOf kind us := by
  rw [fragmentsOf, List.filter_append, List.flatMap_append]
  rfl

theorem fragmentsOf_cons_of_ne {kind : Segment.Kind} {token : Token}
    (other : token.segmentKind ≠ kind) (ts : List Token) :
    fragmentsOf kind (token :: ts) = fragmentsOf kind ts := by
  rw [fragmentsOf, List.filter_cons_of_neg (by simpa using other)]
  rfl

theorem fragmentsOf_cons_of_eq {kind : Segment.Kind} {token : Token}
    (same : token.segmentKind = kind) (ts : List Token) :
    fragmentsOf kind (token :: ts) = token.fragments ++ fragmentsOf kind ts := by
  rw [fragmentsOf, List.filter_cons_of_pos (by simpa using same), List.flatMap_cons]
  rfl

/-- A token adds the same wherever it stands. -/
theorem fragmentsOf_map_shift (kind : Segment.Kind) (n : Nat) (ts : List Token) :
    fragmentsOf kind (ts.map (shift n)) = fragmentsOf kind ts := by
  rw [fragmentsOf, List.filter_map, List.flatMap_map]
  rfl

end Token

/-- What a comment that is put behind the line break `nl`, between `s₁` and `s₂`, leads to. -/
structure ProseInserted (s₁ body s₂ : Text) (before : List Token) (nl : Token)
    (after : List Token) : Prop where
  /-- The comment is one more token, and the tokens behind it are further on by its size. -/
  tokens : (Scanner.ofSource (s₁ ++ (Comment.enclose body ++ s₂))).topLevel =
    before ++ nl :: .ofComment s₁.size body :: after.map (Token.shift (Comment.enclose body).size)
  succeeds : ∀ policy, (∃ result, segments (s₁ ++ (Comment.enclose body ++ s₂)) policy = .ok result) ↔
    ∃ result, segments (s₁ ++ s₂) policy = .ok result
  code : ∀ policy found diagnostics found' diagnostics',
    segments (s₁ ++ s₂) policy = .ok (found, diagnostics) →
    segments (s₁ ++ (Comment.enclose body ++ s₂)) policy = .ok (found', diagnostics') →
      Segment.fragmentsOf .code found'.toList = Segment.fragmentsOf .code found.toList
  /-- The lines of the comment stand between those of the comments before and behind it. -/
  prose : ∀ policy found diagnostics found' diagnostics',
    segments (s₁ ++ s₂) policy = .ok (found, diagnostics) →
    segments (s₁ ++ (Comment.enclose body ++ s₂)) policy = .ok (found', diagnostics') →
      Segment.fragmentsOf .comment found.toList =
        Token.fragmentsOf .comment before ++ Token.fragmentsOf .comment after ∧
      Segment.fragmentsOf .comment found'.toList =
        Token.fragmentsOf .comment before ++
          (Comment.lines (Comment.enclose body) ++ Token.fragmentsOf .comment after)

theorem Segment.fragmentsOf_of_ok {source : Text} {policy : UnterminatedPolicy}
    {found : Array Segment} {diagnostics : Array Diagnostic} (kind : Segment.Kind)
    (ran : segments source policy = .ok (found, diagnostics)) :
    fragmentsOf kind found.toList = Token.fragmentsOf kind (Scanner.ofSource source).topLevel := by
  rw [segments_of_ok ran, segments_ofPieces_eq_batch]
  exact fragments_batch_of_kind _ kind

/-- Prose on a line of its own never changes the code. A comment that is put behind a line break at
top level adds its own lines to the prose of the source, and nothing else is different. -/
theorem comment_insertion_keeps_code {s₁ s₂ body : Text} {before after : List Token} {nl : Token}
    (scanned : (Scanner.ofSource (s₁ ++ s₂)).topLevel = before ++ nl :: after)
    (isBreak : nl.kind = .newLine) (cut : nl.stop = s₁.size) (bare : ¬ ['*', '/'] <:+: body) :
    ProseInserted s₁ body s₂ before nl after := by
  have scanned' := Scanner.topLevel_insert_comment scanned isBreak cut bare
  have inCode : nl.segmentKind = .code := Token.segmentKind_eq_code.mpr (by simp [isBreak])
  refine ⟨scanned', ?_, ?_, ?_⟩
  · intro policy
    rw [segments_ok_iff, segments_ok_iff, scanned, scanned']
    refine or_congr_left ?_
    simp only [List.forall_mem_append, List.forall_mem_cons, List.forall_mem_map]
    have comment : (Piece.ofTopLevel (.ofComment s₁.size body)).terminated = true := rfl
    simp only [comment, true_and]
    rfl
  · intro policy found diagnostics found' diagnostics' ran ran'
    have apart : (Token.ofComment s₁.size body).segmentKind ≠ .code := fun same => by cases same
    rw [Segment.fragmentsOf_of_ok _ ran, Segment.fragmentsOf_of_ok _ ran', scanned, scanned',
      Token.fragmentsOf_append, Token.fragmentsOf_append, Token.fragmentsOf_cons_of_eq inCode,
      Token.fragmentsOf_cons_of_eq inCode, Token.fragmentsOf_cons_of_ne apart,
      Token.fragmentsOf_map_shift]
  · intro policy found diagnostics found' diagnostics' ran ran'
    have apart : nl.segmentKind ≠ .comment := by simp [inCode]
    have inProse : (Token.ofComment s₁.size body).segmentKind = .comment := rfl
    rw [Segment.fragmentsOf_of_ok _ ran, Segment.fragmentsOf_of_ok _ ran', scanned, scanned',
      Token.fragmentsOf_append, Token.fragmentsOf_append, Token.fragmentsOf_cons_of_ne apart,
      Token.fragmentsOf_cons_of_ne apart, Token.fragmentsOf_cons_of_eq inProse,
      Token.fragmentsOf_map_shift]
    exact ⟨rfl, rfl⟩

/-- The slash behind the line break opens a regular expression with or without the comment, whatever
quotes and backticks are in it. -/
theorem comment_before_regex_inserted :
    ∃ before nl after,
      (Scanner.ofSource ("x=\r\n".toList ++ "/a'/g/*b*/".toList)).topLevel = before ++ nl :: after ∧
      nl.kind = .newLine ∧ nl.stop = Text.size "x=\r\n".toList ∧
      after.map (·.kind) = [.regexLiteral, .blockComment] ∧
      ProseInserted "x=\r\n".toList "\"`$\x7b*".toList "/a'/g/*b*/".toList before nl after := by
  have scanned : (Scanner.ofSource ("x=\r\n".toList ++ "/a'/g/*b*/".toList)).topLevel =
      [⟨.identifier, 0, ['x'], false⟩, ⟨.punctuation, 1, ['='], false⟩] ++
        ⟨.newLine, 2, ['\r', '\n'], false⟩ :: [⟨.regexLiteral, 4, "/a'/g".toList, false⟩,
          ⟨.blockComment, 9, "/*b*/".toList, false⟩] := by
    decide +kernel
  exact ⟨_, _, _, scanned, rfl, rfl, rfl,
    comment_insertion_keeps_code scanned rfl rfl (by decide)⟩

end Weave
