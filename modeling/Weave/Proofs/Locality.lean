import Weave.Proofs.Reading

/-!
A token that ends before a line break does not depend on what follows the break. The readers look
ahead for a closing delimiter, for the end of a regular expression or for a second character, but a
line break either stops them or is taken as part of the token. The main statement is `read_local`.
-/

namespace Weave

namespace Text

/-- A character that is not white space is another one than any white space. -/
theorem ne_of_isSpace {b : Char} (space : isSpace b = true) (d : Char)
    (ink : isSpace d = false := by decide) : b ≠ d := by
  rintro rfl
  rw [space] at ink
  cases ink

/-- White space stands on both sides of the printable characters of ASCII. -/
theorem isSpace_bounds {b : Char} (space : isSpace b = true) : b ≤ ' ' ∨ '\u0085' ≤ b := by
  simp only [isSpace, Bool.or_eq_true, Bool.and_eq_true, decide_eq_true_eq, beq_iff_eq] at space
  rcases space with (((((((((⟨-, low⟩ | rfl) | rfl) | rfl) | rfl) | ⟨high, -⟩) | rfl) | rfl) | rfl) |
    rfl) | rfl
  · exact .inl (Char.le_trans low (by decide))
  · exact .inl (by decide)
  · exact .inr (by decide)
  · exact .inr (by decide)
  · exact .inr (by decide)
  · exact .inr (Char.le_trans (show '\u0085' ≤ '\u2000' by decide) high)
  all_goals exact .inr (by decide)

theorem not_printable_of_isSpace {b : Char} (space : isSpace b = true) :
    ¬ ('!' ≤ b ∧ b ≤ '~') := by
  rintro ⟨least, most⟩
  rcases isSpace_bounds space with low | high
  · exact absurd (Char.le_trans least low) (by decide)
  · exact absurd (Char.le_trans high most) (by decide)

theorem isDigit_of_isSpace {b : Char} (space : isSpace b = true) : b.isDigit = false := by
  rw [← Bool.not_eq_true]
  intro digit
  change (decide (b.val ≥ '0'.val) && decide (b.val ≤ '9'.val)) = true at digit
  rw [Bool.and_eq_true, decide_eq_true_eq, decide_eq_true_eq] at digit
  refine not_printable_of_isSpace space ⟨?_, ?_⟩
  · exact Char.le_trans (show '!' ≤ '0' by decide) digit.1
  · exact Char.le_trans (show b ≤ '9' from digit.2) (by decide)

theorem isAlphanum_of_isSpace {b : Char} (space : isSpace b = true) : b.isAlphanum = false := by
  rw [Char.isAlphanum, isDigit_of_isSpace space, Bool.or_false, ← Bool.not_eq_true]
  intro letter
  obtain ⟨least, most⟩ := Lexeme.letter_bounds letter
  refine not_printable_of_isSpace space ⟨?_, ?_⟩
  · exact Char.le_trans (show '!' ≤ 'A' by decide) least
  · exact Char.le_trans most (by decide)

theorem inRanges_eq_any (ranges : Array (Nat × Nat)) (point : Nat) :
    inRanges ranges point = ranges.toList.any fun range => range.1 ≤ point && point ≤ range.2 :=
  (Array.any_toList ..).symm

theorem isIdentifierPart_of_isLineBreak {b : Char} (isBreak : isLineBreak b = true) :
    isIdentifierPart b = false := by
  -- The tables are searched as lists, which evaluate faster than arrays.
  unfold isIdentifierPart isIdentifierStart
  rw [inRanges_eq_any, inRanges_eq_any]
  rcases isLineBreak_cases isBreak with rfl | rfl | rfl | rfl <;> decide +kernel

theorem isInlineSpace_of_isLineBreak {b : Char} (isBreak : isLineBreak b = true) :
    isInlineSpace b = false := by
  rcases isLineBreak_cases isBreak with rfl | rfl | rfl | rfl <;> decide

end Text

namespace Lexeme

/-- The lexeme where `text` stands behind all that is left. -/
def followedBy (l : Lexeme) (text : Text) : Lexeme := { l with rest := l.rest ++ text }

/-- If the reading stops before the character `b` behind `front`, then what follows `b` makes no
difference to it. -/
def Local (b : Char) (reader : Text → Lexeme) (front : Text) : Prop :=
  ∀ tail tail' kept, (reader (front ++ b :: tail)).rest = kept ++ b :: tail →
    reader (front ++ b :: tail') =
      { reader (front ++ b :: tail) with rest := kept ++ b :: tail' }

section

variable {b : Char} {reader : Text → Lexeme} {front : Text}

/-- A reading that `front` decides. -/
theorem Local.of_followedBy {l : Lexeme}
    (decided : ∀ tail, reader (front ++ b :: tail) = l.followedBy (b :: tail)) :
    Local b reader front := by
  intro tail tail' kept stops
  rw [decided] at stops
  rw [decided, decided, ← List.append_cancel_right stops]
  rfl

/-- A reading that takes `b`. -/
theorem Local.of_suffix (passes : ∀ tail, (reader (front ++ b :: tail)).rest <:+ tail) :
    Local b reader front := by
  intro tail tail' kept stops
  have short := (passes tail).length_le
  rw [stops, List.length_append, List.length_cons] at short
  omega

theorem Local.congr {reader' : Text → Lexeme} {front' : Text}
    (same : ∀ tail, reader (front ++ b :: tail) = reader' (front' ++ b :: tail))
    (isLocal : Local b reader' front') : Local b reader front := by
  intro tail tail' kept stops
  rw [same] at stops
  rw [same, same]
  exact isLocal tail tail' kept stops

/-- A reader that decides between two others by what stands up to `b`. -/
theorem Local.ite {p : Text → Prop} [DecidablePred p] {reader' : Text → Lexeme}
    (same : ∀ tail tail', p (front ++ b :: tail) → p (front ++ b :: tail'))
    (yes : (∃ tail, p (front ++ b :: tail)) → Local b reader front)
    (no : (∃ tail, ¬ p (front ++ b :: tail)) → Local b reader' front) :
    Local b (fun text => if p text then reader text else reader' text) front := by
  intro tail tail' kept stops
  by_cases chosen : p (front ++ b :: tail)
  · simp only [chosen, same tail tail' chosen, ↓reduceIte] at stops ⊢
    exact yes ⟨tail, chosen⟩ tail tail' kept stops
  · have chosen' : ¬ p (front ++ b :: tail') := fun other => chosen (same tail' tail other)
    simp only [chosen, chosen', ↓reduceIte] at stops ⊢
    exact no ⟨tail, chosen⟩ tail tail' kept stops

end

/-! ### Readers that stop at white space or at a line break -/

theorem dropWhile_append_stop {p : Char → Bool} {b : Char} (stops : p b = false)
    (front tail : Text) :
    (front ++ b :: tail).dropWhile p = front.dropWhile p ++ b :: tail := by
  rw [List.dropWhile_append]
  split
  · next all => simp [List.isEmpty_iff.mp all, stops]
  · rfl

section

variable {b : Char} (space : Text.isSpace b = true)
include space

theorem afterNumber_append (radix : Bool) (before : Char) (dotted : Bool) (front tail : Text) :
    afterNumber radix before dotted (front ++ b :: tail) =
      afterNumber radix before dotted front ++ b :: tail := by
  induction front generalizing before dotted with
  | nil =>
    have notPart : b.isAlphanum = false := Text.isAlphanum_of_isSpace space
    simp [afterNumber, notPart, Text.ne_of_isSpace space '.', Text.ne_of_isSpace space '_',
      Text.ne_of_isSpace space '+', Text.ne_of_isSpace space '-']
  | cons c front ih =>
    simp only [List.cons_append, afterNumber, ih]
    split
    · split <;> rfl
    · split <;> rfl

theorem hasRadixMark_append (c : Char) (front tail : Text) :
    hasRadixMark (c :: (front ++ b :: tail)) = hasRadixMark (c :: front) := by
  by_cases zero : c = '0'
  · subst zero
    cases front with
    | nil =>
      have notMark : b ∉ ['x', 'X', 'b', 'B', 'o', 'O'] := by
        intro listed
        have ink : ∀ d ∈ ['x', 'X', 'b', 'B', 'o', 'O'], Text.isSpace d = false := by
          simp [Text.isSpace]
        exact Text.ne_of_isSpace space b (ink b listed) rfl
      simpa [hasRadixMark] using notMark
    | cons d front => rfl
  · simp [hasRadixMark, zero]

omit space in
theorem isPrefixOf_append_stop {mark : Text} (without : b ∉ mark) (front tail : Text) :
    mark.isPrefixOf (front ++ b :: tail) = mark.isPrefixOf front := by
  induction mark generalizing front with
  | nil => simp
  | cons m mark ih =>
    rw [List.mem_cons, not_or] at without
    cases front with
    | nil =>
      have other : (m == b) = false := beq_eq_false_iff_ne.mpr (Ne.symm without.1)
      rw [List.nil_append, List.isPrefixOf_cons_cons, other]
      rfl
    | cons c front => simp only [List.cons_append, List.isPrefixOf_cons_cons, ih without.2]

/-- White space is part of no punctuator, and is no digit. -/
theorem opensWith_append (front tail : Text) {mark : Text} (listed : mark ∈ punctuators) :
    opensWith (front ++ b :: tail) mark = opensWith front mark := by
  have without : b ∉ mark := fun member =>
    Text.ne_of_isSpace space b (punctuators_inked mark listed b member) rfl
  have notDigit : b.isDigit = false := Text.isDigit_of_isSpace space
  refine opensWith_congr (isPrefixOf_append_stop without front tail) ?_
  rintro ⟨behind, rfl⟩
  cases behind <;> simp [notDigit]

theorem afterPunctuator_append {front : Text} (inhabited : front ≠ []) (tail : Text) :
    afterPunctuator (front ++ b :: tail) = afterPunctuator front ++ b :: tail := by
  obtain ⟨taken, rest, rfl, -, left, left'⟩ :=
    afterPunctuator_congr inhabited fun _ => opensWith_append space front tail
  rw [left', left, List.append_assoc, List.drop_left]

end

section

variable {b : Char} (isBreak : Text.isLineBreak b = true)
include isBreak

theorem afterRegexClose_append (bracketed : Bool) (front tail : Text) :
    afterRegexClose bracketed (front ++ b :: tail) =
      (afterRegexClose bracketed front).map (· ++ b :: tail) := by
  have bare : b ≠ '\\' := by
    rcases Text.isLineBreak_cases isBreak with rfl | rfl | rfl | rfl <;> decide
  fun_induction afterRegexClose bracketed front with
  | case1 bracketed => rw [List.nil_append, afterRegexClose_cons bare, if_pos isBreak, Option.map_none]
  | case2 bracketed c rest lineBreak => simp [afterRegexClose, lineBreak]
  | case3 bracketed c rest inLine ih => simpa [afterRegexClose, inLine] using ih
  | case4 bracketed c rest _ lineBreak =>
    have notEscape : c ≠ '\\' := by
      rintro rfl
      simp [Text.isLineBreak] at lineBreak
    rw [List.cons_append, afterRegexClose_cons notEscape, if_pos lineBreak, Option.map_none]
  | case5 bracketed rest _ inLine ih =>
    rw [List.cons_append, afterRegexClose_cons (by decide), if_neg inLine, if_pos rfl, ih]
  | case6 bracketed rest _ inLine other ih =>
    rw [List.cons_append, afterRegexClose_cons (by decide), if_neg inLine, if_neg other,
      if_pos rfl, ih]
  | case7 bracketed c rest _ inLine notOpen notClose closes =>
    have slash : c = '/' := by simp_all
    subst slash
    rw [List.cons_append, afterRegexClose_cons (by decide), if_neg inLine, if_neg notOpen,
      if_neg notClose, if_pos closes, Option.map_some]
  | case8 bracketed c rest alone inLine notOpen notClose goesOn ih =>
    by_cases escape : c = '\\'
    · -- A backslash at the end of `front` would escape the line break.
      subst escape
      obtain rfl : rest = [] := by
        cases rest with
        | nil => rfl
        | cons d rest => exact (alone d rest rfl rfl).elim
      simp [afterRegexClose, isBreak]
    · rw [List.cons_append, afterRegexClose_cons escape, if_neg inLine, if_neg notOpen,
        if_neg notClose, if_neg goesOn, ih]

/-- A slash that opens no comment is read up to the line break. -/
theorem slash_append (regexAllowed : Bool) (front tail : Text) :
    slash regexAllowed (front ++ b :: tail) =
      (slash regexAllowed front).followedBy (b :: tail) := by
  have flags := Text.isIdentifierPart_of_isLineBreak isBreak
  have mark := afterPunctuator_append (Text.isSpace_of_isLineBreak isBreak)
    (List.cons_ne_nil '/' front) tail
  unfold slash
  rw [afterRegexClose_append isBreak]
  cases regexAllowed with
  | false => simp [followedBy, ← mark]
  | true =>
    cases closed : afterRegexClose false front with
    | none => simp [followedBy, ← mark]
    | some rest => simp [followedBy, dropWhile_append_stop flags]

end

/-! ### Readers that may take a line break -/

/-- An escape leaves the character `b` behind `front` in place, or takes it. -/
theorem afterEscape_append (b c : Char) (front : Text) :
    (∀ tail, afterEscape c (front ++ b :: tail) = afterEscape c front ++ b :: tail) ∨
      ∀ tail, afterEscape c (front ++ b :: tail) = tail := by
  cases front with
  | nil =>
    by_cases pair : c = '\r' ∧ b = '\n'
    · exact .inr fun tail => by simp [afterEscape, pair]
    · left
      intro tail
      have alone : ¬ (c = '\r' ∧ (b :: tail).head? = some '\n') := by simpa using pair
      rw [List.nil_append, afterEscape, if_neg alone]
      simp [afterEscape]
  | cons d front =>
    left
    intro tail
    unfold afterEscape
    by_cases pair : c = '\r' ∧ d = '\n' <;> simp [pair]

section

variable {b : Char} (isBreak : Text.isLineBreak b = true)
include isBreak

/-- A string is read to its end or to the line break, unless a backslash takes the break along. -/
theorem string_local {quote : Char} (isQuote : Text.isLineBreak quote = false) :
    (front : Text) → Local b (string quote) front
  | [] => by
    have bare : b ≠ '\\' := by
      rcases Text.isLineBreak_cases isBreak with rfl | rfl | rfl | rfl <;> decide
    have notQuote : b ≠ quote := by
      rintro rfl
      simp [isQuote] at isBreak
    refine .of_followedBy (l := { kind := .stringLiteral, rest := [], unterminated := true }) ?_
    intro tail
    rw [List.nil_append, string_cons bare, if_neg notQuote, if_pos isBreak]
    rfl
  | c :: front => by
    by_cases escape : c = '\\'
    · subst escape
      cases front with
      | nil =>
        refine .of_suffix fun tail => ?_
        rw [List.cons_append, List.nil_append, string_escape]
        exact (string_suffix quote _).trans (afterEscape_suffix b tail)
      | cons d front =>
        have shorter := (afterEscape_suffix d front).length_le
        rcases afterEscape_append b d front with stays | taken
        · refine Local.congr (fun tail => ?_) (string_local isQuote (afterEscape d front))
          rw [List.cons_append, List.cons_append, string_escape, stays]
        · refine .of_suffix fun tail => ?_
          rw [List.cons_append, List.cons_append, string_escape, taken]
          exact string_suffix quote tail
    · by_cases closes : c = quote
      · refine .of_followedBy (l := { kind := .stringLiteral, rest := front }) fun tail => ?_
        rw [List.cons_append, string_cons escape, if_pos closes]
        rfl
      · by_cases lineBreak : Text.isLineBreak c = true
        · refine .of_followedBy
            (l := { kind := .stringLiteral, rest := c :: front, unterminated := true }) fun tail => ?_
          rw [List.cons_append, string_cons escape, if_neg closes, if_pos lineBreak]
          rfl
        · refine Local.congr (fun tail => ?_) (string_local isQuote front)
          rw [List.cons_append, string_cons escape, if_neg closes, if_neg lineBreak]
termination_by front => front.length

/-- Template text is read to its end, or takes the line break along. -/
theorem template_local (closed broken : Kind) :
    (front : Text) → Local b (template closed broken) front
  | [] => by
    refine .of_suffix fun tail => ?_
    have plain : b ≠ '\\' ∧ b ≠ '$' ∧ b ≠ '`' := by
      rcases Text.isLineBreak_cases isBreak with rfl | rfl | rfl | rfl <;> decide
    rw [List.nil_append, template_cons plain.1 (fun opening => plain.2.1 opening.1),
      if_neg plain.2.2]
    exact template_suffix closed broken tail
  | c :: front => by
    by_cases escape : c = '\\'
    · subst escape
      cases front with
      | nil =>
        refine .of_suffix fun tail => ?_
        rw [List.cons_append, List.nil_append, template_escape]
        exact (template_suffix closed broken _).trans (afterEscape_suffix b tail)
      | cons d front =>
        have shorter := (afterEscape_suffix d front).length_le
        rcases afterEscape_append b d front with stays | taken
        · refine Local.congr (fun tail => ?_) (template_local closed broken (afterEscape d front))
          rw [List.cons_append, List.cons_append, template_escape, stays]
        · refine .of_suffix fun tail => ?_
          rw [List.cons_append, List.cons_append, template_escape, taken]
          exact template_suffix closed broken tail
    · by_cases opening : c = '$' ∧ front.head? = some '{'
      · obtain ⟨rfl, brace⟩ := opening
        obtain ⟨front, rfl⟩ := List.head?_eq_some_iff.mp brace
        exact .of_followedBy (l := { kind := broken, rest := front }) fun tail => rfl
      · have notOpening (tail : Text) : ¬ (c = '$' ∧ (front ++ b :: tail).head? = some '{') := by
          have notBrace : b ≠ '{' := by
            rcases Text.isLineBreak_cases isBreak with rfl | rfl | rfl | rfl <;> decide
          cases front with
          | nil => simp [notBrace]
          | cons d front => simpa using opening
        by_cases closes : c = '`'
        · refine .of_followedBy (l := { kind := closed, rest := front }) fun tail => ?_
          rw [List.cons_append, template_cons escape (notOpening tail), if_pos closes]
          rfl
        · refine Local.congr (fun tail => ?_) (template_local closed broken front)
          rw [List.cons_append, template_cons escape (notOpening tail), if_neg closes]
termination_by front => front.length

/-- A closer within `front` is found whatever follows; where there is none, the line break is passed
over. -/
theorem afterCommentClose_append_break (front tail : Text) :
    afterCommentClose (front ++ b :: tail) =
      match afterCommentClose front with
      | some kept => some (kept ++ b :: tail)
      | none => afterCommentClose tail := by
  have plain : b ≠ '*' ∧ b ≠ '/' := by
    rcases Text.isLineBreak_cases isBreak with rfl | rfl | rfl | rfl <;> decide
  fun_induction afterCommentClose front with
  | case1 => exact afterCommentClose_cons fun closer => plain.1 closer.1
  | case2 front => rfl
  | case3 c front notCloser ih =>
    have unclosed : ¬ (c = '*' ∧ (front ++ b :: tail).head? = some '/') := by
      rintro ⟨rfl, slash⟩
      cases front with
      | nil => exact plain.2 (by simpa using slash)
      | cons d front =>
        obtain rfl : d = '/' := by simpa using slash
        exact notCloser front rfl rfl
    rw [List.cons_append, afterCommentClose_cons unclosed, ih]

theorem blockComment_local (front : Text) : Local b blockComment front := by
  cases closed : afterCommentClose front with
  | some kept =>
    refine .of_followedBy (l := { kind := .blockComment, rest := kept }) fun tail => ?_
    simp [blockComment, afterCommentClose_append_break isBreak, closed, followedBy]
  | none =>
    refine .of_suffix fun tail => ?_
    have passed : blockComment (front ++ b :: tail) = blockComment tail := by
      simp [blockComment, afterCommentClose_append_break isBreak, closed]
    rw [passed]
    exact blockComment_suffix tail

/-! ### Any token -/

omit isBreak in
theorem newLine_local (front : Text) :
    Local b (fun rest => { kind := .newLine, rest := if rest.head? = some '\n' then rest.tail else rest })
      front := by
  cases front with
  | nil =>
    by_cases feed : b = '\n'
    · refine .of_suffix fun tail => ?_
      simp [feed]
    · refine .of_followedBy (l := { kind := .newLine, rest := [] }) fun tail => ?_
      simp [feed, followedBy]
  | cons d front =>
    refine .of_followedBy (l := { kind := .newLine, rest := if d = '\n' then front else d :: front })
      fun tail => ?_
    by_cases feed : d = '\n' <;> simp [feed, followedBy]

omit isBreak in
theorem dropWhile_local (kind : Kind) {p : Char → Bool} (stops : p b = false) (front : Text) :
    Local b (fun rest => { kind, rest := rest.dropWhile p }) front :=
  .of_followedBy (l := { kind, rest := front.dropWhile p }) fun tail => by
    rw [dropWhile_append_stop stops]
    rfl

theorem slash_local (regexAllowed : Bool) (front : Text) :
    Local b (fun rest =>
      match rest with
      | '/' :: comment => { kind := .lineComment, rest := atLineBreak comment }
      | '*' :: comment => blockComment comment
      | _ => slash regexAllowed rest) front := by
  have stops : (!Text.isLineBreak b) = false := by simp [isBreak]
  have slashed (front : Text) : Local b (slash regexAllowed) front :=
    .of_followedBy (slash_append isBreak regexAllowed front)
  cases front with
  | nil =>
    have plain : b ≠ '/' ∧ b ≠ '*' := by
      rcases Text.isLineBreak_cases isBreak with rfl | rfl | rfl | rfl <;> decide
    refine Local.congr (fun tail => ?_) (slashed [])
    rw [List.nil_append]
    split <;> simp_all
  | cons d front =>
    by_cases line : d = '/'
    · subst line
      exact Local.congr (fun tail => rfl) (dropWhile_local .lineComment stops front)
    · by_cases block : d = '*'
      · subst block
        exact Local.congr (fun tail => rfl) (blockComment_local isBreak front)
      · refine Local.congr (fun tail => ?_) (slashed (d :: front))
        rw [List.cons_append]
        split <;> simp_all

/-- A token that ends before a line break does not depend on what follows the break. -/
theorem read_local (atStart regexAllowed : Bool) (c : Char) (front : Text) :
    Local b (read atStart regexAllowed c) front := by
  have head (tail : Text) : (front ++ b :: tail).head? = some (front.headD b) := by
    cases front <;> rfl
  have whole (kind : Kind) : Local b (fun rest => { kind, rest }) front :=
    .of_followedBy (l := { kind, rest := front }) fun tail => rfl
  have stops : (!Text.isLineBreak b) = false := by simp [isBreak]
  have space := Text.isSpace_of_isLineBreak isBreak
  change Local b (fun rest => read atStart regexAllowed c rest) front
  unfold read
  refine .ite (fun _ _ => id) (fun _ => newLine_local front) fun _ => ?_
  refine .ite (fun _ _ => id) (fun _ => whole .newLine) fun _ => ?_
  refine .ite (fun _ _ => by simp only [head, imp_self])
    (fun _ => dropWhile_local .shebang stops front) fun _ => ?_
  refine .ite (fun _ _ => id) (fun _ => slash_local isBreak regexAllowed front) fun _ => ?_
  refine .ite (fun _ _ => id) (fun _ => template_local isBreak _ _ front) fun _ => ?_
  refine .ite (fun _ _ => id) (fun quote => ?_) fun _ => ?_
  · have isQuote : Text.isLineBreak c = false := by
      obtain ⟨-, quote⟩ := quote
      rcases (by simpa using quote : c = '\'' ∨ c = '"') with rfl | rfl <;> decide
    exact string_local isBreak isQuote front
  refine .ite (fun _ _ => id) (fun _ => whole .openBrace) fun _ => ?_
  refine .ite (fun _ _ => id) (fun _ => whole .closeBrace) fun _ => ?_
  refine .ite (fun _ _ => by simp only [head, imp_self]) (fun _ => ?_) fun _ => ?_
  · refine .of_followedBy (l := { kind := .numericLiteral
                                  rest := afterNumber (hasRadixMark (c :: front)) c (c = '.') front })
      fun tail => ?_
    rw [hasRadixMark_append space, afterNumber_append space]
    rfl
  refine .ite (fun _ _ => id) (fun _ => dropWhile_local .identifier
    (Text.isIdentifierPart_of_isLineBreak isBreak) front) fun _ => ?_
  refine .ite (fun _ _ => id) (fun _ => dropWhile_local .whitespace
    (Text.isInlineSpace_of_isLineBreak isBreak) front) fun _ => ?_
  refine .ite (fun _ _ => id) (fun _ => ?_) fun _ => whole .unknown
  refine .of_followedBy (l := { kind := .punctuation, rest := afterPunctuator (c :: front) })
    fun tail => ?_
  rw [← List.cons_append, afterPunctuator_append space (List.cons_ne_nil c front)]
  rfl

end

end Lexeme

end Weave
