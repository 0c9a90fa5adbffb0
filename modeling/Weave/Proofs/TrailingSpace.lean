import Weave.Proofs.Resumption

/-!
White space at the end of a source. One more character of white space there is left as it is by
every token that ends before it, and goes with a last token that has no end of its own, such as an
open string or a comment on the last line. Neither changes the kind of a token or closes what was
open, so the tokens of the longer source hold one like each token of the shorter.
-/

namespace Weave

namespace Lexeme

/-- A character `b` at the end of the text is left as it is, or goes with a token that takes all of
the text. -/
def Overlooks (b : Char) (reader : Text → Lexeme) (text : Text) : Prop :=
  reader (text ++ [b]) = (reader text).followedBy [b] ∨
    (reader text).rest = [] ∧ reader (text ++ [b]) = reader text

section

variable {b : Char} {reader : Text → Lexeme} {text : Text}

theorem Overlooks.congr {reader' : Text → Lexeme} {text' : Text}
    (same : reader text = reader' text') (longer : reader (text ++ [b]) = reader' (text' ++ [b]))
    (overlooks : Overlooks b reader' text') : Overlooks b reader text := by
  unfold Overlooks
  rw [same, longer]
  exact overlooks

/-- A reader that decides between two others by what stands before `b`. -/
theorem Overlooks.ite {p : Text → Prop} [DecidablePred p] {reader' : Text → Lexeme}
    (same : p (text ++ [b]) ↔ p text) (yes : p text → Overlooks b reader text)
    (no : ¬ p text → Overlooks b reader' text) :
    Overlooks b (fun text => if p text then reader text else reader' text) text := by
  by_cases chosen : p text
  · refine .congr ?_ ?_ (yes chosen)
    · exact if_pos chosen
    · exact if_pos (same.mpr chosen)
  · refine .congr ?_ ?_ (no chosen)
    · exact if_neg chosen
    · exact if_neg fun longer => chosen (same.mp longer)

end

theorem dropWhile_overlooks (b : Char) (kind : Kind) (p : Char → Bool) (text : Text) :
    Overlooks b (fun rest => { kind, rest := rest.dropWhile p }) text := by
  unfold Overlooks followedBy
  simp only [List.dropWhile_append]
  cases left : text.dropWhile p with
  | nil => cases taken : p b <;> simp [taken]
  | cons c rest => simp

section

variable {b : Char} (space : Text.isSpace b = true)
include space

/-- What stands at the front is told apart from white space. -/
theorem head?_concat (text : Text) (d : Char) (ink : Text.isSpace d = false := by decide) :
    (text ++ [b]).head? = some d ↔ text.head? = some d := by
  cases text with
  | nil => simp [Text.ne_of_isSpace space d ink]
  | cons c text => rfl

omit space in
theorem afterEscape_nil (d : Char) : afterEscape d [] = [] :=
  List.suffix_nil.mp (afterEscape_suffix d [])

omit space in
/-- An escape leaves the last character in place, or takes all. -/
theorem afterEscape_concat (d : Char) (text : Text) :
    afterEscape d (text ++ [b]) = afterEscape d text ++ [b] ∨
      afterEscape d text = [] ∧ afterEscape d (text ++ [b]) = [] := by
  unfold afterEscape
  cases text with
  | nil => by_cases pair : d = '\r' ∧ b = '\n' <;> simp [pair]
  | cons c text => by_cases pair : d = '\r' ∧ c = '\n' <;> simp [pair]

/-- An open string stays open. -/
theorem string_overlooks {quote : Char} (isQuote : quote = '\'' ∨ quote = '"') :
    (text : Text) → Overlooks b (string quote) text
  | [] => by
    have bare := Text.ne_of_isSpace space '\\'
    have notQuote : b ≠ quote := by
      rcases isQuote with rfl | rfl
      · exact Text.ne_of_isSpace space '\''
      · exact Text.ne_of_isSpace space '"'
    unfold Overlooks
    rw [List.nil_append, string_cons bare, if_neg notQuote]
    cases Text.isLineBreak b with
    | true => exact .inl rfl
    | false => exact .inr ⟨rfl, rfl⟩
  | c :: text => by
    by_cases escape : c = '\\'
    · subst escape
      cases text with
      | nil =>
        right
        have alone : string quote ['\\'] = string quote [] := by
          rcases isQuote with rfl | rfl <;> rfl
        rw [alone, List.cons_append, List.nil_append, string_escape, afterEscape_nil]
        exact ⟨rfl, rfl⟩
      | cons d text =>
        have shorter := (afterEscape_suffix d text).length_le
        rcases afterEscape_concat (b := b) d text with stays | ⟨none, taken⟩
        · refine .congr ?_ ?_ (string_overlooks isQuote (afterEscape d text))
          · exact string_escape quote d text
          · rw [List.cons_append, List.cons_append, string_escape, stays]
        · right
          rw [List.cons_append, List.cons_append, string_escape, string_escape, none, taken]
          exact ⟨rfl, rfl⟩
    · by_cases closes : c = quote
      · left
        rw [List.cons_append, string_cons escape, string_cons escape, if_pos closes, if_pos closes]
        rfl
      · by_cases lineBreak : Text.isLineBreak c = true
        · left
          rw [List.cons_append, string_cons escape, string_cons escape, if_neg closes,
            if_neg closes, if_pos lineBreak, if_pos lineBreak]
          rfl
        · refine .congr ?_ ?_ (string_overlooks isQuote text)
          · rw [string_cons escape, if_neg closes, if_neg lineBreak]
          · rw [List.cons_append, string_cons escape, if_neg closes, if_neg lineBreak]
termination_by text => text.length

/-- An open template stays open. -/
theorem template_overlooks (closed broken : Kind) :
    (text : Text) → Overlooks b (template closed broken) text
  | [] => by
    have bare := Text.ne_of_isSpace space '\\'
    have notDollar := Text.ne_of_isSpace space '$'
    have notBacktick := Text.ne_of_isSpace space '`'
    right
    rw [List.nil_append, template_cons bare fun opening => notDollar opening.1, if_neg notBacktick]
    exact ⟨rfl, rfl⟩
  | c :: text => by
    by_cases escape : c = '\\'
    · subst escape
      cases text with
      | nil =>
        right
        have alone : template closed broken ['\\'] = template closed broken [] := rfl
        rw [alone, List.cons_append, List.nil_append, template_escape, afterEscape_nil]
        exact ⟨rfl, rfl⟩
      | cons d text =>
        have shorter := (afterEscape_suffix d text).length_le
        rcases afterEscape_concat (b := b) d text with stays | ⟨none, taken⟩
        · refine .congr ?_ ?_ (template_overlooks closed broken (afterEscape d text))
          · exact template_escape closed broken d text
          · rw [List.cons_append, List.cons_append, template_escape, stays]
        · right
          rw [List.cons_append, List.cons_append, template_escape, template_escape, none, taken]
          exact ⟨rfl, rfl⟩
    · by_cases opening : c = '$' ∧ text.head? = some '{'
      · obtain ⟨rfl, brace⟩ := opening
        obtain ⟨text, rfl⟩ := List.head?_eq_some_iff.mp brace
        exact .inl rfl
      · have opening' : ¬ (c = '$' ∧ (text ++ [b]).head? = some '{') := by
          rwa [head?_concat space text '{']
        by_cases closes : c = '`'
        · left
          rw [List.cons_append, template_cons escape opening, template_cons escape opening',
            if_pos closes, if_pos closes]
          rfl
        · refine .congr ?_ ?_ (template_overlooks closed broken text)
          · rw [template_cons escape opening, if_neg closes]
          · rw [List.cons_append, template_cons escape opening', if_neg closes]
termination_by text => text.length

/-- An open comment stays open. -/
theorem afterCommentClose_concat (text : Text) :
    afterCommentClose (text ++ [b]) = (afterCommentClose text).map (· ++ [b]) := by
  fun_induction afterCommentClose text with
  | case1 =>
    have notStar := Text.ne_of_isSpace space '*'
    exact afterCommentClose_cons fun closer => notStar closer.1
  | case2 text => rfl
  | case3 c text notCloser ih =>
    have unclosed : ¬ (c = '*' ∧ (text ++ [b]).head? = some '/') := by
      rw [head?_concat space text '/']
      rintro ⟨rfl, slash⟩
      obtain ⟨text, rfl⟩ := List.head?_eq_some_iff.mp slash
      exact notCloser text rfl rfl
    rw [List.cons_append, afterCommentClose_cons unclosed, ih]

theorem blockComment_overlooks (text : Text) : Overlooks b blockComment text := by
  unfold Overlooks blockComment
  rw [afterCommentClose_concat space]
  cases afterCommentClose text with
  | none => exact .inr ⟨rfl, rfl⟩
  | some rest => exact .inl rfl

/-- White space closes no regular expression. -/
theorem afterRegexClose_concat (bracketed : Bool) (text : Text) :
    afterRegexClose bracketed (text ++ [b]) = (afterRegexClose bracketed text).map (· ++ [b]) := by
  fun_induction afterRegexClose bracketed text with
  | case1 bracketed =>
    have other (d : Char) (ink : Text.isSpace d = false := by decide) : b ≠ d :=
      Text.ne_of_isSpace space d ink
    have plain : (decide (b = '/') && !bracketed) = false := by simp [other '/']
    rw [List.nil_append, afterRegexClose_cons (other '\\'), if_neg (other '['),
      if_neg (other ']'), plain]
    cases Text.isLineBreak b <;> rfl
  | case2 bracketed c rest lineBreak => simp [afterRegexClose, lineBreak]
  | case3 bracketed c rest inLine ih => simpa [afterRegexClose, inLine] using ih
  | case4 bracketed c rest _ lineBreak =>
    have notEscape : c ≠ '\\' := by
      rintro rfl
      simp [Text.isLineBreak] at lineBreak
    rw [List.cons_append, afterRegexClose_cons notEscape, if_pos lineBreak, Option.map_none]
  | case5 bracketed rest _ inLine ih =>
    rw [List.cons_append, afterRegexClose_cons (by decide), if_neg inLine, if_pos rfl, ih]
  | case6 bracketed rest _ inLine other ih =>
    rw [List.cons_append, afterRegexClose_cons (by decide), if_neg inLine, if_neg other,
      if_pos rfl, ih]
  | case7 bracketed c rest _ inLine notOpen notClose closes =>
    have slash : c = '/' := by simp_all
    subst slash
    rw [List.cons_append, afterRegexClose_cons (by decide), if_neg inLine, if_neg notOpen,
      if_neg notClose, if_pos closes, Option.map_some]
  | case8 bracketed c rest alone inLine notOpen notClose goesOn ih =>
    by_cases escape : c = '\\'
    · -- A backslash at the end takes the white space along.
      subst escape
      obtain rfl : rest = [] := by
        cases rest with
        | nil => rfl
        | cons d rest => exact (alone d rest rfl rfl).elim
      simp [afterRegexClose]
    · rw [List.cons_append, afterRegexClose_cons escape, if_neg inLine, if_neg notOpen,
        if_neg notClose, if_neg goesOn, ih]

theorem slash_overlooks (regexAllowed : Bool) (text : Text) :
    Overlooks b (slash regexAllowed) text := by
  have mark : afterPunctuator ('/' :: (text ++ [b])) = afterPunctuator ('/' :: text) ++ [b] :=
    afterPunctuator_append space (List.cons_ne_nil '/' text) []
  unfold Overlooks slash
  rw [afterRegexClose_concat space, mark]
  cases regexAllowed with
  | false => exact .inl rfl
  | true =>
    cases afterRegexClose false text with
    | none => exact .inl rfl
    | some flags => exact dropWhile_overlooks b .regexLiteral Text.isIdentifierPart flags

/-- A slash, whatever it opens. -/
theorem slashed_overlooks (regexAllowed : Bool) (text : Text) :
    Overlooks b (fun rest =>
      match rest with
      | '/' :: comment => { kind := .lineComment, rest := atLineBreak comment }
      | '*' :: comment => blockComment comment
      | _ => slash regexAllowed rest) text := by
  cases text with
  | nil =>
    have notSlash := Text.ne_of_isSpace space '/'
    have notStar := Text.ne_of_isSpace space '*'
    refine .congr rfl ?_ (slash_overlooks space regexAllowed [])
    rw [List.nil_append]
    split <;> simp_all
  | cons d text =>
    by_cases line : d = '/'
    · subst line
      exact .congr rfl rfl (dropWhile_overlooks b .lineComment (!Text.isLineBreak ·) text)
    · by_cases block : d = '*'
      · subst block
        exact .congr rfl rfl (blockComment_overlooks space text)
      · refine .congr ?_ ?_ (slash_overlooks space regexAllowed (d :: text))
        · split <;> simp_all
        · rw [List.cons_append]
          split <;> simp_all

omit space in
theorem newLine_overlooks (b : Char) (text : Text) :
    Overlooks b
      (fun rest => { kind := .newLine, rest := if rest.head? = some '\n' then rest.tail else rest })
      text := by
  unfold Overlooks followedBy
  cases text with
  | nil => by_cases feed : b = '\n' <;> simp [feed]
  | cons d text => by_cases feed : d = '\n' <;> simp [feed]

/-- White space at the end of the text is left as it is, or goes with a token that takes all of the
text before it. -/
theorem read_overlooks (atStart regexAllowed : Bool) (c : Char) (text : Text) :
    Overlooks b (read atStart regexAllowed c) text := by
  have whole (kind : Kind) : Overlooks b (fun rest => { kind, rest }) text := .inl rfl
  have mark := head?_concat space text '!'
  have digit : (text ++ [b]).head?.any Char.isDigit = text.head?.any Char.isDigit := by
    cases text with
    | nil => simp [Text.isDigit_of_isSpace space]
    | cons d text => rfl
  change Overlooks b (fun rest => read atStart regexAllowed c rest) text
  unfold read
  refine .ite .rfl (fun _ => newLine_overlooks b text) fun _ => ?_
  refine .ite .rfl (fun _ => whole .newLine) fun _ => ?_
  refine .ite (by simp only [Bool.and_eq_true, decide_eq_true_eq, mark])
    (fun _ => dropWhile_overlooks b .shebang (!Text.isLineBreak ·) text) fun _ => ?_
  refine .ite .rfl (fun _ => slashed_overlooks space regexAllowed text) fun _ => ?_
  refine .ite .rfl (fun _ => template_overlooks space _ _ text) fun _ => ?_
  refine .ite .rfl (fun quote => string_overlooks space (by simpa using quote) text) fun _ => ?_
  refine .ite .rfl (fun _ => whole .openBrace) fun _ => ?_
  refine .ite .rfl (fun _ => whole .closeBrace) fun _ => ?_
  refine .ite (by rw [digit]) (fun _ => ?_) fun _ => ?_
  · left
    dsimp only
    rw [hasRadixMark_append space, afterNumber_append space]
    rfl
  refine .ite .rfl (fun _ => dropWhile_overlooks b .identifier Text.isIdentifierPart text)
    fun _ => ?_
  refine .ite .rfl (fun _ => dropWhile_overlooks b .whitespace Text.isInlineSpace text) fun _ => ?_
  refine .ite .rfl (fun _ => ?_) fun _ => whole .unknown
  left
  dsimp only
  rw [← List.cons_append, afterPunctuator_append space (List.cons_ne_nil c text)]
  rfl

/-- White space opens no template, brace or comment. -/
theorem read_kind_of_isSpace (atStart regexAllowed : Bool) (text : Text) :
    (read atStart regexAllowed b text).kind = .newLine ∨
      (read atStart regexAllowed b text).kind = .identifier ∨
      (read atStart regexAllowed b text).kind = .whitespace := by
  cases isBreak : Text.isLineBreak b with
  | true =>
    left
    rw [read_lineBreak _ _ _ isBreak]
  | false =>
    right
    have other (d : Char) (ink : Text.isSpace d = false := by decide) : b ≠ d :=
      Text.ne_of_isSpace space d ink
    have notReturn : b ≠ '\r' := by
      rintro rfl
      cases isBreak
    have inline : Text.isInlineSpace b = true := by simp [Text.isInlineSpace, space, isBreak]
    cases word : Text.isIdentifierStart b <;>
      simp [read, isBreak, notReturn, inline, word, Text.isDigit_of_isSpace space,
        other '#', other '/', other '`', other '\'', other '"', other '{', other '}', other '.']

end

end Lexeme

namespace Scanner

variable {b : Char} {s s' : Scanner}

/-- The second scanner has one more character `b` at the end of its text, or is past that when the
first has no more text either. -/
structure Lengthened (b : Char) (s s' : Scanner) : Prop where
  ahead : s'.rest = s.rest ++ [b] ∨ s.rest = [] ∧ s'.rest = []
  stop_eq : s.rest ≠ [] → s'.current.stop = s.current.stop
  regexAllowed_eq : s.rest ≠ [] → s'.regexAllowed = s.regexAllowed

/-- What is left of the two texts decides, since sizes tell how far the scanners have come. -/
theorem Lengthened.step {t t' : Scanner} (lengthened : Lengthened b s s')
    (left : t'.rest = t.rest ++ [b] ∨ t.rest = [] ∧ t'.rest = [])
    (regex : t.rest ≠ [] → t'.regexAllowed = t.regexAllowed) (tail : t.rest <:+ s.rest)
    (sizes : t.current.stop + t.rest.size = s.current.stop + s.rest.size)
    (sizes' : t'.current.stop + t'.rest.size = s'.current.stop + s'.rest.size) :
    Lengthened b t t' := by
  refine ⟨left, fun more => ?_, regex⟩
  have some : s.rest ≠ [] := fun none => more (List.suffix_nil.mp (none ▸ tail))
  have stop_eq := lengthened.stop_eq some
  have longer := left.resolve_right fun ended => more ended.1
  have longer' := lengthened.ahead.resolve_right fun ended => some ended.1
  rw [longer, longer', Text.size_append, Text.size_append] at sizes'
  omega

/-- Tokens taken by a reader that overlooks `b` are alike, and leave the same but for `b`. -/
theorem take_of_overlooks {reader : Text → Lexeme} {text : Text}
    (overlooks : Lexeme.Overlooks b reader text) (s s' : Scanner) (start start' : Nat)
    (ahead ahead' : Text) :
    ((s'.take start' ahead' (reader (text ++ [b]))).rest =
        (s.take start ahead (reader text)).rest ++ [b] ∨
      (s.take start ahead (reader text)).rest = [] ∧
        (s'.take start' ahead' (reader (text ++ [b]))).rest = []) ∧
    (s.take start ahead (reader text)).current.Alike
      (s'.take start' ahead' (reader (text ++ [b]))).current := by
  rcases overlooks with leaves | ⟨none, takes⟩
  · rw [leaves]
    exact ⟨.inl rfl, rfl, rfl⟩
  · rw [takes]
    exact ⟨.inr ⟨none, none⟩, rfl, rfl⟩

theorem lengthened_of_ended (ended : s.rest = []) (ended' : s'.rest = []) : Lengthened b s s' :=
  ⟨.inr ⟨ended, ended'⟩, fun more => absurd ended more, fun more => absurd ended more⟩

/-- An open template is not closed by one more character of white space. -/
theorem close_of_rest_eq_space (space : Text.isSpace b = true) (ahead : s.rest = [b]) (start : Nat)
    (counters : List Nat) (maxDepth stop : Nat) :
    Template.close start s counters maxDepth stop =
      ({ start, stop := s.next.current.stop, terminated := false, maxDepth }, s.next.next) := by
  have kind := Lexeme.read_kind_of_isSpace space (s.current.stop == 0) s.regexAllowed []
  have left : s.next.rest = [] := by
    rw [next_eq_take ahead]
    exact List.suffix_nil.mp (Lexeme.read_suffix _ _ b [])
  have kind_eq : s.next.current.kind =
      (Lexeme.read (s.current.stop == 0) s.regexAllowed b []).kind := by
    rw [next_eq_take ahead]
    rfl
  rw [← kind_eq] at kind
  have plain {k : Kind} (other : k ≠ .newLine ∧ k ≠ .identifier ∧ k ≠ .whitespace) :
      s.next.current.kind ≠ k := by
    rintro rfl
    rcases kind with same | same | same
    · exact other.1 same
    · exact other.2.1 same
    · exact other.2.2 same
  rw [close_of_plain (plain (by decide)) (plain (by decide)) (plain (by decide))
    (plain (by decide)), close_of_rest_eq_nil left]

/-- White space at the end makes no difference to what stands before it. -/
theorem inStep_lengthened (space : Text.isSpace b = true) :
    InStepToEnd (Lengthened b) fun _ => True where
  next := by
    intro s s' lengthened some _
    obtain ⟨c, rest, rest_eq⟩ := List.exists_cons_of_ne_nil some
    have rest_eq' : s'.rest = c :: (rest ++ [b]) := by
      rw [lengthened.ahead.resolve_right fun ended => some ended.1, rest_eq, List.cons_append]
    have stepped := next_eq_take rest_eq
    have stepped' := next_eq_take rest_eq'
    rw [lengthened.stop_eq some, lengthened.regexAllowed_eq some] at stepped'
    have overlooks := Lexeme.read_overlooks space (s.current.stop == 0) s.regexAllowed c rest
    obtain ⟨left, alike⟩ := take_of_overlooks overlooks s s' s.current.stop s.current.stop
      (c :: rest) (c :: (rest ++ [b]))
    rw [← stepped, ← stepped'] at left alike
    refine ⟨lengthened.step left (fun more => ?_) s.next_rest_suffix s.next_stop_add_rest
      s'.next_stop_add_rest, alike⟩
    -- Both tokens read the same, as the first leaves some text.
    have longer := left.resolve_right fun ended => more ended.1
    have text_eq : s'.next.current.text = s.next.current.text := by
      have spelled := s.next_text_append
      have spelled' := s'.next_text_append
      rw [longer, rest_eq', ← List.cons_append, ← rest_eq, ← spelled,
        ← List.append_assoc] at spelled'
      exact List.append_cancel_right (List.append_cancel_right spelled')
    rw [next_regexAllowed, next_regexAllowed, text_eq, alike.kind_eq,
      lengthened.regexAllowed_eq some]
  ended := by
    intro s s' lengthened none _ start start' counters maxDepth stop stop'
    have left : s.next.rest = [] := List.suffix_nil.mp (none ▸ s.next_rest_suffix)
    rcases lengthened.ahead with longer | ⟨-, ended⟩
    · rw [none, List.nil_append] at longer
      rw [close_of_rest_eq_space space longer]
      have left' : s'.next.next.rest = [] := by
        have passed : s'.next.rest = [] := by
          rw [next_eq_take longer]
          exact List.suffix_nil.mp (Lexeme.read_suffix _ _ b [])
        exact List.suffix_nil.mp (passed ▸ s'.next.next_rest_suffix)
      exact ⟨lengthened_of_ended left left', rfl, rfl⟩
    · rw [close_of_rest_eq_nil ended]
      exact ⟨lengthened_of_ended left (List.suffix_nil.mp (ended ▸ s'.next_rest_suffix)), rfl, rfl⟩
  rescan := by
    intro s s' lengthened closes closes' _
    have stepped := rescan_eq_take closes
    have stepped' := rescan_eq_take closes'
    have both : (s'.rescan.rest = s.rescan.rest ++ [b] ∨ s.rescan.rest = [] ∧ s'.rescan.rest = []) ∧
        s.rescan.current.Alike s'.rescan.current := by
      rw [stepped, stepped']
      rcases lengthened.ahead with longer | ⟨ended, ended'⟩
      · rw [longer]
        exact take_of_overlooks (Lexeme.template_overlooks space _ _ s.rest) _ _ _ _ _ _
      · rw [ended, ended']
        exact ⟨.inr ⟨rfl, rfl⟩, rfl, rfl⟩
    obtain ⟨left, alike⟩ := both
    refine ⟨lengthened.step left (fun _ => ?_) s.rescan_rest_suffix s.rescan_stop_add_rest
      s'.rescan_stop_add_rest, alike⟩
    rw [rescan_regexAllowed closes, rescan_regexAllowed closes', alike.kind_eq]
  before_next := fun _ => trivial
  before_rescan := fun _ => trivial

/-- The tokens of a text with white space behind it hold one like each token of the text. -/
theorem Lengthened.topLevel (space : Text.isSpace b = true) (lengthened : Lengthened b s s') :
    ∀ token ∈ s.topLevel, ∃ token' ∈ s'.topLevel, token.Alike token' := by
  fun_induction Scanner.topLevel s generalizing s' with
  | case1 s ended => simp
  | case2 s token after ahead ih =>
    obtain ⟨token', after', ahead', alike, later⟩ :=
      (inStep_lengthened space).whole? lengthened ahead trivial
    rw [topLevel_eq_cons ahead']
    intro other member
    rcases List.mem_cons.mp member with rfl | member
    · exact ⟨token', List.mem_cons_self, alike⟩
    · obtain ⟨other', member', like⟩ := ih later other member
      exact ⟨other', List.mem_cons_of_mem _ member', like⟩

end Scanner

theorem Token.Alike.trans {a b c : Token} (first : a.Alike b) (second : b.Alike c) : a.Alike c :=
  ⟨second.kind_eq.trans first.kind_eq, second.unterminated_eq.trans first.unterminated_eq⟩

/-- White space at the end of a source leaves a token like each of its tokens. -/
theorem topLevel_append_space {space : Text} (blank : ∀ c ∈ space, Text.isSpace c = true)
    (source : Text) :
    ∀ token ∈ (Scanner.ofSource source).topLevel,
      ∃ token' ∈ (Scanner.ofSource (source ++ space)).topLevel, token.Alike token' := by
  induction space generalizing source with
  | nil =>
    intro token member
    rw [List.append_nil]
    exact ⟨token, member, rfl, rfl⟩
  | cons b space ih =>
    intro token member
    have lengthened : Scanner.Lengthened b (Scanner.ofSource source)
        (Scanner.ofSource (source ++ [b])) := ⟨.inl rfl, fun _ => rfl, fun _ => rfl⟩
    obtain ⟨token₁, member₁, alike₁⟩ :=
      lengthened.topLevel (blank b List.mem_cons_self) token member
    obtain ⟨token₂, member₂, alike₂⟩ :=
      ih (fun c member => blank c (List.mem_cons_of_mem _ member)) (source ++ [b]) token₁ member₁
    rw [List.append_assoc] at member₂
    exact ⟨token₂, member₂, alike₁.trans alike₂⟩

end Weave
