import Weave.Proofs.Batches
import Weave.Proofs.Lockstep

/-!
The two conventions for ending a line. `crlf` writes a carriage return before each line feed, and
every reader of tokens goes over such a text as over the one without: a break that ends a token ends
it in both, and one that a token takes is taken whole. So the scanners of a text and of its `crlf`
stay in step, and have the same tokens but for the line endings in them.
-/

namespace Weave

namespace Text

/-- The text with a carriage return before each line feed. -/
def crlf (t : Text) : Text := t.flatMap fun c => if c = '\n' then ['\r', '\n'] else [c]

@[simp] theorem crlf_nil : crlf [] = [] := rfl

@[simp] theorem crlf_feed (t : Text) : crlf ('\n' :: t) = '\r' :: '\n' :: crlf t := rfl

theorem crlf_cons {c : Char} (other : c ≠ '\n') (t : Text) : crlf (c :: t) = c :: crlf t := by
  rw [crlf, List.flatMap_cons, if_neg other]
  rfl

@[simp] theorem crlf_append (s t : Text) : crlf (s ++ t) = crlf s ++ crlf t := List.flatMap_append

@[simp] theorem crlf_eq_nil {t : Text} : crlf t = [] ↔ t = [] := by
  cases t with
  | nil => simp
  | cons c t => by_cases feed : c = '\n' <;> simp [crlf, feed]

theorem crlf_flatten (ts : List Text) : crlf ts.flatten = (ts.map crlf).flatten :=
  flatMap_flatten _ ts

/-- Without line feeds there is nothing to change. -/
theorem crlf_of_not_mem {t : Text} (without : '\n' ∉ t) : crlf t = t := by
  induction t with
  | nil => rfl
  | cons c t ih =>
    rw [List.mem_cons, not_or] at without
    rw [crlf_cons (Ne.symm without.1), ih without.2]

theorem mem_crlf {t : Text} (feed : '\n' ∈ t) : '\r' ∈ crlf t :=
  List.mem_flatMap.mpr ⟨'\n', feed, by simp⟩

/-- A text without carriage returns is the `crlf` of itself alone. -/
theorem crlf_eq_iff {t u : Text} (without : '\r' ∉ u) (single : '\n' ∉ u) : crlf t = u ↔ t = u := by
  constructor
  · intro same
    by_cases feed : '\n' ∈ t
    · exact absurd (same ▸ mem_crlf feed) without
    · rw [← same, crlf_of_not_mem feed]
  · rintro rfl
    exact crlf_of_not_mem single

theorem head?_crlf {d : Char} (notFeed : d ≠ '\n') (notReturn : d ≠ '\r') (t : Text) :
    (crlf t).head? = some d ↔ t.head? = some d := by
  cases t with
  | nil => rfl
  | cons c t =>
    by_cases feed : c = '\n'
    · simp [feed, Ne.symm notFeed, Ne.symm notReturn]
    · rw [crlf_cons feed]
      rfl

theorem any_head?_crlf {p : Char → Bool} (notFeed : p '\n' = false) (notReturn : p '\r' = false)
    (t : Text) : (crlf t).head?.any p = t.head?.any p := by
  cases t with
  | nil => rfl
  | cons c t =>
    by_cases feed : c = '\n'
    · simp [feed, notFeed, notReturn]
    · rw [crlf_cons feed]
      rfl

theorem dropWhile_crlf {p : Char → Bool} (alike : p '\r' = p '\n') (t : Text) :
    (crlf t).dropWhile p = crlf (t.dropWhile p) := by
  induction t with
  | nil => rfl
  | cons c t ih =>
    by_cases feed : c = '\n'
    · subst feed
      rw [crlf_feed, List.dropWhile_cons, List.dropWhile_cons, List.dropWhile_cons, alike]
      split
      · exact ih
      · rfl
    · rw [crlf_cons feed, List.dropWhile_cons, List.dropWhile_cons]
      split
      · exact ih
      · rw [crlf_cons feed]

end Text

open Text (crlf crlf_cons crlf_feed)

namespace Lexeme

/-- The lexeme where what is left has a carriage return before each line feed. -/
def crlf (l : Lexeme) : Lexeme := { l with rest := l.rest.crlf }

/-! ### Readers -/

theorem afterEscape_of_ne {c : Char} (other : c ≠ '\r') (rest : Text) :
    afterEscape c rest = rest := by
  rw [afterEscape, if_neg]
  exact fun pair => other pair.1

theorem afterNumber_crlf (radix : Bool) (before : Char) (dotted : Bool) (t : Text) :
    afterNumber radix before dotted t.crlf = (afterNumber radix before dotted t).crlf := by
  induction t generalizing before dotted with
  | nil => rfl
  | cons c t ih =>
    by_cases feed : c = '\n'
    · subst feed
      simp [afterNumber]
    · rw [crlf_cons feed, afterNumber, afterNumber, ih, ih]
      split
      · split
        · rw [crlf_cons feed]
        · rfl
      · split
        · rfl
        · rw [crlf_cons feed]

theorem afterCommentClose_crlf (t : Text) :
    afterCommentClose t.crlf = (afterCommentClose t).map Text.crlf := by
  fun_induction afterCommentClose t with
  | case1 => rfl
  | case2 rest => rfl
  | case3 c rest notCloser ih =>
    by_cases feed : c = '\n'
    · subst feed
      rw [crlf_feed, afterCommentClose_cons (by simp), afterCommentClose_cons (by simp), ih]
    · have unclosed : ¬ (c = '*' ∧ (Text.crlf rest).head? = some '/') := by
        rw [Text.head?_crlf (by decide) (by decide)]
        rintro ⟨rfl, slash⟩
        obtain ⟨tail, rfl⟩ := List.head?_eq_some_iff.mp slash
        exact notCloser tail rfl rfl
      rw [crlf_cons feed, afterCommentClose_cons unclosed, ih]

theorem blockComment_crlf (t : Text) : blockComment t.crlf = (blockComment t).crlf := by
  unfold blockComment
  rw [afterCommentClose_crlf]
  cases afterCommentClose t <;> rfl

theorem afterRegexClose_crlf (bracketed : Bool) :
    (t : Text) → afterRegexClose bracketed t.crlf = (afterRegexClose bracketed t).map Text.crlf
  | [] => rfl
  | c :: t => by
    by_cases escape : c = '\\'
    · subst escape
      cases t with
      | nil => rfl
      | cons d t =>
        have later := afterRegexClose_crlf bracketed t
        by_cases feed : d = '\n'
        · subst feed
          rfl
        · rw [crlf_cons (by decide), crlf_cons feed, afterRegexClose, afterRegexClose, later]
          split <;> rfl
    · by_cases feed : c = '\n'
      · subst feed
        rfl
      · rw [crlf_cons feed, afterRegexClose_cons escape, afterRegexClose_cons escape,
          afterRegexClose_crlf true t, afterRegexClose_crlf false t, afterRegexClose_crlf bracketed t]
        split_ifs <;> rfl
termination_by t => t.length

/-- What stands before the first line break is not changed. -/
theorem isPrefixOf_crlf {mark : Text} (inLine : ∀ c ∈ mark, Text.isLineBreak c = false) (t : Text) :
    mark.isPrefixOf t.crlf = mark.isPrefixOf t := by
  induction mark generalizing t with
  | nil => simp
  | cons m mark ih =>
    have first := inLine m List.mem_cons_self
    have later := ih fun c member => inLine c (List.mem_cons_of_mem m member)
    cases t with
    | nil => rfl
    | cons c t =>
      by_cases feed : c = '\n'
      · subst feed
        have other : (m == '\n') = false ∧ (m == '\r') = false := by
          constructor <;> refine beq_eq_false_iff_ne.mpr ?_ <;> rintro rfl <;> cases first
        simp only [crlf_feed, List.isPrefixOf_cons_cons, other.1, other.2, Bool.false_and]
      · rw [crlf_cons feed, List.isPrefixOf_cons_cons, List.isPrefixOf_cons_cons, later]

theorem opensWith_crlf (t : Text) {mark : Text} (listed : mark ∈ punctuators) :
    opensWith t.crlf mark = opensWith t mark := by
  refine opensWith_congr (isPrefixOf_crlf (punctuators_inLine mark listed) t) ?_
  rintro ⟨behind, rfl⟩
  exact Text.any_head?_crlf (by decide) (by decide) behind

theorem afterPunctuator_crlf {c : Char} (inLine : c ≠ '\n') (t : Text) :
    afterPunctuator (c :: t.crlf) = (afterPunctuator (c :: t)).crlf := by
  obtain ⟨taken, rest, whole, mark, left, left'⟩ :=
    afterPunctuator_congr (List.cons_ne_nil c t) fun _ => opensWith_crlf (c :: t)
  have without : '\n' ∉ taken := by
    rcases mark with listed | ⟨d, rfl⟩
    · intro member
      cases punctuators_inLine taken listed '\n' member
    · obtain ⟨rfl, -⟩ := List.cons.inj whole
      simpa using Ne.symm inLine
  rw [← crlf_cons inLine, left', left, whole, Text.crlf_append, Text.crlf_of_not_mem without,
    List.drop_left]

theorem slash_crlf (regexAllowed : Bool) (t : Text) :
    slash regexAllowed t.crlf = (slash regexAllowed t).crlf := by
  have mark := afterPunctuator_crlf (show '/' ≠ '\n' by decide) t
  have flags : Text.isIdentifierPart '\r' = Text.isIdentifierPart '\n' := by decide +kernel
  unfold slash
  rw [afterRegexClose_crlf, mark]
  cases regexAllowed with
  | false => rfl
  | true =>
    cases afterRegexClose false t with
    | none => rfl
    | some rest => simp [crlf, Text.dropWhile_crlf flags]

/-- A string that a line break cuts short is cut short at either kind of break, and an escape takes
either kind along. -/
theorem string_crlf {quote : Char} (isQuote : Text.isLineBreak quote = false) :
    (t : Text) → '\r' ∉ t → string quote t.crlf = (string quote t).crlf
  | [], _ => rfl
  | c :: t, bare => by
    rw [List.mem_cons, not_or] at bare
    by_cases escape : c = '\\'
    · subst escape
      cases t with
      | nil =>
        have without : '\n' ∉ (string quote ['\\']).rest := fun member => by
          simpa using (string_suffix quote ['\\']).subset member
        rw [crlf, Text.crlf_of_not_mem without]
        rfl
      | cons d t =>
        rw [List.mem_cons, not_or] at bare
        have later := string_crlf isQuote t bare.2.2
        have kept := afterEscape_of_ne (Ne.symm bare.2.1) t
        by_cases feed : d = '\n'
        · subst feed
          rw [crlf_cons (by decide), crlf_feed, string_escape, string_escape, kept, ← later]
          rfl
        · have kept' := afterEscape_of_ne (Ne.symm bare.2.1) (Text.crlf t)
          rw [crlf_cons (by decide), crlf_cons feed, string_escape, string_escape, kept, kept', later]
    · have later := string_crlf isQuote t bare.2
      by_cases feed : c = '\n'
      · subst feed
        have notQuote : '\n' ≠ quote ∧ '\r' ≠ quote := by
          constructor <;> rintro rfl <;> cases isQuote
        rw [crlf_feed, string_cons (show '\r' ≠ '\\' by decide), if_neg notQuote.2, if_pos (by decide),
          string_cons (show '\n' ≠ '\\' by decide), if_neg notQuote.1, if_pos (by decide)]
        rfl
      · rw [crlf_cons feed, string_cons escape, string_cons escape, later]
        split_ifs
        · rfl
        · rw [← crlf_cons feed]
          rfl
        · rfl
termination_by t => t.length

theorem template_crlf (closed broken : Kind) :
    (t : Text) → '\r' ∉ t → template closed broken t.crlf = (template closed broken t).crlf
  | [], _ => rfl
  | c :: t, bare => by
    rw [List.mem_cons, not_or] at bare
    by_cases escape : c = '\\'
    · subst escape
      cases t with
      | nil => rfl
      | cons d t =>
        rw [List.mem_cons, not_or] at bare
        have later := template_crlf closed broken t bare.2.2
        have kept := afterEscape_of_ne (Ne.symm bare.2.1) t
        by_cases feed : d = '\n'
        · subst feed
          rw [crlf_cons (by decide), crlf_feed, template_escape, template_escape, kept, ← later]
          rfl
        · have kept' := afterEscape_of_ne (Ne.symm bare.2.1) (Text.crlf t)
          rw [crlf_cons (by decide), crlf_cons feed, template_escape, template_escape, kept, kept',
            later]
    · have later := template_crlf closed broken t bare.2
      by_cases feed : c = '\n'
      · subst feed
        rw [crlf_feed, template_cons (by decide) (by simp), template_cons (by decide) (by simp),
          template_cons (by decide) (by simp), later]
        rfl
      · by_cases opening : c = '$' ∧ t.head? = some '{'
        · obtain ⟨rfl, brace⟩ := opening
          obtain ⟨tail, rfl⟩ := List.head?_eq_some_iff.mp brace
          rfl
        · have opening' : ¬ (c = '$' ∧ (Text.crlf t).head? = some '{') := by
            rwa [Text.head?_crlf (by decide) (by decide)]
          rw [crlf_cons feed, template_cons escape opening, template_cons escape opening', later]
          split_ifs <;> rfl
termination_by t => t.length

/-! ### Any token -/

/-- The reader goes over `t` and over its `crlf` alike. -/
def Commutes (reader : Text → Lexeme) (t : Text) : Prop := reader t.crlf = (reader t).crlf

theorem Commutes.ite {t : Text} {p : Text → Prop} [DecidablePred p] {reader reader' : Text → Lexeme}
    (same : p t.crlf ↔ p t) (yes : p t → Commutes reader t) (no : ¬ p t → Commutes reader' t) :
    Commutes (fun t => if p t then reader t else reader' t) t := by
  dsimp only [Commutes]
  by_cases chosen : p t
  · rw [if_pos (same.mpr chosen), if_pos chosen]
    exact yes chosen
  · rw [if_neg (mt same.mp chosen), if_neg chosen]
    exact no chosen

theorem commutes_dropWhile (kind : Kind) {p : Char → Bool} (alike : p '\r' = p '\n') (t : Text) :
    Commutes (fun rest => { kind, rest := rest.dropWhile p }) t := by
  rw [Commutes, Text.dropWhile_crlf alike]
  rfl

theorem commutes_atLineBreak (kind : Kind) (t : Text) :
    Commutes (fun rest => { kind, rest := atLineBreak rest }) t :=
  commutes_dropWhile kind (p := fun c => !Text.isLineBreak c) (by decide) t

theorem commutes_slash (regexAllowed : Bool) (t : Text) :
    Commutes (fun rest =>
      match rest with
      | '/' :: comment => { kind := .lineComment, rest := atLineBreak comment }
      | '*' :: comment => blockComment comment
      | _ => slash regexAllowed rest) t := by
  cases t with
  | nil => exact slash_crlf regexAllowed []
  | cons c t =>
    by_cases line : c = '/'
    · subst line
      exact commutes_atLineBreak .lineComment t
    · by_cases block : c = '*'
      · subst block
        exact blockComment_crlf t
      · have plain := slash_crlf regexAllowed (c :: t)
        by_cases feed : c = '\n'
        · subst feed
          exact plain
        · rw [crlf_cons feed] at plain
          dsimp only [Commutes]
          rw [crlf_cons feed]
          split <;> simp_all

theorem hasRadixMark_crlf {c : Char} (inLine : c ≠ '\n') (t : Text) :
    hasRadixMark (c :: t.crlf) = hasRadixMark (c :: t) := by
  by_cases zero : c = '0'
  · subst zero
    cases t with
    | nil => rfl
    | cons d t =>
      by_cases feed : d = '\n'
      · subst feed
        rfl
      · rw [crlf_cons feed]
        rfl
  · simp [hasRadixMark, zero]

/-- A token that begins with neither a line feed nor a carriage return is read alike with either
convention. -/
theorem read_crlf (atStart regexAllowed : Bool) {c : Char} {t : Text} (notReturn : c ≠ '\r')
    (notFeed : c ≠ '\n') (bare : '\r' ∉ t) : Commutes (read atStart regexAllowed c) t := by
  have digit := Text.any_head?_crlf (p := Char.isDigit) (by decide) (by decide) t
  have mark := Text.head?_crlf (d := '!') (by decide) (by decide) t
  have whole (kind : Kind) : Commutes (fun rest => { kind, rest }) t := rfl
  change Commutes (fun rest => read atStart regexAllowed c rest) t
  unfold read
  refine .ite Iff.rfl (fun carriage => absurd carriage notReturn) fun _ => ?_
  refine .ite Iff.rfl (fun _ => whole .newLine) fun inLine => ?_
  refine .ite (by simp only [mark]) (fun _ => commutes_atLineBreak .shebang t) fun _ => ?_
  refine .ite Iff.rfl (fun _ => commutes_slash regexAllowed t) fun _ => ?_
  refine .ite Iff.rfl (fun _ => template_crlf _ _ t bare) fun _ => ?_
  refine .ite Iff.rfl (fun _ => string_crlf (by simpa using inLine) t bare) fun _ => ?_
  refine .ite Iff.rfl (fun _ => whole .openBrace) fun _ => ?_
  refine .ite Iff.rfl (fun _ => whole .closeBrace) fun _ => ?_
  refine .ite (by simp only [digit]) (fun _ => ?_) fun _ => ?_
  · rw [Commutes, hasRadixMark_crlf notFeed, afterNumber_crlf]
    rfl
  refine .ite Iff.rfl (fun _ => commutes_dropWhile .identifier (by decide +kernel) t) fun _ => ?_
  refine .ite Iff.rfl (fun _ => commutes_dropWhile .whitespace (by decide) t) fun _ => ?_
  refine .ite Iff.rfl (fun _ => ?_) fun _ => whole .unknown
  rw [Commutes, afterPunctuator_crlf notFeed]
  rfl

/-- The first token of a text is read off its `crlf` alike. -/
theorem read_crlf_cons (atStart regexAllowed : Bool) {c : Char} {t : Text} (bare : '\r' ∉ c :: t) :
    ∃ d more, Text.crlf (c :: t) = d :: more ∧
      read atStart regexAllowed d more = (read atStart regexAllowed c t).crlf := by
  rw [List.mem_cons, not_or] at bare
  by_cases feed : c = '\n'
  · subst feed
    refine ⟨'\r', '\n' :: Text.crlf t, rfl, ?_⟩
    rw [read_lineBreak _ _ _ (by decide), read_lineBreak _ _ _ (by decide),
      afterEscape_of_ne (by decide) t]
    rfl
  · exact ⟨c, Text.crlf t, crlf_cons feed t, read_crlf _ _ (Ne.symm bare.1) feed bare.2⟩

end Lexeme

/-- Tokens that are the same but for their place and the line endings in them. -/
structure Token.Rebroken (a b : Token) : Prop extends a.Alike b where
  text_eq : b.text = a.text.crlf
  bare : '\r' ∉ a.text

namespace Scanner

/-- Scanners in the same state but for the line endings of their sources. -/
structure Rebroken (s s' : Scanner) : Prop where
  text_eq : s'.current.text = s.current.text.crlf
  atStart : s'.current.start = 0 ↔ s.current.start = 0
  rest_eq : s'.rest = s.rest.crlf
  bare : '\r' ∉ s.rest
  regexAllowed_eq : s'.regexAllowed = s.regexAllowed

variable {s s' : Scanner}

theorem Rebroken.stop_eq_zero (rebroken : Rebroken s s') :
    s'.current.stop = 0 ↔ s.current.stop = 0 := by
  rw [Token.stop, Token.stop, Nat.add_eq_zero_iff, Nat.add_eq_zero_iff, rebroken.atStart,
    rebroken.text_eq, Text.size_eq_zero, Text.size_eq_zero, Text.crlf_eq_nil]

/-- Line endings are no part of the words and marks that a slash is judged by. -/
theorem allowsRegex_crlf (kind : Kind) (text : Text) (before : Bool) :
    allowsRegex kind text.crlf before = allowsRegex kind text before := by
  have same (marks : List Text) (inLine : ∀ mark ∈ marks, '\r' ∉ mark ∧ '\n' ∉ mark) :
      marks.contains text.crlf = marks.contains text := by
    rw [Bool.eq_iff_iff, List.contains_iff_mem, List.contains_iff_mem]
    constructor
    · intro listed
      have plain := inLine _ listed
      rwa [← (Text.crlf_eq_iff plain.1 plain.2).mp rfl] at listed
    · intro listed
      rwa [Text.crlf_of_not_mem (inLine _ listed).2]
  unfold allowsRegex
  rw [same _ (by decide), same _ (by decide)]

theorem Rebroken.take (rebroken : Rebroken s s') {start start' : Nat}
    (atStart : start' = 0 ↔ start = 0) {ahead : Text} {l : Lexeme} (tail : l.rest <:+ ahead)
    (bare : '\r' ∉ l.rest) :
    Rebroken (s.take start ahead l) (s'.take start' ahead.crlf l.crlf) := by
  have text_eq : ahead.crlf.upTo l.rest.crlf = (ahead.upTo l.rest).crlf := by
    obtain ⟨front, rfl⟩ := tail
    rw [Text.crlf_append, Text.upTo_append, Text.upTo_append]
  refine ⟨text_eq, atStart, rfl, bare, ?_⟩
  dsimp only [Scanner.take, Lexeme.crlf]
  rw [text_eq, allowsRegex_crlf, rebroken.regexAllowed_eq]

/-- Whatever is read, the line endings make no difference to its kind. -/
theorem inStep_rebroken : InStep Rebroken fun _ => True where
  next := by
    intro s s' rebroken _
    cases rest_eq : s.rest with
    | nil =>
      have rest_eq' : s'.rest = [] := by rw [rebroken.rest_eq, rest_eq, Text.crlf_nil]
      rw [next_of_rest_eq_nil rest_eq, next_of_rest_eq_nil rest_eq']
      exact ⟨⟨rfl, rebroken.stop_eq_zero, rebroken.rest_eq, rebroken.bare,
        rebroken.regexAllowed_eq⟩, rfl, rfl⟩
    | cons c rest =>
      have bare := rebroken.bare
      rw [rest_eq] at bare
      obtain ⟨d, more, whole, read_eq⟩ :=
        Lexeme.read_crlf_cons (s.current.stop == 0) s.regexAllowed bare
      have rest_eq' : s'.rest = d :: more := by rw [rebroken.rest_eq, rest_eq, whole]
      have atStart : (s'.current.stop == 0) = (s.current.stop == 0) := by
        rw [Bool.eq_iff_iff, beq_iff_eq, beq_iff_eq, rebroken.stop_eq_zero]
      have tail := (Lexeme.read_suffix (s.current.stop == 0) s.regexAllowed c rest).trans
        (List.suffix_cons c rest)
      have taken := rebroken.take rebroken.stop_eq_zero tail fun member => bare (tail.subset member)
      rw [next_eq_take rest_eq, next_eq_take rest_eq', atStart, rebroken.regexAllowed_eq, read_eq,
        ← whole]
      exact ⟨taken, rfl, rfl⟩
  rescan := by
    intro s s' rebroken closes closes' _
    have tail := Lexeme.template_suffix .templateEnd .templateContinuation s.rest
    have taken := rebroken.take rebroken.atStart (tail.trans (List.suffix_append s.current.text _))
      fun member => rebroken.bare (tail.subset member)
    rw [rescan_eq_take closes, rescan_eq_take closes', rebroken.rest_eq, rebroken.text_eq,
      ← Text.crlf_append, Lexeme.template_crlf _ _ _ rebroken.bare]
    exact ⟨taken, rfl, rfl⟩
  before_next := fun _ => trivial
  before_rescan := fun _ => trivial

theorem rebroken_ofSource {source : Text} (bare : '\r' ∉ source) :
    Rebroken (ofSource source) (ofSource source.crlf) :=
  ⟨rfl, Iff.rfl, rfl, bare, rfl⟩

theorem Rebroken.next (rebroken : Rebroken s s') :
    Rebroken s.next s'.next ∧ s.next.current.Rebroken s'.next.current := by
  obtain ⟨stepped, alike⟩ := inStep_rebroken.next rebroken trivial
  refine ⟨stepped, alike, stepped.text_eq, fun member => rebroken.bare ?_⟩
  rw [← s.next_text_append]
  exact List.mem_append_left _ member

/-- The same tokens one by one. -/
theorem Rebroken.tokens (rebroken : Rebroken s s') :
    List.Forall₂ Token.Rebroken s.tokens s'.tokens := by
  fun_induction Scanner.tokens s generalizing s' with
  | case1 s ended =>
    obtain ⟨stepped, token⟩ := rebroken.next
    rw [tokens.eq_def s', if_pos (token.kind_eq.trans ended)]
    exact .cons token .nil
  | case2 s more ih =>
    obtain ⟨stepped, token⟩ := rebroken.next
    rw [tokens.eq_def s', if_neg fun ended => more (token.kind_eq.symm.trans ended)]
    exact .cons token (ih stepped)

/-- The same tokens at top level. -/
theorem Rebroken.topLevel {front front' : Text} (rebroken : Rebroken s s') (placed : s.Placed front)
    (placed' : s'.Placed front') : List.Forall₂ Token.Rebroken s.topLevel s'.topLevel := by
  fun_induction Scanner.topLevel s generalizing s' front front' with
  | case1 s ended =>
    have ended' : s'.whole? = none := by
      rw [whole?_eq_none] at ended ⊢
      rw [rebroken.rest_eq, ended, Text.crlf_nil]
    rw [topLevel_eq_nil ended']
    exact .nil
  | case2 s token after ahead ih =>
    obtain ⟨token', after', ahead', alike, later⟩ := inStep_rebroken.whole? rebroken ahead trivial
    obtain ⟨-, split, -, behind, standing⟩ := whole?_spec placed ahead
    obtain ⟨-, split', -, behind', standing'⟩ := whole?_spec placed' ahead'
    rw [rebroken.rest_eq, later.rest_eq, ← split, Text.crlf_append] at split'
    have bare : '\r' ∉ token.text := fun member =>
      rebroken.bare (split ▸ List.mem_append_left _ member)
    rw [topLevel_eq_cons ahead']
    exact .cons ⟨alike, List.append_cancel_right split', bare⟩ (ih later standing standing')

end Scanner

end Weave
