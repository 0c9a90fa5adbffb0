import Mathlib.Data.List.Find
import Weave.Token.Progress

/-!
The kinds that the readers of tokens give. Behind a first character there is always a token that
is not the end of input, braces are tokens of their own, and template text that is not closed
runs to the end of the source.
-/

namespace Weave

namespace Text

theorem isLineBreak_cases {b : Char} (isBreak : isLineBreak b = true) :
    b = '\n' ∨ b = '\r' ∨ b = '\u2028' ∨ b = '\u2029' := by
  simpa [isLineBreak, or_assoc] using isBreak

theorem isSpace_of_isLineBreak {c : Char} (isBreak : isLineBreak c = true) : isSpace c = true := by
  rcases isLineBreak_cases isBreak with rfl | rfl | rfl | rfl <;> decide

end Text

namespace Lexeme

theorem string_kind (quote : Char) (text : Text) : (string quote text).kind = .stringLiteral := by
  fun_induction string quote text with
  | case1 | case4 | case5 => rfl
  | case2 _ ih | case3 _ _ _ ih | case6 _ _ _ _ _ _ ih => exact ih

theorem blockComment_kind (text : Text) : (blockComment text).kind = .blockComment := by
  unfold blockComment
  split <;> rfl

theorem slash_kind (regexAllowed : Bool) (text : Text) :
    (slash regexAllowed text).kind = .regexLiteral ∨
      (slash regexAllowed text).kind = .punctuation := by
  unfold slash
  split
  · exact Or.inl rfl
  · exact Or.inr rfl

theorem template_kind (closed broken : Kind) (text : Text) :
    (template closed broken text).kind = closed ∨ (template closed broken text).kind = broken := by
  fun_induction template closed broken text with
  | case1 | case5 => exact Or.inl rfl
  | case4 => exact Or.inr rfl
  | case2 _ ih | case3 _ _ _ ih | case6 _ _ _ _ _ _ ih => exact ih

/-- Template text without its closer runs to the end of the source, and never to a substitution. -/
theorem template_unterminated {closed broken : Kind} {text : Text}
    (unclosed : (template closed broken text).unterminated = true) :
    (template closed broken text).rest = [] ∧ (template closed broken text).kind = closed := by
  fun_induction template closed broken text with
  | case1 => exact ⟨rfl, rfl⟩
  | case4 | case5 => cases unclosed
  | case2 _ ih | case3 _ _ _ ih | case6 _ _ _ _ _ _ ih => exact ih unclosed

theorem read_kind_ne_endOfInput (atStart regexAllowed : Bool) (c : Char) (text : Text) :
    (read atStart regexAllowed c text).kind ≠ .endOfInput := by
  fun_cases read atStart regexAllowed c text with
  | case5 => simp [blockComment_kind]
  | case6 => rcases slash_kind regexAllowed text with regex | mark <;> simp [*]
  | case7 => rcases template_kind .plainTemplate .templateStart text with plain | start <;> simp [*]
  | case8 => simp [string_kind]
  | _ => simp

/-- A token that opens a template with substitutions begins with a backtick. -/
theorem eq_backtick_of_read_kind {atStart regexAllowed : Bool} {c : Char} {text : Text} :
    (read atStart regexAllowed c text).kind = .templateStart → c = '`' := by
  fun_cases read atStart regexAllowed c text with
  | case5 => simp [blockComment_kind]
  | case6 => rcases slash_kind regexAllowed text with regex | mark <;> simp [*]
  | case7 _ _ _ _ _ backtick => exact fun _ => backtick
  | case8 => simp [string_kind]
  | _ => simp

theorem isLineBreak_of_read_kind {atStart regexAllowed : Bool} {c : Char} {text : Text} :
    (read atStart regexAllowed c text).kind = .newLine → Text.isLineBreak c = true := by
  fun_cases read atStart regexAllowed c text with
  | case1 _ carriage => simp [Text.isLineBreak, carriage]
  | case2 _ _ isBreak => simp [isBreak]
  | case5 => simp [blockComment_kind]
  | case6 => rcases slash_kind regexAllowed text with regex | mark <;> simp [*]
  | case7 => rcases template_kind .plainTemplate .templateStart text with plain | start <;> simp [*]
  | case8 => simp [string_kind]
  | _ => simp

/-- No punctuator holds white space. -/
theorem punctuators_inked : ∀ mark ∈ punctuators, ∀ c ∈ mark, Text.isSpace c = false := by
  have checked : punctuators.all (·.all (!Text.isSpace ·)) = true := rfl
  intro mark listed c member
  simpa using List.all_eq_true.mp (List.all_eq_true.mp checked mark listed) c member

theorem punctuators_inLine : ∀ mark ∈ punctuators, ∀ c ∈ mark, Text.isLineBreak c = false := by
  intro mark listed c member
  cases isBreak : Text.isLineBreak c with
  | false => rfl
  | true => rw [← punctuators_inked mark listed c member, Text.isSpace_of_isLineBreak isBreak]

/-- Texts that begin with the same punctuator, and have a digit behind `?.` or not, open alike. -/
theorem opensWith_congr {text text' mark : Text}
    (same : mark.isPrefixOf text' = mark.isPrefixOf text)
    (digit : ['?', '.'] <+: text →
      (text'.drop 2).head?.any Char.isDigit = (text.drop 2).head?.any Char.isDigit) :
    opensWith text' mark = opensWith text mark := by
  unfold opensWith
  rw [same]
  by_cases opens : mark.isPrefixOf text = true
  · by_cases optional : mark = ['?', '.']
    · subst optional
      rw [digit (List.isPrefixOf_iff_prefix.mp opens)]
    · have other : (mark == ['?', '.']) = false := beq_eq_false_iff_ne.mpr optional
      rw [other]
      rfl
  · rw [Bool.not_eq_true] at opens
    rw [opens]
    rfl

/-- Texts that open with the same punctuators have as much taken off the front. -/
theorem afterPunctuator_congr {text text' : Text} (inhabited : text ≠ [])
    (same : ∀ mark ∈ punctuators, opensWith text' mark = opensWith text mark) :
    ∃ taken rest, text = taken ++ rest ∧ (taken ∈ punctuators ∨ ∃ c, taken = [c]) ∧
      afterPunctuator text = rest ∧ afterPunctuator text' = text'.drop taken.length := by
  have found : punctuators.find? (opensWith text') = punctuators.find? (opensWith text) :=
    List.find?_congr same
  unfold afterPunctuator
  rw [found]
  split
  · next mark listed =>
    have opens := List.find?_some listed
    rw [opensWith, Bool.and_eq_true, List.isPrefixOf_iff_prefix] at opens
    obtain ⟨rest, rfl⟩ := opens.1
    exact ⟨mark, rest, rfl, .inl (List.mem_of_find?_eq_some listed), List.drop_left, rfl⟩
  · obtain ⟨c, rest, rfl⟩ := List.exists_cons_of_ne_nil inhabited
    exact ⟨[c], rest, rfl, .inr ⟨c, rfl⟩, rfl, rfl⟩

/-! ### What stands at the front decides -/

theorem template_cons {closed broken : Kind} {c : Char} {rest : Text} (bare : c ≠ '\\')
    (notOpening : ¬ (c = '$' ∧ rest.head? = some '{')) :
    template closed broken (c :: rest) =
      if c = '`' then { kind := closed, rest } else template closed broken rest := by
  rw [template.eq_def]
  split <;> simp_all

theorem string_cons {quote c : Char} {rest : Text} (bare : c ≠ '\\') :
    string quote (c :: rest) =
      if c = quote then { kind := .stringLiteral, rest }
      else if Text.isLineBreak c then
        { kind := .stringLiteral, rest := c :: rest, unterminated := true }
      else string quote rest := by
  rw [string.eq_def]
  split <;> simp_all

theorem afterCommentClose_cons {c : Char} {rest : Text}
    (notCloser : ¬ (c = '*' ∧ rest.head? = some '/')) :
    afterCommentClose (c :: rest) = afterCommentClose rest := by
  rw [afterCommentClose.eq_def]
  split <;> simp_all

theorem afterRegexClose_cons {bracketed : Bool} {c : Char} {rest : Text} (bare : c ≠ '\\') :
    afterRegexClose bracketed (c :: rest) =
      if Text.isLineBreak c then none
      else if c = '[' then afterRegexClose true rest
      else if c = ']' then afterRegexClose false rest
      else if c = '/' && !bracketed then some rest
      else afterRegexClose bracketed rest := by
  rw [afterRegexClose.eq_def]
  split <;> simp_all

/-- What is left behind a backslash and the character `c`, which takes a line feed along if it is a
carriage return. -/
def afterEscape (c : Char) (rest : Text) : Text :=
  if c = '\r' ∧ rest.head? = some '\n' then rest.tail else rest

theorem afterEscape_suffix (c : Char) (rest : Text) : afterEscape c rest <:+ rest := by
  unfold afterEscape
  split
  · exact List.tail_suffix rest
  · exact List.suffix_rfl

theorem string_escape (quote c : Char) (rest : Text) :
    string quote ('\\' :: c :: rest) = string quote (afterEscape c rest) := by
  unfold afterEscape
  split
  · next pair =>
    obtain ⟨rfl, feed⟩ := pair
    obtain ⟨tail, rfl⟩ := List.head?_eq_some_iff.mp feed
    rw [string]
    rfl
  · next other =>
    rw [string]
    rintro tail rfl rfl
    exact other ⟨rfl, rfl⟩

theorem template_escape (closed broken : Kind) (c : Char) (rest : Text) :
    template closed broken ('\\' :: c :: rest) = template closed broken (afterEscape c rest) := by
  unfold afterEscape
  split
  · next pair =>
    obtain ⟨rfl, feed⟩ := pair
    obtain ⟨tail, rfl⟩ := List.head?_eq_some_iff.mp feed
    rw [template]
    rfl
  · next other =>
    rw [template]
    rintro tail rfl rfl
    exact other ⟨rfl, rfl⟩

/-- Template text that holds no closer, escape or opening is passed over, unless what follows
completes an opening. -/
theorem template_append {closed broken : Kind} {text rest : Text} (noBacktick : '`' ∉ text)
    (noBackslash : '\\' ∉ text) (noOpening : ¬ ['$', '{'] <:+: text)
    (noBrace : rest.head? ≠ some '{') :
    template closed broken (text ++ rest) = template closed broken rest := by
  induction text with
  | nil => rfl
  | cons c text ih =>
    rw [List.mem_cons, not_or] at noBacktick noBackslash
    -- A `$` opens a substitution with the character behind it, which may be the first of `rest`.
    have unopened : ¬ (c = '$' ∧ (text ++ rest).head? = some '{') := by
      rintro ⟨rfl, brace⟩
      cases text with
      | nil => exact noBrace brace
      | cons d text =>
        obtain rfl : d = '{' := by simpa using brace
        exact noOpening ⟨[], text, rfl⟩
    have later : ¬ ['$', '{'] <:+: text := fun inside =>
      noOpening (inside.trans (List.suffix_cons c text).isInfix)
    rw [List.cons_append, template_cons (Ne.symm noBackslash.1) unopened,
      if_neg (Ne.symm noBacktick.1)]
    exact ih noBacktick.2 noBackslash.2 later

/-- A string ends at the first quote behind a body without quotes, escapes and line breaks. -/
theorem string_append {quote : Char} {body rest : Text} (isQuote : quote ≠ '\\')
    (bare : ∀ c ∈ body, c ≠ quote ∧ c ≠ '\\' ∧ Text.isLineBreak c = false) :
    string quote (body ++ quote :: rest) = { kind := .stringLiteral, rest } := by
  induction body with
  | nil => rw [List.nil_append, string_cons isQuote, if_pos rfl]
  | cons c body ih =>
    obtain ⟨notQuote, notEscape, inLine⟩ := bare c List.mem_cons_self
    rw [List.cons_append, string_cons notEscape, if_neg notQuote, inLine]
    exact ih fun d member => bare d (List.mem_cons_of_mem c member)

/-- A comment ends at the first closer behind a body without closers. -/
theorem afterCommentClose_append {body rest : Text} (bare : ¬ ['*', '/'] <:+: body) :
    afterCommentClose (body ++ '*' :: '/' :: rest) = some rest := by
  induction body with
  | nil => rfl
  | cons c body ih =>
    have unclosed : ¬ (c = '*' ∧ (body ++ '*' :: '/' :: rest).head? = some '/') := by
      rintro ⟨rfl, slash⟩
      cases body with
      | nil => simp at slash
      | cons d body =>
        obtain rfl : d = '/' := by simpa using slash
        exact bare ⟨[], body, rfl⟩
    have later : ¬ ['*', '/'] <:+: body := fun inside =>
      bare (inside.trans (List.suffix_cons c body).isInfix)
    rw [List.cons_append, afterCommentClose_cons unclosed]
    exact ih later

theorem read_lineBreak (atStart regexAllowed : Bool) {b : Char} (rest : Text)
    (isBreak : Text.isLineBreak b = true) :
    read atStart regexAllowed b rest = { kind := .newLine, rest := afterEscape b rest } := by
  unfold read afterEscape
  by_cases carriage : b = '\r' <;> simp [carriage, isBreak]

/-- Only a shebang is read in another way at the start of a source. -/
theorem read_of_noShebang {atStart regexAllowed : Bool} {c : Char} {rest : Text}
    (plain : ¬ ['#', '!'] <+: c :: rest) :
    read atStart regexAllowed c rest = read false regexAllowed c rest := by
  have other : ¬ (c = '#' ∧ rest.head? = some '!') := by
    rintro ⟨rfl, mark⟩
    obtain ⟨tail, rfl⟩ := List.head?_eq_some_iff.mp mark
    exact plain ⟨tail, rfl⟩
  by_cases hash : c = '#'
  · have unmarked : rest.head? ≠ some '!' := fun mark => other ⟨hash, mark⟩
    simp [read, hash, unmarked]
  · simp [read, hash]

theorem read_backtick (atStart regexAllowed : Bool) (rest : Text) :
    read atStart regexAllowed '`' rest = template .plainTemplate .templateStart rest := by
  simp [read, Text.isLineBreak]

theorem read_openBrace (atStart regexAllowed : Bool) (rest : Text) :
    read atStart regexAllowed '{' rest = { kind := .openBrace, rest } := by
  simp [read, Text.isLineBreak]

theorem read_closeBrace (atStart regexAllowed : Bool) (rest : Text) :
    read atStart regexAllowed '}' rest = { kind := .closeBrace, rest } := by
  simp [read, Text.isLineBreak]

theorem read_space (atStart regexAllowed : Bool) (rest : Text) :
    read atStart regexAllowed ' ' rest =
      { kind := .whitespace, rest := rest.dropWhile Text.isInlineSpace } := by
  simp [read, Text.isLineBreak, Text.isInlineSpace, Text.isSpace, Text.isIdentifierStart,
    Text.isAscii]

theorem read_quote (atStart regexAllowed : Bool) {quote : Char} (rest : Text)
    (isQuote : quote = '\'' ∨ quote = '"') :
    read atStart regexAllowed quote rest = string quote rest := by
  rcases isQuote with rfl | rfl <;> simp [read, Text.isLineBreak]

theorem read_comment (atStart regexAllowed : Bool) (rest : Text) :
    read atStart regexAllowed '/' ('*' :: rest) = blockComment rest := by
  simp [read, Text.isLineBreak]

theorem letter_bounds {c : Char} (letter : c.isAlpha = true) : 'A' ≤ c ∧ c ≤ 'z' := by
  change (decide (c.val ≥ 'A'.val ∧ c.val ≤ 'Z'.val) ||
    (decide (c.val ≥ 'a'.val) && decide (c.val ≤ 'z'.val))) = true at letter
  rw [Bool.or_eq_true, Bool.and_eq_true, decide_eq_true_eq, decide_eq_true_eq,
    decide_eq_true_eq] at letter
  rcases letter with ⟨least, most⟩ | ⟨least, most⟩
  · exact ⟨least, Char.le_trans (show c ≤ 'Z' from most) (by decide)⟩
  · exact ⟨Char.le_trans (show 'A' ≤ 'a' by decide) least, most⟩

theorem letter_not_digit {c : Char} (letter : c.isAlpha = true) : c.isDigit = false := by
  have above : ¬ c.val ≤ '9'.val := fun below =>
    absurd (Char.le_trans (letter_bounds letter).1 below) (by decide)
  change (decide (c.val ≥ '0'.val) && decide (c.val ≤ '9'.val)) = false
  rw [decide_eq_false above, Bool.and_false]

theorem read_letter (atStart regexAllowed : Bool) {c : Char} (rest : Text)
    (letter : c.isAlpha = true) :
    read atStart regexAllowed c rest =
      { kind := .identifier, rest := rest.dropWhile Text.isIdentifierPart } := by
  have other (d : Char) (mark : d.isAlpha = false) : c ≠ d := by
    rintro rfl
    simp [mark] at letter
  simp [read, Text.isLineBreak, Text.isIdentifierStart, letter, letter_not_digit letter, other]

end Lexeme

end Weave
