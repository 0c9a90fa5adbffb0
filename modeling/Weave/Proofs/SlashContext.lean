import Weave.Proofs.Delimiters
import Weave.Proofs.Locality

/-!
A slash opens a regular expression or divides. Which of them it does depends on the last token
before it that is no white space and no comment, and on whether a slash closes the regular
expression within the line; nothing else that was scanned counts. `Scan` follows a scanner together
with the tokens it has given, and the main statement says of each of them that begins with a slash
what it is and where it ends.
-/

namespace Weave

namespace Token

/-- The last token that is neither white space nor a comment. -/
def lastSignificant? (tokens : List Token) : Option Token :=
  (tokens.filter (!·.kind.isTrivia)).getLast?

/-- Whether a value is expected behind the token, and not an operator. -/
def ExpectsOperand (token : Token) : Prop :=
  token.kind = .punctuation ∧ token.text ∉ [")", "]", "++", "--"].map String.toList ∨
    token.kind ∈ [.openBrace, .closeBrace, .templateStart, .templateContinuation, .unknown] ∨
    token.kind = .identifier ∧ token.text ∈ Scanner.operatorWords

theorem lastSignificant?_concat (tokens : List Token) (token : Token) :
    lastSignificant? (tokens ++ [token]) =
      if token.kind.isTrivia then lastSignificant? tokens else some token := by
  unfold lastSignificant?
  rw [List.filter_append]
  split
  · next trivia => simp [trivia]
  · next significant => simp [significant]

end Token

/-! ### The body of a regular expression -/

namespace Regex

/-- Whether a bracket is open behind a unit, where `inside` says that one is open before it. -/
def switch (inside : Bool) (unit : Text) : Bool :=
  if unit = ['['] then true else if unit = [']'] then false else inside

/-- The text behind an opening slash has a closing slash: the units of `body` before it hold no
line break and leave no bracket open, and `rest` stands behind it. `inside` says that a bracket is
open in front of the text. -/
structure ClosedBy (inside : Bool) (text : Text) (body : List Text) (rest : Text) : Prop where
  units_eq : text.units = body ++ ['/'] :: rest.units
  inLine : ∀ unit ∈ body, ∀ c ∈ unit, Text.isLineBreak c = false
  unbracketed : body.foldl switch inside = false

/-- The first slash that closes the text; those before it stand between brackets. -/
structure ClosedFirstBy (inside : Bool) (text : Text) (body : List Text) (rest : Text) : Prop
    extends ClosedBy inside text body rest where
  first : ∀ front more, body = front ++ ['/'] :: more → front.foldl switch inside = true

variable {inside : Bool} {text behind rest unit : Text} {body : List Text}

theorem ClosedFirstBy.cons (closed : ClosedFirstBy (switch inside unit) behind body rest)
    (units_eq : text.units = unit :: behind.units)
    (inLine : ∀ c ∈ unit, Text.isLineBreak c = false) (passed : unit = ['/'] → inside = true) :
    ClosedFirstBy inside text (unit :: body) rest where
  units_eq := by
    rw [units_eq, closed.units_eq]
    rfl
  inLine := List.forall_mem_cons.mpr ⟨inLine, closed.inLine⟩
  unbracketed := closed.unbracketed
  first := by
    intro front more split
    rcases List.cons_eq_append_iff.mp split with ⟨rfl, here⟩ | ⟨front, rfl, later⟩
    · exact passed (List.cons.inj here).1.symm
    · exact closed.first front more later

/-- What closes a text behind its first unit. -/
theorem ClosedBy.tail (closed : ClosedBy inside text (unit :: body) rest)
    (units_eq : text.units = unit :: behind.units) :
    ClosedBy (switch inside unit) behind body rest where
  units_eq := by
    have same := closed.units_eq
    rw [units_eq, List.cons_append] at same
    exact (List.cons.inj same).2
  inLine := fun unit listed => closed.inLine unit (List.mem_cons_of_mem _ listed)
  unbracketed := closed.unbracketed

/-- A regular expression and its flags stand on one line. -/
theorem ClosedBy.unbroken (closed : ClosedBy inside text body rest) :
    ∀ c ∈ '/' :: body.flatten ++ '/' :: rest.takeWhile Text.isIdentifierPart,
      Text.isLineBreak c = false := by
  have slash : Text.isLineBreak '/' = false := by decide
  intro c member
  rcases List.mem_append.mp member with member | member
  · rcases List.mem_cons.mp member with rfl | member
    · exact slash
    · obtain ⟨unit, listed, within⟩ := List.mem_flatten.mp member
      exact closed.inLine unit listed c within
  · rcases List.mem_cons.mp member with rfl | flag
    · exact slash
    · have part := List.all_eq_true.mp List.all_takeWhile c flag
      cases isBreak : Text.isLineBreak c with
      | false => rfl
      | true => rw [← part, Text.isIdentifierPart_of_isLineBreak isBreak]

end Regex

namespace Lexeme

open Regex

/-- The reader of regular expressions goes unit by unit: a unit with a line break ends it without
success, a slash outside of brackets ends it, and any other unit is passed over. -/
theorem afterRegexClose_unit {text unit : Text} {units : List Text}
    (read : text.units = unit :: units) (inside : Bool) :
    ∃ behind, units = behind.units ∧
      afterRegexClose inside text =
        if unit.any Text.isLineBreak then none
        else if unit = ['/'] ∧ inside = false then some behind
        else afterRegexClose (switch inside unit) behind := by
  have backslash : Text.isLineBreak '\\' = false := by decide
  fun_cases Text.units text with
  | case1 => cases read
  | case2 behind =>
    rw [Text.units_pair] at read
    obtain ⟨rfl, rfl⟩ := List.cons.inj read
    have carriage : Text.isLineBreak '\r' = true := by decide
    exact ⟨behind, rfl, by simp [afterRegexClose, carriage]⟩
  | case3 c behind noPair =>
    rw [Text.units_escape noPair] at read
    obtain ⟨rfl, rfl⟩ := List.cons.inj read
    refine ⟨behind, rfl, ?_⟩
    simp [afterRegexClose, backslash, switch]
  | case4 c behind _ noEscape =>
    rw [Text.units_plain noEscape] at read
    obtain ⟨rfl, rfl⟩ := List.cons.inj read
    refine ⟨behind, rfl, ?_⟩
    rw [afterRegexClose]
    · by_cases opens : c = '['
      · simp [switch, opens]
      · by_cases shuts : c = ']'
        · simp [switch, shuts]
        · simp [switch, opens, shuts]
    · exact noEscape

/-- A regular expression is read up to the first slash that closes it. -/
theorem afterRegexClose_closed {inside : Bool} {text rest : Text}
    (closes : afterRegexClose inside text = some rest) :
    ∃ body, ClosedFirstBy inside text body rest := by
  -- The units ahead are fewer behind each unit that is passed over.
  induction read : text.units generalizing inside text with
  | nil =>
    obtain rfl : text = [] := by rw [← text.flatten_units, read]; rfl
    cases closes
  | cons unit units ih =>
    obtain ⟨behind, rfl, step⟩ := afterRegexClose_unit read inside
    rw [step] at closes
    split at closes
    · cases closes
    · next noBreak =>
      have inLine : ∀ c ∈ unit, Text.isLineBreak c = false := by simpa using noBreak
      split at closes
      · next here =>
        obtain ⟨rfl, rfl⟩ := here
        obtain rfl := Option.some.inj closes
        exact ⟨[], ⟨read, nofun, rfl⟩, by simp⟩
      · next passed =>
        obtain ⟨body, closed⟩ := ih closes rfl
        refine ⟨unit :: body, closed.cons read inLine fun slash => ?_⟩
        simpa [slash] using passed

/-- Where a slash closes a regular expression, the reader finds one. -/
theorem isSome_afterRegexClose {inside : Bool} {text rest : Text} {body : List Text}
    (closed : ClosedBy inside text body rest) : (afterRegexClose inside text).isSome := by
  induction body generalizing inside text with
  | nil =>
    obtain ⟨behind, -, step⟩ := afterRegexClose_unit closed.units_eq inside
    have slash : Text.isLineBreak '/' = false := by decide
    have outside : inside = false := closed.unbracketed
    rw [step]
    simp [slash, outside]
  | cons unit body ih =>
    obtain ⟨behind, left, step⟩ := afterRegexClose_unit closed.units_eq inside
    have inLine : ¬ unit.any Text.isLineBreak = true := by
      simpa using closed.inLine unit List.mem_cons_self
    rw [step, if_neg inLine]
    split
    · rfl
    · exact ih (closed.tail (left ▸ closed.units_eq))

/-- A slash that divides takes an equals sign along. -/
theorem afterPunctuator_slash (text : Text) :
    afterPunctuator ('/' :: text) = if text.head? = some '=' then text.tail else text := by
  cases text with
  | nil => rfl
  | cons c text =>
    by_cases equals : c = '='
    · subst equals
      rfl
    · have unmarked : ∀ mark ∈ punctuators, opensWith ('/' :: c :: text) mark = false := by
        simp [punctuators, opensWith, Ne.symm equals]
      have none : punctuators.find? (opensWith ('/' :: c :: text)) = none :=
        List.find?_eq_none.mpr fun mark listed => by simp [unmarked mark listed]
      simp [afterPunctuator, none, equals]

theorem read_slash (atStart regexAllowed : Bool) {text : Text} (noLine : text.head? ≠ some '/')
    (noBlock : text.head? ≠ some '*') :
    read atStart regexAllowed '/' text = slash regexAllowed text := by
  unfold read
  rw [if_neg (by decide), if_neg (by decide), if_neg (by simp), if_pos rfl]
  split
  · exact absurd rfl noLine
  · exact absurd rfl noBlock
  · rfl

/-- A slash is read as a regular expression if that is allowed and a slash closes it. -/
theorem slash_regex_iff (allowed : Bool) (text : Text) :
    (slash allowed text).kind = .regexLiteral ↔
      allowed = true ∧ ∃ body rest, ClosedBy false text body rest := by
  unfold slash
  cases allowed with
  | false => simp
  | true =>
    cases closes : afterRegexClose false text with
    | some rest =>
      obtain ⟨body, closed⟩ := afterRegexClose_closed closes
      exact ⟨fun _ => ⟨rfl, body, rest, closed.toClosedBy⟩, fun _ => rfl⟩
    | none =>
      refine ⟨nofun, fun ⟨_, body, rest, closed⟩ => ?_⟩
      simpa [closes] using isSome_afterRegexClose closed

theorem slash_regex {allowed : Bool} {text : Text}
    (regex : (slash allowed text).kind = .regexLiteral) :
    ∃ body rest, ClosedFirstBy false text body rest ∧
      '/' :: text = '/' :: body.flatten ++ '/' :: rest.takeWhile Text.isIdentifierPart ++
        (slash allowed text).rest := by
  unfold slash at regex ⊢
  split at regex
  · next rest closes =>
    obtain ⟨-, closes⟩ : allowed = true ∧ afterRegexClose false text = some rest := by
      simpa using closes
    obtain ⟨body, closed⟩ := afterRegexClose_closed closes
    refine ⟨body, rest, closed, ?_⟩
    have text_eq := congrArg List.flatten closed.units_eq
    rw [Text.flatten_units, List.flatten_append, List.flatten_cons, Text.flatten_units] at text_eq
    rw [List.append_assoc, List.cons_append, List.cons_append, List.takeWhile_append_dropWhile]
    exact congrArg _ text_eq
  · cases regex

theorem slash_division {allowed : Bool} {text : Text}
    (division : (slash allowed text).kind ≠ .regexLiteral) :
    (slash allowed text).kind = .punctuation ∧
      '/' :: text =
        (if text.head? = some '=' then ['/', '='] else ['/']) ++ (slash allowed text).rest := by
  unfold slash at division ⊢
  split at division
  · exact absurd rfl division
  · refine ⟨rfl, ?_⟩
    rw [afterPunctuator_slash]
    split
    · next equals =>
      obtain ⟨tail, rfl⟩ := List.head?_eq_some_iff.mp equals
      rfl
    · rfl

end Lexeme

/-! ### Scans -/

namespace Scanner

/-- A scanner of `source` with the tokens that it has given. A closing brace may be read again, and
then what it is read as stands in its place. -/
inductive Scan (source : Text) : List Token → Scanner → Prop where
  | start : Scan source [] (ofSource source)
  | next {tokens : List Token} {s : Scanner} :
    Scan source tokens s → Scan source (tokens ++ [s.next.current]) s.next
  | rescan {tokens : List Token} {s : Scanner} {brace : Token} :
    Scan source (tokens ++ [brace]) s → s.current.kind = .closeBrace →
      Scan source (tokens ++ [s.rescan.current]) s.rescan

variable {source : Text} {tokens : List Token} {s : Scanner}

theorem Scan.reached (scan : Scan source tokens s) :
    ∃ calls, s = (ofSource source).performAll calls := by
  induction scan with
  | start => exact ⟨[], rfl⟩
  | next _ ih =>
    obtain ⟨calls, rfl⟩ := ih
    exact ⟨calls ++ [.next], by rw [performAll, performAll, List.foldl_append]; rfl⟩
  | rescan _ _ ih =>
    obtain ⟨calls, rfl⟩ := ih
    exact ⟨calls ++ [.rescan], by rw [performAll, performAll, List.foldl_append]; rfl⟩

theorem Scan.delimited (scan : Scan source tokens s) : s.Delimited := by
  obtain ⟨calls, rfl⟩ := scan.reached
  exact (delimited_ofSource source).performAll calls

theorem Scan.rest_eq (scan : Scan source tokens s) : s.rest = source.dropBytes s.current.stop := by
  obtain ⟨calls, rfl⟩ := scan.reached
  obtain ⟨same, front, placed⟩ := performAll_placed (placed_ofSource source) calls
  rw [placed.rest_eq, same]
  rfl

theorem allowsRegex_iff {token : Token} {before : Bool} (significant : token.kind.isTrivia = false)
    (more : token.kind ≠ .endOfInput) :
    allowsRegex token.kind token.text before = true ↔ token.ExpectsOperand := by
  unfold allowsRegex Token.ExpectsOperand
  rw [significant]
  cases kind : token.kind <;> simp_all

/-- Whether a slash ahead may open a regular expression depends on the last significant token. -/
theorem Scan.regexAllowed_iff (scan : Scan source tokens s) (ahead : s.rest ≠ []) :
    s.regexAllowed = true ↔ ∀ token ∈ Token.lastSignificant? tokens, token.ExpectsOperand := by
  induction scan with
  | start => simp [ofSource, Token.lastSignificant?]
  | @next tokens s scan ih =>
    have before : s.rest ≠ [] := fun ended =>
      ahead (List.suffix_nil.mp (ended ▸ s.next_rest_suffix))
    have more : s.next.current.kind ≠ .endOfInput := mt next_kind_eq_endOfInput.mp before
    rw [next_regexAllowed, Token.lastSignificant?_concat]
    split
    · next trivia =>
      unfold allowsRegex
      rw [if_pos trivia]
      exact ih before
    · next significant =>
      rw [Bool.not_eq_true] at significant
      simp [allowsRegex_iff significant more]
  | @rescan tokens s brace scan closes ih =>
    have allowed : s.rescan.regexAllowed =
        allowsRegex s.rescan.current.kind s.rescan.current.text s.regexAllowed := by
      rw [rescan_eq_take closes]
      rfl
    have kind : s.rescan.current.kind = .templateEnd ∨
        s.rescan.current.kind = .templateContinuation := by
      rw [rescan_eq_take closes]
      exact Lexeme.template_kind .templateEnd .templateContinuation s.rest
    have significant : s.rescan.current.kind.isTrivia = false := by
      rcases kind with kind | kind <;> rw [kind] <;> rfl
    have more : s.rescan.current.kind ≠ .endOfInput := by
      rcases kind with kind | kind <;> simp [kind]
    rw [allowed, Token.lastSignificant?_concat, if_neg (by simp [significant])]
    simp [allowsRegex_iff significant more]

/-- What a token that begins with a slash is, behind the tokens `before`. The text behind the slash
is `ahead`. -/
structure ReadsSlash (before : List Token) (token : Token) (ahead : Text) : Prop where
  regex_iff : token.kind = .regexLiteral ↔
    (∀ last ∈ Token.lastSignificant? before, last.ExpectsOperand) ∧
      ∃ body rest, Regex.ClosedBy false ahead body rest
  /-- A regular expression ends behind the first slash that closes it and the flags behind that. -/
  regex : token.kind = .regexLiteral →
    ∃ body rest, Regex.ClosedFirstBy false ahead body rest ∧
      token.text = '/' :: body.flatten ++ '/' :: rest.takeWhile Text.isIdentifierPart ∧
      ∀ c ∈ token.text, Text.isLineBreak c = false
  division : token.kind ≠ .regexLiteral →
    token.kind = .punctuation ∧
      token.text = if ahead.head? = some '=' then ['/', '='] else ['/']

/-- A token that begins with a slash and is no comment is read by `Lexeme.slash`. -/
theorem next_slash (slash : s.next.current.text.head? = some '/')
    (noLine : s.next.current.kind ≠ .lineComment) (noBlock : s.next.current.kind ≠ .blockComment) :
    ∃ ahead, s.rest = '/' :: ahead ∧
      s.next = s.take s.current.stop s.rest (Lexeme.slash s.regexAllowed ahead) := by
  obtain ⟨ahead, here⟩ : ∃ ahead, s.rest = '/' :: ahead := by
    obtain ⟨tail, shape⟩ := List.head?_eq_some_iff.mp slash
    exact ⟨tail ++ s.next.rest, by rw [← next_text_append s, shape, List.cons_append]⟩
  refine ⟨ahead, here, ?_⟩
  have line : ahead.head? ≠ some '/' := by
    intro second
    obtain ⟨comment, rfl⟩ := List.head?_eq_some_iff.mp second
    rw [next_eq_take here] at noLine
    exact noLine rfl
  have block : ahead.head? ≠ some '*' := by
    intro second
    obtain ⟨comment, rfl⟩ := List.head?_eq_some_iff.mp second
    rw [next_eq_take here] at noBlock
    exact noBlock (Lexeme.blockComment_kind comment)
  rw [next_eq_take here, Lexeme.read_slash _ _ line block, here]

theorem Scan.of_slash {token : Token} (scan : Scan source (tokens ++ [token]) s)
    (slash : token.text.head? = some '/') :
    ∃ t, Scan source tokens t ∧ token = t.next.current := by
  generalize given : tokens ++ [token] = all at scan
  cases scan with
  | start => simp at given
  | next before =>
    obtain ⟨rfl, last⟩ := List.append_inj' given rfl
    exact ⟨_, before, List.singleton_inj.mp last⟩
  | @rescan _ t brace before closes =>
    -- What a brace is read as begins with the brace.
    obtain ⟨-, last⟩ := List.append_inj' given rfl
    obtain rfl := List.singleton_inj.mp last
    have spelled := rescan_text_append t
    rw [before.delimited.brace closes] at spelled
    obtain ⟨tail, shape⟩ := List.head?_eq_some_iff.mp slash
    rw [shape] at spelled
    cases spelled

/-- Whether a slash opens a regular expression or divides depends on the last significant token
before it, and on whether a slash closes the regular expression; what it is read as then ends at
the first such slash and the flags behind it, or is read as if there were no regular
expressions. -/
theorem slash_after_last_significant {token : Token} (scan : Scan source (tokens ++ [token]) s)
    (slash : token.text.head? = some '/') (noLine : token.kind ≠ .lineComment)
    (noBlock : token.kind ≠ .blockComment) :
    ∃ ahead, source.dropBytes token.start = '/' :: ahead ∧ ReadsSlash tokens token ahead := by
  obtain ⟨t, before, rfl⟩ := scan.of_slash slash
  obtain ⟨ahead, here, taken⟩ := next_slash slash noLine noBlock
  refine ⟨ahead, by rw [next_start, ← before.rest_eq, here], ?_⟩
  have kind : t.next.current.kind = (Lexeme.slash t.regexAllowed ahead).kind := by rw [taken]; rfl
  have spelled :
      t.next.current.text ++ (Lexeme.slash t.regexAllowed ahead).rest = '/' :: ahead := by
    have whole := next_text_append t
    rw [taken] at whole ⊢
    exact whole.trans here
  have allowed := before.regexAllowed_iff (by simp [here])
  constructor
  · rw [kind, Lexeme.slash_regex_iff, allowed]
  · intro regex
    obtain ⟨body, rest, closed, text_eq⟩ := Lexeme.slash_regex (kind ▸ regex)
    have token_eq := List.append_cancel_right (spelled.trans text_eq)
    exact ⟨body, rest, closed, token_eq, token_eq ▸ closed.unbroken⟩
  · intro division
    obtain ⟨mark, text_eq⟩ := Lexeme.slash_division (kind ▸ division)
    exact ⟨kind.trans mark, List.append_cancel_right (spelled.trans text_eq)⟩

/-- A regular expression in a second substitution, with a slash between brackets, a slash that is
escaped, and flags. -/
theorem regex_behind_continuation :
    ∃ tokens token s, Scan "`$\x7b\x7d$\x7b/[/`]\\//g\x7d`".toList (tokens ++ [token]) s ∧
      token.text = "/[/`]\\//g".toList ∧ token.kind = .regexLiteral ∧
      ∃ ahead, Text.dropBytes token.start "`$\x7b\x7d$\x7b/[/`]\\//g\x7d`".toList = '/' :: ahead ∧
        ReadsSlash tokens token ahead := by
  have first : Scan "`$\x7b\x7d$\x7b/[/`]\\//g\x7d`".toList _ _ := .next (.next .start)
  have scan := (first.rescan (by decide +kernel)).next
  exact ⟨_, _, _, scan, by decide +kernel, by decide +kernel,
    slash_after_last_significant scan (by decide +kernel) (by decide +kernel) (by decide +kernel)⟩

end Scanner

end Weave
