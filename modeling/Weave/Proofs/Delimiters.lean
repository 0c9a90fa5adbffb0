import Weave.Proofs.Calls
import Weave.Proofs.Lockstep

/-!
Tokens between delimiters: strings, the pieces of templates, and block comments. `Delimiters` says
for each kind what opens and closes such a token and what cannot stand inside, where a backslash
and what it escapes are read as one unit. Every token that a scanner gives, however it is used, is
exactly that: it ends at the first closer, and it is marked as unterminated exactly if there is
none.
-/

namespace Weave

/-- Cuts a text into what is read at once: a backslash with the character behind it, or with a
carriage return and a line feed behind it, and every other character by itself. -/
def Text.units : Text → List Text
  | [] => []
  | '\\' :: '\r' :: '\n' :: rest => ['\\', '\r', '\n'] :: units rest
  | '\\' :: c :: rest => ['\\', c] :: units rest
  | c :: rest => [c] :: units rest

/-- How a token is delimited. -/
structure Delimiters where
  opener : Text
  /-- The units that close the token. -/
  closer : List Text
  /-- Units that do not stand in a row before the closer. -/
  barred : List (List Text)
  /-- Whether a backslash escapes what is behind it. -/
  escapes : Bool := true
  /-- Whether a line break ends the token, without belonging to it. -/
  inLine : Bool := false
  closer_barred : closer ∈ barred := by simp
  /-- What is barred begins with a character that is not escaped. -/
  bare : ∀ run ∈ barred, ∃ c more, run = [c] :: more := by simp

namespace Delimiters

/-- A string between quotes, which does not reach beyond its line. -/
def string (quote : Char) : Delimiters where
  opener := [quote]
  closer := [[quote]]
  barred := [[[quote]], [['\n']], [['\r']], [['\u2028']], [['\u2029']]]
  inLine := true

/-- A piece of a template, up to a backtick or to the opening of a substitution. -/
def template (opener : Char) (closer : List Text)
    (closes : closer ∈ [[['`']], [['$'], ['{']]] := by simp) : Delimiters where
  opener := [opener]
  closer
  barred := [[['`']], [['$'], ['{']]]
  closer_barred := closes

def comment : Delimiters where
  opener := ['/', '*']
  closer := [['*'], ['/']]
  barred := [[['*'], ['/']]]
  escapes := false

/-- The units that the text of a token is read in. -/
def cut (d : Delimiters) (text : Text) : List Text :=
  if d.escapes then text.units else text.map ([·])

/-- Whether none of what is barred stands among the units of `body`. -/
def Free (d : Delimiters) (body : List Text) : Prop := ∀ run ∈ d.barred, ¬ run <:+: body

/-- Where a token without a closer ends: at the end of the source, or before a line break. -/
def EndsAt (d : Delimiters) (rest : Text) : Prop :=
  rest = [] ∨ d.inLine = true ∧ ∃ b tail, rest = b :: tail ∧ Text.isLineBreak b = true

/-- The text of a token behind its opener. -/
def inside (d : Delimiters) (token : Token) : Text := token.text.drop d.opener.length

/-- The token in front of `rest` stands between the delimiters, and it is marked as unterminated
exactly if its closer is missing. -/
structure Encloses (d : Delimiters) (token : Token) (rest : Text) : Prop where
  opened : d.opener <+: token.text
  read_on : d.cut (d.inside token ++ rest) = d.cut (d.inside token) ++ d.cut rest
  closed : token.unterminated = false →
    ∃ body, d.Free body ∧ d.cut (d.inside token) = body ++ d.closer
  unclosed : token.unterminated = true → d.Free (d.cut (d.inside token)) ∧ d.EndsAt rest
  unterminated_iff : token.unterminated = true ↔ ¬ d.closer <:+ d.cut (d.inside token)

end Delimiters

/-- The delimiters that tokens of a kind may have. -/
def Kind.delimiters : Kind → List Delimiters
  | .stringLiteral => [.string '\'', .string '"']
  | .plainTemplate => [.template '`' [['`']]]
  | .templateStart => [.template '`' [['$'], ['{']]]
  | .templateContinuation => [.template '}' [['$'], ['{']]]
  | .templateEnd => [.template '}' [['`']]]
  | .blockComment => [.comment]
  | _ => []

/-- The token in front of `rest` stands between delimiters of its kind, or has none and is
complete. -/
def Token.Delimited (token : Token) (rest : Text) : Prop :=
  if token.kind.delimiters = [] then token.unterminated = false
  else ∃ d ∈ token.kind.delimiters, d.Encloses token rest

/-! ### Units -/

namespace Text

theorem flatten_units (text : Text) : text.units.flatten = text := by
  fun_induction units text with
  | case1 => rfl
  | case2 rest ih | case3 c rest _ ih | case4 c rest _ _ ih => simp [ih]

theorem units_pair (rest : Text) :
    units ('\\' :: '\r' :: '\n' :: rest) = ['\\', '\r', '\n'] :: units rest := by
  rw [units]

theorem units_escape {c : Char} {rest : Text}
    (noPair : ∀ tail, c = '\r' → rest = '\n' :: tail → False) :
    units ('\\' :: c :: rest) = ['\\', c] :: units rest := by
  rw [units]
  exact noPair

theorem units_plain {c : Char} {rest : Text}
    (noEscape : ∀ d tail, c = '\\' → rest = d :: tail → False) :
    units (c :: rest) = [c] :: units rest := by
  rw [units]
  · exact fun tail backslash => noEscape '\r' ('\n' :: tail) backslash
  · exact noEscape

/-- Units that are read at the front of a text are read alike without what follows them. -/
theorem units_of_append {text : Text} {front later : List Text}
    (read : text.units = front ++ later) : units front.flatten = front := by
  fun_induction units text generalizing front with
  | case1 =>
    obtain ⟨rfl, -⟩ := List.append_eq_nil_iff.mp read.symm
    rfl
  | case2 rest ih =>
    rcases List.cons_eq_append_iff.mp read with ⟨rfl, -⟩ | ⟨front, rfl, more⟩
    · rfl
    · exact (units_pair front.flatten).trans (congrArg _ (ih more))
  | case3 c rest noPair ih =>
    rcases List.cons_eq_append_iff.mp read with ⟨rfl, -⟩ | ⟨front, rfl, more⟩
    · rfl
    · have whole : front.flatten ++ later.flatten = rest := by
        rw [← List.flatten_append, ← more, flatten_units]
      -- A line feed behind the units would stand in `rest` as well.
      have apart : ∀ tail, c = '\r' → front.flatten = '\n' :: tail → False := by
        intro tail carriage feed
        rw [feed] at whole
        exact noPair _ carriage whole.symm
      exact (units_escape apart).trans (congrArg _ (ih more))
  | case4 c rest _ noEscape ih =>
    rcases List.cons_eq_append_iff.mp read with ⟨rfl, -⟩ | ⟨front, rfl, more⟩
    · rfl
    · have whole : front.flatten ++ later.flatten = rest := by
        rw [← List.flatten_append, ← more, flatten_units]
      have apart : ∀ d tail, c = '\\' → front.flatten = d :: tail → False := by
        intro d tail backslash escaped
        rw [escaped] at whole
        exact noEscape _ _ backslash whole.symm
      exact (units_plain apart).trans (congrArg _ (ih more))

end Text

namespace Delimiters

variable {d : Delimiters} {text : Text}

@[simp] theorem flatten_cut (d : Delimiters) (text : Text) : (d.cut text).flatten = text := by
  unfold cut
  split
  · exact text.flatten_units
  · induction text with
    | nil => rfl
    | cons c text ih => rw [List.map_cons, List.flatten_cons, ih, List.singleton_append]

/-- Units that are read at the front of a text are read alike without what follows them. -/
theorem cut_of_append {front later : List Text} (read : d.cut text = front ++ later) :
    d.cut front.flatten = front := by
  cases escapes : d.escapes with
  | true =>
    simp only [cut, escapes, ↓reduceIte] at read ⊢
    exact Text.units_of_append read
  | false =>
    have plain (t : Text) : d.cut t = t.map ([·]) := by simp [cut, escapes]
    rw [plain] at read
    obtain ⟨start, -, -, rfl, -⟩ := List.map_eq_append_iff.mp read
    rw [← plain, flatten_cut]

/-- A unit of one character at the front is the first character. -/
theorem eq_cons_of_cut {c : Char} (front : [[c]] <+: d.cut text) : ∃ tail, text = c :: tail := by
  obtain ⟨later, read⟩ := front
  rw [← d.flatten_cut text, ← read]
  exact ⟨later.flatten, rfl⟩

theorem closer_of_free {body : List Text} (free : d.Free body) : ¬ d.closer <:+ body :=
  fun suffix => free d.closer d.closer_barred suffix.isInfix

theorem free_nil (d : Delimiters) : d.Free [] := by
  intro run listed inside
  obtain ⟨c, more, rfl⟩ := d.bare run listed
  cases List.infix_nil.mp inside

/-! ### Readers -/

/-- The text behind an opener begins with units that hold nothing barred, and with the closer
unless the lexeme is unterminated. What is left then is left behind the lexeme. -/
def Reads (d : Delimiters) (text : Text) (lexeme : Lexeme) : Prop :=
  ∃ body, d.Free body ∧
    d.cut text = body ++ (if lexeme.unterminated then [] else d.closer) ++ d.cut lexeme.rest ∧
    (lexeme.unterminated = true → d.EndsAt lexeme.rest)

theorem reads_of_ended {kind : Kind} {rest : Text} (ends : d.EndsAt rest) :
    d.Reads rest { kind, rest, unterminated := true } :=
  ⟨[], d.free_nil, rfl, fun _ => ends⟩

theorem reads_of_closer {kind : Kind} {rest : Text} (closes : d.cut text = d.closer ++ d.cut rest) :
    d.Reads text { kind, rest } :=
  ⟨[], d.free_nil, closes, nofun⟩

/-- A reader that passes over the first unit reads on from the next one. -/
theorem Reads.cons {rest unit : Text} {lexeme : Lexeme} (later : d.Reads rest lexeme)
    (first : d.cut text = unit :: d.cut rest)
    (passed : ∀ run ∈ d.barred, ¬ run <+: unit :: d.cut rest) : d.Reads text lexeme := by
  obtain ⟨body, free, read, ends⟩ := later
  refine ⟨unit :: body, fun run listed inside => ?_, by rw [first, read]; rfl, ends⟩
  rcases List.infix_cons_iff.mp inside with front | behind
  · -- What stands in front of the body stands in front of the whole text.
    apply passed run listed
    rw [read, List.append_assoc, ← List.cons_append]
    exact front.trans (List.prefix_append _ _)
  · exact free run listed behind

/-- A reader passes over an escape. -/
theorem Reads.escaped {rest : Text} {c : Char} {more : Text} {lexeme : Lexeme}
    (later : d.Reads rest lexeme) (first : d.cut text = ('\\' :: c :: more) :: d.cut rest) :
    d.Reads text lexeme := by
  apply later.cons first
  intro run listed front
  obtain ⟨plain, run, rfl⟩ := d.bare run listed
  cases (List.cons_prefix_cons.mp front).1

/-- A lexeme that is read between delimiters is a token between them. -/
theorem Reads.encloses {token : Token} {rest : Text} {lexeme : Lexeme}
    (reads : d.Reads text lexeme) (spelled : token.text ++ rest = d.opener ++ text)
    (left : rest = lexeme.rest) (flag : token.unterminated = lexeme.unterminated) :
    d.Encloses token rest := by
  obtain ⟨body, free, read, ends⟩ := reads
  subst left
  rw [← flag] at read ends
  -- The token is the opener and the units up to what is left.
  have text_eq := congrArg List.flatten read
  rw [flatten_cut, List.flatten_append, flatten_cut] at text_eq
  rw [text_eq, ← List.append_assoc] at spelled
  have token_eq := List.append_cancel_right spelled
  have inside_eq :
      d.inside token = (body ++ if token.unterminated then [] else d.closer).flatten := by
    rw [inside, token_eq, List.drop_left]
  have units := cut_of_append read
  rw [← inside_eq] at units text_eq
  have read_on : d.cut (d.inside token ++ lexeme.rest) =
      d.cut (d.inside token) ++ d.cut lexeme.rest := by
    rw [← text_eq, units, read]
  cases unclosed : token.unterminated with
  | true =>
    simp only [unclosed, ↓reduceIte, List.append_nil] at units ends
    rw [← units] at free
    exact ⟨token_eq ▸ List.prefix_append _ _, read_on, by simp [unclosed],
      fun _ => ⟨free, ends trivial⟩, by simpa [unclosed] using closer_of_free free⟩
  | false =>
    simp only [unclosed, Bool.false_eq_true, ↓reduceIte] at units
    exact ⟨token_eq ▸ List.prefix_append _ _, read_on, fun _ => ⟨body, free, units⟩,
      by simp [unclosed], by simp [unclosed, units]⟩

end Delimiters

namespace Lexeme

theorem string_reads (quote : Char) (text : Text) :
    (Delimiters.string quote).Reads text (string quote text) := by
  fun_induction string quote text with
  | case1 => exact Delimiters.reads_of_ended (.inl rfl)
  | case2 rest ih => exact ih.escaped (Text.units_pair rest)
  | case3 c rest noPair ih => exact ih.escaped (Text.units_escape noPair)
  | case4 rest _ noEscape => exact Delimiters.reads_of_closer (Text.units_plain noEscape)
  | case5 c rest _ _ _ isBreak =>
    exact Delimiters.reads_of_ended (.inr ⟨rfl, c, rest, rfl, isBreak⟩)
  | case6 c rest _ noEscape notQuote inLine ih =>
    apply ih.cons (Text.units_plain noEscape)
    simp only [Text.isLineBreak, Bool.or_eq_true, beq_iff_eq, not_or] at inLine
    simp [Delimiters.string, Ne.symm notQuote, inLine, eq_comm]

/-- A piece of a template is read up to the closer that its kind has. -/
theorem template_reads (opener : Char) (closed broken : Kind)
    (whole : Delimiters.template opener [['`']] ∈ closed.delimiters)
    (opens : Delimiters.template opener [['$'], ['{']] ∈ broken.delimiters) (text : Text) :
    ∃ closer closes,
      Delimiters.template opener closer closes ∈ (template closed broken text).kind.delimiters ∧
      (Delimiters.template opener closer closes).Reads text (template closed broken text) := by
  fun_induction template closed broken text with
  | case1 => exact ⟨[['`']], by simp, whole, Delimiters.reads_of_ended (.inl rfl)⟩
  | case2 rest ih =>
    obtain ⟨closer, closes, listed, reads⟩ := ih
    exact ⟨closer, closes, listed, reads.escaped (Text.units_pair rest)⟩
  | case3 c rest noPair ih =>
    obtain ⟨closer, closes, listed, reads⟩ := ih
    exact ⟨closer, closes, listed, reads.escaped (Text.units_escape noPair)⟩
  | case4 rest =>
    refine ⟨[['$'], ['{']], by simp, opens, Delimiters.reads_of_closer ?_⟩
    exact (Text.units_plain (by simp)).trans (congrArg _ (Text.units_plain (by simp)))
  | case5 rest _ noEscape =>
    exact ⟨[['`']], by simp, whole, Delimiters.reads_of_closer (Text.units_plain noEscape)⟩
  | case6 c rest _ noEscape noOpening notBacktick ih =>
    obtain ⟨closer, closes, listed, reads⟩ := ih
    refine ⟨closer, closes, listed, reads.cons (Text.units_plain noEscape) ?_⟩
    intro run listed front
    rcases (by simpa [Delimiters.template] using listed : run = [['`']] ∨ run = [['$'], ['{']]) with
      rfl | rfl
    · exact notBacktick (by simpa using (List.cons_prefix_cons.mp front).1.symm)
    · obtain ⟨dollar, brace⟩ := List.cons_prefix_cons.mp front
      obtain ⟨tail, opens⟩ := Delimiters.eq_cons_of_cut brace
      exact noOpening tail (by simpa using dollar.symm) opens

theorem blockComment_reads (text : Text) : Delimiters.comment.Reads text (blockComment text) := by
  have step (c : Char) (rest : Text) :
      Delimiters.comment.cut (c :: rest) = [c] :: Delimiters.comment.cut rest := rfl
  unfold blockComment
  fun_induction afterCommentClose text with
  | case1 => exact Delimiters.reads_of_ended (.inl rfl)
  | case2 rest => exact Delimiters.reads_of_closer rfl
  | case3 c rest notCloser ih =>
    apply ih.cons (step c rest)
    intro run listed front
    obtain rfl : run = [['*'], ['/']] := by simpa [Delimiters.comment] using listed
    obtain ⟨star, slash⟩ := List.cons_prefix_cons.mp front
    obtain ⟨tail, closes⟩ := Delimiters.eq_cons_of_cut slash
    exact notCloser tail (by simpa using star.symm) closes

theorem slash_unterminated (regexAllowed : Bool) (text : Text) :
    (slash regexAllowed text).unterminated = false := by
  unfold slash
  split <;> rfl

/-- What is read at the front of a text stands between delimiters of its kind, or its kind has
none. -/
theorem read_reads (atStart regexAllowed : Bool) (c : Char) (text : Text) :
    let lexeme := read atStart regexAllowed c text
    lexeme.kind.delimiters = [] ∧ lexeme.unterminated = false ∨
      ∃ d ∈ lexeme.kind.delimiters, ∃ behind, c :: text = d.opener ++ behind ∧
        d.Reads behind lexeme := by
  fun_cases read atStart regexAllowed c text with
  | case5 _ _ slash comment =>
    refine .inr ⟨.comment, ?_, comment, by rw [slash]; rfl, blockComment_reads comment⟩
    rw [blockComment_kind]
    exact List.mem_singleton_self _
  | case6 =>
    refine .inl ⟨?_, slash_unterminated regexAllowed text⟩
    rcases slash_kind regexAllowed text with regex | mark
    · rw [regex]
      rfl
    · rw [mark]
      rfl
  | case7 _ _ _ _ _ backtick =>
    obtain ⟨closer, closes, listed, reads⟩ := template_reads '`' .plainTemplate .templateStart
      (List.mem_singleton_self _) (List.mem_singleton_self _) text
    exact .inr ⟨.template '`' closer closes, listed, text, by rw [backtick]; rfl, reads⟩
  | case8 _ _ _ _ _ _ isQuote =>
    refine .inr ⟨.string c, ?_, text, rfl, string_reads c text⟩
    rw [string_kind]
    rcases (by simpa using isQuote : c = '\'' ∨ c = '"') with rfl | rfl
    · exact List.mem_cons_self
    · exact List.mem_cons_of_mem _ (List.mem_singleton_self _)
  | _ => exact .inl ⟨rfl, rfl⟩

theorem read_kind_closeBrace {atStart regexAllowed : Bool} {c : Char} {text : Text} :
    (read atStart regexAllowed c text).kind = .closeBrace →
      c = '}' ∧ (read atStart regexAllowed c text).rest = text := by
  fun_cases read atStart regexAllowed c text with
  | case5 => simp [blockComment_kind]
  | case6 => rcases slash_kind regexAllowed text with regex | mark <;> simp [*]
  | case7 => rcases template_kind .plainTemplate .templateStart text with plain | start <;> simp [*]
  | case8 => simp [string_kind]
  | case10 _ _ _ _ _ _ _ _ brace => exact fun _ => ⟨brace, rfl⟩
  | _ => simp

end Lexeme

/-! ### Scanners -/

/-- The token of a lexeme between delimiters stands between them. -/
theorem Token.Delimited.of_reads {token : Token} {rest ahead : Text} {lexeme : Lexeme}
    (reads : ∃ d ∈ lexeme.kind.delimiters, ∃ behind, ahead = d.opener ++ behind ∧
      d.Reads behind lexeme)
    (spelled : token.text ++ rest = ahead) (kind : token.kind = lexeme.kind)
    (left : rest = lexeme.rest) (flag : token.unterminated = lexeme.unterminated) :
    token.Delimited rest := by
  obtain ⟨d, listed, behind, opened, reads⟩ := reads
  rw [Token.Delimited, kind, if_neg (List.ne_nil_of_mem listed)]
  exact ⟨d, listed, reads.encloses (spelled.trans opened) left flag⟩

namespace Scanner

variable {s : Scanner}

theorem next_delimited (s : Scanner) : s.next.current.Delimited s.next.rest := by
  cases ahead : s.rest with
  | nil =>
    rw [next_of_rest_eq_nil ahead]
    rfl
  | cons c rest =>
    have spelled := next_text_append s
    rw [next_eq_take ahead] at spelled ⊢
    rcases Lexeme.read_reads (s.current.stop == 0) s.regexAllowed c rest with ⟨none, flag⟩ | reads
    · exact (if_pos none).mpr flag
    · exact .of_reads reads (spelled.trans ahead) rfl rfl rfl

/-- A closing brace is nothing but the brace. -/
theorem next_closeBrace (closes : s.next.current.kind = .closeBrace) :
    s.next.current.text = ['}'] := by
  cases ahead : s.rest with
  | nil =>
    rw [next_of_rest_eq_nil ahead] at closes
    cases closes
  | cons c rest =>
    rw [next_eq_take ahead] at closes ⊢
    obtain ⟨rfl, left⟩ := Lexeme.read_kind_closeBrace closes
    simp only [take, left]
    exact Text.upTo_append ['}'] rest

theorem rescan_delimited (closes : s.current.kind = .closeBrace) (brace : s.current.text = ['}']) :
    s.rescan.current.Delimited s.rescan.rest := by
  have spelled := rescan_text_append s
  rw [rescan_eq_take closes] at spelled ⊢
  obtain ⟨closer, closed, listed, reads⟩ :=
    Lexeme.template_reads '}' .templateEnd .templateContinuation (List.mem_singleton_self _)
      (List.mem_singleton_self _) s.rest
  exact .of_reads ⟨.template '}' closer closed, listed, s.rest, by rw [brace]; rfl, reads⟩
    spelled rfl rfl rfl

/-- The current token stands between its delimiters, and if it is a closing brace it is nothing
but that. -/
structure Delimited (s : Scanner) : Prop where
  current : s.current.Delimited s.rest
  brace : s.current.kind = .closeBrace → s.current.text = ['}']

theorem delimited_ofSource (source : Text) : (ofSource source).Delimited := ⟨rfl, nofun⟩

theorem delimited_next (s : Scanner) : s.next.Delimited := ⟨s.next_delimited, next_closeBrace⟩

theorem Delimited.rescan (delimited : s.Delimited) : s.rescan.Delimited := by
  by_cases closes : s.current.kind = .closeBrace
  · refine ⟨rescan_delimited closes (delimited.brace closes), fun again => ?_⟩
    rw [rescan_eq_take closes] at again
    rcases Lexeme.template_kind .templateEnd .templateContinuation s.rest with kind | kind
    · cases kind.symm.trans again
    · cases kind.symm.trans again
  · rw [Scanner.rescan, if_neg closes]
    exact delimited

theorem Delimited.perform (delimited : s.Delimited) (call : Call) : (s.perform call).Delimited := by
  cases call with
  | next | item => exact delimited_next s
  | rescan => exact delimited.rescan
  | consume head =>
    exact Template.close_keeps (fun ahead _ => delimited_next ahead) (fun _ => Delimited.rescan)
      _ _ _ _ _ delimited

theorem Delimited.performAll (delimited : s.Delimited) (calls : List Call) :
    (s.performAll calls).Delimited := by
  induction calls generalizing s with
  | nil => exact delimited
  | cons call calls ih => exact ih (delimited.perform call)

/-- Tokens are exactly what stands between their delimiters. Whatever is called on a scanner, its
token is closed by the first closer of its kind behind its opener, where an escape is read as one
unit; if there is none, it is marked as unterminated and runs to the end of the source, or to the
next line break if it is a string. No other token is ever marked. -/
theorem tokens_end_at_first_closer (source : Text) (calls : List Call) :
    ((ofSource source).performAll calls).current.Delimited
      (source.dropBytes ((ofSource source).performAll calls).current.stop) := by
  obtain ⟨same, front, placed⟩ := performAll_placed (placed_ofSource source) calls
  have rest_eq := placed.rest_eq
  rw [same] at rest_eq
  have delimited := ((delimited_ofSource source).performAll calls).current
  rw [rest_eq] at delimited
  exact delimited

end Scanner

end Weave
