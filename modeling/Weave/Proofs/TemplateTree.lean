import Weave.Proofs.Calls

/-!
Template literals as trees. A tree holds chunks of template text with substitutions between them,
and a substitution holds parts: words, line breaks, strings, comments, groups in braces, and
templates again. What each chunk or part may hold is part of its type. The main statements say
what a scanner reads where a printed chunk or part stands ahead of it.
-/

namespace Weave.Template

/-- Template text without a closer, an escape, or the opening of a substitution. -/
structure Chunk where
  text : Text
  noBacktick : '`' ∉ text
  noBackslash : '\\' ∉ text
  noOpening : ¬ ['$', '{'] <:+: text

/-- The ways to write one line break. -/
def lineBreaks : List Text := [['\n'], ['\r'], ['\r', '\n'], ['\u2028'], ['\u2029']]

/-- A part that is one token. -/
inductive Atom where
  /-- ASCII letters, at least one. -/
  | word (letters : Text) (inhabited : letters ≠ []) (ascii : ∀ c ∈ letters, c.isAlpha = true)
  | lineBreak (text : Text) (listed : text ∈ lineBreaks)
  /-- A string. Its body may hold braces, backticks and the other quote. -/
  | quoted (quote : Char) (body : Text) (isQuote : quote = '\'' ∨ quote = '"')
      (bare : ∀ c ∈ body, c ≠ quote ∧ c ≠ '\\' ∧ Text.isLineBreak c = false)
  /-- A block comment. Its body may hold braces and backticks. -/
  | comment (body : Text) (bare : ¬ ['*', '/'] <:+: body)
  /-- A template without substitutions. -/
  | plain (chunk : Chunk)

def Atom.print : Atom → Text
  | .word letters _ _ => letters
  | .lineBreak text _ => text
  | .quoted quote body _ _ => quote :: (body ++ [quote])
  | .comment body _ => '/' :: '*' :: (body ++ ['*', '/'])
  | .plain chunk => '`' :: (chunk.text ++ ['`'])

/-- The kind of the token that an atom is. -/
def Atom.kind : Atom → Kind
  | .word .. => .identifier
  | .lineBreak .. => .newLine
  | .quoted .. => .stringLiteral
  | .comment .. => .blockComment
  | .plain _ => .plainTemplate

mutual

/-- A part of a substitution. -/
inductive Part where
  | atom (a : Atom)
  | group (inside : List Part)
  | template (tree : Tree)

/-- A template with substitutions, from its first chunk on: each substitution has a chunk before
it, and the last one also a chunk behind it. -/
inductive Tree where
  | last (chunk : Chunk) (inside : List Part) (ending : Chunk)
  | more (chunk : Chunk) (inside : List Part) (rest : Tree)

end

mutual

def Part.print : Part → Text
  | .atom a => a.print
  | .group inside => '{' :: ' ' :: (Part.printAll inside ++ [' ', '}'])
  | .template tree => '`' :: tree.printBody

/-- Parts with a single space between them. -/
def Part.printAll : List Part → Text
  | [] => []
  | [p] => p.print
  | p :: q :: ps => p.print ++ ' ' :: Part.printAll (q :: ps)

/-- A template behind its opening backtick. -/
def Tree.printBody : Tree → Text
  | .last chunk inside ending =>
    chunk.text ++ '$' :: '{' :: (Part.printAll inside ++ '}' :: (ending.text ++ ['`']))
  | .more chunk inside rest =>
    chunk.text ++ '$' :: '{' :: (Part.printAll inside ++ '}' :: rest.printBody)

end

def Tree.print (tree : Tree) : Text := '`' :: tree.printBody

/-- The first chunk of a tree. -/
def Tree.chunk : Tree → Chunk
  | .last chunk _ _ | .more chunk _ _ => chunk

/-- What a tree prints behind the opening of its first substitution. -/
def Tree.tail : Tree → Text
  | .last _ inside ending => Part.printAll inside ++ '}' :: (ending.text ++ ['`'])
  | .more _ inside rest => Part.printAll inside ++ '}' :: rest.printBody

theorem Tree.printBody_eq (tree : Tree) :
    tree.printBody = tree.chunk.text ++ '$' :: '{' :: tree.tail := by
  cases tree <;> rfl

mutual

/-- The greatest number of substitutions that are open at one time within a part. -/
def Part.depth : Part → Nat
  | .atom _ => 0
  | .group inside => Part.depthAll inside
  | .template tree => tree.depth

def Part.depthAll : List Part → Nat
  | [] => 0
  | p :: ps => max p.depth (Part.depthAll ps)

/-- The greatest number of substitutions that are open at one time within a template. -/
def Tree.depth : Tree → Nat
  | .last _ inside _ => Part.depthAll inside + 1
  | .more _ inside rest => max (Part.depthAll inside + 1) rest.depth

end

theorem Tree.depth_pos (tree : Tree) : 0 < tree.depth := by
  cases tree <;> simp only [Tree.depth] <;> omega

/-! ### Reading what was printed -/

/-- The text starts with a character that is no white space within a line. -/
def Bare (text : Text) : Prop := ∃ c tail, text = c :: tail ∧ Text.isInlineSpace c = false

theorem isInlineSpace_of_isAlpha {c : Char} (letter : c.isAlpha = true) :
    Text.isInlineSpace c = false := by
  have apart (d : Char) (mark : d.isAlpha = false) : c ≠ d := by
    rintro rfl
    simp [mark] at letter
  have bounds := Lexeme.letter_bounds letter
  have notControl : ¬ c ≤ '\r' := fun below => absurd (Char.le_trans bounds.1 below) (by decide)
  have notQuad : ¬ '\u2000' ≤ c := fun above => absurd (Char.le_trans above bounds.2) (by decide)
  simp [Text.isInlineSpace, Text.isSpace, apart, notControl, notQuad]

theorem Bare.append {text : Text} (bare : Bare text) (rest : Text) : Bare (text ++ rest) := by
  obtain ⟨c, tail, rfl, notSpace⟩ := bare
  exact ⟨c, tail ++ rest, rfl, notSpace⟩

theorem Bare.dropWhile {text : Text} (bare : Bare text) :
    text.dropWhile Text.isInlineSpace = text := by
  obtain ⟨c, tail, rfl, notSpace⟩ := bare
  exact List.dropWhile_cons_of_neg (by simp [notSpace])

theorem Atom.bare (a : Atom) : Bare a.print := by
  cases a with
  | word letters inhabited ascii =>
    obtain ⟨c, letters, rfl⟩ := List.exists_cons_of_ne_nil inhabited
    exact ⟨c, letters, rfl, isInlineSpace_of_isAlpha (ascii c List.mem_cons_self)⟩
  | lineBreak text listed =>
    simp only [lineBreaks, List.mem_cons, List.not_mem_nil, or_false] at listed
    rcases listed with rfl | rfl | rfl | rfl | rfl <;> exact ⟨_, _, rfl, by decide⟩
  | quoted quote body isQuote bare =>
    rcases isQuote with rfl | rfl <;> exact ⟨_, _, rfl, by decide⟩
  | comment body bare => exact ⟨_, _, rfl, by decide⟩
  | plain chunk => exact ⟨_, _, rfl, by decide⟩

theorem Part.bare (p : Part) : Bare p.print := by
  cases p with
  | atom a => exact a.bare
  | group inside | template tree => exact ⟨_, _, rfl, by decide⟩

theorem Part.bare_all (p : Part) (ps : List Part) : Bare (Part.printAll (p :: ps)) := by
  cases ps with
  | nil => exact p.bare
  | cons q qs => exact p.bare.append _

/-- Wherever a scanner has `text` ahead, it takes a token of the kind and leaves `rest`. -/
def Reads (text : Text) (kind : Kind) (rest : Text) : Prop :=
  ∀ s : Scanner, s.rest = text → s.next.current.kind = kind ∧ s.next.rest = rest

/-- What follows a part: the space before the next one, or a closing brace. -/
inductive Follows : Text → Prop where
  | space (rest : Text) : Follows (' ' :: rest)
  | brace (rest : Text) : Follows ('}' :: rest)

theorem reads_of_read {c : Char} {text : Text} {lexeme : Lexeme}
    (read : ∀ atStart regexAllowed, Lexeme.read atStart regexAllowed c text = lexeme) :
    Reads (c :: text) lexeme.kind lexeme.rest := by
  intro s ahead
  simp [Scanner.next, ahead, read, Scanner.take]

theorem Chunk.template_opening (chunk : Chunk) (closed broken : Kind) (rest : Text) :
    Lexeme.template closed broken (chunk.text ++ '$' :: '{' :: rest) =
      { kind := broken, rest } := by
  rw [Lexeme.template_append chunk.noBacktick chunk.noBackslash chunk.noOpening (by simp)]
  rfl

theorem Chunk.template_closing (chunk : Chunk) (closed broken : Kind) (rest : Text) :
    Lexeme.template closed broken (chunk.text ++ '`' :: rest) = { kind := closed, rest } := by
  rw [Lexeme.template_append chunk.noBacktick chunk.noBackslash chunk.noOpening (by simp),
    Lexeme.template_cons (by decide) (by simp), if_pos rfl]

theorem Chunk.reads_opening (chunk : Chunk) (rest : Text) :
    Reads ('`' :: (chunk.text ++ '$' :: '{' :: rest)) .templateStart rest := by
  have read := fun atStart regexAllowed =>
    Lexeme.read_backtick atStart regexAllowed (chunk.text ++ '$' :: '{' :: rest)
  rw [chunk.template_opening] at read
  exact reads_of_read read

theorem reads_word {letters rest : Text} (inhabited : letters ≠ [])
    (ascii : ∀ c ∈ letters, c.isAlpha = true) (follows : Follows rest) :
    Reads (letters ++ rest) .identifier rest := by
  obtain ⟨c, letters, rfl⟩ := List.exists_cons_of_ne_nil inhabited
  have parts : ∀ d ∈ letters, Text.isIdentifierPart d = true := by
    intro d member
    simp [Text.isIdentifierPart, Text.isIdentifierStart, ascii d (List.mem_cons_of_mem c member)]
  have stops : rest.dropWhile Text.isIdentifierPart = rest := by
    cases follows <;> simp [Text.isIdentifierPart, Text.isIdentifierStart, Text.isAscii]
  have read := fun atStart regexAllowed =>
    Lexeme.read_letter atStart regexAllowed (letters ++ rest) (ascii c List.mem_cons_self)
  rw [List.dropWhile_append_of_pos parts, stops] at read
  exact reads_of_read read

theorem reads_lineBreak {text rest : Text} (listed : text ∈ lineBreaks) (follows : Follows rest) :
    Reads (text ++ rest) .newLine rest := by
  have bare : rest.head? ≠ some '\n' := by cases follows <;> simp
  intro s ahead
  simp only [lineBreaks, List.mem_cons, List.not_mem_nil, or_false] at listed
  rcases listed with rfl | rfl | rfl | rfl | rfl <;>
    simp [Scanner.next, ahead, Lexeme.read, Text.isLineBreak, Scanner.take, bare]

/-- An atom is one token. -/
theorem Atom.reads (a : Atom) {rest : Text} (follows : Follows rest) :
    Reads (a.print ++ rest) a.kind rest := by
  cases a with
  | word letters inhabited ascii => exact reads_word inhabited ascii follows
  | lineBreak text listed => exact reads_lineBreak listed follows
  | quoted quote body isQuote bare =>
    have notEscape : quote ≠ '\\' := by rcases isQuote with rfl | rfl <;> decide
    have read := fun atStart regexAllowed =>
      Lexeme.read_quote atStart regexAllowed (body ++ quote :: rest) isQuote
    rw [Lexeme.string_append notEscape bare] at read
    simpa [Atom.print, Atom.kind] using reads_of_read read
  | comment body bare =>
    have read := fun atStart regexAllowed =>
      Lexeme.read_comment atStart regexAllowed (body ++ '*' :: '/' :: rest)
    rw [Lexeme.blockComment, Lexeme.afterCommentClose_append bare] at read
    simpa [Atom.print, Atom.kind] using reads_of_read read
  | plain chunk =>
    have read := fun atStart regexAllowed =>
      Lexeme.read_backtick atStart regexAllowed (chunk.text ++ '`' :: rest)
    rw [chunk.template_closing] at read
    simpa [Atom.print, Atom.kind] using reads_of_read read

end Weave.Template
