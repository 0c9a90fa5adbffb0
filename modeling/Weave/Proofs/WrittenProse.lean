import Mathlib.Data.List.DropRight
import Mathlib.Data.List.Infix
import Weave.Proofs.InsertedProse
import Weave.Proofs.LineConvention

/-!
Prose that is written as a block comment and read back. A comment can be laid out with a star in
front of every line or with the lines as they are. Neither way of writing is undone by halves:
stripping the markers takes off what the layout put in front of a line and does not bite into the
line itself, so the lines of the comment are the lines that were written.
-/

namespace Weave

namespace Text

/-- White space in front of a text is trimmed. -/
theorem trim_cons {c : Char} (space : isSpace c = true) (t : Text) : trim (c :: t) = trim t := by
  rw [trim, List.dropWhile_cons_of_pos space, trim]

/-- White space behind a text is trimmed. -/
theorem trim_concat {c : Char} (space : isSpace c = true) (t : Text) : trim (t ++ [c]) = trim t := by
  rw [trim, List.dropWhile_append]
  split
  · next blank =>
    rw [List.isEmpty_iff] at blank
    rw [trim, blank, List.dropWhile_cons_of_pos space]
    rfl
  · exact List.rdropWhile_concat_pos _ _ _ space

/-- An empty line before the lines and one behind them are trimmed. -/
theorem trim_intercalate (ls : List Text) :
    trim (['\n'].intercalate ([] :: (ls ++ [[]]))) = trim (['\n'].intercalate ls) := by
  have space : isSpace '\n' = true := by decide
  cases ls with
  | nil => rfl
  | cons l more =>
    rw [← List.cons_append, intercalate_concat (List.cons_ne_nil _ _), trim_concat space,
      List.intercalate_cons_cons, List.nil_append]
    exact trim_cons space _

end Text

namespace Comment

/-- How lines are written as a block comment. -/
inductive Layout where
  /-- A star stands in front of every line. -/
  | starred
  /-- The lines stand as they are. -/
  | bare
  deriving DecidableEq, Repr

namespace Layout

/-- The line that opens the comment. -/
def opening : Layout → Text
  | .starred => "/**".toList
  | .bare => "/*".toList

/-- What stands in front of every line. -/
def lead : Layout → Text
  | .starred => " * ".toList
  | .bare => []

/-- The line that closes the comment. -/
def closing : Layout → Text
  | .starred => " */".toList
  | .bare => "*/".toList

/-- The block comment around the lines. -/
def write (layout : Layout) (ls : List Text) : Text :=
  layout.opening ++ '\n' :: (ls.flatMap fun l => layout.lead ++ l ++ ['\n']) ++ layout.closing

/-- Whether the layout can be told from the line. Behind a star, white space at the front of a line
would be taken for part of the marker; without one, so would a star of the line itself. -/
def Suits : Layout → Text → Prop
  | .starred, l => ∀ c ∈ l.head?, Text.isSpace c = false
  | .bare, l => ¬ ['*'] <+: l.dropWhile Text.isSpace ∧ ¬ ['/', '*'] <+: l.dropWhile Text.isSpace

instance (layout : Layout) (l : Text) : Decidable (layout.Suits l) :=
  match layout with
  | .starred => decidable_of_iff (l.head?.all (!Text.isSpace ·) = true) (by cases l <;> simp [Suits])
  | .bare => inferInstanceAs (Decidable (_ ∧ _))

end Layout

/-- A line that can stand in a comment: it breaks neither the line nor the comment. -/
structure IsLine (l : Text) : Prop where
  unbroken : '\r' ∉ l ∧ '\n' ∉ l
  unclosed : ¬ ['*', '/'] <:+: l

instance (l : Text) : Decidable (IsLine l) :=
  decidable_of_iff (('\r' ∉ l ∧ '\n' ∉ l) ∧ ¬ ['*', '/'] <:+: l)
    ⟨fun ⟨unbroken, unclosed⟩ => ⟨unbroken, unclosed⟩,
      fun ⟨unbroken, unclosed⟩ => ⟨unbroken, unclosed⟩⟩

/-! ### Markers of one line -/

/-- A line without a closer has no trailing marker. -/
theorem beforeTrailingMarker?_eq_none {l : Text} (unclosed : ¬ ['*', '/'] <:+: l) :
    beforeTrailingMarker? l = none := by
  unfold beforeTrailingMarker?
  split
  · next rest marked =>
    have split := List.takeWhile_append_dropWhile (p := Text.isSpace) (l := l.reverse)
    rw [marked, ← List.reverse_inj] at split
    refine absurd ⟨rest.reverse, (l.reverse.takeWhile Text.isSpace).reverse, ?_⟩ unclosed
    simpa using split
  · rfl

/-- A line that begins with neither a star nor a slash and a star has no leading marker. -/
theorem afterLeadingMarker?_eq_none {l : Text} (suits : Layout.bare.Suits l) :
    afterLeadingMarker? l = none := by
  unfold afterLeadingMarker?
  split
  · next rest marked =>
    obtain ⟨noStar, noSlash⟩ := suits
    unfold dropSlash at marked
    split at marked
    · next slashed =>
      rw [slashed, marked] at noSlash
      exact absurd ⟨rest, rfl⟩ noSlash
    · rw [marked] at noStar
      exact absurd ⟨rest, rfl⟩ noStar
  · rfl

/-- The marker of a starred line ends where the line begins. -/
theorem afterLeadingMarker?_starred {l : Text} (suits : Layout.starred.Suits l) :
    afterLeadingMarker? (Layout.starred.lead ++ l) = some l := by
  have front : l.dropWhile Text.isSpace = l := by
    cases l with
    | nil => rfl
    | cons c l => rw [List.dropWhile_cons_of_neg (by simp [suits c rfl])]
  have marked : afterLeadingMarker? (Layout.starred.lead ++ l) =
      some (l.dropWhile Text.isSpace) := rfl
  rw [marked, front]

/-- Stripping the markers of a line takes off what the layout has put in front of it. -/
theorem stripMarkers_lead {layout : Layout} {l : Text} (suits : layout.Suits l)
    (unclosed : ¬ ['*', '/'] <:+: l) : stripMarkers (layout.lead ++ l) = l := by
  have body : (afterLeadingMarker? (layout.lead ++ l)).getD (layout.lead ++ l) = l := by
    cases layout with
    | starred => rw [afterLeadingMarker?_starred suits, Option.getD_some]
    | bare => rw [Layout.lead, List.nil_append, afterLeadingMarker?_eq_none suits, Option.getD_none]
  rw [stripMarkers]
  simp only [body]
  rw [beforeTrailingMarker?_eq_none unclosed, Option.getD_none]

/-! ### The lines of a written comment -/

theorem splitLines_append {l : Text} (unbroken : '\r' ∉ l ∧ '\n' ∉ l) (rest : Text) :
    splitLines (l ++ '\n' :: rest) = l :: splitLines rest := by
  induction l with
  | nil => rfl
  | cons c l ih =>
    simp only [List.mem_cons, not_or] at unbroken
    have inLine : c ≠ '\r' ∧ c ≠ '\n' := ⟨Ne.symm unbroken.1.1, Ne.symm unbroken.2.1⟩
    rw [List.cons_append, splitLines_cons inLine, ih ⟨unbroken.1.2, unbroken.2.2⟩]

/-- A line of the layout with the line in it does not break. -/
theorem Layout.lead_unbroken (layout : Layout) {l : Text} (unbroken : '\r' ∉ l ∧ '\n' ∉ l) :
    '\r' ∉ layout.lead ++ l ∧ '\n' ∉ layout.lead ++ l := by
  cases layout <;> simpa [lead] using unbroken

theorem Layout.splitLines_write (layout : Layout) {ls : List Text}
    (lines : ∀ l ∈ ls, '\r' ∉ l ∧ '\n' ∉ l) :
    splitLines (layout.write ls) =
      layout.opening :: (ls.map (layout.lead ++ ·) ++ [layout.closing]) := by
  have opens : '\r' ∉ layout.opening ∧ '\n' ∉ layout.opening := by cases layout <;> decide
  have closes : splitLines layout.closing = [layout.closing] := by cases layout <;> rfl
  rw [write, List.append_assoc, List.cons_append, splitLines_append opens]
  congr 1
  induction ls with
  | nil => exact closes
  | cons l ls ih =>
    have unbroken := layout.lead_unbroken (lines l List.mem_cons_self)
    rw [List.flatMap_cons, List.append_assoc, List.append_assoc, List.singleton_append,
      splitLines_append unbroken, ih fun k member => lines k (List.mem_cons_of_mem l member)]
    rfl

/-- The lines of a written comment are those that were written, between two empty ones. -/
theorem Layout.lines_write {layout : Layout} {ls : List Text} (isLine : ∀ l ∈ ls, IsLine l)
    (suits : ∀ l ∈ ls, layout.Suits l) : lines (layout.write ls) = [] :: (ls ++ [[]]) := by
  have opens : stripMarkers layout.opening = [] := by cases layout <;> rfl
  have closes : stripMarkers layout.closing = [] := by cases layout <;> rfl
  have between : (ls.map (layout.lead ++ ·)).map stripMarkers = ls := by
    rw [List.map_map]
    refine (List.map_congr_left fun l member => ?_).trans (List.map_id ls)
    exact stripMarkers_lead (suits l member) (isLine l member).unclosed
  rw [lines, layout.splitLines_write fun l member => (isLine l member).unbroken, List.map_cons,
    List.map_append, between, List.map_singleton, opens, closes]

/-! ### A written comment is one token -/

/-- No closer stands across a line break. -/
theorem unclosed_append {a b : Text} (before : ¬ ['*', '/'] <:+: a) (behind : ¬ ['*', '/'] <:+: b) :
    ¬ ['*', '/'] <:+: a ++ '\n' :: b := by
  induction a with
  | nil => simpa [List.infix_cons_iff] using behind
  | cons c a ih =>
    rw [List.infix_cons_iff, not_or] at before
    rw [List.cons_append, List.infix_cons_iff, not_or]
    refine ⟨fun front => ?_, ih before.2⟩
    obtain ⟨rfl, slash⟩ := List.cons_prefix_cons.mp front
    cases a with
    | nil => simp at slash
    | cons d a =>
      obtain ⟨rfl, -⟩ := List.cons_prefix_cons.mp slash
      exact before.1 ⟨a, rfl⟩

/-- What stands between the delimiters of a written comment. -/
def Layout.inside (layout : Layout) (ls : List Text) : Text :=
  layout.opening.drop 2 ++ '\n' :: (ls.flatMap fun l => layout.lead ++ l ++ ['\n']) ++
    layout.closing.dropLast.dropLast

theorem Layout.write_eq_enclose (layout : Layout) (ls : List Text) :
    layout.write ls = enclose (layout.inside ls) := by
  cases layout <;> simp [write, enclose, inside, opening, closing]

theorem Layout.unclosed_inside (layout : Layout) {ls : List Text}
    (unclosed : ∀ l ∈ ls, ¬ ['*', '/'] <:+: l) : ¬ ['*', '/'] <:+: layout.inside ls := by
  have opens : ¬ ['*', '/'] <:+: layout.opening.drop 2 := by cases layout <;> decide
  have closes : ¬ ['*', '/'] <:+: layout.closing.dropLast.dropLast := by cases layout <;> decide
  have led (l : Text) (bare : ¬ ['*', '/'] <:+: l) : ¬ ['*', '/'] <:+: layout.lead ++ l := by
    cases layout with
    | starred => simpa [lead, List.infix_cons_iff] using bare
    | bare => exact bare
  rw [inside, List.append_assoc, List.cons_append]
  refine unclosed_append opens ?_
  induction ls with
  | nil => exact closes
  | cons l ls ih =>
    rw [List.flatMap_cons, List.append_assoc, List.append_assoc, List.singleton_append]
    refine unclosed_append (led l (unclosed l List.mem_cons_self)) ?_
    exact ih fun k member => unclosed k (List.mem_cons_of_mem l member)

end Comment

namespace Scanner

variable {s : Scanner}

/-- A token ahead at top level is the next token, unless it is a template literal. -/
theorem next_current_of_whole? {token : Token} {after : Scanner}
    (found : s.whole? = some (token, after)) (plain : token.kind ≠ .templateStart) :
    s.next.current = token := by
  unfold whole? at found
  split at found
  · cases found
  · split at found
    · cases found
      exact absurd rfl plain
    · cases found
      rfl

/-- Where a written comment is all that is ahead, it is the only token at top level. -/
theorem topLevel_comment {body : Text} (ahead : s.rest = Comment.enclose body)
    (bare : ¬ ['*', '/'] <:+: body) : s.topLevel = [.ofComment s.current.stop body] := by
  rw [← List.append_nil (Comment.enclose body)] at ahead
  obtain ⟨found, ended, -⟩ := whole?_comment ahead bare
  rw [topLevel_eq_cons found, topLevel_eq_nil (whole?_eq_none.mpr ended)]

end Scanner

/-- A source that is one comment converts to the lines of the comment, trimmed, or to nothing if
they are blank. -/
theorem convert_comment {body : Text} (bare : ¬ ['*', '/'] <:+: body)
    (options : ConversionOptions) :
    let prose := Text.trim (['\n'].intercalate (Comment.lines (Comment.enclose body)))
    convert (Comment.enclose body) options =
      .ok
        { document := if prose = [] then [] else prose ++ ['\n']
          blocks := if prose = [] then 0 else 1
          diagnostics := [] } := by
  intro prose
  have tokens : (Scanner.ofSource (Comment.enclose body)).topLevel = [.ofComment 0 body] :=
    Scanner.topLevel_comment rfl bare
  have closed : ∀ p ∈ (Scanner.ofSource (Comment.enclose body)).pieces, p.terminated = true := by
    rw [Scanner.pieces_eq_map, tokens]
    simp [Piece.ofTopLevel, Token.ofComment]
  obtain ⟨found, diagnostics, ran, batch, noted⟩ :=
    segments_succeed (Comment.enclose body) options.unterminated (.inl closed)
  rw [Piece.flatMap_diagnostics _ closed] at noted
  have single : Segment.batch [.ofComment 0 body] =
      [Segment.ofTokens 0 [.ofComment 0 body]] := rfl
  have body_eq : (Segment.ofTokens 0 [.ofComment 0 body]).body = prose := by
    simp [Segment.ofTokens, Segment.body, Token.ofComment, Token.fragments, prose]
  rw [tokens, single] at batch
  rw [convert_eq, ran]
  simp only [Except.map, Document.render, batch, noted, Document.written_cons, body_eq,
    List.isEmpty_iff]
  split
  · rfl
  · have block : Document.block options.fenceLang (Segment.ofTokens 0 [.ofComment 0 body]) =
        prose ++ ['\n'] := by
      rw [← body_eq]
      simp [Document.block, Document.parts, Segment.ofTokens, Token.ofComment]
    simp [Document.written, List.intercalate, block]

/-- Prose that is written as a block comment, in either layout, comes back as it was: whatever text
follows it, the comment is one token, its lines are those that were written, between two empty ones,
and it converts to these lines, trimmed. -/
theorem written_prose_comes_back {layout : Comment.Layout} {ls : List Text}
    (isLine : ∀ l ∈ ls, Comment.IsLine l) (suits : ∀ l ∈ ls, layout.Suits l) :
    (∀ (s : Scanner) (rest : Text), s.rest = layout.write ls ++ rest →
      s.next.current = ⟨.blockComment, s.current.stop, layout.write ls, false⟩ ∧
      s.next.rest = rest) ∧
    Comment.lines (layout.write ls) = [] :: (ls ++ [[]]) ∧
    ∀ options : ConversionOptions,
      let prose := Text.trim (['\n'].intercalate ls)
      convert (layout.write ls) options =
        .ok
          { document := if prose = [] then [] else prose ++ ['\n']
            blocks := if prose = [] then 0 else 1
            diagnostics := [] } := by
  have lines := Comment.Layout.lines_write isLine suits
  have bare := layout.unclosed_inside fun l member => (isLine l member).unclosed
  rw [layout.write_eq_enclose] at lines ⊢
  refine ⟨fun s rest ahead => ?_, lines, fun options => ?_⟩
  · obtain ⟨found, left, -⟩ := Scanner.whole?_comment ahead bare
    exact ⟨Scanner.next_current_of_whole? found nofun, left⟩
  · have converted := convert_comment bare options
    rw [lines, Text.trim_intercalate] at converted
    exact converted

/-- Bullets, stars at the end and an empty line survive behind stars, and indentation, a slash at the
front and a star right before the closing line survive without them. -/
theorem bullets_and_indents_come_back :
    Comment.lines "/**\n * * item **\n * \n * / end \n */".toList =
        ["", "* item **", "", "/ end ", ""].map String.toList ∧
      convert "/**\n * * item **\n * \n * / end \n */".toList {} =
        .ok { document := "* item **\n\n/ end\n".toList, blocks := 1, diagnostics := [] } ∧
      Comment.lines "/*\n  a\n/b*\n*/".toList = ["", "  a", "/b*", ""].map String.toList ∧
      convert "/*\n  a\n/b*\n*/".toList {} =
        .ok { document := "a\n/b*\n".toList, blocks := 1, diagnostics := [] } := by
  have starred : Comment.Layout.starred.write (["* item **", "", "/ end "].map String.toList) =
      "/**\n * * item **\n * \n * / end \n */".toList := by decide +kernel
  have bare : Comment.Layout.bare.write (["  a", "/b*"].map String.toList) =
      "/*\n  a\n/b*\n*/".toList := by decide +kernel
  obtain ⟨-, lines, converted⟩ := @written_prose_comes_back .starred
    (["* item **", "", "/ end "].map String.toList) (by decide +kernel) (by decide +kernel)
  obtain ⟨-, lines', converted'⟩ := @written_prose_comes_back .bare
    (["  a", "/b*"].map String.toList) (by decide +kernel) (by decide +kernel)
  rw [starred] at lines converted
  rw [bare] at lines' converted'
  refine ⟨lines, (converted {}).trans ?_, lines', (converted' {}).trans ?_⟩
  · exact congrArg Except.ok (by decide +kernel)
  · exact congrArg Except.ok (by decide +kernel)

end Weave
