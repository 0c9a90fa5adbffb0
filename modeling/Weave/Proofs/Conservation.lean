import Weave.Proofs.Batches

/-!
No text is lost on its way into the document. The ink of a text is what it holds besides white
space, stars and slashes. Cutting markers off a line, splitting and joining lines and trimming a
body take away or put in nothing else, so the bodies of all segments hold the ink of the source.
-/

namespace Weave

namespace Text

/-- Whether a character is neither white space nor a star or a slash. -/
def isInk (c : Char) : Bool := !(isSpace c || c == '*' || c == '/')

/-- The text without its white space, stars and slashes. -/
def ink (t : Text) : Text := t.filter isInk

@[simp] theorem ink_nil : ink [] = [] := rfl

@[simp] theorem ink_append (s t : Text) : ink (s ++ t) = ink s ++ ink t := List.filter_append s t

theorem ink_cons (c : Char) (t : Text) : ink (c :: t) = if isInk c then c :: ink t else ink t := by
  rw [ink, List.filter_cons]
  rfl

theorem ink_flatten (ts : List Text) : ink ts.flatten = (ts.map ink).flatten :=
  List.filter_flatten ..

theorem ink_reverse (t : Text) : ink t.reverse = (ink t).reverse := List.filter_reverse ..

theorem isInk_of_isSpace {c : Char} (space : isSpace c = true) : isInk c = false := by
  simp [isInk, space]

/-- Dropping characters without ink from the front. -/
theorem ink_dropWhile {p : Char → Bool} (faint : ∀ c, p c = true → isInk c = false) (t : Text) :
    ink (t.dropWhile p) = ink t := by
  induction t with
  | nil => rfl
  | cons c t ih =>
    by_cases dropped : p c = true
    · rw [List.dropWhile_cons_of_pos dropped, ih, ink_cons, faint c dropped]
      rfl
    · rw [List.dropWhile_cons_of_neg dropped]

theorem ink_trimEnd (t : Text) : ink (trimEnd t) = ink t := by
  rw [trimEnd, dropEndWhile, ink_reverse, ink_dropWhile fun _ => isInk_of_isSpace, ink_reverse,
    List.reverse_reverse]

theorem ink_trim (t : Text) : ink (trim t) = ink t := by
  rw [trim, ink_trimEnd, ink_dropWhile fun _ => isInk_of_isSpace]

/-- A line break between texts holds no ink. -/
theorem ink_intercalate (ts : List Text) : ink (['\n'].intercalate ts) = ink ts.flatten := by
  induction ts with
  | nil => rfl
  | cons t ts ih =>
    cases ts with
    | nil => rfl
    | cons u ts =>
      have faint : ink ['\n'] = [] := by decide
      rw [List.intercalate_cons_cons, List.flatten_cons, ink_append, ink_append, ink_append, ih, faint,
        List.append_nil]

end Text

theorem flatten_flatMap {α β : Type} (f : α → List (List β)) (l : List α) :
    (l.flatMap f).flatten = l.flatMap fun x => (f x).flatten := by
  induction l with
  | nil => rfl
  | cons x l ih => rw [List.flatMap_cons, List.flatten_append, ih, List.flatMap_cons]

namespace Comment

open Text

theorem ink_dropSlash (t : Text) : ink (dropSlash t) = ink t := by
  unfold dropSlash
  split
  · have faint : isInk '/' = false := by decide
    rw [ink_cons, faint]
    rfl
  · rfl

theorem ink_dropStars (t : Text) : ink (t.dropWhile (· == '*')) = ink t := by
  refine ink_dropWhile (fun c star => ?_) t
  simp [isInk, star]

theorem ink_afterLeadingMarker {line body : Text} (marked : afterLeadingMarker? line = some body) :
    ink body = ink line := by
  unfold afterLeadingMarker? at marked
  split at marked
  · next rest stars =>
    cases marked
    have behind : ink ('*' :: rest) = ink line := by
      rw [← stars, ink_dropSlash, ink_dropWhile fun _ => isInk_of_isSpace]
    have faint : isInk '*' = false := by decide
    rw [ink_cons, faint] at behind
    rw [ink_dropWhile fun _ => isInk_of_isSpace, ink_dropSlash, ink_dropStars]
    exact behind
  · cases marked

theorem ink_beforeTrailingMarker {line body : Text}
    (marked : beforeTrailingMarker? line = some body) : ink body = ink line := by
  unfold beforeTrailingMarker? at marked
  split at marked
  · next rest closer =>
    cases marked
    have behind : ink ('/' :: '*' :: rest) = (ink line).reverse := by
      rw [← closer, ink_dropWhile fun _ => isInk_of_isSpace, ink_reverse]
    have faint : isInk '/' = false ∧ isInk '*' = false := by decide
    rw [ink_cons, ink_cons, faint.1, faint.2] at behind
    rw [ink_reverse, ink_dropWhile fun _ => isInk_of_isSpace, ink_dropStars]
    exact List.reverse_eq_iff.mpr behind
  · cases marked

theorem ink_stripMarkers (line : Text) : ink (stripMarkers line) = ink line := by
  have leading : ink ((afterLeadingMarker? line).getD line) = ink line := by
    cases marked : afterLeadingMarker? line with
    | none => rfl
    | some body => exact ink_afterLeadingMarker marked
  rw [← leading, stripMarkers]
  cases marked : beforeTrailingMarker? ((afterLeadingMarker? line).getD line) with
  | none => simp
  | some body => simpa using ink_beforeTrailingMarker marked

/-- Lines lose no ink when they are split: only line breaks go. -/
theorem ink_splitLines (t : Text) : ink (splitLines t).flatten = ink t := by
  have faint : isInk '\r' = false ∧ isInk '\n' = false := by decide
  fun_induction splitLines t with
  | case1 => rfl
  | case2 rest ih => simpa [ink_cons, faint] using ih
  | case3 c rest _ lineBreak ih =>
    have blank : isInk c = false := by
      rcases (by simpa using lineBreak : c = '\r' ∨ c = '\n') with rfl | rfl
      · exact faint.1
      · exact faint.2
    simpa [ink_cons, blank] using ih
  | case4 c rest _ _ none => exact absurd none (splitLines_ne_nil rest)
  | case5 c rest _ _ line more lines ih =>
    rw [lines] at ih
    simpa [ink_cons] using congrArg (fun t => if isInk c then c :: t else t) ih

theorem ink_lines (t : Text) : ink (lines t).flatten = ink t := by
  have each : (splitLines t).map (ink ∘ stripMarkers) = (splitLines t).map ink :=
    List.map_congr_left fun line _ => ink_stripMarkers line
  rw [lines, ink_flatten, List.map_map, each, ← ink_flatten, ink_splitLines]

end Comment

open Text

/-- A body holds the ink of the fragments. -/
theorem Segment.ink_body (segment : Segment) :
    ink segment.body = ink segment.fragments.flatten := by
  unfold Segment.body
  split
  · rw [ink_trim, ink_intercalate]
  · rw [ink_trimEnd, ink_dropWhile]
    intro c lineBreak
    rcases (by simpa using lineBreak : c = '\r' ∨ c = '\n') with rfl | rfl <;> decide

theorem Token.ink_fragments (token : Token) : ink token.fragments.flatten = ink token.text := by
  unfold Token.fragments
  split
  · exact Comment.ink_lines token.text
  · simp

/-- The bodies of the segments of tokens hold the ink of the tokens, in order. -/
theorem Segment.ink_batch (tokens : List Token) :
    ink ((Segment.batch tokens).flatMap Segment.body) = ink (Token.texts tokens) := by
  have bodies : (Segment.batch tokens).flatMap (fun segment => ink segment.body) =
      (Segment.batch tokens).flatMap (fun segment => ink segment.fragments.flatten) := by
    simp only [Segment.ink_body]
  have fragments : tokens.flatMap (fun token => ink token.fragments.flatten) =
      tokens.flatMap (fun token => ink token.text) := by
    simp only [Token.ink_fragments]
  calc ink ((Segment.batch tokens).flatMap Segment.body)
      = (Segment.batch tokens).flatMap (fun segment => ink segment.body) := List.filter_flatMap
    _ = (Segment.batch tokens).flatMap (fun segment => ink segment.fragments.flatten) := bodies
    _ = ink ((Segment.batch tokens).flatMap Segment.fragments).flatten := by
      rw [flatten_flatMap, ink, List.filter_flatMap]
      rfl
    _ = ink (tokens.flatMap Token.fragments).flatten := by rw [Segment.fragments_batch]
    _ = tokens.flatMap (fun token => ink token.fragments.flatten) := by
      rw [flatten_flatMap, ink, List.filter_flatMap]
      rfl
    _ = tokens.flatMap (fun token => ink token.text) := fragments
    _ = ink (Token.texts tokens) := List.filter_flatMap.symm

/-- No text is lost, doubled or moved: the bodies of the segments of a source, one after the
other, hold exactly the ink of the source. -/
theorem bodies_conserve_ink {source : Text} {policy : UnterminatedPolicy} {found : Array Segment}
    {diagnostics : Array Diagnostic} (ran : segments source policy = .ok (found, diagnostics)) :
    ink (found.toList.flatMap Segment.body) = ink source := by
  have spelled := (Scanner.placed_ofSource source).laid.spelled
  rw [Scanner.pieces_eq_map, Piece.spell_map_ofTopLevel] at spelled
  rw [segments_of_ok ran, segments_ofPieces_eq_batch, Segment.ink_batch, spelled]
  rfl

/-- A decorated comment with a bullet, and a division. -/
theorem bullet_and_division_conserved :
    ∃ found : Array Segment, segments "/** a\r\n * *b */\n x / y".toList .fail = .ok (found, #[]) ∧
      ink "/** a\r\n * *b */\n x / y".toList = "abxy".toList ∧
      ink (found.toList.flatMap Segment.body) = ink "/** a\r\n * *b */\n x / y".toList := by
  have ran : segments "/** a\r\n * *b */\n x / y".toList .fail =
      .ok (#[⟨.comment, [['a'], ['*', 'b']], ⟨0, 15⟩, 0⟩,
        ⟨.code, [['\n'], [' '], ['x'], [' '], ['/'], [' '], ['y']], ⟨15, 22⟩, 1⟩], #[]) :=
    eq_ok_of_toOption (by decide +kernel)
  exact ⟨_, ran, by decide, bodies_conserve_ink ran⟩

end Weave
