import Weave.Proofs.Batches
import Weave.Proofs.Locality
import Weave.Proofs.Lockstep

/-!
Two ways for the scanners of different sources to have the same tokens. Up to a line break, it makes
no difference what follows the break; and from any place on, it makes no difference how far on in its
source a scanner stands, as long as the text ahead is the same.
-/

namespace Weave

namespace Text

/-- What stands before a tail does not depend on what follows the tail. -/
theorem upTo_append_append (whole rest tail : Text) :
    upTo (whole ++ tail) (rest ++ tail) = upTo whole rest := by
  have length_eq : (whole ++ tail).length - (rest ++ tail).length = whole.length - rest.length := by
    rw [List.length_append, List.length_append]
    omega
  rw [upTo, upTo, length_eq, List.take_append_of_le_length (Nat.sub_le _ _)]

end Text

namespace Scanner

variable {s s' : Scanner} {front front' : Text}

/-- The tokens at top level spell what is ahead. -/
theorem Placed.texts_topLevel (placed : s.Placed front) : Token.texts s.topLevel = s.rest := by
  have spelled := placed.laid.spelled
  rwa [pieces_eq_map, Piece.spell_map_ofTopLevel] at spelled

/-! ### The same up to a line break -/

/-- Scanners in the same state, whose texts ahead are the same up to the character `b`. -/
structure SameUpTo (b : Char) (tail tail' : Text) (s s' : Scanner) : Prop where
  current_eq : s'.current = s.current
  regexAllowed_eq : s'.regexAllowed = s.regexAllowed
  ahead : ∃ kept, s.rest = kept ++ b :: tail ∧ s'.rest = kept ++ b :: tail'

section

variable {b : Char} {tail tail' : Text}

theorem SameUpTo.take (same : SameUpTo b tail tail' s s') (start : Nat) (taken : Text)
    {l : Lexeme} {kept : Text} (stops : l.rest = kept ++ b :: tail) :
    SameUpTo b tail tail' (s.take start (taken ++ b :: tail) l)
      (s'.take start (taken ++ b :: tail') { l with rest := kept ++ b :: tail' }) := by
  have text_eq : (taken ++ b :: tail).upTo l.rest =
      (taken ++ b :: tail').upTo (kept ++ b :: tail') := by
    rw [stops, Text.upTo_append_append, Text.upTo_append_append]
  refine ⟨?_, ?_, kept, stops, rfl⟩
  · simp only [Scanner.take, text_eq]
  · simp only [Scanner.take, text_eq, same.regexAllowed_eq]

/-- No step that stops before a line break can tell what follows the break. -/
theorem inStep_sameUpTo (isBreak : Text.isLineBreak b = true) (tail tail' : Text) :
    InStep (SameUpTo b tail tail') fun s => b :: tail <:+ s.rest where
  next := by
    intro s s' same before
    obtain ⟨kept, rest_eq, rest_eq'⟩ := same.ahead
    cases kept with
    | nil =>
      -- The step would have to stop before its first character.
      have passes : s.next.rest <:+ tail := by
        simp only [Scanner.next, rest_eq, List.nil_append]
        exact Lexeme.read_suffix _ _ b tail
      exact absurd (before.trans passes).length_le (by simp)
    | cons c kept =>
      have stepped : s.next = s.take s.current.stop (c :: kept ++ b :: tail)
          (Lexeme.read (s.current.stop == 0) s.regexAllowed c (kept ++ b :: tail)) :=
        next_eq_take rest_eq
      obtain ⟨left, stops⟩ := before
      rw [stepped] at stops
      have read_eq := Lexeme.read_local isBreak (s.current.stop == 0) s.regexAllowed c kept
        tail tail' left stops.symm
      have stepped' : s'.next = s'.take s'.current.stop (c :: kept ++ b :: tail')
          (Lexeme.read (s'.current.stop == 0) s'.regexAllowed c (kept ++ b :: tail')) :=
        next_eq_take rest_eq'
      rw [same.current_eq, same.regexAllowed_eq, read_eq] at stepped'
      have taken := same.take s.current.stop (c :: kept) stops.symm
      rw [← stepped, ← stepped'] at taken
      exact ⟨taken, by rw [taken.current_eq], by rw [taken.current_eq]⟩
  rescan := by
    intro s s' same closes closes' before
    obtain ⟨kept, rest_eq, rest_eq'⟩ := same.ahead
    have stepped : s.rescan = s.take s.current.start (s.current.text ++ kept ++ b :: tail)
        (Lexeme.template .templateEnd .templateContinuation (kept ++ b :: tail)) := by
      rw [rescan_eq_take closes, rest_eq, List.append_assoc]
    obtain ⟨left, stops⟩ := before
    rw [stepped] at stops
    have read_eq := Lexeme.template_local isBreak .templateEnd .templateContinuation kept
      tail tail' left stops.symm
    have stepped' : s'.rescan = s'.take s.current.start (s.current.text ++ kept ++ b :: tail')
        { Lexeme.template .templateEnd .templateContinuation (kept ++ b :: tail) with
          rest := left ++ b :: tail' } := by
      rw [rescan_eq_take closes', rest_eq', List.append_assoc, same.current_eq, ← read_eq]
    have taken := same.take s.current.start (s.current.text ++ kept) stops.symm
    rw [← stepped, ← stepped'] at taken
    exact ⟨taken, by rw [taken.current_eq], by rw [taken.current_eq]⟩
  before_next := fun before => before.trans (next_rest_suffix _)
  before_rescan := fun before => before.trans (rescan_rest_suffix _)

/-- A token at top level that ends before the line break is the same in both sources. -/
theorem SameUpTo.whole? (same : SameUpTo b tail tail' s s') (isBreak : Text.isLineBreak b = true)
    (placed : s.Placed front) (placed' : s'.Placed front') {token : Token} {after : Scanner}
    (ahead : s.whole? = some (token, after)) (before : b :: tail <:+ after.rest) :
    ∃ after', s'.whole? = some (token, after') ∧ SameUpTo b tail tail' after after' := by
  obtain ⟨token', after', ahead', alike, later⟩ :=
    (inStep_sameUpTo isBreak tail tail').whole? same ahead before
  obtain ⟨starts, split, -, -⟩ := whole?_spec placed ahead
  obtain ⟨starts', split', -, -⟩ := whole?_spec placed' ahead'
  obtain ⟨kept, rest_eq, rest_eq'⟩ := same.ahead
  obtain ⟨left, left_eq, left_eq'⟩ := later.ahead
  rw [rest_eq, left_eq, ← List.append_assoc] at split
  rw [rest_eq', left_eq', ← List.append_assoc] at split'
  have text_eq : token'.text = token.text :=
    List.append_cancel_right
      ((List.append_cancel_right split').trans (List.append_cancel_right split).symm)
  have start_eq : token'.start = token.start := by rw [starts', starts, same.current_eq]
  obtain rfl : token' = token := alike.eq start_eq text_eq
  exact ⟨after', ahead', later⟩

/-- Both sources have the same tokens at top level up to the line break. -/
theorem SameUpTo.topLevel {before ts : List Token} (isBreak : Text.isLineBreak b = true)
    (same : SameUpTo b tail tail' s s') (placed : s.Placed front) (placed' : s'.Placed front')
    (scanned : s.topLevel = before ++ ts) (later : b :: tail <:+ Token.texts ts) :
    ∃ mid mid', SameUpTo b tail tail' mid mid' ∧ mid.topLevel = ts ∧
      s'.topLevel = before ++ mid'.topLevel ∧ (∃ behind, mid.Placed behind) ∧
      ∃ behind, mid'.Placed behind := by
  induction before generalizing s s' front front' with
  | nil => exact ⟨s, s', same, scanned, rfl, ⟨front, placed⟩, ⟨front', placed'⟩⟩
  | cons token before ih =>
    obtain ⟨after, ahead, scanned⟩ := whole?_of_topLevel scanned
    obtain ⟨-, -, -, behind, standing⟩ := whole?_spec placed ahead
    have reaches : b :: tail <:+ after.rest := by
      rw [← standing.texts_topLevel, scanned]
      exact later.trans ⟨Token.texts before, (Token.texts_append before ts).symm⟩
    obtain ⟨after', ahead', same⟩ := same.whole? isBreak placed placed' ahead reaches
    obtain ⟨-, -, -, behind', standing'⟩ := whole?_spec placed' ahead'
    obtain ⟨mid, mid', same, rest, rest', placements⟩ := ih same standing standing' scanned
    exact ⟨mid, mid', same, rest, by rw [topLevel_eq_cons ahead', rest', List.cons_append],
      placements⟩

end

/-! ### Further on in the source -/

/-- A step moves the end of the current token as far as it shortens the text ahead. -/
theorem next_stop_add_rest (s : Scanner) :
    s.next.current.stop + s.next.rest.size = s.current.stop + s.rest.size := by
  have split := congrArg Text.size s.next_text_append
  rw [Text.size_append] at split
  rw [Token.stop, next_start]
  omega

theorem rescan_stop_add_rest (s : Scanner) :
    s.rescan.current.stop + s.rescan.rest.size = s.current.stop + s.rest.size := by
  have split := congrArg Text.size s.rescan_text_append
  rw [Text.size_append, Text.size_append] at split
  rw [Token.stop, Token.stop, rescan_start]
  omega

/-- Scanners with the same text ahead, of which the second stands `n` bytes further on. -/
structure Shifted (n : Nat) (s s' : Scanner) : Prop where
  rest_eq : s'.rest = s.rest
  regexAllowed_eq : s'.regexAllowed = s.regexAllowed
  stop_eq : s'.current.stop = s.current.stop + n
  /-- The first is not at a shebang, which is read at the start of a source only. -/
  noShebang : s.current.stop = 0 → ¬ ['#', '!'] <+: s.rest

theorem Shifted.read_eq {n : Nat} (shifted : Shifted n s s') {c : Char} {rest : Text}
    (ahead : s.rest = c :: rest) (regexAllowed : Bool) :
    Lexeme.read (s'.current.stop == 0) regexAllowed c rest =
      Lexeme.read (s.current.stop == 0) regexAllowed c rest := by
  by_cases start : s.current.stop = 0
  · have plain := shifted.noShebang start
    rw [ahead] at plain
    exact (Lexeme.read_of_noShebang plain).trans (Lexeme.read_of_noShebang plain).symm
  · have start' : s'.current.stop ≠ 0 := by
      rw [shifted.stop_eq]
      omega
    rw [beq_eq_false_iff_ne.mpr start, beq_eq_false_iff_ne.mpr start']

/-- A scanner that moves on by a step is at a shebang only if it was, at the start of its source. -/
theorem noShebang_of_rest {t : Scanner} (noShebang : s.current.stop = 0 → ¬ ['#', '!'] <+: s.rest)
    (sizes : t.current.stop + t.rest.size = s.current.stop + s.rest.size)
    (tail : t.rest <:+ s.rest) : t.current.stop = 0 → ¬ ['#', '!'] <+: t.rest := by
  intro start
  obtain ⟨gone, split⟩ := tail
  rw [start, ← split, Text.size_append] at sizes
  obtain rfl : gone = [] := Text.size_eq_zero.mp (by omega)
  rw [List.nil_append] at split
  rw [split]
  exact noShebang (by rw [split] at sizes; omega)

/-- How far on a scanner stands makes no difference to what it reads. -/
theorem inStep_shifted (n : Nat) : InStep (Shifted n) fun _ => True where
  next := by
    intro s s' shifted _
    have later := noShebang_of_rest shifted.noShebang s.next_stop_add_rest s.next_rest_suffix
    cases rest_eq : s.rest with
    | nil =>
      rw [next_of_rest_eq_nil rest_eq] at later ⊢
      rw [next_of_rest_eq_nil (shifted.rest_eq.trans rest_eq)]
      exact ⟨⟨shifted.rest_eq, shifted.regexAllowed_eq, shifted.stop_eq, later⟩, rfl, rfl⟩
    | cons c rest =>
      have stepped := next_eq_take rest_eq
      have stepped' := next_eq_take (shifted.rest_eq.trans rest_eq)
      rw [shifted.regexAllowed_eq, shifted.read_eq rest_eq] at stepped'
      have same : s'.next.rest = s.next.rest := by
        rw [stepped, stepped']
        rfl
      have sizes := s.next_stop_add_rest
      have sizes' := s'.next_stop_add_rest
      rw [same, shifted.rest_eq, shifted.stop_eq] at sizes'
      refine ⟨⟨same, ?_, by omega, later⟩, ?_, ?_⟩
      · rw [stepped, stepped', take, take, shifted.regexAllowed_eq]
      · rw [stepped, stepped']
        rfl
      · rw [stepped, stepped']
        rfl
  rescan := by
    intro s s' shifted closes closes' _
    have later := noShebang_of_rest shifted.noShebang s.rescan_stop_add_rest s.rescan_rest_suffix
    have stepped := rescan_eq_take closes
    have stepped' := rescan_eq_take closes'
    rw [shifted.rest_eq] at stepped'
    have same : s'.rescan.rest = s.rescan.rest := by
      rw [stepped, stepped']
      rfl
    have sizes := s.rescan_stop_add_rest
    have sizes' := s'.rescan_stop_add_rest
    rw [same, shifted.rest_eq, shifted.stop_eq] at sizes'
    refine ⟨⟨same, ?_, by omega, later⟩, ?_, ?_⟩
    · rw [rescan_regexAllowed closes, rescan_regexAllowed closes', stepped, stepped']
      rfl
    · rw [stepped, stepped']
      rfl
    · rw [stepped, stepped']
      rfl
  before_next := fun _ => trivial
  before_rescan := fun _ => trivial

end Scanner

/-- The token `n` bytes further on. -/
def Token.shift (n : Nat) (token : Token) : Token := { token with start := token.start + n }

namespace Scanner

variable {s s' : Scanner} {front front' : Text}

theorem Shifted.topLevel {n : Nat} (shifted : Shifted n s s') (placed : s.Placed front)
    (placed' : s'.Placed front') : s'.topLevel = s.topLevel.map (Token.shift n) := by
  fun_induction Scanner.topLevel s generalizing s' front front' with
  | case1 s ended =>
    have ended' : s'.whole? = none := by
      rw [whole?_eq_none] at ended ⊢
      exact shifted.rest_eq.trans ended
    rw [topLevel_eq_nil ended', List.map_nil]
  | case2 s token after ahead ih =>
    obtain ⟨token', after', ahead', alike, later⟩ :=
      (inStep_shifted n).whole? shifted ahead trivial
    obtain ⟨starts, split, -, behind, standing⟩ := whole?_spec placed ahead
    obtain ⟨starts', split', -, behind', standing'⟩ := whole?_spec placed' ahead'
    rw [shifted.rest_eq, later.rest_eq, ← split] at split'
    have moved : (token.shift n).Alike token' := ⟨alike.kind_eq, alike.unterminated_eq⟩
    have token_eq : token' = token.shift n := by
      refine moved.eq ?_ (List.append_cancel_right split')
      rw [starts', shifted.stop_eq, ← starts]
      rfl
    rw [topLevel_eq_cons ahead', List.map_cons, token_eq, ih later standing standing']

end Scanner

end Weave
