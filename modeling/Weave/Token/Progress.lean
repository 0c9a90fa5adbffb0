import Weave.Token.Lexeme

/-!
Every reader leaves a tail of the text it was given. The main statement is `read_suffix`: what
is left behind a token is a tail of what stood behind its first character, so each token takes
at least one character.
-/

namespace Weave.Lexeme

theorem afterCommentClose_suffix {text rest : Text} (closed : afterCommentClose text = some rest) :
    rest <:+ text := by
  fun_induction afterCommentClose text with
  | case1 => simp at closed
  | case2 tail =>
    obtain rfl := Option.some.inj closed
    exact ⟨['*', '/'], rfl⟩
  | case3 c tail _ ih => exact (ih closed).trans (List.suffix_cons c tail)

theorem string_suffix (quote : Char) (text : Text) : (string quote text).rest <:+ text := by
  fun_induction string quote text with
  | case1 => exact List.suffix_rfl
  | case2 tail ih => exact ih.trans ⟨['\\', '\r', '\n'], rfl⟩
  | case3 c tail _ ih => exact ih.trans ⟨['\\', c], rfl⟩
  | case4 => exact List.suffix_cons _ _
  | case5 => exact List.suffix_rfl
  | case6 c tail _ _ _ _ ih => exact ih.trans (List.suffix_cons c tail)

theorem template_suffix (closed broken : Kind) (text : Text) :
    (template closed broken text).rest <:+ text := by
  fun_induction template closed broken text with
  | case1 => exact List.suffix_rfl
  | case2 tail ih => exact ih.trans ⟨['\\', '\r', '\n'], rfl⟩
  | case3 c tail _ ih => exact ih.trans ⟨['\\', c], rfl⟩
  | case4 tail => exact ⟨['$', '{'], rfl⟩
  | case5 => exact List.suffix_cons _ _
  | case6 c tail _ _ _ _ ih => exact ih.trans (List.suffix_cons c tail)

theorem afterNumber_suffix (radix : Bool) (before : Char) (dotted : Bool) (text : Text) :
    afterNumber radix before dotted text <:+ text := by
  fun_induction afterNumber radix before dotted text with
  | case1 => exact List.suffix_rfl
  | case2 => exact List.suffix_rfl
  | case3 _ _ tail _ ih => exact ih.trans (List.suffix_cons _ tail)
  | case4 _ _ c tail _ _ ih => exact ih.trans (List.suffix_cons c tail)
  | case5 => exact List.suffix_rfl

theorem afterRegexClose_suffix {bracketed : Bool} {text rest : Text}
    (closed : afterRegexClose bracketed text = some rest) : rest <:+ text := by
  fun_induction afterRegexClose bracketed text with
  | case1 => simp at closed
  | case2 => simp at closed
  | case3 _ c tail _ ih => exact (ih closed).trans ⟨['\\', c], rfl⟩
  | case4 => simp at closed
  | case5 _ tail _ _ ih => exact (ih closed).trans (List.suffix_cons _ tail)
  | case6 _ tail _ _ _ ih => exact (ih closed).trans (List.suffix_cons _ tail)
  | case7 _ c tail =>
    obtain rfl := Option.some.inj closed
    exact List.suffix_cons _ _
  | case8 _ c tail _ _ _ _ _ ih => exact (ih closed).trans (List.suffix_cons c tail)

theorem drop_suffix_tail (c : Char) (text : Text) {n : Nat} (positive : 0 < n) :
    (c :: text).drop n <:+ text := by
  obtain ⟨m, rfl⟩ := Nat.exists_eq_succ_of_ne_zero (Nat.ne_of_gt positive)
  exact List.drop_suffix m text

theorem punctuators_ne_nil {mark : Text} (listed : mark ∈ punctuators) : 0 < mark.length := by
  revert mark
  decide

theorem afterPunctuator_suffix (c : Char) (text : Text) : afterPunctuator (c :: text) <:+ text := by
  unfold afterPunctuator
  split
  · next mark found =>
    exact drop_suffix_tail c text (punctuators_ne_nil (List.mem_of_find?_eq_some found))
  · exact drop_suffix_tail c text Nat.one_pos

theorem slash_suffix (regexAllowed : Bool) (text : Text) :
    (slash regexAllowed text).rest <:+ text := by
  unfold slash
  split
  · next flags closed =>
    split at closed
    · exact (List.dropWhile_suffix _).trans (afterRegexClose_suffix closed)
    · simp at closed
  · exact afterPunctuator_suffix '/' text

theorem blockComment_suffix (text : Text) : (blockComment text).rest <:+ text := by
  unfold blockComment
  split
  · next rest closed => exact afterCommentClose_suffix closed
  · exact List.nil_suffix

/-- What is left behind a token is a tail of what stood behind its first character. -/
theorem read_suffix (atStart regexAllowed : Bool) (c : Char) (text : Text) :
    (read atStart regexAllowed c text).rest <:+ text := by
  fun_cases read atStart regexAllowed c text with
  | case1 =>
    dsimp only
    split
    · exact List.tail_suffix text
    · exact List.suffix_rfl
  | case2 => exact List.suffix_rfl
  | case3 => exact List.dropWhile_suffix _
  | case4 => exact (List.dropWhile_suffix _).trans (List.suffix_cons _ _)
  | case5 => exact (blockComment_suffix _).trans (List.suffix_cons _ _)
  | case6 => exact slash_suffix regexAllowed text
  | case7 => exact template_suffix _ _ text
  | case8 => exact string_suffix c text
  | case9 => exact List.suffix_rfl
  | case10 => exact List.suffix_rfl
  | case11 => exact afterNumber_suffix _ _ _ text
  | case12 => exact List.dropWhile_suffix _
  | case13 => exact List.dropWhile_suffix _
  | case14 => exact afterPunctuator_suffix c text
  | case15 => exact List.suffix_rfl

end Weave.Lexeme
