import Mathlib.Computability.Language
import Weave.Proofs.Stretches

/-!
What is taken off a comment. The marker in front of a line and the one behind it are languages of
texts, and a line loses the longest text of the first in front and then the longest of the second
behind. A comment is cut into lines at each of its line breaks, and with the breaks between them
they make up the comment again.
-/

namespace Weave.Comment

/-! ### Markers as languages -/

/-- White space, or nothing. -/
def spaces : Language Char := { t | ∀ c ∈ t, Text.isSpace c = true }

/-- One or more stars. -/
def stars : Language Char := { t | ∃ n, t = List.replicate (n + 1) '*' }

/-- A slash, or nothing. -/
def slashes : Language Char := 1 + {['/']}

/-- Markers in front of a line. -/
def leadingMarkers : Language Char := spaces * (slashes * (stars * (slashes * spaces)))

/-- Markers behind a line. -/
def trailingMarkers : Language Char := spaces * (stars * ({['/']} * spaces))

/-- The longest text of a language among those that `Fits` admits, or nothing if none of them is in
the language. -/
structure Longest (language : Language Char) (Fits : Text → Prop) (part : Text) : Prop where
  fits : Fits part
  listed : part ∈ language ∨ part = [] ∧ ∀ other, Fits other → other ∉ language
  longest : ∀ other, Fits other → other ∈ language → other.length ≤ part.length

/-- A cut that takes off a text of a language whenever there is one, and leaves no more than any
such text would, takes off the longest. -/
theorem longest_of_cut (language : Language Char) (Splits : Text → Text → Prop) {whole : Text}
    (left : Option Text)
    (length_eq : ∀ {part rest}, Splits part rest → part.length + rest.length = whole.length)
    (nothing : Splits [] whole)
    (sound : ∀ rest, left = some rest → ∃ part ∈ language, Splits part rest)
    (complete : ∀ part rest, part ∈ language → Splits part rest →
      ∃ least, left = some least ∧ least.length ≤ rest.length) :
    ∃ part, Splits part (left.getD whole) ∧
      Longest language (fun part => ∃ rest, Splits part rest) part := by
  cases cut : left with
  | none =>
    have absent : ∀ other, (∃ rest, Splits other rest) → other ∉ language := by
      rintro other ⟨rest, splits⟩ listed
      obtain ⟨least, found, -⟩ := complete other rest listed splits
      cases cut.symm.trans found
    exact ⟨[], nothing, ⟨whole, nothing⟩, .inr ⟨rfl, absent⟩, fun other fits listed =>
      absurd listed (absent other fits)⟩
  | some rest =>
    obtain ⟨part, listed, splits⟩ := sound rest cut
    refine ⟨part, splits, ⟨rest, splits⟩, .inl listed, ?_⟩
    rintro other ⟨behind, fits⟩ among
    obtain ⟨least, found, shorter⟩ := complete other behind among fits
    obtain rfl := Option.some.inj (cut.symm.trans found)
    have here := length_eq splits
    have there := length_eq fits
    omega

/-! ### Parts of markers -/

theorem takeSpaces_append (text : Text) :
    ∃ gap ∈ spaces, gap ++ text.dropWhile Text.isSpace = text :=
  ⟨text.takeWhile Text.isSpace, List.all_eq_true.mp List.all_takeWhile,
    List.takeWhile_append_dropWhile⟩

theorem takeSlash_append (text : Text) : ∃ slash ∈ slashes, slash ++ dropSlash text = text := by
  unfold dropSlash
  split
  · exact ⟨['/'], .inr rfl, rfl⟩
  · exact ⟨[], .inl rfl, rfl⟩

theorem takeStars_append (text : Text) :
    ∃ run ∈ stars, run ++ text.dropWhile (· == '*') = '*' :: text := by
  have all : ∀ c ∈ text.takeWhile (· == '*'), c = '*' := fun c taken =>
    beq_iff_eq.mp (List.all_eq_true.mp List.all_takeWhile c taken)
  refine ⟨'*' :: text.takeWhile (· == '*'), ⟨_, congrArg _ (List.eq_replicate_of_mem all)⟩, ?_⟩
  rw [List.cons_append, List.takeWhile_append_dropWhile]

theorem dropSpaces_append {gap : Text} (blank : gap ∈ spaces) (text : Text) :
    (gap ++ text).dropWhile Text.isSpace = text.dropWhile Text.isSpace :=
  List.dropWhile_append_of_pos blank

theorem dropStars_append (n : Nat) (text : Text) :
    (List.replicate n '*' ++ text).dropWhile (· == '*') = text.dropWhile (· == '*') :=
  List.dropWhile_append_of_pos fun _ starry => beq_iff_eq.mpr (List.eq_of_mem_replicate starry)

theorem dropSlash_suffix (text : Text) : dropSlash text <:+ text := by
  obtain ⟨slash, -, whole⟩ := takeSlash_append text
  exact ⟨slash, whole⟩

/-- A gap at the front is nothing, or begins with a character that belongs to no marker. -/
theorem eq_nil_or_cons_of_spaces {gap : Text} (blank : gap ∈ spaces) :
    gap = [] ∨ ∃ c more, gap = c :: more ∧ c ≠ '*' ∧ c ≠ '/' := by
  cases gap with
  | nil => exact .inl rfl
  | cons c more =>
    have space : Text.isSpace c = true := blank c List.mem_cons_self
    refine .inr ⟨c, more, rfl, ?_, ?_⟩
    · rintro rfl
      cases space
    · rintro rfl
      cases space

/-! ### The marker in front -/

theorem afterLeadingMarker?_sound {line rest : Text}
    (marked : afterLeadingMarker? line = some rest) :
    ∃ marker ∈ leadingMarkers, marker ++ rest = line := by
  unfold afterLeadingMarker? at marked
  split at marked
  · next behind starred =>
    obtain rfl := Option.some.inj marked
    obtain ⟨indent, blank, line_eq⟩ := takeSpaces_append line
    obtain ⟨opening, opens, opening_eq⟩ := takeSlash_append (line.dropWhile Text.isSpace)
    obtain ⟨run, starry, run_eq⟩ := takeStars_append behind
    obtain ⟨closing, closes, closing_eq⟩ := takeSlash_append (behind.dropWhile (· == '*'))
    obtain ⟨gap, clear, gap_eq⟩ := takeSpaces_append (dropSlash (behind.dropWhile (· == '*')))
    refine ⟨indent ++ (opening ++ (run ++ (closing ++ gap))), ?_, ?_⟩
    · exact Language.append_mem_mul blank <| Language.append_mem_mul opens <|
        Language.append_mem_mul starry <| Language.append_mem_mul closes clear
    · simp only [List.append_assoc, gap_eq, closing_eq, run_eq, ← starred, opening_eq, line_eq]
  · cases marked

/-- Behind the stars no more is left than any marker with these stars would leave. -/
theorem leading_tail_suffix {closing gap : Text} (closes : closing ∈ slashes) (clear : gap ∈ spaces)
    (tail : Text) :
    (dropSlash ((closing ++ (gap ++ tail)).dropWhile (· == '*'))).dropWhile Text.isSpace <:+
      tail := by
  have gone : (gap ++ tail).dropWhile Text.isSpace <:+ tail := by
    rw [dropSpaces_append clear]
    exact List.dropWhile_suffix _
  rcases closes with rfl | rfl
  · rcases eq_nil_or_cons_of_spaces clear with rfl | ⟨c, more, rfl, notStar, notSlash⟩
    · exact (List.dropWhile_suffix _).trans ((dropSlash_suffix _).trans (List.dropWhile_suffix _))
    · have kept : ([] ++ (c :: more ++ tail)).dropWhile (· == '*') = c :: more ++ tail :=
        List.dropWhile_cons_of_neg (by simpa using notStar)
      have unslashed : dropSlash (c :: more ++ tail) = c :: more ++ tail := by
        unfold dropSlash
        split
        · next slashed => exact absurd (List.cons.inj slashed).1 notSlash
        · rfl
      rw [kept, unslashed]
      exact gone
  · exact gone

theorem dropSpaces_starred {opening : Text} (opens : opening ∈ slashes) (n : Nat) (text : Text) :
    dropSlash ((opening ++ (List.replicate (n + 1) '*' ++ text)).dropWhile Text.isSpace) =
      '*' :: (List.replicate n '*' ++ text) := by
  rcases opens with rfl | rfl <;> rfl

theorem afterLeadingMarker?_complete {marker : Text} (listed : marker ∈ leadingMarkers)
    (tail : Text) :
    ∃ rest, afterLeadingMarker? (marker ++ tail) = some rest ∧ rest <:+ tail := by
  obtain ⟨indent, blank, _, ⟨opening, opens, _, ⟨_, ⟨n, rfl⟩, _,
    ⟨closing, closes, gap, clear, rfl⟩, rfl⟩, rfl⟩, rfl⟩ := listed
  refine ⟨_, ?_, leading_tail_suffix closes clear tail⟩
  simp only [List.append_assoc]
  unfold afterLeadingMarker?
  rw [dropSpaces_append blank, dropSpaces_starred opens]
  simp only [dropStars_append]

/-! ### The marker behind -/

theorem reverse_mem_spaces {gap : Text} (blank : gap ∈ spaces) : gap.reverse ∈ spaces :=
  fun c member => blank c (List.mem_reverse.mp member)

theorem beforeTrailingMarker?_sound {line rest : Text}
    (marked : beforeTrailingMarker? line = some rest) :
    ∃ marker ∈ trailingMarkers, rest ++ marker = line := by
  unfold beforeTrailingMarker? at marked
  split at marked
  · next behind closed =>
    obtain rfl := Option.some.inj marked
    obtain ⟨space, blank, line_eq⟩ := takeSpaces_append line.reverse
    obtain ⟨_, ⟨n, rfl⟩, run_eq⟩ := takeStars_append behind
    obtain ⟨gap, clear, gap_eq⟩ := takeSpaces_append (behind.dropWhile (· == '*'))
    refine ⟨gap.reverse ++ (List.replicate (n + 1) '*' ++ (['/'] ++ space.reverse)), ?_, ?_⟩
    · exact Language.append_mem_mul (reverse_mem_spaces clear) <|
        Language.append_mem_mul ⟨n, rfl⟩ <|
          Language.append_mem_mul rfl (reverse_mem_spaces blank)
    · rw [closed, ← run_eq, ← gap_eq] at line_eq
      rw [← List.reverse_reverse line, ← line_eq]
      simp
  · cases marked

/-- Before the stars no more is left than any marker with these stars would leave. -/
theorem trailing_tail_suffix {gap : Text} (clear : gap ∈ spaces) (tail : Text) :
    ((gap ++ tail).dropWhile (· == '*')).dropWhile Text.isSpace <:+ tail := by
  rcases eq_nil_or_cons_of_spaces clear with rfl | ⟨c, more, rfl, notStar, -⟩
  · exact (List.dropWhile_suffix _).trans (List.dropWhile_suffix _)
  · have kept : (c :: more ++ tail).dropWhile (· == '*') = c :: more ++ tail :=
      List.dropWhile_cons_of_neg (by simpa using notStar)
    rw [kept, dropSpaces_append clear]
    exact List.dropWhile_suffix _

theorem beforeTrailingMarker?_complete {marker : Text} (listed : marker ∈ trailingMarkers)
    (front : Text) :
    ∃ rest, beforeTrailingMarker? (front ++ marker) = some rest ∧ rest <+: front := by
  obtain ⟨gap, clear, _, ⟨_, ⟨n, rfl⟩, _, ⟨_, rfl, space, blank, rfl⟩, rfl⟩, rfl⟩ := listed
  have shorter := trailing_tail_suffix (reverse_mem_spaces clear) front.reverse
  rw [← List.reverse_reverse (List.dropWhile _ _), List.reverse_suffix] at shorter
  refine ⟨_, ?_, shorter⟩
  have reversed : (front ++ (gap ++ (List.replicate (n + 1) '*' ++ (['/'] ++ space)))).reverse =
      space.reverse ++ '/' :: (List.replicate (n + 1) '*' ++ (gap.reverse ++ front.reverse)) := by
    simp
  have back : (space.reverse ++ '/' :: (List.replicate (n + 1) '*' ++
      (gap.reverse ++ front.reverse))).dropWhile Text.isSpace =
      '/' :: '*' :: (List.replicate n '*' ++ (gap.reverse ++ front.reverse)) := by
    rw [dropSpaces_append (reverse_mem_spaces blank)]
    rfl
  unfold beforeTrailingMarker?
  rw [reversed, back]
  simp only [dropStars_append]

/-- A line loses the longest marker in front, and what is left loses the longest marker behind. -/
theorem stripMarkers_longest (line : Text) :
    ∃ front back, front ++ (stripMarkers line ++ back) = line ∧
      Longest leadingMarkers (· <+: line) front ∧
      Longest trailingMarkers (· <:+ stripMarkers line ++ back) back := by
  obtain ⟨front, front_eq, leading⟩ :=
    longest_of_cut leadingMarkers (fun part rest => part ++ rest = line) (afterLeadingMarker? line)
      (fun whole => by rw [← whole, List.length_append]) rfl
      (fun rest marked => afterLeadingMarker?_sound marked)
      (fun part rest listed whole => by
        obtain ⟨least, marked, suffix⟩ := afterLeadingMarker?_complete listed rest
        exact ⟨least, whole ▸ marked, suffix.length_le⟩)
  obtain ⟨back, back_eq, trailing⟩ :=
    longest_of_cut trailingMarkers
      (fun part rest => rest ++ part = (afterLeadingMarker? line).getD line)
      (beforeTrailingMarker? ((afterLeadingMarker? line).getD line))
      (fun whole => by rw [← whole, List.length_append, Nat.add_comm]) (List.append_nil _)
      (fun rest marked => beforeTrailingMarker?_sound marked)
      (fun part rest listed whole => by
        obtain ⟨least, marked, before⟩ := beforeTrailingMarker?_complete listed rest
        exact ⟨least, whole ▸ marked, before.length_le⟩)
  have stripped : stripMarkers line ++ back = (afterLeadingMarker? line).getD line := back_eq
  rw [← stripped] at front_eq trailing
  exact ⟨front, back, front_eq, leading, trailing⟩

/-! ### Lines -/

/-- The pieces of a text between its line breaks, of which there are as many as carriage returns and
line feeds, where one behind the other counts once. -/
structure SplitsAtBreaks (text : Text) (pieces : List Text) : Prop where
  counted : pieces.length + text.tails.countP (['\r', '\n'].isPrefixOf ·) =
    text.count '\r' + text.count '\n' + 1
  unbroken : ∀ piece ∈ pieces, '\r' ∉ piece ∧ '\n' ∉ piece
  rejoined : ∃ breaks, breaks.length + 1 = pieces.length ∧
    (∀ lineBreak ∈ breaks, lineBreak ∈ ["\r\n", "\r", "\n"].map String.toList) ∧
    (List.zipWith (· ++ ·) pieces (breaks ++ [[]])).flatten = text

theorem countP_tails_cons {c : Char} {rest : Text}
    (noPair : ∀ tail, c = '\r' → rest = '\n' :: tail → False) :
    (c :: rest).tails.countP (['\r', '\n'].isPrefixOf ·) =
      rest.tails.countP (['\r', '\n'].isPrefixOf ·) := by
  rw [List.tails_cons, List.countP_cons_of_neg]
  intro pair
  obtain ⟨tail, shape⟩ := List.isPrefixOf_iff_prefix.mp pair
  obtain ⟨rfl, rfl⟩ := List.cons.inj shape
  exact noPair tail rfl rfl

theorem splitLines_splits (text : Text) : SplitsAtBreaks text (splitLines text) := by
  fun_induction splitLines text with
  | case1 => exact ⟨rfl, by simp, [], rfl, nofun, rfl⟩
  | case2 rest ih =>
    obtain ⟨counted, unbroken, breaks, length_eq, listed, joined⟩ := ih
    refine ⟨?_, by simpa using unbroken, ['\r', '\n'] :: breaks, by simp [length_eq],
      by simpa using listed, by simp [joined]⟩
    simp
    omega
  | case3 c rest noPair isBreak ih =>
    obtain ⟨counted, unbroken, breaks, length_eq, listed, joined⟩ := ih
    have which : c = '\r' ∨ c = '\n' := by simpa using isBreak
    refine ⟨?_, by simpa using unbroken, [c] :: breaks, by simp [length_eq], ?_, by simp [joined]⟩
    · rw [countP_tails_cons noPair, List.length_cons]
      rcases which with rfl | rfl
      · rw [List.count_cons_self, List.count_cons_of_ne (by decide)]
        omega
      · rw [List.count_cons_self, List.count_cons_of_ne (by decide)]
        omega
    · rcases which with rfl | rfl <;> simpa using listed
  | case4 c rest _ _ none => exact absurd none (splitLines_ne_nil rest)
  | case5 c rest noPair inLine line more split ih =>
    rw [split] at ih
    obtain ⟨counted, unbroken, breaks, length_eq, listed, joined⟩ := ih
    obtain ⟨notReturn, notFeed⟩ : c ≠ '\r' ∧ c ≠ '\n' := by simpa using inLine
    refine ⟨?_, ?_, breaks, length_eq, listed, ?_⟩
    · rw [countP_tails_cons noPair, List.count_cons_of_ne notReturn, List.count_cons_of_ne notFeed]
      exact counted
    · obtain ⟨first, later⟩ := List.forall_mem_cons.mp unbroken
      exact List.forall_mem_cons.mpr ⟨by simp [first, Ne.symm notReturn, Ne.symm notFeed], later⟩
    · -- The break behind the first line is the first one, or the empty one at the end.
      obtain ⟨lineBreak, others, shape⟩ := List.exists_cons_of_ne_nil
        (List.append_ne_nil_of_right_ne_nil breaks (List.cons_ne_nil [] []))
      rw [shape] at joined ⊢
      simpa using congrArg (c :: ·) joined

/-- Markers are removed exactly, and lines are cut exactly. A line loses the longest marker in front
and then the longest one behind. A comment is cut into one line more than it has line breaks; its
lines without their markers hold no break, and with their markers and the breaks between them they
are the comment again. -/
theorem markers_and_breaks_removed :
    (∀ line, ∃ front back, front ++ (stripMarkers line ++ back) = line ∧
      Longest leadingMarkers (· <+: line) front ∧
      Longest trailingMarkers (· <:+ stripMarkers line ++ back) back) ∧
    ∀ comment, ∃ pieces, lines comment = pieces.map stripMarkers ∧ SplitsAtBreaks comment pieces ∧
      ∀ line ∈ lines comment, '\r' ∉ line ∧ '\n' ∉ line := by
  refine ⟨stripMarkers_longest, fun comment => ?_⟩
  have splits := splitLines_splits comment
  refine ⟨splitLines comment, rfl, splits, fun line listed => ?_⟩
  obtain ⟨piece, member, rfl⟩ := List.mem_map.mp listed
  obtain ⟨front, back, whole, -, -⟩ := stripMarkers_longest piece
  have inside : stripMarkers piece <:+: piece := ⟨front, back, by rw [List.append_assoc, whole]⟩
  obtain ⟨noReturn, noFeed⟩ := splits.unbroken piece member
  exact ⟨fun found => noReturn (inside.subset found), fun found => noFeed (inside.subset found)⟩

end Weave.Comment
