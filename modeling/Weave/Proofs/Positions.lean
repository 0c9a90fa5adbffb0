import Mathlib.Data.List.Induction
import Weave.Proofs.Offsets
import Weave.Text.Position

/-!
Positions and offsets determine each other. The front of a text is cut into the lines above its end,
each with its line feed, and what stands to the left in the last line; the position behind the front
counts just these. So the text in front of a position is found again from its line and column, later
offsets have later positions, and all offsets beyond the end have the position of the end.
-/

namespace Weave

namespace Text

/-- An offset within a text that does not cut a character is the size of what stands before it. -/
theorem exists_front {source : Text} {offset : Nat} (boundary : source.isBoundary offset = true)
    (inside : offset ≤ source.size) :
    ∃ front rest, source = front ++ rest ∧ offset = front.size := by
  induction source generalizing offset with
  | nil => exact ⟨[], [], rfl, Nat.le_zero.mp inside⟩
  | cons c source ih =>
    cases offset with
    | zero => exact ⟨[], c :: source, rfl, rfl⟩
    | succ n =>
      rw [isBoundary, Bool.and_eq_true, decide_eq_true_eq] at boundary
      rw [size_cons] at inside
      obtain ⟨front, rest, rfl, reaches⟩ := ih boundary.2 (by omega)
      refine ⟨c :: front, rest, rfl, ?_⟩
      rw [size_cons]
      omega

/-- Nothing is left behind the end of a text. -/
theorem dropBytes_of_size_le {source : Text} {offset : Nat} (beyond : source.size ≤ offset) :
    source.dropBytes offset = [] := by
  induction source generalizing offset with
  | nil => cases offset <;> rfl
  | cons c source ih =>
    have width := c.utf8Size_pos
    rw [size_cons] at beyond
    obtain ⟨n, rfl⟩ : ∃ n, offset = n + 1 := ⟨offset - 1, by omega⟩
    exact ih (by omega)

theorem isBoundary_of_size_le {source : Text} {offset : Nat} (beyond : source.size ≤ offset) :
    source.isBoundary offset = true := by
  induction source generalizing offset with
  | nil => cases offset <;> rfl
  | cons c source ih =>
    have width := c.utf8Size_pos
    rw [size_cons] at beyond
    obtain ⟨n, rfl⟩ : ∃ n, offset = n + 1 := ⟨offset - 1, by omega⟩
    rw [isBoundary, Bool.and_eq_true, decide_eq_true_eq]
    exact ⟨by omega, ih (by omega)⟩

/-! ### Lines -/

/-- The front of a text, cut into the lines above its end and what stands to the left in the last
one. -/
structure CutAtFeeds (front : Text) (above : List Text) (left : Text) : Prop where
  text_eq : front = above.flatMap (· ++ ['\n']) ++ left
  above_unbroken : ∀ line ∈ above, '\n' ∉ line
  left_unbroken : '\n' ∉ left

theorem exists_cutAtFeeds (front : Text) : ∃ above left, CutAtFeeds front above left := by
  induction front using List.reverseRecOn with
  | nil => exact ⟨[], [], rfl, nofun, nofun⟩
  | append_singleton front c ih =>
    obtain ⟨above, left, rfl, unbroken, inLine⟩ := ih
    by_cases feed : c = '\n'
    · subst feed
      refine ⟨above ++ [left], [], by simp, ?_, nofun⟩
      rw [List.forall_mem_append]
      exact ⟨unbroken, List.forall_mem_singleton.mpr inLine⟩
    · refine ⟨above, left ++ [c], by simp, unbroken, ?_⟩
      rw [List.mem_append, List.mem_singleton]
      rintro (earlier | here)
      · exact inLine earlier
      · exact feed here.symm

/-- Characters in front of a text that hold no line feed belong to its first line. -/
theorem splitOn_append_of_not_mem {left rest right : Text} {below : List Text}
    (inLine : '\n' ∉ left) (lines : rest.splitOn '\n' = right :: below) :
    (left ++ rest).splitOn '\n' = (left ++ right) :: below := by
  induction left with
  | nil => exact lines
  | cons c left ih =>
    obtain ⟨other, later⟩ := not_or.mp (mt List.mem_cons.mpr inLine)
    have noFeed : (c == '\n') = false := beq_eq_false_iff_ne.mpr (Ne.symm other)
    rw [List.cons_append, List.splitOn_cons_eq_if_modifyHead, noFeed, ih later]
    rfl

/-- Read from its end, a text begins with the characters behind its last line feed. -/
theorem takeWhile_reverse_append {left : Text} (inLine : '\n' ∉ left) (front : Text) :
    (front ++ left).reverse.takeWhile (· != '\n') =
      left.reverse ++ front.reverse.takeWhile (· != '\n') := by
  rw [List.reverse_append]
  refine List.takeWhile_append_of_pos fun c member => ?_
  rw [bne_iff_ne]
  rintro rfl
  exact inLine (List.mem_reverse.mp member)

section

variable {front : Text} {above : List Text} {left : Text}

/-- The lines of a text are those above the end of its front, and then the line in which the front
ends and the rest goes on. -/
theorem CutAtFeeds.splitOn (cut : CutAtFeeds front above left) (rest : Text) :
    ∃ right below, (front ++ rest).splitOn '\n' = above ++ (left ++ right) :: below := by
  obtain ⟨right, below, lines⟩ := List.exists_cons_of_ne_nil (List.splitOn_ne_nil '\n' rest)
  refine ⟨right, below, ?_⟩
  obtain ⟨rfl, unbroken, inLine⟩ := cut
  induction above with
  | nil => exact splitOn_append_of_not_mem inLine lines
  | cons line above ih =>
    obtain ⟨first, later⟩ := List.forall_mem_cons.mp unbroken
    rw [List.flatMap_cons, List.append_assoc, List.append_assoc, List.append_assoc,
      List.singleton_append, List.splitOn_append_cons_self_of_not_mem first, ← List.append_assoc,
      ih later]
    rfl

/-- Each line above ends in a line feed, and no other is in the front. -/
theorem CutAtFeeds.count_eq (cut : CutAtFeeds front above left) :
    front.count '\n' = above.length := by
  obtain ⟨rfl, unbroken, inLine⟩ := cut
  rw [List.count_append, List.count_eq_zero.mpr inLine, Nat.add_zero]
  induction above with
  | nil => rfl
  | cons line above ih =>
    obtain ⟨first, later⟩ := List.forall_mem_cons.mp unbroken
    rw [List.flatMap_cons, List.count_append, List.count_append, List.count_eq_zero.mpr first,
      ih later, List.length_cons]
    simp [Nat.add_comm]

/-- From the end of the front, its first line feed is the one in front of what stands to the left. -/
theorem CutAtFeeds.takeWhile_eq (cut : CutAtFeeds front above left) :
    front.reverse.takeWhile (· != '\n') = left.reverse := by
  obtain ⟨rfl, -, inLine⟩ := cut
  rw [takeWhile_reverse_append inLine]
  rcases List.eq_nil_or_concat above with rfl | ⟨earlier, line, rfl⟩
  · simp
  · simp

end

end Text

namespace Position

open Text (CutAtFeeds exists_cutAtFeeds exists_front)

/-- The position behind the front of a text is that behind the front alone. -/
theorem ofOffset_append (front rest : Text) : ofOffset (front ++ rest) front.size = after front := by
  rw [ofOffset, Text.dropBytes_append, Text.upTo_append]

/-- Reading order: a position on an earlier line, or further left on the same line, comes first. -/
def Precedes (p q : Position) : Prop :=
  p.line < q.line ∨ p.line = q.line ∧ p.column < q.column

/-- The characters of the line that a position is on. -/
def lineOf (source : Text) (p : Position) : Text := (source.splitOn '\n').getD (p.line - 1) []

/-- What stands before a position: the lines above it, each with its line feed, and the characters
to the left of it on its own line. -/
def textBefore (source : Text) (p : Position) : Text :=
  ((source.splitOn '\n').take (p.line - 1)).flatMap (· ++ ['\n']) ++
    (p.lineOf source).take (p.column - 1)

/-- A position on one of the lines of a text, at most right behind its last character. -/
structure Within (source : Text) (p : Position) : Prop where
  line_pos : 0 < p.line
  line_le : p.line ≤ (source.splitOn '\n').length
  column_pos : 0 < p.column
  column_le : p.column ≤ (p.lineOf source).length + 1

theorem after_eq {front : Text} {above : List Text} {left : Text}
    (cut : CutAtFeeds front above left) : after front = ⟨above.length + 1, left.length + 1⟩ := by
  rw [after, cut.count_eq, cut.takeWhile_eq, List.length_reverse]

/-- The position behind a front is one of the text, and the front is what stands before it. -/
theorem textBefore_after (front rest : Text) :
    (after front).Within (front ++ rest) ∧ (after front).textBefore (front ++ rest) = front := by
  obtain ⟨above, left, cut⟩ := exists_cutAtFeeds front
  obtain ⟨right, below, lines⟩ := cut.splitOn rest
  have own : (after front).lineOf (front ++ rest) = left ++ right := by
    rw [lineOf, lines, after_eq cut]
    simp
  refine ⟨⟨Nat.succ_pos _, ?_, Nat.succ_pos _, ?_⟩, ?_⟩
  · rw [lines, after_eq cut, List.length_append, List.length_cons]
    dsimp only
    omega
  · rw [own, after_eq cut, List.length_append]
    dsimp only
    omega
  · rw [textBefore, own, lines, after_eq cut, cut.text_eq]
    simp

/-- A front that goes on further ends at a later position. -/
theorem after_precedes (front : Text) {more : Text} (further : more ≠ []) :
    (after front).Precedes (after (front ++ more)) := by
  by_cases breaks : '\n' ∈ more
  · left
    have feeds := List.count_pos_iff.mpr breaks
    simp only [after, List.count_append]
    omega
  · right
    have longer := List.length_pos_iff.mpr further
    refine ⟨?_, ?_⟩
    · simp only [after, List.count_append, List.count_eq_zero.mpr breaks, Nat.add_zero]
    · simp only [after, Text.takeWhile_reverse_append breaks, List.length_append,
        List.length_reverse]
      omega

theorem ofOffset?_eq_some {source : Text} {offset : Nat} {p : Position} :
    ofOffset? source offset = some p ↔
      source.isBoundary offset = true ∧ ofOffset source offset = p := by
  unfold ofOffset?
  split <;> simp_all

theorem ofOffset?_of_size_le {source : Text} {offset : Nat} (beyond : source.size ≤ offset) :
    ofOffset? source offset = some (after source) := by
  refine ofOffset?_eq_some.mpr ⟨Text.isBoundary_of_size_le beyond, ?_⟩
  have whole := Text.upTo_append source []
  rw [List.append_nil] at whole
  rw [ofOffset, Text.dropBytes_of_size_le beyond, whole]

/-- Line and column determine the offset. At each offset of a text that cuts no character there is a
position, which is one of the text, and the lines above it with what stands to the left of it are
exactly the text before the offset. Of two such offsets the later one has the later position, and an
offset beyond the end has the position of the end. -/
theorem position_determines_offset (source : Text) :
    (∀ offset ≤ source.size, source.isBoundary offset = true →
      ∃ p, ofOffset? source offset = some p ∧ p.Within source ∧
        p.textBefore source = source.slice 0 offset) ∧
    (∀ a b p q, a < b → b ≤ source.size → ofOffset? source a = some p →
      ofOffset? source b = some q → p.Precedes q) ∧
    ∀ offset, source.size ≤ offset → ofOffset? source offset = ofOffset? source source.size := by
  refine ⟨?_, ?_, ?_⟩
  · intro offset inside boundary
    obtain ⟨front, rest, rfl, rfl⟩ := exists_front boundary inside
    obtain ⟨within, before⟩ := textBefore_after front rest
    refine ⟨after front, ofOffset?_eq_some.mpr ⟨boundary, ofOffset_append front rest⟩, within, ?_⟩
    have sliced := Text.slice_append [] front rest
    rw [Text.size_nil, Nat.zero_add, List.nil_append] at sliced
    rw [before, sliced]
  · intro a b p q earlier inside positioned positioned'
    obtain ⟨boundary, rfl⟩ := ofOffset?_eq_some.mp positioned
    obtain ⟨boundary', rfl⟩ := ofOffset?_eq_some.mp positioned'
    obtain ⟨front, rest, split, rfl⟩ := exists_front boundary (by omega)
    obtain ⟨front', rest', split', rfl⟩ := exists_front boundary' inside
    -- The shorter of two fronts of one text is a front of the longer one.
    obtain ⟨more, rfl⟩ : front <+: front' := by
      rcases List.prefix_or_prefix_of_prefix ⟨rest, split.symm⟩ ⟨rest', split'.symm⟩ with
        shorter | ⟨more, rfl⟩
      · exact shorter
      · rw [Text.size_append] at earlier
        omega
    have further : more ≠ [] := by
      rintro rfl
      simp at earlier
    rw [split, ofOffset_append, ← split, split', ofOffset_append]
    exact after_precedes front further
  · intro offset beyond
    rw [ofOffset?_of_size_le beyond, ofOffset?_of_size_le (Nat.le_refl _)]

-- The letter with an accent takes the two bytes from 5 on.
example : [5, 6, 7].map (ofOffset? "ab\ncdé\nf".toList) = [some ⟨2, 3⟩, none, some ⟨2, 4⟩] := by
  decide

end Position

end Weave
