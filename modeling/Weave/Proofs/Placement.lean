import Weave.Proofs.Offsets
import Weave.Proofs.Reading
import Weave.Template

/-!
Where a scanner stands in its source. `Placed` says that the current token is the stretch of
the source right behind a given front, and that the text ahead is what follows the token; every
step keeps it. From it come the offsets: the token is a slice of the source between two
character boundaries, and the text ahead is empty exactly at the size of the source.
-/

namespace Weave

namespace Scanner

/-- The current token stands in the source behind `front`, and the text ahead behind it. -/
structure Placed (s : Scanner) (front : Text) : Prop where
  source_eq : s.source = front ++ (s.current.text ++ s.rest)
  start_eq : s.current.start = front.size

variable {s : Scanner} {front : Text}

theorem placed_ofSource (source : Text) : (ofSource source).Placed [] := ⟨rfl, rfl⟩

@[simp] theorem next_source (s : Scanner) : s.next.source = s.source := by
  unfold next
  split <;> rfl

@[simp] theorem rescan_source (s : Scanner) : s.rescan.source = s.source := by
  unfold rescan
  split <;> rfl

/-- A token starts where the one before it stopped. -/
@[simp] theorem next_start (s : Scanner) : s.next.current.start = s.current.stop := by
  unfold next
  split <;> rfl

theorem stop_le_next_stop (s : Scanner) : s.current.stop ≤ s.next.current.stop := by
  rw [← next_start s]
  exact Nat.le_add_right _ _

@[simp] theorem rescan_start (s : Scanner) : s.rescan.current.start = s.current.start := by
  unfold rescan
  split <;> rfl

private theorem take_text_append {start : Nat} {ahead : Text} {lexeme : Lexeme}
    (tail : lexeme.rest <:+ ahead) :
    (s.take start ahead lexeme).current.text ++ (s.take start ahead lexeme).rest = ahead :=
  Text.upTo_append_of_suffix tail

/-- A step takes the text of its token off the text ahead, and loses nothing. -/
theorem next_text_append (s : Scanner) : s.next.current.text ++ s.next.rest = s.rest := by
  unfold next
  split
  · next empty => simp [empty]
  · next c rest ahead =>
    rw [ahead]
    exact take_text_append ((Lexeme.read_suffix _ _ c rest).trans (List.suffix_cons c rest))

theorem rescan_text_append (s : Scanner) :
    s.rescan.current.text ++ s.rescan.rest = s.current.text ++ s.rest := by
  unfold rescan
  split
  · exact take_text_append ((Lexeme.template_suffix _ _ s.rest).trans (List.suffix_append _ _))
  · rfl

/-- The end of input is reported exactly when nothing is ahead. -/
theorem next_kind_eq_endOfInput : s.next.current.kind = .endOfInput ↔ s.rest = [] := by
  unfold next
  split
  · next empty => simp [empty]
  · next c rest ahead =>
    have token := Lexeme.read_kind_ne_endOfInput (s.current.stop == 0) s.regexAllowed c rest
    simp [ahead, take, token]

@[simp] theorem next_stop_of_rest_eq_nil (ended : s.rest = []) :
    s.next.current.stop = s.current.stop := by
  simp [next, ended, Token.stop]

/-- A token is empty only at the end of input. -/
theorem next_text_ne_nil (more : s.next.current.kind ≠ .endOfInput) : s.next.current.text ≠ [] := by
  intro empty
  have shorter := next_rest_length more
  rw [← next_text_append s, empty, List.nil_append] at shorter
  exact Nat.lt_irrefl _ shorter

/-- The token that opens a template with substitutions stands at a backtick. -/
theorem rest_of_next_templateStart (opens : s.next.current.kind = .templateStart) :
    ∃ tail, s.rest = '`' :: tail := by
  unfold next at opens
  split at opens
  · cases opens
  · next c rest ahead =>
    obtain rfl := Lexeme.eq_backtick_of_read_kind opens
    exact ⟨rest, ahead⟩

/-- A closing brace that is read again without finding a closer leaves nothing ahead. -/
theorem rescan_unterminated (brace : s.current.kind = .closeBrace)
    (unclosed : s.rescan.current.unterminated = true) : s.rescan.rest = [] := by
  simp only [rescan, brace, ↓reduceIte, take] at unclosed ⊢
  exact (Lexeme.template_unterminated unclosed).1

theorem Placed.next (placed : s.Placed front) : s.next.Placed (front ++ s.current.text) where
  source_eq := by rw [next_source, next_text_append, placed.source_eq, List.append_assoc]
  start_eq := by rw [next_start, Token.stop, placed.start_eq, Text.size_append]

theorem Placed.rescan (placed : s.Placed front) : s.rescan.Placed front where
  source_eq := by rw [rescan_source, rescan_text_append, placed.source_eq]
  start_eq := by rw [rescan_start, placed.start_eq]

theorem Placed.stop_eq (placed : s.Placed front) :
    s.current.stop = (front ++ s.current.text).size := by
  rw [Token.stop, placed.start_eq, Text.size_append]

/-- The text ahead is what the source holds from the end of the current token on. -/
theorem Placed.rest_eq (placed : s.Placed front) : s.rest = s.source.dropBytes s.current.stop := by
  rw [placed.stop_eq, placed.source_eq, ← List.append_assoc, Text.dropBytes_append]

theorem Placed.stop_add_rest (placed : s.Placed front) :
    s.current.stop + s.rest.size = s.source.size := by
  rw [placed.stop_eq, placed.source_eq, ← List.append_assoc, Text.size_append _ s.rest]

theorem Placed.rest_eq_nil (placed : s.Placed front) :
    s.rest = [] ↔ s.current.stop = s.source.size := by
  have sizes := placed.stop_add_rest
  rw [← Text.size_eq_zero]
  omega

end Scanner

/-- A token is the slice of `source` between its offsets, and these do not cut a character. -/
structure Token.Within (token : Token) (source : Text) : Prop where
  start_le : token.start ≤ token.stop
  stop_le : token.stop ≤ source.size
  start_boundary : source.isBoundary token.start = true
  stop_boundary : source.isBoundary token.stop = true
  text_eq : token.text = source.slice token.start token.stop

theorem Scanner.Placed.within {s : Scanner} {front : Text} (placed : s.Placed front) :
    s.current.Within s.source where
  start_le := Nat.le_add_right _ _
  stop_le := by
    have sizes := placed.stop_add_rest
    omega
  start_boundary := by rw [placed.start_eq, placed.source_eq, Text.isBoundary_append]
  stop_boundary := by
    rw [placed.stop_eq, placed.source_eq, ← List.append_assoc, Text.isBoundary_append]
  text_eq := by rw [Token.stop, placed.start_eq, placed.source_eq, Text.slice_append]

namespace Template

open Scanner

/-- Whatever every step of a scanner keeps, reading a template keeps. -/
theorem close_keeps {P : Scanner → Prop} (next : ∀ s, P s → P s.next)
    (rescan : ∀ s, P s → P s.rescan) (start : Nat) (s : Scanner) (counters : List Nat)
    (maxDepth stop : Nat) (holds : P s) : P (close start s counters maxDepth stop).2 := by
  fun_induction close start s counters maxDepth stop with
  | case1 s | case5 s => exact next s holds
  | case2 s _ _ _ _ _ _ _ ih | case3 s _ _ _ _ _ _ ih | case4 s _ _ _ _ _ _ _ _ ih
  | case6 s _ _ _ _ _ _ _ _ _ ih | case11 s _ _ _ _ _ _ _ _ _ ih => exact ih (next s holds)
  | case7 s _ _ _ _ _ _ _ _ _ _ _ ih | case10 s _ _ _ _ _ _ _ _ _ _ _ _ _ ih =>
    exact ih (rescan _ (next s holds))
  | case8 s | case9 s => exact rescan _ (next s holds)

/-- Reading a template reports the range from `start` to where it leaves the scanner, and when
the template is not terminated, nothing is ahead there. -/
theorem close_extent (start : Nat) (s : Scanner) (counters : List Nat) (maxDepth stop : Nat)
    (standing : stop = s.current.stop) :
    (close start s counters maxDepth stop).1.start = start ∧
    (close start s counters maxDepth stop).1.stop =
      (close start s counters maxDepth stop).2.current.stop ∧
    ((close start s counters maxDepth stop).1.terminated = false →
      (close start s counters maxDepth stop).2.rest = []) := by
  fun_induction close start s counters maxDepth stop with
  | case1 s _ _ _ ahead ended =>
    have empty := next_kind_eq_endOfInput.mp ended
    have same := next_stop_of_rest_eq_nil empty
    have left : s.next.rest = [] := List.suffix_nil.mp (empty ▸ s.next_rest_suffix)
    exact ⟨rfl, standing.trans same.symm, fun _ => left⟩
  | case5 s => exact ⟨rfl, rfl, by simp⟩
  | case2 s _ _ _ _ _ _ _ ih | case3 s _ _ _ _ _ _ ih | case4 s _ _ _ _ _ _ _ _ ih
  | case6 s _ _ _ _ _ _ _ _ _ ih | case11 s _ _ _ _ _ _ _ _ _ ih => exact ih rfl
  | case7 s _ _ _ _ _ _ _ _ _ _ _ ih | case10 s _ _ _ _ _ _ _ _ _ _ _ _ _ ih => exact ih rfl
  | case8 s _ _ _ _ brace _ _ _ _ _ _ unclosed =>
    exact ⟨rfl, rfl, fun _ => rescan_unterminated brace unclosed⟩
  | case9 s => exact ⟨rfl, rfl, by simp⟩

theorem read_extent (s : Scanner) :
    (read s.current s).1.start = s.current.start ∧
    (read s.current s).1.stop = (read s.current s).2.current.stop ∧
    ((read s.current s).1.terminated = false → (read s.current s).2.rest = []) :=
  close_extent s.current.start s [1] 1 s.current.stop rfl

@[simp] theorem read_source (head : Token) (s : Scanner) : (read head s).2.source = s.source :=
  close_keeps (P := fun ahead => ahead.source = s.source)
    (fun ahead same => (next_source ahead).trans same)
    (fun ahead same => (rescan_source ahead).trans same) head.start s [1] 1 head.stop rfl

theorem read_placed {s : Scanner} {front : Text} (head : Token) (placed : s.Placed front) :
    ∃ behind, (read head s).2.Placed behind :=
  close_keeps (P := fun ahead => ∃ behind, ahead.Placed behind)
    (fun _ ⟨_, standing⟩ => ⟨_, standing.next⟩) (fun _ ⟨_, standing⟩ => ⟨_, standing.rescan⟩)
    head.start s [1] 1 head.stop ⟨front, placed⟩

/-- The literal that the current token opens is that token and what reading takes off the text
ahead. -/
theorem read_text {s : Scanner} {front : Text} (placed : s.Placed front) :
    ∃ taken, (read s.current s).1.text s.source = s.current.text ++ taken ∧
      taken ++ (read s.current s).2.rest = s.rest := by
  obtain ⟨behind, standing⟩ := read_placed s.current placed
  obtain ⟨taken, split⟩ := read_rest_suffix s.current s
  obtain ⟨starts, stops, -⟩ := read_extent s
  refine ⟨taken, ?_, split⟩
  have source_eq :
      s.source = front ++ ((s.current.text ++ taken) ++ (read s.current s).2.rest) := by
    rw [placed.source_eq, List.append_assoc, split]
  have size_eq :
      (read s.current s).2.current.stop = front.size + (s.current.text ++ taken).size := by
    have sizes := standing.stop_add_rest
    rw [read_source, source_eq, Text.size_append, Text.size_append] at sizes
    omega
  rw [Span.text, starts, placed.start_eq, stops, size_eq, source_eq, Text.slice_append]

end Template

end Weave
