import Mathlib.Data.List.Basic
import Mathlib.Data.List.Induction
import Weave.Proofs.Streaming
import Weave.Proofs.ValidSettings

/-!
Fenced blocks read back. A reader of the document takes the backticks at the front of a block as its
fence and looks for the next line that begins with as many. No run of backticks in the body is as
long as the fence, so no line of the body is taken for the end of the block, and whatever follows the
block is left as it is.
-/

namespace Weave

namespace Document

/-- The number of backticks in front of a line. -/
def ticks (line : Text) : Nat := (line.takeWhile (· == '`')).length

/-- A fenced block as a reader finds it at the front of a document. -/
structure FencedBlock where
  /-- The number of backticks that open the block. -/
  width : Nat
  /-- What stands behind them on the first line. -/
  info : Text
  body : Text
  /-- The line that ends the block. -/
  closing : Text
  /-- What follows that line. -/
  rest : Text
  deriving DecidableEq, Repr

/-- Reads a fenced block off the front of a text: the lines between the first line and the next one
that begins with at least as many backticks. -/
def readFenced? (text : Text) : Option FencedBlock :=
  match text.splitOn '\n' with
  | [] => none
  | opening :: lines =>
    let width := ticks opening
    match lines.dropWhile (ticks · < width) with
    | [] => none
    | closing :: behind =>
      some
        { width
          info := opening.drop width
          body := ['\n'].intercalate (lines.takeWhile (ticks · < width))
          closing
          rest := ['\n'].intercalate behind }

/-! ### Runs of backticks -/

/-- Counts one character more: the run of backticks that ends here, and the longest so far. -/
def countRun (counts : Nat × Nat) (c : Char) : Nat × Nat :=
  if c = '`' then (counts.1 + 1, max counts.2 (counts.1 + 1)) else (0, counts.2)

theorem longestRun_eq (t : Text) : longestRun t = (t.foldl countRun (0, 0)).2 := rfl

theorem replicate_suffix_concat {k : Nat} {t : Text} {c : Char}
    (ends : List.replicate (k + 1) '`' <:+ t ++ [c]) :
    c = '`' ∧ List.replicate k '`' <:+ t := by
  rw [List.replicate_succ', List.suffix_concat_iff] at ends
  rcases ends with empty | ⟨front, split, suffix⟩
  · simp at empty
  · obtain ⟨rfl, last⟩ := List.append_inj' split rfl
    exact ⟨(List.singleton_inj.mp last).symm, suffix⟩

/-- A run at the end of the text is no longer than the one counted there, and a run anywhere is no
longer than the longest. -/
theorem run_le_counted (t : Text) :
    (∀ k, List.replicate k '`' <:+ t → k ≤ (t.foldl countRun (0, 0)).1) ∧
      ∀ k, List.replicate k '`' <:+: t → k ≤ (t.foldl countRun (0, 0)).2 := by
  induction t using List.reverseRecOn with
  | nil => simp
  | append_singleton t c ih =>
    obtain ⟨atEnd, anywhere⟩ := ih
    rw [List.foldl_concat]
    generalize t.foldl countRun (0, 0) = counts at atEnd anywhere ⊢
    have atNewEnd : ∀ k, List.replicate k '`' <:+ t ++ [c] → k ≤ (countRun counts c).1 := by
      intro k ends
      cases k with
      | zero => exact Nat.zero_le _
      | succ k =>
        obtain ⟨rfl, shorter⟩ := replicate_suffix_concat ends
        exact Nat.succ_le_succ (atEnd k shorter)
    have longest : (countRun counts c).1 ≤ (countRun counts c).2 ∧
        counts.2 ≤ (countRun counts c).2 := by
      unfold countRun
      split
      · exact ⟨Nat.le_max_right _ _, Nat.le_max_left _ _⟩
      · exact ⟨Nat.zero_le _, Nat.le_refl _⟩
    refine ⟨atNewEnd, fun k inside => ?_⟩
    rcases List.infix_concat_iff.mp inside with ends | earlier
    · exact Nat.le_trans (atNewEnd k ends) longest.1
    · exact Nat.le_trans (anywhere k earlier) longest.2

theorem le_longestRun {k : Nat} {t : Text} (inside : List.replicate k '`' <:+: t) :
    k ≤ longestRun t := by
  rw [longestRun_eq]
  exact (run_le_counted t).2 k inside

/-! ### Lines -/

theorem replicate_prefix_of_le_ticks {n : Nat} {line : Text} (long : n ≤ ticks line) :
    List.replicate n '`' <+: line := by
  have front : (line.takeWhile (· == '`')).take n = List.replicate n '`' := by
    refine List.eq_replicate_iff.mpr ⟨List.length_take_of_le long, fun c member => ?_⟩
    have tick := List.all_eq_true.mp List.all_takeWhile c (List.mem_of_mem_take member)
    exact beq_iff_eq.mp tick
  rw [← front]
  exact (List.take_prefix _ _).trans (List.takeWhile_prefix _)

theorem ticks_replicate_append (n : Nat) {line : Text} (clear : '`' ∉ line) :
    ticks (List.replicate n '`' ++ line) = n := by
  have none : line.takeWhile (· == '`') = [] := by
    cases line with
    | nil => rfl
    | cons c line =>
      refine List.takeWhile_cons_of_neg ?_
      simpa using fun same : c = '`' => clear (same ▸ List.mem_cons_self)
  rw [ticks, List.takeWhile_append_of_pos (by simp), none, List.append_nil, List.length_replicate]

theorem infix_of_mem_splitOn {t line : Text} (listed : line ∈ t.splitOn '\n') : line <:+: t := by
  have whole : ['\n'].intercalate (t.splitOn '\n') = t := List.intercalate_splitOn '\n'
  obtain ⟨first, more, split⟩ := List.exists_cons_of_ne_nil (List.splitOn_ne_nil '\n' t)
  rw [split, Text.intercalate_cons] at whole
  rw [split] at listed
  rw [← whole]
  rcases List.mem_cons.mp listed with rfl | later
  · exact (List.prefix_append _ _).isInfix
  · have broken : '\n' :: line <:+: more.flatMap ('\n' :: ·) := by
      rw [List.flatMap_def]
      exact List.infix_of_mem_flatten (List.mem_map_of_mem later)
    exact ((List.suffix_cons _ _).isInfix.trans broken).trans (List.suffix_append _ _).isInfix

/-- A body without a run of `n` backticks is read back from between fences of `n` backticks. -/
theorem readFenced?_between {n : Nat} {info body : Text} (fits : FitsFence info)
    (short : ¬ List.replicate n '`' <:+: body) (rest : Text) :
    readFenced? (List.replicate n '`' ++ info ++ '\n' ::
        (body ++ '\n' :: (List.replicate n '`' ++ '\n' :: rest))) =
      some { width := n, info, body, closing := List.replicate n '`', rest } := by
  have noFeed : '\n' ∉ List.replicate n '`' := by simp
  have opening : '\n' ∉ List.replicate n '`' ++ info := by simp [fits.noBreak.1]
  have fence_ticks : ticks (List.replicate n '`') = n := by
    have alone := ticks_replicate_append n (List.not_mem_nil : '`' ∉ ([] : Text))
    rwa [List.append_nil] at alone
  have inside : ∀ line ∈ body.splitOn '\n', decide (ticks line < n) = true := by
    intro line listed
    refine decide_eq_true (Nat.lt_of_not_le fun long => short ?_)
    exact (replicate_prefix_of_le_ticks long).isInfix.trans (infix_of_mem_splitOn listed)
  have lines : (List.replicate n '`' ++ info ++ '\n' ::
        (body ++ '\n' :: (List.replicate n '`' ++ '\n' :: rest))).splitOn '\n' =
      (List.replicate n '`' ++ info) ::
        (body.splitOn '\n' ++ List.replicate n '`' :: rest.splitOn '\n') := by
    rw [List.splitOn_append_cons_self_of_not_mem opening, List.splitOn_append_cons_self,
      List.splitOn_append_cons_self_of_not_mem noFeed]
  rw [readFenced?, lines]
  dsimp only
  rw [ticks_replicate_append n fits.noBacktick, List.dropWhile_append_of_pos inside,
    List.takeWhile_append_of_pos inside]
  simp [fence_ticks, List.intercalate_splitOn]

theorem fence_not_infix (body : Text) : ¬ fence body <:+: body := by
  intro inside
  have bound := le_longestRun inside
  omega

theorem block_of_code (fenceLang : Text) {segment : Segment} (code : segment.kind = .code)
    (rest : Text) :
    block fenceLang segment ++ rest =
      fence segment.body ++ fenceLang ++ '\n' ::
        (segment.body ++ '\n' :: (fence segment.body ++ '\n' :: rest)) := by
  simp [block, parts, code]

end Document

/-- The first block is written as it is, with nothing in front of it. -/
theorem Emitter.emit_first (fenceLang : Text) {segment : Segment} (inhabited : segment.body ≠ []) :
    ∃ e, ({ output := {}, fenceLang } : Emitter Page).emit segment = (e, .ok ()) ∧
      e.output.text = Document.block fenceLang segment := by
  obtain ⟨page, wrote, text_eq⟩ := ({} : Page).writeAll_eq (Document.parts fenceLang segment)
  refine ⟨{ output := page, fenceLang, blocks := 1 }, ?_, text_eq⟩
  have filled : segment.body.isEmpty = false := by simpa using inhabited
  simp [emit, filled, wrote]

/-- A fenced block is read back whatever follows it: the language, the body and the rest of the
document come out as they went in, and the block ends with a line of exactly as many backticks as it
begins with. There are at least three of them, and the body has no run of so many. -/
theorem fenced_block_reads_back {segment : Segment} {fenceLang : Text}
    (code : segment.kind = .code) (inhabited : segment.body ≠ []) (fits : FitsFence fenceLang) :
    ∃ e n, ({ output := {}, fenceLang } : Emitter Page).emit segment = (e, .ok ()) ∧
      3 ≤ n ∧ ¬ List.replicate n '`' <:+: segment.body ∧
      ∀ rest, Document.readFenced? (e.output.text ++ rest) =
        some
          { width := n, info := fenceLang, body := segment.body
            closing := List.replicate n '`', rest } := by
  obtain ⟨e, emitted, text_eq⟩ := Emitter.emit_first fenceLang inhabited
  have short := Document.fence_not_infix segment.body
  refine ⟨e, _, emitted, ?_, short, fun rest => ?_⟩
  · exact Nat.succ_le_succ (Nat.le_max_right _ _)
  · rw [text_eq, Document.block_of_code fenceLang code]
    exact Document.readFenced?_between fits short rest

/-- Lines of backticks within the code and behind the block do not end it. -/
theorem backtick_lines_read_back :
    let segment : Segment := ⟨.code, ["\n".toList, "a\n````\n``".toList, "`b\n".toList], ⟨0, 12⟩, 0⟩
    segment.kind = .code ∧ segment.body = "a\n````\n```b".toList ∧ FitsFence "ts".toList ∧
    ∃ e, ({ output := {}, fenceLang := "ts".toList } : Emitter Page).emit segment = (e, .ok ()) ∧
      ∃ n, Document.readFenced? (e.output.text ++ "``````\n".toList) =
        some ⟨n, "ts".toList, "a\n````\n```b".toList, List.replicate n '`', "``````\n".toList⟩ := by
  intro segment
  have body_eq : segment.body = "a\n````\n```b".toList := by decide
  have fits : FitsFence "ts".toList := ⟨by decide, by decide⟩
  obtain ⟨e, n, emitted, -, -, reads⟩ :=
    fenced_block_reads_back (rfl : segment.kind = .code) (by rw [body_eq]; simp) fits
  rw [body_eq] at reads
  exact ⟨rfl, body_eq, fits, e, emitted, n, reads _⟩

end Weave
