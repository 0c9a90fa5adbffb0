import Weave.Proofs.Tiling

/-!
The two policies for a template literal that the source does not end. Both runs take the same
pieces up to that literal, which is the last piece. There the strict run stops, and the lenient
one records a diagnostic and completes the stretch of code that the literal belongs to.
-/

namespace Weave

/-- The stretch that a piece was added to ends with that piece. -/
theorem Grouping.pending_add (s : Grouping) (p : Piece) :
    ∃ r front, (s.add p).pending = some r ∧ r.kind = p.kind ∧ r.pieces = front ++ [p] := by
  obtain ⟨-, added⟩ | ⟨r, same, -, added⟩ := s.add_cases p
  · exact ⟨.single p, [], by rw [added], rfl, rfl⟩
  · exact ⟨r.extend p same, r.pieces, by rw [added], same.symm, rfl⟩

/-- Taking one more piece completes the stretches that a turn to its class completes, and leaves
the one that ends with the piece. -/
theorem Grouping.all_ofPieces_append (before : List Piece) (p : Piece) :
    ∃ r front, (ofPieces (before ++ [p])).all = ((ofPieces before).turn p.kind).handed ++ [r] ∧
      r.kind = p.kind ∧ r.pieces = front ++ [p] := by
  obtain ⟨r, front, pending, kind, pieces⟩ := (ofPieces before).pending_add p
  refine ⟨r, front, ?_, kind, pieces⟩
  rw [← handed_add, ofPieces, List.foldl_append, all]
  exact congrArg _ (congrArg Option.toList pending)

/-- A last piece stands right behind all others and reaches to the end of the source. -/
theorem Laid.last_piece {source : Text} {before : List Piece} {p : Piece}
    (laid : Laid 0 source (before ++ [p])) :
    p.start = (Piece.spell before).size ∧ source = Piece.spell before ++ p.text := by
  have starts := (Piece.consecutive_append.mp laid.consecutive).2.1
  refine ⟨by rw [starts, Nat.zero_add], ?_⟩
  rw [← laid.spelled]
  simp

/-- The stretch that a last piece belongs to starts no later than the piece, and reaches to the
end of the source. -/
theorem Laid.last_stretch {source : Text} {before front : List Piece} {p : Piece}
    {handed : List Stretch} {r : Stretch} (laid : Laid 0 source (before ++ [p]))
    (all : (handed ++ [r]).flatMap Stretch.pieces = before ++ [p])
    (ends : r.pieces = front ++ [p]) :
    r.span.start ≤ p.start ∧ r.span.stop = source.size := by
  rw [List.flatMap_append, List.flatMap_singleton] at all
  have front_eq : handed.flatMap Stretch.pieces ++ front = before := by
    rw [ends, ← List.append_assoc] at all
    exact List.append_cancel_right all
  have laid' := laid.consecutive
  rw [← all, Piece.consecutive_append] at laid'
  have spelled := laid.spelled
  rw [← all, Piece.spell_append] at spelled
  rw [Stretch.span_eq laid'.2, laid.last_piece.1, ← front_eq, ← spelled]
  simp

namespace Segmenter

/-- Where no piece is unterminated, the policies make no difference. -/
theorem collect_terminated (source : Text)
    (closed : ∀ p ∈ (Scanner.ofSource source).pieces, p.terminated = true) :
    ∃ lenient strict, collect source .truncate = (lenient, .ok ()) ∧
      collect source .fail = (strict, .ok ()) ∧ lenient.diagnostics = #[] ∧
      strict.sink.accepted = lenient.sink.accepted := by
  obtain ⟨lenient, ran, accepted, diagnostics⟩ := collect_ok source .truncate (.inl closed)
  obtain ⟨strict, ran', accepted', -⟩ := collect_ok source .fail (.inl closed)
  refine ⟨lenient, strict, ran, ran', ?_, Array.toList_inj.mp (accepted'.trans accepted.symm)⟩
  exact Array.toList_inj.mp (diagnostics.trans (Piece.flatMap_diagnostics source closed))

/-- An unterminated last piece is reported by both runs, and the stretch that it belongs to is
the one segment that the strict run does not hand over. -/
theorem collect_unterminated (source : Text) {before : List Piece} {p : Piece}
    (pieces : (Scanner.ofSource source).pieces = before ++ [p])
    (closed : ∀ q ∈ before, q.terminated = true) (broken : p.terminated = false) :
    ∃ lenient strict last, collect source .truncate = (lenient, .ok ()) ∧
      collect source .fail =
        (strict, .error (.unterminatedTemplate p.start (.ofOffset source p.start))) ∧
      lenient.diagnostics = #[p.diagnostic source] ∧
      lenient.sink.accepted = strict.sink.accepted.push last ∧ last.kind = p.kind ∧
      last.span.start ≤ p.start ∧ last.span.stop = source.size := by
  obtain ⟨lenient, ran, accepted, diagnostics⟩ := collect_ok source .truncate (.inr rfl)
  obtain ⟨strict, failed, accepted'⟩ := collect_fails source pieces closed broken
  obtain ⟨r, front, all, kind, ends⟩ := Grouping.all_ofPieces_append before p
  have laid : Laid 0 source (before ++ [p]) := pieces ▸ (Scanner.placed_ofSource source).laid
  have stretches := Grouping.pieces_ofPieces (before ++ [p])
  rw [all] at stretches
  rw [pieces, all, Stretch.segments_append, ← accepted'] at accepted
  rw [pieces, List.flatMap_append, Piece.flatMap_diagnostics source closed] at diagnostics
  obtain ⟨early, late⟩ := laid.last_stretch stretches ends
  have recorded : lenient.diagnostics = #[p.diagnostic source] := by
    apply Array.toList_inj.mp
    simpa [Piece.diagnostics, broken] using diagnostics
  have handed := Array.toList_inj.mp (accepted.trans Array.toList_push.symm)
  exact ⟨lenient, strict, _, ran, failed, recorded, handed, kind, early, late⟩

/-- The policies agree on every source. The lenient run succeeds. Either it records nothing, and
the strict run hands over the same segments, or it records one diagnostic, at a backtick, and the
strict run fails there, having handed over all segments but the last one: the code from before
that backtick to the end of the source. -/
theorem policies_agree (source : Text) :
    ∃ lenient strict : Segmenter Collector, ∃ outcome : Except ConversionError Unit,
      collect source .truncate = (lenient, .ok ()) ∧ collect source .fail = (strict, outcome) ∧
      ((lenient.diagnostics = #[] ∧ outcome = .ok () ∧
          strict.sink.accepted = lenient.sink.accepted) ∨
        ∃ d last, lenient.diagnostics = #[d] ∧
          outcome = .error (.unterminatedTemplate d.offset d.position) ∧
          (source.dropBytes d.offset).head? = some '`' ∧
          Position.ofOffset? source d.offset = some d.position ∧
          lenient.sink.accepted = strict.sink.accepted.push last ∧
          last.kind = .code ∧ last.span.start ≤ d.offset ∧ d.offset < last.span.stop ∧
          last.span.stop = source.size) := by
  have laid : Laid 0 source (Scanner.ofSource source).pieces :=
    (Scanner.placed_ofSource source).laid
  rcases laid.ending with closed | ⟨before, p, pieces, closed, broken, code, backtick⟩
  · obtain ⟨lenient, strict, ran, ran', nothing, same⟩ := collect_terminated source closed
    exact ⟨lenient, strict, .ok (), ran, ran', .inl ⟨nothing, rfl, same⟩⟩
  · obtain ⟨lenient, strict, last, ran, failed, recorded, handed, kind, early, late⟩ :=
      collect_unterminated source pieces closed broken
    rw [pieces] at laid
    obtain ⟨starts, whole⟩ := laid.last_piece
    have filled := Text.size_pos.mpr (laid.inhabited p (by simp))
    refine ⟨lenient, strict, _, ran, failed, .inr ⟨p.diagnostic source, last, recorded, rfl, ?_, ?_,
      handed, kind.trans code, early, ?_, late⟩⟩
    · rw [Piece.diagnostic, starts, whole, Text.dropBytes_append, backtick]
    · have boundary : source.isBoundary p.start = true := by
        rw [starts, whole]
        exact Text.isBoundary_append _ _
      simp [Position.ofOffset?, Piece.diagnostic, boundary]
    · rw [late, whole, Text.size_append, ← starts]
      exact Nat.lt_add_of_pos_right filled

end Segmenter

end Weave
