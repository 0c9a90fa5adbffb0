import Weave.Proofs.Stretches

/-!
Segments tile the source. The offset of a stretch is the size of the text before it, so stretches
that hold all pieces of a source in order meet end to end, and the segments cut from them cover
the source from its first byte to its last. Pieces of code are kept as written.
-/

namespace Weave

/-- Consecutive pieces stop as far behind their offset as their text is long. -/
theorem Piece.stop_last {offset : Nat} {first : Piece} {more : List Piece}
    (laid : Consecutive offset (first :: more)) :
    (more.getLast?.getD first).stop = offset + (spell (first :: more)).size := by
  induction more generalizing offset first with
  | nil => simp [stop, laid.1]
  | cons next more ih =>
    rw [List.getLast?_cons, Option.getD_some, ih laid.2, stop, laid.1, spell_cons first,
      Text.size_append, Nat.add_assoc]

theorem Piece.fragments_flatten {ps : List Piece} (code : ∀ p ∈ ps, p.kind = .code) :
    (ps.flatMap fragments).flatten = spell ps := by
  induction ps with
  | nil => rfl
  | cons p ps ih =>
    have kept : p.fragments = [p.text] := by rw [fragments, code p List.mem_cons_self]
    rw [List.flatMap_cons, kept, List.flatten_append, spell_cons,
      ih fun q member => code q (List.mem_cons_of_mem p member)]
    simp

namespace Stretch

theorem span_eq {r : Stretch} {offset : Nat} (laid : Piece.Consecutive offset r.pieces) :
    r.span = ⟨offset, offset + (Piece.spell r.pieces).size⟩ := by
  rw [span, last, Piece.stop_last laid, laid.1]
  rfl

/-- A stretch of code is kept as written. -/
theorem fragments_flatten {r : Stretch} (code : r.kind = .code) :
    r.fragments.flatten = Piece.spell r.pieces :=
  Piece.fragments_flatten fun p member => (r.uniform p member).trans code

/-- The text of the stretches before the one numbered `i`. -/
def textBefore (rs : List Stretch) (i : Nat) : Text := Piece.spell ((rs.take i).flatMap pieces)

theorem textBefore_succ {rs : List Stretch} {i : Nat} (inside : i < rs.length) :
    textBefore rs (i + 1) = textBefore rs i ++ Piece.spell rs[i].pieces := by
  rw [textBefore, textBefore, List.take_succ_eq_append_getElem inside, List.flatMap_append,
    Piece.spell_append, List.flatMap_singleton]

variable {source : Text} {rs : List Stretch}

/-- A stretch reaches from the end of the text before it to the end of its own. -/
theorem span_getElem (laid : Laid 0 source (rs.flatMap pieces)) {i : Nat} (inside : i < rs.length) :
    rs[i].span = ⟨(textBefore rs i).size, (textBefore rs (i + 1)).size⟩ := by
  have split : rs = rs.take i ++ rs[i] :: rs.drop (i + 1) := by simp
  have parts := laid.consecutive
  rw [split, List.flatMap_append, List.flatMap_cons, Piece.consecutive_append,
    Piece.consecutive_append] at parts
  rw [span_eq parts.2.1, textBefore_succ inside, Text.size_append, textBefore, Nat.zero_add]

/-- The text before a stretch, with what follows it, is the source. -/
theorem textBefore_append (laid : Laid 0 source (rs.flatMap pieces)) (i : Nat) :
    source = textBefore rs i ++ Piece.spell ((rs.drop i).flatMap pieces) := by
  rw [textBefore, ← Piece.spell_append, ← List.flatMap_append, List.take_append_drop, laid.spelled]

theorem textBefore_length (laid : Laid 0 source (rs.flatMap pieces)) :
    textBefore rs rs.length = source := by
  rw [textBefore, List.take_length, laid.spelled]

theorem isBoundary_textBefore (laid : Laid 0 source (rs.flatMap pieces)) (i : Nat) :
    source.isBoundary (textBefore rs i).size = true := by
  rw [textBefore_append laid i]
  exact Text.isBoundary_append _ _

theorem spell_ne_nil (laid : Laid 0 source (rs.flatMap pieces)) {i : Nat} (inside : i < rs.length) :
    Piece.spell rs[i].pieces ≠ [] := by
  have member : rs[i].first ∈ rs.flatMap pieces :=
    List.mem_flatMap.mpr ⟨rs[i], List.getElem_mem inside, List.mem_cons_self⟩
  simp [pieces, laid.inhabited _ member]

end Stretch

/-- Segments that cover a source without gap or overlap, and keep its code as written. -/
structure Tiles (source : Text) (segments : List Segment) : Prop where
  indexed : ∀ i (inside : i < segments.length), segments[i].index = i
  inhabited : ∀ segment ∈ segments, segment.span.start < segment.span.stop
  boundaries : ∀ segment ∈ segments,
    source.isBoundary segment.span.start = true ∧ source.isBoundary segment.span.stop = true
  first : ∀ some : 0 < segments.length, segments[0].span.start = 0
  adjacent : ∀ i (inside : i + 1 < segments.length),
    segments[i + 1].span.start = segments[i].span.stop
  last : ∀ some : segments ≠ [], (segments.getLast some).span.stop = source.size
  empty : segments = [] ↔ source = []
  verbatim : ∀ segment ∈ segments, segment.kind = .code →
    segment.fragments.flatten = segment.span.text source

namespace Stretch

variable {source : Text} {rs : List Stretch}

theorem mem_segments {segment : Segment} :
    segment ∈ segments rs ↔ ∃ i, ∃ inside : i < rs.length, rs[i].segment i = segment := by
  rw [segments, List.mem_mapIdx]

/-- The segments of stretches tile a source that the stretches hold all pieces of. -/
theorem segments_tile (laid : Laid 0 source (rs.flatMap pieces)) : Tiles source (segments rs) where
  indexed i inside := by simp [segments, segment]
  inhabited s member := by
    obtain ⟨i, inside, rfl⟩ := mem_segments.mp member
    have filled := Text.size_pos.mpr (spell_ne_nil laid inside)
    change rs[i].span.start < rs[i].span.stop
    rw [span_getElem laid inside, textBefore_succ inside, Text.size_append]
    exact Nat.lt_add_of_pos_right filled
  boundaries s member := by
    obtain ⟨i, inside, rfl⟩ := mem_segments.mp member
    change source.isBoundary rs[i].span.start = true ∧ source.isBoundary rs[i].span.stop = true
    rw [span_getElem laid inside]
    exact ⟨isBoundary_textBefore laid i, isBoundary_textBefore laid (i + 1)⟩
  first some := by
    have inside : 0 < rs.length := by simpa [segments] using some
    simp only [segments, List.getElem_mapIdx, segment, span_getElem laid inside]
    rfl
  adjacent i inside := by
    have next : i + 1 < rs.length := by simpa [segments] using inside
    simp only [segments, List.getElem_mapIdx, segment, span_getElem laid next,
      span_getElem laid (Nat.lt_of_succ_lt next)]
  last some := by
    have positive : 0 < rs.length := by simpa [segments, List.length_pos_iff] using some
    have inside : rs.length - 1 < rs.length := Nat.sub_lt positive Nat.one_pos
    rw [List.getLast_eq_getElem]
    simp only [segments, List.getElem_mapIdx, segment, List.length_mapIdx]
    rw [span_getElem laid inside, Nat.sub_add_cancel positive, textBefore_length laid]
  empty := by
    rw [← textBefore_length laid]
    cases rs with
    | nil => simp [segments, textBefore]
    | cons r rs =>
      have filled : Piece.spell r.pieces ≠ [] := spell_ne_nil laid (Nat.zero_lt_succ rs.length)
      simp [segments, textBefore, filled]
  verbatim s member code := by
    obtain ⟨i, inside, rfl⟩ := mem_segments.mp member
    have split := textBefore_append laid (i + 1)
    rw [textBefore_succ inside, List.append_assoc] at split
    change rs[i].fragments.flatten = rs[i].span.text source
    rw [fragments_flatten code, Span.text, span_getElem laid inside, textBefore_succ inside,
      Text.size_append, split, Text.slice_append]

end Stretch

/-- The pieces of a source, in their stretches. -/
theorem laid_stretches (source : Text) :
    Laid 0 source
      ((Grouping.ofPieces (Scanner.ofSource source).pieces).all.flatMap Stretch.pieces) := by
  rw [Grouping.pieces_ofPieces]
  exact (Scanner.placed_ofSource source).laid

/-- Whenever a source can be segmented under a policy, the segments tile it. -/
theorem segments_tile_source {source : Text} {policy : UnterminatedPolicy} {found : Array Segment}
    {diagnostics : Array Diagnostic} (ran : segments source policy = .ok (found, diagnostics)) :
    Tiles source found.toList := by
  rw [segments_of_ok ran]
  exact Stretch.segments_tile (laid_stretches source)

theorem prose_and_template_tile :
    ∃ found : Array Segment, segments "/*é*/\n`${b}`".toList .fail = .ok (found, #[]) ∧
      found.toList.map (·.span) = [⟨0, 6⟩, ⟨6, 13⟩] ∧
      Tiles "/*é*/\n`${b}`".toList found.toList := by
  have ran : (segments "/*é*/\n`${b}`".toList .fail).toOption =
      some (#[⟨.comment, [['é']], ⟨0, 6⟩, 0⟩, ⟨.code, [['\n'], "`${b}`".toList], ⟨6, 13⟩, 1⟩],
        #[]) := by
    decide +kernel
  cases outcome : segments "/*é*/\n`${b}`".toList .fail with
  | error e =>
    rw [outcome] at ran
    cases ran
  | ok found =>
    rw [outcome] at ran
    obtain rfl := Option.some.inj ran
    exact ⟨_, rfl, rfl, segments_tile_source outcome⟩

end Weave
