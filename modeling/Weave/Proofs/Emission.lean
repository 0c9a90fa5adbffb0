import Weave.Proofs.BoundedWriting
import Weave.Proofs.Separation

/-!
Emission of segments one by one, going on behind a refusal. An output that has refused something is
full and refuses all the rest, so the state of the emitter is known from the blocks alone: the output
is as if their document had been written at once, and the blocks counted are those that end within
the limit. What separates the blocks is decided by that count; it is the right separator as long as
it can be written at all.
-/

namespace Weave

/-- Emits segments one after the other, whether or not the output takes them. -/
def Emitter.emitAll {ω : Type} [Output ω] (e : Emitter ω) (segments : List Segment) : Emitter ω :=
  segments.foldl (fun e segment => (e.emit segment).1) e

namespace BoundedOutput

/-- An output that has refused something refuses all that is not empty, and keeps what it holds. -/
theorem writeBytes_of_refused {out full : BoundedOutput} {fault : Fault} {front rest : Bytes}
    (refused : out.writeBytes front = (full, .error fault)) (more : rest ≠ []) :
    full.writeBytes rest = (full, .error fault) := by
  obtain ⟨limit, failsFlush, written⟩ := out
  cases limit with
  | none => cases refused
  | some most =>
    rw [writeBytes_bounded] at refused
    split at refused
    · cases refused
    · next exceeds =>
      cases refused
      have size_eq : (written ++ front.take (most - written.size)).size =
          written.size + (most - written.size) := by
        rw [← Array.length_toList, Array.toList_appendList, List.length_append, Array.length_toList,
          List.length_take]
        omega
      have noRoom : most - (written ++ front.take (most - written.size)).size = 0 := by omega
      have positive : 0 < rest.length := List.length_pos_iff.mpr more
      rw [writeBytes_bounded, noRoom, if_neg (by omega)]
      simp

theorem writeBytes_nil (out : BoundedOutput) : out.writeBytes [] = (out, .ok ()) :=
  (out.writeAll_eq_writeBytes []).symm

/-- The blocks of a document that an output takes in full when the document is written to it. -/
def blocksTaken (out : BoundedOutput) (blocks : List Text) : Nat :=
  (List.range blocks.length).countP fun k =>
    (out.writeBytes (Utf8.encode (['\n'].intercalate (blocks.take (k + 1))))).2.isOk

theorem blocksTaken_concat (out : BoundedOutput) (blocks : List Text) (last : Text) :
    out.blocksTaken (blocks ++ [last]) = out.blocksTaken blocks +
      if (out.writeBytes (Utf8.encode (['\n'].intercalate (blocks ++ [last])))).2.isOk then 1
      else 0 := by
  have whole : (blocks ++ [last]).take (blocks.length + 1) = blocks ++ [last] :=
    List.take_of_length_le (by simp)
  have before : ∀ k ∈ List.range blocks.length,
      (blocks ++ [last]).take (k + 1) = blocks.take (k + 1) := by
    intro k inside
    apply List.take_append_of_le_length
    have bound := List.mem_range.mp inside
    omega
  simp only [blocksTaken, List.length_append, List.length_singleton, List.range_succ,
    List.countP_append, List.countP_singleton, whole]
  congr 1
  apply List.countP_congr
  intro k inside
  rw [before k inside]

/-- Where a whole document is taken, all its blocks are. -/
theorem blocksTaken_of_ok {out after : BoundedOutput} {blocks : List Text}
    (taken : out.writeBytes (Utf8.encode (['\n'].intercalate blocks)) = (after, .ok ())) :
    out.blocksTaken blocks = blocks.length := by
  induction blocks using List.reverseRecOn generalizing after with
  | nil => rfl
  | append_singleton blocks last ih =>
    have whole := taken
    rw [Text.intercalate_concat_eq, Utf8.encode_append, writeBytes_append] at taken
    rcases front : out.writeBytes (Utf8.encode (['\n'].intercalate blocks)) with ⟨next, _ | _⟩
    · rw [front] at taken
      cases taken
    · rw [blocksTaken_concat, ih front, whole, List.length_append]
      rfl

end BoundedOutput

namespace Emitter

/-- The emitter behind blocks that were written to an output from `start` on. -/
def behind (start : BoundedOutput) (fenceLang : Text) (blocks : List Text) :
    Emitter BoundedOutput where
  output := (start.writeBytes (Utf8.encode (['\n'].intercalate blocks))).1
  fenceLang
  blocks := start.blocksTaken blocks

theorem behind_nil (start : BoundedOutput) (fenceLang : Text) :
    behind start fenceLang [] = { output := start, fenceLang } := by
  have empty : start.writeBytes (Utf8.encode (['\n'].intercalate [])) = (start, .ok ()) :=
    start.writeBytes_nil
  rw [behind, empty]
  rfl

theorem emit_of_empty {ω : Type} [Output ω] (e : Emitter ω) {segment : Segment}
    (empty : segment.body = []) : e.emit segment = (e, .ok ()) := by
  simp [emit, empty]

/-- A block is written together with what separates it from the one before, and counts if all of it
is taken. -/
theorem emit_bounded (e : Emitter BoundedOutput) {segment : Segment}
    (inhabited : segment.body ≠ []) {written : BoundedOutput × Except Fault Unit}
    (wrote : e.output.writeBytes (Utf8.encode
      ((if 0 < e.blocks then ['\n'] else []) ++ Document.block e.fenceLang segment)) = written) :
    (e.emit segment).1 =
      { e with output := written.1, blocks := e.blocks + if written.2.isOk then 1 else 0 } := by
  have filled : ¬ segment.body.isEmpty = true := by simpa using inhabited
  have texts : ((if 0 < e.blocks then [['\n']] else []) ++
      Document.parts e.fenceLang segment).flatten =
      (if 0 < e.blocks then ['\n'] else []) ++ Document.block e.fenceLang segment := by
    rw [List.flatten_append, Document.block]
    split <;> rfl
  rw [emit, if_neg filled]
  dsimp only
  rw [BoundedOutput.writeAll_eq_writeBytes, texts, wrote]
  obtain ⟨output, _ | _⟩ := written <;> rfl

/-- Behind some blocks, the output takes of one more what it would take of the whole document. If it
has refused something already, it does not matter what separates that block from the others. -/
theorem writeBytes_behind (start : BoundedOutput) (fenceLang : Text) (blocks : List Text)
    {block : Text} (inhabited : block ≠ []) :
    (behind start fenceLang blocks).output.writeBytes (Utf8.encode
        ((if 0 < (behind start fenceLang blocks).blocks then ['\n'] else []) ++ block)) =
      start.writeBytes (Utf8.encode (['\n'].intercalate (blocks ++ [block]))) := by
  have whole : Utf8.encode (['\n'].intercalate (blocks ++ [block])) =
      Utf8.encode (['\n'].intercalate blocks) ++
        Utf8.encode ((if 0 < blocks.length then ['\n'] else []) ++ block) := by
    rw [Text.intercalate_concat_eq, Utf8.encode_append]
  rw [whole, BoundedOutput.writeBytes_append, behind]
  rcases written : start.writeBytes (Utf8.encode (['\n'].intercalate blocks)) with ⟨out, fault | _⟩
  · apply BoundedOutput.writeBytes_of_refused written
    apply Utf8.encode_ne_nil
    simp [inhabited]
  · rw [BoundedOutput.blocksTaken_of_ok written]

/-- Emitting a segment leads from the state behind some blocks to the state behind one more. -/
theorem emit_behind (start : BoundedOutput) (fenceLang : Text) (blocks : List Text)
    {segment : Segment} (inhabited : segment.body ≠ []) :
    ((behind start fenceLang blocks).emit segment).1 =
      behind start fenceLang (blocks ++ [Document.block fenceLang segment]) := by
  have filled : Document.block fenceLang segment ≠ [] := by
    obtain ⟨c, rest, shape, -⟩ := (Document.block_framed fenceLang inhabited).starts
    simp [shape]
  rw [emit_bounded _ inhabited (writeBytes_behind start fenceLang blocks filled), behind, behind,
    BoundedOutput.blocksTaken_concat]

theorem emitAll_behind (start : BoundedOutput) (fenceLang : Text) (blocks : List Text)
    (segments : List Segment) :
    (behind start fenceLang blocks).emitAll segments =
      behind start fenceLang
        (blocks ++ (Document.written segments).map (Document.block fenceLang)) := by
  induction segments generalizing blocks with
  | nil => simp [emitAll, Document.written]
  | cons segment segments ih =>
    rw [Document.written_cons]
    split
    · next empty =>
      have same := (behind start fenceLang blocks).emit_of_empty (List.isEmpty_iff.mp empty)
      rw [← ih, emitAll, List.foldl_cons, same]
      rfl
    · next filled =>
      have inhabited : segment.body ≠ [] := by simpa using filled
      rw [List.map_cons, List.append_cons, ← ih, emitAll, List.foldl_cons,
        emit_behind start fenceLang blocks inhabited]
      rfl

end Emitter

/-- Blocks that are one empty line apart in a document: a block, and a document with something in it,
begins with a visible character and ends with one and a line break; wherever the document is divided
between blocks, there is one line break more. -/
structure OneLineApart (blocks : List Text) (document : Text) : Prop where
  blocks_framed : ∀ block ∈ blocks, Framed block
  document_framed : document = [] ∨ Framed document
  between : ∀ before behind, before ++ behind = blocks → before ≠ [] → behind ≠ [] →
    ∃ front last first back, Text.isSpace last = false ∧ Text.isSpace first = false ∧
      ['\n'].intercalate before = front ++ [last, '\n'] ∧
      ['\n'].intercalate behind = first :: back ∧
      document = front ++ [last, '\n', '\n', first] ++ back

theorem OneLineApart.of_framed {blocks : List Text} (framed : ∀ block ∈ blocks, Framed block) :
    OneLineApart blocks (['\n'].intercalate blocks) where
  blocks_framed := framed
  document_framed := by
    by_cases inhabited : blocks = []
    · exact .inl (by simp [inhabited])
    · exact .inr (Framed.intercalate framed inhabited)
  between := by
    rintro before behind rfl left right
    have framedBefore : Framed (['\n'].intercalate before) :=
      Framed.intercalate (fun block member => framed block (List.mem_append_left _ member)) left
    have framedBehind : Framed (['\n'].intercalate behind) :=
      Framed.intercalate (fun block member => framed block (List.mem_append_right _ member)) right
    obtain ⟨front, last, before_eq, ink⟩ := framedBefore.ends
    obtain ⟨first, back, behind_eq, ink'⟩ := framedBehind.starts
    refine ⟨front, last, first, back, ink, ink', before_eq, behind_eq, ?_⟩
    rw [Text.intercalate_append left right, before_eq, behind_eq]
    simp

/-- Emitting segments writes one block for each that has a body, with one empty line between each
two. An output that takes a limited number of bytes holds the first bytes of that document, and the
blocks counted are those that end within the limit, however often emission goes on behind a
refusal. -/
theorem emission_one_line_apart (fenceLang : Text) (segments : List Segment) :
    let blocks := (Document.written segments).map (Document.block fenceLang)
    let document := ['\n'].intercalate blocks
    let emitted (limit : Option Nat) :=
      ({ output := { limit }, fenceLang } : Emitter BoundedOutput).emitAll segments
    OneLineApart blocks document ∧
    (emitted none).output.written.toList = Utf8.encode document ∧
    (emitted none).blocks = blocks.length ∧
    ∀ most,
      (emitted (some most)).output.written.toList = (Utf8.encode document).take most ∧
      (emitted (some most)).blocks = (List.range blocks.length).countP fun k =>
        (Utf8.encode (['\n'].intercalate (blocks.take (k + 1)))).length ≤ most := by
  intro blocks document emitted
  have emitted_eq (limit : Option Nat) :
      emitted limit = Emitter.behind { limit } fenceLang blocks := by
    have ran := Emitter.emitAll_behind { limit } fenceLang [] segments
    rwa [Emitter.behind_nil, List.nil_append] at ran
  have apart := OneLineApart.of_framed (Document.blocks_framed fenceLang segments)
  refine ⟨apart, ?_, ?_, fun most => ?_⟩
  · rw [emitted_eq, Emitter.behind, BoundedOutput.writeBytes_unbounded]
    simp [document]
  · rw [emitted_eq]
    exact BoundedOutput.blocksTaken_of_ok (BoundedOutput.writeBytes_unbounded _)
  · rw [emitted_eq]
    constructor
    · rw [Emitter.behind, BoundedOutput.writeBytes_bounded]
      simp [document]
    · apply List.countP_congr
      intro k _
      rw [BoundedOutput.writeBytes_bounded]
      dsimp only
      split <;> simp_all [Except.isOk, Except.toBool]

-- The first block does not fit, and the second, which would, is not written in its place.
example :
    let long : Segment := ⟨.comment, ["abc".toList], ⟨0, 7⟩, 0⟩
    let short : Segment := ⟨.comment, ["d".toList], ⟨7, 12⟩, 1⟩
    let e := ({ output := { limit := some 2 }, fenceLang := [] } : Emitter BoundedOutput).emitAll
      [long, short]
    e.output.written = #[0x61, 0x62] ∧ e.blocks = 0 := by
  decide +kernel

end Weave
