import Weave.Conversion.Basic
import Weave.Proofs.Stretches

/-!
Handing segments over as they are finished comes to the same as collecting them first. A run with any
sink follows the run with a sink that takes everything, step by step, until the sink refuses a
segment; what the sink holds then is what it would hold if the collected segments were handed to it
one after the other. For a document in memory nothing is refused, and `convert` is `segments` and
then the writing of the blocks.
-/

namespace Weave

namespace Sink

variable {σ : Type} [Sink σ]

/-- Hands segments to a sink one after the other, up to the first that it refuses. -/
def acceptAll (sink : σ) : List Segment → σ × Except ConversionError Unit
  | [] => (sink, .ok ())
  | segment :: more =>
    match Sink.accept sink segment with
    | (sink, .ok ()) => acceptAll sink more
    | (sink, .error e) => (sink, .error e)

theorem acceptAll_append {sink sink' : σ} {xs : List Segment}
    (taken : acceptAll sink xs = (sink', .ok ())) (ys : List Segment) :
    acceptAll sink (xs ++ ys) = acceptAll sink' ys := by
  induction xs generalizing sink with
  | nil =>
    cases taken
    rfl
  | cons x xs ih =>
    rw [List.cons_append, acceptAll]
    rw [acceptAll] at taken
    rcases step : Sink.accept sink x with ⟨next, _ | _⟩ <;> rw [step] at taken
    · cases taken
    · exact ih taken

/-- What comes behind a refused segment makes no difference. -/
theorem acceptAll_refused {sink sink' : σ} {e : ConversionError} {xs ys : List Segment}
    (refused : acceptAll sink xs = (sink', .error e)) (longer : xs <+: ys) :
    acceptAll sink ys = (sink', .error e) := by
  obtain ⟨more, rfl⟩ := longer
  induction xs generalizing sink with
  | nil => cases refused
  | cons x xs ih =>
    rw [List.cons_append, acceptAll]
    rw [acceptAll] at refused
    rcases step : Sink.accept sink x with ⟨next, _ | _⟩ <;> rw [step] at refused
    · exact refused
    · exact ih refused

end Sink

namespace Segmenter

variable {σ : Type}

/-- The segmenter with another sink. -/
def withSink {τ : Type} (g : Segmenter τ) (sink : σ) : Segmenter σ where
  sink
  run := g.run
  buffer := g.buffer
  span := g.span
  nextIndex := g.nextIndex
  policy := g.policy
  diagnostics := g.diagnostics

/-- What a step of a segmenter comes to. -/
abbrev Step (σ : Type) := Segmenter σ → Segmenter σ × Except ConversionError Unit

/-- One step and then another, unless the first fails. -/
def Step.andThen (first second : Step σ) : Step σ := fun g =>
  match first g with
  | (g, .ok ()) => second g
  | (g, .error e) => (g, .error e)

/-- The segment that handing over the run would hand over. -/
def pending? (g : Segmenter σ) : Option Segment :=
  match g.run.kind? with
  | none => none
  | some kind =>
    if g.buffer.isEmpty then none
    else some { kind, fragments := g.buffer.toList, span := g.span.getD ⟨0, 0⟩, index := g.nextIndex }

variable [Sink σ]

theorem flush_of_idle {g : Segmenter σ} (idle : g.pending? = none) : g.flush = (g, .ok ()) := by
  unfold pending? at idle
  unfold flush
  cases set : g.run.kind? with
  | none => rfl
  | some kind =>
    simp only [set] at idle
    by_cases empty : g.buffer.isEmpty = true
    · exact if_pos empty
    · rw [if_neg empty] at idle
      cases idle

theorem flush_of_pending {g : Segmenter σ} {segment : Segment} (full : g.pending? = some segment) :
    g.flush =
      ({ g with
        sink := (Sink.accept g.sink segment).1
        buffer := #[], span := none, nextIndex := g.nextIndex + 1 },
        (Sink.accept g.sink segment).2) := by
  unfold pending? at full
  unfold flush
  cases set : g.run.kind? with
  | none =>
    rw [set] at full
    cases full
  | some kind =>
    simp only [set] at full
    by_cases empty : g.buffer.isEmpty = true
    · rw [if_pos empty] at full
      cases full
    · rw [if_neg empty] at full
      cases full
      exact if_neg empty

/-- A segmenter whose sink, which was `start` at first, has taken the segments that `c` collected,
and which is like `c` otherwise. -/
structure Follows (start : σ) (g : Segmenter σ) (c : Segmenter Collector) : Prop where
  handed : Sink.acceptAll start c.sink.accepted.toList = (g.sink, .ok ())
  willing : ∀ call, c.sink.refuses call = false
  same : g = c.withSink g.sink

/-- Two outcomes agree, or the first is that its sink refused one of the segments that the second
collected. -/
def Mirrors (start : σ) (ran : Segmenter σ × Except ConversionError Unit)
    (collected : Segmenter Collector × Except ConversionError Unit) : Prop :=
  (ran.2 = collected.2 ∧ Follows start ran.1 collected.1) ∨
    ∃ e, ran.2 = .error e ∧
      Sink.acceptAll start collected.1.sink.accepted.toList = (ran.1.sink, .error e)

/-- Steps that lead from segmenters of which one follows the other to outcomes that mirror each
other. What has been collected is kept. -/
structure Parallel (start : σ) (step : Step σ) (collecting : Step Collector) : Prop where
  mirrors : ∀ {g c}, Follows start g c → Mirrors start (step g) (collecting c)
  grows : ∀ c, c.sink.accepted.toList <+: (collecting c).1.sink.accepted.toList

variable {start : σ}

theorem Parallel.andThen {first second : Step σ} {first' second' : Step Collector}
    (before : Parallel start first first') (after : Parallel start second second') :
    Parallel start (first.andThen second) (first'.andThen second') where
  mirrors := by
    intro g c follows
    unfold Step.andThen
    rcases before.mirrors follows with ⟨same, follows⟩ | ⟨e, failed, refused⟩
    · rcases ran : first g with ⟨g', outcome⟩
      rcases collected : first' c with ⟨c', outcome'⟩
      rw [ran, collected] at same follows
      obtain rfl : outcome = outcome' := same
      cases outcome with
      | error e => exact .inl ⟨rfl, follows⟩
      | ok _ => exact after.mirrors follows
    · -- The first sink has refused, and takes nothing from here on.
      rcases ran : first g with ⟨g', outcome⟩
      rcases collected : first' c with ⟨c', outcome'⟩
      rw [ran, collected] at refused
      rw [ran] at failed
      obtain rfl : outcome = .error e := failed
      cases outcome' with
      | error e' => exact .inr ⟨e, rfl, refused⟩
      | ok _ => exact .inr ⟨e, rfl, Sink.acceptAll_refused refused (after.grows c')⟩
  grows := by
    intro c
    unfold Step.andThen
    have kept := before.grows c
    rcases collected : first' c with ⟨c', _ | _⟩ <;> rw [collected] at kept
    · exact kept
    · exact kept.trans (after.grows c')

/-- Steps that leave the sinks alone and do the same otherwise. -/
theorem Parallel.of_keeps {step : Step σ} {collecting : Step Collector}
    (keeps : ∀ c, (collecting c).1.sink = c.sink)
    (same : ∀ (sink : σ) c, step (c.withSink sink) =
      ((collecting c).1.withSink sink, (collecting c).2)) :
    Parallel start step collecting where
  mirrors := by
    intro g c follows
    have outcome := same g.sink c
    rw [← follows.same] at outcome
    refine .inl ⟨by rw [outcome], ?_, ?_, ?_⟩
    · rw [outcome, keeps]
      exact follows.handed
    · rw [keeps]
      exact follows.willing
    · rw [outcome]
      rfl
  grows := by
    intro c
    exact (keeps c).symm ▸ List.prefix_rfl

/-- A sink that takes everything takes the segment that is handed over. -/
theorem accept_collector {c : Collector} (willing : ∀ call, c.refuses call = false)
    (segment : Segment) :
    Sink.accept c segment =
      ({ c with calls := c.calls + 1, accepted := c.accepted.push segment }, .ok ()) := by
  simp [Sink.accept, willing]

/-- Handing over the run hands over one segment more, if there is something to hand over. -/
theorem parallel_flush : Parallel start flush flush where
  mirrors := by
    intro g c follows
    have pending_eq : g.pending? = c.pending? := by
      rw [follows.same]
      rfl
    cases pending : c.pending? with
    | none =>
      rw [flush_of_idle (pending_eq.trans pending), flush_of_idle pending]
      exact .inl ⟨rfl, follows⟩
    | some segment =>
      rw [flush_of_pending (pending_eq.trans pending), flush_of_pending pending,
        accept_collector follows.willing]
      have handed := Sink.acceptAll_append follows.handed [segment]
      rw [← Array.toList_push] at handed
      rcases step : Sink.accept g.sink segment with ⟨sink, e | _⟩
      · refine .inr ⟨e, rfl, handed.trans ?_⟩
        rw [Sink.acceptAll, step]
      · refine .inl ⟨rfl, handed.trans ?_, follows.willing, ?_⟩
        · rw [Sink.acceptAll, step]
          rfl
        · rw [follows.same]
          rfl
  grows := by
    intro c
    cases pending : c.pending? with
    | none => exact (flush_of_idle pending).symm ▸ List.prefix_rfl
    | some segment =>
      rw [flush_of_pending pending]
      dsimp only [Sink.accept]
      split
      · exact List.prefix_rfl
      · exact ⟨[segment], Array.toList_push.symm⟩

/-- Turning to a class hands over a run of the other class. -/
theorem parallel_enter (run : Run) : Parallel start (·.enter run) (·.enter run) := by
  have turn : Parallel start (Step.andThen flush fun g => ({ g with run }, .ok ()))
      (Step.andThen flush fun c => ({ c with run }, .ok ())) :=
    parallel_flush.andThen (.of_keeps (fun _ => rfl) fun _ _ => rfl)
  have enter_eq {τ : Type} [Sink τ] (g : Segmenter τ) : g.enter run =
      if g.run = run then (g, .ok ())
      else Step.andThen flush (fun g => ({ g with run }, .ok ())) g := rfl
  constructor
  · intro g c follows
    have run_eq : g.run = c.run := by
      rw [follows.same]
      rfl
    rw [enter_eq, enter_eq, run_eq]
    split
    · exact .inl ⟨rfl, follows⟩
    · exact turn.mirrors follows
  · intro c
    rw [enter_eq]
    split
    · exact List.prefix_rfl
    · exact turn.grows c

/-- Reports a piece that the source does not end. -/
def reportPiece {τ : Type} (source : Text) (p : Piece) : Step τ := fun g =>
  if p.terminated then (g, .ok ())
  else g.reportUnterminated source { p.span with terminated := false, maxDepth := 0 }

/-- Taking a piece is turning to its class, reporting it if need be, and adding it. -/
theorem takePiece_eq_andThen {τ : Type} [Sink τ] (source : Text) (p : Piece) :
    (fun g : Segmenter τ => g.takePiece source p) =
      Step.andThen (·.enter (.ofKind p.kind))
        (Step.andThen (reportPiece source p) fun g => (g.add p.fragments p.span, .ok ())) := by
  funext g
  dsimp only [takePiece, Step.andThen, reportPiece]
  rcases g.enter (.ofKind p.kind) with ⟨g, _ | _⟩
  · rfl
  · dsimp only
    split <;> split <;> simp_all

theorem parallel_reportPiece (source : Text) (p : Piece) :
    Parallel start (reportPiece source p) (reportPiece source p) := by
  refine .of_keeps (fun c => ?_) fun sink c => ?_
  · unfold reportPiece reportUnterminated
    split
    · rfl
    · cases c.policy <;> rfl
  · rcases c with ⟨_, _, _, _, _, policy, _⟩
    unfold reportPiece
    split
    · rfl
    · cases policy <;> rfl

theorem parallel_takePiece (source : Text) (p : Piece) :
    Parallel start (·.takePiece source p) (·.takePiece source p) := by
  have add : Parallel start (fun g => (g.add p.fragments p.span, .ok ()))
      fun c => (c.add p.fragments p.span, .ok ()) := .of_keeps (fun _ => rfl) fun _ _ => rfl
  rw [takePiece_eq_andThen, takePiece_eq_andThen]
  exact (parallel_enter _).andThen ((parallel_reportPiece source p).andThen add)

theorem parallel_takePieces (source : Text) (ps : List Piece) :
    Parallel start (·.takePieces source ps) (·.takePieces source ps) := by
  induction ps with
  | nil => exact .of_keeps (fun _ => rfl) fun _ _ => rfl
  | cons p ps ih => exact (parallel_takePiece source p).andThen ih

theorem parallel_finish (source : Text) (ps : List Piece) :
    Parallel start (·.finish source ps) (·.finish source ps) :=
  (parallel_takePieces source ps).andThen parallel_flush

/-- A run over a source with any sink mirrors the one that collects the segments. -/
theorem runAll_mirrors_collect (sink : σ) (source : Text) (policy : UnterminatedPolicy) :
    let ran := ({ sink, policy } : Segmenter σ).runAll (Scanner.ofSource source)
    Mirrors sink (ran.1.1, ran.2) (collect source policy) := by
  have started : Follows sink ({ sink, policy } : Segmenter σ)
      ({ sink := {}, policy } : Segmenter Collector) := ⟨rfl, fun _ => rfl, rfl⟩
  have finished := (parallel_finish source (Scanner.ofSource source).pieces).mirrors started
  dsimp only
  rw [collect_eq_finish, runAll_eq_finish _ _ (Scanner.placed_ofSource source)]
  exact finished

end Segmenter

/-! ### Documents -/

namespace Text

/-- Behind the first of the texts, a line break stands before each text. -/
theorem intercalate_cons (first : Text) (more : List Text) :
    ['\n'].intercalate (first :: more) = first ++ more.flatMap ('\n' :: ·) := by
  induction more generalizing first with
  | nil => simp [List.intercalate]
  | cons second more ih => simp [List.intercalate_cons_cons, ih]

/-- Behind texts, further texts follow a line break. -/
theorem intercalate_append {texts more : List Text} (before : texts ≠ []) (behind : more ≠ []) :
    ['\n'].intercalate (texts ++ more) =
      ['\n'].intercalate texts ++ '\n' :: ['\n'].intercalate more := by
  obtain ⟨first, others, rfl⟩ := List.exists_cons_of_ne_nil before
  obtain ⟨next, later, rfl⟩ := List.exists_cons_of_ne_nil behind
  simp only [List.cons_append, intercalate_cons]
  simp

theorem intercalate_concat {texts : List Text} (inhabited : texts ≠ []) (last : Text) :
    ['\n'].intercalate (texts ++ [last]) = ['\n'].intercalate texts ++ '\n' :: last := by
  rw [intercalate_append inhabited (List.cons_ne_nil last []), List.intercalate_singleton]

/-- A text is added behind a line break unless it is the first. -/
theorem intercalate_concat_eq (texts : List Text) (last : Text) :
    ['\n'].intercalate (texts ++ [last]) =
      ['\n'].intercalate texts ++ ((if 0 < texts.length then ['\n'] else []) ++ last) := by
  split
  · next others => exact intercalate_concat (List.ne_nil_of_length_pos others) last
  · next first =>
    obtain rfl : texts = [] := List.eq_nil_of_length_eq_zero (by omega)
    simp

end Text

namespace Document

/-- The segments that a block is written for. -/
def written (segments : List Segment) : List Segment := segments.filter (!·.body.isEmpty)

/-- The blocks of the segments that have a body, with an empty line between each two. -/
def render (fenceLang : Text) (segments : List Segment) : Text :=
  ['\n'].intercalate ((written segments).map (block fenceLang))

/-- The texts that are written for segments, one after the other, behind `blocks` earlier blocks. -/
def writes (fenceLang : Text) : (blocks : Nat) → List Segment → List Text
  | _, [] => []
  | blocks, segment :: more =>
    if segment.body.isEmpty then writes fenceLang blocks more
    else (if 0 < blocks then [['\n']] else []) ++ parts fenceLang segment ++
      writes fenceLang (blocks + 1) more

theorem written_cons (segment : Segment) (more : List Segment) :
    written (segment :: more) =
      if segment.body.isEmpty then written more else segment :: written more := by
  rw [written, List.filter_cons]
  cases segment.body.isEmpty <;> rfl

/-- Behind other blocks, an empty line stands before each block. -/
theorem flatten_writes_succ (fenceLang : Text) (blocks : Nat) (segments : List Segment) :
    (writes fenceLang (blocks + 1) segments).flatten =
      (written segments).flatMap fun segment => '\n' :: block fenceLang segment := by
  induction segments generalizing blocks with
  | nil => rfl
  | cons segment more ih =>
    rw [writes, written_cons]
    split
    · exact ih blocks
    · simp [ih, block]

/-- What is written for segments from the start of a document on is the document. -/
theorem flatten_writes (fenceLang : Text) (segments : List Segment) :
    (writes fenceLang 0 segments).flatten = render fenceLang segments := by
  induction segments with
  | nil => rfl
  | cons segment more ih =>
    rw [writes, render, written_cons]
    split
    · exact ih
    · rw [List.map_cons, Text.intercalate_cons, List.flatMap_map, ← flatten_writes_succ fenceLang 0 more]
      simp [block]

end Document

theorem Output.writeAll_append {ω : Type} [Output ω] (output : ω) (xs ys : List Text) :
    writeAll output (xs ++ ys) =
      match writeAll output xs with
      | (output, .ok ()) => writeAll output ys
      | (output, .error fault) => (output, .error fault) := by
  induction xs generalizing output with
  | nil => rfl
  | cons x xs ih =>
    rw [List.cons_append, writeAll, writeAll]
    rcases write output x with ⟨next, _ | _⟩
    · rfl
    · exact ih next

/-- A page takes all that is written to it. -/
theorem Page.writeAll_eq (page : Page) (texts : List Text) :
    ∃ page', Output.writeAll page texts = (page', .ok ()) ∧
      page'.text = page.text ++ texts.flatten := by
  induction texts generalizing page with
  | nil => exact ⟨page, rfl, by simp⟩
  | cons text more ih =>
    obtain ⟨page', rest, text_eq⟩ := ih { pieces := page.pieces.push text }
    refine ⟨page', rest, ?_⟩
    rw [text_eq]
    simp [Page.text]

/-- Emitting segments is writing a list of texts that the segments alone determine. If none of them
is refused, the blocks are counted. -/
theorem Emitter.acceptAll_eq_writeAll {ω : Type} [Output ω] (e : Emitter ω)
    (segments : List Segment) :
    ∃ blocks,
      Sink.acceptAll e segments =
        ({ e with
            output := (Output.writeAll e.output (Document.writes e.fenceLang e.blocks segments)).1
            blocks },
          (Output.writeAll e.output (Document.writes e.fenceLang e.blocks segments)).2.mapError
            .output) ∧
      ((Output.writeAll e.output (Document.writes e.fenceLang e.blocks segments)).2 = .ok () →
        blocks = e.blocks + (Document.written segments).length) := by
  induction segments generalizing e with
  | nil => exact ⟨e.blocks, rfl, fun _ => rfl⟩
  | cons segment more ih =>
    rw [Sink.acceptAll, Document.writes, Document.written_cons]
    dsimp only [Sink.accept, emit]
    by_cases empty : segment.body.isEmpty = true
    · simp only [if_pos empty]
      exact ih e
    · simp only [if_neg empty]
      generalize (if 0 < e.blocks then [['\n']] else []) ++ Document.parts e.fenceLang segment = texts
      rw [Output.writeAll_append]
      rcases Output.writeAll e.output texts with ⟨output, fault | _⟩
      · exact ⟨e.blocks, rfl, fun taken => by cases taken⟩
      · obtain ⟨blocks, rest, counted⟩ := ih { e with output, blocks := e.blocks + 1 }
        refine ⟨blocks, rest, fun taken => ?_⟩
        rw [counted taken, List.length_cons]
        exact Nat.add_right_comm _ _ _

/-- Converting a source to an output is emitting the segments that a run hands over. If none of them
is refused, the conversion ends as the run does, and what was written is passed on at the end of a
complete one. -/
theorem convertTo_eq {ω : Type} [Output ω] (source : Text) (options : ConversionOptions)
    (output : ω) :
    convertTo source options output =
      match Sink.acceptAll ({ output, fenceLang := options.fenceLang } : Emitter ω)
        (Segmenter.collect source options.unterminated).1.sink.accepted.toList with
      | (e, .error cause) => (e.output, .error cause)
      | (e, .ok ()) =>
        match (Segmenter.collect source options.unterminated).2 with
        | .error cause => (e.output, .error cause)
        | .ok () =>
          match Output.flush e.output with
          | .error fault => (e.output, .error (.output fault))
          | .ok () =>
            (e.output, .ok
              { blocks := e.blocks
                diagnostics :=
                  (Segmenter.collect source options.unterminated).1.diagnostics.toList }) := by
  let start : Emitter ω := { output, fenceLang := options.fenceLang }
  have mirrors := Segmenter.runAll_mirrors_collect start source options.unterminated
  rcases collected : Segmenter.collect source options.unterminated with ⟨c, outcome⟩
  rcases ran : ({ sink := start, policy := options.unterminated } : Segmenter (Emitter ω)).runAll
    (Scanner.ofSource source) with ⟨⟨g, s⟩, outcome'⟩
  rw [collected, ran] at mirrors
  unfold convertTo
  dsimp only
  rw [ran]
  rcases mirrors with ⟨same, follows⟩ | ⟨cause, stopped, refused⟩
  · obtain rfl : outcome' = outcome := same
    have noted : g.diagnostics = c.diagnostics := congrArg Segmenter.diagnostics follows.same
    rw [follows.handed, ← noted]
    cases outcome' <;> rfl
  · obtain rfl : outcome' = .error cause := stopped
    rw [refused]

/-- Converting a source is finding its segments and writing a block for each that has a body. -/
theorem convert_eq (source : Text) (options : ConversionOptions) :
    convert source options =
      (segments source options.unterminated).map fun (found, diagnostics) =>
        { blocks := (Document.written found.toList).length
          diagnostics := diagnostics.toList
          document := Document.render options.fenceLang found.toList } := by
  let start : Emitter Page := { output := {}, fenceLang := options.fenceLang }
  rw [convert, convertTo_eq, segments_eq_collect]
  rcases Segmenter.collect source options.unterminated with ⟨c, outcome⟩
  obtain ⟨blocks, emitted, counted⟩ := start.acceptAll_eq_writeAll c.sink.accepted.toList
  obtain ⟨page, wrote, text_eq⟩ := start.output.writeAll_eq
    (Document.writes start.fenceLang start.blocks c.sink.accepted.toList)
  rw [wrote] at emitted counted
  rw [Document.flatten_writes] at text_eq
  cases outcome with
  | error cause =>
    simp only [start] at emitted
    rw [emitted]
    rfl
  | ok _ =>
    simp only [start] at emitted
    rw [emitted]
    simp only [Except.mapError, Output.flush, text_eq, counted rfl, start, Nat.zero_add]
    rfl

end Weave
