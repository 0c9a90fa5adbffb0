import Weave.Proofs.Streaming

/-!
The segmenter under any driving. A caller may feed tokens, skip them, ask for the pending run and
let the segmenter run, in any order, and may go on after any error. What counts then is the trail:
the segments that the sink has been offered, refused ones included, and the pending one. Handing
over only moves a segment from one part of the trail to the other, so the trail changes in one way
alone, when a piece of the source joins the pending segment or begins a new one. All that an
operation has to keep is that the trail lies in order behind the scanner.
-/

namespace Weave

/-- A sink that keeps all that another sink is offered, also what that one refuses. -/
structure Recorder (σ : Type) where
  sink : σ
  offered : List Segment := []

instance {σ : Type} [Sink σ] : Sink (Recorder σ) where
  accept r segment :=
    ({ sink := (Sink.accept r.sink segment).1, offered := r.offered ++ [segment] },
      (Sink.accept r.sink segment).2)

/-- What a caller may ask of a segmenter and the scanner that it reads from. -/
inductive Operation where
  /-- Move on to the next token and feed it. -/
  | feed
  /-- Move on to the next token and do not feed it. -/
  | skip
  | flush
  | run
  deriving DecidableEq, Repr

/-- What a sink is offered of a source, call by call. -/
structure Offers (source : Text) (segments : List Segment) : Prop where
  indexed : ∀ i (inside : i < segments.length), segments[i].index = i
  filled : ∀ segment ∈ segments, segment.fragments ≠ []
  inhabited : ∀ segment ∈ segments, segment.span.start < segment.span.stop
  within : ∀ segment ∈ segments, segment.span.stop ≤ source.size
  boundaries : ∀ segment ∈ segments,
    source.isBoundary segment.span.start = true ∧ source.isBoundary segment.span.stop = true
  ordered : segments.Pairwise fun a b => a.span.stop ≤ b.span.start

/-- The segment covers a part of the source that is not empty. If `whole` holds and the segment is
code, its fragments make up that part. -/
def Segment.CutFrom (source : Text) (whole : Prop) (segment : Segment) : Prop :=
  ∃ before part behind, source = before ++ (part ++ behind) ∧ part ≠ [] ∧
    segment.span = ⟨before.size, before.size + part.size⟩ ∧
    (whole → segment.kind = .code → segment.fragments.flatten = part)

theorem Segment.CutFrom.verbatim {source : Text} {whole : Prop} {segment : Segment}
    (cut : segment.CutFrom source whole) (kept : whole) (code : segment.kind = .code) :
    segment.fragments.flatten = segment.span.text source := by
  obtain ⟨before, part, behind, rfl, -, covers, same⟩ := cut
  rw [same kept code, covers, Span.text, Text.slice_append]

/-- Segments cut from a source one behind the other, counted from zero. -/
structure Trail (source : Text) (whole : Prop) (segments : List Segment) : Prop where
  indexed : ∀ i (inside : i < segments.length), segments[i].index = i
  filled : ∀ segment ∈ segments, segment.fragments ≠ []
  cut : ∀ segment ∈ segments, segment.CutFrom source whole
  ordered : segments.Pairwise fun a b => a.span.stop ≤ b.span.start

namespace Trail

variable {source : Text} {whole : Prop} {segments : List Segment} {segment : Segment}

theorem nil (source : Text) (whole : Prop) : Trail source whole [] :=
  ⟨by simp, by simp, by simp, .nil⟩

/-- A segment goes on a trail that lies before it. -/
theorem concat (trail : Trail source whole segments) (indexed : segment.index = segments.length)
    (filled : segment.fragments ≠ []) (cut : segment.CutFrom source whole)
    (before : ∀ a ∈ segments, a.span.stop ≤ segment.span.start) :
    Trail source whole (segments ++ [segment]) where
  indexed i inside := by
    rw [List.getElem_append]
    split
    · exact trail.indexed i _
    · rw [List.length_append, List.length_singleton] at inside
      rw [List.getElem_singleton, indexed]
      omega
  filled a member := by
    rcases List.mem_append.mp member with member | member
    · exact trail.filled a member
    · rw [List.mem_singleton.mp member]
      exact filled
  cut a member := by
    rcases List.mem_append.mp member with member | member
    · exact trail.cut a member
    · rw [List.mem_singleton.mp member]
      exact cut
  ordered := by
    refine List.pairwise_append.mpr ⟨trail.ordered, List.pairwise_singleton _ _, ?_⟩
    intro a member b here
    rw [List.mem_singleton.mp here]
    exact before a member

/-- The front of a trail is a trail, and lies before what follows it. -/
theorem front (trail : Trail source whole (segments ++ [segment])) :
    Trail source whole segments ∧ ∀ a ∈ segments, a.span.stop ≤ segment.span.start := by
  obtain ⟨ordered, -, before⟩ := List.pairwise_append.mp trail.ordered
  refine ⟨⟨?_, ?_, ?_, ordered⟩, fun a member => before a member segment (by simp)⟩
  · intro i inside
    have counted := trail.indexed i (by simp; omega)
    rwa [List.getElem_append_left inside] at counted
  · exact fun a member => trail.filled a (List.mem_append_left _ member)
  · exact fun a member => trail.cut a (List.mem_append_left _ member)

theorem offers (trail : Trail source whole segments) : Offers source segments where
  indexed := trail.indexed
  filled := trail.filled
  inhabited segment member := by
    obtain ⟨before, part, behind, -, some, covers, -⟩ := trail.cut segment member
    rw [covers]
    exact Nat.lt_add_of_pos_right (Text.size_pos.mpr some)
  within segment member := by
    obtain ⟨before, part, behind, rfl, -, covers, -⟩ := trail.cut segment member
    rw [covers, Text.size_append, Text.size_append]
    exact Nat.add_le_add_left (Nat.le_add_right _ _) _
  boundaries segment member := by
    obtain ⟨before, part, behind, rfl, -, covers, -⟩ := trail.cut segment member
    rw [covers]
    refine ⟨Text.isBoundary_append _ _, ?_⟩
    rw [← Text.size_append, ← List.append_assoc]
    exact Text.isBoundary_append _ _
  ordered := trail.ordered

end Trail

theorem Run.exists_kind {run : Run} (set : run ≠ .unset) : ∃ kind, run = .ofKind kind := by
  cases run with
  | unset => exact absurd rfl set
  | comment => exact ⟨.comment, rfl⟩
  | code => exact ⟨.code, rfl⟩

/-- What lies between a front of the source and the scanner behind it. -/
theorem Scanner.Placed.gap {s : Scanner} {front : Text} (placed : s.Placed front)
    (before behind : Text) (source_eq : s.source = before ++ behind)
    (passed : before.size ≤ s.current.stop) :
    ∃ gap, behind = gap ++ s.rest ∧ s.current.stop = before.size + gap.size := by
  have sizes := placed.stop_add_rest
  have split := placed.source_eq
  rw [source_eq, ← List.append_assoc, List.append_eq_append_iff] at split
  rcases split with ⟨gap, -, rest⟩ | ⟨beyond, longer, rest⟩
  · refine ⟨gap, rest, ?_⟩
    rw [source_eq, rest, Text.size_append, Text.size_append] at sizes
    omega
  · rw [placed.stop_eq, longer, Text.size_append _ beyond] at passed
    obtain rfl : beyond = [] := Text.size_eq_zero.mp (by omega)
    refine ⟨[], rest.symm, ?_⟩
    rw [placed.stop_eq, longer]
    simp

/-- A piece ahead of the scanner is cut from the source. -/
theorem Scanner.Placed.cut_begins {s after : Scanner} {p : Piece} {front : Text}
    (placed : s.Placed front) (ahead : s.piece? = some (p, after)) (whole : Prop) (index : Nat) :
    Segment.CutFrom s.source whole
      { kind := p.kind, fragments := p.fragments, span := p.span, index } := by
  obtain ⟨starts, split, inhabited, -⟩ := Scanner.piece?_spec placed ahead
  refine ⟨front ++ s.current.text, p.text, after.rest, ?_, inhabited, ?_, ?_⟩
  · rw [split, List.append_assoc, placed.source_eq]
  · rw [Piece.span, Piece.stop, starts, placed.stop_eq]
  · rintro - (code : p.kind = .code)
    simp [Piece.fragments, code]

/-- A segment may be extended up to the end of the piece ahead. Its code is kept whole if it
reached up to the piece. -/
theorem Scanner.Placed.cut_extends {s after : Scanner} {p : Piece} {front : Text} {whole : Prop}
    {segment : Segment}
    (placed : s.Placed front) (ahead : s.piece? = some (p, after))
    (cut : segment.CutFrom s.source whole) (kind : segment.kind = p.kind)
    (behind : segment.span.stop ≤ s.current.stop)
    (meets : whole → segment.span.stop = s.current.stop) :
    Segment.CutFrom s.source whole
      { segment with
        fragments := segment.fragments ++ p.fragments
        span := { segment.span with stop := p.stop } } := by
  obtain ⟨starts, split, -, -⟩ := Scanner.piece?_spec placed ahead
  obtain ⟨before, part, rest, source_eq, some, covers, verbatim⟩ := cut
  simp only [covers] at behind meets ⊢
  obtain ⟨gap, rfl, reached⟩ := placed.gap (before ++ part) rest
    (by rw [source_eq, List.append_assoc]) (by rw [Text.size_append]; exact behind)
  rw [Text.size_append] at reached
  refine ⟨before, part ++ gap ++ p.text, after.rest, ?_, by simp [some], ?_, ?_⟩
  · rw [source_eq, ← split]
    simp
  · rw [Piece.stop, starts, reached, Text.size_append, Text.size_append]
    simp only [Nat.add_assoc]
  · intro kept code
    have none : gap = [] := Text.size_eq_zero.mp (by have := meets kept; omega)
    have piece : p.fragments = [p.text] := by rw [Piece.fragments, ← kind, code]
    simp [piece, verbatim kept code, none]

namespace Segmenter

variable {σ : Type}

section

variable [Sink σ]

/-- Carries out an operation. An error is let go of, and the state that it leaves is kept. -/
def perform (state : Segmenter σ × Scanner) : Operation → Segmenter σ × Scanner
  | .feed => (state.1.feed state.2.next.current state.2.next).1
  | .skip => (state.1, state.2.next)
  | .flush => (state.1.flush.1, state.2)
  | .run => (state.1.runAll state.2).1

/-- Carries out operations, from the start of a source on. -/
def drive (sink : σ) (source : Text) (policy : UnterminatedPolicy) (operations : List Operation) :
    Segmenter (Recorder σ) × Scanner :=
  operations.foldl perform ({ sink := { sink }, policy }, .ofSource source)

end

/-- The segments that the sink has been offered, and the one that it would be offered next. -/
def trail (g : Segmenter (Recorder σ)) : List Segment := g.sink.offered ++ g.pending?.toList

/-- Between operations the trail lies behind the scanner, and the buffer and the span belong to
each other. While `whole` holds, the pending segment reaches up to the scanner, or nothing is
left that it could be extended with. -/
structure Ready (source : Text) (whole : Prop) (g : Segmenter (Recorder σ)) (s : Scanner) :
    Prop where
  placed : ∃ front, s.Placed front
  source_eq : s.source = source
  counted : g.nextIndex = g.sink.offered.length
  held : g.buffer = #[] ↔ g.span = none
  started : g.span ≠ none → g.run ≠ .unset
  trail : Trail source whole g.trail
  behind : ∀ segment ∈ g.trail, segment.span.stop ≤ s.current.stop
  meets : whole → ∀ span ∈ g.span, span.stop = s.current.stop ∨ s.rest = []

variable {source : Text} {whole : Prop} {g : Segmenter (Recorder σ)} {s : Scanner}

theorem ready_start (sink : σ) (source : Text) (policy : UnterminatedPolicy) (whole : Prop) :
    Ready source whole ({ sink := { sink }, policy } : Segmenter (Recorder σ))
      (.ofSource source) :=
  ⟨⟨[], Scanner.placed_ofSource source⟩, rfl, rfl, by simp, by simp, Trail.nil _ _,
    by simp [Segmenter.trail, pending?, Run.kind?], by simp⟩

theorem pending?_of_empty {g : Segmenter σ} (empty : g.buffer = #[]) : g.pending? = none := by
  unfold pending?
  split
  · rfl
  · rw [if_pos (by simp [empty])]

theorem trail_of_empty {g : Segmenter (Recorder σ)} (empty : g.buffer = #[]) :
    g.trail = g.sink.offered := by
  rw [trail, pending?_of_empty empty]
  exact List.append_nil _

/-- A span is the sign of a pending segment, which has it. -/
theorem pending?_of_span {g : Segmenter σ} {kind : Segment.Kind} {span : Span}
    (turned : g.run = .ofKind kind) (full : g.buffer ≠ #[]) (covered : g.span = some span) :
    g.pending? = some { kind, fragments := g.buffer.toList, span, index := g.nextIndex } := by
  simp [pending?, turned, kind?_ofKind, full, covered]

theorem Ready.offered (ready : g.Ready source whole s) : Trail source whole g.sink.offered := by
  have trail := ready.trail
  rw [Segmenter.trail] at trail
  cases pending : g.pending? with
  | none => simpa [pending] using trail
  | some segment =>
    rw [pending] at trail
    exact trail.front.1

/-- A scanner may move on past text that joins no segment. -/
theorem Ready.moves {s' : Scanner} (ready : g.Ready source whole s)
    (placed : ∃ front, s'.Placed front) (same : s'.source = s.source)
    (onward : s.current.stop ≤ s'.current.stop)
    (apart : whole → g.span = none ∨ s'.rest = []) : g.Ready source whole s' where
  placed := placed
  source_eq := same.trans ready.source_eq
  counted := ready.counted
  held := ready.held
  started := ready.started
  trail := ready.trail
  behind segment member := (ready.behind segment member).trans onward
  meets kept span covered := by
    rcases apart kept with none | ended
    · rw [none] at covered
      cases covered
    · exact .inr ended

theorem Ready.notes (ready : g.Ready source whole s) (diagnostics : Array Diagnostic) :
    Ready source whole { g with diagnostics } s :=
  ⟨ready.placed, ready.source_eq, ready.counted, ready.held, ready.started, ready.trail,
    ready.behind, ready.meets⟩

/-- With nothing pending, the class of the run may be any. -/
theorem Ready.turns (ready : g.Ready source whole s) (idle : g.span = none) (run : Run) :
    Ready source whole { g with run } s := by
  have empty := ready.held.mpr idle
  have same : ({ g with run } : Segmenter (Recorder σ)).trail = g.trail := by
    rw [trail_of_empty (g := { g with run }) empty, trail_of_empty empty]
  refine ⟨ready.placed, ready.source_eq, ready.counted, ready.held, ?_, ?_, ?_, ready.meets⟩
  · exact fun covered => absurd idle covered
  · rw [same]
    exact ready.trail
  · rw [same]
    exact ready.behind

/-- A trail with the pending segment at its end, which reaches up to the scanner. -/
theorem ready_of_pending {kind : Segment.Kind} (span : Span) (placed : ∃ front, s.Placed front)
    (source_eq : s.source = source) (counted : g.nextIndex = g.sink.offered.length)
    (turned : g.run = .ofKind kind) (full : g.buffer ≠ #[]) (covered : g.span = some span)
    (earlier : Trail source whole g.sink.offered)
    (before : ∀ a ∈ g.sink.offered, a.span.stop ≤ span.start)
    (cut : Segment.CutFrom source whole
      { kind, fragments := g.buffer.toList, span, index := g.nextIndex })
    (reached : span.stop = s.current.stop) : g.Ready source whole s := by
  have whole_trail : g.trail = g.sink.offered ++
      [{ kind, fragments := g.buffer.toList, span, index := g.nextIndex }] := by
    rw [trail, pending?_of_span turned full covered]
    rfl
  have filled : g.buffer.toList ≠ [] := by simpa using full
  have trail := earlier.concat counted filled cut before
  have inhabited := trail.offers.inhabited _ (List.mem_append_right _ List.mem_cons_self)
  refine ⟨placed, source_eq, counted, by simp [full, covered], ?_, ?_, ?_, ?_⟩
  · rw [turned]
    cases kind <;> simp [Run.ofKind]
  · rw [whole_trail]
    exact trail
  · intro segment member
    rw [whole_trail] at member
    rcases List.mem_append.mp member with member | member
    · exact (before segment member).trans (inhabited.le.trans reached.le)
    · rw [List.mem_singleton.mp member]
      exact reached.le
  · intro _ span' here
    rw [covered] at here
    obtain rfl := Option.some.inj here
    exact .inl reached

/-- A piece that stands right behind the scanner joins the pending segment, or begins one. -/
theorem add_ready {p : Piece} {after : Scanner} (ready : g.Ready source whole s)
    (ahead : s.piece? = some (p, after)) (turned : g.run = .ofKind p.kind) :
    (g.add p.fragments p.span).Ready source whole after := by
  obtain ⟨front, placed⟩ := ready.placed
  obtain ⟨starts, split, -, same, standing, -⟩ := Scanner.piece?_spec placed ahead
  have stops := Scanner.piece?_stop placed ahead
  obtain rfl := ready.source_eq
  have full : (g.add p.fragments p.span).buffer ≠ #[] := by
    simp [Segmenter.add, ← Array.toList_eq_nil_iff, p.fragments_ne_nil]
  cases covered : g.span with
  | none =>
    have empty := ready.held.mpr covered
    have earlier := ready.trail
    have behind := ready.behind
    rw [trail_of_empty empty] at earlier behind
    refine ready_of_pending p.span standing same ready.counted turned full ?_ earlier ?_ ?_ stops
    · simp [Segmenter.add, covered]
    · intro a member
      exact (behind a member).trans (Nat.le_of_eq starts.symm)
    · have cut := placed.cut_begins ahead whole g.nextIndex
      simpa [Segmenter.add, empty] using cut
  | some span =>
    have filled : g.buffer ≠ #[] := fun empty => by simp [ready.held.mp empty] at covered
    have all := ready.trail
    have behind := ready.behind
    rw [trail, pending?_of_span turned filled covered] at all behind
    obtain ⟨earlier, before⟩ := all.front
    have ahead_ne_nil : s.rest ≠ [] := fun ended => by
      simp [Scanner.piece?_eq_none.mpr ended] at ahead
    refine ready_of_pending { span with stop := p.stop } standing same ready.counted turned full ?_
      earlier before ?_ stops
    · simp [Segmenter.add, covered, Piece.span]
    · have last {a : Segment} : a ∈ g.sink.offered ++ [a] := by simp
      have cut := placed.cut_extends ahead (all.cut _ last) rfl (behind _ last)
        fun kept => (ready.meets kept span covered).resolve_right ahead_ne_nil
      simpa [Segmenter.add] using cut

variable [Sink σ]

/-- Handing over what is pending leaves the trail as it was, whatever the sink says. -/
theorem flush_ready (ready : g.Ready source whole s) :
    g.flush.1.Ready source whole s ∧ g.flush.1.span = none := by
  cases pending : g.pending? with
  | none =>
    rw [flush_of_idle pending]
    refine ⟨ready, ?_⟩
    cases covered : g.span with
    | none => rfl
    | some span =>
      obtain ⟨kind, turned⟩ := Run.exists_kind (ready.started (by simp [covered]))
      have full : g.buffer ≠ #[] := fun empty => by simp [ready.held.mp empty] at covered
      rw [pending?_of_span turned full covered] at pending
      cases pending
  | some segment =>
    have moved : g.flush.1.trail = g.trail := by
      rw [flush_of_pending pending, trail_of_empty rfl, trail, pending]
      rfl
    refine ⟨⟨ready.placed, ready.source_eq, ?_, ?_, ?_, ?_, ?_, ?_⟩, ?_⟩
    · simp [flush_of_pending pending, Sink.accept, ready.counted]
    · simp [flush_of_pending pending]
    · simp [flush_of_pending pending]
    · rw [moved]
      exact ready.trail
    · rw [moved]
      exact ready.behind
    · simp [flush_of_pending pending]
    · rw [flush_of_pending pending]

/-- Turning to a class hands over a run of the other class or keeps everything. When that run is
refused, nothing is pending. -/
theorem enter_ready (ready : g.Ready source whole s) (kind : Segment.Kind) :
    (g.enter (.ofKind kind)).1.Ready source whole s ∧
      (∀ e, (g.enter (.ofKind kind)).2 = .error e → (g.enter (.ofKind kind)).1.span = none) ∧
      ((g.enter (.ofKind kind)).2 = .ok () → (g.enter (.ofKind kind)).1.run = .ofKind kind) := by
  unfold enter
  split
  · next turned => exact ⟨ready, by simp, fun _ => turned⟩
  · obtain ⟨flushed, idle⟩ := flush_ready ready
    rcases outcome : g.flush with ⟨g', e | _⟩ <;> rw [outcome] at flushed idle
    · exact ⟨flushed, fun _ _ => idle, by simp⟩
    · exact ⟨flushed.turns idle _, by simp, fun _ => rfl⟩

/-- What taking a piece does: the run before it is refused, the piece is not ended and dropped, or
it joins the run of its class. -/
theorem takePiece_cases (g : Segmenter (Recorder σ)) (source : Text) (p : Piece) :
    (∃ e, g.enter (.ofKind p.kind) = ((g.takePiece source p).1, .error e)) ∨
    ∃ g', g.enter (.ofKind p.kind) = (g', .ok ()) ∧
      ((p.terminated = false ∧ (g.takePiece source p).1 = g') ∨
        ∃ diagnostics, (g.takePiece source p).1 =
          { g' with diagnostics }.add p.fragments p.span) := by
  rcases entered : g.enter (.ofKind p.kind) with ⟨g', e | _⟩
  · exact .inl ⟨e, by rw [takePiece_of_refused source entered]⟩
  · refine .inr ⟨g', rfl, ?_⟩
    rw [takePiece, entered]
    by_cases closed : p.terminated = true
    · simp only [closed, ↓reduceIte]
      exact .inr ⟨g'.diagnostics, rfl⟩
    · simp only [closed, reportUnterminated]
      cases g'.policy with
      | fail => exact .inl ⟨by simp, rfl⟩
      | truncate => exact .inr ⟨_, rfl⟩

/-- Feeding a token keeps the trail in order, whether or not it goes well. -/
theorem feed_ready (ready : g.Ready source whole s) :
    (g.feed s.next.current s.next).1.1.Ready source whole
      (g.feed s.next.current s.next).1.2 := by
  obtain ⟨front, placed⟩ := ready.placed
  cases ahead : s.piece? with
  | none =>
    rw [g.feed_endOfInput (Scanner.piece?_eq_none.mp ahead)]
    obtain ⟨flushed, idle⟩ := flush_ready ready
    exact flushed.moves ⟨_, placed.next⟩ s.next_source s.stop_le_next_stop fun _ => .inl idle
  | some found =>
    obtain ⟨p, after⟩ := found
    obtain ⟨entered, refused, turned⟩ := enter_ready ready p.kind
    obtain ⟨starts, -, -, same, standing, broken⟩ := Scanner.piece?_spec placed ahead
    have onward : s.current.stop ≤ after.current.stop := by
      rw [← Scanner.piece?_stop placed ahead, ← starts]
      exact Nat.le_add_right _ _
    obtain ⟨left, fed, moved⟩ := g.feed_eq_takePiece placed ahead
    rw [fed]
    obtain ⟨e, refusal⟩ | ⟨g', taken, dropped | ⟨diagnostics, joined⟩⟩ :=
      g.takePiece_cases s.source p
    · rw [refusal] at entered refused
      have idle := refused e rfl
      rcases moved with rfl | ⟨rfl, -⟩
      · exact entered.moves standing same onward fun _ => .inl idle
      · exact entered.moves ⟨_, placed.next⟩ s.next_source s.stop_le_next_stop fun _ => .inl idle
    · rw [taken] at entered moved
      obtain rfl : left = after := moved.resolve_right (by simp)
      rw [dropped.2]
      exact entered.moves standing same onward fun _ => .inr (broken dropped.1).2.2
    · rw [taken] at entered moved turned
      obtain rfl : left = after := moved.resolve_right (by simp)
      rw [joined]
      exact add_ready (entered.notes diagnostics) ahead (turned rfl)

/-- What feeding one token keeps, feeding all tokens ahead keeps. -/
theorem runAll_ready (ready : g.Ready source whole s) :
    (g.runAll s).1.1.Ready source whole (g.runAll s).1.2 := by
  have fed := feed_ready ready
  fun_induction runAll g s with
  | case1 g s after e stopped => rwa [stopped] at fed
  | case2 g s after ended => rwa [ended] at fed
  | case3 g s g' s' more ih =>
    rw [more] at fed
    exact ih fed (feed_ready fed)

/-- An operation keeps the trail in order. Only skipping a token can leave a gap in the code of a
segment. -/
theorem perform_ready (ready : g.Ready source whole s) (operation : Operation)
    (unskipped : whole → operation ≠ .skip) :
    (perform (g, s) operation).1.Ready source whole (perform (g, s) operation).2 := by
  cases operation with
  | feed => exact feed_ready ready
  | skip =>
    obtain ⟨front, placed⟩ := ready.placed
    exact ready.moves ⟨_, placed.next⟩ s.next_source s.stop_le_next_stop
      fun kept => absurd rfl (unskipped kept)
  | flush => exact (flush_ready ready).1
  | run => exact runAll_ready ready

/-- Any sequence of operations keeps the trail in order. -/
theorem performAll_ready (ready : g.Ready source whole s) (operations : List Operation)
    (unskipped : whole → .skip ∉ operations) :
    (operations.foldl perform (g, s)).1.Ready source whole (operations.foldl perform (g, s)).2 := by
  induction operations generalizing g s with
  | nil => exact ready
  | cons operation more ih =>
    refine ih (perform_ready ready operation fun kept => ?_) fun kept => ?_
    · exact fun skipped => unskipped kept (skipped ▸ List.mem_cons_self)
    · exact fun skipped => unskipped kept (List.mem_cons_of_mem _ skipped)

end Segmenter

/-- However a segmenter is driven, whatever its sink refuses and however often it goes on after an
error, the sink is offered segments that are counted by its calls and lie in the source one behind
the other; between operations something is buffered just when its span is known, and then its class
is known too. If no token was skipped, code is offered as the source has it. -/
theorem offers_of_driving {σ : Type} [Sink σ] (sink : σ) (source : Text)
    (policy : UnterminatedPolicy) (operations : List Operation) :
    let driven := (Segmenter.drive sink source policy operations).1
    Offers source driven.sink.offered ∧
      (driven.buffer ≠ #[] ↔ driven.span.isSome = true) ∧
      (driven.buffer ≠ #[] → driven.run ≠ .unset) ∧
      (.skip ∉ operations → ∀ segment ∈ driven.sink.offered, segment.kind = .code →
        segment.fragments.flatten = segment.span.text source) := by
  intro driven
  have ready : driven.Ready source (.skip ∉ operations)
      (Segmenter.drive sink source policy operations).2 :=
    Segmenter.performAll_ready (Segmenter.ready_start sink source policy _) operations id
  have offered := ready.offered
  refine ⟨offered.offers, ?_, ?_, ?_⟩
  · rw [Option.isSome_iff_ne_none, ne_eq, ready.held]
  · exact fun full => ready.started fun none => full (ready.held.mpr none)
  · exact fun kept segment member code => (offered.cut segment member).verbatim kept code

-- A token that is skipped is missing from the code of the segment around it.
example : (Segmenter.drive ({} : Collector) "a b".toList .fail
    [.feed, .skip, .feed, .flush]).1.sink.offered =
      [⟨.code, ["a".toList, "b".toList], ⟨0, 3⟩, 0⟩] := by
  decide +kernel

end Weave
