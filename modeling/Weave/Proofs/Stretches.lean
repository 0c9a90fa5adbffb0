import Weave.Proofs.Pieces

/-!
Pieces of one class in a row make a stretch, and a stretch is what a segment is cut from. A
`Grouping` holds the stretches that are complete and the one that still grows; a segmenter whose
sink takes everything follows it piece by piece, and differs between the two policies only at a
piece that the source does not end.
-/

namespace Weave

/-- Pieces of one class, at least one. -/
structure Stretch where
  kind : Segment.Kind
  first : Piece
  more : List Piece
  uniform : ∀ p ∈ first :: more, p.kind = kind

namespace Stretch

def pieces (r : Stretch) : List Piece := r.first :: r.more

def last (r : Stretch) : Piece := r.more.getLast?.getD r.first

def span (r : Stretch) : Span := ⟨r.first.start, r.last.stop⟩

def fragments (r : Stretch) : List Text := r.pieces.flatMap Piece.fragments

def single (p : Piece) : Stretch := ⟨p.kind, p, [], by simp⟩

/-- The stretch with one more piece of its class at the end. -/
def extend (r : Stretch) (p : Piece) (same : p.kind = r.kind) : Stretch where
  kind := r.kind
  first := r.first
  more := r.more ++ [p]
  uniform := by
    intro q member
    rw [← List.cons_append, List.mem_append, List.mem_singleton] at member
    rcases member with member | rfl
    · exact r.uniform q member
    · exact same

/-- The segment that the stretch becomes. -/
def segment (r : Stretch) (index : Nat) : Segment where
  kind := r.kind
  fragments := r.fragments
  span := r.span
  index := index

/-- The segments of stretches that follow each other, counted from zero. -/
def segments (rs : List Stretch) : List Segment := rs.mapIdx fun index r => r.segment index

@[simp] theorem pieces_extend (r : Stretch) (p : Piece) (same : p.kind = r.kind) :
    (r.extend p same).pieces = r.pieces ++ [p] := rfl

@[simp] theorem fragments_extend (r : Stretch) (p : Piece) (same : p.kind = r.kind) :
    (r.extend p same).fragments = r.fragments ++ p.fragments := by
  simp [fragments]

@[simp] theorem span_extend (r : Stretch) (p : Piece) (same : p.kind = r.kind) :
    (r.extend p same).span = { r.span with stop := p.stop } := by
  simp [span, last, extend]

@[simp] theorem segments_append (rs : List Stretch) (r : Stretch) :
    segments (rs ++ [r]) = segments rs ++ [r.segment rs.length] := by
  simp [segments]

end Stretch

theorem Comment.splitLines_ne_nil (text : Text) : Comment.splitLines text ≠ [] := by
  fun_cases Comment.splitLines text <;> simp

theorem Piece.fragments_ne_nil (p : Piece) : p.fragments ≠ [] := by
  unfold Piece.fragments
  split
  · simp [Comment.lines, Comment.splitLines_ne_nil]
  · simp

theorem Stretch.fragments_ne_nil (r : Stretch) : r.fragments ≠ [] := by
  simp [fragments, pieces, r.first.fragments_ne_nil]

/-- The diagnostic on a piece that the source does not end. -/
def Piece.diagnostic (source : Text) (p : Piece) : Diagnostic where
  offset := p.start
  position := .ofOffset source p.start
  message := "unterminated template literal, the rest of the input is kept as code"

/-- What is recorded about a piece when the rest of the source is kept. -/
def Piece.diagnostics (source : Text) (p : Piece) : List Diagnostic :=
  if p.terminated then [] else [p.diagnostic source]

theorem Piece.flatMap_diagnostics {ps : List Piece} (source : Text)
    (closed : ∀ p ∈ ps, p.terminated = true) : ps.flatMap (Piece.diagnostics source) = [] := by
  rw [List.flatMap_eq_nil_iff]
  intro p member
  rw [Piece.diagnostics, if_pos (closed p member)]

/-- Stretches in the order of their pieces. -/
structure Grouping where
  /-- The stretches that are complete. -/
  handed : List Stretch := []
  /-- The stretch that further pieces may belong to. -/
  pending : Option Stretch := none

namespace Grouping

/-- All stretches, the pending one last. -/
def all (s : Grouping) : List Stretch := s.handed ++ s.pending.toList

/-- Completes a pending stretch of another class than `kind`. -/
def turn (s : Grouping) (kind : Segment.Kind) : Grouping :=
  match s.pending with
  | none => s
  | some r => if r.kind = kind then s else { handed := s.handed ++ [r] }

/-- Adds a piece, to the pending stretch if it is of the same class. -/
def add (s : Grouping) (p : Piece) : Grouping :=
  match s.pending with
  | none => { s with pending := some (.single p) }
  | some r =>
    if same : p.kind = r.kind then { s with pending := some (r.extend p same) }
    else { handed := s.handed ++ [r], pending := some (.single p) }

/-- The stretches of a list of pieces. -/
def ofPieces (ps : List Piece) : Grouping := ps.foldl add {}

/-- A piece begins a stretch or extends the pending one, after a turn to its class. -/
theorem add_cases (s : Grouping) (p : Piece) :
    ((s.turn p.kind).pending = none ∧
      s.add p = { handed := (s.turn p.kind).handed, pending := some (.single p) }) ∨
    ∃ r same, (s.turn p.kind).pending = some r ∧
      s.add p = { handed := (s.turn p.kind).handed, pending := some (r.extend p same) } := by
  unfold add turn
  cases pending : s.pending with
  | none => exact .inl ⟨pending, rfl⟩
  | some r =>
    by_cases same : p.kind = r.kind
    · exact .inr ⟨r, same, by simp [same, pending], by simp [same]⟩
    · exact .inl ⟨by simp [Ne.symm same], by simp [same, Ne.symm same]⟩

theorem handed_add (s : Grouping) (p : Piece) : (s.add p).handed = (s.turn p.kind).handed := by
  obtain ⟨-, added⟩ | ⟨r, same, -, added⟩ := s.add_cases p <;> rw [added]

/-- Grouping loses no piece and keeps their order. -/
theorem pieces_add (s : Grouping) (p : Piece) :
    (s.add p).all.flatMap Stretch.pieces = s.all.flatMap Stretch.pieces ++ [p] := by
  unfold add all
  split
  · next empty => simp [empty, Stretch.single, Stretch.pieces]
  · next r pending =>
    split
    · simp [pending]
    · simp [pending, Stretch.single, Stretch.pieces]

theorem pieces_foldl_add (s : Grouping) (ps : List Piece) :
    (ps.foldl add s).all.flatMap Stretch.pieces = s.all.flatMap Stretch.pieces ++ ps := by
  induction ps generalizing s with
  | nil => simp
  | cons p ps ih => rw [List.foldl_cons, ih, pieces_add, List.append_assoc, List.singleton_append]

theorem pieces_ofPieces (ps : List Piece) : (ofPieces ps).all.flatMap Stretch.pieces = ps := by
  rw [ofPieces, pieces_foldl_add]
  rfl

end Grouping

namespace Segmenter

/-- A segmenter with a sink that takes everything stands at a grouping: the complete stretches
were handed over as segments, and the pending one is in the buffer. -/
structure Holds (g : Segmenter Collector) (s : Grouping) : Prop where
  willing : ∀ call, g.sink.refuses call = false
  accepted : g.sink.accepted.toList = Stretch.segments s.handed
  nextIndex : g.nextIndex = s.handed.length
  buffer : g.buffer.toList = (s.pending.map Stretch.fragments).getD []
  span : g.span = s.pending.map Stretch.span
  run : ∀ r ∈ s.pending, g.run = .ofKind r.kind

variable {g : Segmenter Collector} {s : Grouping}

theorem holds_start (policy : UnterminatedPolicy) :
    Holds ({ sink := {}, policy } : Segmenter Collector) {} :=
  ⟨fun _ => rfl, rfl, rfl, rfl, rfl, by simp⟩

theorem kind?_ofKind (kind : Segment.Kind) : (Run.ofKind kind).kind? = some kind := by
  cases kind <;> rfl

/-- Handing over the pending stretch, if there is one, leaves all else as it was. -/
theorem flush_holds (holds : g.Holds s) :
    ∃ g', g.flush = (g', .ok ()) ∧ g'.Holds { handed := s.all } ∧
      g'.policy = g.policy ∧ g'.diagnostics = g.diagnostics := by
  cases pending : s.pending with
  | none =>
    have empty : g.buffer.isEmpty = true := by simpa [pending] using holds.buffer
    have idle : g.flush = (g, .ok ()) := by
      unfold flush
      split
      · rfl
      · rw [if_pos empty]
    refine ⟨g, idle, ?_, rfl, rfl⟩
    have same : ({ handed := s.all } : Grouping) = s := by
      cases s
      simp_all [Grouping.all]
    rw [same]
    exact holds
  | some r =>
    have full : g.buffer.toList = r.fragments := by simpa [pending] using holds.buffer
    have filled : g.buffer.isEmpty = false := by
      rw [← Array.isEmpty_toList, full]
      simp [r.fragments_ne_nil]
    have covered : g.span = some r.span := by simpa [pending] using holds.span
    have handed : g.flush = ({ g with
        sink := { g.sink with
          calls := g.sink.calls + 1
          accepted := g.sink.accepted.push (r.segment g.nextIndex) }
        buffer := #[], span := none, nextIndex := g.nextIndex + 1 }, .ok ()) := by
      simp [flush, holds.run r pending, kind?_ofKind, filled, full, covered, Sink.accept,
        holds.willing, Stretch.segment]
    refine ⟨_, handed, ?_, rfl, rfl⟩
    refine ⟨holds.willing, ?_, ?_, rfl, rfl, by simp⟩
    · simp [Grouping.all, pending, holds.accepted, holds.nextIndex]
    · simp [Grouping.all, pending, holds.nextIndex]

theorem ofKind_injective {a b : Segment.Kind} (same : Run.ofKind a = Run.ofKind b) : a = b := by
  cases a <;> cases b <;> first | rfl | cases same

/-- Turning to a class hands over a pending stretch of the other class. -/
theorem enter_holds (holds : g.Holds s) (kind : Segment.Kind) :
    ∃ g', g.enter (.ofKind kind) = (g', .ok ()) ∧ g'.Holds (s.turn kind) ∧
      g'.run = .ofKind kind ∧ g'.policy = g.policy ∧ g'.diagnostics = g.diagnostics := by
  by_cases turned : g.run = .ofKind kind
  · have same : s.turn kind = s := by
      unfold Grouping.turn
      split
      · rfl
      · next r pending =>
        rw [if_pos (ofKind_injective ((holds.run r pending).symm.trans turned))]
    refine ⟨g, by rw [enter, if_pos turned], ?_, turned, rfl, rfl⟩
    rw [same]
    exact holds
  · obtain ⟨g', flushed, after, policy, diagnostics⟩ := flush_holds holds
    have same : s.turn kind = { handed := s.all } := by
      unfold Grouping.turn Grouping.all
      split
      · next empty =>
        cases s
        simp_all
      · next r pending =>
        have other : r.kind ≠ kind := fun eq => turned (eq ▸ holds.run r pending)
        rw [if_neg other, pending]
        rfl
    refine ⟨{ g' with run := .ofKind kind }, by rw [enter, if_neg turned, flushed], ?_, rfl,
      policy, diagnostics⟩
    rw [same]
    exact ⟨after.willing, after.accepted, after.nextIndex, after.buffer, after.span, by simp⟩

/-- The buffer takes a piece of the class that the segmenter has turned to. -/
theorem add_holds {p : Piece} (holds : g.Holds (s.turn p.kind)) (turned : g.run = .ofKind p.kind) :
    (g.add p.fragments p.span).Holds (s.add p) := by
  obtain ⟨empty, added⟩ | ⟨r, same, pending, added⟩ := s.add_cases p
  · have buffered : g.buffer.toList = [] := by simpa [empty] using holds.buffer
    have uncovered : g.span = none := by simpa [empty] using holds.span
    rw [added]
    refine ⟨holds.willing, holds.accepted, holds.nextIndex, ?_, ?_, ?_⟩
    · simp [Segmenter.add, buffered, Stretch.fragments, Stretch.pieces, Stretch.single]
    · simp [Segmenter.add, uncovered, Stretch.span, Stretch.last, Stretch.single, Piece.span]
    · simpa [Segmenter.add, Stretch.single] using turned
  · have buffered : g.buffer.toList = r.fragments := by simpa [pending] using holds.buffer
    have covered : g.span = some r.span := by simpa [pending] using holds.span
    rw [added]
    refine ⟨holds.willing, holds.accepted, holds.nextIndex, ?_, ?_, ?_⟩
    · simp [Segmenter.add, buffered]
    · simp [Segmenter.add, covered, Piece.span]
    · simpa [Segmenter.add, Stretch.extend, same] using turned

/-- A piece that the source ends is taken under both policies, any piece is taken when the rest
is to be kept. -/
theorem takePiece_holds (holds : g.Holds s) (source : Text) {p : Piece}
    (allowed : p.terminated = true ∨ g.policy = .truncate) :
    ∃ g', g.takePiece source p = (g', .ok ()) ∧ g'.Holds (s.add p) ∧ g'.policy = g.policy ∧
      g'.diagnostics.toList = g.diagnostics.toList ++ p.diagnostics source := by
  obtain ⟨g', entered, turned, run, policy, diagnostics⟩ := enter_holds holds p.kind
  by_cases closed : p.terminated = true
  · refine ⟨g'.add p.fragments p.span, ?_, add_holds turned run, policy, ?_⟩
    · simp [takePiece, entered, closed]
    · simp [Segmenter.add, Piece.diagnostics, closed, diagnostics]
  · have keeps := policy.trans (allowed.resolve_left closed)
    let noted := { g' with diagnostics := g'.diagnostics ++ p.diagnostics source }
    have standing : noted.Holds (s.turn p.kind) :=
      ⟨turned.willing, turned.accepted, turned.nextIndex, turned.buffer, turned.span, turned.run⟩
    refine ⟨noted.add p.fragments p.span, ?_, add_holds standing run, policy, ?_⟩
    · simp [takePiece, entered, closed, reportUnterminated, keeps, noted, Piece.diagnostics,
        Piece.diagnostic, Piece.span]
    · simp [Segmenter.add, noted, diagnostics]

/-- A piece that the source does not end is refused when that is an error, after a pending
stretch of prose was handed over. -/
theorem takePiece_fails (holds : g.Holds s) (source : Text) {p : Piece}
    (broken : p.terminated = false) (strict : g.policy = .fail) :
    ∃ g', g.takePiece source p =
        (g', .error (.unterminatedTemplate p.start (.ofOffset source p.start))) ∧
      g'.Holds (s.turn p.kind) := by
  obtain ⟨g', entered, turned, run, policy, diagnostics⟩ := enter_holds holds p.kind
  refine ⟨g', ?_, turned⟩
  simp [takePiece, entered, broken, reportUnterminated, policy.trans strict, Piece.span]

theorem takePieces_holds (holds : g.Holds s) (source : Text) (ps : List Piece)
    (allowed : (∀ p ∈ ps, p.terminated = true) ∨ g.policy = .truncate) :
    ∃ g', g.takePieces source ps = (g', .ok ()) ∧ g'.Holds (ps.foldl Grouping.add s) ∧
      g'.policy = g.policy ∧
      g'.diagnostics.toList = g.diagnostics.toList ++ ps.flatMap (Piece.diagnostics source) := by
  induction ps generalizing g s with
  | nil => exact ⟨g, rfl, holds, rfl, by simp⟩
  | cons p ps ih =>
    have first : p.terminated = true ∨ g.policy = .truncate :=
      allowed.imp_left fun closed => closed p List.mem_cons_self
    obtain ⟨g₁, taken, added, policy, diagnostics⟩ := takePiece_holds holds source first
    have later : (∀ q ∈ ps, q.terminated = true) ∨ g₁.policy = .truncate := by
      rw [policy]
      exact allowed.imp_left fun closed q member => closed q (List.mem_cons_of_mem _ member)
    obtain ⟨g₂, rest, final, policy', diagnostics'⟩ := ih added later
    refine ⟨g₂, ?_, final, policy'.trans policy, ?_⟩
    · rw [takePieces, taken]
      exact rest
    · rw [diagnostics', diagnostics, List.flatMap_cons, List.append_assoc]

theorem takePieces_append {σ : Type} [Sink σ] {g g' : Segmenter σ} {source : Text} {ps : List Piece}
    (taken : g.takePieces source ps = (g', .ok ())) (qs : List Piece) :
    g.takePieces source (ps ++ qs) = g'.takePieces source qs := by
  induction ps generalizing g with
  | nil =>
    cases taken
    rfl
  | cons p ps ih =>
    rw [List.cons_append, takePieces]
    rw [takePieces] at taken
    rcases step : g.takePiece source p with ⟨g₁, _ | _⟩ <;> rw [step] at taken
    · cases taken
    · exact ih taken

/-- The segmenter with a fresh sink that takes everything, as a run over `source` leaves it. -/
def collect (source : Text) (policy : UnterminatedPolicy) :
    Segmenter Collector × Except ConversionError Unit :=
  let g : Segmenter Collector := { sink := {}, policy }
  ((g.runAll (Scanner.ofSource source)).1.1, (g.runAll (Scanner.ofSource source)).2)

theorem collect_eq_finish (source : Text) (policy : UnterminatedPolicy) :
    collect source policy =
      ({ sink := {}, policy } : Segmenter Collector).finish source
        (Scanner.ofSource source).pieces :=
  runAll_eq_finish _ _ (Scanner.placed_ofSource source)

/-- A run that meets nothing to report, or reports it as a diagnostic, hands over a segment for
every stretch of the source. -/
theorem collect_ok (source : Text) (policy : UnterminatedPolicy)
    (allowed : (∀ p ∈ (Scanner.ofSource source).pieces, p.terminated = true) ∨ policy = .truncate) :
    ∃ g, collect source policy = (g, .ok ()) ∧
      g.sink.accepted.toList =
        Stretch.segments (Grouping.ofPieces (Scanner.ofSource source).pieces).all ∧
      g.diagnostics.toList =
        (Scanner.ofSource source).pieces.flatMap (Piece.diagnostics source) := by
  obtain ⟨g, taken, holds, -, diagnostics⟩ := takePieces_holds (holds_start policy) source _ allowed
  obtain ⟨g', flushed, final, -, same⟩ := flush_holds holds
  refine ⟨g', ?_, final.accepted, ?_⟩
  · rw [collect_eq_finish, finish, taken]
    exact flushed
  · rw [same, diagnostics]
    rfl

/-- A run that must not meet an unterminated piece stops at it, with all before it handed over
but a pending stretch of code. -/
theorem collect_fails (source : Text) {before : List Piece} {p : Piece}
    (pieces : (Scanner.ofSource source).pieces = before ++ [p])
    (closed : ∀ q ∈ before, q.terminated = true) (broken : p.terminated = false) :
    ∃ g, collect source .fail =
        (g, .error (.unterminatedTemplate p.start (.ofOffset source p.start))) ∧
      g.sink.accepted.toList =
        Stretch.segments ((Grouping.ofPieces before).turn p.kind).handed := by
  obtain ⟨g, taken, holds, strict, -⟩ :=
    takePieces_holds (holds_start .fail) source before (.inl closed)
  obtain ⟨g', failed, turned⟩ := takePiece_fails holds source broken strict
  refine ⟨g', ?_, turned.accepted⟩
  rw [collect_eq_finish, finish, pieces, takePieces_append taken, takePieces, failed]

end Segmenter

/-- Every piece but the last one is ended by the source. -/
theorem Laid.ending {offset : Nat} {text : Text} {ps : List Piece} (laid : Laid offset text ps) :
    (∀ p ∈ ps, p.terminated = true) ∨
    ∃ before p, ps = before ++ [p] ∧ (∀ q ∈ before, q.terminated = true) ∧ p.terminated = false ∧
      p.kind = .code ∧ p.text.head? = some '`' := by
  rcases List.eq_nil_or_concat ps with rfl | ⟨before, p, rfl⟩
  · exact .inl (by simp)
  · rw [List.concat_eq_append] at laid ⊢
    have closed : ∀ q ∈ before, q.terminated = true := by
      intro q member
      obtain ⟨front, behind, rfl⟩ := List.append_of_mem member
      cases broken : q.terminated with
      | true => rfl
      | false =>
        obtain ⟨nothing, -⟩ := laid.unterminated front q (behind ++ [p]) (by simp) broken
        simp at nothing
    cases ended : p.terminated with
    | true =>
      left
      intro q member
      rcases List.mem_append.mp member with member | member
      · exact closed q member
      · rw [List.mem_singleton.mp member, ended]
    | false =>
      obtain ⟨-, code, backtick⟩ := laid.unterminated before p [] rfl ended
      exact .inr ⟨before, p, rfl, closed, ended, code, backtick⟩

theorem segments_eq_collect (source : Text) (policy : UnterminatedPolicy) :
    segments source policy = (Segmenter.collect source policy).2.map fun _ =>
      ((Segmenter.collect source policy).1.sink.accepted,
        (Segmenter.collect source policy).1.diagnostics) := by
  rw [segments, Segmenter.collect]
  dsimp only
  split <;> next ran => simp [ran, Except.map]

/-- A source that can be segmented has one segment for each of its stretches. -/
theorem segments_of_ok {source : Text} {policy : UnterminatedPolicy} {found : Array Segment}
    {diagnostics : Array Diagnostic} (ran : segments source policy = .ok (found, diagnostics)) :
    found.toList = Stretch.segments (Grouping.ofPieces (Scanner.ofSource source).pieces).all := by
  have complete (allowed : (∀ p ∈ (Scanner.ofSource source).pieces, p.terminated = true) ∨
      policy = .truncate) : found.toList =
        Stretch.segments (Grouping.ofPieces (Scanner.ofSource source).pieces).all := by
    obtain ⟨g, collected, accepted, -⟩ := Segmenter.collect_ok source policy allowed
    rw [segments_eq_collect, collected] at ran
    cases ran
    exact accepted
  rcases (Scanner.placed_ofSource source).laid.ending with
    closed | ⟨_, p, pieces, closed, broken, -⟩
  · exact complete (.inl closed)
  · cases policy with
    | truncate => exact complete (.inr rfl)
    | fail =>
      obtain ⟨g, failed, -⟩ := Segmenter.collect_fails source pieces closed broken
      rw [segments_eq_collect, failed] at ran
      cases ran

end Weave
