import Mathlib.Data.List.SplitBy
import Weave.Proofs.Fallible
import Weave.Proofs.Tiling
import Weave.Proofs.TopLevel

/-!
Segments as a batch: the tokens at top level, cut wherever their class changes. The stretches that
a segmenter collects one piece at a time are these runs, and since tokens follow each other without
gap, the tokens of a run are exactly those that lie in the span of its segment.
-/

namespace Weave

/-- The segment that tokens in a row make up. -/
def Segment.ofTokens (index : Nat) (run : List Token) : Segment where
  kind := if run.all (·.kind = .blockComment) then .comment else .code
  fragments := run.flatMap Token.fragments
  span := ⟨(run.head?.map Token.start).getD 0, (run.getLast?.map Token.stop).getD 0⟩
  index

/-- The longest runs of tokens of one class, in order. -/
def Token.runs (tokens : List Token) : List (List Token) :=
  tokens.splitBy fun a b => a.segmentKind == b.segmentKind

/-- One segment for each of the longest runs of tokens of one class. -/
def Segment.batch (tokens : List Token) : List Segment :=
  (Token.runs tokens).mapIdx Segment.ofTokens

/-- Whether a token lies in a range of its source. -/
def Token.inside (token : Token) (span : Span) : Bool :=
  span.start ≤ token.start && token.stop ≤ span.stop

/-- Splitting what `f` makes of a list. -/
theorem splitBy_map {α β : Type} (f : α → β) (r : β → β → Bool) (l : List α) :
    (l.map f).splitBy r = (l.splitBy fun a b => r (f a) (f b)).map (List.map f) := by
  rw [List.splitBy_eq_iff]
  refine ⟨?_, ?_, ?_, ?_⟩
  · rw [← List.map_flatten, List.flatten_splitBy]
  · simp
  · intro run member
    obtain ⟨part, listed, rfl⟩ := List.mem_map.mp member
    rw [List.isChain_map]
    exact List.isChain_of_mem_splitBy listed
  · rw [List.isChain_map]
    refine (List.isChain_getLast_head_splitBy _ l).imp fun a b => ?_
    rintro ⟨first, second, apart⟩
    refine ⟨by simpa using first, by simpa using second, ?_⟩
    rw [List.getLast_map, List.head_map]
    exact apart

/-! ### Stretches are runs -/

theorem Stretch.pieces_ne_nil (r : Stretch) : r.pieces ≠ [] := List.cons_ne_nil _ _

namespace Grouping

/-- Stretches that follow each other are of different classes, and nothing is complete before a
stretch is pending. -/
structure Alternating (s : Grouping) : Prop where
  kinds : (s.all.map Stretch.kind).IsChain (· ≠ ·)
  started : s.pending = none → s.handed = []

theorem Alternating.add {s : Grouping} (alternating : s.Alternating) (p : Piece) :
    (s.add p).Alternating := by
  have kinds := alternating.kinds
  unfold Grouping.add
  cases pending : s.pending with
  | none =>
    refine ⟨?_, by simp⟩
    simp [all, alternating.started pending]
  | some r =>
    rw [all, pending] at kinds
    dsimp only
    split
    · refine ⟨?_, by simp⟩
      simpa [all, Stretch.extend] using kinds
    · next other =>
      refine ⟨?_, by simp⟩
      rw [all, List.map_append, List.isChain_append]
      refine ⟨kinds, List.isChain_singleton _, ?_⟩
      simpa [Stretch.single] using Ne.symm other

theorem alternating_ofPieces (ps : List Piece) : (ofPieces ps).Alternating := by
  have run (s : Grouping) (alternating : s.Alternating) : (ps.foldl add s).Alternating := by
    induction ps generalizing s with
    | nil => exact alternating
    | cons p ps ih => exact ih (s.add p) (alternating.add p)
  exact run {} ⟨by simp [all], by simp⟩

/-- The stretches of a list of pieces are its longest runs of one class. -/
theorem pieces_eq_splitBy (ps : List Piece) :
    ps.splitBy (fun p q => p.kind == q.kind) = (ofPieces ps).all.map Stretch.pieces := by
  rw [List.splitBy_eq_iff]
  refine ⟨?_, ?_, ?_, ?_⟩
  · rw [← List.flatMap_def, pieces_ofPieces]
  · simp [Stretch.pieces_ne_nil]
  · intro run member
    obtain ⟨r, -, rfl⟩ := List.mem_map.mp member
    refine (List.pairwise_of_forall_mem_list fun p inP q inQ => ?_).isChain
    rw [beq_iff_eq, r.uniform p inP, r.uniform q inQ]
  · have kinds := (alternating_ofPieces ps).kinds
    rw [List.isChain_map] at kinds ⊢
    refine kinds.imp fun a b other => ⟨a.pieces_ne_nil, b.pieces_ne_nil, ?_⟩
    have last := a.uniform _ (List.getLast_mem a.pieces_ne_nil)
    have first := b.uniform _ (List.head_mem b.pieces_ne_nil)
    rw [beq_eq_false_iff_ne, last, first]
    exact other

end Grouping

theorem Stretch.kinds_segments (rs : List Stretch) :
    (Stretch.segments rs).map Segment.kind = rs.map Stretch.kind := by
  refine List.ext_getElem (by simp [segments]) fun i _ _ => ?_
  simp [segments, segment]

/-- A segment is told by the pieces of its stretch alone. -/
theorem Stretch.segment_eq_ofTokens {r : Stretch} {run : List Token}
    (same : r.pieces = run.map Piece.ofTopLevel) (index : Nat) :
    r.segment index = Segment.ofTokens index run := by
  obtain ⟨first, more, rfl⟩ : ∃ first more, run = first :: more := by
    cases run with
    | nil => exact absurd same r.pieces_ne_nil
    | cons first more => exact ⟨first, more, rfl⟩
  rw [List.map_cons, pieces] at same
  obtain ⟨head, tail⟩ := List.cons.inj same
  have kinds : ∀ token ∈ first :: more, token.segmentKind = r.kind := by
    intro token member
    refine r.uniform (.ofTopLevel token) ?_
    rw [head, tail, ← List.map_cons]
    exact List.mem_map_of_mem member
  have kind_eq : r.kind =
      if (first :: more).all (·.kind = .blockComment) then .comment else .code := by
    cases kind : r.kind with
    | comment =>
      rw [if_pos]
      simp only [kind, Token.segmentKind] at kinds
      simpa using kinds
    | code =>
      have other := kinds first List.mem_cons_self
      rw [kind, Token.segmentKind] at other
      rw [if_neg]
      simp_all
  have fragments_eq : r.fragments = (first :: more).flatMap Token.fragments := by
    rw [fragments, pieces, head, tail, ← List.map_cons, List.flatMap_map]
    simp
  have last_eq : r.last.stop = ((first :: more).getLast?.map Token.stop).getD 0 := by
    rw [last, head, tail, List.getLast?_cons, List.getLast?_map]
    cases more.getLast? <;> rfl
  rw [segment, span, Segment.ofTokens, ← kind_eq, ← fragments_eq, ← last_eq, head]
  rfl

/-- The segments of a source are those of its tokens as a batch. -/
theorem segments_ofPieces_eq_batch (s : Scanner) :
    Stretch.segments (Grouping.ofPieces s.pieces).all = Segment.batch s.topLevel := by
  have runs : (Token.runs s.topLevel).map (List.map Piece.ofTopLevel) =
      (Grouping.ofPieces s.pieces).all.map Stretch.pieces := by
    rw [← Grouping.pieces_eq_splitBy, Scanner.pieces_eq_map, splitBy_map]
    rfl
  have length_eq : (Token.runs s.topLevel).length = (Grouping.ofPieces s.pieces).all.length := by
    simpa using congrArg List.length runs
  rw [Stretch.segments, Segment.batch]
  refine List.ext_getElem (by simp [length_eq]) fun i inStretches inRuns => ?_
  rw [List.length_mapIdx] at inStretches inRuns
  rw [List.getElem_mapIdx, List.getElem_mapIdx]
  apply Stretch.segment_eq_ofTokens
  have here := List.getElem_of_eq runs.symm (by simpa using inStretches)
  rwa [List.getElem_map, List.getElem_map] at here

/-- A source whose template literals all end, or may be cut short, gives its tokens as a batch, and
a diagnostic for each literal that was cut short. -/
theorem segments_succeed (source : Text) (policy : UnterminatedPolicy)
    (allowed : (∀ p ∈ (Scanner.ofSource source).pieces, p.terminated = true) ∨ policy = .truncate) :
    ∃ found diagnostics, segments source policy = .ok (found, diagnostics) ∧
      found.toList = Segment.batch (Scanner.ofSource source).topLevel ∧
      diagnostics.toList =
        (Scanner.ofSource source).pieces.flatMap (Piece.diagnostics source) := by
  obtain ⟨g, collected, accepted, diagnostics⟩ := Segmenter.collect_ok source policy allowed
  refine ⟨g.sink.accepted, g.diagnostics, ?_, ?_, diagnostics⟩
  · rw [segments_eq_collect, collected]
    rfl
  · rw [accepted, segments_ofPieces_eq_batch]

/-- A source with a template literal that does not end gives nothing when that is an error. -/
theorem segments_fail {source : Text} {before : List Piece} {p : Piece}
    (pieces : (Scanner.ofSource source).pieces = before ++ [p])
    (closed : ∀ q ∈ before, q.terminated = true) (broken : p.terminated = false) :
    segments source .fail =
      .error (.unterminatedTemplate p.start (.ofOffset source p.start)) := by
  obtain ⟨g, failed, -⟩ := Segmenter.collect_fails source pieces closed broken
  rw [segments_eq_collect, failed]
  rfl

/-- A run fails only at a template literal that the source does not end. -/
theorem segments_ok_iff {source : Text} {policy : UnterminatedPolicy} :
    (∃ result, segments source policy = .ok result) ↔
      (∀ token ∈ (Scanner.ofSource source).topLevel,
        (Piece.ofTopLevel token).terminated = true) ∨ policy = .truncate := by
  have pieces_eq := Scanner.pieces_eq_map (Scanner.ofSource source)
  have closed_iff : (∀ p ∈ (Scanner.ofSource source).pieces, p.terminated = true) ↔
      ∀ token ∈ (Scanner.ofSource source).topLevel, (Piece.ofTopLevel token).terminated = true := by
    rw [pieces_eq, List.forall_mem_map]
  rw [← closed_iff]
  constructor
  · rintro ⟨result, ran⟩
    rcases (Scanner.placed_ofSource source).laid.ending with closed | ⟨_, p, pieces, closed, broken, -⟩
    · exact .inl closed
    · cases policy with
      | truncate => exact .inr rfl
      | fail =>
        rw [segments_fail pieces closed broken] at ran
        cases ran
  · intro allowed
    obtain ⟨found, diagnostics, ran, -⟩ := segments_succeed source policy allowed
    exact ⟨_, ran⟩

/-! ### The tokens in the span of a segment -/

/-- Pieces that follow each other lie between their offset and the end of their text. -/
theorem Piece.Consecutive.bounds {offset : Nat} {ps : List Piece} (laid : Consecutive offset ps)
    {p : Piece} (member : p ∈ ps) : offset ≤ p.start ∧ p.stop ≤ offset + (spell ps).size := by
  obtain ⟨before, behind, rfl⟩ := List.append_of_mem member
  rw [consecutive_append] at laid
  have starts := laid.2.1
  rw [spell_append, spell_cons, Text.size_append, Text.size_append, stop, starts]
  omega

/-- What tokens read, one after the other. -/
def Token.texts (tokens : List Token) : Text := tokens.flatMap Token.text

theorem Token.texts_append (ts us : List Token) : texts (ts ++ us) = texts ts ++ texts us :=
  List.flatMap_append

@[simp] theorem Piece.spell_map_ofTopLevel (tokens : List Token) :
    spell (tokens.map ofTopLevel) = Token.texts tokens := by
  rw [spell, List.flatMap_map]
  rfl

/-- The segment of tokens in a row reaches from where they start to the end of their text. -/
theorem Segment.span_ofTokens {offset : Nat} {run : List Token} (inhabited : run ≠ [])
    (laid : Piece.Consecutive offset (run.map Piece.ofTopLevel)) (index : Nat) :
    (Segment.ofTokens index run).span = ⟨offset, offset + (Token.texts run).size⟩ := by
  obtain ⟨first, more, rfl⟩ := List.exists_cons_of_ne_nil inhabited
  have starts : first.start = offset := laid.1
  have stops := Piece.stop_last laid
  rw [List.getLast?_map, ← List.map_cons, Piece.spell_map_ofTopLevel] at stops
  rw [Segment.ofTokens, ← stops, List.getLast?_cons]
  cases more.getLast? <;> simp [starts, Piece.stop, Token.stop, Piece.ofTopLevel]

section Inside

variable {source : Text} {before run behind : List Token}

/-- Where a run of tokens lies among the tokens of a source, and where the others lie. -/
theorem Laid.around_run
    (laid : Laid 0 source ((before ++ (run ++ behind)).map Piece.ofTopLevel))
    (inhabited : run ≠ []) (index : Nat) :
    (∀ token ∈ before, token.stop ≤ (Segment.ofTokens index run).span.start) ∧
    (∀ token ∈ run, token.inside (Segment.ofTokens index run).span = true) ∧
    (∀ token ∈ behind, (Segment.ofTokens index run).span.stop ≤ token.start) := by
  have parts := laid.consecutive
  rw [List.map_append, List.map_append, Piece.consecutive_append, Piece.consecutive_append,
    Piece.spell_map_ofTopLevel, Piece.spell_map_ofTopLevel, Nat.zero_add] at parts
  rw [Segment.span_ofTokens inhabited parts.2.1]
  refine ⟨fun token member => ?_, fun token member => ?_, fun token member => ?_⟩
  · have bounds := parts.1.bounds (List.mem_map_of_mem member)
    rw [Piece.spell_map_ofTopLevel, Nat.zero_add] at bounds
    exact bounds.2
  · have bounds := parts.2.1.bounds (List.mem_map_of_mem member)
    rw [Piece.spell_map_ofTopLevel] at bounds
    simp only [Token.inside, Bool.and_eq_true, decide_eq_true_eq]
    exact bounds
  · exact (parts.2.2.bounds (List.mem_map_of_mem member)).1

/-- The tokens that lie in the span of a run's segment are those of the run. -/
theorem Laid.filter_inside
    (laid : Laid 0 source ((before ++ (run ++ behind)).map Piece.ofTopLevel))
    (inhabited : run ≠ []) (index : Nat) :
    (before ++ (run ++ behind)).filter (·.inside (Segment.ofTokens index run).span) = run := by
  have filled : ∀ token ∈ before ++ (run ++ behind), token.start < token.stop := by
    intro token member
    have read : token.text ≠ [] := laid.inhabited _ (List.mem_map_of_mem member)
    exact Nat.lt_add_of_pos_right (Text.size_pos.mpr read)
  obtain ⟨early, within, late⟩ := laid.around_run inhabited index
  have none_before : before.filter (·.inside (Segment.ofTokens index run).span) = [] := by
    refine List.filter_eq_nil_iff.mpr fun token member => ?_
    have ends := early token member
    have starts := filled token (by simp [member])
    simp only [Token.inside, Bool.and_eq_true, decide_eq_true_eq]
    omega
  have none_behind : behind.filter (·.inside (Segment.ofTokens index run).span) = [] := by
    refine List.filter_eq_nil_iff.mpr fun token member => ?_
    have starts := late token member
    have ends := filled token (by simp [member])
    simp only [Token.inside, Bool.and_eq_true, decide_eq_true_eq]
    omega
  rw [List.filter_append, List.filter_append, none_before, none_behind,
    List.filter_eq_self.mpr within]
  simp

end Inside

/-- The tokens of a run are of one class. -/
theorem Token.segmentKind_eq_of_mem_runs {tokens run : List Token} (listed : run ∈ runs tokens)
    {a b : Token} (inA : a ∈ run) (inB : b ∈ run) : a.segmentKind = b.segmentKind := by
  have chain := List.isChain_of_mem_splitBy listed
  simp only [beq_iff_eq] at chain
  have equal := List.isChain_eq_iff_eq_replicate.mp ((List.isChain_map segmentKind).mpr chain)
  obtain ⟨first, more, rfl⟩ := List.exists_cons_of_ne_nil (List.ne_nil_of_mem inA)
  have replicated := equal first.segmentKind rfl
  have same (c : Token) (member : c ∈ first :: more) : c.segmentKind = first.segmentKind := by
    have listed : c.segmentKind ∈ (first :: more).map segmentKind := List.mem_map_of_mem member
    rw [replicated] at listed
    exact List.eq_of_mem_replicate listed
  rw [same a inA, same b inB]

/-- The segment of a run is of the class of its tokens. -/
theorem Token.segmentKind_of_mem_runs {tokens run : List Token} (listed : run ∈ runs tokens)
    {token : Token} (member : token ∈ run) (index : Nat) :
    token.segmentKind = (Segment.ofTokens index run).kind := by
  rw [Segment.ofTokens]
  dsimp only
  split
  · next comments =>
    rw [segmentKind, if_pos]
    simpa using List.all_eq_true.mp comments token member
  · next some =>
    -- One token of the run is no comment, so none is.
    simp only [List.all_eq_true, not_forall, decide_eq_true_eq] at some
    obtain ⟨other, inRun, code⟩ := some
    rw [segmentKind_eq_of_mem_runs listed member inRun, segmentKind, if_neg code]

theorem Token.flatten_runs (tokens : List Token) : (runs tokens).flatten = tokens :=
  List.flatten_splitBy _ tokens

/-- A segment of a batch is that of a run of its class, with the other tokens before and behind. -/
theorem Segment.mem_batch {tokens : List Token} {segment : Segment}
    (member : segment ∈ Segment.batch tokens) :
    ∃ index before run behind, segment = Segment.ofTokens index run ∧
      tokens = before ++ (run ++ behind) ∧ run ≠ [] ∧
      ∀ token ∈ run, token.segmentKind = segment.kind := by
  obtain ⟨i, inside, rfl⟩ := List.mem_mapIdx.mp member
  have listed : (Token.runs tokens)[i] ∈ Token.runs tokens := List.getElem_mem inside
  have cut : Token.runs tokens =
      (Token.runs tokens).take i ++ (Token.runs tokens)[i] :: (Token.runs tokens).drop (i + 1) := by
    simp
  have whole := (Token.flatten_runs tokens).symm.trans (congrArg List.flatten cut)
  rw [List.flatten_append, List.flatten_cons] at whole
  exact ⟨i, _, _, _, rfl, whole, List.ne_nil_of_mem_splitBy listed,
    fun token member => Token.segmentKind_of_mem_runs listed member i⟩

/-- What is the same for the segment of a run whatever its index, for all runs. -/
theorem Segment.map_batch {β : Type} {tokens : List Token} {f : Segment → β}
    {g : List Token → β}
    (same : ∀ run ∈ Token.runs tokens, ∀ index, f (Segment.ofTokens index run) = g run) :
    (Segment.batch tokens).map f = (Token.runs tokens).map g := by
  refine List.ext_getElem (by simp [Segment.batch]) fun i inBatch inRuns => ?_
  rw [List.length_map] at inRuns
  simp only [Segment.batch, List.getElem_map, List.getElem_mapIdx]
  exact same _ (List.getElem_mem inRuns) i

theorem flatMap_flatten {α β : Type} (f : α → List β) (ls : List (List α)) :
    ls.flatten.flatMap f = (ls.map (List.flatMap f)).flatten := by
  induction ls with
  | nil => rfl
  | cons l ls ih => rw [List.flatten_cons, List.flatMap_append, ih, List.map_cons, List.flatten_cons]

theorem flatMap_filter {α β : Type} (p : α → Bool) (f : α → List β) (l : List α) :
    (l.filter p).flatMap f = (l.map fun x => if p x then f x else []).flatten := by
  induction l with
  | nil => rfl
  | cons x l ih =>
    rw [List.filter_cons, List.map_cons, List.flatten_cons, ← ih]
    split <;> simp

/-- The segments hold what the tokens add, in order. -/
theorem Segment.fragments_batch (tokens : List Token) :
    (Segment.batch tokens).flatMap Segment.fragments = tokens.flatMap Token.fragments := by
  have each : (Segment.batch tokens).map Segment.fragments =
      (Token.runs tokens).map (List.flatMap Token.fragments) := Segment.map_batch fun _ _ _ => rfl
  rw [List.flatMap_def, each, ← flatMap_flatten, Token.flatten_runs]

/-- The segments of one class hold what the tokens of that class add, in order. -/
theorem Segment.fragments_batch_of_kind (tokens : List Token) (kind : Segment.Kind) :
    ((Segment.batch tokens).filter (·.kind = kind)).flatMap Segment.fragments =
      (tokens.filter (·.segmentKind = kind)).flatMap Token.fragments := by
  have each : (Segment.batch tokens).map
      (fun segment => if decide (segment.kind = kind) then segment.fragments else []) =
      ((Token.runs tokens).map (List.filter (·.segmentKind = kind))).map
        (List.flatMap Token.fragments) := by
    rw [List.map_map]
    refine Segment.map_batch fun run listed index => ?_
    have kinds : ∀ token ∈ run, token.segmentKind = (Segment.ofTokens index run).kind :=
      fun _ member => Token.segmentKind_of_mem_runs listed member index
    by_cases ofKind : (Segment.ofTokens index run).kind = kind
    · have all : ∀ token ∈ run, decide (token.segmentKind = kind) = true := fun token member =>
        decide_eq_true ((kinds token member).trans ofKind)
      rw [if_pos (decide_eq_true ofKind), Function.comp_apply, List.filter_eq_self.mpr all]
      rfl
    · have none : ∀ token ∈ run, ¬ decide (token.segmentKind = kind) = true := by
        intro token member same
        exact ofKind ((kinds token member).symm.trans (of_decide_eq_true same))
      rw [if_neg (by simpa using ofKind), Function.comp_apply, List.filter_eq_nil_iff.mpr none]
      rfl
  rw [flatMap_filter, each, ← flatMap_flatten, ← List.filter_flatten, Token.flatten_runs]

/-- Segments that hold the tokens of a source by their class. -/
structure Grouped (tokens : List Token) (segments : List Segment) : Prop where
  batch_eq : segments = Segment.batch tokens
  alternate : (segments.map Segment.kind).IsChain (· ≠ ·)
  prose : ∀ segment ∈ segments, segment.kind = .comment →
    (∀ token ∈ tokens.filter (·.inside segment.span), token.kind = .blockComment) ∧
    segment.fragments =
      (tokens.filter (·.inside segment.span)).flatMap fun token => Comment.lines token.text
  code : ∀ segment ∈ segments, segment.kind = .code →
    (∀ token ∈ tokens.filter (·.inside segment.span), token.kind ≠ .blockComment) ∧
    segment.fragments = (tokens.filter (·.inside segment.span)).map Token.text
  /-- What looks like a comment within a token of another kind is in no segment of prose. -/
  apart : ∀ segment ∈ segments, segment.kind = .comment →
    ∀ token ∈ tokens, token.kind ≠ .blockComment →
      token.stop ≤ segment.span.start ∨ segment.span.stop ≤ token.start

theorem Token.fragments_of_comments {run : List Token}
    (comments : ∀ token ∈ run, token.kind = .blockComment) :
    run.flatMap fragments = run.flatMap fun token => Comment.lines token.text := by
  rw [List.flatMap_def, List.flatMap_def]
  congr 1
  exact List.map_congr_left fun token member => by rw [fragments, if_pos (comments token member)]

theorem Token.fragments_of_code {run : List Token}
    (code : ∀ token ∈ run, token.kind ≠ .blockComment) : run.flatMap fragments = run.map text := by
  have each : run.map fragments = run.map fun token => [token.text] :=
    List.map_congr_left fun token member => by rw [fragments, if_neg (code token member)]
  rw [List.flatMap_def, each, ← List.flatMap_def]
  exact List.map_eq_flatMap.symm

theorem Token.segmentKind_eq_comment {token : Token} :
    token.segmentKind = .comment ↔ token.kind = .blockComment := by
  unfold segmentKind
  split <;> simp [*]

theorem Token.segmentKind_eq_code {token : Token} :
    token.segmentKind = .code ↔ token.kind ≠ .blockComment := by
  unfold segmentKind
  split <;> simp [*]

/-- The segments that a source gives are the longest runs of its tokens at top level: block
comments are prose, and a template literal with all its substitutions, like any other token, is
code. -/
theorem segments_group_tokens {source : Text} {policy : UnterminatedPolicy}
    {found : Array Segment} {diagnostics : Array Diagnostic}
    (ran : segments source policy = .ok (found, diagnostics)) :
    Grouped (Scanner.ofSource source).topLevel found.toList := by
  have batch_eq := (segments_of_ok ran).trans (segments_ofPieces_eq_batch _)
  have laid := (Scanner.placed_ofSource source).laid
  rw [Scanner.pieces_eq_map] at laid
  refine ⟨batch_eq, ?_, ?_, ?_, ?_⟩
  · rw [segments_of_ok ran, Stretch.kinds_segments]
    exact (Grouping.alternating_ofPieces (Scanner.ofSource source).pieces).kinds
  · intro segment member prose
    rw [batch_eq] at member
    obtain ⟨index, before, run, behind, rfl, cut, inhabited, kinds⟩ := Segment.mem_batch member
    have comments : ∀ token ∈ run, token.kind = .blockComment := fun token inRun =>
      Token.segmentKind_eq_comment.mp ((kinds token inRun).trans prose)
    rw [cut] at laid ⊢
    rw [laid.filter_inside inhabited]
    exact ⟨comments, Token.fragments_of_comments comments⟩
  · intro segment member code
    rw [batch_eq] at member
    obtain ⟨index, before, run, behind, rfl, cut, inhabited, kinds⟩ := Segment.mem_batch member
    have others : ∀ token ∈ run, token.kind ≠ .blockComment := fun token inRun =>
      Token.segmentKind_eq_code.mp ((kinds token inRun).trans code)
    rw [cut] at laid ⊢
    rw [laid.filter_inside inhabited]
    exact ⟨others, Token.fragments_of_code others⟩
  · intro segment member prose token inSource other
    rw [batch_eq] at member
    obtain ⟨index, before, run, behind, rfl, cut, inhabited, kinds⟩ := Segment.mem_batch member
    rw [cut] at laid inSource
    obtain ⟨early, -, late⟩ := laid.around_run inhabited index
    rcases List.mem_append.mp inSource with inBefore | inSource
    · exact .inl (early token inBefore)
    · rcases List.mem_append.mp inSource with inRun | inBehind
      · exact absurd (Token.segmentKind_eq_comment.mp ((kinds token inRun).trans prose)) other
      · exact .inr (late token inBehind)

/-- Two comments in a row are one segment, and markers in a string and in a template are code. -/
theorem markers_in_literals_grouped :
    ∃ found : Array Segment,
      segments "/*a*//*b*/'/*'`/*$\x7bc\x7d`".toList .fail = .ok (found, #[]) ∧
      found.toList.map (·.kind) = [.comment, .code] ∧
      Grouped (Scanner.ofSource "/*a*//*b*/'/*'`/*$\x7bc\x7d`".toList).topLevel found.toList := by
  have ran : segments "/*a*//*b*/'/*'`/*$\x7bc\x7d`".toList .fail =
      .ok (#[⟨.comment, [['a'], ['b']], ⟨0, 10⟩, 0⟩,
        ⟨.code, ["'/*'".toList, "`/*$\x7bc\x7d`".toList], ⟨10, 22⟩, 1⟩], #[]) :=
    eq_ok_of_toOption (by decide +kernel)
  exact ⟨_, ran, rfl, segments_group_tokens ran⟩

end Weave
