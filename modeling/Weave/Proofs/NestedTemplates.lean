import Weave.Proofs.Pieces
import Weave.Proofs.TemplateTree

/-!
Template literals of any nesting are read whole. A point of the reading is given by the brace
counters of the open substitutions, the greatest depth so far and the text ahead, and each token
leads from one point to the next. A printed part leads to the same counters behind it, and what
follows the first opening of a printed tree to the counters outside that tree.
-/

namespace Weave.Template

/-- What the reading comes to at a scanner behind whose current token the substitutions
`counters` are open. When none is, the outermost template has just been closed. -/
def resume (start : Nat) (s : Scanner) (counters : List Nat) (maxDepth : Nat) :
    Template × Scanner :=
  match counters with
  | [] => ({ start, stop := s.current.stop, terminated := true, maxDepth }, s)
  | braces :: outer => close start s (braces :: outer) maxDepth s.current.stop

/-- A point of the reading. -/
structure Point where
  counters : List Nat
  maxDepth : Nat
  ahead : Text

/-- The reading goes on from one point to the other. -/
def Leads (before after : Point) : Prop :=
  ∀ (start : Nat) (s : Scanner), s.rest = before.ahead → ∃ s' : Scanner, s'.rest = after.ahead ∧
    resume start s before.counters before.maxDepth =
      resume start s' after.counters after.maxDepth

theorem Leads.refl (point : Point) : Leads point point := fun _ s ahead => ⟨s, ahead, rfl⟩

theorem Leads.trans {a b c : Point} (first : Leads a b) (second : Leads b c) : Leads a c := by
  intro start s ahead
  obtain ⟨s₁, ahead₁, same₁⟩ := first start s ahead
  obtain ⟨s₂, ahead₂, same₂⟩ := second start s₁ ahead₁
  exact ⟨s₂, ahead₂, same₁.trans same₂⟩

/-! ### One token -/

section

variable {braces maxDepth : Nat} {outer : List Nat} {text rest : Text}

/-- A token that neither opens nor closes anything changes only the text ahead. -/
theorem Leads.token {kind : Kind} (reads : Reads text kind rest)
    (other : kind ∉ [.endOfInput, .templateStart, .openBrace, .closeBrace]) :
    Leads ⟨braces :: outer, maxDepth, text⟩ ⟨braces :: outer, maxDepth, rest⟩ := by
  intro start s ahead
  obtain ⟨isKind, left⟩ := reads s ahead
  refine ⟨s.next, left, ?_⟩
  simp only [List.mem_cons, List.not_mem_nil, or_false, not_or] at other
  rw [resume, close]
  simp only [isKind]
  split
  · exact absurd ‹_› other.1
  · split <;> simp_all [resume]

theorem Leads.openBrace :
    Leads ⟨braces :: outer, maxDepth, '{' :: rest⟩ ⟨(braces + 1) :: outer, maxDepth, rest⟩ := by
  intro start s ahead
  obtain ⟨isKind, left⟩ := reads_of_read (fun a r => Lexeme.read_openBrace a r rest) s ahead
  refine ⟨s.next, left, ?_⟩
  rw [resume, close]
  simp [isKind, resume]

/-- A closing brace that does not end the innermost substitution. -/
theorem Leads.closeBrace (inside : 0 < braces) :
    Leads ⟨(braces + 1) :: outer, maxDepth, '}' :: rest⟩ ⟨braces :: outer, maxDepth, rest⟩ := by
  intro start s ahead
  obtain ⟨isKind, left⟩ := reads_of_read (fun a r => Lexeme.read_closeBrace a r rest) s ahead
  refine ⟨s.next, left, ?_⟩
  rw [resume, close]
  simp [isKind, inside, resume]

theorem Leads.templateStart (chunk : Chunk) :
    Leads ⟨braces :: outer, maxDepth, '`' :: (chunk.text ++ '$' :: '{' :: rest)⟩
      ⟨1 :: braces :: outer, max maxDepth (outer.length + 2), rest⟩ := by
  intro start s ahead
  obtain ⟨isKind, left⟩ := chunk.reads_opening rest s ahead
  refine ⟨s.next, left, ?_⟩
  rw [resume, close]
  simp [isKind, resume]

/-- Where a closing brace stands ahead, it is taken, and can be read again as template text. -/
theorem reads_again {s : Scanner} {text : Text} {lexeme : Lexeme} (ahead : s.rest = '}' :: text)
    (read : Lexeme.template .templateEnd .templateContinuation text = lexeme) :
    s.next.current.kind = .closeBrace ∧ s.next.rescan.current.kind = lexeme.kind ∧
      s.next.rescan.current.unterminated = lexeme.unterminated ∧
      s.next.rescan.rest = lexeme.rest := by
  obtain ⟨brace, left⟩ := reads_of_read (fun a r => Lexeme.read_closeBrace a r text) s ahead
  simp [Scanner.rescan, brace, left, read, Scanner.take]

/-- The brace that ends a substitution, where another one follows in the same template. -/
theorem Leads.continuation (chunk : Chunk) :
    Leads ⟨1 :: outer, maxDepth, '}' :: (chunk.text ++ '$' :: '{' :: rest)⟩
      ⟨1 :: outer, maxDepth, rest⟩ := by
  intro start s ahead
  obtain ⟨brace, broken, -, left⟩ := reads_again ahead (chunk.template_opening _ _ rest)
  refine ⟨s.next.rescan, left, ?_⟩
  rw [resume, close]
  simp [brace, broken, resume]

/-- The brace that ends the last substitution of a template. -/
theorem Leads.ending (chunk : Chunk) :
    Leads ⟨1 :: outer, maxDepth, '}' :: (chunk.text ++ '`' :: rest)⟩ ⟨outer, maxDepth, rest⟩ := by
  intro start s ahead
  obtain ⟨brace, closed, terminated, left⟩ := reads_again ahead (chunk.template_closing _ _ rest)
  refine ⟨s.next.rescan, left, ?_⟩
  rw [resume, close]
  cases outer <;> simp [brace, closed, terminated, resume]

/-- White space is taken up to the first character that is none. -/
theorem Leads.space (skipped : text.dropWhile Text.isInlineSpace = rest) :
    Leads ⟨braces :: outer, maxDepth, ' ' :: text⟩ ⟨braces :: outer, maxDepth, rest⟩ := by
  have read := fun atStart regexAllowed => Lexeme.read_space atStart regexAllowed text
  rw [skipped] at read
  exact Leads.token (reads_of_read read) (by simp)

end

/-! ### Parts and trees -/

/-- Wherever a substitution is open, the text is passed over and leaves what was open as it was.
`depth` further substitutions are open within the text at one time. -/
def Passes (text : Text) (depth : Nat) : Prop :=
  ∀ ⦃braces maxDepth : Nat⦄ ⦃outer : List Nat⦄ ⦃rest : Text⦄, 0 < braces →
    outer.length + 1 ≤ maxDepth → Follows rest →
    Leads ⟨braces :: outer, maxDepth, text ++ rest⟩
      ⟨braces :: outer, max maxDepth (outer.length + 1 + depth), rest⟩

theorem passes_nil : Passes [] 0 := by
  intro braces maxDepth outer rest _ reached _
  rw [Nat.add_zero, Nat.max_eq_left reached]
  exact Leads.refl _

theorem Atom.passes (a : Atom) : Passes a.print 0 := by
  intro braces maxDepth outer rest _ reached follows
  rw [Nat.add_zero, Nat.max_eq_left reached]
  exact Leads.token (a.reads follows) (by cases a <;> simp [Atom.kind])

/-- One text, a space, and another. -/
theorem Passes.spaced {first second : Text} {m n : Nat} (passes : Passes first m)
    (bare : Bare second) (later : Passes second n) :
    Passes (first ++ ' ' :: second) (max m n) := by
  intro braces maxDepth outer rest inside reached follows
  rw [List.append_assoc, List.cons_append]
  have deepest : max maxDepth (outer.length + 1 + max m n) =
      max (max maxDepth (outer.length + 1 + m)) (outer.length + 1 + n) := by omega
  rw [deepest]
  exact (passes inside reached (.space _)).trans
    ((Leads.space (bare.append rest).dropWhile).trans (later inside (by omega) follows))

/-- The blanks inside the braces are taken one by one around parts, and at once where there are
none. -/
theorem Leads.blanks {braces maxDepth : Nat} {outer : List Nat} {parts : List Part} {rest : Text}
    (passes : Passes (Part.printAll parts) (Part.depthAll parts)) (inside : 0 < braces)
    (reached : outer.length + 1 ≤ maxDepth) :
    Leads ⟨braces :: outer, maxDepth, ' ' :: (Part.printAll parts ++ ' ' :: '}' :: rest)⟩
      ⟨braces :: outer, max maxDepth (outer.length + 1 + Part.depthAll parts), '}' :: rest⟩ := by
  have brace : Bare ('}' :: rest) := ⟨_, _, rfl, by decide⟩
  cases parts with
  | nil =>
    -- Both blanks are one token.
    rw [Part.depthAll, Nat.add_zero, Nat.max_eq_left reached]
    exact Leads.space brace.dropWhile
  | cons p ps =>
    have first : Bare (Part.printAll (p :: ps) ++ ' ' :: '}' :: rest) :=
      (Part.bare_all p ps).append _
    exact (Leads.space first.dropWhile).trans
      ((passes inside reached (.space _)).trans (Leads.space brace.dropWhile))

theorem Part.passes_group {parts : List Part}
    (passes : Passes (Part.printAll parts) (Part.depthAll parts)) :
    Passes (Part.group parts).print (Part.group parts).depth := by
  intro braces maxDepth outer rest inside reached follows
  simp only [Part.print, List.cons_append, List.append_assoc, List.nil_append, Part.depth]
  exact Leads.openBrace.trans
    ((Leads.blanks passes (Nat.succ_pos braces) reached).trans (Leads.closeBrace inside))

/-- What follows the first opening of a tree leads out of that tree. -/
def LeavesTree (tree : Tree) : Prop :=
  ∀ ⦃maxDepth : Nat⦄ ⦃outer : List Nat⦄ ⦃rest : Text⦄, outer.length + 1 ≤ maxDepth →
    Leads ⟨1 :: outer, maxDepth, tree.tail ++ rest⟩
      ⟨outer, max maxDepth (outer.length + tree.depth), rest⟩

theorem Part.passes_template {tree : Tree} (leaves : LeavesTree tree) :
    Passes (Part.template tree).print (Part.template tree).depth := by
  intro braces maxDepth outer rest inside reached follows
  rw [Part.print, Part.depth, tree.printBody_eq]
  simp only [List.cons_append, List.append_assoc]
  -- The opening token already counts the tree's first substitution.
  have deepest : max maxDepth (outer.length + 1 + tree.depth) =
      max (max maxDepth (outer.length + 2)) ((braces :: outer).length + tree.depth) := by
    have open_pos := tree.depth_pos
    rw [List.length_cons]
    omega
  rw [deepest]
  exact (Leads.templateStart tree.chunk).trans (leaves (Nat.le_max_right _ _))

theorem leavesTree_last {chunk ending : Chunk} {parts : List Part}
    (passes : Passes (Part.printAll parts) (Part.depthAll parts)) :
    LeavesTree (.last chunk parts ending) := by
  intro maxDepth outer rest reached
  simp only [Tree.tail, Tree.depth, List.append_assoc, List.cons_append, List.nil_append]
  rw [Nat.add_comm (Part.depthAll parts), ← Nat.add_assoc]
  exact (passes Nat.one_pos reached (.brace _)).trans (Leads.ending ending)

theorem leavesTree_more {chunk : Chunk} {parts : List Part} {tree : Tree}
    (passes : Passes (Part.printAll parts) (Part.depthAll parts)) (leaves : LeavesTree tree) :
    LeavesTree (.more chunk parts tree) := by
  intro maxDepth outer rest reached
  simp only [Tree.tail, Tree.depth, List.append_assoc, List.cons_append, tree.printBody_eq]
  have deepest : max maxDepth (outer.length + max (Part.depthAll parts + 1) tree.depth) =
      max (max maxDepth (outer.length + 1 + Part.depthAll parts)) (outer.length + tree.depth) := by
    omega
  rw [deepest]
  exact (passes Nat.one_pos reached (.brace _)).trans
    ((Leads.continuation tree.chunk).trans (leaves (by omega)))

-- The induction is over parts, lists of parts and trees at once.
mutual

theorem Part.passes : (p : Part) → Passes p.print p.depth
  | .atom a => a.passes
  | .group inside => Part.passes_group (Part.passes_all inside)
  | .template tree => Part.passes_template tree.leaves

theorem Part.passes_all : (ps : List Part) → Passes (Part.printAll ps) (Part.depthAll ps)
  | [] => passes_nil
  | [p] => by simpa [Part.printAll, Part.depthAll] using p.passes
  | p :: q :: ps => p.passes.spaced (Part.bare_all q ps) (Part.passes_all (q :: ps))

theorem Tree.leaves : (tree : Tree) → LeavesTree tree
  | .last _ inside _ => leavesTree_last (Part.passes_all inside)
  | .more _ inside rest => leavesTree_more (Part.passes_all inside) rest.leaves

end

/-! ### From the opening backtick on -/

theorem read_tree (tree : Tree) {s : Scanner} {following : Text}
    (ahead : s.rest = tree.print ++ following) :
    s.next.current.kind = .templateStart ∧ ∃ after : Scanner, after.rest = following ∧
      read s.next.current s.next =
        ({ start := s.current.stop, stop := after.current.stop, terminated := true
           maxDepth := tree.depth }, after) := by
  rw [Tree.print, tree.printBody_eq, List.cons_append, List.append_assoc] at ahead
  obtain ⟨opens, left⟩ := tree.chunk.reads_opening (tree.tail ++ following) s ahead
  have leaves : Leads ⟨[1], 1, tree.tail ++ following⟩ ⟨[], max 1 (0 + tree.depth), following⟩ :=
    tree.leaves (Nat.le_refl 1)
  obtain ⟨after, behind, same⟩ := leaves s.next.current.start s.next left
  have deepest : max 1 (0 + tree.depth) = tree.depth := by
    have open_pos := tree.depth_pos
    omega
  refine ⟨opens, after, behind, ?_⟩
  rw [← s.next_start]
  exact same.trans (by rw [resume, deepest])

/-- What is made of a printed tree that stands ahead at `offset`: the scanner opens a template,
the literal is the whole tree and nothing more, and a segmenter that goes on with code adds the
tree as one fragment. -/
structure Recognised (tree : Tree) (offset : Nat) (following : Text) (s : Scanner) : Prop where
  opens : s.next.current.kind = .templateStart
  literal_eq : (read s.next.current s.next).1 =
    { start := offset, stop := offset + tree.print.size, terminated := true
      maxDepth := tree.depth }
  text_eq : (read s.next.current s.next).1.text s.source = tree.print
  stop_eq : (read s.next.current s.next).2.current.stop = offset + tree.print.size
  rest_eq : (read s.next.current s.next).2.rest = following
  fed : ∀ {σ : Type} [Sink σ] (g g' : Segmenter σ), g.enter .code = (g', .ok ()) →
    g.feed s.next.current s.next =
      ((g'.add [tree.print] ⟨offset, offset + tree.print.size⟩,
        (read s.next.current s.next).2), .ok .more)

theorem recognised_of_rest (tree : Tree) {s : Scanner} {front following : Text}
    (placed : s.Placed front) (ahead : s.rest = tree.print ++ following) :
    Recognised tree s.current.stop following s := by
  obtain ⟨opens, after, rest, consumed⟩ := read_tree tree ahead
  have piece : s.piece? = some (.ofTemplate s.source (read s.next.current s.next).1, after) := by
    simp [Scanner.piece?, opens, consumed]
  obtain ⟨-, split, -, same, -⟩ := Scanner.piece?_spec placed piece
  have stops := Scanner.piece?_stop placed piece
  have text_eq : (read s.next.current s.next).1.text s.source = tree.print := by
    rw [ahead, rest] at split
    exact List.append_cancel_right split
  have stop_eq : after.current.stop = s.current.stop + tree.print.size := by
    rw [← stops, Piece.stop, Piece.ofTemplate, text_eq, consumed]
  rw [stop_eq] at consumed
  rw [consumed] at text_eq
  refine ⟨opens, ?_, ?_, ?_, ?_, ?_⟩ <;> simp only [consumed]
  · exact text_eq
  · exact stop_eq
  · exact rest
  · intro σ _ g g' entered
    simp only [Segmenter.feed, opens, entered, consumed, same, text_eq, ↓reduceIte]

/-- Template literals of any nesting are recognised whole. Wherever calls have left a scanner in
front of a printed tree, whatever follows it, the next token opens a template, and reading it
gives the range of exactly the printed tree, terminated, with the greatest number of open
substitutions, and leaves the scanner right behind. A segmenter adds the tree as one fragment. -/
theorem nested_template_recognised (tree : Tree) (front following : Text)
    (calls : List Scanner.Call)
    (boundary : ((Scanner.ofSource (front ++ (tree.print ++ following))).performAll
      calls).current.stop = front.size) :
    Recognised tree front.size following
      ((Scanner.ofSource (front ++ (tree.print ++ following))).performAll calls) := by
  obtain ⟨same, behind, placed⟩ :=
    Scanner.performAll_placed (Scanner.placed_ofSource (front ++ (tree.print ++ following))) calls
  have ahead := placed.rest_eq
  rw [same, boundary] at ahead
  rw [← boundary]
  exact recognised_of_rest tree placed (ahead.trans (Text.dropBytes_append front _))

/-- A template within a template, next to a group that holds a brace in a string. -/
def braceAndTemplate : Tree :=
  .last ⟨['p'], by decide, by decide, by decide⟩
    [.group [.atom (.quoted '\'' ['}'] (Or.inl rfl) (by simp [Text.isLineBreak]))],
      .template (.last ⟨['q'], by decide, by decide, by decide⟩
        [.atom (.word ['w'] (by decide) (by simp))] ⟨[], by decide, by decide, by decide⟩)]
    ⟨['!'], by decide, by decide, by decide⟩

theorem braceAndTemplate_recognised :
    braceAndTemplate.print = "`p$\x7b\x7b '\x7d' \x7d `q$\x7bw\x7d`\x7d!`".toList ∧
    braceAndTemplate.depth = 2 ∧
    Recognised braceAndTemplate 1 ['/', '*', '*', '/']
      ((Scanner.ofSource (['x'] ++ (braceAndTemplate.print ++ ['/', '*', '*', '/']))).performAll
        [.next]) :=
  ⟨by decide, by decide,
    nested_template_recognised braceAndTemplate ['x'] ['/', '*', '*', '/'] [.next] (by decide)⟩

end Weave.Template
