import Weave.Proofs.Lockstep

/-!
Reading a template literal by recursive descent. A substitution holds groups in braces and further
templates, each read by a call of its own; the loop of `Template.close` keeps a list of brace
counters in place of the calls. The two agree on every text, well-formed or not: where a call reads
a part, the loop passes over it with the counters of everything further out unchanged, and where the
source ends within a part, it ends for all the calls at once.
-/

namespace Weave.Template

open Scanner (close_of_rest_eq_nil close_of_plain next_kind_eq_endOfInput)

/-- How far a reader that starts at `s` has come. -/
structure Descent (s : Scanner) where
  /-- The scanner as the reader leaves it. -/
  after : Scanner
  /-- The end of the last token taken. -/
  stop : Nat
  /-- The greatest number of templates within each other in what was read. -/
  depth : Nat
  /-- Whether the reader has found its closing delimiter. If not, the source has ended. -/
  closed : Bool
  shorter : closed = true → after.rest.length < s.rest.length

namespace Descent

variable {s s' : Scanner}

/-- A reading as the last part of one that starts at `s` and has come to `depth` before. -/
def behind (r : Descent s') (later : s'.rest.length ≤ s.rest.length) (depth : Nat) : Descent s where
  after := r.after
  stop := r.stop
  depth := max depth r.depth
  closed := r.closed
  shorter closed := Nat.lt_of_lt_of_le (r.shorter closed) later

/-- Reads on behind a part, unless the source has ended within it. -/
def andThen (part : Descent s') (later : s'.rest.length ≤ s.rest.length)
    (more : part.closed = true → Descent part.after) : Descent s :=
  if closed : part.closed = true then
    (more closed).behind (Nat.le_trans (Nat.le_of_lt (part.shorter closed)) later) part.depth
  else part.behind later 0

end Descent

mutual

/-- Reads the rest of a substitution or of a group, up to the brace that closes it. An opening brace
opens a group, and a backtick with a substitution behind it a template. -/
def upToBrace (s : Scanner) (stop : Nat) : Descent s :=
  if ended : s.next.current.kind = .endOfInput then
    { after := s.next, stop, depth := 0, closed := false, shorter := nofun }
  else
    have taken := Scanner.next_rest_length ended
    let here := s.next.current.stop
    match s.next.current.kind with
    | .closeBrace =>
      { after := s.next, stop := here, depth := 0, closed := true, shorter := fun _ => taken }
    | .openBrace =>
      let group := upToBrace s.next here
      group.andThen (Nat.le_of_lt taken) fun _ => upToBrace group.after group.stop
    | .templateStart =>
      let inner := upToBacktick s.next here
      inner.andThen (Nat.le_of_lt taken) fun _ => upToBrace inner.after inner.stop
    | _ => (upToBrace s.next here).behind (Nat.le_of_lt taken) 0
termination_by 2 * s.rest.length
decreasing_by
  all_goals first
    | omega
    | exact (Nat.mul_lt_mul_left Nat.two_pos).mpr (Nat.lt_trans (Descent.shorter _ ‹_›) taken)

/-- Reads the rest of a template, from within one of its substitutions up to the backtick that closes
it. The brace that closes the substitution is read again as the text of the template, behind which
another substitution may follow. -/
def upToBacktick (s : Scanner) (stop : Nat) : Descent s :=
  let inside := upToBrace s stop
  if closed : inside.closed = true then
    let again := inside.after.rescan
    have taken : again.rest.length < s.rest.length :=
      Nat.lt_of_le_of_lt (Scanner.rescan_rest_suffix _).length_le (inside.shorter closed)
    if again.current.kind = .templateContinuation then
      (upToBacktick again again.current.stop).behind (Nat.le_of_lt taken) (inside.depth + 1)
    else
      { after := again, stop := again.current.stop, depth := inside.depth + 1
        closed := !again.current.unterminated, shorter := fun _ => taken }
  else { inside with depth := inside.depth + 1 }
termination_by 2 * s.rest.length + 1

end

/-- Reads the rest of the template literal that `head` opened by descending into its parts. -/
def descend (head : Token) (s : Scanner) : Template × Scanner :=
  let literal := upToBacktick s head.stop
  ({ start := head.start, stop := literal.stop, terminated := literal.closed
     maxDepth := literal.depth }, literal.after)

-- The group is closed, the template within it is, and the source ends within the second one.
example :
    let s := (Scanner.ofSource "`$\x7b \x7b `$\x7ba\x7d` \x7d `$\x7bb\x7d$\x7bc".toList).next
    (descend s.current s).1 = { start := 0, stop := 23, terminated := false, maxDepth := 2 } := by
  decide +kernel

theorem upToBacktick_depth_pos (s : Scanner) (stop : Nat) : 0 < (upToBacktick s stop).depth := by
  rw [upToBacktick]
  dsimp only
  split
  · split
    · exact Nat.lt_of_lt_of_le (Nat.succ_pos _) (Nat.le_max_left _ _)
    · exact Nat.succ_pos _
  · exact Nat.succ_pos _

/-! ### The loop at one token -/

section

variable {start stop braces maxDepth : Nat} {outer : List Nat} {s : Scanner}

theorem close_of_templateStart (opens : s.next.current.kind = .templateStart) :
    close start s outer maxDepth stop =
      close start s.next (1 :: outer) (max maxDepth (outer.length + 1)) s.next.current.stop := by
  rw [close.eq_def]
  simp [opens]

theorem close_of_openBrace (opens : s.next.current.kind = .openBrace) :
    close start s (braces :: outer) maxDepth stop =
      close start s.next ((braces + 1) :: outer) maxDepth s.next.current.stop := by
  rw [close.eq_def]
  simp [opens]

/-- How the loop goes on when a template has been closed within the substitutions `outer`. -/
def behindBacktick (start : Nat) (outer : List Nat) (s : Scanner) (stop maxDepth : Nat) :
    Template × Scanner :=
  match outer with
  | [] => ({ start, stop, terminated := true, maxDepth }, s)
  | _ :: _ => close start s outer maxDepth stop

/-- How the loop goes on behind a closing brace, which is the current token of `s`. -/
def behindBrace (start braces : Nat) (outer : List Nat) (s : Scanner) (stop maxDepth : Nat) :
    Template × Scanner :=
  if 1 < braces then close start s ((braces - 1) :: outer) maxDepth stop
  else
    let again := s.rescan
    if again.current.kind = .templateContinuation then
      close start again (1 :: outer) maxDepth again.current.stop
    else if again.current.unterminated then
      ({ start, stop := again.current.stop, terminated := false, maxDepth }, again)
    else behindBacktick start outer again again.current.stop maxDepth

theorem close_of_closeBrace (closes : s.next.current.kind = .closeBrace) :
    close start s (braces :: outer) maxDepth stop =
      behindBrace start braces outer s.next s.next.current.stop maxDepth := by
  rw [close.eq_def]
  simp only [closes, behindBrace, reduceCtorEq, ↓reduceIte]
  cases outer <;> rfl

end

/-! ### The loop and the readers -/

namespace Descent

variable {s s' : Scanner} {start depth maxDepth : Nat}
  {goOn goOn' : (s : Scanner) → (stop maxDepth : Nat) → Template × Scanner}

/-- What the loop comes to from where a reader started, if `depth` substitutions were open there and
`maxDepth` was the most so far: it goes on as `goOn` says, unless the source has ended. -/
def resume (r : Descent s) (start depth maxDepth : Nat)
    (goOn : (s : Scanner) → (stop maxDepth : Nat) → Template × Scanner) : Template × Scanner :=
  let deepest := max maxDepth (depth + r.depth)
  if r.closed then goOn r.after r.stop deepest
  else ({ start, stop := r.stop, terminated := false, maxDepth := deepest }, r.after)

theorem resume_behind (r : Descent s') (later : s'.rest.length ≤ s.rest.length) (before : Nat) :
    (r.behind later before).resume start depth maxDepth goOn =
      r.resume start depth (max maxDepth (depth + before)) goOn := by
  have deepest : max maxDepth (depth + max before r.depth) =
      max (max maxDepth (depth + before)) (depth + r.depth) := by omega
  simp only [resume, behind, deepest]

theorem resume_behind_zero (r : Descent s') (later : s'.rest.length ≤ s.rest.length)
    (reached : depth ≤ maxDepth) :
    (r.behind later 0).resume start depth maxDepth goOn = r.resume start depth maxDepth goOn := by
  rw [resume_behind, Nat.add_zero, Nat.max_eq_left reached]

/-- It makes no difference whether a template is counted when it is opened or when it is read. -/
theorem resume_counted {r : Descent s} (counted : 0 < r.depth) :
    r.resume start depth (max maxDepth (depth + 1)) goOn =
      r.resume start depth maxDepth goOn := by
  have deepest : max (max maxDepth (depth + 1)) (depth + r.depth) =
      max maxDepth (depth + r.depth) := by omega
  simp only [resume, deepest]

/-- If the loop goes on behind a part by reading more, it goes on from the part and from what is read
next as from one reading. -/
theorem resume_andThen {part : Descent s'} {later : s'.rest.length ≤ s.rest.length}
    {more : part.closed = true → Descent part.after} (reached : depth ≤ maxDepth)
    (follows : ∀ closed deepest, depth ≤ deepest →
      goOn part.after part.stop deepest = (more closed).resume start depth deepest goOn') :
    part.resume start depth maxDepth goOn =
      (part.andThen later more).resume start depth maxDepth goOn' := by
  unfold andThen
  split
  · next closed =>
    have further : depth ≤ max maxDepth (depth + part.depth) :=
      Nat.le_trans reached (Nat.le_max_left _ _)
    rw [resume_behind, ← follows closed _ further, resume, if_pos closed]
  · next unclosed =>
    rw [resume_behind_zero part later reached]
    simp only [resume, if_neg unclosed]

end Descent

-- The induction is that of the readers. It is for any counters, since a part is read at any depth.
mutual

/-- With `braces` open in the innermost substitution, the loop comes to the brace that closes the last
of them where the reader does. -/
theorem close_eq_upToBrace (s : Scanner) (start stop : Nat) {braces maxDepth : Nat}
    {outer : List Nat} (inside : 0 < braces) (reached : outer.length + 1 ≤ maxDepth) :
    close start s (braces :: outer) maxDepth stop =
      (upToBrace s stop).resume start (outer.length + 1) maxDepth
        (behindBrace start braces outer) := by
  by_cases ended : s.next.current.kind = .endOfInput
  · rw [upToBrace, dif_pos ended, close_of_rest_eq_nil (next_kind_eq_endOfInput.mp ended)]
    simp [Descent.resume, reached]
  · have taken := Scanner.next_rest_length ended
    rw [upToBrace, dif_neg ended]
    dsimp only
    split
    · next closes =>
      rw [close_of_closeBrace closes]
      simp [Descent.resume, reached]
    · next opens =>
      rw [close_of_openBrace opens, close_eq_upToBrace s.next start _ (Nat.succ_pos braces) reached]
      apply Descent.resume_andThen reached
      intro closed deepest further
      have shorter := (upToBrace s.next s.next.current.stop).shorter closed
      rw [← close_eq_upToBrace _ start _ inside further]
      -- The brace has closed the group, and `braces` are open again.
      exact if_pos (Nat.succ_lt_succ inside)
    · next opens =>
      have counted := upToBacktick_depth_pos s.next s.next.current.stop
      rw [close_of_templateStart opens,
        close_eq_upToBacktick s.next start _ (Nat.le_max_right _ _), List.length_cons,
        Descent.resume_counted counted]
      apply Descent.resume_andThen reached
      intro closed deepest further
      have shorter := (upToBacktick s.next s.next.current.stop).shorter closed
      exact close_eq_upToBrace _ start _ inside further
    · next notClose notOpen notStart =>
      rw [close_of_plain ended notStart notOpen notClose, Descent.resume_behind_zero _ _ reached]
      exact close_eq_upToBrace s.next start _ inside reached
termination_by 2 * s.rest.length

/-- In a substitution of a template, the loop comes to the backtick that closes the template where the
reader does. -/
theorem close_eq_upToBacktick (s : Scanner) (start stop : Nat) {maxDepth : Nat} {outer : List Nat}
    (reached : outer.length + 1 ≤ maxDepth) :
    close start s (1 :: outer) maxDepth stop =
      (upToBacktick s stop).resume start outer.length maxDepth (behindBacktick start outer) := by
  have deepest : outer.length + 1 + (upToBrace s stop).depth =
      outer.length + ((upToBrace s stop).depth + 1) := by omega
  rw [close_eq_upToBrace s start stop Nat.one_pos reached, upToBacktick]
  dsimp only
  split
  · next closed =>
    have taken := (upToBrace s stop).shorter closed
    have shorter := (upToBrace s stop).after.rescan_rest_suffix.length_le
    rw [Descent.resume, if_pos closed, behindBrace, if_neg (Nat.lt_irrefl 1), deepest]
    dsimp only
    split
    · rw [Descent.resume_behind]
      exact close_eq_upToBacktick _ start _ (Nat.le_trans reached (Nat.le_max_left _ _))
    · cases (upToBrace s stop).after.rescan.current.unterminated <;> simp [Descent.resume]
  · next unclosed => simp only [Descent.resume, if_neg unclosed, deepest]
termination_by 2 * s.rest.length + 1

end

/-- The loop with its list of counters reads a template literal as recursive descent does. From any
state of a scanner and for any opening token, both find the same end and the same greatest depth,
agree on whether the literal is closed, and leave the scanner in the same state. -/
theorem read_eq_descend (head : Token) (s : Scanner) : read head s = descend head s := by
  have counted := upToBacktick_depth_pos s head.stop
  have deepest : max 1 (0 + (upToBacktick s head.stop).depth) =
      (upToBacktick s head.stop).depth := by omega
  rw [read, close_eq_upToBacktick s head.start head.stop (Nat.le_refl 1), descend, Descent.resume,
    List.length_nil, deepest]
  cases (upToBacktick s head.stop).closed <;> rfl

end Weave.Template
