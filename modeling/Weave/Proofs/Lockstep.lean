import Weave.Proofs.TopLevel

/-!
Two scanners in step. A relation that every step of both keeps is kept by reading a template, whose
course depends on the kinds of the tokens alone; so it leads from each token at top level to the
next. The relation need only be kept up to some point of the first source: `InStep` takes a
condition that holds before that point, and whoever uses it shows that the point is not passed.
Where the first source may end before the second, `InStepToEnd` asks only that a template that is
still open then is not closed by what the second has left.
-/

namespace Weave

/-- Tokens of the same kind that are both closed, or both not. -/
structure Token.Alike (a b : Token) : Prop where
  kind_eq : b.kind = a.kind
  unterminated_eq : b.unterminated = a.unterminated

/-- Tokens that are alike are the same if they stand at the same place and read the same. -/
theorem Token.Alike.eq {a b : Token} (alike : a.Alike b) (start_eq : b.start = a.start)
    (text_eq : b.text = a.text) : b = a := by
  obtain ⟨kind_eq, unterminated_eq⟩ := alike
  cases a
  cases b
  simp_all

namespace Scanner

theorem next_of_rest_eq_nil {s : Scanner} (ended : s.rest = []) :
    s.next = { s with current := ⟨.endOfInput, s.current.stop, [], false⟩ } := by
  simp only [Scanner.next, ended]

theorem next_eq_take {s : Scanner} {c : Char} {rest : Text} (ahead : s.rest = c :: rest) :
    s.next = s.take s.current.stop (c :: rest)
      (Lexeme.read (s.current.stop == 0) s.regexAllowed c rest) := by
  simp only [Scanner.next, ahead]

theorem rescan_eq_take {s : Scanner} (closes : s.current.kind = .closeBrace) :
    s.rescan = s.take s.current.start (s.current.text ++ s.rest)
      (Lexeme.template .templateEnd .templateContinuation s.rest) := by
  rw [Scanner.rescan, if_pos closes]

theorem next_regexAllowed (s : Scanner) :
    s.next.regexAllowed = allowsRegex s.next.current.kind s.next.current.text s.regexAllowed := by
  unfold Scanner.next
  split <;> rfl

/-- Behind template text only its kind counts. -/
theorem rescan_regexAllowed {s : Scanner} (closes : s.current.kind = .closeBrace) :
    s.rescan.regexAllowed = decide (s.rescan.current.kind = .templateContinuation) := by
  rw [rescan_eq_take closes]
  rcases Lexeme.template_kind .templateEnd .templateContinuation s.rest with ended | continued
  · simp [take, allowsRegex, ended, Kind.isTrivia]
  · simp [take, allowsRegex, continued, Kind.isTrivia]

/-- A template that is open where the source ends is not terminated. -/
theorem close_of_rest_eq_nil {s : Scanner} (ended : s.rest = []) (start : Nat) (counters : List Nat)
    (maxDepth stop : Nat) :
    Template.close start s counters maxDepth stop =
      ({ start, stop, terminated := false, maxDepth }, s.next) := by
  rw [Template.close.eq_def]
  exact if_pos (next_kind_eq_endOfInput.mpr ended)

/-- A token that is no brace and opens no template changes no counter. -/
theorem close_of_plain {s : Scanner} {start : Nat} {counters : List Nat} {maxDepth stop : Nat}
    (more : s.next.current.kind ≠ .endOfInput) (notStart : s.next.current.kind ≠ .templateStart)
    (notOpen : s.next.current.kind ≠ .openBrace) (notClose : s.next.current.kind ≠ .closeBrace) :
    Template.close start s counters maxDepth stop =
      Template.close start s.next counters maxDepth s.next.current.stop := by
  rw [Template.close.eq_def]
  dsimp only
  rw [if_neg more]
  split <;> first | contradiction | rfl

/-- Reading a closing brace again keeps `Related` if it leaves the first scanner in a state with
`Before`, which no step restores. -/
structure InRescan (Related : Scanner → Scanner → Prop) (Before : Scanner → Prop) : Prop where
  rescan : ∀ {s s' : Scanner}, Related s s' → s.current.kind = .closeBrace →
    s'.current.kind = .closeBrace → Before s.rescan →
    Related s.rescan s'.rescan ∧ s.rescan.current.Alike s'.rescan.current
  before_next : ∀ {s : Scanner}, Before s.next → Before s
  before_rescan : ∀ {s : Scanner}, Before s.rescan → Before s

/-- Steps keep `Related` as long as they leave the first scanner in a state with `Before`. -/
structure InStep (Related : Scanner → Scanner → Prop) (Before : Scanner → Prop) : Prop
    extends InRescan Related Before where
  next : ∀ {s s' : Scanner}, Related s s' → Before s.next →
    Related s.next s'.next ∧ s.next.current.Alike s'.next.current

/-- Two readings of a template end in related scanners and report the same. -/
structure EndsAlike (Related : Scanner → Scanner → Prop) (a b : Template × Scanner) : Prop where
  related : Related a.2 b.2
  terminated_eq : b.1.terminated = a.1.terminated
  maxDepth_eq : b.1.maxDepth = a.1.maxDepth

/-- As `InStep`, but steps need keep `Related` only while the first scanner has text ahead. When it
has none, a template that is open ends alike in both. -/
structure InStepToEnd (Related : Scanner → Scanner → Prop) (Before : Scanner → Prop) : Prop
    extends InRescan Related Before where
  next : ∀ {s s' : Scanner}, Related s s' → s.rest ≠ [] → Before s.next →
    Related s.next s'.next ∧ s.next.current.Alike s'.next.current
  ended : ∀ {s s' : Scanner}, Related s s' → s.rest = [] → Before s.next →
    ∀ start start' counters maxDepth stop stop',
      EndsAlike Related ({ start, stop, terminated := false, maxDepth }, s.next)
        (Template.close start' s' counters maxDepth stop')

variable {Related : Scanner → Scanner → Prop} {Before : Scanner → Prop}

theorem InStep.toEnd (inStep : InStep Related Before) : InStepToEnd Related Before where
  toInRescan := inStep.toInRescan
  next related _ before := inStep.next related before
  ended := by
    intro s s' related ended before start start' counters maxDepth stop stop'
    obtain ⟨stepped, alike⟩ := inStep.next related before
    have ended' : s'.rest = [] :=
      next_kind_eq_endOfInput.mp (alike.kind_eq.trans (next_kind_eq_endOfInput.mpr ended))
    rw [close_of_rest_eq_nil ended']
    exact ⟨stepped, rfl, rfl⟩

theorem rest_ne_nil_of_next {s : Scanner} (more : s.next.current.kind ≠ .endOfInput) :
    s.rest ≠ [] := fun ended => more (next_kind_eq_endOfInput.mpr ended)

/-- What holds behind a template held before it. -/
theorem InStepToEnd.before_close (inStep : InStepToEnd Related Before) (start : Nat) (s : Scanner)
    (counters : List Nat) (maxDepth stop : Nat) :
    Before (Template.close start s counters maxDepth stop).2 → Before s :=
  Template.close_keeps (P := fun later => Before later → Before s)
    (fun _ keeps later => keeps (inStep.before_next later))
    (fun _ keeps later => keeps (inStep.before_rescan later)) start s counters maxDepth stop id

/-- A closing brace that is read again in both. -/
theorem InStepToEnd.again (inStep : InStepToEnd Related Before) {s s' : Scanner} (related : Related s s')
    (closes : s.next.current.kind = .closeBrace) (before : Before s.next.rescan) :
    Related s.next s'.next ∧ s'.next.current.kind = .closeBrace ∧
    Related s.next.rescan s'.next.rescan ∧
    s.next.rescan.current.Alike s'.next.rescan.current := by
  have more : s.next.current.kind ≠ .endOfInput := by simp [closes]
  obtain ⟨stepped, alike⟩ :=
    inStep.next related (rest_ne_nil_of_next more) (inStep.before_rescan before)
  have closes' := alike.kind_eq.trans closes
  exact ⟨stepped, closes', inStep.rescan stepped closes closes' before⟩

/-- Templates that are read in step end alike. -/
theorem InStepToEnd.close (inStep : InStepToEnd Related Before) (start start' : Nat) (s : Scanner)
    (counters : List Nat) (maxDepth stop : Nat) :
    ∀ (s' : Scanner) (stop' : Nat), Related s s' →
      Before (Template.close start s counters maxDepth stop).2 →
      EndsAlike Related (Template.close start s counters maxDepth stop)
        (Template.close start' s' counters maxDepth stop') := by
  fun_induction Template.close start s counters maxDepth stop with
  | case1 s counters maxDepth stop ahead ended =>
    intro s' stop' related before
    exact inStep.ended related (next_kind_eq_endOfInput.mp ended) before _ _ _ _ _ _
  | case2 s _ _ _ ahead _ more opens ih | case3 s _ _ ahead _ more opens ih
  | case4 s _ _ ahead _ more opens braces outer ih =>
    intro s' stop' related before
    obtain ⟨stepped, alike⟩ :=
      inStep.next related (rest_ne_nil_of_next more) (inStep.before_close _ _ _ _ _ before)
    rw [Template.close.eq_def start' s']
    simp only [alike.kind_eq.trans opens]
    exact ih _ _ stepped before
  | case5 s _ _ ahead _ more closes =>
    intro s' stop' related before
    obtain ⟨stepped, alike⟩ := inStep.next related (rest_ne_nil_of_next more) before
    rw [Template.close.eq_def start' s']
    simp only [alike.kind_eq.trans closes]
    exact ⟨stepped, rfl, rfl⟩
  | case6 s _ _ ahead _ more closes braces outer inside ih =>
    intro s' stop' related before
    obtain ⟨stepped, alike⟩ :=
      inStep.next related (rest_ne_nil_of_next more) (inStep.before_close _ _ _ _ _ before)
    rw [Template.close.eq_def start' s']
    simp only [alike.kind_eq.trans closes, if_pos inside]
    exact ih _ _ stepped before
  | case7 s _ _ ahead more closes braces outer last again _ continues ih =>
    intro s' stop' related before
    obtain ⟨stepped, closes', rescanned, alike⟩ :=
      inStep.again related closes (inStep.before_close _ _ _ _ _ before)
    rw [Template.close.eq_def start' s']
    simp only [closes', if_neg last, alike.kind_eq.trans continues, ↓reduceIte]
    exact ih _ _ rescanned before
  | case8 s _ _ ahead more closes braces outer last again _ other unclosed =>
    intro s' stop' related before
    obtain ⟨stepped, closes', rescanned, alike⟩ := inStep.again related closes before
    have other' := fun same => other (alike.kind_eq.symm.trans same)
    rw [Template.close.eq_def start' s']
    simp only [closes', if_neg last, if_neg other', alike.unterminated_eq.trans unclosed, ↓reduceIte,
      reduceCtorEq]
    exact ⟨rescanned, rfl, rfl⟩
  | case9 s _ _ ahead more closes braces last again _ other closed =>
    intro s' stop' related before
    obtain ⟨stepped, closes', rescanned, alike⟩ := inStep.again related closes before
    have other' := fun same => other (alike.kind_eq.symm.trans same)
    have closed' := fun same => closed (alike.unterminated_eq.symm.trans same)
    rw [Template.close.eq_def start' s']
    simp only [closes', if_neg last, if_neg other', if_neg closed', ↓reduceIte, reduceCtorEq]
    exact ⟨rescanned, rfl, rfl⟩
  | case10 s _ _ ahead more closes braces last again _ other closed _ _ ih =>
    intro s' stop' related before
    obtain ⟨stepped, closes', rescanned, alike⟩ :=
      inStep.again related closes (inStep.before_close _ _ _ _ _ before)
    have other' := fun same => other (alike.kind_eq.symm.trans same)
    have closed' := fun same => closed (alike.unterminated_eq.symm.trans same)
    rw [Template.close.eq_def start' s']
    simp only [closes', if_neg last, if_neg other', if_neg closed', ↓reduceIte, reduceCtorEq]
    exact ih _ _ rescanned before
  | case11 s counters maxDepth _ ahead _ more notStart notOpen notClose ih =>
    intro s' stop' related before
    obtain ⟨stepped, alike⟩ :=
      inStep.next related (rest_ne_nil_of_next more) (inStep.before_close _ _ _ _ _ before)
    rw [← alike.kind_eq] at more notStart notOpen notClose
    rw [close_of_plain more notStart notOpen notClose]
    exact ih _ _ stepped before

/-- Where one scanner has a token ahead at top level, a related one has a token like it. -/
theorem InStepToEnd.whole? (inStep : InStepToEnd Related Before) {s s' after : Scanner} {token : Token}
    (related : Related s s') (ahead : s.whole? = some (token, after)) (before : Before after) :
    ∃ token' after', s'.whole? = some (token', after') ∧ token.Alike token' ∧
      Related after after' := by
  unfold Scanner.whole? at ahead ⊢
  split at ahead
  · cases ahead
  · next more =>
    split at ahead
    · next opens =>
      cases ahead
      obtain ⟨stepped, alike⟩ :=
        inStep.next related (rest_ne_nil_of_next more) (inStep.before_close _ _ _ _ _ before)
      have ends : EndsAlike Related (Template.read s.next.current s.next)
          (Template.read s'.next.current s'.next) :=
        inStep.close _ _ _ _ _ _ _ _ stepped before
      simp only [alike.kind_eq, opens]
      exact ⟨_, _, rfl, ⟨rfl, congrArg not ends.terminated_eq⟩, ends.related⟩
    · next other =>
      cases ahead
      obtain ⟨stepped, alike⟩ := inStep.next related (rest_ne_nil_of_next more) before
      simp only [alike.kind_eq, if_neg more, if_neg other]
      exact ⟨_, _, rfl, alike, stepped⟩

theorem InStep.whole? (inStep : InStep Related Before) {s s' after : Scanner} {token : Token}
    (related : Related s s') (ahead : s.whole? = some (token, after)) (before : Before after) :
    ∃ token' after', s'.whole? = some (token', after') ∧ token.Alike token' ∧
      Related after after' :=
  inStep.toEnd.whole? related ahead before

end Scanner

end Weave
