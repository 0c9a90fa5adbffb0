import Mathlib.Logic.Relation
import Weave.Proofs.Delimiters
import Weave.Proofs.RecursiveDescent
import Weave.Text.Utf8

/-!
The brace counters of the loop that reads a template literal. `Loop.turn` is one turn of that loop
with its silent assumptions turned into outcomes: a brace that closes nothing, a counter that would
go below zero, a token that cannot be read again. No turn comes to any of them, because a counter is
open and all counters are positive in front of every token; the turns end, in the result of
`Template.close`, and the literal ends in a backtick or with the source.
-/

namespace Weave.Template

open Scanner

/-- The loop in front of a token. -/
structure Loop where
  scanner : Scanner
  /-- The brace counters of the open substitutions, innermost first. -/
  counters : List Nat
  maxDepth : Nat
  /-- The end of the last token taken. -/
  stop : Nat

/-- What the loop takes for granted, and is found otherwise. -/
inductive Breach where
  /-- A brace closes where no substitution is open. -/
  | nothingOpen
  /-- A counter at zero is to be counted down. -/
  | underflow
  /-- A token other than a closing brace is to be read again. -/
  | noBrace
  /-- What was read again neither continues a template nor ends it. -/
  | noTemplateText
  deriving DecidableEq, Repr

namespace Loop

/-- The loop as it begins behind the token that opens the literal. -/
def ofHead (head : Token) (s : Scanner) : Loop := ⟨s, [1], 1, head.stop⟩

/-- Counts an opening brace in the innermost substitution. -/
def countUp : List Nat → List Nat
  | [] => []
  | braces :: outer => (braces + 1) :: outer

/-- Counts a closing brace in the innermost substitution. Gives the braces that are left open in it,
and the counters further out. -/
def countDown : List Nat → Except Breach (Nat × List Nat)
  | [] => .error .nothingOpen
  | 0 :: _ => .error .underflow
  | (braces + 1) :: outer => .ok (braces, outer)

/-- Reads a closing brace again as template text. -/
def readAgain (s : Scanner) : Except Breach Scanner :=
  if s.current.kind ≠ .closeBrace then .error .noBrace
  else if s.rescan.current.kind = .templateContinuation ∨ s.rescan.current.kind = .templateEnd then
    .ok s.rescan
  else .error .noTemplateText

/-- The loop behind the current token of `s`. -/
def goOn (s : Scanner) (counters : List Nat) (maxDepth : Nat) : Loop :=
  ⟨s, counters, maxDepth, s.current.stop⟩

/-- How the loop goes on behind template text, which is the current token of `s`: with the next
substitution of that template, with the substitutions `outer` around it, or not at all. -/
def behindText (start : Nat) (outer : List Nat) (maxDepth : Nat) (s : Scanner) :
    Loop ⊕ (Template × Scanner) :=
  let stop := s.current.stop
  if s.current.kind = .templateContinuation then .inl (goOn s (1 :: outer) maxDepth)
  else if s.current.unterminated then .inr ({ start, stop, terminated := false, maxDepth }, s)
  else if outer.isEmpty then .inr ({ start, stop, terminated := true, maxDepth }, s)
  else .inl (goOn s outer maxDepth)

/-- One turn of the loop, which takes a token: the loop goes on, or it returns. `start` is where the
literal starts. -/
def turn (start : Nat) (l : Loop) : Except Breach (Loop ⊕ (Template × Scanner)) :=
  let ahead := l.scanner.next
  let maxDepth := l.maxDepth
  match ahead.current.kind with
  | .endOfInput => .ok (.inr ({ start, stop := l.stop, terminated := false, maxDepth }, ahead))
  | .templateStart =>
    .ok (.inl (goOn ahead (1 :: l.counters) (max maxDepth (l.counters.length + 1))))
  | .openBrace => .ok (.inl (goOn ahead (countUp l.counters) maxDepth))
  | .closeBrace => do
    let (braces, outer) ← countDown l.counters
    if 0 < braces then return .inl (goOn ahead (braces :: outer) maxDepth)
    else return behindText start outer maxDepth (← readAgain ahead)
  | _ => .ok (.inl (goOn ahead l.counters maxDepth))

/-- What the loop comes to in the end. -/
def close (start : Nat) (l : Loop) : Template × Scanner :=
  Template.close start l.scanner l.counters l.maxDepth l.stop

/-- A turn of the loop after which it goes on. -/
def Turns (start : Nat) (l later : Loop) : Prop := l.turn start = .ok (.inl later)

/-- At least one substitution is open, and in each of them a brace. -/
structure Sound (l : Loop) : Prop where
  inhabited : l.counters ≠ []
  positive : ∀ braces ∈ l.counters, 0 < braces

/-- What a turn from `l` leads to. If the loop goes on, it is sound again and has taken text. If it
returns, the literal ends with the token that the scanner stands at, which is the end of template
text, unless nothing is ahead. -/
def Leads (l : Loop) : Loop ⊕ (Template × Scanner) → Prop
  | .inl later => later.Sound ∧ later.scanner.rest.length < l.scanner.rest.length ∧
      later.stop = later.scanner.current.stop
  | .inr (literal, after) =>
    (literal.terminated = true → literal.stop = after.current.stop ∧
      ∃ body, after.current.text = body ++ ['`']) ∧
    (literal.terminated = false → after.rest = []) ∧
    (l.scanner.rest ≠ [] ∨ l.stop = l.scanner.current.stop → literal.stop = after.current.stop)

end Loop

/-! ### What is read again -/

theorem rescan_kind {s : Scanner} (closes : s.current.kind = .closeBrace) :
    s.rescan.current.kind = .templateEnd ∨ s.rescan.current.kind = .templateContinuation := by
  rw [rescan_eq_take closes]
  exact Lexeme.template_kind .templateEnd .templateContinuation s.rest

/-- Template text that ends its template ends in a backtick. -/
theorem rescan_backtick {s : Scanner} (closes : s.next.current.kind = .closeBrace)
    (ended : s.next.rescan.current.kind = .templateEnd)
    (closed : s.next.rescan.current.unterminated = false) :
    ∃ body, s.next.rescan.current.text = body ++ ['`'] := by
  have delimited := rescan_delimited closes (next_closeBrace closes)
  have delimiters : s.next.rescan.current.kind.delimiters = [.template '}' [['`']]] := by
    rw [ended]
    rfl
  rw [Token.Delimited, delimiters, if_neg (List.cons_ne_nil _ _)] at delimited
  obtain ⟨d, listed, encloses⟩ := delimited
  obtain rfl := List.mem_singleton.mp listed
  obtain ⟨body, -, units⟩ := encloses.closed closed
  obtain ⟨inside, text_eq⟩ := encloses.opened
  have inside_eq := congrArg List.flatten units
  rw [Delimiters.flatten_cut, Delimiters.inside, ← text_eq, List.drop_left,
    List.flatten_append] at inside_eq
  refine ⟨['}'] ++ body.flatten, ?_⟩
  rw [← text_eq, inside_eq, List.append_assoc]
  rfl

/-! ### One turn -/

namespace Loop

variable {l : Loop} {start : Nat}

theorem Sound.countDown (sound : l.Sound) :
    ∃ braces outer, l.counters = (braces + 1) :: outer ∧
      Loop.countDown l.counters = .ok (braces, outer) ∧ ∀ n ∈ outer, 0 < n := by
  obtain ⟨n, outer, counters_eq⟩ := List.exists_cons_of_ne_nil sound.inhabited
  have positive := sound.positive
  rw [counters_eq] at positive ⊢
  obtain ⟨first, later⟩ := List.forall_mem_cons.mp positive
  obtain ⟨braces, rfl⟩ := Nat.exists_eq_succ_of_ne_zero (Nat.ne_of_gt first)
  exact ⟨braces, outer, rfl, rfl, later⟩

theorem readAgain_eq {s : Scanner} (closes : s.current.kind = .closeBrace) :
    readAgain s = .ok s.rescan := by
  rw [readAgain, if_neg (not_not_intro closes), if_pos (rescan_kind closes).symm]

/-- The loop goes on from a token that is not read again. -/
theorem leads_goOn {counters : List Nat} {maxDepth : Nat}
    (more : l.scanner.next.current.kind ≠ .endOfInput) (inhabited : counters ≠ [])
    (positive : ∀ n ∈ counters, 0 < n) :
    l.Leads (.inl (goOn l.scanner.next counters maxDepth)) :=
  ⟨⟨inhabited, positive⟩, next_rest_length more, rfl⟩

theorem elim_behindText (start braces : Nat) (outer : List Nat) (maxDepth stop : Nat) (s : Scanner)
    (last : ¬ 1 < braces) :
    (behindText start outer maxDepth s.rescan).elim (Loop.close start) id =
      behindBrace start braces outer s stop maxDepth := by
  rw [behindBrace, if_neg last, behindText]
  dsimp only
  split
  · rfl
  · split
    · rfl
    · cases outer <;> rfl

/-- A closing brace that is read again leads on as template text does. -/
theorem leads_behindText {outer : List Nat} (closes : l.scanner.next.current.kind = .closeBrace)
    (positive : ∀ n ∈ outer, 0 < n) (start maxDepth : Nat) :
    l.Leads (behindText start outer maxDepth l.scanner.next.rescan) := by
  have more : l.scanner.next.current.kind ≠ .endOfInput := by simp [closes]
  have taken : l.scanner.next.rescan.rest.length < l.scanner.rest.length :=
    Nat.lt_of_le_of_lt (rescan_rest_suffix _).length_le (next_rest_length more)
  unfold behindText
  dsimp only
  split
  · exact ⟨⟨List.cons_ne_nil _ _, List.forall_mem_cons.mpr ⟨Nat.one_pos, positive⟩⟩, taken, rfl⟩
  · next other =>
    split
    · next unclosed => exact ⟨by simp, fun _ => rescan_unterminated closes unclosed, fun _ => rfl⟩
    · next closed =>
      have ended := (rescan_kind closes).resolve_right other
      split
      · have backtick := rescan_backtick closes ended (Bool.eq_false_iff.mpr closed)
        exact ⟨fun _ => ⟨rfl, backtick⟩, by simp, fun _ => rfl⟩
      · next inhabited => exact ⟨⟨mt List.isEmpty_iff.mpr inhabited, positive⟩, taken, rfl⟩

/-- A sound loop takes the next token without a breach, and goes on as `Template.close` does. -/
theorem Sound.turn (sound : l.Sound) (start : Nat) :
    ∃ next, l.turn start = .ok next ∧ l.close start = next.elim (Loop.close start) id ∧
      l.Leads next := by
  unfold Loop.turn
  dsimp only
  split
  · next ended =>
    have empty := next_kind_eq_endOfInput.mp ended
    refine ⟨_, rfl, close_of_rest_eq_nil empty _ _ _ _, by simp, fun _ => ?_, fun standing => ?_⟩
    · exact List.suffix_nil.mp (empty ▸ l.scanner.next_rest_suffix)
    · exact (standing.resolve_left (not_not_intro empty)).trans (next_stop_of_rest_eq_nil empty).symm
  · next opens =>
    refine ⟨_, rfl, close_of_templateStart opens,
      leads_goOn (by simp [opens]) (List.cons_ne_nil _ _) ?_⟩
    exact List.forall_mem_cons.mpr ⟨Nat.one_pos, sound.positive⟩
  · next opens =>
    obtain ⟨braces, outer, counters_eq, -, later⟩ := sound.countDown
    rw [Loop.close, counters_eq]
    refine ⟨_, rfl, close_of_openBrace opens, leads_goOn (by simp [opens]) (List.cons_ne_nil _ _) ?_⟩
    exact List.forall_mem_cons.mpr ⟨Nat.succ_pos _, later⟩
  · next closes =>
    obtain ⟨braces, outer, counters_eq, counted, later⟩ := sound.countDown
    rw [counted, readAgain_eq closes, Loop.close, counters_eq, close_of_closeBrace closes]
    by_cases inside : 0 < braces
    · refine ⟨_, if_pos inside, if_pos (Nat.succ_lt_succ inside),
        leads_goOn (by simp [closes]) (List.cons_ne_nil _ _) ?_⟩
      exact List.forall_mem_cons.mpr ⟨inside, later⟩
    · -- It was the last brace of the substitution, and is read again.
      exact ⟨_, if_neg inside, (elim_behindText _ _ _ _ _ _ (by omega)).symm,
        leads_behindText closes later start l.maxDepth⟩
  · next more notStart notOpen notClose =>
    exact ⟨_, rfl, close_of_plain more notStart notOpen notClose,
      leads_goOn more sound.inhabited sound.positive⟩

-- With no substitution open, the same brace has nothing to close.
example : turn 0 ⟨ofSource "\x7d".toList, [], 1, 0⟩ = .error .nothingOpen := rfl

/-! ### All turns -/

open Relation (ReflTransGen)

theorem sound_ofHead (head : Token) (s : Scanner) : (ofHead head s).Sound :=
  ⟨List.cons_ne_nil _ _, List.forall_mem_singleton.mpr Nat.one_pos⟩

/-- The loop is sound in front of every token that it comes to. -/
theorem Sound.reached {later : Loop} (sound : l.Sound)
    (reached : ReflTransGen (Turns start) l later) : later.Sound := by
  induction reached with
  | refl => exact sound
  | tail _ turned ih =>
    obtain ⟨next, same, -, leads⟩ := ih.turn start
    obtain rfl := Except.ok.inj (same.symm.trans turned)
    exact leads.1

/-- The turns of a sound loop end, in what `Template.close` gives. -/
theorem Sound.run {l : Loop} (sound : l.Sound) (start : Nat) :
    ∃ last, ReflTransGen (Turns start) l last ∧ last.turn start = .ok (.inr (l.close start)) ∧
      l.Leads (.inr (l.close start)) := by
  obtain ⟨next, turned, close_eq, leads⟩ := sound.turn start
  rw [close_eq]
  cases next with
  | inr result => exact ⟨l, .refl, turned, leads⟩
  | inl later =>
    obtain ⟨sound', shorter, standing⟩ := leads
    obtain ⟨last, reached, returned, closed, ended, stops⟩ := sound'.run start
    exact ⟨last, .head turned reached, returned, closed, ended, fun _ => stops (.inr standing)⟩
termination_by l.scanner.rest.length

end Loop

open Relation (ReflTransGen)

/-- A token that ends in a backtick stops behind the byte of the backtick. -/
theorem backtick_before_stop {s : Scanner} {front body : Text} (placed : s.Placed front)
    (ends : s.current.text = body ++ ['`']) :
    0 < s.current.stop ∧ (Utf8.encode s.source)[s.current.stop - 1]? = some '`'.toUInt8 := by
  have source_eq : s.source = (front ++ body) ++ '`' :: s.rest := by
    rw [placed.source_eq, ends]
    simp
  have stop_eq : s.current.stop = (Utf8.encode (front ++ body)).length + 1 := by
    rw [placed.stop_eq, ends, ← List.append_assoc, Text.size_append, Utf8.length_encode]
    rfl
  refine ⟨by omega, ?_⟩
  rw [source_eq, stop_eq, Utf8.encode_append, Nat.add_sub_cancel,
    List.getElem?_append_right (Nat.le_refl _), Nat.sub_self]
  rfl

/-- The brace counters never go below zero, and the literal ends where it should. Whatever was called
on a scanner, and whatever token is taken for the head of a literal, a substitution is open in front
of every token that the loop takes and no counter is zero; no turn comes to a breach, and the turns
end in the literal that is reported. A terminated literal ends with the current token, behind a
backtick; any other leaves the scanner at the end of the source and reaches there, unless there was
no token to take. -/
theorem brace_counters_never_underflow (source : Text) (calls : List Call) (head : Token) :
    let s := (ofSource source).performAll calls
    let literal := (read head s).1
    let after := (read head s).2
    (∀ l, ReflTransGen (Loop.Turns head.start) (.ofHead head s) l →
      l.Sound ∧ ∃ next, l.turn head.start = .ok next) ∧
    (∃ last, ReflTransGen (Loop.Turns head.start) (.ofHead head s) last ∧
      last.turn head.start = .ok (.inr (literal, after))) ∧
    (literal.terminated = true → literal.stop = after.current.stop ∧ 0 < literal.stop ∧
      (Utf8.encode source)[literal.stop - 1]? = some '`'.toUInt8) ∧
    (literal.terminated = false → after.current.stop = source.size ∧
      (s.next.current.kind ≠ .endOfInput → literal.stop = source.size)) := by
  intro s literal after
  obtain ⟨same, front, placed⟩ := performAll_placed (placed_ofSource source) calls
  obtain ⟨behind, standing⟩ : ∃ behind, after.Placed behind := read_placed head placed
  have source_eq : after.source = source := (read_source head s).trans same
  have sound := Loop.sound_ofHead head s
  obtain ⟨last, reached, returned, closed, ended, stops⟩ := sound.run head.start
  refine ⟨fun l turns => ?_, ⟨last, reached, returned⟩, fun terminated => ?_, fun unterminated => ?_⟩
  · obtain ⟨next, turned, -⟩ := (sound.reached turns).turn head.start
    exact ⟨sound.reached turns, next, turned⟩
  · obtain ⟨stop_eq, body, text_eq⟩ := closed terminated
    have backtick := backtick_before_stop standing text_eq
    rw [source_eq] at backtick
    exact ⟨stop_eq, stop_eq ▸ backtick⟩
  · have atEnd : after.current.stop = source.size := by
      rw [← source_eq]
      exact standing.rest_eq_nil.mp (ended unterminated)
    exact ⟨atEnd, fun more => (stops (.inl (rest_ne_nil_of_next more))).trans atEnd⟩

end Weave.Template
