import Weave.Proofs.Calls
import Weave.Proofs.Resumption

/-!
The future of a scanner depends on the text ahead and on whether a slash may open a regular
expression, and on nothing that was scanned before. Two scanners that agree on these give the same
tokens from the next step on, however they are used; only the offsets differ, by as much as what
stands before the two. The start of a source is a place of its own, because of the shebang.
-/

namespace Weave

/-- The same token in two sources, `m` bytes of one standing before it where `n` bytes of the other
do. -/
structure Token.Displaced (m n : Nat) (a b : Token) : Prop where
  kind_eq : b.kind = a.kind
  text_eq : b.text = a.text
  unterminated_eq : b.unterminated = a.unterminated
  start_eq : b.start + m = a.start + n
  stop_eq : b.stop + m = a.stop + n

theorem Token.Displaced.symm {m n : Nat} {a b : Token} (displaced : a.Displaced m n b) :
    b.Displaced n m a :=
  ⟨displaced.kind_eq.symm, displaced.text_eq.symm, displaced.unterminated_eq.symm,
    displaced.start_eq.symm, displaced.stop_eq.symm⟩

theorem Token.displaced_shift (token : Token) (m n : Nat) :
    token.Displaced m (m + n) (token.shift n) := by
  refine ⟨rfl, rfl, rfl, ?_, ?_⟩
  · simp only [Token.shift]
    omega
  · simp only [Token.shift, Token.stop]
    omega

namespace Scanner

variable {s s' : Scanner} {n : Nat}

/-- Scanners with the same text ahead and the same token, `n` bytes further on in the second. -/
structure Apart (n : Nat) (s s' : Scanner) : Prop extends Shifted n s s' where
  current_eq : s'.current = s.current.shift n

/-- From the next step on, scanners with the same text ahead have the same token. -/
theorem Shifted.next (shifted : Shifted n s s') : Apart n s.next s'.next := by
  obtain ⟨later, alike⟩ := (inStep_shifted n).next shifted trivial
  have text_eq : s'.next.current.text = s.next.current.text := by
    have split := next_text_append s'
    rw [later.rest_eq, shifted.rest_eq, ← next_text_append s] at split
    exact List.append_cancel_right split
  have start_eq : s'.next.current.start = s.next.current.start + n := by
    rw [next_start, next_start, shifted.stop_eq]
  have moved : (s.next.current.shift n).Alike s'.next.current :=
    ⟨alike.kind_eq, alike.unterminated_eq⟩
  exact ⟨later, moved.eq start_eq text_eq⟩

theorem Apart.rescan (apart : Apart n s s') : Apart n s.rescan s'.rescan := by
  have kind_eq : s'.current.kind = s.current.kind := by
    rw [apart.current_eq]
    rfl
  by_cases closes : s.current.kind = .closeBrace
  · obtain ⟨later, alike⟩ :=
      (inStep_shifted n).rescan apart.toShifted closes (kind_eq.trans closes) trivial
    have text_eq : s'.rescan.current.text = s.rescan.current.text := by
      have split := rescan_text_append s'
      rw [later.rest_eq, apart.rest_eq, apart.current_eq] at split
      exact List.append_cancel_right (split.trans (rescan_text_append s).symm)
    have start_eq : s'.rescan.current.start = s.rescan.current.start + n := by
      rw [rescan_start, rescan_start, apart.current_eq]
      rfl
    have moved : (s.rescan.current.shift n).Alike s'.rescan.current :=
      ⟨alike.kind_eq, alike.unterminated_eq⟩
    exact ⟨later, moved.eq start_eq text_eq⟩
  · have other : s'.current.kind ≠ .closeBrace := fun same => closes (kind_eq.symm.trans same)
    rw [Scanner.rescan, Scanner.rescan, if_neg closes, if_neg other]
    exact apart

theorem Apart.alike (apart : Apart n s s') : s.current.Alike s'.current := by
  rw [apart.current_eq]
  exact ⟨rfl, rfl⟩

theorem inStep_apart (n : Nat) : InStep (Apart n) fun _ => True where
  next apart _ := ⟨apart.toShifted.next, apart.toShifted.next.alike⟩
  rescan apart _ _ _ := ⟨apart.rescan, apart.rescan.alike⟩
  before_next _ := trivial
  before_rescan _ := trivial

theorem Apart.perform (apart : Apart n s s') (call : Call) :
    Apart n (s.perform call) (s'.perform call) := by
  cases call with
  | next | item => exact apart.toShifted.next
  | rescan => exact apart.rescan
  | consume head =>
    exact ((inStep_apart n).toEnd.close head.start head.start s [1] 1 head.stop s' head.stop apart
      trivial).related

theorem Apart.performAll (apart : Apart n s s') (calls : List Call) :
    Apart n (s.performAll calls) (s'.performAll calls) := by
  induction calls generalizing s s' with
  | nil => exact apart
  | cons call calls ih => exact ih (apart.perform call)

/-- The scanner stands between `front` and `rest` in the source that they make up, whatever was
called to bring it there. -/
structure Between (front rest : Text) (s : Scanner) : Prop where
  reached : ∃ calls, s = (ofSource (front ++ rest)).performAll calls
  stop_eq : s.current.stop = front.size

theorem Between.rest_eq {front rest : Text} (stands : Between front rest s) : s.rest = rest := by
  obtain ⟨⟨calls, rfl⟩, stop_eq⟩ := stands
  obtain ⟨same, behind, placed⟩ := performAll_placed (placed_ofSource (front ++ rest)) calls
  have rest_eq := placed.rest_eq
  rwa [same, stop_eq, ofSource, Text.dropBytes_append] at rest_eq

section

variable {u v r : Text}

theorem Between.noShebang (stands : Between u r s) (plain : u ≠ [] ∨ ¬ ['#', '!'] <+: r) :
    s.current.stop = 0 → ¬ ['#', '!'] <+: s.rest := by
  intro start
  rw [stands.stop_eq, Text.size_eq_zero] at start
  rw [stands.rest_eq]
  exact plain.resolve_left (not_not_intro start)

theorem Between.apart (stands : Between u r s) (stands' : Between v r s')
    (allowed : s'.regexAllowed = s.regexAllowed) (plain : u ≠ [] ∨ ¬ ['#', '!'] <+: r)
    (further : v.size = u.size + n) (calls : List Call) :
    Apart n (s.next.performAll calls) (s'.next.performAll calls) := by
  have shifted : Shifted n s s' :=
    { rest_eq := stands'.rest_eq.trans stands.rest_eq.symm
      regexAllowed_eq := allowed
      stop_eq := by rw [stands'.stop_eq, stands.stop_eq, further]
      noShebang := stands.noShebang plain }
  exact shifted.next.performAll calls

/-- What a scanner gives depends on the text ahead and on one flag. Take two sources that end alike,
and on each a scanner that stands where the common end begins, both at a place where a slash opens a
regular expression or both where it does not. Once the next token is taken, every sequence of calls
gives tokens of the same kinds and texts, closed or not alike, at offsets that differ by the sizes of
what stands in front, and leaves the flag the same. Only at the start of a source, where a fresh
scanner stands, must the common end not begin with a shebang. -/
theorem future_depends_on_text_ahead (stands : Between u r s) (stands' : Between v r s')
    (allowed : s'.regexAllowed = s.regexAllowed)
    (plain : u ≠ [] ∧ v ≠ [] ∨ ¬ ['#', '!'] <+: r) (calls : List Call) :
    (s.next.performAll calls).current.Displaced u.size v.size (s'.next.performAll calls).current ∧
      (s'.next.performAll calls).regexAllowed = (s.next.performAll calls).regexAllowed := by
  rcases Nat.le_total u.size v.size with shorter | shorter
  · obtain ⟨n, further⟩ := Nat.exists_eq_add_of_le shorter
    have apart := stands.apart stands' allowed (plain.imp_left And.left) further calls
    rw [apart.current_eq, further]
    exact ⟨Token.displaced_shift _ _ _, apart.regexAllowed_eq⟩
  · obtain ⟨n, further⟩ := Nat.exists_eq_add_of_le shorter
    have apart := stands'.apart stands allowed.symm (plain.imp_left And.right) further calls
    rw [apart.current_eq, further]
    exact ⟨(Token.displaced_shift _ _ _).symm, apart.regexAllowed_eq.symm⟩

/-- The same regular expression and the same end of a template are read behind one byte, behind three
and at the start of a source. -/
theorem template_end_read_alike :
    let r := "/a\x7d/\x7d#!`".toList
    let s := (ofSource ("(".toList ++ r)).performAll [.next]
    let s' := (ofSource ("é=".toList ++ r)).performAll [.next, .next]
    let calls := [.next, .rescan]
    Between "(".toList r s ∧ Between "é=".toList r s' ∧ Between [] r (ofSource r) ∧
      (s.next.performAll calls).current.text = "\x7d#!`".toList ∧
      (s.next.performAll calls).current.Displaced 1 3 (s'.next.performAll calls).current ∧
      (s.next.performAll calls).current.Displaced 1 0
        ((ofSource r).next.performAll calls).current := by
  intro r s s' calls
  have stands : Between "(".toList r s := ⟨⟨[.next], rfl⟩, by decide +kernel⟩
  have stands' : Between "é=".toList r s' := ⟨⟨[.next, .next], rfl⟩, by decide +kernel⟩
  have fresh : Between [] r (ofSource r) := ⟨⟨[], rfl⟩, rfl⟩
  have later := future_depends_on_text_ahead stands stands' (by decide +kernel)
    (.inl ⟨by decide, by decide⟩) calls
  have first := future_depends_on_text_ahead stands fresh (by decide +kernel)
    (.inr (by decide)) calls
  exact ⟨stands, stands', fresh, by decide +kernel, later.1, first.1⟩

end

end Scanner

end Weave
