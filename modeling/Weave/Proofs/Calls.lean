import Weave.Proofs.Placement

/-!
Any use of a scanner, as a sequence of calls. One call keeps the scanner placed in its source, so
every sequence of calls does; the offsets and texts that callers see then follow from `Placed`.
Taking tokens alone ends after as many steps as the source has characters, and the texts of the
tokens make up the source.
-/

namespace Weave.Scanner

/-- A way in which a caller moves a scanner on. -/
inductive Call where
  /-- Takes the next token. -/
  | next
  /-- Takes the next token as an item of a sequence that stops at the end of input. -/
  | item
  /-- Reads a closing brace again as template text. -/
  | rescan
  /-- Reads the rest of the template that `head` is taken to have opened. -/
  | consume (head : Token)

/-- The scanner as a call leaves it. -/
def perform (s : Scanner) : Call → Scanner
  | .next | .item => s.next
  | .rescan => s.rescan
  | .consume head => (Template.read head s).2

/-- The scanner as a sequence of calls leaves it. -/
def performAll (s : Scanner) (calls : List Call) : Scanner := calls.foldl perform s

/-- The next item of the sequence of tokens, which has none at the end of input. -/
def item? (s : Scanner) : Option Token :=
  if s.next.current.kind = .endOfInput then none else some s.next.current

/-- The token that the call number `i` gives, counted from zero, when every call takes the next
token. -/
def tokenAt (s : Scanner) (i : Nat) : Token := (s.performAll (List.replicate (i + 1) .next)).current

theorem perform_placed {s : Scanner} {front : Text} (placed : s.Placed front) (call : Call) :
    (s.perform call).source = s.source ∧ ∃ behind, (s.perform call).Placed behind := by
  cases call with
  | next | item => exact ⟨next_source s, _, placed.next⟩
  | rescan => exact ⟨rescan_source s, _, placed.rescan⟩
  | consume head => exact ⟨Template.read_source head s, Template.read_placed head placed⟩

/-- Whatever is called in whatever order, the scanner stands in the source it was made for. -/
theorem performAll_placed {s : Scanner} {front : Text} (placed : s.Placed front)
    (calls : List Call) :
    (s.performAll calls).source = s.source ∧ ∃ behind, (s.performAll calls).Placed behind := by
  induction calls generalizing s front with
  | nil => exact ⟨rfl, front, placed⟩
  | cons call calls ih =>
    obtain ⟨same, behind, standing⟩ := perform_placed placed call
    obtain ⟨later, final⟩ := ih standing
    exact ⟨later.trans same, final⟩

theorem perform_rest_suffix (s : Scanner) (call : Call) : (s.perform call).rest <:+ s.rest := by
  cases call with
  | next | item => exact s.next_rest_suffix
  | rescan => exact s.rescan_rest_suffix
  | consume head => exact Template.read_rest_suffix head s

theorem performAll_rest_suffix (s : Scanner) (calls : List Call) :
    (s.performAll calls).rest <:+ s.rest := by
  induction calls generalizing s with
  | nil => exact List.suffix_rfl
  | cons call calls ih => exact (ih (s.perform call)).trans (s.perform_rest_suffix call)

/-- What a caller may rely on at a scanner over `source`, whatever was called before. -/
structure Lossless (source : Text) (s : Scanner) : Prop where
  current_within : s.current.Within source
  next_start : s.next.current.start = s.current.stop
  next_within : s.next.current.Within source
  next_nonempty : s.next.current.kind ≠ .endOfInput → s.next.current.text ≠ []
  next_ended : s.next.current.kind = .endOfInput ↔ s.current.stop = source.size
  next_item : s.item? = if s.current.stop = source.size then none else some s.next.current
  stays_ended : s.current.stop = source.size →
    ∀ calls, (s.performAll calls).next.current.kind = .endOfInput
  rescan_start : s.rescan.current.start = s.current.start
  rescan_stop : s.current.stop ≤ s.rescan.current.stop

theorem Placed.lossless {s : Scanner} {front : Text} (placed : s.Placed front) :
    s.Lossless s.source := by
  have ended := next_kind_eq_endOfInput.trans placed.rest_eq_nil
  refine ⟨placed.within, s.next_start, ?_, next_text_ne_nil, ended, ?_, ?_, s.rescan_start, ?_⟩
  · rw [← next_source s]
    exact placed.next.within
  · simp only [item?, ended]
  · intro atEnd calls
    have empty := placed.rest_eq_nil.mpr atEnd
    apply next_kind_eq_endOfInput.mpr
    exact List.suffix_nil.mp (empty ▸ s.performAll_rest_suffix calls)
  · have before := placed.stop_add_rest
    have after := placed.rescan.stop_add_rest
    obtain ⟨gone, shorter⟩ := s.rescan_rest_suffix
    rw [rescan_source] at after
    rw [← shorter, Text.size_append] at before
    omega

/-- Taking tokens reaches the end of input after at most one step for each character ahead, and
the tokens before it spell the text ahead. -/
theorem tokenAt_ends (s : Scanner) :
    ∃ count ≤ s.rest.length, (s.tokenAt count).kind = .endOfInput ∧
      (∀ i < count, (s.tokenAt i).kind ≠ .endOfInput) ∧
      ((List.range count).map fun i => (s.tokenAt i).text).flatten = s.rest := by
  by_cases ended : s.next.current.kind = .endOfInput
  · refine ⟨0, Nat.zero_le _, ended, by simp, ?_⟩
    exact (next_kind_eq_endOfInput.mp ended).symm
  · have shorter := next_rest_length ended
    obtain ⟨count, bound, last, before, texts⟩ := tokenAt_ends s.next
    refine ⟨count + 1, by omega, last, ?_, ?_⟩
    · intro i inside
      cases i with
      | zero => exact ended
      | succ i => exact before i (by omega)
    · rw [List.range_succ_eq_map, List.map_cons, List.map_map, List.flatten_cons]
      calc (s.tokenAt 0).text ++ ((List.range count).map fun i => (s.next.tokenAt i).text).flatten
          = s.next.current.text ++ s.next.rest := by rw [texts]; rfl
        _ = s.rest := next_text_append s
termination_by s.rest.length

/-- The scanner loses nothing and always moves on. Whatever sequence of calls was made, its
token is a slice of the source between character boundaries, the next token starts where this
one stops and is empty only as the end of input, which comes exactly at the end of the source
and then for ever, and reading a brace again never moves back. Taking tokens alone reaches the
end of input within one call more than the source has bytes, and the texts before it are the
source. -/
theorem scanner_lossless (source : Text) :
    (∀ calls : List Call, ((ofSource source).performAll calls).Lossless source) ∧
    ∃ count ≤ source.size, ((ofSource source).tokenAt count).kind = .endOfInput ∧
      (∀ i < count, ((ofSource source).tokenAt i).kind ≠ .endOfInput) ∧
      ((List.range count).map fun i => ((ofSource source).tokenAt i).text).flatten = source := by
  constructor
  · intro calls
    obtain ⟨same, behind, standing⟩ := performAll_placed (placed_ofSource source) calls
    have lossless := standing.lossless
    rw [same] at lossless
    exact lossless
  · obtain ⟨count, bound, last, before, texts⟩ := tokenAt_ends (ofSource source)
    exact ⟨count, Nat.le_trans bound source.length_le_size, last, before, texts⟩

end Weave.Scanner
