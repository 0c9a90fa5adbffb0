import Weave.Scanner

/-!
Template literals with substitutions, taken whole. A substitution may hold any expression,
with braces of its own and with further templates. The reading keeps one brace counter for
each open substitution: a closing brace that brings the innermost counter to zero ends that
substitution, and is read again as the text of its template.
-/

namespace Weave

/-- A range of byte offsets. -/
structure Span where
  start : Nat
  stop : Nat
  deriving DecidableEq, Repr

/-- The extent of a template literal. -/
structure Template extends Span where
  /-- Whether the outermost closing backtick was found. -/
  terminated : Bool
  /-- The greatest number of substitutions open at one time. -/
  maxDepth : Nat
  deriving DecidableEq, Repr

/-- The characters of `source` in the range. -/
def Span.text (span : Span) (source : Text) : Text := source.slice span.start span.stop

namespace Template

/-- Reads on inside the substitutions whose brace counters are `counters`, innermost first,
until the outermost template closes or the source ends. `start` is where the outermost
template starts, `stop` the end of the last token taken. -/
def close (start : Nat) (s : Scanner) (counters : List Nat) (maxDepth stop : Nat) :
    Template × Scanner :=
  let ahead := s.next
  let stop' := ahead.current.stop
  if ahead.current.kind = .endOfInput then
    ({ start, stop, terminated := false, maxDepth }, ahead)
  else match ahead.current.kind with
    | .templateStart =>
      close start ahead (1 :: counters) (max maxDepth (counters.length + 1)) stop'
    | .openBrace =>
      match counters with
      | [] => close start ahead [] maxDepth stop'
      | braces :: outer => close start ahead ((braces + 1) :: outer) maxDepth stop'
    | .closeBrace =>
      match counters with
      | [] => ({ start, stop := stop', terminated := true, maxDepth }, ahead)
      | braces :: outer =>
        if 1 < braces then close start ahead ((braces - 1) :: outer) maxDepth stop'
        else
          let again := ahead.rescan
          let stop' := again.current.stop
          if again.current.kind = .templateContinuation then
            close start again (1 :: outer) maxDepth stop'
          else if again.current.unterminated then
            ({ start, stop := stop', terminated := false, maxDepth }, again)
          else match outer with
            | [] => ({ start, stop := stop', terminated := true, maxDepth }, again)
            | _ :: _ => close start again outer maxDepth stop'
    | _ => close start ahead counters maxDepth stop'
termination_by s.rest.length
decreasing_by
  all_goals first
    | exact Scanner.next_rest_length ‹_›
    | exact Nat.lt_of_le_of_lt (Scanner.rescan_rest_suffix _).length_le
        (Scanner.next_rest_length ‹_›)

/-- Reads the rest of the template literal that `head` opened, and leaves the scanner behind
it. The `$` and brace at the end of `head` open the first substitution. -/
def read (head : Token) (s : Scanner) : Template × Scanner :=
  close head.start s [1] 1 head.stop

theorem close_rest_suffix (start : Nat) (s : Scanner) (counters : List Nat) (maxDepth stop : Nat) :
    (close start s counters maxDepth stop).2.rest <:+ s.rest := by
  fun_induction close start s counters maxDepth stop with
  | case1 s | case5 s => exact s.next_rest_suffix
  | case2 s _ _ _ _ _ _ _ ih | case3 s _ _ _ _ _ _ ih | case4 s _ _ _ _ _ _ _ _ ih
  | case6 s _ _ _ _ _ _ _ _ _ ih | case11 s _ _ _ _ _ _ _ _ _ ih =>
    exact ih.trans s.next_rest_suffix
  | case7 s _ _ _ _ _ _ _ _ _ _ _ ih | case10 s _ _ _ _ _ _ _ _ _ _ _ _ _ ih =>
    exact ih.trans ((Scanner.rescan_rest_suffix _).trans s.next_rest_suffix)
  | case8 s | case9 s => exact (Scanner.rescan_rest_suffix _).trans s.next_rest_suffix

/-- Reading a template leaves a tail of the text ahead. -/
theorem read_rest_suffix (head : Token) (s : Scanner) : (read head s).2.rest <:+ s.rest :=
  close_rest_suffix head.start s [1] 1 head.stop

end Template

end Weave
