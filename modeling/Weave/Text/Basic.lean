/-!
Text as a list of characters, measured in the bytes of its UTF-8 encoding. Offsets into a
text are byte counts; `slice` cuts between two of them, and `upTo` is what stands before a
tail of the text.
-/

namespace Weave

/-- Source text, and everything cut out of it. -/
abbrev Text := List Char

namespace Text

/-- Number of bytes of the UTF-8 encoding of `t`. -/
def size (t : Text) : Nat := t.foldl (fun bytes c => bytes + c.utf8Size) 0

/-- What is left of a text after its first `n` bytes. A character that is cut by the
offset goes with the bytes before it. -/
def dropBytes : Nat → Text → Text
  | 0, t => t
  | _ + 1, [] => []
  | n + 1, c :: t => dropBytes (n + 1 - c.utf8Size) t

/-- Whether `n` bytes are a whole number of characters of the text, or reach its end or
beyond. -/
def isBoundary : Nat → Text → Bool
  | 0, _ => true
  | _ + 1, [] => true
  | n + 1, c :: t => c.utf8Size ≤ n + 1 && isBoundary (n + 1 - c.utf8Size) t

/-- The part of `whole` that stands in front of its tail `rest`. -/
def upTo (whole rest : Text) : Text := whole.take (whole.length - rest.length)

/-- The characters between two byte offsets. -/
def slice (t : Text) (start stop : Nat) : Text :=
  upTo (dropBytes start t) (dropBytes stop t)

/-- Line breaks of source text: line feed, carriage return, and the Unicode line and
paragraph separators. -/
def isLineBreak (c : Char) : Bool :=
  c == '\n' || c == '\r' || c == '\u2028' || c == '\u2029'

theorem foldl_size (t : Text) (n : Nat) :
    t.foldl (fun bytes c => bytes + c.utf8Size) n = n + size t := by
  induction t generalizing n with
  | nil => rfl
  | cons c t ih =>
    rw [size, List.foldl_cons, List.foldl_cons, ih, ih]
    omega

@[simp] theorem size_nil : size [] = 0 := rfl

@[simp] theorem size_cons (c : Char) (t : Text) : size (c :: t) = c.utf8Size + size t := by
  rw [size, List.foldl_cons, foldl_size, Nat.zero_add]

@[simp] theorem size_append (s t : Text) : size (s ++ t) = size s + size t := by
  induction s with
  | nil => simp
  | cons c s ih => simp [ih, Nat.add_assoc]

/-- What stands before a tail, and that tail, make up the whole. -/
theorem upTo_append_of_suffix {whole rest : Text} (tail : rest <:+ whole) :
    upTo whole rest ++ rest = whole := by
  obtain ⟨front, rfl⟩ := tail
  simp [upTo]

/-- The part before `rest` of a text that ends in `rest` is the front. -/
@[simp] theorem upTo_append (front rest : Text) : upTo (front ++ rest) rest = front := by
  simp [upTo]

end Text

end Weave
