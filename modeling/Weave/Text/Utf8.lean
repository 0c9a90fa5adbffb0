import Weave.Text.Basic

/-!
Text as bytes. `encode` writes the UTF-8 form of a text. Reading is by `decodeOne`, which takes
one character, or one ill-formed stretch, off the front: `decode?` accepts well-formed bytes
only, and `decodeLossy` puts a replacement character for each ill-formed stretch.
-/

namespace Weave

/-- The contents of a file or a stream. -/
abbrev Bytes := List UInt8

namespace Utf8

/-- The bytes of a text. -/
def encode (t : Text) : Bytes := t.flatMap String.utf8EncodeChar

@[simp] theorem encode_nil : encode [] = [] := rfl

@[simp] theorem encode_append (s t : Text) : encode (s ++ t) = encode s ++ encode t :=
  List.flatMap_append

@[simp] theorem length_encode (t : Text) : (encode t).length = t.size := by
  induction t with
  | nil => rfl
  | cons c t ih => simp [encode, ← ih]

theorem encode_ne_nil {t : Text} (inhabited : t ≠ []) : encode t ≠ [] := by
  obtain ⟨c, t, rfl⟩ := List.exists_cons_of_ne_nil inhabited
  apply List.ne_nil_of_length_pos
  rw [length_encode, Text.size_cons]
  exact Nat.add_pos_left c.utf8Size_pos _

/-- Whether `b` lies in a closed range. -/
def within (low high b : UInt8) : Bool := low ≤ b && b ≤ high

/-- Reads `n` continuation bytes behind the bits of `value`. Where one is missing, the result
has no value, and reading goes on with the byte that stands in its place. -/
def continuation : (n value : Nat) → Bytes → Option Nat × Bytes
  | 0, value, rest => (some value, rest)
  | _ + 1, _, [] => (none, [])
  | n + 1, value, b :: rest =>
    if within 0x80 0xbf b then continuation n (value * 64 + (b.toNat - 0x80)) rest
    else (none, b :: rest)

/-- Reads `n` continuation bytes, the first of which lies between `low` and `high`. -/
def continuationFrom (low high : UInt8) (n value : Nat) (rest : Bytes) : Option Nat × Bytes :=
  if rest.head?.any (within low high) then continuation n value rest else (none, rest)

/-- Reads the character that begins with the byte `b`. The result has no character when `b`
and the bytes taken behind it are ill-formed; as many are taken as could still have begun a
character. -/
def decodeOne (b : UInt8) (rest : Bytes) : Option Char × Bytes :=
  let (value, rest) :=
    if b < 0x80 then (some b.toNat, rest)
    else if within 0xc2 0xdf b then continuationFrom 0x80 0xbf 1 (b.toNat - 0xc0) rest
    else if b = 0xe0 then continuationFrom 0xa0 0xbf 2 0 rest
    else if b = 0xed then continuationFrom 0x80 0x9f 2 0xd rest
    else if within 0xe1 0xef b then continuationFrom 0x80 0xbf 2 (b.toNat - 0xe0) rest
    else if b = 0xf0 then continuationFrom 0x90 0xbf 3 0 rest
    else if b = 0xf4 then continuationFrom 0x80 0x8f 3 4 rest
    else if within 0xf1 0xf3 b then continuationFrom 0x80 0xbf 3 (b.toNat - 0xf0) rest
    else (none, rest)
  (value.map Char.ofNat, rest)

theorem continuation_length (n value : Nat) (bytes : Bytes) :
    (continuation n value bytes).2.length ≤ bytes.length := by
  fun_induction continuation n value bytes with
  | case1 => exact Nat.le_refl _
  | case2 => exact Nat.le_refl _
  | case3 _ _ b rest _ ih => exact Nat.le_succ_of_le ih
  | case4 => exact Nat.le_refl _

theorem continuationFrom_length (low high : UInt8) (n value : Nat) (bytes : Bytes) :
    (continuationFrom low high n value bytes).2.length ≤ bytes.length := by
  unfold continuationFrom
  split
  · exact continuation_length n value bytes
  · exact Nat.le_refl _

theorem decodeOne_length (b : UInt8) (bytes : Bytes) :
    (decodeOne b bytes).2.length ≤ bytes.length := by
  simp only [decodeOne]
  repeat' split
  all_goals first
    | exact Nat.le_refl _
    | exact continuationFrom_length ..

/-- Puts the characters of the bytes, `none` for each ill-formed stretch, in reverse order in
front of `read`. -/
def decodeOnto (read : List (Option Char)) : Bytes → List (Option Char)
  | [] => read
  | b :: rest => decodeOnto ((decodeOne b rest).1 :: read) (decodeOne b rest).2
termination_by bytes => bytes.length
decreasing_by exact Nat.lt_succ_of_le (decodeOne_length b rest)

/-- The characters of `bytes` in order, `none` for each ill-formed stretch. -/
def decodeAll (bytes : Bytes) : List (Option Char) := (decodeOnto [] bytes).reverse

/-- The text of well-formed bytes. -/
def decode? (bytes : Bytes) : Option Text := (decodeAll bytes).mapM id

/-- The text of any bytes, with U+FFFD for each ill-formed stretch. -/
def decodeLossy (bytes : Bytes) : Text := (decodeAll bytes).map (·.getD '\ufffd')

/-- Where bytes are text, nothing has to be replaced. -/
theorem decodeLossy_of_decode? {bytes : Bytes} {t : Text} (valid : decode? bytes = some t) :
    decodeLossy bytes = t := by
  unfold decode? at valid
  unfold decodeLossy
  generalize decodeAll bytes = chars at valid ⊢
  induction chars generalizing t with
  | nil =>
    cases valid
    rfl
  | cons c chars ih =>
    rw [List.mapM_cons] at valid
    obtain ⟨d, read, valid⟩ := Option.bind_eq_some_iff.mp valid
    obtain ⟨rest, others, made⟩ := Option.bind_eq_some_iff.mp valid
    obtain rfl : c = some d := read
    obtain rfl : d :: rest = t := Option.some.inj made
    rw [List.map_cons, ih others]
    rfl

end Utf8

end Weave
