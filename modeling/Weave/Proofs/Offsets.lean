import Weave.Text.Basic

/-!
Offsets as sizes of fronts. The size of a front is a character boundary of the whole text,
dropping that many bytes leaves what stands behind the front, and `slice` gives back exactly
the middle that two such offsets enclose.
-/

namespace Weave.Text

theorem length_le_size (t : Text) : t.length ≤ t.size := by
  induction t with
  | nil => exact Nat.le_refl 0
  | cons c t ih =>
    have width := c.utf8Size_pos
    simp only [List.length_cons, size_cons]
    omega

@[simp] theorem size_eq_zero {t : Text} : t.size = 0 ↔ t = [] := by
  constructor
  · intro zero
    have short := length_le_size t
    exact List.eq_nil_of_length_eq_zero (by omega)
  · rintro rfl
    rfl

theorem size_pos {t : Text} : 0 < t.size ↔ t ≠ [] := by
  rw [Nat.pos_iff_ne_zero, ne_eq, size_eq_zero]

/-- An offset that reaches past a character leaves the same tail without it. -/
private theorem dropBytes_cons (c : Char) (n : Nat) (t : Text) :
    dropBytes (c.utf8Size + n) (c :: t) = dropBytes n t := by
  have width := c.utf8Size_pos
  obtain ⟨m, shape⟩ : ∃ m, c.utf8Size + n = m + 1 := ⟨c.utf8Size + n - 1, by omega⟩
  rw [shape, dropBytes, ← shape, Nat.add_sub_cancel_left]

private theorem isBoundary_cons (c : Char) (n : Nat) (t : Text) :
    isBoundary (c.utf8Size + n) (c :: t) = isBoundary n t := by
  have width := c.utf8Size_pos
  obtain ⟨m, shape⟩ : ∃ m, c.utf8Size + n = m + 1 := ⟨c.utf8Size + n - 1, by omega⟩
  rw [shape, isBoundary, ← shape, Nat.add_sub_cancel_left]
  simp

@[simp] theorem dropBytes_zero (t : Text) : dropBytes 0 t = t := by
  cases t <;> rfl

@[simp] theorem dropBytes_append (front rest : Text) :
    dropBytes front.size (front ++ rest) = rest := by
  induction front with
  | nil => exact dropBytes_zero rest
  | cons c front ih => rw [size_cons, List.cons_append, dropBytes_cons, ih]

/-- Every front of a text ends at a character boundary. -/
theorem isBoundary_append (front rest : Text) : isBoundary front.size (front ++ rest) = true := by
  induction front with
  | nil => cases rest <;> rfl
  | cons c front ih => rw [size_cons, List.cons_append, isBoundary_cons, ih]

/-- Between the end of a front and the end of a longer one stands what they differ in. -/
theorem slice_append (front middle rest : Text) :
    slice (front ++ (middle ++ rest)) front.size (front.size + middle.size) = middle := by
  have stop : dropBytes (front.size + middle.size) (front ++ (middle ++ rest)) = rest := by
    rw [← size_append, ← List.append_assoc, dropBytes_append]
  rw [slice, dropBytes_append, stop, upTo_append]

end Weave.Text
