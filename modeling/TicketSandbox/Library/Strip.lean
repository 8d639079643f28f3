import Mathlib.Data.List.DropRight

namespace Strip

/-!
# Stripping blanks from both ends of a sequence

Which elements are blank is a parameter.  A sequence is stripped when neither
end is blank, and stripping reaches such a sequence in one application.
-/

universe u

/-- Drop the blanks at both ends. -/
def strip {α : Type u} (blank : α → Bool) (text : List α) : List α :=
  (text.dropWhile blank).rdropWhile blank

variable {α : Type u} {blank : α → Bool}

/-- A solid character is not stripped. -/
theorem strip_cons_ne_nil
    {first : α} (solid : blank first = false) (rest : List α) :
    strip blank (first :: rest) ≠ [] := by
  have front : (first :: rest).dropWhile blank = first :: rest :=
    List.dropWhile_cons_of_neg (by simp [solid])
  rw [strip, front]
  intro empty
  have blanks := List.rdropWhile_eq_nil_iff.mp empty first List.mem_cons_self
  rw [solid] at blanks
  cases blanks

end Strip
