/-!
# Sets of code points

A set of code points is written as the sorted list of the places where membership changes: the
first number opens a range, the next one closes it, and so on. `inRanges` reads such a list; the
tables of the character classes are lists of this form.
-/

namespace DocLinks.Text

/-- Whether `n` lies in one of the half-open ranges `[a, b)` that the bounds list in pairs. -/
def inRanges (n : Nat) : List Nat → Bool
  | [] => false
  | [a] => decide (a ≤ n)
  | a :: b :: rest => if n < a then false else if n < b then true else inRanges n rest

@[simp] theorem inRanges_nil (n : Nat) : inRanges n [] = false := rfl

/-- A number below every bound is in no range. -/
theorem inRanges_of_lt {n a : Nat} (h : n < a) (rest : List Nat) :
    inRanges n (a :: rest) = false := by
  cases rest with
  | nil => simp [inRanges]; omega
  | cons b rest => simp [inRanges, h]

end DocLinks.Text
