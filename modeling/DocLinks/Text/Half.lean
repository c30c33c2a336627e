/-!
# Halves of surrogate pairs

Formats that escape characters by their code units can write half of a surrogate pair alone. No
character is such a half, so a text spells it with two characters that are not assigned: a mark, and
the private character whose number is greater than that of the half by a fixed amount. Alone, either
of them stands for itself.

## Contents
- `spell`: the characters that spell a code point.
- `halfOf?`: the half that two characters spell.
-/

namespace DocLinks.Text

/-- The mark before the character that tells a half. -/
def halfMark : Char := Char.ofNat 0x10fffe

/-- How much greater the number of the private character is. -/
def halfShift : Nat := 0x100000

/-- Whether a number is that of a half. -/
def isHalf (n : Nat) : Bool := 0xD800 ≤ n && n < 0xE000

/-- The characters that spell a code point: itself, unless it is a half. -/
def spell (n : Nat) : List Char :=
  if isHalf n then [halfMark, Char.ofNat (n + halfShift)] else [Char.ofNat n]

/-- The half that two characters spell. -/
def halfOf? (a b : Char) : Option Nat :=
  if a = halfMark ∧ isHalf (b.toNat - halfShift) then some (b.toNat - halfShift) else none

/-- What spells a half is read as that half. -/
theorem spell_eq_of_isHalf {n : Nat} (h : isHalf n) :
    ∃ a b, spell n = [a, b] ∧ halfOf? a b = some n := by
  have bounds : 0xD800 ≤ n ∧ n < 0xE000 := by simpa [isHalf] using h
  have valid : (n + halfShift).isValidChar := by
    right
    unfold halfShift
    omega
  have number : (Char.ofNat (n + halfShift)).toNat = n + halfShift := by
    rw [Char.ofNat, dif_pos valid]
    rfl
  exact ⟨halfMark, Char.ofNat (n + halfShift), by simp [spell, h], by simp [halfOf?, number, h]⟩

end DocLinks.Text
