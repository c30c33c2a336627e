import DocLinks.Proofs.Similarity
import DocLinks.Proofs.Text.LowerCase
import Mathlib.Algebra.Order.Field.Basic
import Mathlib.Algebra.Order.Ring.Rat
import Mathlib.Tactic.NormNum

/-!
# Scores

A score is compared by multiplying crosswise, which compares fractions as long as they have a whole
(`Ratio.le_iff`, `Ratio.exceedsHalf_iff`). Here the scores are said as fractions: the names that two paths
share, over the greater number of names (`sharedNames`), and one less the edit distance over the greater
length (`likeness`).
-/

namespace DocLinks

open Text

namespace Ratio

/-- The score as a fraction. -/
def value (a : Ratio) : ℚ := a.part / a.whole

variable {a b : Ratio}

theorem le_iff (ha : 0 < a.whole) (hb : 0 < b.whole) : a.le b = true ↔ a.value ≤ b.value := by
  have ha' : (0 : ℚ) < a.whole := Nat.cast_pos.2 ha
  have hb' : (0 : ℚ) < b.whole := Nat.cast_pos.2 hb
  unfold le value
  rw [decide_eq_true_eq, div_le_div_iff₀ ha' hb']
  exact_mod_cast Iff.rfl

theorem exceedsHalf_iff (ha : 0 < a.whole) : a.exceedsHalf = true ↔ 1 / 2 < a.value := by
  have ha' : (0 : ℚ) < a.whole := Nat.cast_pos.2 ha
  unfold exceedsHalf value
  rw [decide_eq_true_eq, div_lt_div_iff₀ two_pos ha', one_mul, mul_comm (a.part : ℚ)]
  exact_mod_cast Iff.rfl

end Ratio

/-! ## Paths -/

/-- How many names of a path occur in another one, over the greater number of names. -/
def sharedNames (p q : String) : ℚ :=
  (pathSegments p.toList).countP (· ∈ pathSegments q.toList) /
    (max (pathSegments p.toList).length (pathSegments q.toList).length : Nat)

theorem whole_pathSimilarity_pos (p q : List Char) : 0 < (pathSimilarity p q).whole := by
  unfold pathSimilarity
  simp only
  split
  · exact Nat.one_pos
  · exact Nat.pos_of_ne_zero ‹_›

theorem value_pathSimilarity (p q : String) :
    (pathSimilarity p.toList q.toList).value = sharedNames p q := by
  unfold pathSimilarity sharedNames Ratio.value
  simp only
  split
  · rename_i hwhole
    -- A path without names shares none.
    have hnone : pathSegments p.toList = [] := List.length_eq_zero_iff.1 (by omega)
    simp [hnone]
  · have hcontains : (pathSegments q.toList).contains = fun n => decide (n ∈ pathSegments q.toList) :=
      funext fun n => List.contains_eq_mem n _
    rw [List.countP_eq_length_filter, hcontains]

/-! ## Texts -/

/-- How much two texts are alike, letter case aside: one less the share of the longer one that has to be
changed. -/
def likeness (a b : String) : ℚ :=
  1 - editDistance (lower a.toList) (lower b.toList) /
    (max (lower a.toList).length (lower b.toList).length : Nat)

theorem whole_textSimilarity_pos (a b : List Char) : 0 < (textSimilarity a b).whole := by
  unfold textSimilarity
  simp only
  split
  · exact Nat.one_pos
  · exact Nat.pos_of_ne_zero ‹_›

theorem value_textSimilarity (a b : String) :
    (textSimilarity a.toList b.toList).value = likeness a b := by
  unfold textSimilarity textDifference likeness Ratio.value
  simp only
  have hle := leastEdits_le_max (lower a.toList) (lower b.toList)
  rw [← editDistance_eq_leastEdits] at hle
  generalize editDistance (lower a.toList) (lower b.toList) = d at hle ⊢
  generalize max (lower a.toList).length (lower b.toList).length = n at hle ⊢
  by_cases hwhole : n = 0
  · simp [hwhole]
  · have hne : (n : ℚ) ≠ 0 := Nat.cast_ne_zero.2 hwhole
    rw [if_neg hwhole, Nat.cast_sub hle, sub_div, div_self hne]

/-- Two texts, one of which is not empty, are more than half alike if fewer than half of the longer one's
characters have to be changed. -/
theorem exceedsHalf_textSimilarity_iff {a : List Char} (ha : a ≠ []) (b : List Char) :
    (textSimilarity a b).exceedsHalf = true ↔
      2 * editDistance (lower a) (lower b) < max (lower a).length (lower b).length := by
  have hpos : 0 < (lower a).length := List.length_pos_iff.2 (mt lower_eq_nil_iff.1 ha)
  unfold textSimilarity textDifference
  simp only
  rw [if_neg (by omega)]
  unfold Ratio.exceedsHalf
  rw [decide_eq_true_eq]
  simp only
  omega

/-- Letter case does not count. -/
theorem textSimilarity_lower (a b : List Char) : textSimilarity (lower a) b = textSimilarity a b := by
  unfold textSimilarity textDifference
  rw [lower_lower]

end DocLinks
