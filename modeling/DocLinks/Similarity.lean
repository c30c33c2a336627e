import DocLinks.Text.Case
import DocLinks.DocPath

/-!
# Similarity of texts and paths

## Contents
- `editDistance`: the least number of insertions, deletions and substitutions of single characters
  that turn one text into another, computed row by row (`rollingDistance`).
- `Ratio`: a score as a fraction, so that scores are compared exactly.
- `textSimilarity`: one less the distance over the longer length, letter case aside.
- `pathSimilarity`: the share of one path's names that also occur in the other.
-/

namespace DocLinks

open Text

/-- The rest of a row of distances. `left` is the entry before it; of the row above, the entry above
`left` comes first. -/
def distanceRow (c : Char) (left : Nat) : List Nat → List Char → List Nat
  | diagonal :: above :: row, d :: ds =>
    let here := min (min (above + 1) (left + 1)) (diagonal + if c = d then 0 else 1)
    here :: distanceRow c here (above :: row) ds
  | _, _ => []

/-- The row of distances after one more character of the first text. -/
def nextDistanceRow (target : List Char) (row : List Nat) (c : Char) : List Nat :=
  match row with
  | [] => []
  | first :: rest => (first + 1) :: distanceRow c (first + 1) (first :: rest) target

/-- The row of distances from the empty text: every prefix of the target is as far as it is long. -/
def firstDistanceRow (target : List Char) : List Nat := List.range (target.length + 1)

/-- The last entry of the last row. No row is needed for an empty target. -/
def rollingDistance (source target : List Char) : Nat :=
  if target.isEmpty then source.length
  else (source.foldl (nextDistanceRow target) (firstDistanceRow target)).getLast?.getD 0

/-- The edit distance of two texts. The shorter one is the target, which makes the rows short. -/
def editDistance (a b : List Char) : Nat :=
  if a.length < b.length then rollingDistance b a else rollingDistance a b

/-- A score between zero and one. -/
structure Ratio where
  part : Nat
  whole : Nat
  deriving DecidableEq, Repr

namespace Ratio

/-- Whether one score is at most another. -/
def le (a b : Ratio) : Bool := a.part * b.whole ≤ b.part * a.whole

/-- Whether a score is more than one half. -/
def exceedsHalf (a : Ratio) : Bool := a.whole < 2 * a.part

/-- The score as a floating-point number. -/
def toFloat (a : Ratio) : Float := Float.ofNat a.part / Float.ofNat a.whole

end Ratio

/-- How far two texts are apart, as a share of the longer one, letter case aside. -/
def textDifference (a b : List Char) : Ratio :=
  ⟨editDistance (lower a) (lower b), max (lower a).length (lower b).length⟩

/-- How similar two texts are, letter case aside. Two empty texts are the same. -/
def textSimilarity (a b : List Char) : Ratio :=
  let d := textDifference a b
  if d.whole = 0 then ⟨1, 1⟩ else ⟨d.whole - d.part, d.whole⟩

/-- `textSimilarity` as a floating-point number: one less the difference. -/
def textSimilarityFloat (a b : List Char) : Float :=
  let d := textDifference a b
  if d.whole = 0 then 1.0 else 1.0 - d.toFloat

/-- The names of a path that are not empty. -/
def pathSegments (p : List Char) : List (List Char) := (DocPath.names p).filter (!·.isEmpty)

/-- The share of the names of the first path that occur in the second one. Two paths without names
have nothing in common. -/
def pathSimilarity (p q : List Char) : Ratio :=
  let ps := pathSegments p
  let qs := pathSegments q
  let whole := max ps.length qs.length
  if whole = 0 then ⟨0, 1⟩ else ⟨(ps.filter qs.contains).length, whole⟩

end DocLinks
