import DocLinks.Text.CodePoints
import DocLinks.Text.CaseTable

/-!
# Letter case

## Contents
- `lowerChar`: the lower case of one character, out of context.
- `lower`: the lower case of a text. The capital sigma depends on its neighbours: at the end of a
  word (after a cased character and before none, marks in between not counted) it becomes the final
  sigma.
- `upperAscii`: as much of the upper case as decides whether a text spells an ASCII word.
-/

namespace DocLinks.Text

/-- What the first row that covers `n` adds to it; the rows are in increasing order. -/
def shiftIn (n : Nat) : List CaseRow → Option Int
  | [] => none
  | r :: rows =>
    if n < r.first then none
    else if n ≤ r.last then
      if (n - r.first) % r.stride = 0 then some r.shift else shiftIn n rows
    else shiftIn n rows

/-- The lower case of a character out of context. Only the dotted capital I takes two characters:
an i and a combining dot. -/
def lowerChar (c : Char) : List Char :=
  if c = 'İ' then ['i', '\u0307']
  else
    match shiftIn c.toNat lowerRows with
    | none => [c]
    | some d => [Char.ofNat (c.toNat + d).toNat]

/-- A mark that the search for a sigma's neighbours passes over. -/
def isCaseIgnorable (c : Char) : Bool := inRanges c.toNat ignorableBounds

/-- A letter that carries case, so that a sigma beside it stands inside a word. -/
def isCased (c : Char) : Bool := inRanges c.toNat casedBounds

/-- Whether the first character that is not passed over carries case. -/
def leadsCased (cs : List Char) : Bool :=
  match cs.dropWhile isCaseIgnorable with
  | [] => false
  | c :: _ => isCased c

/-- Lower case of the rest of a text; `before` is what was read, the last character first. -/
def lowerAfter (before : List Char) : List Char → List Char
  | [] => []
  | c :: cs =>
    (if c = 'Σ' && leadsCased before && !leadsCased cs then ['ς'] else lowerChar c) ++
      lowerAfter (c :: before) cs

/-- The lower case of a text. -/
def lower (cs : List Char) : List Char := lowerAfter [] cs

@[simp] theorem lower_nil : lower [] = [] := rfl

/-- `lower` on strings. -/
def lowercase (s : String) : String := .ofList (lower s.toList)

@[simp] theorem toList_lowercase (s : String) : (lowercase s).toList = lower s.toList := by
  simp [lowercase]

example : lowercase "ΟΔΟΣ ΣΑΣ Σ İ K" = "οδος σας σ i\u0307 k" := by decide +kernel

/-- The upper case of a character where that is made of ASCII letters; any other character stays
and so differs from every ASCII letter. -/
def upperAsciiChar (c : Char) : List Char :=
  match c with
  | 'ı' => ['I']
  | 'ſ' => ['S']
  | 'ß' => ['S', 'S']
  | 'ﬀ' => ['F', 'F']
  | 'ﬁ' => ['F', 'I']
  | 'ﬂ' => ['F', 'L']
  | 'ﬃ' => ['F', 'F', 'I']
  | 'ﬄ' => ['F', 'F', 'L']
  | 'ﬅ' | 'ﬆ' => ['S', 'T']
  | c => [c.toUpper]

/-- A text whose equality with an upper-case ASCII word is that of the whole upper case. -/
def upperAscii (s : String) : String := .ofList (s.toList.flatMap upperAsciiChar)

end DocLinks.Text
