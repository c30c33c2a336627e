import DocLinks.Text.CodePoints
import DocLinks.Text.DomainName.ClassTable
import DocLinks.Text.DomainName.FoldTable
import DocLinks.Text.DomainName.JoinTable

/-!
# Prepared labels

Labels are compared in one form: small letters, plain characters, and marks joined with their
letters. Characters that nobody would see, or that have no fixed meaning, are in no label. A text is
the list of its code points here.

## Contents
- `folded`, `sortMarks`, `joined`: the steps to that form.
- `prepare`: the form of a label, if it has one.
-/

namespace DocLinks.Text.DomainName

/-! ## Plain characters -/

/-- The syllables of Korean, which are made of letters: how many there are, and how many have the
same initial, or the same initial and vowel. -/
def syllableCount : Nat := 11172
def perInitial : Nat := 588
def perVowel : Nat := 28

/-- The first syllable, and the letters that no final comes from. -/
def firstSyllable : Nat := 0xAC00
def firstInitial : Nat := 0x1100
def firstVowel : Nat := 0x1161
def noFinal : Nat := 0x11A7

/-- The letters of a syllable with its number. -/
def syllableLetters (n : Nat) : List Nat :=
  let letters := [firstInitial + n / perInitial, firstVowel + n % perInitial / perVowel]
  if n % perVowel = 0 then letters else letters ++ [noFinal + n % perVowel]

/-- The entry of a table that is written in rows. -/
def plainForm? (rows : List (Nat × String)) (n : Nat) : Option String := do
  let (first, text) ← (rows.takeWhile (·.1 ≤ n)).getLast?
  let entry ← (text.splitOn "¶")[n - first]?
  if entry.isEmpty then none else entry

/-- What a code point stands for. -/
def folded (n : Nat) : List Nat :=
  if inRanges n droppedBounds then []
  else if firstSyllable ≤ n ∧ n < firstSyllable + syllableCount then
    syllableLetters (n - firstSyllable)
  else ((plainForm? foldRows n).map fun s => s.toList.map Char.toNat).getD [n]

/-! ## Marks -/

/-- The rank of a mark. -/
def rank (n : Nat) : Nat :=
  match markRanks.find? fun (_, last, _) => n ≤ last with
  | some (first, _, r) => if first ≤ n then r else 0
  | none => 0

/-- Puts a mark before those of greater rank. -/
def insertMark (n : Nat) : List Nat → List Nat
  | [] => [n]
  | m :: ms => if rank m ≤ rank n then m :: insertMark n ms else n :: m :: ms

/-- Puts the marks behind each letter in the order of their ranks; `marks` are in that order and
stand before the text. -/
def sortMarksFrom (marks : List Nat) : List Nat → List Nat
  | [] => marks
  | n :: ns =>
    if rank n = 0 then marks ++ n :: sortMarksFrom [] ns
    else sortMarksFrom (insertMark n marks) ns

/-- Puts the marks behind each letter in the order of their ranks. -/
def sortMarks (ns : List Nat) : List Nat := sortMarksFrom [] ns

/-- What a letter and a mark make, in a list of marks and results in turns. -/
def resultOf? (mark : Nat) : List Char → Option Nat
  | m :: r :: rest => if m.toNat = mark then some r.toNat else resultOf? mark rest
  | _ => none

/-- The syllable of an initial and a vowel, or of a syllable without a final and that. -/
def joinSyllable? (a b : Nat) : Option Nat :=
  if firstInitial ≤ a ∧ a < firstInitial + syllableCount / perInitial ∧ firstVowel ≤ b ∧
      b < firstVowel + perInitial / perVowel then
    some (firstSyllable + (a - firstInitial) * perInitial + (b - firstVowel) * perVowel)
  else if firstSyllable ≤ a ∧ a < firstSyllable + syllableCount ∧
      (a - firstSyllable) % perVowel = 0 ∧ noFinal < b ∧ b < noFinal + perVowel then
    some (a + (b - noFinal))
  else none

/-- What two code points make together. -/
def join? (a b : Nat) : Option Nat :=
  joinSyllable? a b <|>
    (joins.find? fun e => e.1.toNat = a).bind fun e => resultOf? b e.2.toList

/-- Joins a letter with the marks behind it. Those in `kept`, the last one first, stand between them
and are not joined; `last` is the rank of the last of them. A mark is joined only if no mark before
it has its rank or a greater one. -/
def joinedFrom (letter : Nat) (kept : List Nat) (last : Nat) : List Nat → List Nat
  | [] => letter :: kept.reverse
  | n :: ns =>
    let r := rank n
    let isBlocked := !kept.isEmpty && (r = 0 || r ≤ last)
    match if isBlocked then none else join? letter n with
    | some result => joinedFrom result kept last ns
    | none =>
      if r = 0 then letter :: kept.reverse ++ joinedFrom n [] 0 ns
      else joinedFrom letter (n :: kept) (max r last) ns

/-- A text with its letters and marks joined. -/
def joined : List Nat → List Nat
  | [] => []
  | n :: ns => joinedFrom n [] 0 ns

/-! ## Labels -/

/-- Why a text is no label. -/
inductive LabelFault where
  /-- A character is in no label. -/
  | banned (n : Nat)
  /-- Some characters are written from left to right, and others from right to left. -/
  | mixedDirections
  /-- A label that is written from right to left has another character at an end. -/
  | otherEnd

/-- Whether a text with characters that are written from right to left is a label. -/
def checkDirections (ns : List Nat) : Except LabelFault Unit :=
  let isRight (n : Nat) := inRanges n rightToLeftBounds
  if !ns.any isRight then .ok ()
  else if ns.any fun n => inRanges n leftToRightBounds then .error .mixedDirections
  else if (ns.head?.any isRight && ns.getLast?.any isRight) then .ok ()
  else .error .otherEnd

/-- The form of a label. -/
def prepare (ns : List Nat) : Except LabelFault (List Nat) := do
  let form := joined (sortMarks (ns.flatMap folded))
  match form.find? fun n => inRanges n bannedBounds with
  | some n => throw (.banned n)
  | none => checkDirections form
  return form

end DocLinks.Text.DomainName
