import DocLinks.Text.EastAsian.KsX1001

/-!
# Encodings for Korean

A syllable is an initial consonant, a vowel, and perhaps a final consonant. All syllables have code
points in the order of these three.

## Contents
- `syllable`: a syllable from its letters.
- `eucKrSign`, `uhcChars?`, `johabChars?`: the encodings.
-/

namespace DocLinks.Text.EastAsian

/-! ## Syllables -/

/-- The letters of the initial consonants in order. -/
def initials : List Char := "ㄱㄲㄴㄷㄸㄹㅁㅂㅃㅅㅆㅇㅈㅉㅊㅋㅌㅍㅎ".toList

/-- The letters of the final consonants in order. -/
def finals : List Char := "ㄱㄲㄳㄴㄵㄶㄷㄹㄺㄻㄼㄽㄾㄿㅀㅁㅂㅄㅅㅆㅇㅈㅊㅋㅌㅍㅎ".toList

/-- The number of vowels. -/
def vowelCount : Nat := 21

/-- The number of syllables. -/
def syllableCount : Nat := 11172

/-- The first syllable. -/
def firstSyllable : Nat := 0xAC00

/-- The letter of a vowel by its number. -/
def vowelLetter (n : Nat) : Char := Char.ofNat (0x314F + n)

/-- The syllable from the numbers of an initial consonant and a vowel, and of a final consonant
counted from one; zero is none. -/
def syllable (initial vowel final : Nat) : Char :=
  Char.ofNat (firstSyllable + (initial * vowelCount + vowel) * (finals.length + 1) + final)

example : syllable 18 0 4 = '한' := by decide

/-! ## EUC-KR -/

/-- The character of KS X 1001 with a row and a column, both counted from 0x21. -/
def ksX1001Char? (a b : Nat) : Option Char :=
  if 0x21 ≤ a ∧ 0x21 ≤ b then ksX1001.char? (a - 0x21) (b - 0x21) else none

/-- Two bytes of EUC-KR. -/
def eucKrChars? (a b : Nat) : Option (List Char) :=
  if 0x80 ≤ b then (ksX1001Char? (a - 0x80) (b - 0x80)).map ([·]) else none

/-- The byte before every letter. -/
def letterLead : UInt8 := 0xA4

/-- The byte of the letter that fills a place. -/
def fillerByte : UInt8 := 0xD4

/-- The letter of a byte. -/
def letterOf (b : UInt8) : Char := Char.ofNat (0x3131 + (b.toNat - 0xA1))

/-- The syllable spelled by the bytes of three letters. -/
def spelledSyllable? (initial vowel final : UInt8) : Option Char := do
  let i ← if 0xA1 ≤ initial then initials.idxOf? (letterOf initial) else none
  let v ← if 0xBF ≤ vowel ∧ vowel ≤ 0xD3 then some (vowel.toNat - 0xBF) else none
  let f ←
    if final = fillerByte then some 0
    else if 0xA1 ≤ final then (finals.idxOf? (letterOf final)).map (· + 1)
    else none
  return syllable i v f

/-- The sign at the head of bytes of EUC-KR. A filler begins the spelling of a syllable. -/
def eucKrSign (state : Unit) (a : UInt8) (rest : List UInt8) : Sign Unit :=
  if a = letterLead ∧ rest.head? = some fillerByte then
    match rest with
    | _ :: l₁ :: i :: l₂ :: v :: l₃ :: f :: _ =>
      if l₁ = letterLead ∧ l₂ = letterLead ∧ l₃ = letterLead then
        match spelledSyllable? i v f with
        | some c => .text [c] 8 state
        | none => .illegal 1
      else .illegal 1
    | _ => .short
  else pairedSign eucKrChars? state a rest

/-! ## Unified Hangul code -/

/-- The syllables that KS X 1001 lacks, in order. -/
def otherSyllables : Array Char :=
  let taken := ksX1001.cells.foldl (fun (marks : Array Bool) c =>
    if firstSyllable ≤ c.toNat then marks.setIfInBounds (c.toNat - firstSyllable) true else marks)
    (Array.replicate syllableCount false)
  (List.range syllableCount).foldl
    (fun cs n => if taken.getD n true then cs else cs.push (Char.ofNat (firstSyllable + n))) #[]

/-- The column of a second byte beside KS X 1001: letters of ASCII, and bytes from 0x81 on. -/
def uhcColumn? (b : Nat) : Option Nat :=
  if 0x41 ≤ b ∧ b ≤ 0x5A then some (b - 0x41)
  else if 0x61 ≤ b ∧ b ≤ 0x7A then some (b - 0x61 + 26)
  else if 0x81 ≤ b ∧ b ≤ 0xFE then some (b - 0x81 + 52)
  else none

/-- The number of columns left of KS X 1001. -/
def uhcLeft : Nat := 84

/-- A syllable that KS X 1001 lacks: in the rows above it, and then to the left of it. -/
def uhcSyllable? (a b : Nat) : Option Char := do
  let column ← uhcColumn? b
  if 0x81 ≤ a ∧ a ≤ 0xA0 then otherSyllables[(a - 0x81) * 178 + column]?
  else if 0xA1 ≤ a ∧ column < uhcLeft then
    otherSyllables[32 * 178 + (a - 0xA1) * uhcLeft + column]?
  else none

/-- Two bytes of unified Hangul code. -/
def uhcChars? (a b : Nat) : Option (List Char) :=
  eucKrChars? a b <|> (uhcSyllable? a b).map ([·])

/-! ## Johab -/

/-- The initial consonant of a code of five bits, or none of it for the filler. -/
def johabInitial? (n : Nat) : Option (Option Nat) :=
  if n = 1 then some none else if 2 ≤ n ∧ n ≤ 20 then some (some (n - 2)) else none

/-- The vowel of a code of five bits, or none of it for the filler. The codes leave two out of
eight. -/
def johabVowel? (n : Nat) : Option (Option Nat) :=
  if n = 2 then some none
  else if 2 ≤ n % 8 ∧ n < 30 then some (some (n / 8 * 6 + n % 8 - 3))
  else none

/-- The final consonant of a code of five bits, counted from one, or none of it for the filler. -/
def johabFinal? (n : Nat) : Option (Option Nat) :=
  if n = 1 then some none
  else if 2 ≤ n ∧ n ≤ 17 then some (some (n - 1))
  else if 19 ≤ n ∧ n ≤ 29 then some (some (n - 2))
  else none

/-- A syllable by three codes, or a letter beside two fillers. -/
def johabSyllable? (initial vowel final : Nat) : Option Char :=
  match johabInitial? initial, johabVowel? vowel, johabFinal? final with
  | some (some i), some (some v), some f => some (syllable i v (f.getD 0))
  | some (some i), some none, some none => initials[i]?
  | some none, some (some v), some none => some (vowelLetter v)
  | some none, some none, some (some f) => finals[f - 1]?
  | some none, some none, some none => some '\u3000'
  | _, _, _ => none

/-- A character of KS X 1001 that is neither a syllable nor a letter, in the place that it has behind
the syllables: two of its rows share a first byte. -/
def johabSign? (a b : Nat) : Option Char :=
  let isLetter := a = 0xDA ∧ 0xA1 ≤ b ∧ b ≤ 0xD3
  if a < 0xD9 ∨ a = 0xDF ∨ 0xF9 < a ∨ b < 0x31 ∨ (0x7F ≤ b ∧ b < 0x91) ∨ b = 0xFF ∨ isLetter then
    none
  else
    let row := if a < 0xE0 then 2 * (a - 0xD9) else 2 * a - 0x197
    let column := if b < 0x91 then b - 0x31 else b - 0x43
    ksX1001Char? (0x21 + row + column / 94) (0x21 + column % 94)

/-- Two bytes of Johab. -/
def johabChars? (a b : Nat) : Option (List Char) :=
  if a < 0xD8 then
    (johabSyllable? (a / 4 % 32) (a % 4 * 8 + b / 32) (b % 32)).map ([·])
  else (johabSign? a b).map ([·])

end DocLinks.Text.EastAsian
