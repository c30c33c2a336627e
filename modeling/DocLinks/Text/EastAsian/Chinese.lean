import DocLinks.Text.EastAsian.Big5
import DocLinks.Text.EastAsian.Gb2312
import DocLinks.Text.EastAsian.Gbk
import DocLinks.Text.EastAsian.Hkscs

/-!
# Encodings for Chinese

## Contents
- `gb2312Chars?`, `gbkChars?`, `gb18030Sign`, `hzSign`: simplified characters.
- `big5Chars?`, `cp950Chars?`, `hkscsChars?`: traditional characters.
-/

namespace DocLinks.Text.EastAsian

/-! ## Simplified characters -/

/-- The character of GB 2312 with a row and a column, both counted from 0x21. -/
def gb2312Char? (a b : Nat) : Option Char :=
  if 0x21 ≤ a ∧ 0x21 ≤ b then gb2312.char? (a - 0x21) (b - 0x21) else none

/-- Two bytes of GB 2312. -/
def gb2312Chars? (a b : Nat) : Option (List Char) :=
  if 0x80 ≤ b then (gb2312Char? (a - 0x80) (b - 0x80)).map ([·]) else none

/-- The column of a second byte of GBK, of 190. -/
def gbkColumn? (b : Nat) : Option Nat :=
  if 0x40 ≤ b ∧ b < 0x7F then some (b - 0x40)
  else if 0x80 ≤ b ∧ b < 0xFF then some (b - 0x41)
  else none

/-- The number of columns left of GB 2312. -/
def gbkLeft : Nat := 96

/-- The ideographs that GBK adds to GB 2312 in the order of their code points. -/
def gbkIdeographs : Array Char :=
  let taken := gb2312.cells.foldl
    (fun (marks : Array Bool) c => marks.setIfInBounds c.toNat true) (Array.replicate 0x9FA6 false)
  (List.range' 0x4E00 (0x9FA6 - 0x4E00)).foldl
    (fun cs n => if taken.getD n true then cs else cs.push (Char.ofNat n)) #[]

/-- The ideograph that GBK adds in the place of two bytes: in the rows above GB 2312, and then to
the left of it. -/
def gbkIdeograph? (a b : Nat) : Option Char := do
  let column ← gbkColumn? b
  if 0x81 ≤ a ∧ a ≤ 0xA0 then gbkIdeographs[(a - 0x81) * 190 + column]?
  else if 0xAA ≤ a ∧ a ≤ 0xFE ∧ column < gbkLeft then
    gbkIdeographs[32 * 190 + (a - 0xAA) * gbkLeft + column]?
  else none

/-- Two bytes of GBK. It has two dashes and dots in other forms than GB 2312. -/
def gbkChars? (a b : Nat) : Option (List Char) :=
  match charInRuns? gbkRuns (a * 0x100 + b) with
  | some c => some [c]
  | none => gb2312Chars? a b <|> (gbkIdeograph? a b).map ([·])

/-- The private character that GB 18030 has in the place of two bytes that no other one takes. -/
def gb18030Private? (a b : Nat) : Option Char := do
  let column ← gbkColumn? b
  if 0xA1 ≤ a ∧ a ≤ 0xA7 ∧ column < gbkLeft then
    some (Char.ofNat (0xE4C6 + (a - 0xA1) * gbkLeft + column))
  else if 0xAA ≤ a ∧ a ≤ 0xAF ∧ gbkLeft ≤ column then
    some (Char.ofNat (0xE000 + (a - 0xAA) * 94 + (column - gbkLeft)))
  else if 0xF8 ≤ a ∧ a ≤ 0xFE ∧ gbkLeft ≤ column then
    some (Char.ofNat (0xE234 + (a - 0xF8) * 94 + (column - gbkLeft)))
  else none

/-- Two bytes of GB 18030. -/
def gb18030Chars? (a b : Nat) : Option (List Char) :=
  gbkChars? a b <|> (charInRuns? gb18030Runs (a * 0x100 + b)).map ([·]) <|>
    (gb18030Private? a b).map ([·])

/-- The code point of a four-byte code of GB 18030 below U+10000, by its number. -/
def gb18030Point (n : Nat) : Nat :=
  match gb18030Starts.findRev? fun e => e.1 ≤ n with
  | some (start, point) => point + (n - start)
  | none => n

/-- The number of four-byte codes of GB 18030 for code points below U+10000. -/
def gb18030Count : Nat := 39420

/-- The code point of the four bytes of GB 18030, all in their ranges. -/
def gb18030Four? (a b c d : Nat) : Option Nat :=
  let place := (b - 0x30) * 1260 + (c - 0x81) * 10 + (d - 0x30)
  if a < 0x85 then
    let n := (a - 0x81) * 12600 + place
    if n < gb18030Count then some (gb18030Point n) else none
  else if 0x90 ≤ a then
    let n := 0x10000 + (a - 0x90) * 12600 + place
    if n < 0x110000 then some n else none
  else none

/-- Whether a byte is a digit of ASCII. -/
def isDigitByte (b : UInt8) : Bool := 0x30 ≤ b && b ≤ 0x39

/-- Whether a byte can be the first or the third of four in GB 18030. -/
def isLeadByte (b : UInt8) : Bool := 0x81 ≤ b && b ≤ 0xFE

/-- The sign at the head of bytes of GB 18030: a digit in the second place tells four bytes. -/
def gb18030Sign (state : Unit) (a : UInt8) (rest : List UInt8) : Sign Unit :=
  if a < 0x80 then asciiSign a state
  else
    match rest with
    | b :: c :: d :: _ =>
      if isDigitByte b then
        match gb18030Four? a.toNat b.toNat c.toNat d.toNat with
        | some n =>
          if isLeadByte a && isLeadByte c && isDigitByte d then .text [Char.ofNat n] 4 state
          else .illegal 1
        | none => .illegal 1
      else pairSign gb18030Chars? a rest state
    | b :: _ => if isDigitByte b then .short else pairSign gb18030Chars? a rest state
    | [] => .short

/-- The sign at the head of bytes of HZ, where all are below 0x80: between a tilde with an opening
curly bracket and one with a closing curly bracket two bytes are a character of GB 2312. -/
def hzSign (inside : Bool) (a : UInt8) (rest : List UInt8) : Sign Bool :=
  if a = 0x7E then
    match rest with
    | [] => .short
    | b :: _ =>
      if b = 0x7E ∧ !inside then .text ['~'] 2 inside
      else if b = 0x7B ∧ !inside then .text [] 2 true
      else if b = 0x0A ∧ !inside then .text [] 2 inside
      else if b = 0x7D ∧ inside then .text [] 2 false
      else .illegal 1
  else if 0x80 ≤ a then .illegal 1
  else if inside then pairSign (fun a b => (gb2312Char? a b).map ([·])) a rest inside
  else asciiSign a inside

/-! ## Traditional characters -/

/-- The column of a second byte of Big5, of 157. -/
def big5Column? (b : Nat) : Option Nat :=
  if 0x40 ≤ b ∧ b < 0x7F then some (b - 0x40)
  else if 0xA1 ≤ b ∧ b < 0xFF then some (b - 0xA1 + 63)
  else none

/-- The character in the place of two bytes in a table with the rows of Big5. -/
def big5CharIn? (g : Grid) (a b : Nat) : Option Char := do
  let column ← big5Column? b
  if 0x81 ≤ a then g.char? (a - 0x81) column else none

/-- Two bytes of Big5. -/
def big5Chars? (a b : Nat) : Option (List Char) := (big5CharIn? big5 a b).map ([·])

/-- Two bytes of code page 950. -/
def cp950Chars? (a b : Nat) : Option (List Char) :=
  (charInRuns? cp950Runs (a * 0x100 + b)).map ([·]) <|> big5Chars? a b

/-- Two bytes of Big5 with the characters of Hong Kong, which have a part of the table for
themselves. -/
def hkscsChars? (a b : Nat) : Option (List Char) :=
  let code := a * 0x100 + b
  (hkscsMarked.lookup code).map String.toList <|> (big5CharIn? hkscs a b).map ([·]) <|>
    if 0xC6A1 ≤ code ∧ code < 0xC900 then none else big5Chars? a b

end DocLinks.Text.EastAsian
