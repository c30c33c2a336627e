import DocLinks.Text.EastAsian.Cp932
import DocLinks.Text.EastAsian.JisX0208
import DocLinks.Text.EastAsian.JisX0212
import DocLinks.Text.EastAsian.JisX0213

/-!
# Encodings for Japanese

## Contents
- `jisX0208Char?`, `jisX0212Char?`, `firstPlaneChars?`, `secondPlaneChar?`: the character sets.
- `eucJpSign`, `eucJisSign`: the encodings by pairs of bytes from 0xA1 on.
- `shiftJisSign`, `cp932Sign`, `shiftJis2004Sign`: the encodings that make room for single bytes.
-/

namespace DocLinks.Text.EastAsian

/-! ## Character sets -/

/-- The character of a table with a row and a column, both counted from 0x21. -/
def charIn? (g : Grid) (a b : Nat) : Option Char :=
  if 0x21 ≤ a ∧ 0x21 ≤ b then g.char? (a - 0x21) (b - 0x21) else none

/-- A character of JIS X 0208. -/
def jisX0208Char? (a b : Nat) : Option Char := charIn? jisX0208 a b

/-- A character of JIS X 0212. -/
def jisX0212Char? (a b : Nat) : Option Char := charIn? jisX0212 a b

/-- The editions of JIS X 0213. -/
inductive Edition where
  | first
  | second
  deriving DecidableEq, Repr

/-- The characters that only the second edition has. -/
def laterChars : List Char := "俱剝𠮟吞噓姸屛幷瘦繫".toList

/-- The characters of a code of the first plane of JIS X 0213: one, or two if it holds a mark. -/
def firstPlaneChars? (e : Edition) (a b : Nat) : Option (List Char) :=
  match jisX0208Char? a b <|> charIn? firstPlane a b with
  | some c => if e = .first ∧ laterChars.contains c then none else some [c]
  | none =>
    if 0x21 ≤ a ∧ 0x21 ≤ b ∧ b < 0x7F then
      (markedCells.lookup ((a - 0x21) * 94 + (b - 0x21))).map String.toList
    else none

/-- A character of the second plane of JIS X 0213. One ideograph has another form in the second
edition. -/
def secondPlaneChar? (e : Edition) (a b : Nat) : Option Char :=
  (charIn? secondPlane a b).map fun c => if c = '鬜' ∧ e = .first then '鬝' else c

/-- The half-width character of a byte, if it has one. -/
def halfWidth? (b : UInt8) : Option Char :=
  if 0xA1 ≤ b ∧ b ≤ 0xDF then some (Char.ofNat (0xFEC0 + b.toNat)) else none

/-! ## Pairs of bytes from 0xA1 on -/

/-- Three bytes, of which the first one is 0x8F. -/
def tripleSign (charOf : Nat → Nat → Option Char) (rest : List UInt8) (state : Unit) : Sign Unit :=
  match rest with
  | a :: b :: _ =>
    if 0x80 ≤ a ∧ 0x80 ≤ b then
      match charOf (a.toNat - 0x80) (b.toNat - 0x80) with
      | some c => .text [c] 3 state
      | none => .illegal 1
    else .illegal 1
  | _ => .short

/-- The sign of two bytes in an edition. A character that only a later one has is a flaw of both. -/
def editionSign (charsOf : Edition → Nat → Nat → Option (List Char)) (e : Edition) (a : UInt8)
    (rest : List UInt8) (state : Unit) : Sign Unit :=
  match pairSign (charsOf e) a rest state, pairSign (charsOf .second) a rest state with
  | .illegal _, .text _ width _ => .illegal width
  | sign, _ => sign

/-- The characters of two bytes from 0x80 on, by a character set. -/
def upperHalf? (charsOf : Nat → Nat → Option (List Char)) (a b : Nat) : Option (List Char) :=
  if 0x80 ≤ b then charsOf (a - 0x80) (b - 0x80) else none

/-- The sign at the head of bytes where single bytes tell a half-width character or three bytes, and
others come in pairs. -/
def eucSign (pairOf : UInt8 → List UInt8 → Unit → Sign Unit) (charOf : Nat → Nat → Option Char)
    (state : Unit) (a : UInt8) (rest : List UInt8) : Sign Unit :=
  if a < 0x80 then asciiSign a state
  else if a = 0x8E then
    match rest with
    | [] => .short
    | b :: _ =>
      match halfWidth? b with
      | some c => .text [c] 2 state
      | none => .illegal 1
  else if a = 0x8F then tripleSign charOf rest state
  else pairOf a rest state

/-- The sign at the head of bytes of EUC-JP. -/
def eucJpSign : Unit → UInt8 → List UInt8 → Sign Unit :=
  eucSign (pairSign (upperHalf? fun a b => (jisX0208Char? a b).map ([·]))) jisX0212Char?

/-- The characters of the first plane, where two signs are full-width. -/
def fullWidthChars? (e : Edition) (a b : Nat) : Option (List Char) :=
  if a = 0x22 ∧ b = 0x32 then some ['～'] else firstPlaneChars? e a b

/-- The sign at the head of bytes of EUC with JIS X 0213. -/
def eucJisSign (e : Edition) : Unit → UInt8 → List UInt8 → Sign Unit :=
  eucSign (editionSign (fun e => upperHalf? (fullWidthChars? e)) e)
    fun a b => secondPlaneChar? e a b <|> jisX0212Char? a b

/-! ## Room for single bytes -/

/-- The row and the column, both counted from zero, of two bytes that leave room for single
bytes. -/
def shiftedCell? (a b : Nat) : Option (Nat × Nat) := do
  let row ←
    if 0x81 ≤ a ∧ a ≤ 0x9F then some (2 * (a - 0x81))
    else if 0xE0 ≤ a ∧ a ≤ 0xFC then some (2 * (a - 0xC1))
    else none
  let column ←
    if 0x40 ≤ b ∧ b < 0x7F then some (b - 0x40)
    else if 0x80 ≤ b ∧ b ≤ 0xFC then some (b - 0x41)
    else none
  return (row + column / 94, column % 94)

/-- Two bytes of Shift_JIS. -/
def shiftJisChars? (a b : Nat) : Option (List Char) := do
  let (row, column) ← shiftedCell? a b
  return [← jisX0208.char? row column]

/-- The sign at the head of bytes of Shift_JIS. -/
def shiftJisSign (state : Unit) (a : UInt8) (rest : List UInt8) : Sign Unit :=
  if a < 0x80 then asciiSign a state
  else
    match halfWidth? a with
    | some c => .text [c] 1 state
    | none =>
      if (0x81 ≤ a ∧ a ≤ 0x9F) ∨ (0xE0 ≤ a ∧ a ≤ 0xEA) then pairSign shiftJisChars? a rest state
      else .illegal 1

/-- The private character of two bytes of code page 932. -/
def cp932Private? (a b : Nat) : Option Char := do
  let (row, column) ← shiftedCell? a b
  if 0xF0 ≤ a ∧ a ≤ 0xF9 then some (Char.ofNat (0xE000 + (row - 94) * 94 + column)) else none

/-- Two bytes of code page 932. -/
def cp932Chars? (a b : Nat) : Option (List Char) :=
  (charInRuns? cp932Runs (a * 0x100 + b)).map ([·]) <|> shiftJisChars? a b <|>
    (cp932Private? a b).map ([·])

/-- The sign at the head of bytes of code page 932, where every single byte has a character. -/
def cp932Sign (state : Unit) (a : UInt8) (rest : List UInt8) : Sign Unit :=
  if a ≤ 0x80 then asciiSign a state
  else if a = 0xA0 then .text ['\uf8f0'] 1 state
  else if 0xFD ≤ a then .text [Char.ofNat (0xF8F1 + (a.toNat - 0xFD))] 1 state
  else
    match halfWidth? a with
    | some c => .text [c] 1 state
    | none => pairSign cp932Chars? a rest state

/-- The row of the second plane, counted from 0x21, that stands behind the first one: the planes
leave no gaps. -/
def secondPlaneRow (row : Nat) : Nat :=
  if 0x67 ≤ row then row + 0x07
  else if 0x63 ≤ row ∨ row = 0x5F then row - 0x37
  else row - 0x3D

/-- Two bytes of Shift_JIS with JIS X 0213. -/
def shiftJis2004Chars? (e : Edition) (a b : Nat) : Option (List Char) := do
  let (row, column) ← shiftedCell? a b
  if a = 0x81 ∧ b = 0x5F then return ['\\']
  else if row < 94 then firstPlaneChars? e (row + 0x21) (column + 0x21)
  else (secondPlaneChar? e (secondPlaneRow row) (column + 0x21)).map ([·])

/-- The Roman character of a byte below 0x80: with a yen sign and an overline. -/
def romanChar (b : UInt8) : Char :=
  if b = 0x5C then '¥' else if b = 0x7E then '‾' else Char.ofNat b.toNat

/-- The sign at the head of bytes of Shift_JIS with JIS X 0213. -/
def shiftJis2004Sign (e : Edition) (state : Unit) (a : UInt8) (rest : List UInt8) : Sign Unit :=
  if a < 0x80 then .text [romanChar a] 1 state
  else
    match halfWidth? a with
    | some c => .text [c] 1 state
    | none =>
      if a = 0x80 ∨ a = 0xA0 ∨ 0xFD ≤ a then .illegal 1
      else editionSign shiftJis2004Chars? e a rest state

end DocLinks.Text.EastAsian
