import DocLinks.Text.CodePage
import DocLinks.Text.EastAsian.Chinese
import DocLinks.Text.EastAsian.Japanese
import DocLinks.Text.EastAsian.Korean

/-!
# Encodings with escape sequences

All bytes are below 0x80. An escape sequence tells which character set the following bytes are in.
A text has three places for character sets: the one in use, the one that a shift switches to, and
the one for single characters.

## Contents
- `Charset`: the character sets, with their marks and their characters.
- `Variant`: which of them an encoding has.
- `iso2022Sign`: what stands at the head of bytes.
-/

namespace DocLinks.Text.EastAsian

/-! ## Character sets -/

/-- A character set that an escape sequence can name. -/
inductive Charset where
  | ascii
  | roman
  | kana
  | latin1
  | greek
  | jisX0208
  | jisX0208Old
  | jisX0212
  | gb2312
  | ksX1001
  | firstPlane (e : Edition)
  | secondPlane
  deriving DecidableEq, Repr

namespace Charset

/-- The number of bytes of a character. -/
def width : Charset → Nat
  | ascii | roman | kana | latin1 | greek => 1
  | _ => 2

/-- The character set with a mark, of single bytes or of pairs. -/
def ofMark? (pairs : Bool) (mark : Char) : Option Charset :=
  match pairs, mark with
  | false, 'A' => some latin1
  | false, 'B' => some ascii
  | false, 'F' => some greek
  | false, 'I' => some kana
  | false, 'J' => some roman
  | true, '@' => some jisX0208Old
  | true, 'A' => some gb2312
  | true, 'B' => some jisX0208
  | true, 'C' => some ksX1001
  | true, 'D' => some jisX0212
  | true, 'O' => some (firstPlane .first)
  | true, 'P' => some secondPlane
  | true, 'Q' => some (firstPlane .second)
  | _, _ => none

/-- The characters of a code; `b` counts only in sets of pairs. The sets of single bytes for
characters beyond ASCII are only for single characters. -/
def chars? (c : Charset) (a b : UInt8) : Option (List Char) :=
  match c with
  | ascii => some [Char.ofNat a.toNat]
  | roman => some [romanChar a]
  | kana => (halfWidth? (a + 0x80)).map ([·])
  | latin1 | greek => none
  | jisX0208 | jisX0208Old => (jisX0208Char? a.toNat b.toNat).map ([·])
  | jisX0212 => (jisX0212Char? a.toNat b.toNat).map ([·])
  | gb2312 => (gb2312Char? a.toNat b.toNat).map ([·])
  | ksX1001 => (ksX1001Char? a.toNat b.toNat).map ([·])
  | firstPlane e => firstPlaneChars? e a.toNat b.toNat
  | secondPlane => (secondPlaneChar? .second a.toNat b.toNat).map ([·])

end Charset

/-- Which character sets an encoding has beside ASCII, whether it has a shift and single characters,
and whether a character set can be named with a revision before it. -/
structure Variant where
  sets : List Charset
  hasShift : Bool := false
  hasSingle : Bool := false
  hasRevision : Bool := true

/-! ## Escape sequences -/

/-- The character sets in their places, whether the shift is on, and whether the text is inside an
escape sequence of another kind. -/
structure EscapeState where
  usual : Charset := .ascii
  shifted : Charset := .ascii
  single : Charset := .ascii
  isShifted : Bool := false
  isForeign : Bool := false

def escapeByte : UInt8 := 0x1B

/-- Whether a byte ends an escape sequence. -/
def endsEscape (b : UInt8) : Bool := (0x41 ≤ b && b ≤ 0x5A) || b == 0x40

/-- The greatest length of an escape sequence. -/
def maxEscape : Nat := 16

/-- The length of an escape sequence whose bytes from the one with number `i` on are given. It is
zero for one that does not end in time; nothing comes back for one that is cut short. -/
def escapeLength? (revision : Bool) (i : Nat) : Nat → List UInt8 → Option Nat
  | 0, _ => some 0
  | fuel + 1, bytes =>
    if maxEscape ≤ i then some 0
    else
      match bytes with
      | [] => none
      | b :: rest =>
        if endsEscape b then some (i + 1)
        else if revision ∧ b = 0x26 ∧ rest.head? = some 0x40 then
          escapeLength? revision (i + 3) fuel (rest.drop 2)
        else escapeLength? revision (i + 1) fuel rest

/-- Where a byte puts a character set. -/
def place? (v : Variant) (b : UInt8) : Option (Charset → EscapeState → EscapeState) :=
  if b = 0x28 then some fun c s => { s with usual := c }
  else if b = 0x29 then some fun c s => { s with shifted := c }
  else if b = 0x2E ∧ v.hasSingle then some fun c s => { s with single := c }
  else none

/-- What the bytes of an escape sequence behind its first one do to the state. -/
def escape? (v : Variant) (bytes : List UInt8) (s : EscapeState) : Option EscapeState := do
  let named (pairs : Bool) (mark : UInt8) : Option Charset := do
    let c ← Charset.ofMark? pairs (Char.ofNat mark.toNat)
    if c = .ascii ∨ v.sets.contains c then some c else none
  match bytes with
  | [a, b] =>
    if a = 0x24 then return { s with usual := ← named true b }
    else
      let put ← place? v a
      return put (← named false b) s
  | [a, b, c] =>
    if a = 0x24 ∧ b ≠ 0x2E then
      let put ← place? v b
      return put (← named true c) s
    else none
  | [_, _, e, d, b] =>
    if v.hasRevision ∧ e = escapeByte ∧ d = 0x24 ∧ b = 0x42 then
      return { s with usual := ← named true b }
    else none
  | _ => none

/-- Whether a byte behind the escape names a character set. -/
def namesSet (b : UInt8) : Bool := [0x28, 0x29, 0x24, 0x2E, 0x26].contains b

/-- The single character of a byte. -/
def singleChar? (c : Charset) (b : UInt8) : Option Char :=
  match c with
  | .ascii => if b < 0x80 then some (Char.ofNat b.toNat) else none
  | .latin1 => if b < 0x80 then some (Char.ofNat (b.toNat + 0x80)) else none
  | .greek => (CodePage.ofName? "iso8859_7").bind fun p => p.char? (b ^^^ 0x80)
  | _ => none

/-- The sign at an escape, with the bytes behind it. -/
def escapeSign (v : Variant) (s : EscapeState) (rest : List UInt8) : Sign EscapeState :=
  match rest with
  | [] => .short
  | b :: more =>
    if namesSet b then
      match escapeLength? v.hasRevision 1 maxEscape rest with
      | none => .short
      | some n =>
        match escape? v (rest.take (n - 1)) s with
        | some s => .text [] n s
        | none => .illegal (max n 1)
    else if v.hasSingle ∧ b = 0x4E then
      match more with
      | [] => .short
      | x :: _ =>
        match singleChar? s.single x with
        | some c => .text [c] 3 s
        | none => .illegal 3
    else .text ['\x1b'] 1 { s with isForeign := true }

/-- The sign of a character in the character set in use. -/
def setSign (v : Variant) (s : EscapeState) (a : UInt8) (rest : List UInt8) : Sign EscapeState :=
  let set := if s.isShifted then s.shifted else s.usual
  if set.width ≤ rest.length + 1 then
    match set.chars? a (rest.headD 0) with
    | some cs => .text cs set.width s
    | none => .illegal set.width
  else .short

/-- The sign at the head of bytes. The end of a line turns the shift off. -/
def iso2022Sign (v : Variant) (s : EscapeState) (a : UInt8) (rest : List UInt8) :
    Sign EscapeState :=
  if s.isForeign then
    .text [Char.ofNat a.toNat] 1 { s with isForeign := !endsEscape a }
  else if a = escapeByte then escapeSign v s rest
  else if a = 0x0F ∧ v.hasShift then .text [] 1 { s with isShifted := false }
  else if a = 0x0E ∧ v.hasShift then .text [] 1 { s with isShifted := true }
  else if a = 0x0A then .text ['\n'] 1 { s with isShifted := false }
  else if a < 0x20 then asciiSign a s
  else if 0x80 ≤ a then .illegal 1
  else setSign v s a rest

/-! ## The encodings -/

/-- The character sets of all Japanese variants but the newest ones. -/
def japaneseSets : List Charset := [.jisX0208, .roman, .jisX0208Old]

def iso2022Kr : Variant := { sets := [.ksX1001], hasShift := true, hasRevision := false }

def iso2022Jp : Variant := { sets := japaneseSets }

def iso2022Jp1 : Variant := { sets := .jisX0212 :: japaneseSets }

def iso2022Jp2 : Variant where
  sets := [.jisX0212, .ksX1001, .gb2312, .latin1, .greek] ++ japaneseSets
  hasSingle := true

def iso2022JpExt : Variant := { sets := .jisX0212 :: .kana :: japaneseSets }

def iso2022Jp3 : Variant := { sets := [.jisX0208, .firstPlane .first, .secondPlane] }

def iso2022Jp2004 : Variant := { sets := [.jisX0208, .firstPlane .second, .secondPlane] }

end DocLinks.Text.EastAsian
