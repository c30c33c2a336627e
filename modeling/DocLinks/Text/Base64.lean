/-!
# Base64

Bytes written as text, six bits a character. Characters outside the alphabet are passed over, and
what follows the padding does not count.

## Contents
- `decode?`: the bytes of a text, unless it breaks off inside a group of characters.
-/

namespace DocLinks.Text.Base64

/-- The six bits of a character of the alphabet. -/
def bitsOf? (c : Char) : Option Nat :=
  if c.isUpper then some (c.toNat - 65)
  else if c.isLower then some (c.toNat - 71)
  else if c.isDigit then some (c.toNat + 4)
  else if c = '+' then some 62
  else if c = '/' then some 63
  else none

/-- Reads on behind `count` characters of a group of four, of which `left` holds the bits that are
not used yet; `pads` padding characters came since. -/
def decodeFrom (count left pads : Nat) : List Char → Option (List UInt8)
  | [] => if count = 0 then some [] else none
  | c :: cs =>
    if c = '=' then
      if count < 2 then decodeFrom count left pads cs
      else if 4 ≤ count + pads + 1 then some []
      else decodeFrom count left (pads + 1) cs
    else
      match bitsOf? c, count with
      | none, _ => decodeFrom count left pads cs
      | some b, 0 => decodeFrom 1 b 0 cs
      | some b, 1 => (decodeFrom 2 (b % 16) 0 cs).map (UInt8.ofNat (left * 4 + b / 16) :: ·)
      | some b, 2 => (decodeFrom 3 (b % 4) 0 cs).map (UInt8.ofNat (left * 16 + b / 4) :: ·)
      | some b, _ => (decodeFrom 0 0 0 cs).map (UInt8.ofNat (left * 64 + b) :: ·)

/-- The bytes that a text writes. -/
def decode? (cs : List Char) : Option (List UInt8) := decodeFrom 0 0 0 cs

example : decode? "aGVs bG8=".toList = some [104, 101, 108, 108, 111] := by decide +kernel
example : decode? "aGk".toList = none := by decide +kernel

end DocLinks.Text.Base64
