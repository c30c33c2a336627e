import DocLinks.Decimal.Read
import DocLinks.Text.Blank

/-!
# Numerals

Numbers as texts write them more freely than a format would: with blanks around them, with digits of
any script, and integers perhaps with the letter of their system in front.

## Contents
- `Text.digitOf?`: the digits of all scripts. The scripts that have their own are told by their zeros.
- `Numeral.int`: an integer in a system.
- `Numeral.double?`: a floating-point number.
-/

namespace DocLinks.Text

/-- The zeros beyond ASCII, in increasing order. The other nine digits follow each of them in order. -/
def zeroPoints : List Nat := [
  0x660, 0x6F0, 0x7C0, 0x966, 0x9E6, 0xA66, 0xAE6, 0xB66, 0xBE6, 0xC66, 0xCE6, 0xD66, 0xDE6,
  0xE50, 0xED0, 0xF20, 0x1040, 0x1090, 0x17E0, 0x1810, 0x1946, 0x19D0, 0x1A80, 0x1A90, 0x1B50,
  0x1BB0, 0x1C40, 0x1C50, 0xA620, 0xA8D0, 0xA900, 0xA9D0, 0xA9F0, 0xAA50, 0xABF0, 0xFF10,
  0x104A0, 0x10D30, 0x11066, 0x110F0, 0x11136, 0x111D0, 0x112F0, 0x11450, 0x114D0, 0x11650,
  0x116C0, 0x11730, 0x118E0, 0x11950, 0x11C50, 0x11D50, 0x11DA0, 0x16A60, 0x16AC0, 0x16B50,
  0x1D7CE, 0x1D7D8, 0x1D7E2, 0x1D7EC, 0x1D7F6, 0x1E140, 0x1E2F0, 0x1E950, 0x1FBF0]

/-- The value of a decimal digit of any script. -/
def digitOf? (c : Char) : Option Nat :=
  if c.isDigit then some (c.toNat - 48)
  else (zeroPoints.find? fun z => z ≤ c.toNat && c.toNat < z + 10).map (c.toNat - ·)

example : digitOf? '7' = some 7 ∧ digitOf? '٣' = some 3 ∧ digitOf? '５' = some 5 ∧
    digitOf? 'x' = none := by
  decide +kernel

end DocLinks.Text

namespace DocLinks.Decimal.Numeral

open Text

/-- A character as numerals see it: a digit of another script is the digit, a blank beyond ASCII is a
blank, and any other character beyond ASCII is none that a numeral has. -/
def plainChar (c : Char) : Char :=
  if c.toNat < 127 then c
  else if isBlank c then ' '
  else
    match digitOf? c with
    | some d => Nat.digitChar d
    | none => '?'

/-- A blank that may stand around a numeral. -/
def isAround (c : Char) : Bool := c == ' ' || ('\t' ≤ c && c ≤ '\r')

/-- The text of a numeral without the blanks around it. -/
def bodyOf (cs : List Char) : List Char :=
  dropEndWhile isAround ((cs.map plainChar).dropWhile isAround)

/-- Why a text writes no integer. -/
inductive Flaw where
  | malformed
  | tooManyDigits (count : Nat)
  deriving DecidableEq, Repr

/-- The letters of the systems that have one, with their bases. -/
def systemLetters : List (Char × Nat) :=
  [('x', 16), ('X', 16), ('o', 8), ('O', 8), ('b', 2), ('B', 2)]

/-- The digits behind the letter of their system, which may be left out. -/
def behindLetter (base : Nat) : List Char → List Char
  | '0' :: c :: ds => if systemLetters.lookup c = some base then ds else '0' :: c :: ds
  | ds => ds

/-- The integer that a text writes in the system with a base. In a system that is none of bits the
count of digits is limited, whatever follows them. -/
def int (base : Nat) (cs : List Char) : Except Flaw Int :=
  let (minus, ds) := dropSign (bodyOf cs)
  let ds := behindLetter base ds
  let digits := ds.takeWhile (digitValue · < base)
  if maxDigits < digits.length ∧ base ∉ [2, 8, 16] then .error (.tooManyDigits digits.length)
  else if digits.length = ds.length then
    match natIn? base digits with
    | some n => .ok (signed minus n)
    | none => .error .malformed
  else .error .malformed

/-- The words for numbers that are not finite. -/
def endlessWords : List (String × (Bool → Double)) :=
  [("inf", .infinity), ("infinity", .infinity), ("nan", .nan)]

/-- The floating-point number that a text writes. -/
def double? (cs : List Char) : Option Double :=
  let (minus, ds) := dropSign (bodyOf cs)
  match endlessWords.lookup (String.ofList (ds.map Char.toLower)) with
  | some x => some (x minus)
  | none => doubleOf? minus ds

example : (int 10 " ١٢\n".toList).toOption = some 12 := by decide +kernel
example : (int 16 "-0x1F".toList).toOption = some (-31) := by decide +kernel

end DocLinks.Decimal.Numeral
