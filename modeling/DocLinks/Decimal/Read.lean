import DocLinks.Decimal.Text

/-!
# Reading numbers

## Contents
- `natOf`, `natIn?`: digits as a number, in the decimal system and in others.
- `doubleOf?`: a decimal with a point and an exponent as the nearest floating-point number.
-/

namespace DocLinks.Decimal

/-- The number that decimal digits write. -/
def natOf (digits : List Char) : Nat := digits.foldl (fun n d => n * 10 + (d.toNat - 48)) 0

/-- The most digits that a decimal number may have to be read. -/
def maxDigits : Nat := 4300

/-- The value of a digit or of a letter that follows the digits. -/
def digitValue (c : Char) : Nat :=
  if c.isDigit then c.toNat - 48
  else if c.isUpper then c.toNat - 55
  else if c.isLower then c.toNat - 87
  else 36

/-- The number that digits of a system write, if they are such digits. -/
def natIn? (base : Nat) (digits : List Char) : Option Nat :=
  if digits.isEmpty || digits.any (base ≤ digitValue ·) then none
  else some (digits.foldl (fun n d => n * base + digitValue d) 0)

/-- A sign, if there is one, and what follows: whether it is negative, and the rest. -/
def dropSign : List Char → Bool × List Char
  | '-' :: cs => (true, cs)
  | '+' :: cs => (false, cs)
  | cs => (false, cs)

/-- An exponent with its sign. Nothing at all is the exponent zero. -/
def exponentOf? : List Char → Option Int
  | [] => some 0
  | e :: cs =>
    let (negative, ds) := dropSign cs
    if (e == 'e' || e == 'E') && !ds.isEmpty && ds.all Char.isDigit then
      some (signed negative (natOf ds))
    else none

/-- The nearest floating-point number to a decimal without a sign: digits, perhaps with a point
among them or at either end, and perhaps with an exponent. -/
def doubleOf? (negative : Bool) (cs : List Char) : Option Double :=
  let whole := cs.takeWhile Char.isDigit
  let rest := cs.dropWhile Char.isDigit
  let (fraction, rest) := match rest with
    | '.' :: rest => (rest.takeWhile Char.isDigit, rest.dropWhile Char.isDigit)
    | rest => ([], rest)
  if whole.isEmpty && fraction.isEmpty then none
  else
    (exponentOf? rest).map fun e =>
      toDouble negative (natOf (whole ++ fraction)) (e - fraction.length)

end DocLinks.Decimal
