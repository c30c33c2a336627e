import DocLinks.Decimal.Text

/-!
# Rounded decimals

Numbers with a chosen count of digits. A number halfway between two decimals goes to the one whose
last digit is even.

## Contents
- `fixed`: a number with a count of digits after the point.
- `scientific`: a number with one digit before the point and an exponent.
- `general`: the shorter of the two forms for a count of digits, without zeros at its end.
-/

namespace DocLinks.Decimal

/-- The number in units of `10 ^ s`, rounded. -/
def Binary.roundedOn (x : Binary) (s : Int) : Nat :=
  halfEven (numerator x.value 2 x.exponent * denominator 10 s)
    (denominator 2 x.exponent * Nat.pow 10 s.toNat)

/-- Digits with zeros in front up to a count. -/
def padded (count : Nat) (digits : List Char) : List Char :=
  List.replicate (count - digits.length) '0' ++ digits

/-- A whole and a fractional part; the point stands before no digit only if it is asked for. -/
def withPoint (point : Bool) (whole fraction : List Char) : List Char :=
  whole ++ if fraction.isEmpty && !point then [] else '.' :: fraction

/-- The number with `count` digits after the point. -/
def Binary.fixed (x : Binary) (count : Nat) (point : Bool) : List Char :=
  let digits := padded (count + 1) (Nat.toDigits 10 (x.roundedOn (-count)))
  withPoint point (digits.take (digits.length - count)) (digits.drop (digits.length - count))

/-- The leading place of the number once it is rounded to `count` digits after the leading one,
and its digits on that grid. -/
def Binary.digitsFrom (x : Binary) (count : Nat) : Int × Nat :=
  if x.value = 0 then (0, 0)
  else
    let place := x.leading (-330) 660
    let n := x.roundedOn (place - count)
    if n < Nat.pow 10 (count + 1) then (place, n) else (place + 1, n / 10)

/-- The number with one digit before the point, `count` digits after it, and an exponent. -/
def Binary.scientific (x : Binary) (count : Nat) (point : Bool) : List Char :=
  let (place, n) := x.digitsFrom count
  let digits := padded (count + 1) (Nat.toDigits 10 n)
  withPoint point (digits.take 1) (digits.drop 1) ++ exponentText place

/-- A fraction without the zeros at its end. -/
def trimFraction (cs : List Char) : List Char :=
  let whole := cs.takeWhile (· != '.')
  withPoint false whole (trimZeros (cs.drop (whole.length + 1)))

/-- The number with `count` digits in all: positional while the leading place is not below -4 and
within the digits, with an exponent otherwise. Zeros at the end of the fraction are kept only if
the point is asked for. -/
def Binary.general (x : Binary) (count : Nat) (point : Bool) : List Char :=
  let after := count - 1
  let (place, _) := x.digitsFrom after
  let trim (cs : List Char) : List Char := if point then cs else trimFraction cs
  if -4 ≤ place ∧ place ≤ after then trim (x.fixed (after - place).toNat point)
  else
    let cs := x.scientific after point
    trim (cs.takeWhile (· != 'e')) ++ cs.dropWhile (· != 'e')

end DocLinks.Decimal
