import DocLinks.Decimal.Shortest

/-!
# Numbers in messages

## Contents
- `grouped`: an integer with commas between groups of three digits.
- `Layout`, `ofDouble`: the shortest text of a floating-point number that reads back, positional for
  exponents from -4 to 15 and with an exponent of at least two digits otherwise.
- `toDouble`: the nearest floating-point number to a decimal.
-/

namespace DocLinks.Decimal

/-- Groups of three digits, read from the last digit on. -/
def groupReversed : List Char → List Char
  | a :: b :: c :: d :: rest => a :: b :: c :: ',' :: groupReversed (d :: rest)
  | cs => cs

/-- A digit sequence with commas between groups of three. -/
def groupDigits (cs : List Char) : List Char := (groupReversed cs.reverse).reverse

/-- An integer with commas between groups of three digits. -/
def grouped (n : Int) : String :=
  let digits := String.ofList (groupDigits (Nat.toDigits 10 n.natAbs))
  if n < 0 then "-" ++ digits else digits

example : grouped 10485760 = "10,485,760" := by decide +kernel
example : grouped (-999) = "-999" := by decide +kernel

/-- How a floating-point number is laid out: the exponents that are written positionally, and how
the whole part is shown. -/
structure Layout where
  least : Int
  greatest : Int
  whole : List Char → List Char

/-- The layout of numbers in messages. -/
def plain : Layout := ⟨-4, 15, id⟩

/-- The layout with commas in the whole part. -/
def withCommas : Layout := { plain with whole := groupDigits }

/-- The exponent part: a sign and at least two digits. -/
def exponentText (e : Int) : List Char :=
  let digits := Nat.toDigits 10 e.natAbs
  'e' :: (if e < 0 then '-' else '+') :: (if digits.length < 2 then '0' :: digits else digits)

/-- The digits of a decimal without trailing zeros; zero has none left. -/
def trimZeros (cs : List Char) : List Char := (cs.reverse.dropWhile (· == '0')).reverse

/-- A positive decimal as text. The decimal point follows `point` digits. -/
def Digits.layout (d : Digits) (l : Layout) : List Char :=
  let all := Nat.toDigits 10 d.digits
  let e := d.scale + all.length - 1
  let digits := trimZeros all
  if l.least ≤ e ∧ e ≤ l.greatest then
    if e < 0 then
      '0' :: '.' :: List.replicate (-e - 1).toNat '0' ++ digits
    else
      let point := e.toNat + 1
      let whole := digits.take point ++ List.replicate (point - digits.length) '0'
      let fraction := digits.drop point
      l.whole whole ++ '.' :: (if fraction.isEmpty then ['0'] else fraction)
  else
    let fraction := digits.drop 1
    digits.take 1 ++ (if fraction.isEmpty then [] else '.' :: fraction) ++ exponentText e

/-- The shortest text of a floating-point number. -/
def ofDouble (l : Layout) (x : Double) : String :=
  let sign := if x.isMinus then "-" else ""
  match Binary.ofDouble? x with
  | none => if x.isNaN then "nan" else sign ++ "inf"
  | some size =>
    if x.isZero then sign ++ "0.0" else sign ++ String.ofList (size.shortest.layout l)

/-- The nearest floating-point number to `digits * 10 ^ scale`. Decimals beyond every number become
infinite or zero without being computed. -/
def toDouble (minus : Bool) (digits : Nat) (scale : Int) : Double :=
  let size : Int := (Nat.toDigits 10 digits).length + scale
  if digits = 0 ∨ size < -400 then .ofFields minus 0
  else if 400 < size then .infinity minus
  else .ofRatio minus (numerator digits 10 scale) (denominator 10 scale)

end DocLinks.Decimal
