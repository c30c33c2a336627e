/-!
# Floating-point numbers

Numbers of 64 bits: a sign, eleven bits of an exponent and fifty-two of a fraction. Every finite one
is a whole multiple of the smallest positive one, `2 ^ -1074`, so arithmetic on them is arithmetic
on integers with one rounding at the end.

## Contents
- `Double`, its fields, and `Double.units?`: how many times the smallest positive number it is.
- `halfEven`: a quotient as the nearest whole number.
- `Double.nearest`, `Double.ofInt?`: the nearest double to a quotient and to an integer.
- `Double.add`, `Double.mul`, and comparison with integers.
-/

namespace DocLinks

/-- The whole number nearest to `n / d`; of two equally near ones the even one. -/
def halfEven (n d : Nat) : Nat :=
  let below := n / d
  match compare (2 * (n % d)) d with
  | .lt => below
  | .gt => below + 1
  | .eq => below + below % 2

example : halfEven 5 2 = 2 ∧ halfEven 7 2 = 4 ∧ halfEven 8 3 = 3 := by decide

/-- A natural number as an integer with a sign. -/
def signed (minus : Bool) (n : Nat) : Int := if minus then -n else n

/-- A floating-point number, by its bits. -/
structure Double where
  bits : UInt64
  deriving DecidableEq, Repr, Inhabited

namespace Double

/-! ## Fields -/

/-- The weight of the sign. -/
def signBit : Nat := Nat.pow 2 63

/-- Whether the number carries a minus sign. -/
def isMinus (x : Double) : Bool := signBit ≤ x.bits.toNat

/-- The field of the exponent. -/
def exponent (x : Double) : Nat := x.bits.toNat / Nat.pow 2 52 % Nat.pow 2 11

/-- The field of the fraction. -/
def fraction (x : Double) : Nat := x.bits.toNat % Nat.pow 2 52

/-- The exponent of numbers that are not finite. -/
def endless : Nat := 2047

/-- The number with a sign and the bits below it. -/
def ofFields (minus : Bool) (size : Nat) : Double :=
  ⟨UInt64.ofNat (size + if minus then signBit else 0)⟩

/-- The bits of infinity. -/
def infinityBits : Nat := endless * Nat.pow 2 52

/-- Infinity with a sign. -/
def infinity (minus : Bool) : Double := ofFields minus infinityBits

/-- No number, with a sign. -/
def nan (minus : Bool) : Double := ofFields minus (infinityBits + Nat.pow 2 51)

/-- Zero. -/
def zero : Double := ⟨0⟩

/-- Whether it is no number. -/
def isNaN (x : Double) : Bool := x.exponent == endless && x.fraction != 0

/-- Whether it is infinite, with either sign. -/
def isInfinite (x : Double) : Bool := x.exponent == endless && x.fraction == 0

/-- Whether it is zero, with either sign. -/
def isZero (x : Double) : Bool := x.exponent == 0 && x.fraction == 0

/-- The number with the other sign. -/
def neg (x : Double) : Double := ⟨x.bits ^^^ UInt64.ofNat signBit⟩

/-- The number as the hardware has it. -/
def ofFloat (x : Float) : Double := ⟨x.toBits⟩

/-! ## Finite numbers as integers -/

/-- How many of the smallest positive numbers make one. -/
def perUnit : Nat := Nat.pow 2 1074

/-- The size of a finite number in multiples of the smallest positive one. -/
def units? (x : Double) : Option Nat :=
  if x.exponent = endless then none
  else if x.exponent = 0 then some x.fraction
  else some ((Nat.pow 2 52 + x.fraction) * Nat.pow 2 (x.exponent - 1))

/-- The bits of the number nearest to `n / d` multiples of the smallest positive one; beyond the
greatest one they are those of infinity. A multiple of 53 bits is kept, a longer one loses what is
behind its leading 53 bits. -/
def nearestBits (n d : Nat) : Nat :=
  let dropped := Nat.log2 (n / d) - 52
  min (dropped * Nat.pow 2 52 + halfEven n (d * Nat.pow 2 dropped)) infinityBits

/-- The number nearest to `n / d` multiples of the smallest positive one, with a sign. -/
def nearest (minus : Bool) (n d : Nat) : Double := ofFields minus (nearestBits n d)

/-- The number nearest to `n / d`, with a sign. -/
def ofRatio (minus : Bool) (n d : Nat) : Double := nearest minus (n * perUnit) d

example : (ofRatio false 1 10).bits = 0x3fb999999999999a := by decide +kernel
example : (ofRatio true (10 ^ 400) 1).bits = 0xfff0000000000000 := by decide +kernel
example : (ofRatio false 1 (2 ^ 1075 - 1)).bits = 1 := by decide +kernel

/-- The number nearest to an integer, unless that is beyond every finite one. -/
def ofInt? (n : Int) : Option Double :=
  let x := ofRatio (n < 0) n.natAbs 1
  if x.isInfinite then none else some x

/-- The whole part of a finite number. -/
def whole? (x : Double) : Option Int := x.units?.map fun n => signed x.isMinus (n / perUnit)

/-- The integer that a number is, if it is one. -/
def int? (x : Double) : Option Int :=
  x.units?.bind fun n =>
    if n % perUnit = 0 then some (signed x.isMinus (n / perUnit)) else none

/-- Whether two numbers are equal; zeros are, whatever their signs, and what is no number equals
nothing. -/
def equals (x y : Double) : Bool := !x.isNaN && (x == y || (x.isZero && y.isZero))

/-- Whether a number is less than a natural number. -/
def isBelow (x : Double) (n : Nat) : Bool :=
  if x.isNaN then false
  else
    match x.units? with
    | none => x.isMinus
    | some size => signed x.isMinus size < n * perUnit

/-! ## Arithmetic -/

/-- What an operation without a meaning gives. -/
def undefined : Double := nan true

/-- The sum. An exact zero has a minus sign only if both terms have one. -/
def add (x y : Double) : Double :=
  if x.isNaN then x
  else if y.isNaN then y
  else
    match x.units?, y.units? with
    | some m, some n =>
      let sum := signed x.isMinus m + signed y.isMinus n
      if sum = 0 then ofFields (x.isMinus && y.isMinus) 0
      else nearest (sum < 0) sum.natAbs 1
    | none, some _ => x
    | some _, none => y
    | none, none => if x.isMinus = y.isMinus then x else undefined

/-- The product. -/
def mul (x y : Double) : Double :=
  if x.isNaN then x
  else if y.isNaN then y
  else
    let minus := x.isMinus != y.isMinus
    match x.units?, y.units? with
    | some m, some n => nearest minus (m * n) perUnit
    | _, _ => if x.isZero || y.isZero then undefined else infinity minus

end Double

end DocLinks
