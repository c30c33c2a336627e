import DocLinks.Double

/-!
# Shortest decimals

The fewest decimal digits that read back as a given binary number, and of those the nearest.

## Contents
- `Binary`: a positive number `m * 2 ^ q` with the ends of the interval of numbers that round to it.
- `Digits`: a decimal `d * 10 ^ s`.
- `shortest`: tries grids of 1, 2, … 17 digits; on each grid only the two neighbours of the number
  can lie in the interval.

All comparisons are made on natural numbers, by cross-multiplication.
-/

namespace DocLinks.Decimal

/-- A positive binary number `4 * m * 2 ^ q` in quarter units, so that the ends of its rounding
interval are whole numbers of the same unit. `closed` tells whether the ends round to it too. -/
structure Binary where
  value : Nat
  low : Nat
  high : Nat
  closed : Bool
  exponent : Int

/-- A decimal number `digits * 10 ^ scale`. -/
structure Digits where
  digits : Nat
  scale : Int
  deriving DecidableEq, Repr

/-- The numerator of `n * b ^ e` over `denominator b e`. -/
def numerator (n b : Nat) (e : Int) : Nat := n * Nat.pow b e.toNat

/-- The power that makes `n * b ^ e` whole. -/
def denominator (b : Nat) (e : Int) : Nat := Nat.pow b (-e).toNat

/-- Compares `u * 2 ^ q` with `d * 10 ^ s`. -/
def compareScaled (u : Nat) (q : Int) (d : Nat) (s : Int) : Ordering :=
  compare (numerator u 2 q * denominator 10 s) (numerator d 10 s * denominator 2 q)

/-- The greatest `d` with `d * 10 ^ s` not above `u * 2 ^ q`. -/
def floorOn (u : Nat) (q s : Int) : Nat :=
  numerator u 2 q * denominator 10 s / (denominator 2 q * Nat.pow 10 s.toNat)

/-- Whether the decimal lies in the rounding interval. -/
def Binary.admits (x : Binary) (d : Digits) : Bool :=
  let low := compareScaled x.low x.exponent d.digits d.scale
  let high := compareScaled x.high x.exponent d.digits d.scale
  (low == .lt || (x.closed && low == .eq)) && (high == .gt || (x.closed && high == .eq))

/-- The better of the two grid points next to the number: the one that reads back, the nearer one
if both do, the even one in a tie. -/
def Binary.nearestOn (x : Binary) (s : Int) : Option Digits :=
  let below : Digits := ⟨floorOn x.value x.exponent s, s⟩
  let above : Digits := ⟨below.digits + 1, s⟩
  match x.admits below, x.admits above with
  | false, false => none
  | true, false => some below
  | false, true => some above
  | true, true =>
    match compareScaled (2 * x.value) x.exponent (below.digits + above.digits) s with
    | .lt => some below
    | .gt => some above
    | .eq => some (if below.digits % 2 = 0 then below else above)

/-- The place of the leading decimal digit: the greatest `e` from `least` upwards, within `fuel`
steps, with `10 ^ e` not above the number. -/
def Binary.leading (x : Binary) (least : Int) : Nat → Int
  | 0 => least
  | fuel + 1 =>
    if compareScaled x.value x.exponent 1 (least + 1) == .lt then least
    else x.leading (least + 1) fuel

/-- The first grid with a hit, from `count` digits on. -/
def Binary.shortestFrom (x : Binary) (leading : Int) : Nat → Nat → Digits
  | count, 0 => ⟨floorOn x.value x.exponent (leading - count + 1), leading - count + 1⟩
  | count, fuel + 1 =>
    match x.nearestOn (leading - count + 1) with
    | some d => d
    | none => x.shortestFrom leading (count + 1) fuel

/-- The shortest decimal that reads back as the number. -/
def Binary.shortest (x : Binary) : Digits :=
  x.shortestFrom (x.leading (-330) 660) 1 17

/-- The positive double with the given fraction field and exponent field. -/
def Binary.ofFields (fraction exponent : Nat) : Binary :=
  if exponent = 0 then
    ⟨4 * fraction, 4 * fraction - 2, 4 * fraction + 2, fraction % 2 == 0, -1076⟩
  else
    let m := Nat.pow 2 52 + fraction
    let gap := if fraction = 0 ∧ 1 < exponent then 1 else 2
    ⟨4 * m, 4 * m - gap, 4 * m + 2, m % 2 == 0, (exponent : Int) - 1077⟩

/-- The size of a finite floating-point number; zero has the value zero. -/
def Binary.ofDouble? (x : Double) : Option Binary :=
  if x.exponent = Double.endless then none else some (Binary.ofFields x.fraction x.exponent)

end DocLinks.Decimal
