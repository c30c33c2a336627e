import DocLinks.Config.Yaml.Fault
import DocLinks.Config.Yaml.Plain
import DocLinks.Decimal.Numeral
import DocLinks.Text.Base64
import DocLinks.Text.Case
import DocLinks.Value

/-!
# The values of scalars

A text of a type that a tag names need not look like one that has the type by itself: numbers may
have blanks around them and digits of any script, for instance.

## Contents
- `boolOf`, `intOf`, `floatOf`, `momentOf`, `bytesOf`: the value of a text of a type.
- `scalarOf`: the value of a text of any type that scalars have.
-/

namespace DocLinks.Yaml

open Decimal

/-- The truth value of a text, letter case aside. -/
def boolOf (s : String) : Except ScalarFault Bool :=
  match boolWords.lookup (Text.lowercase s) with
  | some b => .ok b
  | none => .error .noBool

/-! ## Integers -/

/-- An integer in a system. -/
def intIn (base : Nat) (cs : List Char) : Except ScalarFault Int :=
  (Numeral.int base cs).mapError fun
    | .malformed => .badInt base (.ofList cs)
    | .tooManyDigits n => .tooManyDigits n

/-- The number that places of the sexagesimal system make, the first place first. -/
def ofPlaces (places : List Int) : Int := places.foldl (fun n p => 60 * n + p) 0

/-- The integer that a text writes: in the system that its first digits tell, or with colons between
its places. -/
def intOf (s : String) : Except ScalarFault Int := do
  let cs := s.toList.filter (· != '_')
  if cs.isEmpty then throw .noNumber
  let (minus, ds) := dropSign cs
  let n ← match ds with
    | [] => throw .noNumber
    | ['0'] => pure 0
    | '0' :: 'b' :: ds => intIn 2 ds
    | '0' :: 'x' :: ds => intIn 16 ds
    | '0' :: _ => intIn 8 ds
    | _ =>
      if ds.contains ':' then (ofPlaces ·) <$> (ds.splitOn ':').mapM (intIn 10)
      else intIn 10 ds
  return if minus then -n else n

/-! ## Floating-point numbers -/

/-- A floating-point number in the decimal system. -/
def decimalOf (cs : List Char) : Except ScalarFault Double :=
  match Numeral.double? cs with
  | some x => .ok x
  | none => .error (.badFloat (.ofList cs))

/-- The number that places of the sexagesimal system make, the last place first, added to `sum`;
`unit` is what the first of them counts. -/
def addPlaces (sum : Double) (unit : Nat) : List Double → Except ScalarFault Double
  | [] => .ok sum
  | p :: ps =>
    match Double.ofInt? unit with
    | some u => addPlaces (sum.add (p.mul u)) (unit * 60) ps
    | none => .error .tooLarge

/-- The text of a floating-point number in lower case and without underscores. -/
def floatText (s : String) : List Char := Text.lower (s.toList.filter (· != '_'))

/-- The one word for no number. Wherever it stands it is the same value, also as a key. -/
def isNoNumber (s : String) : Bool := (dropSign (floatText s)).2 == ".nan".toList

/-- The floating-point number that a text writes. -/
def floatOf (s : String) : Except ScalarFault Double := do
  let cs := floatText s
  if cs.isEmpty then throw .noNumber
  let (minus, ds) := dropSign cs
  if ds = ".nan".toList then return Double.undefined
  let x ←
    if ds = ".inf".toList then pure (Double.infinity false)
    else if ds.contains ':' then do
      let places ← (ds.splitOn ':').mapM decimalOf
      addPlaces .zero 1 places.reverse
    else decimalOf ds
  return if minus && !x.isNaN then x.neg else x

/-! ## Moments and bytes -/

/-- The moment that a text writes. -/
def momentOf (s : String) : Except ScalarFault Moment :=
  match moment? true (dropLineFeed s.toList) with
  | none => .error .noMoment
  | some m =>
    match m.fault? with
    | some f => .error (.outOfRange f)
    | none => .ok m

/-- The bytes that a text writes. -/
def bytesOf? (s : String) : Option (List UInt8) :=
  if s.toList.all (·.toNat < 128) then Text.Base64.decode? s.toList else none

/-! ## All types -/

/-- The value of a text of a type. Some types are no types of scalars. -/
def scalarOf (tag : Tag) (s : String) : Scan Value :=
  let known {α : Type} (make : α → Value) (x : Except ScalarFault α) : Scan Value :=
    (x.map make).mapError .scalar
  match tag with
  | .null => .ok .null
  | .bool => known .bool (boolOf s)
  | .int => known .int (intOf s)
  | .float => known .real (floatOf s)
  | .moment => known .moment (momentOf s)
  | .bytes => (require (bytesOf? s)).map .bytes
  | .text => .ok (.text s)
  | _ => .error .malformed

end DocLinks.Yaml
