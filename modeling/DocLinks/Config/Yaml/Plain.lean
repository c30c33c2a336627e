import DocLinks.Decimal.Read
import DocLinks.Moment

/-!
# What a scalar without quotation marks is

The text of a plain scalar tells its type: a few words mean nothing or a truth value, and what looks
like a number or a moment is one. Numbers may have underscores between their digits, integers may be
written in four systems, and colons separate the places of a number in the sexagesimal system.

## Contents
- `isInt`, `isFloat`, `moment?`: what numbers and moments look like.
- `Tag`: the types that tags name.
- `Tag.ofPlain`: the type of a text. A line feed at its end does not count.
-/

namespace DocLinks.Yaml

open Decimal

/-! ## What numbers look like -/

/-- A digit or an underscore. -/
def isPadded (digit : Char → Bool) (c : Char) : Bool := c == '_' || digit c

/-- Digits with underscores, the first of them a digit of the given kind. -/
def isDigits (first digit : Char → Bool) : List Char → Bool
  | c :: cs => first c && cs.all (isPadded digit)
  | [] => false

/-- A place of a sexagesimal number behind the first: one digit, or two below sixty. -/
def isSixtieth (cs : List Char) : Bool :=
  match cs with
  | [a] => a.isDigit
  | [a, b] => '0' ≤ a && a ≤ '5' && b.isDigit
  | _ => false

/-- Places of a sexagesimal number, more than one. -/
def isSexagesimal (first : Char → Bool) (cs : List Char) : Bool :=
  match cs.splitOn ':' with
  | p :: q :: ps => isDigits first Char.isDigit p && (q :: ps).all isSixtieth
  | _ => false

def isBinaryDigit (c : Char) : Bool := c == '0' || c == '1'

def isOctalDigit (c : Char) : Bool := '0' ≤ c && c ≤ '7'

def isHexDigit (c : Char) : Bool := digitValue c < 16

def isPositiveDigit (c : Char) : Bool := '1' ≤ c && c ≤ '9'

/-- Whether a text looks like an integer: in the binary, octal, decimal, hexadecimal or sexagesimal
system. -/
def isInt (cs : List Char) : Bool :=
  let cs := (dropSign cs).2
  match cs with
  | '0' :: 'b' :: ds => !ds.isEmpty && ds.all (isPadded isBinaryDigit)
  | '0' :: 'x' :: ds => !ds.isEmpty && ds.all (isPadded isHexDigit)
  | ['0'] => true
  | '0' :: ds => ds.all (isPadded isOctalDigit)
  | _ => isDigits isPositiveDigit Char.isDigit cs || isSexagesimal isPositiveDigit cs

/-- An exponent, which has a sign, or nothing. -/
def isSignedExponent : List Char → Bool
  | [] => true
  | e :: s :: ds =>
    (e == 'e' || e == 'E') && (s == '-' || s == '+') && !ds.isEmpty && ds.all Char.isDigit
  | _ => false

/-- What follows the point of a decimal. -/
def isFraction (cs : List Char) : Bool :=
  isSignedExponent (cs.dropWhile (isPadded Char.isDigit))

/-- Whether a text looks like a floating-point number: it has a point, which stands first only
without a sign, or it is infinite or no number. -/
def isFloat (cs : List Char) : Bool :=
  let unsigned := (dropSign cs).2
  let whole := unsigned.takeWhile (· != '.')
  match unsigned.dropWhile (· != '.') with
  | '.' :: fraction =>
    if whole.isEmpty then
      ["inf", "Inf", "INF"].contains (String.ofList fraction) ||
        (unsigned.length == cs.length &&
          (["nan", "NaN", "NAN"].contains (String.ofList fraction) ||
            (fraction.head?.any Char.isDigit && isFraction fraction)))
    else
      (isDigits Char.isDigit Char.isDigit whole && isFraction fraction) ||
        (isSexagesimal Char.isDigit whole && fraction.all (isPadded Char.isDigit))
  | _ => false

/-! ## What moments look like -/

/-- Some digits at the head of a text, as a number: at least `least` and at most `most` of them. -/
def digits? (least most : Nat) (cs : List Char) : Option (Nat × List Char) :=
  let ds := (cs.take most).takeWhile Char.isDigit
  if least ≤ ds.length then some (natOf ds, cs.drop ds.length) else none

/-- The rest of a text behind a character that has to be its first. -/
def behind? (c : Char) (cs : List Char) : Option (List Char) :=
  if cs.head? = some c then some cs.tail else none

/-- A day at the head of a text; its month and its day may have one digit. -/
def day? (cs : List Char) : Option (Day × List Char) := do
  let (year, cs) ← digits? 4 4 cs
  let (month, cs) ← digits? 1 2 (← behind? '-' cs)
  let (day, cs) ← digits? 1 2 (← behind? '-' cs)
  return (⟨year, month, day⟩, cs)

/-- The first six digits behind the point of a second. -/
def microOf (ds : List Char) : Nat :=
  let ds := ds.take 6
  natOf ds * Nat.pow 10 (6 - ds.length)

/-- A time of day at the head of a text; its hour may have one digit. -/
def time? (cs : List Char) : Option (DayTime × List Char) := do
  let (hour, cs) ← digits? 1 2 cs
  let (minute, cs) ← digits? 2 2 (← behind? ':' cs)
  let (second, cs) ← digits? 2 2 (← behind? ':' cs)
  match cs with
  | '.' :: rest =>
    return (⟨hour, minute, second, microOf (rest.takeWhile Char.isDigit)⟩,
      rest.dropWhile Char.isDigit)
  | cs => return (⟨hour, minute, second, 0⟩, cs)

def isBlankChar (c : Char) : Bool := c == ' ' || c == '\t'

/-- How far a clock is ahead, which may be left out, at the end of a text. -/
def ahead? (cs : List Char) : Option (Option Int) :=
  match cs.dropWhile isBlankChar with
  | [] => if cs.isEmpty then some none else none
  | ['Z'] => some (some 0)
  | s :: rest =>
    if s = '-' ∨ s = '+' then do
      let (hour, rest) ← digits? 1 2 rest
      let (minute, rest) ← match rest with
        | ':' :: rest => digits? 2 2 rest
        | rest => some (0, rest)
      if rest.isEmpty then some (some (signed (s = '-') (60 * hour + minute))) else none
    else none

/-- The moment that a text writes. A day without a time has two digits in each part, unless `loose`
says that one will do. -/
def moment? (loose : Bool) (cs : List Char) : Option Moment := do
  let (day, rest) ← day? cs
  match rest with
  | [] => if loose || cs.length == 10 then return .day day else none
  | c :: more =>
    let clock ←
      if c == 'T' || c == 't' then some more
      else if isBlankChar c then some (more.dropWhile isBlankChar)
      else none
    let (time, rest) ← time? clock
    return .both day time (← ahead? rest)

/-! ## Types -/

/-- The types of nodes. `merge` and `usual` are those of two special keys; an `other` type has no
values. -/
inductive Tag where
  | null
  | bool
  | int
  | float
  | bytes
  | moment
  | text
  | items
  | entries
  | members
  | pairs
  | merge
  | usual
  | other
  deriving DecidableEq, Repr, Inhabited

/-- The names of the types behind their common beginning. -/
def Tag.names : List (String × Tag) :=
  [("null", .null), ("bool", .bool), ("int", .int), ("float", .float), ("binary", .bytes),
    ("timestamp", .moment), ("str", .text), ("seq", .items), ("map", .entries), ("set", .members),
    ("omap", .pairs), ("pairs", .pairs), ("merge", .merge), ("value", .usual)]

/-- What the names of the types begin with. -/
def Tag.lead : String := "tag:yaml.org,2002:"

/-- The type with a full name. -/
def Tag.ofName (name : String) : Tag :=
  ((names.find? fun t => name = lead ++ t.1).map Prod.snd).getD .other

/-- The words that mean a truth value. -/
def boolWords : List (String × Bool) :=
  [("yes", true), ("no", false), ("true", true), ("false", false), ("on", true), ("off", false)]

/-- Whether a word means a truth value: in lower case, in upper case, or with a capital. -/
def isBoolWord (s : String) : Bool :=
  boolWords.any fun w => [w.1, w.1.toUpper, w.1.capitalize].contains s

/-- The words that mean nothing. -/
def nullWords : List String := ["~", "null", "Null", "NULL"]

/-- Marks that are no plain text. -/
def markWords : List String := ["!", "&", "*"]

/-- The text without a line feed at its end. -/
def dropLineFeed (cs : List Char) : List Char :=
  if cs.getLast? = some '\n' then cs.dropLast else cs

/-- What the text of a plain scalar is; no text means nothing. -/
def Tag.ofPlain (s : String) : Tag :=
  let cs := dropLineFeed s.toList
  let word := String.ofList cs
  if s = "" then .null
  else if isBoolWord word then .bool
  else if isFloat cs then .float
  else if isInt cs then .int
  else if word = "<<" then .merge
  else if nullWords.contains word then .null
  else if (moment? false cs).isSome then .moment
  else if word = "=" then .usual
  else if markWords.contains word then .other
  else .text

end DocLinks.Yaml
