import DocLinks.Decimal.Read
import DocLinks.Value

/-!
# Keys and scalars of a TOML text

Every reader here takes a text and gives what stands at its head, with the rest of the text.

## Contents
- `skipBlanks`, `skipLines`, `atLineEnd?`: what means nothing.
- `readBasic?`, `readLiteral?`, `readText?`: quoted text in one or in several lines.
- `readKey?`: a key, which may have several parts.
- `readMoment?`, `readNumber?`: moments and numbers.
-/

namespace DocLinks.Toml

open Decimal

/-! ## Blanks -/

/-- A blank inside a line. -/
def isInlineBlank (c : Char) : Bool := c == ' ' || c == '\t'

def skipBlanks (cs : List Char) : List Char := cs.dropWhile isInlineBlank

/-- A control character; a tab is none. -/
def isControl (c : Char) : Bool := (c.toNat < 32 || c.toNat == 127) && c != '\t'

/-- The rest behind a comment, if one stands there; it may not hold control characters. -/
def skipComment? (cs : List Char) : Option (List Char) :=
  match cs with
  | '#' :: rest =>
    if (rest.takeWhile (· != '\n')).any isControl then none else some (rest.dropWhile (· != '\n'))
  | cs => some cs

/-- The rest behind blanks, comments and ends of lines. -/
def skipLines? (cs : List Char) : Nat → Option (List Char)
  | 0 => none
  | fuel + 1 =>
    match cs.dropWhile fun c => isInlineBlank c || c == '\n' with
    | '#' :: rest => (skipComment? ('#' :: rest)).bind (skipLines? · fuel)
    | cs => some cs

/-- The rest behind a word that has to stand there. -/
def behind? (word : List Char) (cs : List Char) : Option (List Char) :=
  if word.isPrefixOf cs then some (cs.drop word.length) else none

/-! ## Text -/

/-- The character that a letter after a backslash stands for. -/
def escaped? : Char → Option Char
  | 'b' => some '\x08'
  | 't' => some '\t'
  | 'n' => some '\n'
  | 'f' => some '\x0c'
  | 'r' => some '\r'
  | '"' => some '"'
  | '\\' => some '\\'
  | _ => none

/-- The character whose number is written by `n` hexadecimal digits. -/
def readCode? (n : Nat) (cs : List Char) : Option (Char × List Char) :=
  let ds := cs.take n
  if ds.length < n then none
  else
    match natIn? 16 ds with
    | some code => if code.isValidChar then some (Char.ofNat code, cs.drop n) else none
    | none => none

/-- The character that an escape stands for; the text begins behind its backslash. -/
def readEscape? (cs : List Char) : Option (Char × List Char) :=
  match cs with
  | 'u' :: rest => readCode? 4 rest
  | 'U' :: rest => readCode? 8 rest
  | c :: rest => (escaped? c).map fun e => (e, rest)
  | [] => none

/-- The rest behind an end of line that a backslash takes back, with the blanks around it. -/
def skipLineEnd? (cs : List Char) : Option (List Char) :=
  match cs with
  | '\n' :: rest => some (rest.dropWhile fun c => isInlineBlank c || c == '\n')
  | c :: rest =>
    if isInlineBlank c then
      match skipBlanks rest with
      | [] => some []
      | '\n' :: rest => some (rest.dropWhile fun c => isInlineBlank c || c == '\n')
      | _ => none
    else none
  | [] => none

/-- Text up to its closing quotation mark, with escapes. In several lines there are three marks at
the end. -/
def readBasicRest? (lines : Bool) (cs : List Char) : Nat → Option (List Char × List Char)
  | 0 => none
  | fuel + 1 =>
    let goOn (read : List Char) (rest : List Char) : Option (List Char × List Char) :=
      (readBasicRest? lines rest fuel).map fun (text, rest) => (read ++ text, rest)
    match cs with
    | [] => none
    | '"' :: rest =>
      if !lines then some ([], rest)
      else
        match rest with
        | '"' :: '"' :: rest => some ([], rest)
        | _ => goOn ['"'] rest
    | '\\' :: rest =>
      match if lines then skipLineEnd? rest else none with
      | some rest => goOn [] rest
      | none => (readEscape? rest).bind fun (c, rest) => goOn [c] rest
    | c :: rest =>
      if isControl c && !(lines && c == '\n') then none else goOn [c] rest

/-- Text with escapes in one line. -/
def readBasic? (cs : List Char) : Option (List Char × List Char) :=
  (behind? ['"'] cs).bind fun rest => readBasicRest? false rest (cs.length + 1)

/-- Text without escapes in one line. -/
def readLiteral? (cs : List Char) : Option (List Char × List Char) := do
  let rest ← behind? ['\''] cs
  let text := rest.takeWhile (· != '\'')
  if text.any isControl then none
  return (text, ← behind? ['\''] (rest.dropWhile (· != '\'')))

/-- Text without escapes up to three quotation marks. -/
def readLiteralLines? : List Char → Option (List Char × List Char)
  | '\'' :: '\'' :: '\'' :: rest => some ([], rest)
  | c :: rest =>
    if isControl c && c != '\n' then none
    else (readLiteralLines? rest).map fun (text, rest) => (c :: text, rest)
  | [] => none

/-- Up to two more marks that belong to a text in several lines although its end has been read. -/
def readLateMarks (mark : Char) (text rest : List Char) : List Char × List Char :=
  let marks := (rest.take 2).takeWhile (· == mark)
  (text ++ marks, rest.drop marks.length)

/-- Text in several lines; an end of line right at its beginning does not count. -/
def readLines? (mark : Char) (cs : List Char) : Option (List Char × List Char) :=
  (behind? [mark, mark, mark] cs).bind fun rest =>
    let rest := match rest with
      | '\n' :: rest => rest
      | rest => rest
    let read := if mark = '"' then readBasicRest? true rest (rest.length + 1)
      else readLiteralLines? rest
    read.map fun (text, rest) => readLateMarks mark text rest

/-- Quoted text of any kind. -/
def readText? (cs : List Char) : Option (List Char × List Char) :=
  if ['"', '"', '"'].isPrefixOf cs then readLines? '"' cs
  else if ['\'', '\'', '\''].isPrefixOf cs then readLines? '\'' cs
  else if cs.head? = some '"' then readBasic? cs
  else readLiteral? cs

/-! ## Keys -/

/-- A character of a key without quotation marks. -/
def isKeyChar (c : Char) : Bool := c.isAlphanum || c == '-' || c == '_'

/-- One part of a key. -/
def readKeyPart? (cs : List Char) : Option (String × List Char) :=
  match cs with
  | '"' :: _ => (readBasic? cs).map fun (text, rest) => (.ofList text, rest)
  | '\'' :: _ => (readLiteral? cs).map fun (text, rest) => (.ofList text, rest)
  | cs =>
    let name := cs.takeWhile isKeyChar
    if name.isEmpty then none else some (.ofList name, cs.dropWhile isKeyChar)

/-- The further parts of a key, each behind a point. -/
def readKeyRest? (cs : List Char) : Nat → Option (List String × List Char)
  | 0 => none
  | fuel + 1 =>
    match skipBlanks cs with
    | '.' :: rest => do
      let (part, rest) ← readKeyPart? (skipBlanks rest)
      let (parts, rest) ← readKeyRest? rest fuel
      return (part :: parts, rest)
    | cs => some ([], cs)

/-- A key and the blanks behind it. -/
def readKey? (cs : List Char) : Option (List String × List Char) := do
  let (part, rest) ← readKeyPart? cs
  let (parts, rest) ← readKeyRest? rest (cs.length + 1)
  return (part :: parts, rest)

/-! ## Moments -/

/-- Two digits as a number between two bounds. -/
def readTwo? (least greatest : Nat) (cs : List Char) : Option (Nat × List Char) :=
  let ds := cs.take 2
  let n := natOf ds
  if ds.length = 2 && ds.all Char.isDigit && least ≤ n && n ≤ greatest then some (n, cs.drop 2)
  else none

/-- A day at the head of a text. -/
def readDay? (cs : List Char) : Option (Day × List Char) := do
  let ds := cs.take 4
  if ds.length < 4 || !ds.all Char.isDigit then none
  let (month, rest) ← readTwo? 1 12 (← behind? ['-'] (cs.drop 4))
  let (day, rest) ← readTwo? 1 31 (← behind? ['-'] rest)
  return (⟨natOf ds, month, day⟩, rest)

/-- A time of day at the head of a text. -/
def readTime? (cs : List Char) : Option (DayTime × List Char) := do
  let (hour, rest) ← readTwo? 0 23 cs
  let (minute, rest) ← readTwo? 0 59 (← behind? [':'] rest)
  let (second, rest) ← readTwo? 0 59 (← behind? [':'] rest)
  match rest with
  | '.' :: more =>
    let ds := more.takeWhile Char.isDigit
    if ds.isEmpty then return (⟨hour, minute, second, 0⟩, rest)
    else
      let six := ds.take 6
      return (⟨hour, minute, second, natOf six * Nat.pow 10 (6 - six.length)⟩, more.drop ds.length)
  | rest => return (⟨hour, minute, second, 0⟩, rest)

/-- How far the clock is ahead, if that is given. -/
def readAhead (cs : List Char) : Option Int × List Char :=
  match cs with
  | 'Z' :: rest | 'z' :: rest => (some 0, rest)
  | s :: rest =>
    let read : Option (Int × List Char) := do
      if s ≠ '+' ∧ s ≠ '-' then none
      let (hour, rest) ← readTwo? 0 23 rest
      let (minute, rest) ← readTwo? 0 59 (← behind? [':'] rest)
      return (signed (s = '-') (60 * hour + minute), rest)
    match read with
    | some (ahead, rest) => (some ahead, rest)
    | none => (none, cs)
  | [] => (none, [])

/-- The time of day that follows a day, if one does. -/
def readClock? (cs : List Char) : Option (DayTime × List Char) :=
  match cs with
  | 'T' :: rest | 't' :: rest | ' ' :: rest => readTime? rest
  | _ => none

/-- A moment at the head of a text, if it looks like one. -/
def readMoment? (cs : List Char) : Option (Moment × List Char) :=
  match readDay? cs with
  | some (day, rest) =>
    match readClock? rest with
    | some (time, rest) =>
      let (ahead, rest) := readAhead rest
      some (.both day time ahead, rest)
    | none => some (.day day, rest)
  | none => (readTime? cs).map fun (time, rest) => (.time time, rest)

/-- The day of a moment exists in the calendar. -/
def isRealDay : Moment → Bool
  | .day d => d.fault?.isNone
  | .both d _ _ => d.fault?.isNone
  | .time _ => true

/-! ## Numbers -/

/-- Digits of a kind with single underscores between them, as many as follow the first one. -/
def takeDigits (digit : Char → Bool) : List Char → List Char
  | [] => []
  | '_' :: d :: rest => if digit d then '_' :: d :: takeDigits digit rest else []
  | d :: rest => if digit d then d :: takeDigits digit rest else []

/-- Digits of a kind, at least one of them, with their length in the text. -/
def readDigits? (digit : Char → Bool) (cs : List Char) : Option (List Char × List Char) :=
  match cs with
  | d :: rest =>
    if digit d then
      let ds := d :: takeDigits digit rest
      some (ds, cs.drop ds.length)
    else none
  | [] => none

/-- The digits without their underscores. -/
def withoutMarks (ds : List Char) : List Char := ds.filter (· != '_')

/-- A digit of the system with the given base. -/
def isDigitOf (base : Nat) (c : Char) : Bool := digitValue c < base

/-- An integer in a system that a letter names. -/
def readRadix? (cs : List Char) : Option (Value × List Char) :=
  let read (base : Nat) (rest : List Char) : Option (Value × List Char) := do
    let (ds, rest) ← readDigits? (isDigitOf base) rest
    return (.int ((← natIn? base (withoutMarks ds)) : Nat), rest)
  match cs with
  | '0' :: 'x' :: rest => read 16 rest
  | '0' :: 'o' :: rest => read 8 rest
  | '0' :: 'b' :: rest => read 2 rest
  | _ => none

/-- The whole part of a decimal: a zero alone, or digits that begin with another one. -/
def readWhole? (cs : List Char) : Option (List Char × List Char) :=
  match cs with
  | '0' :: rest => some (['0'], rest)
  | cs => readDigits? Char.isDigit cs

/-- The fraction of a decimal, if there is one. -/
def readFraction (cs : List Char) : List Char × List Char :=
  match cs with
  | '.' :: rest =>
    match readDigits? Char.isDigit rest with
    | some (ds, rest) => ('.' :: ds, rest)
    | none => ([], cs)
  | cs => ([], cs)

/-- The exponent of a decimal, if there is one. -/
def readExponent (cs : List Char) : List Char × List Char :=
  match cs with
  | e :: rest =>
    if e == 'e' || e == 'E' then
      let signs := (rest.take 1).takeWhile fun c => c == '+' || c == '-'
      match readDigits? Char.isDigit (rest.drop signs.length) with
      | some (ds, rest) => (e :: signs ++ ds, rest)
      | none => ([], cs)
    else ([], cs)
  | [] => ([], [])

/-- A decimal: an integer, or a floating-point number if it has a fraction or an exponent. An
integer may not have too many digits. -/
def readDecimal? (cs : List Char) : Option (Value × List Char) := do
  let (negative, ds) := dropSign cs
  let (whole, rest) ← readWhole? ds
  let (fraction, rest) := readFraction rest
  let (exponent, rest) := readExponent rest
  let whole := withoutMarks whole
  if fraction.isEmpty && exponent.isEmpty then
    if maxDigits < whole.length then none
    else return (.int (signed negative (natOf whole)), rest)
  else
    let x ← doubleOf? negative (whole ++ withoutMarks (fraction ++ exponent))
    return (.real x, rest)

/-- A floating-point number that is infinite or no number. -/
def readSpecial? (cs : List Char) : Option (Value × List Char) := do
  let (negative, cs) := dropSign cs
  let (x, rest) ←
    match behind? "inf".toList cs with
    | some rest => some (Double.infinity negative, rest)
    | none => (behind? "nan".toList cs).map fun rest => (Double.nan negative, rest)
  return (.real x, rest)

/-- A number of any kind. -/
def readNumber? (cs : List Char) : Option (Value × List Char) :=
  readRadix? cs <|> readDecimal? cs <|> readSpecial? cs

end DocLinks.Toml
