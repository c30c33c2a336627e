import DocLinks.Value
import DocLinks.Decimal.Read
import DocLinks.Text.Half
import DocLinks.Text.Percent

/-!
# JSON

A reader for JSON texts that keeps the order of members and tells whole numbers from others. It
also takes `NaN`, `Infinity` and `-Infinity`. A fault names what was missing or wrong and the line
it was noticed on; of two faults the first in reading order is reported.

The reader walks along the characters with a `Cursor`. Lists and objects may be nested in each other
to a certain depth; the length of the text bounds the number of steps and serves as fuel.
-/

namespace DocLinks.Json

/-- What is wrong with a JSON text. -/
inductive Problem where
  | byteOrderMark
  | expectingValue
  | expectingName
  | expectingColon
  | expectingComma
  | extraData
  | unterminatedString
  | controlCharacter
  | badEscape
  | badUnicodeEscape
  | tooManyDigits (count : Nat)
  | tooDeep (isList : Bool)
  deriving DecidableEq, Repr

/-- A problem in the words of a message. -/
def Problem.message : Problem → String
  | .byteOrderMark => "Unexpected UTF-8 BOM (decode using utf-8-sig)"
  | .expectingValue => "Expecting value"
  | .expectingName => "Expecting property name enclosed in double quotes"
  | .expectingColon => "Expecting ':' delimiter"
  | .expectingComma => "Expecting ',' delimiter"
  | .extraData => "Extra data"
  | .unterminatedString => "Unterminated string starting at"
  | .controlCharacter => "Invalid control character at"
  | .badEscape => "Invalid \\escape"
  | .badUnicodeEscape => "Invalid \\uXXXX escape"
  | .tooManyDigits n =>
    "Exceeds the limit (4300 digits) for integer string conversion: value has " ++ toString n ++
      " digits; use sys.set_int_max_str_digits() to increase the limit"
  | .tooDeep isList =>
    "maximum recursion depth exceeded while decoding a JSON " ++
      (if isList then "array" else "object") ++ " from a unicode string"

/-- A problem and the line on which it was noticed. -/
structure Fault where
  line : Nat
  problem : Problem
  deriving DecidableEq, Repr

/-- A place in a text: the number of its line and what is left to read. -/
structure Cursor where
  line : Nat
  rest : List Char

/-- The cursor behind the next character. -/
def Cursor.next (c : Cursor) : Cursor :=
  match c.rest with
  | [] => c
  | x :: rest => ⟨if x = '\n' then c.line + 1 else c.line, rest⟩

/-- A fault at the cursor. -/
def Cursor.fault {α : Type} (c : Cursor) (p : Problem) : Except Fault α := .error ⟨c.line, p⟩

/-- Skips spaces, tabs and line ends. -/
def skipBlanks (line : Nat) : List Char → Cursor
  | '\n' :: rest => skipBlanks (line + 1) rest
  | ' ' :: rest | '\t' :: rest | '\r' :: rest => skipBlanks line rest
  | cs => ⟨line, cs⟩

/-- The cursor at the next character that is no blank. -/
def Cursor.skip (c : Cursor) : Cursor := skipBlanks c.line c.rest

/-- The number that four hexadecimal digits spell. -/
def hexFour? : List Char → Option (Nat × List Char)
  | a :: b :: c :: d :: rest =>
    match Text.Percent.hexValue? a, Text.Percent.hexValue? b, Text.Percent.hexValue? c,
      Text.Percent.hexValue? d with
    | some a, some b, some c, some d => some (((a * 16 + b) * 16 + c) * 16 + d, rest)
    | _, _, _, _ => none
  | _ => none

/-- A character from the two halves of a pair of surrogates. -/
def joinSurrogates (high low : Nat) : Char :=
  Char.ofNat (0x10000 + (high - 0xD800) * 0x400 + (low - 0xDC00))

/-- The characters that an escape spells, whose backslash is read already. At least one character has to
follow the four digits of a numeric escape. -/
def escape (cs : List Char) : Except Problem (List Char × List Char) :=
  match cs with
  | '"' :: rest => .ok (['"'], rest)
  | '\\' :: rest => .ok (['\\'], rest)
  | '/' :: rest => .ok (['/'], rest)
  | 'b' :: rest => .ok (['\x08'], rest)
  | 'f' :: rest => .ok (['\x0c'], rest)
  | 'n' :: rest => .ok (['\n'], rest)
  | 'r' :: rest => .ok (['\r'], rest)
  | 't' :: rest => .ok (['\t'], rest)
  | 'u' :: rest =>
    match hexFour? rest with
    | none | some (_, []) => .error .badUnicodeEscape
    | some (n, rest) =>
      if 0xD800 ≤ n ∧ n < 0xDC00 then
        match rest with
        | '\\' :: 'u' :: more =>
          match hexFour? more with
          | some (m, after) =>
            if after.isEmpty then .ok (Text.spell n, rest)
            else if 0xDC00 ≤ m ∧ m < 0xE000 then .ok ([joinSurrogates n m], after)
            else .ok (Text.spell n, rest)
          | none => if more.length ≤ 4 then .ok (Text.spell n, rest) else .error .badUnicodeEscape
        | _ => .ok (Text.spell n, rest)
      else .ok (Text.spell n, rest)
  | _ => .error .badEscape

/-- Reads a string up to its closing quote; `acc` holds what was read, last character first. -/
def stringFrom (line : Nat) (acc : List Char) : Nat → List Char → Except Fault (String × Cursor)
  | 0, _ => .error ⟨line, .unterminatedString⟩
  | _, [] => .error ⟨line, .unterminatedString⟩
  | fuel + 1, c :: rest =>
    if c = '"' then .ok (.ofList acc.reverse, ⟨line, rest⟩)
    else if c = '\\' then
      if rest.isEmpty then .error ⟨line, .unterminatedString⟩
      else
        match escape rest with
        | .error p => .error ⟨line, p⟩
        | .ok (xs, rest) => stringFrom line (xs.reverseAux acc) fuel rest
    else if c.toNat < 32 then .error ⟨line, .controlCharacter⟩
    else stringFrom line (c :: acc) fuel rest

/-- The string whose opening quote was just read. -/
def readString (c : Cursor) : Except Fault (String × Cursor) :=
  stringFrom c.line [] (c.rest.length + 1) c.rest

/-- The whole part of a number: a single zero, or digits that do not start with one. -/
def wholePart : List Char → List Char × List Char
  | '0' :: rest => (['0'], rest)
  | cs => (cs.takeWhile Char.isDigit, cs.dropWhile Char.isDigit)

/-- The fraction of a number, without its point. -/
def fractionPart : List Char → List Char × List Char
  | '.' :: rest =>
    let digits := rest.takeWhile Char.isDigit
    if digits.isEmpty then ([], '.' :: rest) else (digits, rest.dropWhile Char.isDigit)
  | cs => ([], cs)

/-- The exponent of a number, if digits follow its sign. -/
def exponentPart (cs : List Char) : Option Int × List Char :=
  match cs with
  | e :: rest =>
    if e = 'e' ∨ e = 'E' then
      let (negative, digits) := Decimal.dropSign rest
      let written := digits.takeWhile Char.isDigit
      if written.isEmpty then (none, cs)
      else
        (some (signed negative (Decimal.natOf written)), digits.dropWhile Char.isDigit)
    else (none, cs)
  | [] => (none, cs)

/-- Reads a number. -/
def readNumber (c : Cursor) : Except Fault (Value × Cursor) :=
  let (negative, cs) := match c.rest with
    | '-' :: rest => (true, rest)
    | rest => (false, rest)
  let (whole, cs) := wholePart cs
  if whole.isEmpty then c.fault .expectingValue
  else
    let (fraction, cs) := fractionPart cs
    let (exponent, cs) := exponentPart cs
    let after : Cursor := ⟨c.line, cs⟩
    if fraction.isEmpty ∧ exponent.isNone then
      if Decimal.maxDigits < whole.length then c.fault (.tooManyDigits whole.length)
      else .ok (.int (signed negative (Decimal.natOf whole)), after)
    else
      let scale := exponent.getD 0 - fraction.length
      .ok (.real (Decimal.toDouble negative (Decimal.natOf (whole ++ fraction)) scale), after)

/-- The fixed words that stand for values. -/
def words : List (List Char × Value) :=
  [("null".toList, .null), ("true".toList, .bool true), ("false".toList, .bool false),
    ("NaN".toList, .real (.nan false)),
    ("Infinity".toList, .real (.infinity false)), ("-Infinity".toList, .real (.infinity true))]

/-- The value of a fixed word at the head of a text. -/
def word? (cs : List Char) : Option (Value × List Char) :=
  (words.find? fun w => w.1.isPrefixOf cs).map fun w => (w.2, cs.drop w.1.length)

/-- How deep lists and objects may be nested. -/
def maxDepth : Nat := 985

mutual

/-- Reads a value inside `depth` lists and objects. -/
def readValue (depth : Nat) : Nat → Cursor → Except Fault (Value × Cursor)
  | 0, c => c.fault .expectingValue
  | fuel + 1, c =>
    match c.rest with
    | '"' :: _ => (readString c.next).map fun (s, c) => (.text s, c)
    | '{' :: _ =>
      if depth = maxDepth then c.fault (.tooDeep false)
      else
        let c := c.next.skip
        match c.rest with
        | '}' :: _ => .ok (.dict [], c.next)
        | _ =>
          (readMembers (depth + 1) fuel [] c).map fun (d, c) =>
            (.dict (Dict.ofEntries d.reverse), c)
    | '[' :: _ =>
      if depth = maxDepth then c.fault (.tooDeep true)
      else
        let c := c.next.skip
        match c.rest with
        | ']' :: _ => .ok (.list [], c.next)
        | _ => (readItems (depth + 1) fuel [] c).map fun (items, c) => (.list items.reverse, c)
    | _ =>
      match word? c.rest with
      | some (v, rest) => .ok (v, ⟨c.line, rest⟩)
      | none => readNumber c

/-- Reads the members of an object up to its closing brace; `acc` holds those read, last first. -/
def readMembers (depth : Nat) : Nat → Dict → Cursor → Except Fault (Dict × Cursor)
  | 0, _, c => c.fault .expectingName
  | fuel + 1, acc, c =>
    match c.rest with
    | '"' :: _ =>
      match readString c.next with
      | .error f => .error f
      | .ok (name, c) =>
        let c := c.skip
        match c.rest with
        | ':' :: _ =>
          match readValue depth fuel c.next.skip with
          | .error f => .error f
          | .ok (v, c) =>
            let c := c.skip
            match c.rest with
            | '}' :: _ => .ok ((.text name, v) :: acc, c.next)
            | ',' :: _ => readMembers depth fuel ((.text name, v) :: acc) c.next.skip
            | _ => c.fault .expectingComma
        | _ => c.fault .expectingColon
    | _ => c.fault .expectingName

/-- Reads the items of an array up to its closing bracket; `acc` holds those read, last first. -/
def readItems (depth : Nat) : Nat → List Value → Cursor → Except Fault (List Value × Cursor)
  | 0, _, c => c.fault .expectingValue
  | fuel + 1, acc, c =>
    match readValue depth fuel c with
    | .error f => .error f
    | .ok (v, c) =>
      let c := c.skip
      match c.rest with
      | ']' :: _ => .ok (v :: acc, c.next)
      | ',' :: _ => readItems depth fuel (v :: acc) c.next.skip
      | _ => c.fault .expectingComma

end

/-- Reads a JSON text. -/
def parse (s : String) : Except Fault Value :=
  let start : Cursor := ⟨1, s.toList⟩
  match start.rest with
  | '\uFEFF' :: _ => start.fault .byteOrderMark
  | _ =>
    match readValue 0 (2 * start.rest.length + 2) start.skip with
    | .error f => .error f
    | .ok (v, c) =>
      let c := c.skip
      if c.rest.isEmpty then .ok v else c.fault .extraData

end DocLinks.Json
