import DocLinks.Config.Yaml.Fault

/-!
# A place in a YAML text

A cursor is the rest of a text with its line and its column, both counted from zero. Layout decides
what a YAML text means, so everything that reads one moves a cursor.

## Contents
- `isBreak`, `endsWord`: the characters that end a line and a word.
- `Cursor`, `Cursor.next`, `Cursor.skip`, `Cursor.takeWhile`: moving on.
- `Cursor.lineBreak?`, `atMarker`: the ends of lines and of documents.
-/

namespace DocLinks.Yaml

/-- A character that ends a line. -/
def isBreak (c : Char) : Bool := c == '\n' || c == '\x85' || c == '\u2028' || c == '\u2029'

/-- A blank inside a line. -/
def isInlineBlank (c : Char) : Bool := c == ' ' || c == '\t'

/-- Whether a word ends before a character, or before the end of the text. -/
def endsWord : Option Char → Bool
  | none => true
  | some c => isInlineBlank c || isBreak c

/-- Whether a line is over before a character, or before the end of the text. -/
def endsLine : Option Char → Bool
  | none => true
  | some c => isBreak c

/-- The mark that may open a text; it takes no column. -/
def byteOrderMark : Char := '\uFEFF'

/-- The rest of a text with its place in the whole, which has `size` characters. The text may be
only a part of what was meant to be read; then `beyond` tells why there is no more. -/
structure Cursor where
  rest : List Char
  beyond : Option Fault
  size : Nat
  offset : Nat
  line : Nat
  column : Nat
  deriving DecidableEq, Repr, Inhabited

namespace Cursor

/-- The first place of a text. -/
def ofText (cs : List Char) (beyond : Option Fault) : Cursor := ⟨cs, beyond, cs.length, 0, 0, 0⟩

/-- What it amounts to that something is not complete at the end of the text. -/
def cutShort (p : Cursor) : Fault := p.beyond.getD .malformed

/-- Why no more can be read, if this is the last place but one or the last. -/
def exhausted? (p : Cursor) : Option Fault := if p.size ≤ p.offset + 1 then p.beyond else none

/-- More steps than the rest has characters. -/
def steps (p : Cursor) : Nat := p.size - p.offset + 1

/-- One character on; the end of the text is not passed. -/
def next (p : Cursor) : Cursor :=
  match p.rest with
  | [] => p
  | c :: cs =>
    let q := { p with rest := cs, offset := p.offset + 1 }
    if isBreak c then { q with line := p.line + 1, column := 0 }
    else if c = byteOrderMark then q
    else { q with column := p.column + 1 }

/-- Some characters on. -/
def skip (p : Cursor) : Nat → Cursor
  | 0 => p
  | n + 1 => p.next.skip n

/-- The character at the place. -/
def head? (p : Cursor) : Option Char := p.rest.head?

/-- The characters that follow as long as they are wanted, and the place behind them. -/
def takeWhile (p : Cursor) (wanted : Char → Bool) : List Char × Cursor :=
  let cs := p.rest.takeWhile wanted
  (cs, p.skip cs.length)

/-- The place behind all characters that are wanted. -/
def skipWhile (p : Cursor) (wanted : Char → Bool) : Cursor := (p.takeWhile wanted).2

/-- The place behind the blanks that follow. -/
def skipSpaces (p : Cursor) : Cursor := p.skipWhile (· == ' ')

/-- The end of the line that follows, as it counts in text, and the place behind it. -/
def lineBreak? (p : Cursor) : Option (Char × Cursor) :=
  match p.rest with
  | c :: _ => if isBreak c then some (if c = '\x85' then '\n' else c, p.next) else none
  | [] => none

/-- The place behind the given character, if it follows. -/
def accept? (p : Cursor) (c : Char) : Option Cursor :=
  if p.head? = some c then some p.next else none

/-- The place behind the blanks, the comment and the end of a line that holds nothing else. -/
def endOfLine? (p : Cursor) : Option Cursor :=
  let p := p.skipSpaces
  let p := if p.head? = some '#' then p.skipWhile (!isBreak ·) else p
  match p.rest with
  | [] => some p
  | c :: _ => if isBreak c then some p.next else none

end Cursor

/-- Whether a marker of a document stands at the head of a text. -/
def atMarker : List Char → Bool
  | a :: b :: c :: rest =>
    (a == '-' || a == '.') && b == a && c == a && endsWord rest.head?
  | _ => false

/-- What an end of line and the empty lines after it amount to in a folded text: one end of line is
a blank, and more of them lose the first. -/
def foldBreaks (first : Char) (more : List Char) : List Char :=
  if first ≠ '\n' then first :: more
  else if more.isEmpty then [' ']
  else more

end DocLinks.Yaml
