import DocLinks.Config.Yaml.Cursor
import DocLinks.Config.Yaml.Fault
import DocLinks.Text.Half
import DocLinks.Text.Percent

/-!
# Written forms of scalars

A YAML text writes a scalar in five ways: plain, between single or double quotes, and as a block of
lines, literal or folded. Every reader here takes a cursor to what it reads and gives the text back
with the cursor behind it.

## Contents
- `scanQuoted`: quoted scalars.
- `scanPlain`: plain scalars, which end where the layout says so.
- `scanBlock?`: block scalars.
-/

namespace DocLinks.Yaml

/-! ## Quoted scalars -/

/-- The ends of lines that follow, with the blanks at the beginnings of the lines passed over. A
marker of a document may not stand at the beginning of such a line. -/
def skipBlankLines? (p : Cursor) : Nat → Option (List Char × Cursor)
  | 0 => none
  | fuel + 1 =>
    if atMarker p.rest then none
    else
      let p := p.skipWhile isInlineBlank
      match p.lineBreak? with
      | none => some ([], p)
      | some (b, q) => (skipBlankLines? q fuel).map fun (bs, r) => (b :: bs, r)

/-- What a blank or an end of line inside quotes amounts to, with all the blanks around it. -/
def scanQuotedBlank? (p : Cursor) : Option (List Char × Cursor) :=
  let (blanks, q) := p.takeWhile isInlineBlank
  match q.lineBreak? with
  | none => some (blanks, q)
  | some (b, r) =>
    (skipBlankLines? r r.steps).map fun (bs, r) => (foldBreaks b bs, r)

/-- The character that a letter after a backslash stands for. -/
def escaped? : Char → Option Char
  | '0' => some '\x00'
  | 'a' => some '\x07'
  | 'b' => some '\x08'
  | 't' => some '\t'
  | '\t' => some '\t'
  | 'n' => some '\n'
  | 'v' => some '\x0b'
  | 'f' => some '\x0c'
  | 'r' => some '\r'
  | 'e' => some '\x1b'
  | ' ' => some ' '
  | '"' => some '"'
  | '\\' => some '\\'
  | '/' => some '/'
  | 'N' => some '\x85'
  | '_' => some '\u00a0'
  | 'L' => some '\u2028'
  | 'P' => some '\u2029'
  | _ => none

/-- The number of digits that follow a letter after a backslash. -/
def escapeDigits? : Char → Option Nat
  | 'x' => some 2
  | 'u' => some 4
  | 'U' => some 8
  | _ => none

/-- The number that hexadecimal digits write. -/
def hexNumber? (ds : List Char) : Option Nat :=
  ds.foldl (fun n d => n.bind fun n => (Text.Percent.hexValue? d).map (16 * n + ·)) (some 0)

/-- The greatest number that fits 31 bits. -/
def maxCharacterField : Nat := Nat.pow 2 31 - 1

/-- The character with the given number; half of a surrogate pair has one, too. -/
def charOf (n : Nat) : Scan (List Char) :=
  if n < 0x110000 then .ok (Text.spell n)
  else .error (if n ≤ maxCharacterField then .noCharacter else .hugeCharacter)

/-- What an escape amounts to; the cursor stands behind the backslash. -/
def scanEscape (p : Cursor) : Scan (List Char × Cursor) := do
  let c ← match p.head? with
    | some c => pure c
    | none => throw p.cutShort
  match escaped? c, escapeDigits? c with
  | some e, _ => return ([e], p.next)
  | none, some n =>
    let ds := p.next.rest.take n
    if ds.length < n then throw p.cutShort
    return (← charOf (← hexNumber? ds), p.next.skip n)
  | none, none =>
    let (_, q) ← p.lineBreak?
    skipBlankLines? q q.steps

/-- The text up to the closing quotation mark; `read` is what was read of it, the last character
first. -/
def scanQuotedRest (double : Bool) (p : Cursor) (read : List Char) :
    Nat → Scan (List Char × Cursor)
  | 0 => .error p.cutShort
  | fuel + 1 => do
    let found ← match p.rest, double with
      | [], _ => throw p.cutShort
      | '\'' :: '\'' :: _, false => pure (some (['\''], p.skip 2))
      | '\'' :: _, false => pure none
      | '"' :: _, true => pure none
      | '\\' :: _, true => some <$> scanEscape p.next
      | c :: _, _ =>
        if isInlineBlank c || isBreak c then some <$> require (scanQuotedBlank? p)
        else pure (some ([c], p.next))
    match found with
    | none => return (read.reverse, p.next)
    | some (cs, q) => scanQuotedRest double q (cs.reverseAux read) fuel

/-- A quoted scalar; the cursor stands at its opening quotation mark. -/
def scanQuoted (double : Bool) (p : Cursor) : Scan (List Char × Cursor) :=
  scanQuotedRest double p.next [] p.steps

/-! ## Plain scalars -/

/-- The marks that end a plain word inside brackets. -/
def isFlowMark (c : Char) : Bool := ",?[]\x7b\x7d".toList.contains c

/-- Whether a colon before a character ends a plain word. -/
def endsKey (flow : Bool) (c : Option Char) : Bool :=
  endsWord c || (flow && c.any fun c => ",[]\x7b\x7d".toList.contains c)

/-- The plain word at the head of a text. -/
def plainWord (flow : Bool) : List Char → List Char
  | [] => []
  | c :: cs =>
    if endsWord (some c) || (c == ':' && endsKey flow cs.head?) || (flow && isFlowMark c) then []
    else c :: plainWord flow cs

/-- The further ends of lines between plain words, unless a marker of a document comes first. -/
def scanPlainBreaks? (p : Cursor) : Nat → Option (List Char) × Cursor
  | 0 => (some [], p)
  | fuel + 1 =>
    match p.lineBreak? with
    | some (b, q) =>
      if atMarker q.rest then (none, q)
      else
        let (bs, r) := scanPlainBreaks? q fuel
        (bs.map (b :: ·), r)
    | none => if p.head? = some ' ' then scanPlainBreaks? p.next fuel else (some [], p)

/-- What stands between plain words, with the cursor behind it, and whether a line ends there.
Nothing means that the scalar is over. -/
def scanPlainGap (p : Cursor) : List Char × Cursor × Bool :=
  let (blanks, q) := p.takeWhile (· == ' ')
  match q.lineBreak? with
  | none => (blanks, q, false)
  | some (b, r) =>
    if atMarker r.rest then ([], r, true)
    else
      match scanPlainBreaks? r r.steps with
      | (some bs, r) => (foldBreaks b bs, r, true)
      | (none, r) => ([], r, true)

/-- The rest of a plain scalar. `gap` is what stands before its next word, `newLine` whether that is
an end of line; lines after the first have to be indented by `indent`. -/
def scanPlainRest (flow : Bool) (indent : Nat) (p : Cursor) (gap : List Char) (newLine : Bool) :
    Nat → List Char × Cursor × Bool
  | 0 => ([], p, newLine)
  | fuel + 1 =>
    let word := if p.head? = some '#' then [] else plainWord flow p.rest
    if word.isEmpty then ([], p, newLine)
    else
      let (next, q, newLine) := scanPlainGap (p.skip word.length)
      if next.isEmpty || q.head? = some '#' || (!flow && decide (q.column < indent)) then
        (gap ++ word, q, newLine)
      else
        let (cs, r, newLine) := scanPlainRest flow indent q next newLine fuel
        (gap ++ word ++ cs, r, newLine)

/-- A plain scalar, with the cursor behind it and whether a line ended before that cursor. -/
def scanPlain (flow : Bool) (indent : Nat) (p : Cursor) : List Char × Cursor × Bool :=
  scanPlainRest flow indent p [] false p.steps

/-! ## Block scalars -/

/-- What becomes of the ends of lines at the end of a block. -/
inductive Chomping where
  | strip
  | clip
  | keep
  deriving DecidableEq, Repr

/-- What the head of a block says: its chomping, and its indentation if that is given. -/
structure BlockHead where
  chomping : Chomping
  indentation : Option Nat

/-- The chomping that a sign stands for. -/
def chomping? : Option Char → Option Chomping
  | some '+' => some .keep
  | some '-' => some .strip
  | _ => none

/-- The indentation that a digit stands for; zero is none. -/
def indentation? (c : Option Char) : Option (Option Nat) :=
  match c with
  | some d => if d.isDigit then some (if d = '0' then none else some (d.toNat - 48)) else none
  | none => none

/-- The head of a block, sign and digit in either order. -/
def scanBlockHead? (p : Cursor) : Option (BlockHead × Cursor) :=
  match chomping? p.head?, indentation? p.head? with
  | some c, _ =>
    match indentation? p.next.head? with
    | some (some n) => some (⟨c, some n⟩, p.skip 2)
    | some none => none
    | none => some (⟨c, none⟩, p.next)
  | none, some (some n) =>
    match chomping? p.next.head? with
    | some c => some (⟨c, some n⟩, p.skip 2)
    | none => some (⟨.clip, some n⟩, p.next)
  | none, some none => none
  | none, none => some (⟨.clip, none⟩, p)

/-- The empty lines before a block and the widest indentation among them. -/
def scanLeadingLines (p : Cursor) (widest : Nat) : Nat → List Char × Nat × Cursor
  | 0 => ([], widest, p)
  | fuel + 1 =>
    match p.lineBreak? with
    | some (b, q) =>
      let (bs, widest, r) := scanLeadingLines q widest fuel
      (b :: bs, widest, r)
    | none =>
      if p.head? = some ' ' then scanLeadingLines p.next (max widest (p.column + 1)) fuel
      else ([], widest, p)

/-- The place behind the indentation of a line. -/
def skipIndent (p : Cursor) (indent : Nat) : Cursor :=
  p.skip (min (indent - p.column) (p.rest.takeWhile (· == ' ')).length)

/-- The empty lines that follow in a block, with the indentation of the next line passed over. -/
def scanEmptyLines (indent : Nat) (p : Cursor) : Nat → List Char × Cursor
  | 0 => ([], p)
  | fuel + 1 =>
    let p := skipIndent p indent
    match p.lineBreak? with
    | some (b, q) =>
      let (bs, r) := scanEmptyLines indent q fuel
      (b :: bs, r)
    | none => ([], p)

/-- The lines of a block. `empty` are the empty lines before the next line. -/
def scanBlockLines (folded : Bool) (head : BlockHead) (indent : Nat) (p : Cursor)
    (empty : List Char) : Nat → List Char × Cursor
  | 0 => ([], p)
  | fuel + 1 =>
    let (line, q) := p.takeWhile (!isBreak ·)
    let (lineEnd, r) := match q.lineBreak? with
      | some (b, r) => ([b], r)
      | none => ([], q)
    let (breaks, r) := scanEmptyLines indent r r.steps
    if r.column = indent ∧ !r.rest.isEmpty then
      let bends := folded && lineEnd == ['\n'] && !p.head?.any isInlineBlank &&
        !r.head?.any isInlineBlank
      let between := if bends then (if breaks.isEmpty then [' '] else []) else lineEnd
      let (cs, r) := scanBlockLines folded head indent r breaks fuel
      (empty ++ line ++ between ++ cs, r)
    else
      let last := match head.chomping with
        | .strip => []
        | .clip => lineEnd
        | .keep => lineEnd ++ breaks
      (empty ++ line ++ last, r)

/-- A block scalar; the cursor stands at its mark, and `indent` is the least indentation that its
lines can have. -/
def scanBlock? (folded : Bool) (indent : Nat) (p : Cursor) : Option (List Char × Cursor) := do
  let (head, p) ← scanBlockHead? p.next
  let p ← if endsWord p.head? ∧ p.head? ≠ some '\t' then p.endOfLine? else none
  let fuel := p.steps
  let (empty, indent, p) := match head.indentation with
    | none =>
      let (bs, widest, p) := scanLeadingLines p 0 fuel
      (bs, max indent widest, p)
    | some n =>
      let (bs, p) := scanEmptyLines (indent + n - 1) p fuel
      (bs, indent + n - 1, p)
  if p.column = indent ∧ !p.rest.isEmpty then
    return scanBlockLines folded head indent p empty fuel
  else
    return (if head.chomping = .keep then empty else [], p)

end DocLinks.Yaml
