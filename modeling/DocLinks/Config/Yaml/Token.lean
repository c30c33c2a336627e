import DocLinks.Config.Yaml.Written
import DocLinks.Decimal.Read

/-!
# Tokens of a YAML text

The layout of a text, made explicit: where a block of items or of entries begins and ends is a token
of its own. A key is seen only when the colon behind it is, so places where a key may begin are
remembered, and the tokens that say so are put in before what was read since.

## Contents
- `Token`, `Directive`.
- `Layout`: what is known on the way: the indentations of the open blocks, the open brackets, and the
  possible keys.
- `Layout.step`: one token, or the few that one character makes.
- `Tokens`, `Tokens.ofText`: the tokens of a text, as far as it is well-formed.
-/

namespace DocLinks.Yaml

/-- A line that tells how to read a document. -/
inductive Directive where
  | version (major : Nat)
  | tag (handle lead : String)
  | other
  deriving DecidableEq, Repr

/-- A token. A tag consists of a handle, which may be missing, and the rest of its name. -/
inductive Token where
  | directive (d : Directive)
  | documentStart
  | documentEnd
  | blockItems
  | blockEntries
  | blockEnd
  | flowItems
  | flowItemsEnd
  | flowEntries
  | flowEntriesEnd
  | item
  | separator
  | key
  | value
  | alias (name : String)
  | anchor (name : String)
  | tag (handle : Option String) (name : String)
  | scalar (text : String) (plain : Bool)
  deriving DecidableEq, Repr

/-! ## Names -/

/-- A character of a name. -/
def isNameChar (c : Char) : Bool := c.isAlphanum || c == '-' || c == '_'

/-- A character of a tag, besides percent escapes. -/
def isTagChar (c : Char) : Bool :=
  c.isAlphanum || "-;/?:@&=+$,_.!~*'()[]".toList.contains c

/-- The name of an anchor; something else has to follow it. -/
def scanAnchor? (p : Cursor) : Option (String × Cursor) :=
  let (name, q) := p.takeWhile isNameChar
  if name.isEmpty then none
  else if endsWord q.head? || q.head?.any "?:,]\x7d%@`".toList.contains then some (.ofList name, q)
  else none

/-- The handle of a tag: exclamation marks around a name, or one of them alone. -/
def scanHandle? (p : Cursor) : Option (String × Cursor) := do
  let p ← p.accept? '!'
  if p.head? = some ' ' then return ("!", p)
  let (name, q) := p.takeWhile isNameChar
  let q ← q.accept? '!'
  return ("!" ++ .ofList name ++ "!", q)

/-- The text that a run of escaped bytes stands for; `run` holds the last one first. -/
def escapedText? (run : List UInt8) : Option (List Char) :=
  (Text.Utf8.decodeFrom 0 run.reverse).toOption

/-- The characters of a tag at the head of a text with its percent escapes undone, and how many
characters write them. Every percent sign has two digits. `run` are the bytes that the escapes
before this place write, the last one first. -/
def tagName? (run : List UInt8) : List Char → Option (List Char × Nat)
  | '%' :: a :: b :: rest => do
    let byte := 16 * (← Text.Percent.hexValue? a) + (← Text.Percent.hexValue? b)
    let (cs, n) ← tagName? (UInt8.ofNat byte :: run) rest
    return (cs, n + 3)
  | '%' :: _ => none
  | c :: rest => do
    let text ← escapedText? run
    if isTagChar c then
      let (cs, n) ← tagName? [] rest
      return (text ++ c :: cs, n + 1)
    else return (text, 0)
  | [] => do return (← escapedText? run, 0)

/-- The name of a tag, with its percent escapes undone. -/
def scanTagName? (p : Cursor) : Option (String × Cursor) := do
  let (cs, n) ← tagName? [] p.rest
  if n = 0 then none else return (.ofList cs, p.skip n)

/-- Whether a tag before its next blank has a second exclamation mark. -/
def hasHandle (rest : List Char) : Bool :=
  (rest.takeWhile fun c => c != ' ' && !isBreak c).contains '!'

/-- A tag; the cursor stands at its exclamation mark. -/
def scanTag? (p : Cursor) : Option (Token × Cursor) := do
  let (token, q) ← match p.next.head? with
    | some '<' => do
      let (name, q) ← scanTagName? (p.skip 2)
      pure (Token.tag none name, ← q.accept? '>')
    | c =>
      if endsWord c then pure (Token.tag none "!", p.next)
      else if hasHandle p.next.rest then do
        let (handle, q) ← scanHandle? p
        let (name, q) ← scanTagName? q
        pure (Token.tag (some handle) name, q)
      else do
        let (name, q) ← scanTagName? p.next
        pure (Token.tag (some "!") name, q)
  if endsWord q.head? ∧ q.head? ≠ some '\t' then return (token, q) else none

/-! ## Directives -/

/-- The most digits that the number of a version may have. -/
def versionDigits : Nat := 4300

/-- A number. -/
def scanNumber (p : Cursor) : Scan (Nat × Cursor) :=
  let (ds, q) := p.takeWhile Char.isDigit
  if ds.isEmpty then throw .malformed
  else if versionDigits < ds.length then throw (.scalar (.tooManyDigits ds.length))
  else return (Decimal.natOf ds, q)

/-- Passes if a line or a word is over; a tab ends no word here. -/
def atWordEnd? (p : Cursor) : Option Cursor :=
  if endsWord p.head? ∧ p.head? ≠ some '\t' then some p else none

/-- A directive; the cursor stands at its percent sign. -/
def scanDirective (p : Cursor) : Scan (Directive × Cursor) := do
  let (name, p) := p.next.takeWhile isNameChar
  if name.isEmpty then throw .malformed
  let p ← atWordEnd? p
  let (d, p) ←
    if name = "YAML".toList then do
      let (major, p) ← scanNumber p.skipSpaces
      let (_, p) ← scanNumber (← p.accept? '.')
      pure (Directive.version major, ← atWordEnd? p)
    else if name = "TAG".toList then do
      let (handle, p) ← scanHandle? p.skipSpaces
      if p.head? ≠ some ' ' then throw .malformed
      let (lead, p) ← scanTagName? p.skipSpaces
      pure (Directive.tag handle lead, ← atWordEnd? p)
    else pure (Directive.other, p.skipWhile (!isBreak ·))
  return (d, ← p.endOfLine?)

/-! ## Layout -/

/-- A place where a key may begin. Behind `count` tokens the tokens that say so are put in. A key
that has to come makes a text without it ill-formed. -/
structure PossibleKey where
  count : Nat
  required : Bool
  start : Cursor

/-- What is known at a place. `tokens` are those read so far, the last one first; `indents` the
columns of the open blocks, the innermost first; `keys` the possible keys, one for every open
bracket and one for what is outside, the innermost first. -/
structure Layout where
  cursor : Cursor
  tokens : List Token := []
  count : Nat := 0
  indents : List Nat := []
  keys : List (Option PossibleKey) := [none]
  keyAllowed : Bool := true

namespace Layout

variable (s : Layout)

/-- Whether a bracket is open. -/
def inFlow : Bool := 1 < s.keys.length

/-- Adds a token. -/
def emit (t : Token) : Layout := { s with tokens := t :: s.tokens, count := s.count + 1 }

/-- Adds a token that takes some characters. -/
def take (t : Token) (n : Nat) : Layout := { s.emit t with cursor := s.cursor.skip n }

/-- Puts tokens in behind the first `count` ones; the last of them comes first. -/
def putIn (count : Nat) (new : List Token) : Layout :=
  let later := s.count - count
  { s with
    tokens := s.tokens.take later ++ new ++ s.tokens.drop later
    count := s.count + new.length }

/-- Says whether a key may begin at the next token. -/
def allowKey (allowed : Bool) : Layout := { s with keyAllowed := allowed }

/-- The least column that a line of a scalar may have. -/
def innerColumn : Nat :=
  match s.indents with
  | [] => 0
  | c :: _ => c + 1

/-- Whether a block that begins at a column is inside all open ones. -/
def isDeeper (column : Nat) : Bool := s.innerColumn ≤ column

/-- Opens a block. -/
def open_ (column : Nat) : Layout := { s with indents := column :: s.indents }

/-- Opens a block with its token, if it is inside all open ones. -/
def openBlock (t : Token) : Layout :=
  if s.isDeeper s.cursor.column then (s.emit t).open_ s.cursor.column else s

/-- Closes the blocks that are farther right than a column, or all of them. -/
def close (column : Option Nat) : Layout :=
  let closed := s.indents.takeWhile fun c => column.all (· < c)
  { closed.foldl (fun s _ => s.emit .blockEnd) s with
    indents := s.indents.drop closed.length }

/-- Closes blocks as the column of the next token says; inside brackets columns do not matter. -/
def closeTo (column : Option Nat) : Layout := if s.inFlow then s else s.close column

/-- Forgets the innermost possible key, which may not be one that has to come. -/
def dropKey : Scan Layout :=
  match s.keys with
  | some k :: keys => if k.required then throw .malformed else return { s with keys := none :: keys }
  | _ => return s

/-- Remembers that a key may begin here. -/
def markKey : Scan Layout :=
  if s.keyAllowed then do
    let s ← s.dropKey
    let required := !s.inFlow && s.indents.head? == some s.cursor.column
    return { s with keys := some ⟨s.count, required, s.cursor⟩ :: s.keys.tail }
  else return s

/-- The most characters that a key may have. -/
def maxKeyLength : Nat := 1024

/-- A possible key as it is at a cursor: it has to end on its line, and may not be too long. -/
def refreshKey (p : Cursor) : Option PossibleKey → Scan (Option PossibleKey)
  | none => return none
  | some k =>
    if k.start.line ≠ p.line ∨ maxKeyLength < p.offset - k.start.offset then
      if k.required then throw .malformed else return none
    else return some k

/-- The possible keys as they are where the cursor stands now. -/
def refresh : Scan Layout := do
  return { s with keys := ← s.keys.mapM (refreshKey s.cursor) }

/-- Passes over blanks, comments and ends of lines. -/
def skipBlank (p : Cursor) (allowed : Bool) (flow : Bool) : Nat → Cursor × Bool
  | 0 => (p, allowed)
  | fuel + 1 =>
    let p := p.skipSpaces
    let p := if p.head? = some '#' then p.skipWhile (!isBreak ·) else p
    match p.lineBreak? with
    | some (_, q) => skipBlank q (allowed || !flow) flow fuel
    | none => (p, allowed)

/-- Goes to the next token and closes the blocks that end before it. -/
def advance : Scan Layout := do
  let (p, allowed) := skipBlank s.cursor s.keyAllowed s.inFlow s.cursor.steps
  let s ← { s with cursor := p, keyAllowed := allowed }.refresh
  return s.closeTo (some p.column)

/-! ## The tokens -/

/-- The end of all blocks, before a line that belongs to no document. -/
def endBlocks : Scan Layout := do
  return (← (s.closeTo none).dropKey).allowKey false

/-- A marker of a document. -/
def marker (t : Token) : Scan Layout := do
  return (← s.endBlocks).take t 3

/-- A directive. -/
def directive : Scan Layout := do
  let s ← s.endBlocks
  let (d, p) ← scanDirective s.cursor
  return { s.emit (.directive d) with cursor := p }

/-- An opening bracket. -/
def bracket (t : Token) : Scan Layout := do
  let s ← s.markKey
  return { (s.take t 1).allowKey true with keys := none :: s.keys }

/-- A closing bracket. -/
def unbracket (t : Token) : Scan Layout :=
  if s.inFlow then return { (s.take t 1).allowKey false with keys := s.keys.tail }
  else throw .malformed

/-- A comma. -/
def separator : Scan Layout := do
  return ((← s.dropKey).take .separator 1).allowKey true

/-- A hyphen before an item. -/
def item : Scan Layout := do
  if !s.inFlow && !s.keyAllowed then throw .malformed
  let s := if s.inFlow then s else s.openBlock .blockItems
  return ((← s.dropKey).take .item 1).allowKey true

/-- A question mark before a key. -/
def key : Scan Layout := do
  if !s.inFlow && !s.keyAllowed then throw .malformed
  let s := if s.inFlow then s else s.openBlock .blockEntries
  return ((← s.dropKey).take .key 1).allowKey (!s.inFlow)

/-- A colon before a value. -/
def value : Scan Layout :=
  match s.keys with
  | some k :: keys =>
    let column := k.start.column
    let s := { s with keys := none :: keys }
    let s :=
      if !s.inFlow && s.isDeeper column then
        (s.putIn k.count [.key, .blockEntries]).open_ column
      else s.putIn k.count [.key]
    return (s.take .value 1).allowKey false
  | _ => do
    if !s.inFlow && !s.keyAllowed then throw .malformed
    let s := if s.inFlow then s else s.openBlock .blockEntries
    return ((← s.dropKey).take .value 1).allowKey (!s.inFlow)

/-- A token that may begin a key. -/
def word (scanned : Scan (Token × Cursor)) : Scan Layout := do
  let s ← s.markKey
  let (t, p) ← scanned
  return { (s.emit t).allowKey false with cursor := p }

/-- An alias or an anchor. -/
def name (make : String → Token) : Scan Layout :=
  s.word ((require (scanAnchor? s.cursor.next)).map fun (n, q) => (make n, q))

/-- A scalar between quotation marks. -/
def quoted (double : Bool) : Scan Layout :=
  s.word ((scanQuoted double s.cursor).map fun (cs, q) => (.scalar (.ofList cs) false, q))

/-- A plain scalar. -/
def plain : Scan Layout := do
  let s ← s.markKey
  let (cs, p, allowed) := scanPlain s.inFlow s.innerColumn s.cursor
  return { (s.emit (.scalar (.ofList cs) true)).allowKey allowed with cursor := p }

/-- A block scalar. -/
def block (folded : Bool) : Scan Layout := do
  let s ← s.dropKey
  let (cs, p) ← scanBlock? folded (max 1 s.innerColumn) s.cursor
  return { (s.emit (.scalar (.ofList cs) false)).allowKey true with cursor := p }

/-- Whether a plain scalar can begin with a character, given the one behind it. -/
def startsPlain (flow : Bool) (c : Char) (behind : Option Char) : Bool :=
  !(isInlineBlank c || isBreak c || "-?:,[]\x7b\x7d#&*!|>'\"%@`".toList.contains c) ||
    (!endsWord behind && (c == '-' || (!flow && (c == '?' || c == ':'))))

/-- The next token; the cursor stands at its first character. -/
def token (c : Char) (rest : List Char) : Scan Layout :=
  let first := s.cursor.column = 0
  let alone := s.inFlow || endsWord rest.head?
  if first ∧ c = '%' then s.directive
  else if first ∧ c = '-' ∧ atMarker (c :: rest) then s.marker .documentStart
  else if first ∧ c = '.' ∧ atMarker (c :: rest) then s.marker .documentEnd
  else if c = '[' then s.bracket .flowItems
  else if c = '\x7b' then s.bracket .flowEntries
  else if c = ']' then s.unbracket .flowItemsEnd
  else if c = '\x7d' then s.unbracket .flowEntriesEnd
  else if c = ',' then s.separator
  else if c = '-' ∧ endsWord rest.head? then s.item
  else if c = '?' ∧ alone then s.key
  else if c = ':' ∧ alone then s.value
  else if c = '*' then s.name .alias
  else if c = '&' then s.name .anchor
  else if c = '!' then s.word (require (scanTag? s.cursor))
  else if c = '|' ∧ !s.inFlow then s.block false
  else if c = '>' ∧ !s.inFlow then s.block true
  else if c = '\'' then s.quoted false
  else if c = '"' then s.quoted true
  else if startsPlain s.inFlow c rest.head? then s.plain
  else throw .malformed

/-- The next token, and whether the text is over instead. -/
def step : Scan (Layout × Bool) := do
  let s ← s.refresh
  if let some f := s.cursor.exhausted? then throw f
  let s ← s.advance
  match s.cursor.rest with
  | [] => return (← s.endBlocks, true)
  | c :: rest => return (← s.token c rest, false)

/-- The tokens so far, up to the first place where others may still be put in. -/
def settled : List Token :=
  let open_ := s.keys.filterMap fun k => ((refreshKey s.cursor k).toOption.join).map (·.count)
  s.tokens.reverse.take (open_.foldl min s.count)

end Layout

/-! ## All tokens -/

/-- The tokens of a text. If there is a fault, only some of them are known, and the fault says why
there are no more. -/
structure Tokens where
  list : List Token
  fault : Option Fault

/-- The tokens of a text, given what is known at a place of it. -/
def Layout.run (s : Layout) : Nat → Tokens
  | 0 => ⟨s.settled, some .malformed⟩
  | fuel + 1 =>
    match s.step with
    | .error f => ⟨s.settled, some f⟩
    | .ok (s, true) => ⟨s.tokens.reverse, none⟩
    | .ok (s, false) => s.run fuel

/-- The tokens of a text. -/
def Tokens.ofText (cs : List Char) (beyond : Option Fault) : Tokens :=
  let p := Cursor.ofText cs beyond
  let p := if p.head? = some byteOrderMark then p.next else p
  { cursor := p : Layout }.run (p.steps + 1)

end DocLinks.Yaml
