import DocLinks.Fault
import DocLinks.Decimal.Rounded
import DocLinks.Text.Half

/-!
# Messages with arguments

A message may hold places for its arguments. A place is a percent sign, perhaps with a key in
round brackets, with flags, with a width, with a precision and with a letter for the size, and last
the mark that says how the argument is written. A star in place of a width or a precision stands for
one more argument. Two percent signs stand for one.

## Contents
- `Place`, `pieces`: a message as characters and places.
- `Place.write`: an argument in its place.
- `Arguments`, `messageWith`: a message with its arguments.
-/

namespace DocLinks

/-! ## Places -/

/-- How far a place has been read. Behind a number that is too big it is read no further. -/
inductive Progress where
  | start
  | key (depth : Nat)
  | flags
  | width
  | askedWidth
  | point
  | precision
  | askedPrecision
  | size
  | wideWidth
  | widePrecision
  deriving DecidableEq, Repr, Inhabited

/-- Where an argument goes and how it is laid out there. A width or a precision may be asked for as
an argument of its own. -/
structure Place where
  progress : Progress := .start
  key : Option (List Char) := none
  toLeft : Bool := false
  zeros : Bool := false
  plus : Bool := false
  blank : Bool := false
  full : Bool := false
  width : Nat := 0
  asksWidth : Bool := false
  precision : Option Nat := none
  asksPrecision : Bool := false
  deriving DecidableEq, Repr, Inhabited

namespace Place

/-- The digit at the end of a number. -/
def push (n : Nat) (c : Char) : Nat := n * 10 + (c.toNat - 48)

/-- The greatest width. -/
def maxWidth : Nat := Nat.pow 2 63 - 1

/-- The greatest precision. -/
def maxPrecision : Nat := Nat.pow 2 31 - 1

/-- The place with one more flag, if the character is one. -/
def addFlag? (p : Place) : Char → Option Place
  | '-' => some { p with toLeft := true }
  | '0' => some { p with zeros := true }
  | '+' => some { p with plus := true }
  | ' ' => some { p with blank := true }
  | '#' => some { p with full := true }
  | _ => none

/-- The place with one more digit of its width. -/
def addWidth (p : Place) (c : Char) : Place :=
  let n := push p.width c
  if maxWidth < n then { p with progress := .wideWidth } else { p with progress := .width, width := n }

/-- The place with one more digit of its precision. -/
def addPrecision (p : Place) (c : Char) : Place :=
  let n := push (p.precision.getD 0) c
  if maxPrecision < n then { p with progress := .widePrecision }
  else { p with progress := .precision, precision := some n }

/-- The place with a point, if the character is one. -/
def addPoint? (p : Place) (c : Char) : Option Place :=
  if c = '.' then some { p with progress := .point, precision := some 0 } else none

/-- The place with a letter for the size, if the character is one. -/
def addLetter? (p : Place) (c : Char) : Option Place :=
  if "hlL".toList.contains c then some { p with progress := .size } else none

/-- The place with one more character of what stands before its mark, the flags aside. -/
def addSize? (p : Place) (c : Char) : Option Place :=
  match p.progress with
  | .wideWidth | .widePrecision => some p
  | .size => none
  | .askedPrecision => p.addLetter? c
  | .precision => if c.isDigit then some (p.addPrecision c) else p.addLetter? c
  | .point =>
    if c = '*' then some { p with progress := .askedPrecision, asksPrecision := true }
    else if c.isDigit then some (p.addPrecision c)
    else p.addLetter? c
  | .askedWidth => p.addPoint? c <|> p.addLetter? c
  | .width => if c.isDigit then some (p.addWidth c) else p.addPoint? c <|> p.addLetter? c
  | _ =>
    if c = '*' then some { p with progress := .askedWidth, asksWidth := true }
    else if c.isDigit then some (p.addWidth c)
    else p.addPoint? c <|> p.addLetter? c

/-- The place with one more character. Nothing comes back when the character is the mark. -/
def extend? (p : Place) (c : Char) : Option Place :=
  match p.progress with
  | .key depth =>
    let name := p.key.getD []
    match c, depth with
    | ')', 0 => some { p with progress := .flags }
    | ')', depth + 1 => some { p with progress := .key depth, key := some (name ++ [c]) }
    | '(', depth => some { p with progress := .key (depth + 1), key := some (name ++ [c]) }
    | c, _ => some { p with key := some (name ++ [c]) }
  | .start =>
    if c = '(' then some { p with progress := .key 0, key := some [] }
    else ((p.addFlag? c).map fun q => { q with progress := .flags }) <|> p.addSize? c
  | .flags => p.addFlag? c <|> p.addSize? c
  | _ => p.addSize? c

end Place

/-- A part of a message: a character, a place with its mark and with the position of the mark, or a
place that the message breaks off. -/
inductive Piece where
  | char (c : Char)
  | place (p : Place) (mark : Char) (position : Nat)
  | broken (p : Place)
  deriving DecidableEq, Repr, Inhabited

/-- The parts of a message from a position on, inside a place or outside. -/
def pieces (position : Nat) : Option Place → List Char → List Piece
  | none, [] => []
  | some p, [] => [.broken p]
  | none, c :: rest =>
    if c = '%' then pieces (position + 1) (some {}) rest
    else .char c :: pieces (position + 1) none rest
  | some p, c :: rest =>
    if c = '%' ∧ p.progress = .start then .char c :: pieces (position + 1) none rest
    else
      match p.extend? c with
      | some p => pieces (position + 1) (some p) rest
      | none => .place p c position :: pieces (position + 1) none rest

/-! ## Arguments in their places -/

namespace Place

/-- A text within the width of its place. -/
def pad (p : Place) (cs : List Char) : List Char :=
  let gap := List.replicate (p.width - cs.length) ' '
  if p.toLeft then cs ++ gap else gap ++ cs

/-- A text in its place: no longer than the precision. -/
def writeText (p : Place) (s : String) : List Char :=
  p.pad (match p.precision with
    | some n => s.toList.take n
    | none => s.toList)

/-- A number in its place: its sign and what shows its system stand before zeros that fill the
width. -/
def writeNumber (p : Place) (negative : Bool) (system digits : List Char) : List Char :=
  let sign := if negative then ['-'] else if p.plus then ['+'] else if p.blank then [' '] else []
  let head := sign ++ system
  if p.zeros ∧ ¬p.toLeft then head ++ Decimal.padded (p.width - head.length) digits
  else p.pad (head ++ digits)

/-- A whole number in its place: no fewer digits than the precision. -/
def writeInt (p : Place) (n : Int) (base : Nat) (system : List Char) (upper : Bool) : List Char :=
  let digits := Decimal.padded (p.precision.getD 0) (Nat.toDigits base n.natAbs)
  let system := if p.full then system else []
  let shown (cs : List Char) : List Char := if upper then cs.map Char.toUpper else cs
  p.writeNumber (n < 0) (shown system) (shown digits)

/-- A floating-point number in its place, in the form that the mark asks for. -/
def writeFloat (p : Place) (x : Double) (mark : Char) : List Char :=
  let count := p.precision.getD 6
  let digits := match Decimal.Binary.ofDouble? x with
    | none => if x.isNaN then "nan".toList else "inf".toList
    | some size =>
      match mark.toLower with
      | 'f' => size.fixed count p.full
      | 'e' => size.scientific count p.full
      | _ => size.general (max count 1) p.full
  p.writeNumber (x.isMinus && !x.isNaN) []
    (if mark.isUpper then digits.map Char.toUpper else digits)

end Place

/-- Fails for an argument of the wrong shape. -/
def wrongArgument {α : Type} : Except FormFault α := .error (.shape .wrongType)

/-- A whole number, for the marks that take no other. -/
def exactOf : Value → Except FormFault Int
  | .int n => .ok n
  | .bool b => .ok (Value.boolInt b)
  | _ => wrongArgument

/-- The whole part of a number, which is all that the marks for whole numbers show. -/
def wholeOf : Value → Except FormFault Int
  | .real x =>
    match x.whole? with
    | some n => .ok n
    | none => .error (if x.isNaN then .noInteger else .range .infinite)
  | v => exactOf v

/-- A number as a floating-point number. -/
def floatOf : Value → Except FormFault Double
  | .real x => .ok x
  | v => do
    match Double.ofInt? (← exactOf v) with
    | some x => .ok x
    | none => .error (.range .double)

/-- The character that an argument is, or whose number it is. -/
def charOf : Value → Except FormFault (List Char)
  | .text s => if s.length = 1 then .ok s.toList else wrongArgument
  | v => do
    let n ← exactOf v
    if 0 ≤ n ∧ n < 0x110000 then .ok (Text.spell n.toNat) else .error (.range .character)

/-- The greatest number of digits that a whole number is filled up to. -/
def maxDigits : Nat := Nat.pow 2 31 - 4

/-- A whole number in its place, unless it asks for too many digits. -/
def Place.writeWhole (p : Place) (n : Int) (base : Nat) (system : List Char) (upper : Bool) :
    Except FormFault (List Char) :=
  if maxDigits < p.precision.getD 0 then .error (.range .precision)
  else .ok (p.writeInt n base system upper)

/-- An argument as the mark says. -/
def Place.writeAs (p : Place) (mark : Char) (position : Nat) (v : Value) :
    Except FormFault (List Char) :=
  match mark with
  | 's' => .ok (p.writeText v.plain)
  | 'r' => .ok (p.writeText v.shown)
  | 'a' => .ok (p.writeText (Text.ascii v.shown))
  | 'c' => (charOf v).map p.pad
  | 'd' | 'i' | 'u' => do p.writeWhole (← wholeOf v) 10 [] false
  | 'o' => do p.writeWhole (← exactOf v) 8 ['0', 'o'] false
  | 'x' | 'X' => do p.writeWhole (← exactOf v) 16 ['0', 'x'] mark.isUpper
  | 'e' | 'E' | 'f' | 'F' | 'g' | 'G' => (floatOf v).map fun x => p.writeFloat x mark
  | _ => .error (.unknownMark mark position)

/-- The greatest width that a memory holds. -/
def heldWidth : Nat := Nat.pow 2 36

/-- An argument in its place, as the mark says. -/
def Place.write (p : Place) (mark : Char) (position : Nat) (v : Value) :
    Except FormFault (List Char) :=
  if p.width ≤ heldWidth then p.writeAs mark position v
  else
    match Place.writeAs { p with width := 0 } mark position v with
    | .error f => .error f
    | .ok _ => .error .tooLong

/-! ## Messages -/

/-- The first argument, and the others. -/
def takeArgument : List Value → Except FormFault (Value × List Value)
  | [] => wrongArgument
  | v :: rest => .ok (v, rest)

/-- Where a place with a key looks for it. In a list no key finds anything. -/
inductive KeySource where
  | nowhere
  | entries (d : Dict)
  | items

/-- Whether a place with a key has nowhere to look. -/
def KeySource.isNowhere : KeySource → Bool
  | nowhere => true
  | _ => false

/-- The arguments for a place. One with a key has only the entry of the mapping. -/
def argumentsFor (source : KeySource) (key : Option (List Char)) (args : List Value) :
    Except FormFault (List Value) :=
  match key, source with
  | none, _ => .ok args
  | some key, .entries d =>
    match Dict.get? d (.ofList key) with
    | none => .error (.shape .noKey)
    | some v => .ok [v]
  | some _, _ => wrongArgument

/-- The least and the greatest number that a field for widths holds. -/
def fitsWidth (n : Int) : Bool := -(Int.pow 2 63) ≤ n && n < Int.pow 2 63

/-- The least and the greatest number that a field for precisions holds. -/
def fitsPrecision (n : Int) : Bool := -(Int.pow 2 31) ≤ n && n < Int.pow 2 31

/-- A place with the width that it asks for; a negative one means to the left. The least one has no
positive counterpart and means no width. -/
def Place.askWidth (p : Place) (args : List Value) : Except FormFault (Place × List Value) :=
  if p.asksWidth then do
    let (v, args) ← takeArgument args
    let n ← exactOf v
    if !fitsWidth n then throw (.range .wide)
    let width := if n.natAbs ≤ Place.maxWidth then n.natAbs else 0
    return ({ p with width, toLeft := p.toLeft || n < 0 }, args)
  else .ok (p, args)

/-- A place with the precision that it asks for; a negative one means none at all. -/
def Place.askPrecision (p : Place) (args : List Value) : Except FormFault (Place × List Value) :=
  if p.asksPrecision then do
    let (v, args) ← takeArgument args
    let n ← exactOf v
    if !fitsPrecision n then throw (.range .small)
    return ({ p with precision := some n.toNat }, args)
  else .ok (p, args)

/-- A place with what it asks for, and the arguments that are left for what it shows. -/
def Place.ask (source : KeySource) (p : Place) (args : List Value) :
    Except FormFault (Place × List Value) := do
  let (p, args) ← p.askWidth (← argumentsFor source p.key args)
  p.askPrecision args

/-- Why a place that the message breaks off cannot be filled. -/
def Place.broken (source : KeySource) (p : Place) (args : List Value) : FormFault :=
  match p.progress with
  | .key _ => if source.isNowhere then .shape .wrongType else .brokenKey
  | progress =>
    match p.ask source args with
    | .error f => f
    | .ok _ =>
      match progress with
      | .wideWidth => .wideWidth
      | .widePrecision => .widePrecision
      | _ => .broken

/-- The parts of a message with the arguments in their places, each used once. A place with a key
takes the entry of the mapping, and after it no place without a key finds an argument; with a
mapping an argument may stay unused. -/
def fillPieces (source : KeySource) : List Piece → List Value → Except FormFault (List Char)
  | [], args => if source.isNowhere ∧ ¬args.isEmpty then wrongArgument else .ok []
  | .char c :: rest, args => (fillPieces source rest args).map (c :: ·)
  | .broken p :: _, args => .error (p.broken source args)
  | .place p mark position :: rest, args => do
    let (p, args) ← p.ask source args
    let (v, args) ← takeArgument args
    let shown ← p.write mark position v
    if ¬source.isNowhere ∧ ¬args.isEmpty then wrongArgument
    return shown ++ (← fillPieces source rest args)

/-- The arguments of a message: one after the other, or one that stands alone. -/
inductive Arguments where
  | row (args : List Value)
  | single (v : Value)
  deriving Inhabited

namespace Arguments

/-- The argument that stands alone; one that does not count as given is none. -/
def ofValue (v : Value) : Arguments := if v.isTruthy then .single v else .row []

/-- Where places with a key look, and the arguments for the others. A mapping that is the only
argument, and not empty, can be asked for its entries by key. -/
def spread : Arguments → KeySource × List Value
  | row [.dict (e :: entries)] => (.entries (e :: entries), [.dict (e :: entries)])
  | row args => (.nowhere, args)
  | single (.dict entries) => (.entries entries, [.dict entries])
  | single (.list items) => (.items, [.list items])
  | single v => (.nowhere, [v])

end Arguments

/-- A message with its arguments; without arguments it stays as it is. -/
def messageWith (message : String) (args : Arguments) : Except FormFault String :=
  match args.spread with
  | (_, []) => .ok message
  | (source, args) => (fillPieces source (pieces 0 none message.toList) args).map .ofList

end DocLinks
