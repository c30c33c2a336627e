import DocLinks.Config.Toml.Scalar
import DocLinks.Config.Toml.Table

/-!
# TOML

A reader for TOML texts. A text is a sequence of lines, each a header that says which table the
following lines belong to, an entry of that table, or nothing.

## Contents
- `readValue?`: a value of any kind.
- `Document`, `Document.header?`, `Document.entry?`: what one line changes.
- `parse?`: the table of a text.
-/

namespace DocLinks.Toml

/-- The parts of a key but the last, and the last. -/
def splitLast (p : Path) : Path × String := (p.dropLast, p.getLast?.getD "")

/-- A value that was written between brackets: nothing can be added to it later. -/
def isCompound : Value → Bool
  | .dict _ => true
  | .list _ => true
  | _ => false

/-- The fixed words that stand for values. -/
def words : List (String × Value) := [("true", .bool true), ("false", .bool false)]

/-- A value at the head of a text that is not compound. -/
def readScalar? (cs : List Char) : Option (Value × List Char) :=
  match words.find? fun w => w.1.toList.isPrefixOf cs with
  | some w => some (w.2, cs.drop w.1.length)
  | none =>
    if cs.head? = some '"' || cs.head? = some '\'' then
      (readText? cs).map fun (text, rest) => (.text (.ofList text), rest)
    else
      match readMoment? cs with
      | some (m, rest) => if isRealDay m then some (.moment m, rest) else none
      | none => readNumber? cs

/-- The room that lists and tables have to be nested in each other. A list takes two parts of it and
a table in one line three. -/
def nestingRoom : Nat := 981

/-- What is left of some room, if it is enough. -/
def take? (parts room : Nat) : Option Nat := if parts ≤ room then some (room - parts) else none

mutual

/-- A value at the head of a text. -/
def readValue? (room : Nat) (cs : List Char) : Nat → Option (Value × List Char)
  | 0 => none
  | fuel + 1 =>
    match cs with
    | '[' :: rest => do
      let room ← take? 2 room
      let (vs, rest) ← readItems? room (← skipLines? rest (rest.length + 1)) fuel
      return (.list vs, rest)
    | '\x7b' :: rest => do
      let room ← take? 3 room
      match skipBlanks rest with
      | '\x7d' :: rest => return (.dict [], rest)
      | rest => (readMembers? room rest [] [] fuel).map fun (d, rest) => (.dict d, rest)
    | cs => readScalar? cs

/-- The items of a list up to its closing bracket; a comma may follow the last one. -/
def readItems? (room : Nat) (cs : List Char) : Nat → Option (List Value × List Char)
  | 0 => none
  | fuel + 1 =>
    match cs with
    | ']' :: rest => some ([], rest)
    | cs => do
      let (v, rest) ← readValue? room cs fuel
      match ← skipLines? rest (rest.length + 1) with
      | ']' :: rest => return ([v], rest)
      | ',' :: rest =>
        let (vs, rest) ← readItems? room (← skipLines? rest (rest.length + 1)) fuel
        return (v :: vs, rest)
      | _ => none

/-- The members of a table in one line up to its closing bracket; no comma follows the last one. -/
def readMembers? (room : Nat) (cs : List Char) (d : Dict) (closed : Closed) :
    Nat → Option (Dict × List Char)
  | 0 => none
  | fuel + 1 => do
    let (key, rest) ← readKey? cs
    let (v, rest) ← readValue? room (skipBlanks (← behind? ['='] rest)) fuel
    if closed.isFrozen key then none
    let (table, name) := splitLast key
    let d ← setIn? false table name v d
    match skipBlanks rest with
    | '\x7d' :: rest => return (d, rest)
    | ',' :: rest =>
      let closed := if isCompound v then (key, .frozen) :: closed else closed
      readMembers? room (skipBlanks rest) d closed fuel
    | _ => none

end

/-- What the lines of a text have built up. `header` leads to the table that they belong to, and
`pending` are tables that its lines have made on the way: they are declared with the next header. -/
structure Document where
  table : Dict := []
  header : Path := []
  closed : Closed := []
  pending : List Path := []

namespace Document

/-- Declares the tables that are pending. -/
def settle (d : Document) : Document :=
  { d with closed := d.pending.map (·, .declared) ++ d.closed, pending := [] }

/-- The header of a table. -/
def table? (d : Document) (key : Path) : Option Document :=
  if d.closed.isDeclared key || d.closed.isFrozen key then none
  else
    (openTable? key d.table).map fun table =>
      { d with table, header := key, closed := (key, .declared) :: d.closed }

/-- The header of a table that is added to a list. -/
def listed? (d : Document) (key : Path) : Option Document :=
  if d.closed.isFrozen key then none
  else
    let (p, name) := splitLast key
    (appendTable? p name d.table).map fun table =>
      { d with table, header := key, closed := (key, .declared) :: d.closed.forget key }

/-- A header of either kind at the head of a line. -/
def header? (d : Document) (cs : List Char) : Option (Document × List Char) :=
  let d := d.settle
  match cs with
  | '[' :: '[' :: rest => do
    let (key, rest) ← readKey? (skipBlanks rest)
    return (← d.listed? key, ← behind? [']', ']'] rest)
  | '[' :: rest => do
    let (key, rest) ← readKey? (skipBlanks rest)
    return (← d.table? key, ← behind? [']'] rest)
  | _ => none

/-- An entry of the table that lines belong to. A key of several parts makes tables on the way,
which may not have been declared. -/
def put? (d : Document) (key : Path) (v : Value) : Option Document :=
  let (relative, name) := splitLast key
  let made := (List.range relative.length).map fun n => d.header ++ key.take (n + 1)
  let place := d.header ++ relative
  if made.any d.closed.isDeclared || d.closed.isFrozen place then none
  else
    (setIn? true place name v d.table).map fun table =>
      { d with
        table
        pending := made ++ d.pending
        closed := if isCompound v then (d.header ++ key, .frozen) :: d.closed else d.closed }

/-- An entry at the head of a line. -/
def entry? (d : Document) (cs : List Char) : Option (Document × List Char) := do
  let (key, rest) ← readKey? cs
  let (v, rest) ← readValue? nestingRoom (skipBlanks (← behind? ['='] rest)) (cs.length + 1)
  return (← d.put? key v, rest)

/-- The rest of a document. -/
def read? (d : Document) (cs : List Char) : Nat → Option Document
  | 0 => none
  | fuel + 1 => do
    let (d, rest) ← match skipBlanks cs with
      | [] => some (d, [])
      | '\n' :: rest => some (d, '\n' :: rest)
      | '#' :: rest => some (d, '#' :: rest)
      | '[' :: rest => d.header? ('[' :: rest)
      | cs => d.entry? cs
    match ← skipComment? (skipBlanks rest) with
    | [] => return d
    | '\n' :: rest => d.read? rest fuel
    | _ => none

end Document

/-- The table of a text. -/
def parse? (text : String) : Option Dict :=
  (Document.read? {} text.toList (text.length + 1)).map (·.table)

end DocLinks.Toml
