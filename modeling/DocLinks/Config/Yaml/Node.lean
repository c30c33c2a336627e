import DocLinks.Assoc
import DocLinks.Config.Yaml.Plain
import DocLinks.Config.Yaml.Token

/-!
# The nodes of a YAML document

A node is a scalar, a list of items or a mapping. Nodes have numbers, by which they refer to each
other: an alias stands for the number of its anchor, so a node can be part of several others and
even of itself.

## Contents
- `Node`, `Document`.
- `Reading`: tokens that are being read, and the nodes and anchors seen so far.
- `readNode`, with the readers of items and entries in all their layouts.
- `Document.ofTokens`: the only document of a text.
-/

namespace DocLinks.Yaml

/-- A node, with its type. What it consists of is given by numbers. -/
inductive Node where
  | scalar (tag : Tag) (text : String)
  | items (tag : Tag) (nodes : List Nat)
  | entries (tag : Tag) (pairs : List (Nat × Nat))
  deriving DecidableEq, Repr, Inhabited

/-- Nodes, and the number of the one that is the whole. -/
structure Document where
  nodes : Array Node
  root : Nat
  deriving Repr

/-- The node that is left out: a scalar without text. -/
def Node.absent : Node := .scalar (.ofPlain "") ""

/-- The tokens that are still to be read, the nodes so far, and the numbers of the anchors. -/
structure Reading where
  tokens : List Token
  fault : Option Fault
  nodes : Array Node := #[]
  anchors : Assoc String Nat := []

/-- A computation that reads tokens. -/
abbrev Read (α : Type) := StateT Reading Scan α

/-- The handles of tags, and what they stand for. -/
abbrev Handles := Assoc String String

namespace Read

/-- Fails for not being well-formed. -/
def malformed {α : Type} : Read α := throw .malformed

/-- The next token. Where the known tokens are over because of a fault, that is the result. -/
def peek : Read (Option Token) := do
  let s ← get
  match s.tokens, s.fault with
  | t :: _, _ => return some t
  | [], some f => throw f
  | [], none => return none

/-- Passes over a token. -/
def next : Read Unit := modify fun s => { s with tokens := s.tokens.tail }

/-- Passes over a token if it is the given one. -/
def accept (t : Token) : Read Bool := do
  if (← peek) = some t then
    next
    return true
  else return false

/-- Passes over a token that has to be the given one. -/
def expect (t : Token) : Read Unit := do
  if !(← accept t) then malformed

/-- Whether the next token is one of some. -/
def sees (ts : List Token) : Read Bool := do return (← peek).any ts.contains

/-- Adds a node and gives its number. -/
def add (n : Node) : Read Nat := do
  let s ← get
  set { s with nodes := s.nodes.push n }
  return s.nodes.size

/-- Adds a node that an anchor may name; the name has to be new. -/
def anchored (name : Option String) (n : Node) : Read Nat := do
  match name with
  | none => add n
  | some a =>
    if ((← get).anchors.get? a).isSome then malformed
    let i ← add n
    modify fun s => { s with anchors := s.anchors.put a i }
    return i

/-- Completes a node that was added before what it consists of. -/
def complete (i : Nat) (n : Node) : Read Nat := do
  modify fun s => { s with nodes := s.nodes.setIfInBounds i n }
  return i

/-- The number of an anchor. -/
def aliased (name : String) : Read Nat := do
  match (← get).anchors.get? name with
  | some i => return i
  | none => malformed

/-- An anchor, if one follows. -/
def anchor? : Read (Option String) := do
  match ← peek with
  | some (.anchor n) =>
    next
    return some n
  | _ => return none

/-- A tag, if one follows. -/
def tag? : Read (Option (Option String × String)) := do
  match ← peek with
  | some (.tag handle name) =>
    next
    return some (handle, name)
  | _ => return none

/-- The full name of a tag; its handle stands for the beginning. -/
def fullName (handles : Handles) : Option String × String → Read String
  | (none, name) => return name
  | (some h, name) =>
    match handles.get? h with
    | some lead => return lead ++ name
    | none => malformed

/-- The anchor and the tag of a node, in either order. -/
def properties (handles : Handles) : Read (Option String × Option String) := do
  match ← anchor? with
  | some a =>
    match ← tag? with
    | some t => return (some a, some (← fullName handles t))
    | none => return (some a, none)
  | none =>
    match ← tag? with
    | some t =>
      let a ← anchor?
      return (a, some (← fullName handles t))
    | none => return (none, none)

end Read

/-- What may stand where a node is read: inside brackets no block, and items without an indentation
of their own only as a key or a value. -/
inductive Position where
  | flow
  | block
  | entry
  deriving DecidableEq, Repr

/-- The tag that leaves it to the text of a scalar what its type is. -/
def openTag : String := "!"

/-- The type that a tag names; without one, or if it is left open, it is the given one. -/
def typeOf (tag : Option String) (given : Tag) : Tag :=
  match tag with
  | some t => if t = openTag then given else .ofName t
  | none => given

/-- The type of a scalar. Only the text of a plain one tells its type, unless the tag says so. -/
def scalarType (tag : Option String) (text : String) (plain : Bool) : Tag :=
  typeOf tag (if plain || tag.isSome then .ofPlain text else .text)

/-- The tokens before which the key or the value of a block entry is left out. -/
def entryEnds : List Token := [.key, .value, .blockEnd]

/-- The tokens before which the key or the value of an entry in brackets is left out. -/
def flowEnds : List Token := [.value, .separator, .flowEntriesEnd]

/-- The tokens before which the key or the value of an entry that is an item is left out. -/
def flowItemEnds : List Token := [.value, .separator, .flowItemsEnd]

/-- What holds where a node is read: the handles of tags, and how many lists and mappings may be
nested in each other. -/
structure Scope where
  handles : Handles
  room : Nat

/-- The scope inside a list or a mapping. -/
def Scope.inner (scope : Scope) : Read Scope :=
  if scope.room = 0 then throw .tooDeep else return { scope with room := scope.room - 1 }

open Read

mutual

/-- A node. -/
def readNode (scope : Scope) (position : Position) : Nat → Read Nat
  | 0 => malformed
  | fuel + 1 => do
    match ← peek with
    | some (.alias name) =>
      next
      aliased name
    | _ =>
      let (anchor, tag) ← properties scope.handles
      readContent scope position anchor tag fuel

/-- What follows the anchor and the tag of a node; if there is one of them, it may be nothing. -/
def readContent (scope : Scope) (position : Position) (anchor tag : Option String) :
    Nat → Read Nat
  | 0 => malformed
  | fuel + 1 => do
    let items (read : Scope → Read (List Nat)) : Read Nat := do
      let i ← anchored anchor (.items (typeOf tag .items) [])
      complete i (.items (typeOf tag .items) (← read (← scope.inner)))
    let entries (read : Scope → Read (List (Nat × Nat))) : Read Nat := do
      let i ← anchored anchor (.entries (typeOf tag .entries) [])
      complete i (.entries (typeOf tag .entries) (← read (← scope.inner)))
    let absent : Read Nat :=
      if anchor.isSome || tag.isSome then anchored anchor (.scalar (scalarType tag "" true) "")
      else malformed
    match ← peek with
    | some (.scalar text plain) =>
      next
      anchored anchor (.scalar (scalarType tag text plain) text)
    | some .flowItems =>
      next
      items fun scope => readFlowItems scope true [] fuel
    | some .flowEntries =>
      next
      entries fun scope => readFlowEntries scope true [] fuel
    | some .item =>
      if position = .entry then items fun scope => readOpenItems scope [] fuel else absent
    | some .blockItems =>
      if position = .flow then absent
      else
        next
        items fun scope => readItems scope [] fuel
    | some .blockEntries =>
      if position = .flow then absent
      else
        next
        entries fun scope => readEntries scope [] fuel
    | _ => absent

/-- A node, or nothing before one of some tokens. -/
def readUnless (scope : Scope) (position : Position) (ends : List Token) :
    Nat → Read Nat
  | 0 => malformed
  | fuel + 1 => do
    if ← sees ends then add .absent else readNode scope position fuel

/-- The value of an entry, if there is one. -/
def readValue (scope : Scope) (position : Position) (ends : List Token) :
    Nat → Read Nat
  | 0 => malformed
  | fuel + 1 => do
    if ← accept .value then readUnless scope position ends fuel else add .absent

/-- The items of a block, up to its end; `read` are the ones before, the last one first. -/
def readItems (scope : Scope) (read : List Nat) : Nat → Read (List Nat)
  | 0 => malformed
  | fuel + 1 => do
    if ← accept .item then
      let i ← readUnless scope .block [.item, .blockEnd] fuel
      readItems scope (i :: read) fuel
    else
      expect .blockEnd
      return read.reverse

/-- Items that are no block of their own. -/
def readOpenItems (scope : Scope) (read : List Nat) : Nat → Read (List Nat)
  | 0 => malformed
  | fuel + 1 => do
    if ← accept .item then
      let i ← readUnless scope .block (.item :: entryEnds) fuel
      readOpenItems scope (i :: read) fuel
    else return read.reverse

/-- The entries of a block, up to its end. -/
def readEntries (scope : Scope) (read : List (Nat × Nat)) :
    Nat → Read (List (Nat × Nat))
  | 0 => malformed
  | fuel + 1 => do
    if ← accept .key then
      let key ← readUnless scope .entry entryEnds fuel
      let value ← readValue scope .entry entryEnds fuel
      readEntries scope ((key, value) :: read) fuel
    else
      expect .blockEnd
      return read.reverse

/-- The items in brackets, up to the closing one. -/
def readFlowItems (scope : Scope) (first : Bool) (read : List Nat) :
    Nat → Read (List Nat)
  | 0 => malformed
  | fuel + 1 => do
    if ← accept .flowItemsEnd then return read.reverse
    else
      if !first then expect .separator
      if ← accept .flowItemsEnd then return read.reverse
      let i ← if ← accept .key then readPair scope fuel else readNode scope .flow fuel
      readFlowItems scope false (i :: read) fuel

/-- An item in brackets that is a mapping with one entry. -/
def readPair (scope : Scope) : Nat → Read Nat
  | 0 => malformed
  | fuel + 1 => do
    let i ← add (.entries .entries [])
    let scope ← scope.inner
    let key ← readUnless scope .flow flowItemEnds fuel
    let value ← readValue scope .flow flowItemEnds.tail fuel
    complete i (.entries .entries [(key, value)])

/-- The entries in brackets, up to the closing one. -/
def readFlowEntries (scope : Scope) (first : Bool) (read : List (Nat × Nat)) :
    Nat → Read (List (Nat × Nat))
  | 0 => malformed
  | fuel + 1 => do
    if ← accept .flowEntriesEnd then return read.reverse
    else
      if !first then expect .separator
      if ← accept .flowEntriesEnd then return read.reverse
      let entry ←
        if ← accept .key then
          let key ← readUnless scope .flow flowEnds fuel
          pure (key, ← readValue scope .flow flowEnds.tail fuel)
        else
          let key ← readNode scope .flow fuel
          pure (key, ← add .absent)
      readFlowEntries scope false (entry :: read) fuel

end

/-! ## Documents -/

/-- How many lists and mappings may be nested in each other. -/
def maxDepth : Nat := 488

/-- The handles of tags that need no directive. -/
def usualHandles : Handles := [("!", "!"), ("!!", Tag.lead)]

/-- The directives that follow, with the handles that they set. A handle may be set once, and so may
the version, which has to be the first. -/
def readDirectives (handles : Handles) (versioned : Bool) : Nat → Read Handles
  | 0 => malformed
  | fuel + 1 => do
    match ← peek with
    | some (.directive d) =>
      next
      match d with
      | .version major =>
        if versioned || major ≠ 1 then malformed else readDirectives handles true fuel
      | .tag h lead =>
        if (handles.get? h).isSome then malformed
        else readDirectives (handles.put h lead) versioned fuel
      | .other => readDirectives handles versioned fuel
    | _ => return handles ++ usualHandles

/-- Passes over the markers at the end of a document. -/
def skipEnds : Nat → Read Unit
  | 0 => malformed
  | fuel + 1 => do if ← accept .documentEnd then skipEnds fuel

/-- The node of a document, with its markers. Behind it nothing may follow. -/
def readDocument (fuel : Nat) : Read Nat := do
  let i ← match ← peek with
    | some .documentStart | some (.directive _) =>
      let handles ← readDirectives [] false fuel
      expect .documentStart
      match ← peek with
      | none | some (.directive _) | some .documentStart | some .documentEnd => add .absent
      | _ => readNode ⟨handles, maxDepth⟩ .block fuel
    | _ => readNode ⟨usualHandles, maxDepth⟩ .block fuel
  skipEnds fuel
  if (← peek).isNone then return i
  else
    let _ ← readDirectives [] false fuel
    malformed

/-- The only document of a text. A text without tokens has none. -/
def Document.ofTokens (ts : Tokens) : Scan (Option Document) :=
  if ts.list.isEmpty && ts.fault.isNone then return none
  else do
    let (root, s) ← (readDocument (4 * ts.list.length + 8)).run
      { tokens := ts.list, fault := ts.fault }
    return some ⟨s.nodes, root⟩

end DocLinks.Yaml
