import DocLinks.Config.Yaml.Node
import DocLinks.Config.Yaml.Scalar

/-!
# What nodes amount to

Every node of a document amounts to one value, wherever it is used. Lists and mappings are made
empty first and are filled in the order in which they were made, those nearest to the root before
those inside them; so what is wrong with an outer part is found before what is wrong with an inner
one. A key `<<` merges the entries of other mappings into its own, where the own ones count.

## Contents
- `Part`, `Content`, `Contents`: values that refer to each other by number.
- `Build`: what is known while nodes become values.
- `flatten`: merging.
- `build`, `fill`: a node as a part, and what a list or a mapping consists of.
- `Document.contents`: everything that a document amounts to.
-/

namespace DocLinks.Yaml

/-- What a node amounts to: a value that has no parts, with the node that wrote it, or the list or
mapping with a number. -/
inductive Part where
  | value (v : Value) (origin : Nat)
  | whole (number : Nat)
  deriving Inhabited

/-- What a list or a mapping consists of. -/
inductive Content where
  | list (items : List Part)
  | pairs (items : List (Part × Part))
  | dict (entries : List (Value × Part))
  | set (members : List Value)
  deriving Inhabited

/-- Lists and mappings by their numbers, and what the whole is. -/
structure Contents where
  contents : Array (Option Content)
  root : Part

/-- What is known while nodes become values: the nodes, which merging changes, and more `steps` than
they have keys that merge; what the nodes amount to; and the lists and mappings that are still to be
filled, the last one first. -/
structure Building where
  nodes : Array Node
  steps : Nat
  parts : Array (Option Part)
  contents : Array (Option Content)
  pending : List Nat := []

/-- A computation that turns nodes into values. -/
abbrev Build (α : Type) := StateT Building Scan α

namespace Build

/-- Fails for not being well-formed. -/
def malformed {α : Type} : Build α := throw .malformed

/-- The node with a number. -/
def node (i : Nat) : Build Node := do
  match (← get).nodes[i]? with
  | some n => return n
  | none => malformed

/-- Changes a node. -/
def setNode (i : Nat) (n : Node) : Build Unit :=
  modify fun s => { s with nodes := s.nodes.setIfInBounds i n }

/-- Says what a node amounts to. -/
def setPart (i : Nat) (p : Part) : Build Part := do
  modify fun s => { s with parts := s.parts.setIfInBounds i (some p) }
  return p

/-- Says what a list or a mapping consists of. -/
def setContent (i : Nat) (c : Content) : Build Unit :=
  modify fun s => { s with contents := s.contents.setIfInBounds i (some c) }

end Build

open Build

/-! ## Merging -/

/-- The type of a node. -/
def Node.tag : Node → Tag
  | scalar tag _ | items tag _ | entries tag _ => tag

/-- The node with another type. -/
def Node.withTag (tag : Tag) : Node → Node
  | scalar _ s => scalar tag s
  | items _ nodes => items tag nodes
  | entries _ pairs => entries tag pairs

/-- The type of the node with a number. -/
def tagOf (i : Nat) : Build Tag := return (← node i).tag

/-- The entries of a mapping; anything else cannot be merged. -/
def pairsOf (i : Nat) : Build (List (Nat × Nat)) := do
  match ← node i with
  | .entries _ pairs => return pairs
  | _ => malformed

/-- The first entry whose key has a type, with the entries before and behind it. -/
def splitAt (nodes : Array Node) (tag : Tag) (pairs : List (Nat × Nat)) :
    Option (List (Nat × Nat) × Nat × List (Nat × Nat)) :=
  let other (e : Nat × Nat) := (nodes[e.1]?.map Node.tag) != some tag
  match pairs.dropWhile other with
  | [] => none
  | (_, value) :: rest => some (pairs.takeWhile other, value, rest)

/-- Makes the keys that stand for the usual value mere text. -/
def plainKeys (pairs : List (Nat × Nat)) : Build Unit :=
  pairs.forM fun (key, _) => do
    let n ← node key
    if n.tag = .usual then setNode key (n.withTag .text)

/-- Puts the entries that a mapping merges in before its own; `merged` are those found so far. A
list of mappings is merged from its last one to its first. -/
def flatten (i : Nat) (merged : List (Nat × Nat)) : Nat → Build Unit
  | 0 => throw .tooDeep
  | fuel + 1 => do
    match ← node i with
    | .entries tag pairs =>
      match splitAt (← get).nodes .merge pairs with
      | none =>
        plainKeys pairs
        if !merged.isEmpty then setNode i (.entries tag (merged ++ pairs))
      | some (before, value, behind) =>
        setNode i (.entries tag (before ++ behind))
        let found ← match ← node value with
          | .entries _ _ => do
            flatten value [] fuel
            pairsOf value
          | .items _ nodes => do
            let lists ← nodes.mapM fun n => do
              let _ ← pairsOf n
              flatten n [] fuel
              pairsOf n
            pure lists.reverse.flatten
          | .scalar _ _ => malformed
        flatten i (merged ++ found) fuel
    | _ => malformed

/-- More steps than there are keys that merge. -/
def mergeSteps (nodes : Array Node) : Nat :=
  2 + nodes.foldl (fun n node => n + match node with
    | .entries _ pairs => pairs.length
    | _ => 0) 0

/-! ## Parts -/

/-- The text of a scalar. A mapping has the text of its usual value. -/
def textOf (i : Nat) : Nat → Build String
  | 0 => throw .tooDeep
  | fuel + 1 => do
    match ← node i with
    | .scalar _ s => return s
    | .entries _ pairs =>
      match splitAt (← get).nodes .usual pairs with
      | some (_, value, _) => textOf value fuel
      | none => malformed
    | .items _ _ => malformed

/-- Whether a node is a scalar. -/
def Node.isScalar : Node → Bool
  | scalar _ _ => true
  | _ => false

/-- The types of lists and mappings. -/
def Tag.isWhole (tag : Tag) : Bool := [items, entries, members, pairs].contains tag

/-- The types of keys that have a meaning of their own, and the types without values. -/
def Tag.isSpecial (tag : Tag) : Bool := [merge, usual, other].contains tag

/-- What a node amounts to. The word for no number is one value wherever it stands. -/
def build (i : Nat) : Build Part := do
  match (← get).parts[i]?.join with
  | some p => return p
  | none =>
    let n ← node i
    if n.tag.isWhole then
      modify fun s => { s with pending := i :: s.pending }
      setPart i (.whole i)
    else
      if n.tag.isSpecial then malformed
      let count := (← get).nodes.size
      let text ← textOf i (count + 1)
      if n.tag = .moment && !n.isScalar then throw (.scalar .noText)
      let v ← scalarOf n.tag text
      setPart i (.value v (if n.tag = .float && isNoNumber text then count else i))

/-! ## Lists and mappings -/

/-- A value that has no equal but itself. -/
def isNaN : Value → Bool
  | .real x => x.isNaN
  | _ => false

/-- Whether two keys are the same. What is no number is the same only where it has one origin. -/
def isSameKey (key other : Value) (origin otherOrigin : Nat) : Bool :=
  key.sameKey other || (isNaN key && isNaN other && origin == otherOrigin)

/-- An entry of a mapping that is being filled. -/
structure BuiltEntry where
  key : Value
  origin : Nat
  value : Part

/-- Sets an entry, where the entries are given from the last to the first. -/
def putEntry (entries : List BuiltEntry) (e : BuiltEntry) : List BuiltEntry :=
  let same (old : BuiltEntry) := isSameKey old.key e.key old.origin e.origin
  if entries.any same then
    entries.map fun old => if same old then { old with value := e.value } else old
  else e :: entries

/-- The entries of a mapping. -/
def builtEntries (i : Nat) : Build (List BuiltEntry) := do
  let _ ← pairsOf i
  flatten i [] (← get).steps
  let entries ← (← pairsOf i).foldlM (fun entries (keyNode, valueNode) => do
    match ← build keyNode with
    | .value key origin => return putEntry entries ⟨key, origin, ← build valueNode⟩
    | .whole _ => malformed) []
  return entries.reverse

/-- The only entry of a mapping that stands for a pair. -/
def builtPair (i : Nat) : Build (Part × Part) := do
  match ← pairsOf i with
  | [(key, value)] =>
    let key ← build key
    return (key, ← build value)
  | _ => malformed

/-- The numbers of the items of a list. -/
def itemsOf (i : Nat) : Build (List Nat) := do
  match ← node i with
  | .items _ nodes => return nodes
  | _ => malformed

/-- Finds what a list or a mapping consists of. -/
def fill (i : Nat) : Build Unit := do
  let content ← match ← tagOf i with
    | .items => Content.list <$> (← itemsOf i).mapM build
    | .pairs => Content.pairs <$> (← itemsOf i).mapM builtPair
    | .members => (fun es => .set (es.map (·.key))) <$> builtEntries i
    | _ => (fun es => .dict (es.map fun e => (e.key, e.value))) <$> builtEntries i
  setContent i content

/-- Fills what is to be filled; every node has its turn once. -/
def fillAll : Nat → Build Unit
  | 0 => malformed
  | rounds + 1 => do
    let pending := (← get).pending
    if pending.isEmpty then return
    modify fun s => { s with pending := [] }
    pending.reverse.forM fill
    fillAll rounds

/-- Everything that a document amounts to. -/
def Document.contents (d : Document) : Scan Contents := do
  let count := d.nodes.size
  let (root, s) ← (do
      let root ← build d.root
      fillAll (count + 1)
      return root : Build Part).run
    { nodes := d.nodes
      steps := mergeSteps d.nodes
      parts := Array.replicate count none
      contents := Array.replicate count none }
  return ⟨s.contents, root⟩

end DocLinks.Yaml
