import DocLinks.Config.Yaml.Content

/-!
# YAML

A reader for YAML texts that hold one document. A text becomes tokens, tokens become nodes, and
nodes become values. A tag gives a node its type; without one, quoted text is text and the text of a
plain scalar tells its type.

Lists and mappings that refer to each other by number are written as one value. What stands in several
places or in itself carries its number as a label; in itself only the label stands.

## Contents
- `Contents.uses`: how often lists and mappings are put in.
- `Contents.value`: the value of the whole.
- `parse`: the value of a text. A text without a document has none.
-/

namespace DocLinks.Yaml

/-- The parts of a list or a mapping that may have parts of their own. -/
def Content.parts : Content → List Part
  | list items => items
  | pairs items => items.flatMap fun (a, b) => [a, b]
  | dict entries => entries.map Prod.snd
  | set _ => []

/-- Whether a list or something that counts as one is meant. -/
def Content.isList : Content → Bool
  | list _ | pairs _ => true
  | _ => false

namespace Contents

variable (c : Contents)

/-- What the list or the mapping with a number consists of. -/
def get? (i : Nat) : Option Content := c.contents[i]?.join

/-- Counts one more use. -/
def countUse (uses : Array Nat) : Part → Array Nat
  | .value _ _ => uses
  | .whole i => uses.modify i (· + 1)

/-- How often every list and every mapping is put in, the whole once more than it stands in
others. -/
def uses : Array Nat :=
  let inside := c.contents.toList.flatMap fun content => (content.map Content.parts).getD []
  (c.root :: inside).foldl countUse (Array.replicate c.contents.size 0)

/-- Values that are known already, by number: those in which nothing stands in itself. -/
abbrev Known := Array (Option Value)

/-- A part as a value, with the labels that stand alone in it; `path` are the numbers of what it is
in. -/
def unfold (uses : Array Nat) (path : List Nat) :
    Nat → Part → StateM Known (Value × List Nat)
  | _, .value v _ => return (v, [])
  | 0, .whole _ => return (.null, [])
  | fuel + 1, .whole i => do
    match (← get)[i]?.join, c.get? i with
    | some v, _ => return (v, [])
    | none, none => return (.null, [])
    | none, some content =>
      if path.contains i then return (.again i content.isList, [i])
      else
        let inner := unfold uses (i :: path) fuel
        let (v, labels) ← match content with
          | .list items => do
            let found ← items.mapM inner
            pure (Value.list (found.map Prod.fst), found.map Prod.snd)
          | .pairs items => do
            let found ← items.mapM fun (a, b) => do return (← inner a, ← inner b)
            pure (.list (found.map fun (a, b) => .tuple [a.1, b.1]),
              found.map fun (a, b) => a.2 ++ b.2)
          | .dict entries => do
            let found ← entries.mapM fun (k, p) => do return (k, ← inner p)
            pure (.dict (found.map fun (k, v) => (k, v.1)), found.map fun (_, v) => v.2)
          | .set members => pure (.set members, [])
        let labels := labels.flatten.eraseDups
        let loops := labels.contains i
        let v := if loops || 1 < uses.getD i 0 then .shared i loops v else v
        if labels.isEmpty then modify fun known => known.setIfInBounds i (some v)
        return (v, labels)

/-- The value of the whole. -/
def value : Value :=
  let known : Known := Array.replicate c.contents.size none
  ((c.unfold c.uses [] (c.contents.size + 1) c.root).run known).1.1

end Contents

/-- The value of a text. If it is only the beginning of what was to be read, `beyond` tells why the
rest is missing. -/
def parse (text : List Char) (beyond : Option Fault) : Scan Value := do
  match ← Document.ofTokens (Tokens.ofText text beyond) with
  | none => return .null
  | some document => return (← document.contents).value

end DocLinks.Yaml
