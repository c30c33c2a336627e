import DocLinks.Target
import DocLinks.Work
import DocLinks.Text.Lines

/-!
# The navigation tree

A navigation file is a nested list of links. The depth of an item is half the width of its
indentation, and an item belongs to the nearest item above it that is less deep.

## Contents
- `NavItem`, `parseItem?`: one line of the list.
- `NavEntry`, `forest`: the tree. The first item takes the deeper ones that follow it directly as
  its children; the rest of the list goes on beside it.
- `NavStructure`, `flatten`, `entriesFor`, `missing`: the whole file and questions to it.
- `parseFile`: reading the file of a project.
-/

namespace DocLinks

open Text

/-- One item of a navigation list. -/
structure NavItem where
  title : String
  path : String
  line : Nat
  depth : Nat
  deriving DecidableEq, Repr, Inhabited

/-- An item with the items that belong to it. -/
inductive NavEntry where
  | node (item : NavItem) (children : List NavEntry)
  deriving Inhabited

namespace NavEntry

def item : NavEntry → NavItem
  | node i _ => i

def children : NavEntry → List NavEntry
  | node _ cs => cs

mutual

/-- The items of an entry, the entry itself first, then those below it. -/
def items : NavEntry → List NavItem
  | node i cs => i :: itemsOf cs

/-- The items of several entries, one entry after the other. -/
def itemsOf : List NavEntry → List NavItem
  | [] => []
  | e :: es => items e ++ itemsOf es

end

end NavEntry

namespace Navigation

/-- The width of one level of indentation. -/
def indentUnit : Nat := 2

/-- What stands between an opening bracket that was read and the next closing one; it may not be
empty. -/
def enclosed? (close : Char) (cs : List Char) : Option (List Char × List Char) :=
  let inside := cs.takeWhile (· != close)
  match cs.dropWhile (· != close) with
  | _ :: rest => if inside.isEmpty then none else some (inside, rest)
  | [] => none

/-- The title and the target of `* [title](target)`, after the indentation. -/
def bullet? (cs : List Char) : Option (List Char × List Char) :=
  match cs with
  | b :: rest =>
    if (b = '*' ∨ b = '-') ∧ (rest.head?.any isBlank) then
      match rest.dropWhile isBlank with
      | '[' :: rest =>
        match enclosed? ']' rest with
        | some (title, '(' :: rest) => (enclosed? ')' rest).map fun (target, _) => (title, target)
        | _ => none
      | _ => none
    else none
  | [] => none

/-- The item of a line, if it is one. -/
def parseItem? (numbered : Nat × List Char) : Option NavItem :=
  let line := numbered.2
  (bullet? (line.dropWhile isBlank)).map fun (title, target) =>
    { title := .ofList (trim title)
      path := .ofList (Target.clean (trim target))
      line := numbered.1
      depth := (line.takeWhile isBlank).length / indentUnit }

/-- The items of a text. -/
def parseItems (content : String) : List NavItem :=
  (numberFrom 1 (linesOf content)).filterMap parseItem?

/-- The entries that a list of items makes. -/
def forest : List NavItem → List NavEntry
  | [] => []
  | i :: rest =>
    .node i (forest (rest.takeWhile (i.depth < ·.depth))) ::
      forest (rest.dropWhile (i.depth < ·.depth))
termination_by is => is.length
decreasing_by
  · have := (List.takeWhile_sublist (fun j : NavItem => decide (i.depth < j.depth))
      (l := rest)).length_le
    simp only [List.length_cons]
    omega
  · have := (List.dropWhile_sublist (fun j : NavItem => decide (i.depth < j.depth))
      (l := rest)).length_le
    simp only [List.length_cons]
    omega

end Navigation

/-- A navigation file: its entries, and all their paths in the order of the lines. -/
structure NavStructure where
  entries : List NavEntry
  allPaths : List String
  deriving Inhabited

namespace NavStructure

/-- The navigation of a text. -/
def ofText (content : String) : NavStructure :=
  let items := Navigation.parseItems content
  ⟨Navigation.forest items, items.map (·.path)⟩

/-- All items, an entry before those below it. -/
def flatten (s : NavStructure) : List NavItem := NavEntry.itemsOf s.entries

/-- The items whose path is the given one, in any letter case. -/
def entriesFor (s : NavStructure) (path : String) : List NavItem :=
  s.flatten.filter fun i => lowercase i.path = lowercase path

/-- The items whose path does not exist. -/
def missing (s : NavStructure) (exist : String → Bool) : List NavItem :=
  s.flatten.filter fun i => !exist i.path

/-- The paths of the file, sorted and each once. -/
def paths (s : NavStructure) : List String :=
  (s.allPaths.mergeSort fun a b => decide (a ≤ b)).eraseDups

end NavStructure

/-- Reads the navigation file at a path. -/
def Navigation.parseFile {σ : Type} (p : FilePath) : Work σ NavStructure := do
  match (← Work.tree).read p FileTree.defaultLimit with
  | .error f => Work.fail (.navigation p.text f)
  | .ok content =>
    let s := NavStructure.ofText content
    Work.report
      { level := .debug
        logger := loggerOf "parsers.navigation"
        message := "Parsed " ++ toString s.allPaths.length ++ " navigation entries from " ++ p.text }
    return s

end DocLinks
