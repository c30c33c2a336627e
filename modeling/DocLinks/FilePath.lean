/-!
# Paths of the file system

A path is a number of leading slashes and a list of names. Reading a path from text drops empty
names and single dots; `..` stays, since what it means depends on the tree.

## Contents
- `ofString`, `text`: reading and writing paths.
- `join`, `parent`, `name`, `suffix`: a path's parts.
- `resolve`: the absolute path with every `..` carried out.
- `isBelow`: containment, name by name.
-/

namespace DocLinks

/-- A path: relative without leading slashes, absolute with one of them or with two. -/
structure FilePath where
  slashes : Nat
  names : List String
  deriving DecidableEq, Repr, Inhabited

namespace FilePath

/-- The names of a path in text, less those that stay in place. -/
def namesOf (cs : List Char) : List String :=
  ((cs.splitOn '/').map String.ofList).filter fun n => n ≠ "" ∧ n ≠ "."

/-- Reads a path. More than two leading slashes count as one. -/
def ofChars (cs : List Char) : FilePath :=
  let n := (cs.takeWhile (· == '/')).length
  ⟨if n ≤ 2 then n else 1, namesOf cs⟩

/-- Reads a path. -/
def ofString (s : String) : FilePath := ofChars s.toList

/-- The path as text; a relative path without names is a dot. -/
def text (p : FilePath) : String :=
  if p.slashes = 0 ∧ p.names = [] then "."
  else String.ofList (List.replicate p.slashes '/') ++ "/".intercalate p.names

/-- The absolute path with the given names. -/
def absolute (names : List String) : FilePath := ⟨1, names⟩

def isAbsolute (p : FilePath) : Bool := p.slashes ≠ 0

/-- A path seen from a directory; an absolute one is the same from everywhere. -/
def join (dir p : FilePath) : FilePath :=
  if p.isAbsolute then p else { dir with names := dir.names ++ p.names }

/-- The last name, empty if there is none. -/
def name (p : FilePath) : String := p.names.getLast?.getD ""

/-- The path without its last name. -/
def parent (p : FilePath) : FilePath := { p with names := p.names.dropLast }

/-- The path of a name in a directory. -/
def child (p : FilePath) (name : String) : FilePath := { p with names := p.names ++ [name] }

/-- The extension of a file name: from the last dot on, if that is neither the first nor the last
character. -/
def suffixOf (name : String) : String :=
  let after := (name.toList.reverse.takeWhile (· != '.')).reverse
  let dot := name.length - after.length
  if after.isEmpty ∨ dot ≤ 1 then "" else "." ++ String.ofList after

/-- The extension of the last name. -/
def suffix (p : FilePath) : String := suffixOf p.name

/-- Whether a name holds a null character, which no file has in its name. -/
def hasNull (p : FilePath) : Bool := p.names.any fun n => n.toList.contains '\x00'

/-- One step of a walk from the root; the names walked are listed last first. -/
def step (walked : List String) (name : String) : List String :=
  if name = ".." then walked.tail else name :: walked

/-- The names of a path after the steps back are carried out. -/
def resolveNames (names : List String) : List String := (names.foldl step []).reverse

/-- The absolute path that a path means, seen from the directory with names `cwd`. -/
def resolve (cwd : List String) (p : FilePath) : FilePath :=
  absolute (resolveNames (if p.isAbsolute then p.names else cwd ++ p.names))

/-- Whether a path is a container or lies below it. -/
def isBelow (container p : FilePath) : Bool := container.names.isPrefixOf p.names

end FilePath

end DocLinks
