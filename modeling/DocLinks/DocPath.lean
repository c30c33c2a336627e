import DocLinks.Text.Blank
import DocLinks.Text.Ends

/-!
# Document paths

A document path is text: names separated by slashes, relative to the root of the project unless it
starts with a slash. All operations here are on the text alone.

## Contents
- `directory`, `baseName`, `splitExtension`: the parts of a path.
- `collapse`: the walk along the names of a path, where `.` and empty names do not move and `..`
  goes back one step, or stays written when there is none to go back.
- `join`, `relative`: a path seen from a directory, and the way from a directory to a path.
- `normalize`, `toPublished`, `toSource`: spellings of one path.
-/

namespace DocLinks.DocPath

open Text

/-- The names of a path, the empty ones included. -/
def names (p : List Char) : List (List Char) := p.splitOn '/'

/-- The path with the given names. -/
def ofNames (ns : List (List Char)) : List Char := ['/'].intercalate ns

/-- The last name: what follows the last slash. -/
def baseName (p : List Char) : List Char := (p.reverse.takeWhile (· != '/')).reverse

/-- Everything up to the last slash, which is included. -/
def upToSlash (p : List Char) : List Char := dropEndWhile (· != '/') p

theorem upToSlash_append_baseName (p : List Char) : upToSlash p ++ baseName p = p := by
  rw [upToSlash, baseName, dropEndWhile, ← List.reverse_append, List.takeWhile_append_dropWhile,
    List.reverse_reverse]

/-- The directory part: what precedes the last slash, without trailing slashes unless there is
nothing else. -/
def directory (p : List Char) : List Char :=
  let head := upToSlash p
  if head.all (· == '/') then head else dropEndWhile (· == '/') head

/-- The extension of a name: from its last dot on. Dots at the start of the name begin no
extension. -/
def extension (p : List Char) : List Char :=
  let rest := (baseName p).dropWhile (· == '.')
  if '.' ∈ rest then '.' :: (rest.reverse.takeWhile (· != '.')).reverse else []

/-- The last name without its extension. -/
def stem (p : List Char) : List Char :=
  let base := baseName p
  base.take (base.length - (extension p).length)

/-- The current directory. -/
def here : List Char := ['.']

/-- The parent directory. -/
def up : List Char := ['.', '.']

/-- One step of a walk. The names walked so far are listed last first; above the root of a rooted
walk there is nothing, and an unrooted walk writes down the steps that it cannot take back. -/
def climb (rooted : Bool) (walked : List (List Char)) (name : List Char) : List (List Char) :=
  if name = [] ∨ name = here then walked
  else if name = up then
    match walked with
    | [] => if rooted then [] else [up]
    | last :: rest => if last = up then up :: walked else rest
  else name :: walked

/-- The names of a path after the walk along them. -/
def collapsedNames (rooted : Bool) (ns : List (List Char)) : List (List Char) :=
  (ns.foldl (climb rooted) []).reverse

/-- The slashes that a collapsed path starts with: two leading slashes are kept, any other number
of them is one. -/
def leadingSlashes (p : List Char) : List Char :=
  match p with
  | '/' :: '/' :: '/' :: _ => ['/']
  | '/' :: '/' :: _ => ['/', '/']
  | '/' :: _ => ['/']
  | _ => []

/-- The path with every redundant step removed; nothing at all is written as a dot. -/
def collapse (p : List Char) : List Char :=
  let lead := leadingSlashes p
  let result := lead ++ ofNames (collapsedNames (!lead.isEmpty) (names p))
  if result.isEmpty then here else result

/-- A path seen from a directory. A rooted path is the same from everywhere. -/
def join (dir p : List Char) : List Char :=
  match p with
  | '/' :: _ => p
  | _ => if dir.isEmpty ∨ ['/'].isSuffixOf dir then dir ++ p else dir ++ '/' :: p

/-- The names from the root of the file system to a path, given those to the current directory. -/
def absoluteNames (cwd : List (List Char)) (p : List Char) : List (List Char) :=
  match p with
  | '/' :: _ => collapsedNames true (names p)
  | _ => collapsedNames true (cwd ++ names p)

/-- The number of leading items that two lists share. -/
def sharedLength : List (List Char) → List (List Char) → Nat
  | a :: as, b :: bs => if a = b then sharedLength as bs + 1 else 0
  | _, _ => 0

/-- The way from one place to another: up to where the two part, and down from there. -/
def wayBetween (start target : List (List Char)) : List (List Char) :=
  let n := sharedLength start target
  List.replicate (start.length - n) up ++ target.drop n

/-- The way from a directory to a path; staying in place is written as a dot. -/
def relative (cwd : List (List Char)) (target start : List Char) : List Char :=
  let way := wayBetween (absoluteNames cwd start) (absoluteNames cwd target)
  if way.isEmpty then here else ofNames way

/-- Forward slashes only, no trailing ones, and no leading step that stays in place. -/
def normalize (p : List Char) : List Char :=
  match dropEndWhile (· == '/') (replaceChar '\\' '/' p) with
  | '.' :: '/' :: rest => rest
  | q => q

/-- The path under which a source page is published: a page that introduces its directory is
published as the directory. -/
def toPublished (p : List Char) : List Char :=
  replaceEnd "/README.html".toList ['/'] (replaceEnd ".md".toList ".html".toList p)

/-- The path of the source page that is published under a path. -/
def toSource (p : List Char) : List Char :=
  let q := replaceEnd "/index.md".toList "/README.md".toList
    (replaceEnd ".html".toList ".md".toList p)
  if ['/'].isSuffixOf q then q ++ "README.md".toList else q

/-- The path without its leading slashes. -/
def unrooted (p : List Char) : List Char := p.dropWhile (· == '/')

end DocLinks.DocPath
