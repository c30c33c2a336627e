import DocLinks.FileTree
import DocLinks.Target

/-!
# Resolving links

The way between a link in a document and the file that it means.

## Contents
- `projectPath`, `FileTree.hasFile`: the files of a project by their document paths.
- `plainResolution`: the path that a target spells, from the root of the project if the target
  starts with a slash and from the directory of the document otherwise.
- `resolveLink`: the file that a target means. A target without an extension may leave out `.md`, or
  name a directory that has a `README.md`.
- `relativeLink`: the target that leads from one document to another.
-/

namespace DocLinks

open Text

/-- The place of a document path in the file system. -/
def projectPath (root : FilePath) (path : String) : FilePath :=
  root.join (.ofChars (DocPath.unrooted path.toList))

/-- Whether a document path is a file of the project. -/
def FileTree.hasFile (t : FileTree) (root : FilePath) (path : String) : Bool :=
  t.isFile (projectPath root path)

/-- The collapsed path, empty if it stays in place. -/
def collapseOrEmpty (p : List Char) : List Char :=
  if p.isEmpty then []
  else
    let q := DocPath.collapse p
    if q = DocPath.here then [] else q

/-- The path that a target spells, seen from a document. Backslashes count as slashes. -/
def plainResolution (source target : List Char) : List Char :=
  let target := replaceChar '\\' '/' target
  match target with
  | '/' :: _ => collapseOrEmpty (DocPath.unrooted (DocPath.normalize target))
  | _ => collapseOrEmpty (DocPath.join (DocPath.directory source) (DocPath.normalize target))

/-- What a link means: a document path, whether it is a file, and the link's own words. -/
structure ResolvedPath where
  resolved : String
  isFile : Bool
  target : String
  anchor : Option String
  deriving DecidableEq, Repr, Inhabited

/-- The file name of a page that introduces its directory. -/
def readme : List Char := "README.md".toList

/-- The extension of pages. -/
def pageExtension : List Char := ".md".toList

/-- The path itself, if it has an extension or is a file; otherwise the page of that name or the
introduction of that directory, whichever is a file. -/
def withFallback (t : FileTree) (root : FilePath) (plain : List Char) : List Char :=
  if !(DocPath.extension plain).isEmpty ∨ t.hasFile root (.ofList plain) then plain
  else if !plain.isEmpty ∧ t.hasFile root (.ofList (plain ++ pageExtension)) then
    plain ++ pageExtension
  else if t.hasFile root (.ofList (DocPath.join plain readme)) then DocPath.join plain readme
  else plain

/-- The file that a target means in a document. A target without a path means the document
itself. -/
def resolveLink (t : FileTree) (root : FilePath) (source target : String) : ResolvedPath :=
  let (path, anchor) := Target.splitAnchor target.toList
  let resolved :=
    if path.isEmpty then source
    else .ofList (withFallback t root (plainResolution source.toList path))
  { resolved
    isFile := t.hasFile root resolved
    target
    anchor := anchor.map .ofList }

/-- The target that leads from a document to a path: it starts with a dot. `cwd` is where both are
seen from. -/
def relativeTarget (cwd : List (List Char)) (source path : List Char) : List Char :=
  let way := DocPath.relative cwd path (DocPath.directory source)
  if ['.'].isPrefixOf way ∨ ['/'].isPrefixOf way then way else '.' :: '/' :: way

/-- The target that leads from a document to a path, if the path is not empty. -/
def relativeLink? (cwd : List String) (source path : String) : Option String :=
  if path = "" then none
  else some (.ofList (relativeTarget (cwd.map String.toList) source.toList path.toList))

end DocLinks
