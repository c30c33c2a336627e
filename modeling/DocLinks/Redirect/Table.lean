import DocLinks.Assoc
import DocLinks.Redirect.Entry
import DocLinks.FilePath

/-!
# The redirect table

A table is a list of entries with the file that they come from, if there is one.

## Contents
- `fromTo`, `toFrom`, `forServer`: the views of a table. Of two entries with one source the later
  one counts; a destination has all its sources.
- `findEntry?`, `hasSource`, `findTarget?`: look-ups. A path is looked up as it is, without a
  leading slash, without its extension, and without both.
-/

namespace DocLinks

open Text

/-- The redirects of a project and the file that they are recorded in. -/
structure RedirectTable where
  entries : List RedirectEntry
  file : Option FilePath
  deriving DecidableEq, Inhabited

namespace RedirectTable

/-- The table without redirects and without a file. -/
def empty : RedirectTable := ⟨[], none⟩

/-- The table of a configuration text. -/
def ofText (content : String) (file : Option FilePath) : RedirectTable :=
  ⟨Redirect.parseEntries content, file⟩

variable (t : RedirectTable)

/-- The number of entries. -/
def size : Nat := t.entries.length

/-- The destination of every source. -/
def fromTo : Assoc String String := Assoc.ofList (t.entries.map fun e => (e.rawFrom, e.rawTo))

/-- The sources of every destination. -/
def toFrom : Assoc String (List String) :=
  Assoc.group (t.entries.map fun e => (e.rawTo, e.rawFrom))

/-- The published destination of every published source. -/
def forServer : Assoc String String :=
  Assoc.ofList (t.entries.map fun e => (e.fromPath, e.toPath))

/-- The last entry with the given source. -/
def findEntry? (source : String) : Option RedirectEntry :=
  t.entries.reverse.find? (·.rawFrom = source)

/-- Whether a source is redirected. -/
def hasSource (source : String) : Bool := (t.fromTo.get? source).isSome

/-- The spellings under which a path may be redirected, in the order in which they are tried. -/
def variants (path : String) : List String :=
  let unslashed : List Char := match path.toList with
    | '/' :: rest => rest
    | cs => cs
  let bare := replaceEnd ".md".toList []
  [path, .ofList unslashed, onChars bare path, .ofList (bare unslashed)]

/-- The destination of a path under the first spelling that is redirected. -/
def findTarget? (path : String) : Option String := (variants path).findSome? t.fromTo.get?

/-- A path is found if one of its spellings is a source. -/
theorem isSome_findTarget? {path spelling : String} (hspelling : spelling ∈ variants path)
    (h : (t.fromTo.get? spelling).isSome) : (t.findTarget? path).isSome :=
  List.findSome?_isSome_iff.2 ⟨spelling, hspelling, h⟩

end RedirectTable

end DocLinks
