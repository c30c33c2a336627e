import DocLinks.Project.Resolve

/-!
# Published pages

Whether a path of the published site is served by a project: from the built book if there is one,
or else from the source page that would be published there.

## Contents
- `servesPath`: a path is served by the book or by a source page.
- `redirectConflicts`: a redirect would hide a page that still exists.
-/

namespace DocLinks

open Text

/-- A path that may mean a directory: it ends in a slash or has no dot. -/
def looksLikeFolder (path : List Char) : Bool := ['/'].isSuffixOf path || !path.contains '.'

/-- Whether a built book holds a page for a path. -/
def bookServes (t : FileTree) (book : FilePath) (path : List Char) : Bool :=
  let bare := dropEndWhile (· == '/') path
  t.isFolder book &&
    (t.isFile (book.join (.ofChars path)) ||
      (looksLikeFolder path &&
        (t.isFile ((book.join (.ofChars path)).child "index.html") ||
          t.isFile (book.join (.ofChars (bare ++ ".html".toList))))))

/-- Whether the sources hold a page for a path. -/
def sourceServes (t : FileTree) (root : FilePath) (path : List Char) : Bool :=
  let bare := dropEndWhile (· == '/') path
  let page := replaceEnd "/index.md".toList "/README.md".toList
    (replaceEnd ".html".toList pageExtension path)
  t.hasFile root (.ofList page) ||
    (looksLikeFolder path &&
      (t.hasFile root (.ofList (DocPath.join path readme)) ||
        t.hasFile root (.ofList (bare ++ pageExtension))))

/-- Where the built book of a project is unless it is said to be elsewhere. -/
def defaultBook (root : FilePath) : FilePath := root.child "_book"

/-- Whether a path of the site is served by a project. -/
def servesPath (t : FileTree) (root : FilePath) (book : Option FilePath) (url : String) : Bool :=
  let path := DocPath.unrooted url.toList
  bookServes t (book.getD (defaultBook root)) path || sourceServes t root path

/-- A published path without its leading slashes and its extension. -/
def bareUrl (url : String) : List Char :=
  replaceEnd ".html".toList [] (DocPath.unrooted url.toList)

/-- Whether the source of a redirect still exists as a page of its own. A page that is moved into
its own directory is none. -/
def redirectConflicts (t : FileTree) (root : FilePath) (source destination : String) : Bool :=
  let source := bareUrl source
  let moved := [source, source ++ "/README".toList, source ++ "/index".toList]
  !moved.contains (bareUrl destination) && t.hasFile root (.ofList (source ++ pageExtension))

end DocLinks
