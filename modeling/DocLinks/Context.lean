import DocLinks.Project.FileIndex
import DocLinks.Project.Root
import DocLinks.Redirect.Table
import DocLinks.Markdown.Document

/-!
# The context of a check

What the stages of a check share: the root of the project, its redirects, and two memories that
spare reading files again. The memories are emptied on request only; they do not notice that a file
has changed.

## Contents
- `Context`, `Context.create`.
- `Context.hasFile`, `Context.path`: the files of the project.
- `headingsOf`, `fileIndex`: remembered look-ups.
- `documentLinks`, `fileText`, `fileTextIn`: reading documents that are not remembered.
-/

namespace DocLinks

/-- The root of a project, the folders that are passed over, the redirects, and what is remembered
of the files. -/
structure Context where
  root : FilePath
  excludeDirs : List Value
  table : Option RedirectTable
  headings : Assoc String FileHeadings := []
  index : Option FileIndex := none
  deriving Inhabited

namespace Context

/-- The context of a project whose root is valid. -/
def create (t : FileTree) (root : FilePath) (table : Option RedirectTable)
    (excludeDirs : List Value) : Except Fault Context := do
  let root ← validateRoot t root
  return { root, excludeDirs, table }

/-- The place of a document path. -/
def path (c : Context) (relative : String) : FilePath := projectPath c.root relative

/-- Whether a document path is a file. -/
def hasFile (c : Context) (t : FileTree) (relative : String) : Bool := t.hasFile c.root relative

/-- The context without its memory of headings. -/
def clearHeadings (c : Context) : Context := { c with headings := [] }

/-- The context without its index. -/
def clearIndex (c : Context) : Context := { c with index := none }

/-- The context without any memory. -/
def reset (c : Context) : Context := c.clearHeadings.clearIndex

end Context

/-- The links of a document, with a note on how many there are. -/
def documentLinks {σ : Type} (relative content : String) : Work σ FileLinks := do
  let links := Markdown.parseLinks relative content
  Work.report
    { level := .debug
      logger := loggerOf "parsers.markdown"
      message := "Parsed " ++ toString links.links.length ++ " link(s) from " ++ relative }
  return links

/-- The text of the file at a path. -/
def fileText {σ : Type} (p : FilePath) (limit : Limit) : Work σ String := do
  Work.ofExcept (((← Work.tree).read p limit).mapError .file)

/-- The text of the file at a path in an encoding that is given by its name. -/
def fileTextIn {σ : Type} (p : FilePath) (limit : Limit) (encoding : String) : Work σ String := do
  let t ← Work.tree
  Work.ofExcept ((t.checkSize limit p).mapError .file)
  if encoding.toList.contains '\x00' then Work.fail (.encoding .nullByte)
  let c ← Work.ofExcept ((t.open? p).mapError .file)
  let e ← Work.ofExcept ((Text.Encoding.ofName encoding).mapError .encoding)
  Work.ofExcept ((e.decode c.bytes).mapError fun
    | .flaw f => .file (.undecodable f)
    | .text f => .text f)

/-- The headings of a document, read once and remembered; nothing if there is no such file. -/
def headingsOf (relative : String) : Work Context (Option FileHeadings) := do
  let c ← Work.scope
  match c.headings.get? relative with
  | some h => return some h
  | none =>
    if !c.hasFile (← Work.tree) relative then return none
    let content ← fileText (c.path relative) FileTree.defaultLimit
    let h := Markdown.parseHeadings relative content
    Work.modifyScope fun c => { c with headings := c.headings.put relative h }
    return some h

/-- The index of the pages, built when it is first asked for. -/
def fileIndex : Work Context FileIndex := do
  let c ← Work.scope
  match c.index with
  | some i => return i
  | none =>
    let files ← Work.ofExcept ((← Work.tree).scan c.root [".md"] c.excludeDirs)
    let i := FileIndex.ofFiles files
    Work.modifyScope fun c => { c with index := some i }
    Work.report
      { level := .debug
        logger := loggerOf "core.context"
        message := "Indexed " ++ toString i.size ++ " candidate file(s)" }
    return i

end DocLinks
